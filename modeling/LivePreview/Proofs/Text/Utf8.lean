import Mathlib.Tactic.SplitIfs

/-!
# Texts and their bytes

A text is read from the bytes that it is written in, and from no others. The bytes of two texts are
in the order of their characters.

## Main results

* `LivePreview.Text.fromUTF8?_eq_some_iff`: which bytes are read as a text.
* `LivePreview.Text.lex_flatMap_utf8EncodeChar`: bytes ascend where characters do.
-/

namespace LivePreview.Text

/-- A text is read from its own bytes only. -/
theorem fromUTF8?_eq_some_iff {bytes : ByteArray} {text : String} :
    String.fromUTF8? bytes = some text ↔ text.toUTF8 = bytes := by
  rw [String.fromUTF8?]
  constructor
  · intro h
    split at h
    · obtain rfl := Option.some.inj h
      rfl
    · cases h
  · rintro rfl
    exact dif_pos text.isValidUTF8

theorem toList_loop (bytes : ByteArray) (i : Nat) (r : List UInt8) :
    ByteArray.toList.loop bytes i r = r.reverse ++ bytes.data.toList.drop i := by
  fun_induction ByteArray.toList.loop bytes i r with
  | case1 i r hlt ih =>
    have hi : i < bytes.data.toList.length := by simpa using hlt
    have hget : bytes.get! i = bytes.data.toList[i] := by
      rw [Array.getElem_toList]
      exact getElem!_pos bytes.data i hlt
    rw [ih, List.drop_eq_getElem_cons hi, hget, List.reverse_cons, List.append_assoc]
    rfl
  | case2 i r hle =>
    rw [List.drop_eq_nil_of_le (by simpa using hle), List.append_nil]

/-- The list of bytes is that of the array. -/
theorem toList_eq_data_toList (bytes : ByteArray) : bytes.toList = bytes.data.toList := by
  rw [ByteArray.toList, toList_loop]
  rfl

/-- Bytes are those of a list exactly if they are listed so. -/
theorem eq_mk_toArray_iff {bytes : ByteArray} {l : List UInt8} :
    bytes = ⟨l.toArray⟩ ↔ bytes.toList = l := by
  rw [toList_eq_data_toList, ByteArray.ext_iff]
  constructor
  · intro h
    rw [h]
  · intro h
    rw [← h, Array.toArray_toList]

/-- What comes after two characters does not count for the order of their bytes. -/
theorem lex_utf8EncodeChar_append {c d : Char} (h : c < d) (l r : List UInt8) :
    List.Lex (· < ·) (String.utf8EncodeChar c ++ l) (String.utf8EncodeChar d ++ r) := by
  have hlt : c.val.toNat < d.val.toNat := h
  have hd : d.val.toNat < 0x110000 := by
    rcases d.valid with h | h <;> omega
  simp only [String.utf8EncodeChar]
  generalize c.val.toNat = m at hlt
  generalize d.val.toNat = n at hlt hd
  -- Each character has one to four bytes, and the lower one has no more of them.
  split_ifs <;>
    simp only [List.cons_append, List.nil_append, List.cons_lex_cons_iff, UInt8.lt_iff_toNat_lt,
      ← UInt8.toNat_inj, UInt8.toNat_ofNat'] <;>
    simp (disch := omega) only [Nat.mod_eq_of_lt] <;>
    omega

/-- Bytes ascend where characters do. -/
theorem lex_flatMap_utf8EncodeChar {l r : List Char} (h : List.Lex (· < ·) l r) :
    List.Lex (· < ·) (l.flatMap String.utf8EncodeChar) (r.flatMap String.utf8EncodeChar) := by
  induction h with
  | nil =>
    rename_i c r
    obtain ⟨b, bytes, hbytes⟩ := List.exists_cons_of_ne_nil (String.utf8EncodeChar_ne_nil (c := c))
    rw [List.flatMap_nil, List.flatMap_cons, hbytes]
    exact .nil
  | cons h ih =>
    rw [List.flatMap_cons, List.flatMap_cons]
    exact List.append_left_lt ih
  | rel hlt =>
    rw [List.flatMap_cons, List.flatMap_cons]
    exact lex_utf8EncodeChar_append hlt _ _

end LivePreview.Text
