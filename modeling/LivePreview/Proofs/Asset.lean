import LivePreview.Asset
import LivePreview.Proofs.Text.Utf8
import Mathlib.Data.List.Infix
import Mathlib.Tactic.SplitIfs

/-!
# Inline references

A text in Base64 and the bytes that it stands for determine each other: every group of bytes has one
spelling, and what is no spelling of bytes, such as one whose padding is missing or whose unused
bits are not zero, is not read. So a module text and the address that carries it determine each
other as well.

## Main results

* `LivePreview.Base64.value?_eq_some_iff`: digits and their values.
* `LivePreview.Base64.decode?_eq_some_iff`: a text is read as the bytes that it is written for.
* `LivePreview.Asset.reference_bijective`: an address is read as the text that it carries.
-/

namespace LivePreview

namespace Base64

variable {c : Char} {n : Nat}

/-! ### Digits -/

theorem value?_digit (h : n < 64) : value? (digit n) = some n := by
  have hall : ∀ n : Fin 64, value? (digit n) = some n.val := by decide +kernel
  exact hall ⟨n, h⟩

theorem digit_ne_pad (h : n < 64) : digit n ≠ '=' := by
  have hall : ∀ n : Fin 64, digit n ≠ '=' := by decide +kernel
  exact hall ⟨n, h⟩

theorem toNat_lt_of_value? (h : value? c = some n) : c.toNat < 128 := by
  have hrange {lo hi : Char} (hc : lo ≤ c ∧ c ≤ hi) (hhi : hi.toNat < 128) : c.toNat < 128 :=
    Nat.lt_of_le_of_lt (UInt32.le_iff_toNat_le.1 hc.2) hhi
  rw [value?] at h
  split_ifs at h with hcapital hsmall hdecimal hplus hslash
  · exact hrange hcapital (by decide)
  · exact hrange hsmall (by decide)
  · exact hrange hdecimal (by decide)
  · exact hplus ▸ by decide
  · exact hslash ▸ by decide

theorem digit_of_value? (h : value? c = some n) : n < 64 ∧ digit n = c := by
  have hall : ∀ k : Fin 128, ∀ n ∈ value? (Char.ofNat k), n < 64 ∧ digit n = Char.ofNat k := by
    decide +kernel
  have hc := hall ⟨c.toNat, toNat_lt_of_value? h⟩
  rw [Char.ofNat_toNat] at hc
  exact hc n h

/-- A character has a value exactly if it is a digit. -/
theorem value?_eq_some_iff : value? c = some n ↔ n < 64 ∧ digit n = c :=
  ⟨digit_of_value?, fun ⟨hn, hc⟩ => hc ▸ value?_digit hn⟩

/-! ### Groups -/

variable {w x y z : Char} {rest s : List Char} {bytes : List UInt8}

/-- Four characters of which the last is no padding. -/
theorem decode?_group (hz : z ≠ '=') : decode? (w :: x :: y :: z :: rest) = (do
    let w ← value? w
    let x ← value? x
    let y ← value? y
    let z ← value? z
    let bytes ← decode? rest
    some ((w * 4 + x / 16).toUInt8 :: (x % 16 * 16 + y / 4).toUInt8 ::
      (y % 4 * 64 + z).toUInt8 :: bytes)) := by
  rw [decode?]
  · rintro - rfl
    exact absurd rfl hz
  · rintro rfl
    exact absurd rfl hz

theorem toUInt8_of_eq {a : UInt8} (h : n = a.toNat) : n.toUInt8 = a := by
  rw [h, Nat.toUInt8_eq, UInt8.ofNat_toNat]

theorem toNat_toUInt8 (h : n < 256) : n.toUInt8.toNat = n := by
  rw [Nat.toUInt8_eq, UInt8.toNat_ofNat', Nat.mod_eq_of_lt h]

/-- Bytes are read from the text that is written for them. -/
theorem decode?_encode (bytes : List UInt8) : decode? (encode bytes) = some bytes := by
  fun_induction encode bytes with
  | case1 => rfl
  | case2 a =>
    have ha := a.toNat_lt
    rw [decode?, value?_digit (by omega), value?_digit (by omega)]
    simp only [Option.bind_eq_bind, Option.bind_some]
    rw [if_pos (by omega), toUInt8_of_eq (by omega : _ = a.toNat)]
  | case3 a b =>
    have ha := a.toNat_lt
    have hb := b.toNat_lt
    rw [decode?, value?_digit (by omega), value?_digit (by omega), value?_digit (by omega)]
    · simp only [Option.bind_eq_bind, Option.bind_some]
      rw [if_pos (by omega), toUInt8_of_eq (by omega : _ = a.toNat),
        toUInt8_of_eq (by omega : _ = b.toNat)]
    · exact fun h => digit_ne_pad (by omega) h
  | case4 a b c rest ih =>
    have ha := a.toNat_lt
    have hb := b.toNat_lt
    have hc := c.toNat_lt
    rw [decode?_group (digit_ne_pad (by omega)), value?_digit (by omega), value?_digit (by omega),
      value?_digit (by omega), value?_digit (by omega), ih]
    simp only [Option.bind_eq_bind, Option.bind_some]
    rw [toUInt8_of_eq (by omega : _ = a.toNat), toUInt8_of_eq (by omega : _ = b.toNat),
      toUInt8_of_eq (by omega : _ = c.toNat)]

/-- A text that is read as bytes is the one that is written for them. -/
theorem encode_of_decode? (h : decode? s = some bytes) : encode bytes = s := by
  fun_induction decode? s generalizing bytes with
  | case1 =>
    obtain rfl := Option.some.inj h
    rfl
  | case2 w x =>
    simp only [Option.bind_eq_bind, Option.bind_eq_some_iff, value?_eq_some_iff,
      Option.ite_none_right_eq_some, Option.some.injEq] at h
    obtain ⟨w, ⟨hw, rfl⟩, x, ⟨hx, rfl⟩, hzero, rfl⟩ := h
    rw [encode, toNat_toUInt8 (by omega), (by omega : (w * 4 + x / 16) / 4 = w),
      (by omega : (w * 4 + x / 16) % 4 * 16 = x)]
  | case3 w x y =>
    simp only [Option.bind_eq_bind, Option.bind_eq_some_iff, value?_eq_some_iff,
      Option.ite_none_right_eq_some, Option.some.injEq] at h
    obtain ⟨w, ⟨hw, rfl⟩, x, ⟨hx, rfl⟩, y, ⟨hy, rfl⟩, hzero, rfl⟩ := h
    rw [encode, toNat_toUInt8 (by omega), toNat_toUInt8 (by omega),
      (by omega : (w * 4 + x / 16) / 4 = w),
      (by omega : (w * 4 + x / 16) % 4 * 16 + (x % 16 * 16 + y / 4) / 16 = x),
      (by omega : (x % 16 * 16 + y / 4) % 16 * 4 = y)]
  | case4 w x y z rest hpad hpads ih =>
    simp only [Option.bind_eq_bind, Option.bind_eq_some_iff, value?_eq_some_iff,
      Option.some.injEq] at h
    obtain ⟨w, ⟨hw, rfl⟩, x, ⟨hx, rfl⟩, y, ⟨hy, rfl⟩, z, ⟨hz, rfl⟩, bytes, hbytes, rfl⟩ := h
    rw [encode, ih hbytes, toNat_toUInt8 (by omega), toNat_toUInt8 (by omega),
      toNat_toUInt8 (by omega), (by omega : (w * 4 + x / 16) / 4 = w),
      (by omega : (w * 4 + x / 16) % 4 * 16 + (x % 16 * 16 + y / 4) / 16 = x),
      (by omega : (x % 16 * 16 + y / 4) % 16 * 4 + (y % 4 * 64 + z) / 64 = y),
      (by omega : (y % 4 * 64 + z) % 64 = z)]
  | case5 => cases h

/-- A text is read as bytes exactly if it is the one that is written for them. -/
theorem decode?_eq_some_iff : decode? s = some bytes ↔ encode bytes = s :=
  ⟨encode_of_decode?, fun h => h ▸ decode?_encode bytes⟩

-- Neither the unused bits nor the padding can be spelled in another way.
example : decode? "YQ==".toList = some [97] ∧ decode? "YR==".toList = none ∧
    decode? "YQ".toList = none := by decide +kernel

end Base64

namespace Asset

/-- An address is read as a text exactly if it is the one that carries it. -/
theorem referenced?_eq_some_iff {address text : String} :
    referenced? address = some text ↔ address = reference text := by
  rw [referenced?, reference, eq_comm (a := address), ← String.toList_inj, String.toList_append,
    String.toList_ofList]
  simp only [Option.bind_eq_bind, Option.bind_eq_some_iff, List.isPrefixOf?_eq_some_iff_append_eq,
    Base64.decode?_eq_some_iff, Text.fromUTF8?_eq_some_iff, Text.eq_mk_toArray_iff]
  constructor
  · rintro ⟨payload, haddress, bytes, rfl, rfl⟩
    exact haddress
  · exact fun h => ⟨_, h, _, rfl, rfl⟩

/-- Every module text is read back from the address that carries it, so different texts have
different addresses, and no text is read from any other address. -/
theorem reference_bijective :
    (∀ text : String, referenced? (reference text) = some text) ∧
    Function.Injective reference ∧
    ∀ address text : String, referenced? address = some text ↔ address = reference text := by
  have hread (text : String) : referenced? (reference text) = some text :=
    referenced?_eq_some_iff.2 rfl
  refine ⟨hread, fun text text' h => ?_, fun address text => referenced?_eq_some_iff⟩
  have hsome : some text = some text' := by rw [← hread text, h, hread text']
  exact Option.some.inj hsome

end Asset

end LivePreview
