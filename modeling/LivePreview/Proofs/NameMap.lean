import LivePreview.NameMap
import LivePreview.Proofs.Text.Utf8

/-!
# Names and their bytes

The order of names by their code points is the order of their UTF-8 bytes. A list whose names ascend
is the list of entries of a map.

## Main definitions

* `LivePreview.NameMap.bytes`: the UTF-8 bytes of a name.

## Main results

* `LivePreview.NameMap.lt_iff_bytes`: names are in the order of their bytes.
* `LivePreview.NameMap.get?_ofList_map`: a map made of the changed values of another.
* `LivePreview.NameMap.exists_entries_insert`: a map in which one value is replaced.
-/

namespace LivePreview.NameMap

/-! ### The order of names -/

/-- The UTF-8 bytes of a name. -/
def bytes (name : String) : List UInt8 := name.toUTF8.data.toList

theorem bytes_eq_flatMap (name : String) :
    bytes name = name.toList.flatMap String.utf8EncodeChar := by
  have hbytes : name.toUTF8 = name.toList.utf8Encode := by simp
  rw [bytes, hbytes, List.utf8Encode]
  simp

/-- Names are in the order of their bytes. -/
theorem lt_iff_bytes {a b : String} : a < b ↔ List.Lex (· < ·) (bytes a) (bytes b) := by
  have hbytes {a b : String} (h : a < b) : List.Lex (· < ·) (bytes a) (bytes b) := by
    rw [bytes_eq_flatMap, bytes_eq_flatMap]
    exact Text.lex_flatMap_utf8EncodeChar h
  refine ⟨hbytes, fun h => Classical.byContradiction fun hle => ?_⟩
  have hirrefl (b : UInt8) : ¬ b < b := UInt8.lt_irrefl b
  by_cases hba : b < a
  · exact List.lex_irrefl hirrefl _ (List.lex_trans UInt8.lt_trans h (hbytes hba))
  · obtain rfl : a = b := String.le_antisymm (String.not_lt.1 hba) (String.not_lt.1 hle)
    exact List.lex_irrefl hirrefl _ h

/-! ### Entries -/

variable {α β : Type*}

/-- The values under ascending names are found in the map of the entries. -/
theorem get?_ofList {l : List (String × α)} (h : l.Pairwise fun a b => a.1 < b.1) (name : String) :
    (ofList l).get? name = find? name l := by
  rw [← Option.or_none (o := find? name l)]
  exact get?_union empty ⟨l, h⟩ name

@[simp] theorem ofList_entries (m : NameMap α) : ofList m.entries = m :=
  ext_get? fun name => get?_ofList m.ascending name

theorem find?_map (f : α → β) (name : String) :
    (l : List (String × α)) → find? name (l.map fun e => (e.1, f e.2)) = (find? name l).map f
  | [] => rfl
  | (key, value) :: rest => by
      rw [List.map_cons, find?, find?, find?_map f name rest]
      split <;> rfl

/-- A map made of the changed values of another has them under the same names. -/
theorem get?_ofList_map (m : NameMap α) (f : α → β) (name : String) :
    (ofList (m.entries.map fun e => (e.1, f e.2))).get? name = (m.get? name).map f := by
  have hascending : (m.entries.map fun e => (e.1, f e.2)).Pairwise fun a b => a.1 < b.1 :=
    List.pairwise_map.2 m.ascending
  rw [get?_ofList hascending, find?_map]
  rfl

theorem place_append_cons {name : String} {old : α} (value : α) {before after : List (String × α)}
    (h : (before ++ (name, old) :: after).Pairwise fun a b => a.1 < b.1) :
    place name value (before ++ (name, old) :: after) = before ++ (name, value) :: after := by
  induction before with
  | nil => simp [place]
  | cons first before ih =>
    obtain ⟨hfirst, hrest⟩ := List.pairwise_cons.1 h
    have hlt : first.1 < name := hfirst (name, old) (by simp)
    simp [place, hlt, String.lt_asymm hlt, ih hrest]

/-- A value put under a name that is there takes the place of the old one. -/
theorem exists_entries_insert {m : NameMap α} {name : String} {old : α}
    (h : m.get? name = some old) (value : α) : ∃ before after,
      m.entries = before ++ (name, old) :: after ∧
        (m.insert name value).entries = before ++ (name, value) :: after := by
  obtain ⟨before, after, hentries⟩ := List.append_of_mem ((get?_eq_some_iff m name old).1 h)
  refine ⟨before, after, hentries, ?_⟩
  have hplace := place_append_cons value (hentries ▸ m.ascending)
  rwa [← hentries] at hplace

end LivePreview.NameMap
