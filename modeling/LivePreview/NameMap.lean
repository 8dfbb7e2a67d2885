/-!
# Maps keyed by names

A finite map from names to values, kept in ascending order of the names. Names are ordered by code
point, which is also the order of their UTF-8 bytes.

## Main definitions

* `LivePreview.NameMap`: entries in strictly ascending order of their names.
* `LivePreview.NameMap.insert`, `get?`, `ofList`, `union`: the operations.

## Main results

* `LivePreview.NameMap.get?_insert`: what a lookup finds after an insertion.
* `LivePreview.NameMap.get?_union`: what a lookup finds in a union.
* `LivePreview.NameMap.get?_insertAll_eq_some_iff`: what a lookup finds after several insertions.
* `LivePreview.NameMap.ext_get?`: maps with the same lookups are equal.
-/

namespace LivePreview

universe u

/-- A finite map from names to values, in ascending order of the names. -/
structure NameMap (α : Type u) where
  /-- The entries, in ascending order of the names. -/
  entries : List (String × α)
  /-- No name comes twice, and names ascend. -/
  ascending : entries.Pairwise fun a b => a.1 < b.1

namespace NameMap

variable {α : Type u}

/-- The map without entries. -/
def empty : NameMap α := ⟨[], .nil⟩

instance : Inhabited (NameMap α) := ⟨empty⟩

/-- The value under `name` in a list of entries. -/
def find? (name : String) : List (String × α) → Option α
  | [] => none
  | (key, value) :: rest => if key = name then some value else find? name rest

/-- The value under `name`. -/
def get? (m : NameMap α) (name : String) : Option α := find? name m.entries

/-- Whether there is a value under `name`. -/
def contains (m : NameMap α) (name : String) : Bool := (m.get? name).isSome

/-- The names, ascending. -/
def names (m : NameMap α) : List String := m.entries.map (·.1)

/-- The values, in ascending order of their names. -/
def values (m : NameMap α) : List α := m.entries.map (·.2)

/-- The number of entries. -/
def size (m : NameMap α) : Nat := m.entries.length

/-- Whether there is no entry. -/
def isEmpty (m : NameMap α) : Bool := m.entries.isEmpty

/-- Entries with `value` put under `name` at its place in the order. -/
def place (name : String) (value : α) : List (String × α) → List (String × α)
  | [] => [(name, value)]
  | (key, old) :: rest =>
    if name < key then (name, value) :: (key, old) :: rest
    else if key < name then (key, old) :: place name value rest
    else (name, value) :: rest

private theorem eq_or_mem_of_mem_place {name : String} {value : α} {e : String × α} :
    {l : List (String × α)} → e ∈ place name value l → e = (name, value) ∨ e ∈ l
  | [], h => by simpa [place] using h
  | (key, old) :: rest, h => by
      rw [place] at h
      split at h
      · simpa using h
      · split at h
        · rcases List.mem_cons.1 h with h | h
          · exact .inr (by simp [h])
          · exact (eq_or_mem_of_mem_place h).imp_right (List.mem_cons_of_mem _)
        · exact (List.mem_cons.1 h).imp_right (List.mem_cons_of_mem _)

theorem pairwise_place (name : String) (value : α) :
    {l : List (String × α)} → l.Pairwise (fun a b => a.1 < b.1) →
      (place name value l).Pairwise fun a b => a.1 < b.1
  | [], _ => by simp [place]
  | (key, old) :: rest, h => by
      obtain ⟨hkey, hrest⟩ := List.pairwise_cons.1 h
      rw [place]
      split
      · rename_i hlt
        refine List.pairwise_cons.2 ⟨fun e he => ?_, h⟩
        rcases List.mem_cons.1 he with rfl | he
        · exact hlt
        · exact String.lt_trans hlt (hkey e he)
      · split
        · rename_i _ hlt
          refine List.pairwise_cons.2 ⟨fun e he => ?_, pairwise_place name value hrest⟩
          rcases eq_or_mem_of_mem_place he with rfl | he
          · exact hlt
          · exact hkey e he
        · rename_i hn hk
          have heq : name = key :=
            String.le_antisymm (String.not_lt.1 hk) (String.not_lt.1 hn)
          exact List.pairwise_cons.2 ⟨fun e he => heq ▸ hkey e he, hrest⟩

/-- The map with `value` under `name`; a value already there is replaced. -/
def insert (m : NameMap α) (name : String) (value : α) : NameMap α :=
  ⟨place name value m.entries, pairwise_place name value m.ascending⟩

/-- The map with the entries of a list put in one after another, so that a later entry replaces an
earlier one of the same name. -/
def insertAll (m : NameMap α) (l : List (String × α)) : NameMap α :=
  l.foldl (fun m e => m.insert e.1 e.2) m

/-- The map of a list of entries, in which a later entry replaces an earlier one. -/
def ofList (l : List (String × α)) : NameMap α := empty.insertAll l

/-- The union of two maps, in which the second one wins. -/
def union (m n : NameMap α) : NameMap α := m.insertAll n.entries

/-! ### Lookups -/

@[simp] theorem get?_empty (name : String) : (empty : NameMap α).get? name = none := rfl

private theorem find?_place (name other : String) (value : α) :
    (l : List (String × α)) → l.Pairwise (fun a b => a.1 < b.1) →
      find? other (place name value l) = if name = other then some value else find? other l
  | [], _ => rfl
  | (key, old) :: rest, h => by
      rw [place]
      split
      · rfl
      · split
        · rename_i _ hlt
          rw [find?, find?, find?_place name other value rest (List.pairwise_cons.1 h).2]
          by_cases hk : key = other
          · subst hk
            have : name ≠ key := fun e => String.lt_irrefl key (e ▸ hlt)
            simp [this]
          · simp [hk]
        · rename_i hn hk
          have heq : name = key :=
            String.le_antisymm (String.not_lt.1 hk) (String.not_lt.1 hn)
          subst heq
          by_cases ho : name = other <;> simp [find?, ho]

/-- After an insertion a lookup finds the inserted value under its name and the old values under
all others. -/
theorem get?_insert (m : NameMap α) (name other : String) (value : α) :
    (m.insert name value).get? other = if name = other then some value else m.get? other :=
  find?_place name other value m.entries m.ascending

@[simp] theorem get?_insert_self (m : NameMap α) (name : String) (value : α) :
    (m.insert name value).get? name = some value := by
  simp [get?_insert]

theorem get?_insert_of_ne (m : NameMap α) {name other : String} (h : name ≠ other) (value : α) :
    (m.insert name value).get? other = m.get? other := by
  simp [get?_insert, h]

theorem mem_of_find?_eq_some {name : String} {value : α} :
    {l : List (String × α)} → find? name l = some value → (name, value) ∈ l
  | [], h => by simp [find?] at h
  | (key, old) :: rest, h => by
      rw [find?] at h
      split at h
      · rename_i hk
        simp_all
      · exact List.mem_cons_of_mem _ (mem_of_find?_eq_some h)

theorem find?_eq_some_of_mem {name : String} {value : α} :
    {l : List (String × α)} → l.Pairwise (fun a b => a.1 < b.1) → (name, value) ∈ l →
      find? name l = some value
  | (key, old) :: rest, h, hm => by
      obtain ⟨hkey, hrest⟩ := List.pairwise_cons.1 h
      rw [find?]
      rcases List.mem_cons.1 hm with he | hm
      · simp_all
      · have : key ≠ name := fun e => String.lt_irrefl name (e ▸ hkey _ hm)
        simp [this, find?_eq_some_of_mem hrest hm]

theorem get?_eq_some_iff (m : NameMap α) (name : String) (value : α) :
    m.get? name = some value ↔ (name, value) ∈ m.entries :=
  ⟨mem_of_find?_eq_some, find?_eq_some_of_mem m.ascending⟩

theorem mem_values_of_get? {m : NameMap α} {name : String} {value : α}
    (h : m.get? name = some value) : value ∈ m.values :=
  List.mem_map.2 ⟨(name, value), (get?_eq_some_iff m name value).1 h, rfl⟩

theorem find?_eq_none_of_forall_lt {name : String} :
    {l : List (String × α)} → (∀ e ∈ l, name < e.1) → find? name l = none
  | [], _ => rfl
  | (key, value) :: rest, h => by
      have hkey : key ≠ name := fun e => String.lt_irrefl name (e ▸ h _ List.mem_cons_self)
      rw [find?, if_neg hkey]
      exact find?_eq_none_of_forall_lt fun e he => h e (List.mem_cons_of_mem _ he)

private theorem get?_insertAll (name : String) :
    (l : List (String × α)) → l.Pairwise (fun a b => a.1 < b.1) → (m : NameMap α) →
      (m.insertAll l).get? name = (find? name l).or (m.get? name)
  | [], _, m => rfl
  | (key, value) :: rest, h, m => by
      obtain ⟨hkey, hrest⟩ := List.pairwise_cons.1 h
      have ih := get?_insertAll name rest hrest (m.insert key value)
      rw [insertAll, List.foldl_cons, ← insertAll, ih, get?_insert, find?]
      by_cases hk : key = name
      · subst hk
        simp [find?_eq_none_of_forall_lt hkey]
      · simp [hk]

/-- A lookup in a union finds what the second map holds, and else what the first one holds. -/
theorem get?_union (m n : NameMap α) (name : String) :
    (m.union n).get? name = (n.get? name).or (m.get? name) :=
  get?_insertAll name n.entries n.ascending m

/-- What is the last under a name is the first element, or it is the last of the rest. -/
theorem last_cons_iff {rest : List (String × α)} {key name : String} {value old : α} :
    (∃ before since, (key, old) :: rest = before ++ (name, value) :: since ∧
        ∀ e ∈ since, e.1 ≠ name) ↔
      (∃ before since, rest = before ++ (name, value) :: since ∧ ∀ e ∈ since, e.1 ≠ name) ∨
      (∀ e ∈ rest, e.1 ≠ name) ∧ key = name ∧ old = value := by
  constructor
  · rintro ⟨before, since, heq, hsince⟩
    rcases List.cons_eq_append_iff.1 heq with ⟨-, h⟩ | ⟨before', -, rfl⟩
    · cases h
      exact .inr ⟨hsince, rfl, rfl⟩
    · exact .inl ⟨before', since, rfl, hsince⟩
  · rintro (⟨before, since, rfl, hsince⟩ | ⟨hrest, rfl, rfl⟩)
    · exact ⟨(key, old) :: before, since, rfl, hsince⟩
    · exact ⟨[], rest, rfl, hrest⟩

/-- After some insertions a lookup finds the value that was inserted last under its name, and the
old one if there is none. -/
theorem get?_insertAll_eq_some_iff {l : List (String × α)} {m : NameMap α} {name : String}
    {value : α} : (m.insertAll l).get? name = some value ↔
      (∃ before since, l = before ++ (name, value) :: since ∧ ∀ e ∈ since, e.1 ≠ name) ∨
      (∀ e ∈ l, e.1 ≠ name) ∧ m.get? name = some value := by
  induction l generalizing m with
  | nil => simp [insertAll]
  | cons first rest ih =>
    obtain ⟨key, old⟩ := first
    have hinsert : m.insertAll ((key, old) :: rest) = (m.insert key old).insertAll rest := rfl
    rw [hinsert, ih, get?_insert, last_cons_iff, List.forall_mem_cons]
    by_cases hkey : key = name
    · simp [hkey]
    · simp [hkey]

/-- Insertions take no name away. -/
theorem contains_insertAll {m : NameMap α} {name : String} (h : m.contains name = true)
    (l : List (String × α)) : (m.insertAll l).contains name = true := by
  induction l generalizing m with
  | nil => exact h
  | cons first rest ih =>
    refine ih ?_
    rw [contains, get?_insert]
    split
    · rfl
    · exact h

private theorem eq_of_mem_iff : {l l' : List (String × α)} →
    l.Pairwise (fun a b => a.1 < b.1) → l'.Pairwise (fun a b => a.1 < b.1) →
      (∀ e, e ∈ l ↔ e ∈ l') → l = l'
  | [], [], _, _, _ => rfl
  | [], e :: l', _, _, h => by simpa using (h e).2 List.mem_cons_self
  | e :: l, [], _, _, h => by simpa using (h e).1 List.mem_cons_self
  | a :: l, b :: l', ha, hb, h => by
      obtain ⟨ha1, ha2⟩ := List.pairwise_cons.1 ha
      obtain ⟨hb1, hb2⟩ := List.pairwise_cons.1 hb
      have hab : a = b := by
        rcases List.mem_cons.1 ((h a).1 List.mem_cons_self) with e | e
        · exact e
        · rcases List.mem_cons.1 ((h b).2 List.mem_cons_self) with e' | e'
          · exact e'.symm
          · exact absurd (ha1 b e') (String.lt_asymm (hb1 a e))
      subst hab
      congr 1
      refine eq_of_mem_iff ha2 hb2 fun e => ⟨fun he => ?_, fun he => ?_⟩
      · rcases List.mem_cons.1 ((h e).1 (List.mem_cons_of_mem _ he)) with rfl | he'
        · exact absurd (ha1 e he) (String.lt_irrefl _)
        · exact he'
      · rcases List.mem_cons.1 ((h e).2 (List.mem_cons_of_mem _ he)) with rfl | he'
        · exact absurd (hb1 e he) (String.lt_irrefl _)
        · exact he'

/-- Maps with the same lookups are equal. -/
theorem ext_get? {m n : NameMap α} (h : ∀ name, m.get? name = n.get? name) : m = n := by
  obtain ⟨l, hl⟩ := m
  obtain ⟨l', hl'⟩ := n
  have : l = l' := eq_of_mem_iff hl hl' fun ⟨k, v⟩ => by
    rw [← get?_eq_some_iff ⟨l, hl⟩, ← get?_eq_some_iff ⟨l', hl'⟩, h]
  subst this
  rfl

instance [DecidableEq α] : DecidableEq (NameMap α) := fun m n =>
  if h : m.entries = n.entries then isTrue (by cases m; cases n; simp_all)
  else isFalse fun e => h (e ▸ rfl)

end NameMap

end LivePreview
