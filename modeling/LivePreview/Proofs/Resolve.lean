import LivePreview.Resolve

/-!
# The names a resolution looks at

A specifier is resolved by looking at its candidates in order until one is a file of the set. The
names looked at decide the result: a set that holds the same files under them resolves the
specifier in the same way. The record holds exactly these names with their present fingerprints
and is otherwise left as it was.

## Main definitions

* `LivePreview.Resolve.looked`: the names of a list that are looked at.

## Main results

* `LivePreview.Resolve.get?_find`: the record after a resolution.
* `LivePreview.Resolve.find_congr`: the names looked at decide the result.
-/

namespace LivePreview.Resolve

variable {files files' : FileSet}

/-- The names of a list up to the first one that is a file. -/
def looked (files : FileSet) : List String → List String
  | [] => []
  | name :: rest =>
    name :: match files.get? name with
      | some _ => []
      | none => looked files rest

/-- The first file found does not hang on the record. -/
theorem fst_firstFile : (names : List String) → (tried : Tried) →
    (firstFile files names tried).1 = names.findSome? files.get?
  | [], _ => rfl
  | name :: rest, tried => by
      rw [firstFile, List.findSome?_cons]
      cases h : files.get? name with
      | some file => rfl
      | none => exact fst_firstFile rest _

/-- The record after a search holds the names looked at as they are at present, and all other
names as before. -/
theorem get?_firstFile (k : String) : (names : List String) → (tried : Tried) →
    (firstFile files names tried).2.get? k =
      if k ∈ looked files names then some (FileSet.current files k) else tried.get? k
  | [], _ => by simp [firstFile, looked]
  | name :: rest, tried => by
      rw [firstFile, looked]
      cases h : files.get? name with
      | some file =>
          by_cases hk : name = k
          · subst hk
            simp [FileSet.current, h]
          · simp [NameMap.get?_insert, hk, Ne.symm hk]
      | none =>
          simp only [get?_firstFile k rest, NameMap.get?_insert, List.mem_cons]
          by_cases hrest : k ∈ looked files rest
          · simp [hrest]
          · by_cases hk : name = k
            · subst hk
              simp [hrest, FileSet.current, h]
            · simp [hrest, hk, Ne.symm hk]

/-- A file looked at is the one that is found: the search ends there. -/
theorem findSome?_eq_of_mem_looked {k : String} {file : SourceFile} :
    {names : List String} → k ∈ looked files names → files.get? k = some file →
      names.findSome? files.get? = some file
  | name :: rest, hk, hfile => by
      rw [List.findSome?_cons]
      rw [looked] at hk
      cases h : files.get? name with
      | some found =>
          obtain rfl : k = name := by simpa [h] using hk
          exact h.symm.trans hfile
      | none =>
          have hne : k ≠ name := by
            rintro rfl
            simp [hfile] at h
          have hrest : k ∈ looked files rest := by simpa [h, hne] using hk
          exact findSome?_eq_of_mem_looked hrest hfile

/-- A file found is under one of the names looked at. -/
theorem exists_mem_looked_of_findSome? {file : SourceFile} :
    {names : List String} → names.findSome? files.get? = some file →
      ∃ k ∈ looked files names, files.get? k = some file
  | name :: rest, h => by
      rw [List.findSome?_cons] at h
      cases hname : files.get? name with
      | some found =>
          obtain rfl : found = file := by simpa [hname] using h
          exact ⟨name, by simp [looked], hname⟩
      | none =>
          rw [hname] at h
          obtain ⟨k, hk, hfile⟩ := exists_mem_looked_of_findSome? h
          exact ⟨k, by simp [looked, hname, hk], hfile⟩

/-- A search looks at the same names in two sets that agree on them. -/
theorem looked_congr : {names : List String} →
    (∀ k ∈ looked files names, files'.get? k = files.get? k) →
      looked files' names = looked files names
  | [], _ => rfl
  | name :: rest, h => by
      have hname : files'.get? name = files.get? name := h name (by simp [looked])
      rw [looked, looked, hname]
      cases hfile : files.get? name with
      | some file => rfl
      | none =>
          have hrest : looked files' rest = looked files rest :=
            looked_congr fun k hk => h k (by simp [looked, hfile, hk])
          rw [hrest]

theorem findSome?_congr_looked : {names : List String} →
    (∀ k ∈ looked files names, files'.get? k = files.get? k) →
      names.findSome? files'.get? = names.findSome? files.get?
  | [], _ => rfl
  | name :: rest, h => by
      have hname : files'.get? name = files.get? name := h name (by simp [looked])
      rw [List.findSome?_cons, List.findSome?_cons, hname]
      cases hfile : files.get? name with
      | some file => rfl
      | none => exact findSome?_congr_looked fun k hk => h k (by simp [looked, hfile, hk])

/-! ### Specifiers -/

variable (files) (importer specifier : String) (extensions : List String)

/-- The file a specifier stands for. -/
def target? : Option SourceFile :=
  (find files importer specifier extensions NameMap.empty).1

/-- The names looked at for a specifier. -/
def probes : List String :=
  looked files (candidates importer specifier extensions)

variable {files importer specifier extensions}

theorem target?_eq_findSome? :
    target? files importer specifier extensions =
      (candidates importer specifier extensions).findSome? files.get? :=
  fst_firstFile _ _

/-- The file a specifier stands for does not hang on the record. -/
theorem fst_find (tried : Tried) :
    (find files importer specifier extensions tried).1 =
      target? files importer specifier extensions :=
  (fst_firstFile _ _).trans target?_eq_findSome?.symm

/-- The record after a resolution. -/
theorem get?_find (tried : Tried) (k : String) :
    (find files importer specifier extensions tried).2.get? k =
      if k ∈ probes files importer specifier extensions then some (FileSet.current files k)
      else tried.get? k :=
  get?_firstFile k _ _

theorem target?_eq_of_mem_probes {k : String} {file : SourceFile}
    (hk : k ∈ probes files importer specifier extensions) (hfile : files.get? k = some file) :
    target? files importer specifier extensions = some file :=
  target?_eq_findSome?.trans (findSome?_eq_of_mem_looked hk hfile)

theorem exists_mem_probes {file : SourceFile}
    (h : target? files importer specifier extensions = some file) :
    ∃ k ∈ probes files importer specifier extensions, files.get? k = some file :=
  exists_mem_looked_of_findSome? (target?_eq_findSome?.symm.trans h)

/-- In a keyed set a specifier is resolved by the name of its file. -/
theorem mem_probes_of_target? (hfiles : FileSet.Keyed files) {file : SourceFile}
    (h : target? files importer specifier extensions = some file) :
    file.name ∈ probes files importer specifier extensions ∧
      files.get? file.name = some file := by
  obtain ⟨k, hk, hfile⟩ := exists_mem_probes h
  obtain rfl : file.name = k := hfiles k file hfile
  exact ⟨hk, hfile⟩

theorem mem_values_of_target? {file : SourceFile}
    (h : target? files importer specifier extensions = some file) : file ∈ files.values := by
  obtain ⟨k, -, hfile⟩ := exists_mem_probes h
  exact NameMap.mem_values_of_get? hfile

/-- Two sets that agree on the names looked at for a specifier look at the same names. -/
theorem probes_congr
    (h : ∀ k ∈ probes files importer specifier extensions, files'.get? k = files.get? k) :
    probes files' importer specifier extensions = probes files importer specifier extensions :=
  looked_congr h

/-- Two sets that agree on the names looked at for a specifier resolve it to the same file. -/
theorem target?_congr
    (h : ∀ k ∈ probes files importer specifier extensions, files'.get? k = files.get? k) :
    target? files' importer specifier extensions =
      target? files importer specifier extensions := by
  rw [target?_eq_findSome?, target?_eq_findSome?]
  exact findSome?_congr_looked h

/-- The names looked at decide the result of a resolution. -/
theorem find_congr
    (h : ∀ k ∈ probes files importer specifier extensions, files'.get? k = files.get? k)
    (tried : Tried) :
    find files' importer specifier extensions tried =
      find files importer specifier extensions tried := by
  refine Prod.ext ?_ (NameMap.ext_get? fun k => ?_)
  · rw [fst_find, fst_find, target?_congr h]
  · rw [get?_find, get?_find, probes_congr h]
    by_cases hk : k ∈ probes files importer specifier extensions
    · simp [hk, FileSet.current, h k hk]
    · simp [hk]

end LivePreview.Resolve
