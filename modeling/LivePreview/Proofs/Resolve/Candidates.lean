import LivePreview.Proofs.Resolve
import Mathlib.Data.List.TakeWhile

/-!
# The names a specifier may stand for

The candidates of a specifier are the spellings of two paths: the specifier joined onto the folder
of the importer, unless that climbs above the root, and the specifier without the climbs at its
start. A path without an extension is also spelled with each known extension. A name that comes
again later is left out.

A resolution looks at the candidates in this order and stops at the first file. What it has looked
at is a certificate: any file set that holds the same under these names gives the same answer and
the same record.

## Main definitions

* `LivePreview.Resolve.HasExtension`: paths with an extension.
* `LivePreview.Resolve.Spells`: the spellings of a path.
* `LivePreview.Resolve.Strips`: a specifier and what follows the climbs at its start.
* `LivePreview.Resolve.Listed`: the names of a specifier in their order.
* `LivePreview.Resolve.Certified`: a resolution with the names it looked at.

## Main results

* `LivePreview.Resolve.extension?_eq_some_iff`: the extension of a path.
* `LivePreview.Resolve.listed_candidates`: how candidates are listed.
* `LivePreview.Resolve.certified_find`: the first file wins, and the record certifies it.
-/

namespace LivePreview.Resolve

/-! ### Extensions -/

private theorem eq_takeWhile_append_cons (d : Char) : {l : List Char} →
    (l.takeWhile (· ≠ d)).length < l.length → ∃ rest, l = l.takeWhile (· ≠ d) ++ d :: rest
  | c :: l, h => by
      by_cases hc : c = d
      · exact ⟨l, by simp [hc]⟩
      · rw [List.takeWhile_cons_of_pos (by simpa using hc)] at h ⊢
        obtain ⟨rest, hrest⟩ := eq_takeWhile_append_cons d (Nat.lt_of_succ_lt_succ h)
        exact ⟨rest, congrArg (c :: ·) hrest⟩

/-- The extension of a path is what stands behind its last dot, unless that is empty or holds a
slash. -/
theorem extension?_eq_some_iff {path ext : String} :
    extension? path = some ext ↔
      ∃ stem, path = stem ++ "." ++ ext ∧ ext ≠ "" ∧ '.' ∉ ext.toList ∧ '/' ∉ ext.toList := by
  simp only [extension?]
  generalize hbase : path.toList.reverse.takeWhile (· ≠ '/') = base
  generalize hword : base.takeWhile (· ≠ '.') = word
  constructor
  · intro h
    split at h
    · rename_i hext
      obtain rfl := Option.some.inj h
      obtain ⟨rest, hrest⟩ : ∃ rest, base = word ++ '.' :: rest :=
        hword ▸ eq_takeWhile_append_cons '.' (hword ▸ hext.1)
      obtain ⟨tail, htail⟩ : base <+: path.toList.reverse := hbase ▸ List.takeWhile_prefix _
      have hdot : '.' ∉ word := by
        intro hmem
        rw [← hword] at hmem
        simpa using List.mem_takeWhile_imp hmem
      have hslash : '/' ∉ base := by
        intro hmem
        rw [← hbase] at hmem
        simpa using List.mem_takeWhile_imp hmem
      refine ⟨String.ofList (rest ++ tail).reverse, ?_, by simpa using hext.2, by simpa using hdot,
        by simpa using fun hmem => hslash (hrest ▸ List.mem_append_left _ hmem)⟩
      rw [← String.toList_inj, ← List.reverse_inj, ← htail, hrest]
      simp
    · cases h
  · rintro ⟨stem, rfl, hne, hdot, hslash⟩
    have htake (d : Char) (hd : d ∉ ext.toList) (rest : List Char) :
        (ext.toList.reverse ++ rest).takeWhile (· ≠ d) =
          ext.toList.reverse ++ rest.takeWhile (· ≠ d) := by
      refine List.takeWhile_append_of_pos fun c hc => ?_
      have : c ≠ d := by
        rintro rfl
        exact hd (List.mem_reverse.1 hc)
      simpa using this
    obtain rfl : ext.toList.reverse ++ '.' :: stem.toList.reverse.takeWhile (· ≠ '/') = base := by
      rw [← hbase, String.toList_append, String.toList_append, List.reverse_append,
        List.reverse_append, htake '/' hslash]
      simp
    obtain rfl : ext.toList.reverse = word := by
      rw [← hword, htake '.' hdot]
      simp
    simp [hne]

/-- A path with an extension. -/
def HasExtension (path : String) : Prop :=
  ∃ stem ext, path = stem ++ "." ++ ext ∧ ext ≠ "" ∧ '.' ∉ ext.toList ∧ '/' ∉ ext.toList

theorem extension?_eq_none_iff {path : String} : extension? path = none ↔ ¬ HasExtension path := by
  rw [← Option.not_isSome_iff_eq_none, Option.isSome_iff_exists]
  simp only [extension?_eq_some_iff, HasExtension]
  exact not_congr exists_comm

/-! ### Lists of candidates -/

/-- The spellings under which a path is tried. -/
inductive Spells (extensions : List String) (path : String) : List String → Prop
  /-- A path with an extension is tried as it is. -/
  | complete (h : HasExtension path) : Spells extensions path [path]
  /-- A path without one is tried as it is and then with each of the known extensions. -/
  | bare (h : ¬ HasExtension path) :
    Spells extensions path (path :: extensions.map fun ext => path ++ "." ++ ext)

theorem spells_withExtensions (extensions : List String) (path : String) :
    Spells extensions path (withExtensions extensions path) := by
  rw [withExtensions]
  split
  · rename_i h
    exact .bare (extension?_eq_none_iff.1 (Option.isNone_iff_eq_none.1 h))
  · rename_i h
    exact .complete (not_not.1 (mt extension?_eq_none_iff.2 (by simpa using h)))

/-- What follows the climbs at the start of a specifier. -/
def Strips (specifier stripped : String) : Prop :=
  ∃ climbs : List String, (∀ climb ∈ climbs, climb = "./" ∨ climb = "../") ∧
    specifier = String.join climbs ++ stripped ∧
      ∀ rest, stripped ≠ "./" ++ rest ∧ stripped ≠ "../" ++ rest

theorem strips_stripClimbs (specifier : String) :
    Strips specifier (String.ofList (stripClimbs specifier.toList)) := by
  suffices h : ∀ s : List Char, Strips (String.ofList s) (String.ofList (stripClimbs s)) by
    simpa using h specifier.toList
  intro s
  fun_induction stripClimbs s with
  | case1 s ih =>
    obtain ⟨climbs, hclimbs, hjoin, hrest⟩ := ih
    refine ⟨"./" :: climbs, by simpa using hclimbs, ?_, hrest⟩
    rw [String.join_cons, String.append_assoc, ← hjoin]
    exact @String.ofList_append ['.', '/'] s
  | case2 s ih =>
    obtain ⟨climbs, hclimbs, hjoin, hrest⟩ := ih
    refine ⟨"../" :: climbs, by simpa using hclimbs, ?_, hrest⟩
    rw [String.join_cons, String.append_assoc, ← hjoin]
    exact @String.ofList_append ['.', '.', '/'] s
  | case3 s hone htwo =>
    refine ⟨[], by simp, by simp,
      fun rest => ⟨fun h => hone rest.toList ?_, fun h => htwo rest.toList ?_⟩⟩
    · simpa using congrArg String.toList h
    · simpa using congrArg String.toList h

/-- Distinct names are those not seen before, without later repetitions. -/
theorem distinct_eq_eraseDups (seen : List String) : (names : List String) →
    distinct seen names = (names.filter fun name => name ∉ seen).eraseDups
  | [] => rfl
  | name :: rest => by
      rw [distinct]
      by_cases h : name ∈ seen
      · simp [h, distinct_eq_eraseDups seen rest]
      · have hfilter : (rest.filter fun other => other ∉ name :: seen) =
            (rest.filter fun other => other ∉ seen).filter fun other => !other == name := by
          rw [List.filter_filter]
          congr 1
          funext other
          simp only [List.mem_cons, not_or, Bool.decide_and, decide_not, Bool.beq_eq_decide_eq]
        rw [if_neg h, distinct_eq_eraseDups (name :: seen) rest, hfilter,
          List.filter_cons_of_pos (by simpa), List.eraseDups_cons]

theorem nodup_distinct : (seen names : List String) →
    (distinct seen names).Nodup ∧ ∀ name ∈ distinct seen names, name ∉ seen
  | _, [] => by simp [distinct]
  | seen, name :: rest => by
      rw [distinct]
      by_cases h : name ∈ seen
      · simpa [h] using nodup_distinct seen rest
      · obtain ⟨hnodup, hnew⟩ := nodup_distinct (name :: seen) rest
        rw [if_neg h]
        refine ⟨List.nodup_cons.2 ⟨fun hmem => hnew name hmem List.mem_cons_self, hnodup⟩, ?_⟩
        rintro other (_ | ⟨_, hother⟩)
        · exact h
        · exact fun hseen => hnew other hother (List.mem_cons_of_mem _ hseen)

/-- How the names are listed that a specifier may stand for: the spellings of the joined path, if
there is one, before those of the stripped specifier, without later repetitions. -/
def Listed (importer specifier : String) (extensions names : List String) : Prop :=
  ∃ stripped joinedNames strippedNames, Strips specifier stripped ∧
    (∀ path, join? importer specifier = some path → Spells extensions path joinedNames) ∧
    (join? importer specifier = none → joinedNames = []) ∧
    Spells extensions stripped strippedNames ∧
    names = (joinedNames ++ strippedNames).eraseDups ∧ names.Nodup

/-- The candidates of a specifier are listed in their order. -/
theorem listed_candidates (importer specifier : String) (extensions : List String) :
    Listed importer specifier extensions (candidates importer specifier extensions) := by
  refine ⟨_, (join? importer specifier).toList.flatMap (withExtensions extensions), _,
    strips_stripClimbs specifier, ?_, ?_, spells_withExtensions extensions _, ?_,
    (nodup_distinct _ _).1⟩
  · intro path hpath
    simpa [hpath] using spells_withExtensions extensions path
  · intro hnone
    simp [hnone]
  · rw [candidates, distinct_eq_eraseDups, List.filter_eq_self.2 (by simp)]
    simp

/-! ### Certificates -/

/-- A search through some names in their order: it looks at `seen`, and what it finds and records
follows from what the set holds under these names. -/
structure Certified (files : FileSet) (names seen : List String) (tried : Tried)
    (found : Option SourceFile × Tried) : Prop where
  /-- The names are looked at in their order. -/
  seen_prefix : seen <+: names
  /-- The first file is found and ends the search. Without one all names are looked at. -/
  first : (∃ before name, seen = before ++ [name] ∧ (∀ k ∈ before, files.get? k = none) ∧
      files.get? name = found.1 ∧ found.1.isSome) ∨
    seen = names ∧ (∀ k ∈ names, files.get? k = none) ∧ found.1 = none
  /-- The names looked at are recorded as they are at present, and no others. -/
  record : ∀ k, found.2.get? k =
    if k ∈ seen then some ((files.get? k).map SourceFile.fingerprint) else tried.get? k

theorem isPrefix_looked (files : FileSet) : (names : List String) → looked files names <+: names
  | [] => List.prefix_rfl
  | name :: rest => by
      rw [looked]
      cases files.get? name with
      | some file => exact ⟨rest, rfl⟩
      | none => exact (List.prefix_cons_inj name).2 (isPrefix_looked files rest)

/-- The names looked at end with the first file, or there is none. -/
theorem looked_first (files : FileSet) : (names : List String) →
    (∃ before name, looked files names = before ++ [name] ∧ (∀ k ∈ before, files.get? k = none) ∧
      files.get? name = names.findSome? files.get? ∧ (names.findSome? files.get?).isSome) ∨
    looked files names = names ∧ (∀ k ∈ names, files.get? k = none) ∧
      names.findSome? files.get? = none
  | [] => .inr ⟨rfl, by simp, rfl⟩
  | name :: rest => by
      rw [looked, List.findSome?_cons]
      cases h : files.get? name with
      | some file => exact .inl ⟨[], name, rfl, by simp, h, rfl⟩
      | none =>
        rcases looked_first files rest with ⟨before, last, hlooked, hnone, hlast⟩ | ⟨hlooked, hnone⟩
        · exact .inl ⟨name :: before, last, by simp [hlooked],
            List.forall_mem_cons.2 ⟨h, hnone⟩, hlast⟩
        · exact .inr ⟨by simp [hlooked], List.forall_mem_cons.2 ⟨h, hnone.1⟩, hnone.2⟩

/-- A resolution is a search through the candidates. -/
theorem certified_find (files : FileSet) (importer specifier : String) (extensions : List String)
    (tried : Tried) :
    Certified files (candidates importer specifier extensions)
      (probes files importer specifier extensions) tried
      (find files importer specifier extensions tried) where
  seen_prefix := isPrefix_looked files _
  first := by
    rw [fst_find, target?_eq_findSome?]
    exact looked_first files _
  record := get?_find tried

/-- The first candidate that is a file is found, the candidates up to it are recorded, and a set
that holds the same under these gives the same result and writes the same record. -/
theorem first_match_certified (files : FileSet) (importer specifier : String)
    (extensions : List String) (tried : Tried) :
    Listed importer specifier extensions (candidates importer specifier extensions) ∧
      ∃ seen, Certified files (candidates importer specifier extensions) seen tried
          (find files importer specifier extensions tried) ∧
        ∀ files' : FileSet, (∀ k ∈ seen, files'.get? k = files.get? k) → ∀ tried',
          (find files' importer specifier extensions tried').1 =
              (find files importer specifier extensions tried).1 ∧
            ∀ k, (find files' importer specifier extensions tried').2.get? k =
              if k ∈ seen then (find files importer specifier extensions tried).2.get? k
              else tried'.get? k := by
  refine ⟨listed_candidates importer specifier extensions, _,
    certified_find files importer specifier extensions tried, fun files' hsame tried' => ?_⟩
  rw [find_congr hsame]
  refine ⟨by rw [fst_find, fst_find], fun k => ?_⟩
  rw [get?_find, get?_find]
  split <;> rfl

/-- A script at the root and one beside a component in a folder. -/
def cardFiles : FileSet :=
  FileSet.ofFiles [⟨"utils.ts", "export const a = 1", .script⟩,
    ⟨"components/utils.js", "export const b = 2", .script⟩]

/-- The script beside a component goes before the one at the root, and another file changes
nothing. -/
theorem first_match_certified_beside :
    (find (cardFiles.put ⟨"main.ts", "", .script⟩) "components/Card.vue" "./utils" ["ts", "js"]
      NameMap.empty).1 = some ⟨"components/utils.js", "export const b = 2", .script⟩ := by
  obtain ⟨-, seen, hseen, hsame⟩ :=
    first_match_certified cardFiles "components/Card.vue" "./utils" ["ts", "js"] NameMap.empty
  have hnew : "main.ts" ∉ candidates "components/Card.vue" "./utils" ["ts", "js"] := by
    decide +kernel
  refine (hsame _ (fun k hk => ?_) NameMap.empty).1.trans (by decide +kernel)
  have hk' := hseen.seen_prefix.subset hk
  exact NameMap.get?_insert_of_ne _ (by rintro rfl; exact hnew hk') _

end LivePreview.Resolve
