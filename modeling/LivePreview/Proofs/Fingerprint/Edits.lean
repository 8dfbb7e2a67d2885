import LivePreview.Compile
import LivePreview.Scheduler
import LivePreview.Proofs.Fingerprint
import LivePreview.Proofs.NameMap

/-!
# Edits that are always noticed

As no step of a fingerprint loses anything, texts that differ in one code unit have different
fingerprints, and so have file sets that differ in the content of one file by one code unit.
Whatever compares fingerprints to find out what has changed notices such an edit: the scheduler
hands the edited set over, and no entry of the cache that belongs to the old content is taken for
the new one.

## Main results

* `LivePreview.Fingerprint.accumulate_left_inj`: a text keeps different sums apart.
* `LivePreview.Fingerprint.ofText_ne_of_unitApart`: an edit of one code unit changes the fingerprint
  of a text.
* `LivePreview.FileSet.fingerprint_insert_ne`: a content that takes every sum elsewhere changes the
  fingerprint of the set.
* `LivePreview.FileSet.edit_noticed`: the edit of a file is noticed everywhere.
-/

namespace LivePreview

/-! ### Texts -/

namespace Fingerprint

variable {seed seed' : Int32}

theorem foldl_step_left_inj {units : List UInt16}
    (heq : units.foldl step seed = units.foldl step seed') : seed = seed' := by
  induction units generalizing seed seed' with
  | nil => exact heq
  | cons u units ih => exact step_left_inj (ih heq)

/-- Different sums stay different through a text. -/
theorem accumulate_left_inj {text : String} (heq : accumulate seed text = accumulate seed' text) :
    seed = seed' :=
  foldl_step_left_inj heq

theorem foldl_accumulate_left_inj {parts : List String}
    (heq : parts.foldl accumulate seed = parts.foldl accumulate seed') : seed = seed' := by
  rw [foldl_accumulate, foldl_accumulate] at heq
  exact accumulate_left_inj heq

/-- Texts that differ in one code unit take every sum to different ones. -/
theorem accumulate_ne_of_unitApart {c d : Char} (h : Text.UnitApart c d) (before after : List Char)
    (seed : Int32) : accumulate seed (String.ofList (before ++ c :: after)) ≠
      accumulate seed (String.ofList (before ++ d :: after)) := by
  obtain ⟨front, u, v, back, huv, hc, hd⟩ := h
  intro heq
  simp only [accumulate, String.toList_ofList, Text.units16_append, Text.units16_cons, hc, hd,
    List.foldl_append, List.foldl_cons] at heq
  exact huv (step_right_inj (foldl_step_left_inj (foldl_step_left_inj heq)))

theorem ofText_ne_of_unitApart {c d : Char} (h : Text.UnitApart c d) (before after : List Char) :
    ofText (String.ofList (before ++ c :: after)) ≠
      ofText (String.ofList (before ++ d :: after)) :=
  fun heq => accumulate_ne_of_unitApart h before after 0 (congrArg value heq)

end Fingerprint

/-! ### File sets -/

namespace FileSet

open Fingerprint

variable {files : FileSet} {key : String} {file : SourceFile}

/-- A set with another content of one file, which takes every sum elsewhere than the old one, has
another fingerprint. -/
theorem fingerprint_insert_ne (h : files.get? key = some file) {content : String}
    (hcontent : ∀ seed, accumulate seed file.content ≠ accumulate seed content) :
    fingerprint (files.insert key { file with content := content }) ≠ fingerprint files := by
  obtain ⟨before, after, hold, hnew⟩ :=
    NameMap.exists_entries_insert h { file with content := content }
  intro heq
  simp only [fingerprint, NameMap.values, hold, hnew, ofParts, List.map_append, List.map_cons,
    List.flatMap_append, List.flatMap_cons, frame, List.foldl_append, List.foldl_cons,
    List.foldl_nil, Fingerprint.mk.injEq] at heq
  exact hcontent _ (accumulate_left_inj (foldl_accumulate_left_inj heq)).symm

end FileSet

/-! ### What compares fingerprints -/

/-- The entry that a job gets for a file, made or found, has the fingerprint of the file. -/
theorem Compile.fingerprint_of_dependency {job : Job} {stack : List String}
    {build : Build job stack} {file : SourceFile} {hmem : file ∈ job.files.values}
    {hnew : file.name ∉ stack} {cache : Cache} {entry : CacheEntry}
    (h : (dependency job build file hmem hnew cache).1 = .ok entry) :
    entry.fingerprint = file.fingerprint := by
  rw [dependency, Cache.getOrCompute] at h
  cases hfound : cache.lookup file.name file.fingerprint job.files.current with
  | some found =>
    rw [hfound] at h
    obtain rfl := Except.ok.inj h
    exact (Cache.lookup_eq_some_iff.1 hfound).2.1
  | none =>
    simp only [hfound] at h
    cases hmade : compileFile job build file hmem hnew (cache.miss file.name) with
    | mk outcome made =>
      cases outcome with
      | error e => simp [hmade] at h
      | ok compiled =>
        simp only [hmade, Except.ok.injEq] at h
        rw [← h]

/-- A set that is not the one dispatched last is dispatched by the next attempt that the guard lets
through. -/
theorem Scheduler.attempt_of_fingerprint_ne {s : Scheduler} {files : FileSet} {now : Nat}
    (hguard : (s.guard.check now).1 = .allowed)
    (hne : s.lastDispatched ≠ some files.fingerprint) (force : Bool) :
    (s.attempt files force true now).1 = .dispatch files := by
  rw [attempt, if_pos rfl]
  cases hcheck : s.guard.check now with
  | mk verdict guard =>
    rw [hcheck] at hguard
    subst hguard
    simp [hne]

theorem Scheduler.lastDispatched_of_attempt {s s' : Scheduler} {files sent : FileSet}
    {force ready : Bool} {now : Nat} (h : s.attempt files force ready now = (.dispatch sent, s')) :
    s'.lastDispatched = some files.fingerprint := by
  rw [attempt] at h
  cases ready with
  | false => simp at h
  | true =>
    rw [if_pos rfl] at h
    cases hcheck : s.guard.check now with
    | mk verdict guard =>
      cases verdict with
      | tripped => simp [hcheck] at h
      | suppressed => simp [hcheck] at h
      | allowed =>
        simp only [hcheck] at h
        split at h
        · simp at h
        · obtain ⟨-, rfl⟩ := Prod.mk.inj h
          rfl

/-- Different characters below U+10000 have code units that are the same but for one. Where a
character in the content of a file is replaced by another one whose code units are the same but for
one, the file and the set have new fingerprints. So, right after the original set was dispatched, an
attempt with the edited one is dispatched without force as long as the compile unit is ready and the
guard lets it through, and no entry of the cache that belongs to the original file, such as the one
that a job makes or finds for it, is found for the edited one. -/
theorem FileSet.edit_noticed :
    (∀ c d : Char, c ≠ d → c.toNat < 0x10000 → d.toNat < 0x10000 → Text.UnitApart c d) ∧
    ∀ (files : FileSet) (key : String) (file : SourceFile) (before after : List Char) (c d : Char),
      files.get? key = some file → file.content = String.ofList (before ++ c :: after) →
      Text.UnitApart c d →
      let edited : SourceFile := { file with content := String.ofList (before ++ d :: after) }
      edited.fingerprint ≠ file.fingerprint ∧
      fingerprint (files.insert key edited) ≠ fingerprint files ∧
      (∀ (s s' : Scheduler) (force ready : Bool) (before now : Nat),
        s.attempt files force ready before = (.dispatch files, s') →
        (s'.guard.check now).1 = .allowed →
        (s'.attempt (files.insert key edited) false true now).1 =
          .dispatch (files.insert key edited)) ∧
      (∀ entry : CacheEntry, entry.fingerprint = file.fingerprint →
        ∀ (cache : Cache) (name : String) (current : String → Option Fingerprint),
          cache.lookup name edited.fingerprint current ≠ some entry) ∧
      ∀ (job : Compile.Job) (stack : List String) (build : Compile.Build job stack)
        (hmem : file ∈ job.files.values) (hnew : file.name ∉ stack) (cache : Cache)
        (entry : CacheEntry), (Compile.dependency job build file hmem hnew cache).1 = .ok entry →
        ∀ (later : Cache) (name : String) (current : String → Option Fingerprint),
          later.lookup name edited.fingerprint current ≠ some entry := by
  refine ⟨fun c d => Text.unitApart_of_ne, fun files key file before after c d h hcontent hcd => ?_⟩
  intro edited
  have hfile : edited.fingerprint ≠ file.fingerprint := by
    rw [SourceFile.fingerprint, SourceFile.fingerprint, hcontent]
    exact (Fingerprint.ofText_ne_of_unitApart hcd before after).symm
  have hset : fingerprint (files.insert key edited) ≠ fingerprint files :=
    fingerprint_insert_ne h fun seed =>
      hcontent ▸ Fingerprint.accumulate_ne_of_unitApart hcd before after seed
  have hlookup (entry : CacheEntry) (hentry : entry.fingerprint = file.fingerprint) (cache : Cache)
      (name : String) (current : String → Option Fingerprint) :
      cache.lookup name edited.fingerprint current ≠ some entry := fun hfound =>
    hfile ((Cache.lookup_eq_some_iff.1 hfound).2.1.symm.trans hentry)
  refine ⟨hfile, hset, ?_, hlookup, ?_⟩
  · intro s s' force ready before now hsent hguard
    refine Scheduler.attempt_of_fingerprint_ne hguard ?_ false
    rw [Scheduler.lastDispatched_of_attempt hsent]
    exact fun heq => hset (Option.some.inj heq).symm
  · intro job stack build hmem hnew cache entry hentry
    exact hlookup entry (Compile.fingerprint_of_dependency hentry)

/-- The second surrogate of a pair is replaced, in a set that a new scheduler has dispatched. -/
theorem FileSet.edit_noticed_pair :
    let file : SourceFile := ⟨"a.ts", "x😀y", .script⟩
    let edited : SourceFile := ⟨"a.ts", "x😁y", .script⟩
    let files : FileSet := NameMap.empty.insert "a.ts" file
    let s : Scheduler := Scheduler.ofConfig Config.standard
    files.get? "a.ts" = some file ∧ Text.UnitApart '😀' '😁' ∧
      s.attempt files false true 0 = (.dispatch files, (s.attempt files false true 0).2) ∧
      ((s.attempt files false true 0).2.guard.check 1).1 = .allowed ∧
      ((s.attempt files false true 0).2.attempt (files.insert "a.ts" edited) false true 1).1 =
        .dispatch (files.insert "a.ts" edited) := by
  intro file edited files s
  have hfile : files.get? "a.ts" = some file := rfl
  have hapart : Text.UnitApart '😀' '😁' :=
    ⟨[0xD83D], 0xDE00, 0xDE01, [], by decide, by decide, by decide⟩
  have hsent : s.attempt files false true 0 = (.dispatch files, (s.attempt files false true 0).2) :=
    rfl
  have hguard : ((s.attempt files false true 0).2.guard.check 1).1 = .allowed := rfl
  have hnoticed := FileSet.edit_noticed.2 files "a.ts" file ['x'] ['y'] '😀' '😁' hfile rfl hapart
  exact ⟨hfile, hapart, hsent, hguard, hnoticed.2.2.1 s _ false true 0 1 hsent hguard⟩

end LivePreview
