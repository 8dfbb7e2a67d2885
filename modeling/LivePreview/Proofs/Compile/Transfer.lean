import LivePreview.Proofs.Compile.Plain

/-!
# Compiling below another stack

What a module is compiled to hardly hangs on the modules in progress. They only close circles, and
a compiled module has none below it: a recorded name that is in progress is absent from the set.
The record is closed as well: it holds all names that the imports of a recorded module look at.
Hence a compiled module is compiled to the same below any other stack that holds no recorded file,
and in any other set that agrees on the record.

## Main definitions

* `LivePreview.Compile.LooksAt`: the names that the imports of a module look at.

## Main results

* `LivePreview.Compile.absent_of_contains`: recorded names that are in progress are absent.
* `LivePreview.Compile.contains_of_looksAt`: what a recorded module looks at is recorded.
* `LivePreview.Compile.plain_transfer`: modules are compiled to the same below another stack.
-/

namespace LivePreview.Compile

open Redirection (relative)

variable {engine : Engine} {job : Job} {stack : List String} {file target : SourceFile}
  {importer source : String} {compiled : Compiled}

/-! ### Records of compiled modules -/

/-- A file that a relative import of a compiled module stands for is no module in progress, and it
is compiled or no module. -/
theorem Written.compiled_or_refused (ha : engine.Accepting) {m : engine.Module}
    (h : Written engine job stack file m compiled) (hsource : source ∈ engine.sources m)
    (hrel : relative source = true) (ht : target? job file.name source = some target) :
    target.name ∉ stack ∧
      ((∃ c, plainTarget engine job stack target = .ok c) ∨
        wrapped? job target = none ∧
          ∃ message, engine.parse target.name (moduleText job target) = .error message) := by
  obtain ⟨_, hout⟩ := h.outcome_eq source hsource hrel
  rw [outcome, ht] at hout
  by_cases hmem : target.name ∈ stack
  · simp [hmem] at hout
  · refine ⟨hmem, ?_⟩
    rcases hc : plainTarget engine job stack target with e | c
    · refine .inr ?_
      cases hw : wrapped? job target with
      | some text =>
        rw [plainTarget_of_wrapped hw] at hc
        cases hc
      | none =>
        have hne : ∀ chain, e ≠ .circularImport chain := by
          rintro chain rfl
          simp [hmem, hc, replacement] at hout
        rw [plainTarget_of_module hw] at hc
        obtain ⟨message, hm, -⟩ := parse_error_of_plain ha hc hne
        exact ⟨rfl, message, hm⟩
    · exact .inl ⟨c, rfl⟩

/-- Names are only recorded for modules. -/
theorem plain_of_plainTarget {c : Compiled} {k : String}
    (hc : plainTarget engine job stack target = .ok c)
    (hk : c.dependencies.contains k = true) :
    plain engine job (stack ++ [target.name]) target = .ok c := by
  rcases plainTarget_eq_ok_iff.1 hc with ⟨text, -, rfl⟩ | ⟨-, hplain⟩
  · simp [NameMap.contains] at hk
  · exact hplain

/-- A recorded name that is in progress is absent from the set. -/
theorem absent_of_contains (ha : engine.Accepting) (hfiles : FileSet.Keyed job.files)
    (stack : List String) (file : SourceFile) :
    ∀ compiled, plain engine job stack file = .ok compiled → ∀ k ∈ stack,
      compiled.dependencies.contains k = true → job.files.get? k = none := by
  induction stack, file using stack_induction job.files with
  | step stack file ih =>
  intro compiled h k hk hcontains
  obtain ⟨m, hw⟩ := exists_written_of_plain ha _ _ _ h
  obtain ⟨source, hsource, hrel, htouch⟩ := (hw.contains_iff k).1 hcontains
  rcases htouch with hprobe | ⟨target, c, ht, hnew, hc, hk'⟩
  · -- A file looked at is what the import stands for, and that is not in progress.
    cases hget : job.files.get? k with
    | none => rfl
    | some found =>
      have ht := target?_eq_of_mem_probes hprobe hget
      obtain rfl : found.name = k := hfiles k found hget
      exact absurd hk (hw.compiled_or_refused ha hsource hrel ht).1
  · exact ih target (mem_values_of_target? ht) hnew c (plain_of_plainTarget hc hk') k
      (by simp [hk]) hk'

/-- A name is looked at for one of the relative imports of the module of `file`. -/
def LooksAt (engine : Engine) (job : Job) (file : SourceFile) (k : String) : Prop :=
  ∃ m, engine.parse file.name (moduleText job file) = .ok m ∧
    ∃ source ∈ engine.sources m, relative source = true ∧ k ∈ probes job file.name source

/-- All names looked at for the imports of a compiled module are recorded. -/
theorem Written.contains_of_looksAt {m : engine.Module} {k : String}
    (h : Written engine job stack file m compiled) (hk : LooksAt engine job file k) :
    compiled.dependencies.contains k = true := by
  obtain ⟨m', hm', source, hsource, hrel, hprobe⟩ := hk
  obtain rfl : m = m' := Except.ok.inj (h.parse.symm.trans hm')
  exact (h.contains_iff k).2 ⟨source, hsource, hrel, .inl hprobe⟩

/-- All names looked at for the imports of a recorded module are recorded. -/
theorem contains_of_looksAt (ha : engine.Accepting) (stack : List String) (file : SourceFile) :
    ∀ compiled, plain engine job stack file = .ok compiled → ∀ name found,
      compiled.dependencies.contains name = true → job.files.get? name = some found →
        isModule found = true → ∀ k, LooksAt engine job found k →
          compiled.dependencies.contains k = true := by
  induction stack, file using stack_induction job.files with
  | step stack file ih =>
  intro compiled h name found hcontains hget hmodule k hk
  obtain ⟨m, hw⟩ := exists_written_of_plain ha _ _ _ h
  obtain ⟨source, hsource, hrel, htouch⟩ := (hw.contains_iff name).1 hcontains
  rcases htouch with hprobe | ⟨dep, c, ht, hnew, hc, hname⟩
  · -- The recorded module was compiled for this import.
    have ht := target?_eq_of_mem_probes hprobe hget
    obtain ⟨hnew, ⟨c, hc⟩ | ⟨-, message, herror⟩⟩ := hw.compiled_or_refused ha hsource hrel ht
    · have hplain := hc
      rw [plainTarget_of_module (wrapped?_eq_none_iff.2 hmodule)] at hplain
      obtain ⟨m', hw'⟩ := exists_written_of_plain ha _ _ _ hplain
      exact (hw.contains_iff k).2 ⟨source, hsource, hrel,
        .inr ⟨found, c, ht, hnew, hc, hw'.contains_of_looksAt hk⟩⟩
    · obtain ⟨m', hm', -⟩ := hk
      simp [herror] at hm'
  · refine (hw.contains_iff k).2 ⟨source, hsource, hrel, .inr ⟨dep, c, ht, hnew, hc, ?_⟩⟩
    exact ih dep (mem_values_of_target? ht) hnew c (plain_of_plainTarget hc hname) name found hname
      hget hmodule k hk

/-! ### Transfer -/

variable {files' : FileSet} {stack' : List String}

theorem Agree.of_touches {m : engine.Module} (hw : Written engine job stack file m compiled)
    (hagree : Agree job.files files' compiled.dependencies) (hsource : source ∈ engine.sources m)
    (hrel : relative source = true) :
    (∀ k ∈ probes job file.name source, files'.get? k = job.files.get? k) ∧
      ∀ target c, target? job file.name source = some target → target.name ∉ stack →
        plainTarget engine job stack target = .ok c → Agree job.files files' c.dependencies := by
  refine ⟨fun k hk => hagree k ?_, fun target c ht hnew hc k hk => hagree k ?_⟩
  · exact (hw.contains_iff k).2 ⟨source, hsource, hrel, .inl hk⟩
  · exact (hw.contains_iff k).2 ⟨source, hsource, hrel, .inr ⟨target, c, ht, hnew, hc, hk⟩⟩

/-- A module whose imports stand for files that are new and compiled to the same below another
stack, in a set that agrees on its record, is written in the same way there. -/
theorem Written.transfer (ha : engine.Accepting) {m : engine.Module}
    (hw : Written engine job stack file m compiled)
    (hagree : Agree job.files files' compiled.dependencies)
    (hsame : ∀ source ∈ engine.sources m, relative source = true → ∀ target,
      target? job file.name source = some target → target.name ∉ stack' ∧
        plainTarget engine { job with files := files' } stack' target =
          plainTarget engine job stack target) :
    Written engine { job with files := files' } stack' file m compiled := by
  have htarget (source : String) (hsource : source ∈ engine.sources m)
      (hrel : relative source = true) :
      target? { job with files := files' } file.name source = target? job file.name source :=
    target?_congr (hagree.of_touches hw hsource hrel).1
  have houtcome (source : String) (hsource : source ∈ engine.sources m)
      (hrel : relative source = true) :
      outcome engine { job with files := files' } stack' file.name source =
        outcome engine job stack file.name source := by
    rw [outcome, outcome, htarget source hsource hrel]
    cases ht : target? job file.name source with
    | none => rfl
    | some target =>
      obtain ⟨hnew', hplain⟩ := hsame source hsource hrel target ht
      have hnew := (hw.compiled_or_refused ha hsource hrel ht).1
      simp only [hnew, hnew', if_false, hplain]
  have htouches (source : String) (hsource : source ∈ engine.sources m)
      (hrel : relative source = true) (k : String) :
      Touches engine { job with files := files' } stack' file.name source k ↔
        Touches engine job stack file.name source k := by
    rw [Touches, Touches, htarget source hsource hrel,
      probes_congr (hagree.of_touches hw hsource hrel).1]
    refine or_congr_right (exists₂_congr fun target c => and_congr_right fun ht => ?_)
    obtain ⟨hnew', hplain⟩ := hsame source hsource hrel target ht
    simp only [hnew', (hw.compiled_or_refused ha hsource hrel ht).1, hplain]
  refine ⟨hw.parse, fun source hsource hrel => ?_, ?_, hagree.current hw.current, fun k => ?_⟩
  · rw [houtcome source hsource hrel]
    exact hw.outcome_eq source hsource hrel
  · rw [List.map_congr_left fun source hsource =>
      Redirection.redirect_congr (houtcome source hsource)]
    exact hw.emit
  · rw [hw.contains_iff k]
    refine exists_congr fun source => and_congr_right fun hsource => and_congr_right fun hrel => ?_
    exact (htouches source hsource hrel k).symm

/-- An imported file is compiled to the same from the top of a stack that holds no recorded file,
if it is as a module. -/
theorem plainTarget_transfer (ha : engine.Accepting) (hfiles : FileSet.Keyed job.files)
    {c : Compiled} (hc : plainTarget engine job stack target = .ok c)
    (habsent : ∀ k ∈ stack', c.dependencies.contains k = true → job.files.get? k = none)
    (hmodule : ∀ stack'', plain engine job (stack ++ [target.name]) target = .ok c →
      (∀ k ∈ stack'', c.dependencies.contains k = true → job.files.get? k = none) →
        plain engine { job with files := files' } stack'' target = .ok c) :
    plainTarget engine { job with files := files' } stack' target = .ok c := by
  rcases plainTarget_eq_ok_iff.1 hc with hwrapped | ⟨hw, hplain⟩
  · exact plainTarget_eq_ok_iff.2 (.inl hwrapped)
  · refine plainTarget_eq_ok_iff.2 (.inr ⟨hw, hmodule _ hplain fun k hk hk' => ?_⟩)
    rcases List.mem_append.1 hk with hk | hk
    · exact habsent k hk hk'
    · exact absent_of_contains ha hfiles _ _ c hplain k (List.mem_append_right _ hk) hk'

/-- A compiled module is compiled to the same below any stack that holds no recorded file, and in
any set that agrees on the record. -/
theorem plain_transfer (ha : engine.Accepting) (hfiles : FileSet.Keyed job.files)
    (files' : FileSet) (stack : List String) (file : SourceFile) :
    ∀ compiled stack', plain engine job stack file = .ok compiled →
      Agree job.files files' compiled.dependencies →
        (∀ k ∈ stack', compiled.dependencies.contains k = true → job.files.get? k = none) →
          plain engine { job with files := files' } stack' file = .ok compiled := by
  induction stack, file using stack_induction job.files with
  | step stack file ih =>
  intro compiled stack' h hagree habsent
  obtain ⟨m, hw⟩ := exists_written_of_plain ha _ _ _ h
  refine (plain_eq_ok_iff ha).2 ⟨m, hw.transfer ha hagree fun source hsource hrel target ht => ?_⟩
  obtain ⟨hprobe, hget⟩ := mem_probes_of_target? hfiles ht
  refine ⟨fun hmem => ?_, ?_⟩
  · -- A file that an import stands for is recorded.
    have hnone := habsent _ hmem ((hw.contains_iff _).2 ⟨source, hsource, hrel, .inl hprobe⟩)
    simp [hget] at hnone
  · obtain ⟨hnew, hc | ⟨hwr, message, hm⟩⟩ := hw.compiled_or_refused ha hsource hrel ht
    · obtain ⟨c, hc⟩ := hc
      have hagree' := (hagree.of_touches hw hsource hrel).2 target c ht hnew hc
      have hrecorded : ∀ k, c.dependencies.contains k = true →
          compiled.dependencies.contains k = true := fun k hk =>
        (hw.contains_iff k).2 ⟨source, hsource, hrel, .inr ⟨target, c, ht, hnew, hc, hk⟩⟩
      rw [hc]
      exact plainTarget_transfer ha hfiles hc (fun k hk hk' => habsent k hk (hrecorded k hk'))
        fun stack'' hplain => ih target (mem_values_of_target? ht) hnew c stack'' hplain hagree'
    · have hwr' : wrapped? { job with files := files' } target = none := hwr
      rw [plainTarget_of_module hwr', plainTarget_of_module hwr, plain_of_parse_error hm]
      exact plain_of_parse_error hm

end LivePreview.Compile
