import LivePreview.Proofs.Compile.Labels
import LivePreview.Proofs.Transformer

/-!
# Labels over a history

A transformer compiles file sets one after another, while its clock shows one stamp after another.
What an import is replaced by is decided by the label that its file has in the current set, as long
as files with the same name and the same fingerprint have the same label in all sets.

The fingerprint of a file does not count its label, and neither does the key of the cache. A file
that gets another label and keeps its content is therefore found current, and is still imported as
what it was before, although the fingerprint of the whole set tells the two apart.

## Main definitions

* `LivePreview.Transformer.withStamp`: the clock shows another stamp.
* `LivePreview.Transformer.afterJobs`: a transformer after some jobs.

## Main results

* `LivePreview.Transformer.inlines_by_label`: imports are replaced by label after any jobs.
* `LivePreview.Transformer.relabelled_stays`: a relabelled file is imported as before.
-/

namespace LivePreview.Transformer

open Compile

/-- The transformer when its clock shows a stamp. -/
def withStamp (t : Transformer) (stamp : Nat) : Transformer := { t with stamp := stamp }

/-- The transformer after jobs that come one after another, each at its stamp. -/
def afterJobs (engine : Engine) (t : Transformer) (jobs : List (Nat × FileSet)) : Transformer :=
  jobs.foldl (fun t job => ((t.withStamp job.1).compile engine job.2).2) t

variable {engine : Engine} {seen : List FileSet} {stamps : List Nat} {t : Transformer}

/-- Jobs leave the cache faithful. -/
theorem faithful_afterJobs (hi : engine.Indifferent)
    (hkeyed : ∀ files ∈ seen, FileSet.Keyed files) (hdist : Distinguished seen)
    {jobs : List (Nat × FileSet)} (hjobs : ∀ job ∈ jobs, job.1 ∈ stamps ∧ job.2 ∈ seen)
    (h : Faithful engine t.config stamps seen t.cache) :
    (afterJobs engine t jobs).config = t.config ∧
      Faithful engine t.config stamps seen (afterJobs engine t jobs).cache := by
  induction jobs generalizing t with
  | nil => exact ⟨rfl, h⟩
  | cons job rest ih =>
    obtain ⟨hstamp, hseen⟩ := hjobs job List.mem_cons_self
    have hcache : Faithful engine ((t.withStamp job.1).job job.2).config stamps seen t.cache := h
    have hfirst := (labelled_compile hkeyed hdist hseen hstamp hi hcache).1
    exact ih (fun j hj => hjobs j (List.mem_cons_of_mem job hj)) hfirst

/-- After any jobs, a job with code has the text of its entry, with every import replaced by what
the label of its file asks for in the current set, and so in all modules that it leads to: a style
sheet by its module with the stamp of some job, data by its module, and any other file by the module
that it is compiled to, unless the engine cannot read or write it. The files have to be told apart
by their fingerprints, labels included. -/
theorem inlines_by_label (hi : engine.Indifferent) (config : Config) (start : Nat)
    (jobs : List (Nat × FileSet)) (stamp : Nat) (files : FileSet)
    (hkeyed : ∀ seen ∈ files :: jobs.map Prod.snd, FileSet.Keyed seen)
    (hdist : Distinguished (files :: jobs.map Prod.snd)) {code : String}
    (h : (((afterJobs engine (ofConfig config start) jobs).withStamp stamp).compile
      engine files).1 = .ok code) :
    ∃ entry m l, entry? ⟨config, files, stamp⟩ = some entry ∧
      engine.parse entry.name
        (moduleText ⟨config, files, stamp⟩ (patched ⟨config, files, stamp⟩ entry)) = .ok m ∧
      Inlines engine config (stamp :: jobs.map Prod.fst) files (fun _ => True) entry.name
        (engine.sources m) l ∧
      engine.emit (engine.withSources m l) = .ok code := by
  have hjobs : ∀ job ∈ jobs, job.1 ∈ stamp :: jobs.map Prod.fst ∧
      job.2 ∈ files :: jobs.map Prod.snd := fun job hjob =>
    ⟨List.mem_cons_of_mem _ (List.mem_map_of_mem hjob),
      List.mem_cons_of_mem _ (List.mem_map_of_mem hjob)⟩
  obtain ⟨hconfig, hfaithful⟩ := faithful_afterJobs (t := ofConfig config start) hi hkeyed hdist
    hjobs faithful_empty
  have hjob : ((afterJobs engine (ofConfig config start) jobs).withStamp stamp).job files =
      ⟨config, files, stamp⟩ := by
    rw [job, Transformer.withStamp, hconfig]
    rfl
  rw [Transformer.compile, hjob] at h
  have hseen : (Job.mk config files stamp).files ∈ files :: jobs.map Prod.snd :=
    List.mem_cons_self
  have hstamp : (Job.mk config files stamp).stamp ∈ stamp :: jobs.map Prod.fst :=
    List.mem_cons_self
  exact (labelled_compile hkeyed hdist hseen hstamp hi hfaithful).2 code h

/-- Scripts and data are imported by their labels the second time too. -/
theorem inlines_by_label_bare :
    ∃ code entry m l,
      (((afterJobs bareEngine (ofConfig Config.standard 0) [(1, bareJob.files)]).withStamp
        1).compile bareEngine bareJob.files).1 = .ok code ∧
      entry? bareJob = some entry ∧
      Inlines bareEngine Config.standard [1, 1] bareJob.files (fun _ => True) entry.name
        (bareEngine.sources m) l ∧
      bareEngine.emit (bareEngine.withSources m l) = .ok code := by
  have hfiles : FileSet.Keyed bareJob.files := FileSet.keyed_ofFiles _
  have hdist : Distinguished [bareJob.files, bareJob.files] := by
    simpa [Distinguished] using distinguished_singleton hfiles
  have hisOk := isOk_compile_bare
  rcases hfirst : Compile.compile bareEngine bareJob Cache.empty with ⟨e | code, cache⟩
  · rw [hfirst] at hisOk
    cases hisOk
  · have hstep : ((ofConfig Config.standard 0).withStamp 1).compile bareEngine bareJob.files =
        (.ok code, ⟨Config.standard, 1, cache⟩) := compile_eq_iff.2 ⟨hfirst, rfl⟩
    have hagain : (((afterJobs bareEngine (ofConfig Config.standard 0)
        [(1, bareJob.files)]).withStamp 1).compile bareEngine bareJob.files).1 = .ok code := by
      rw [afterJobs, List.foldl, hstep]
      exact (fst_compile _).trans (compile_again accepting_bareEngine hfiles hfirst rfl).1
    obtain ⟨entry, m, l, hentry, -, hinlines, he⟩ := inlines_by_label
      accepting_bareEngine.indifferent Config.standard 0 [(1, bareJob.files)] 1 bareJob.files
      (by simp [hfiles]) hdist hagain
    exact ⟨code, entry, m, l, hagain, hentry, hinlines, he⟩

/-- An entry that imports a file with some label. -/
def labelFiles (label : Language) : FileSet :=
  FileSet.ofFiles [
    ⟨"main.ts", "import './a'\nimport 'createApp.mount.__vue_app__'\n", .script⟩,
    ⟨"a.ts", "import './b'\n", label⟩]

/-- A file that was compiled as a script, and then gets the label of a style sheet, is still
imported as a script, and not as the style sheet that its label asks for. Its label is all that has
changed: no two contents share a fingerprint. -/
theorem relabelled_stays :
    (∀ file ∈ (labelFiles .script).values ++ (labelFiles .styles).values,
      ∀ file' ∈ (labelFiles .script).values ++ (labelFiles .styles).values,
        file.fingerprint = file'.fingerprint → file.content = file'.content) ∧
    ((afterJobs bareEngine (ofConfig Config.standard 1) [(1, labelFiles .script)]).compile
      bareEngine (labelFiles .styles)).1 =
        .ok ("import \"" ++ Asset.reference "import \"./b\";\n" ++
          "\";\nimport \"createApp.mount.__vue_app__\";\n") ∧
    Asset.reference "import \"./b\";\n" ≠
      Asset.reference (Asset.styleModule ⟨"a.ts", "import './b'\n", .styles⟩ 1) := by
  refine ⟨by decide +kernel, ?_, ?_⟩
  · rw [afterJobs, List.foldl, snd_compile, List.foldl]
    refine (fst_compile _).trans ?_
    rw [← compileWithin_eq_compile fun cache => (.error .emptyOutput, cache),
      ← compileWithin_eq_compile fun cache => (.error .emptyOutput, cache)]
    decide +kernel
  · -- The first digits differ already.
    intro h
    have hdigits := String.ofList_injective ((String.append_right_inj _).1 h)
    exact absurd (congrArg List.head? hdigits) (by decide +kernel)

end LivePreview.Transformer
