import LivePreview.Proofs.Compile.Circles
import LivePreview.Proofs.Compile.Transparency
import LivePreview.Transformer

/-!
# The cache of a transformer

A transformer keeps its cache from one call to the next, whether a call succeeds or fails. What it
answers is nevertheless what it would answer without a cache, as long as fingerprints tell the files
apart that it has seen: every call leaves its cache sound.

## Main definitions

* `LivePreview.Transformer.Call`, `LivePreview.Transformer.after`: calls to a transformer.
* `LivePreview.Transformer.Sound`: the cache holds what was compiled in some sets.

## Main results

* `LivePreview.Transformer.sound_run`: a call keeps a transformer sound.
* `LivePreview.Transformer.compile_after_eq_plain`: after any calls, the cache is transparent.
-/

namespace LivePreview.Transformer

open Compile

/-! ### Calls -/

/-- A call to a transformer. -/
inductive Call where
  /-- Compiles the entry of a file set. -/
  | compile (files : FileSet)
  /-- Responds to a request. -/
  | handle (request : Request)

namespace Call

/-- The file set of a call. -/
def files : Call → FileSet
  | compile files => files
  | handle request => request.files

/-- The transformer after a call. -/
def run (engine : Engine) (t : Transformer) : Call → Transformer
  | compile files => (t.compile engine files).2
  | handle request => (t.handle engine request).2

end Call

/-- The transformer after calls that come one after another. -/
def after (engine : Engine) (t : Transformer) (calls : List Call) : Transformer :=
  calls.foldl (Call.run engine) t

variable {engine : Engine} {seen : List FileSet} {t : Transformer}

theorem fst_compile (files : FileSet) :
    (t.compile engine files).1 = (Compile.compile engine (t.job files) t.cache).1 := rfl

theorem snd_compile (files : FileSet) :
    (t.compile engine files).2 =
      ⟨t.config, t.stamp, (Compile.compile engine (t.job files) t.cache).2⟩ := rfl

/-- The job of a call of a transformer, with its cache before and after. -/
theorem compile_eq_iff {result : Except CompileError String} {files : FileSet}
    {next : Transformer} :
    t.compile engine files = (result, next) ↔
      Compile.compile engine (t.job files) t.cache = (result, next.cache) ∧
        next = { t with cache := next.cache } := by
  rw [Transformer.compile]
  rcases hc : Compile.compile engine (t.job files) t.cache with ⟨result', cache'⟩
  constructor
  · intro h
    cases h
    exact ⟨rfl, rfl⟩
  · rintro ⟨h, hnext⟩
    obtain ⟨rfl, rfl⟩ := Prod.mk.inj h
    rw [hnext]

/-! ### Sound transformers -/

/-- The cache of a transformer holds what was compiled in some sets. -/
def Sound (engine : Engine) (seen : List FileSet) (t : Transformer) : Prop :=
  ∀ files, SoundCache engine (t.job files) seen t.config.entryFile t.cache

/-- A call leaves the settings as they are, and the cache sound. -/
theorem sound_run (ha : engine.Accepting) (hkeyed : ∀ files ∈ seen, FileSet.Keyed files)
    (hdist : Distinguished seen) (call : Call) (hcall : call.files ∈ seen)
    (h : Sound engine seen t) :
    (call.run engine t).config = t.config ∧ (call.run engine t).stamp = t.stamp ∧
      Sound engine seen (call.run engine t) := by
  have hcompile (files : FileSet) (hfiles : files ∈ seen) :
      Sound engine seen (t.compile engine files).2 :=
    fun _ => (compile_eq_plain ha hkeyed hdist hfiles (h files)).2
  cases call with
  | compile files => exact ⟨rfl, rfl, hcompile files hcall⟩
  | handle request =>
    have hhandle : (t.handle engine request).2 = (t.attempt engine request.files).2 := rfl
    rw [Call.run, hhandle, attempt]
    split
    · exact ⟨rfl, rfl, h⟩
    · exact ⟨rfl, rfl, hcompile _ hcall⟩

/-- Calls leave the settings as they are, and the cache sound. -/
theorem sound_after (ha : engine.Accepting) (hkeyed : ∀ files ∈ seen, FileSet.Keyed files)
    (hdist : Distinguished seen) {calls : List Call}
    (hcalls : ∀ call ∈ calls, call.files ∈ seen) (h : Sound engine seen t) :
    (after engine t calls).config = t.config ∧ (after engine t calls).stamp = t.stamp ∧
      Sound engine seen (after engine t calls) := by
  induction calls generalizing t with
  | nil => exact ⟨rfl, rfl, h⟩
  | cons call rest ih =>
    obtain ⟨hconfig, hstamp, hsound⟩ :=
      sound_run ha hkeyed hdist call (hcalls call List.mem_cons_self) h
    obtain ⟨hconfig', hstamp', hsound'⟩ :=
      ih (fun c hc => hcalls c (List.mem_cons_of_mem call hc)) hsound
    exact ⟨hconfig'.trans hconfig, hstamp'.trans hstamp, hsound'⟩

/-- After any calls, a transformer compiles the entry of a file set as it is compiled without a
cache, if fingerprints tell the files apart that were seen. -/
theorem compile_after_eq_plain {engine : Engine} (ha : engine.Accepting) (config : Config)
    (stamp : Nat) (calls : List Call) (files : FileSet)
    (hkeyed : ∀ seen ∈ files :: calls.map Call.files, FileSet.Keyed seen)
    (hdist : Distinguished (files :: calls.map Call.files)) :
    ((after engine (ofConfig config stamp) calls).compile engine files).1 =
      plainCompile engine ⟨config, files, stamp⟩ := by
  have hcalls : ∀ call ∈ calls, call.files ∈ files :: calls.map Call.files := fun call hcall =>
    List.mem_cons_of_mem _ (List.mem_map_of_mem hcall)
  have hstart : Sound engine (files :: calls.map Call.files) (ofConfig config stamp) :=
    fun _ => soundCache_empty
  obtain ⟨hconfig, hstamp, hsound⟩ := sound_after ha hkeyed hdist hcalls hstart
  have hjob : (after engine (ofConfig config stamp) calls).job files = ⟨config, files, stamp⟩ := by
    rw [job, hconfig, hstamp]
    rfl
  rw [← hjob]
  exact (compile_eq_plain ha hkeyed hdist List.mem_cons_self (hsound files)).1

/-- The files of `LivePreview.Compile.ringJob` before the second module imports the first. -/
def lineFiles : FileSet :=
  ringJob.files.put ⟨"b.ts", "console.log(1)\n", .script⟩

/-- A circle that closes after its modules were cached is found. -/
theorem compile_after_eq_plain_ring :
    Distinguished [ringJob.files, lineFiles, lineFiles] ∧
      ((after Script.engine.lenient (ofConfig ringJob.config ringJob.stamp)
          [.handle ⟨1, lineFiles⟩, .compile lineFiles]).compile Script.engine.lenient
            ringJob.files).1 =
        .error (.circularImport ["a.ts", "b.ts", "a.ts"]) := by
  have ha : Script.engine.lenient.Accepting := Engine.accepting_lenient _
  have hring : FileSet.Keyed ringJob.files := FileSet.keyed_ofFiles _
  have hline : FileSet.Keyed lineFiles := FileSet.keyed_put hring _
  have hdist : Distinguished [ringJob.files, lineFiles, lineFiles] := by decide +kernel
  have hplain := compile_after_eq_plain ha ringJob.config ringJob.stamp
    [.handle ⟨1, lineFiles⟩, .compile lineFiles] ringJob.files
    (by simp [Call.files, hring, hline]) hdist
  refine ⟨hdist, hplain.trans ?_⟩
  have hempty : (Compile.compile Script.engine.lenient ringJob Cache.empty).1 =
      plainCompile Script.engine.lenient ringJob :=
    (compile_eq_plain ha (by simpa using hring) (distinguished_singleton hring)
      (List.mem_singleton_self _) soundCache_empty).1
  rw [← hempty, ← compileWithin_eq_compile fun cache => (.error .emptyOutput, cache)]
  decide +kernel

end LivePreview.Transformer
