import LivePreview.Proofs.Compile.ImportGraph
import LivePreview.Proofs.Compile.Records

/-!
# Compiling without a cache

The same compilation without a cache: every dependency is compiled anew at every import. Then what
becomes of an import depends on the import and the modules in progress alone, and a compiled module
can be described in closed form: the module with each relative import redirected, and the names
looked at for its imports and for those of its dependencies.

## Main definitions

* `LivePreview.Compile.plain`, `LivePreview.Compile.plainCompile`: compiling without a cache.
* `LivePreview.Compile.outcome`: what an import becomes.
* `LivePreview.Compile.Touches`: the names recorded for an import.
* `LivePreview.Compile.Written`: the description of a compiled module.

## Main results

* `LivePreview.Compile.plain_cases`: there are three outcomes with an engine that writes every
  module.
* `LivePreview.Compile.plain_eq_ok_iff`: compiled modules are as described.
* `LivePreview.Compile.parse_error_of_plain`: without a circle, only what is no module fails.
-/

namespace LivePreview.Compile

open Redirection (redirect relative run)

/-! ### The pipeline -/

/-- Builds a dependency that is no module in progress, without a cache. -/
abbrev PlainBuild (job : Job) (stack : List String) :=
  (file : SourceFile) → file ∈ job.files.values → file.name ∉ stack → Except CompileError Compiled

/-- The compiled form of a dependency. -/
def plainFile (job : Job) {stack : List String} (build : PlainBuild job stack) (file : SourceFile)
    (hmem : file ∈ job.files.values) (hnew : file.name ∉ stack) : Except CompileError Compiled :=
  match file.language with
  | .styles => .ok ⟨Asset.styleModule file job.stamp, NameMap.empty⟩
  | .data => .ok ⟨Asset.dataModule file, NameMap.empty⟩
  | _ => build file hmem hnew

/-- What becomes of an import whose file is compiled with the given result. -/
def replacement : Except CompileError Compiled → Except CompileError (Option String)
  | .ok compiled => .ok (some (Asset.reference compiled.code))
  | .error (.circularImport chain) => .error (.circularImport chain)
  | .error _ => .ok none

/-- A record, and that of a file that is compiled with the given result. -/
def withRecord (tried : Tried) : Except CompileError Compiled → Tried
  | .ok compiled => tried.union compiled.dependencies
  | .error _ => tried

/-- What a relative import of a module is replaced by. -/
def plainImport (job : Job) (stack : List String) (build : PlainBuild job stack)
    (importer specifier : String) : StateM Tried (Except CompileError (Option String)) :=
  fun tried =>
    let found := Resolve.find job.files importer specifier job.config.resolveExtensions tried
    match h : found.1 with
    | none => (.ok none, found.2)
    | some file =>
      if hnew : file.name ∈ stack then
        (.error (.circularImport (circle stack file.name)), found.2)
      else
        let result := plainFile job build file (Resolve.mem_values_of_find h) hnew
        (replacement result, withRecord found.2 result)

/-- Records what a relative import would be resolved against, and leaves it as it is. -/
def plainRecord (job : Job) (importer specifier : String) :
    StateM Tried (Except CompileError (Option String)) := fun tried =>
  (.ok none, (Resolve.find job.files importer specifier job.config.resolveExtensions tried).2)

/-- Compiles a module, its relative imports being visited by `visit`. -/
def plainModule (engine : Engine) (job : Job) (file : SourceFile)
    (visit : String → StateM Tried (Except CompileError (Option String))) :
    Except CompileError Compiled :=
  match engine.parse file.name (moduleText job file) with
  | .error message => .error (.parse file.name message)
  | .ok m =>
    match run visit (engine.sources m) NameMap.empty with
    | (redirected, tried) => finish engine file m redirected tried

/-- A first attempt, and after a failure that mentions the marker a second one. -/
def plainRetry (marker : String) (first second : Except CompileError Compiled) :
    Except CompileError Compiled :=
  match first with
  | .ok compiled => .ok compiled
  | .error e =>
    if retries marker e then
      match second with
      | .ok compiled => .ok compiled
      | .error _ => .error (.degraded e.message)
    else .error e

/-- Compiles a module and everything it imports, each dependency anew at each import. -/
def plain (engine : Engine) (job : Job) (stack : List String) (file : SourceFile) :
    Except CompileError Compiled :=
  plainRetry job.config.inMemoryMarker
    (plainModule engine job file
      (plainImport job stack (fun dep _ _ => plain engine job (stack ++ [dep.name]) dep) file.name))
    (plainModule engine job file (plainRecord job file.name))
termination_by unvisited job.files stack
decreasing_by exact unvisited_push_lt ‹_› ‹_›

/-- Compiles the entry of a job, without a cache. -/
def plainCompile (engine : Engine) (job : Job) : Except CompileError String :=
  match entry? job with
  | none => .error (.entryMissing job.config.entryFile)
  | some file => entryCode (plain engine job [(patched job file).name] (patched job file))

variable {engine : Engine} {job : Job} {stack : List String} {file target : SourceFile}
  {importer source : String} {tried : Tried}

/-! ### Imports -/

/-- The compiled form of a file imported from the top of a stack. -/
def plainTarget (engine : Engine) (job : Job) (stack : List String) (file : SourceFile) :
    Except CompileError Compiled :=
  match wrapped? job file with
  | some text => .ok ⟨text, NameMap.empty⟩
  | none => plain engine job (stack ++ [file.name]) file

theorem plainTarget_of_wrapped {text : String} (h : wrapped? job file = some text) :
    plainTarget engine job stack file = .ok ⟨text, NameMap.empty⟩ := by
  rw [plainTarget, h]

theorem plainTarget_of_module (h : wrapped? job file = none) :
    plainTarget engine job stack file = plain engine job (stack ++ [file.name]) file := by
  rw [plainTarget, h]

/-- A file is compiled by being wrapped, or as a module. -/
theorem plainTarget_eq_ok_iff {compiled : Compiled} :
    plainTarget engine job stack file = .ok compiled ↔
      (∃ text, wrapped? job file = some text ∧ ⟨text, NameMap.empty⟩ = compiled) ∨
        wrapped? job file = none ∧ plain engine job (stack ++ [file.name]) file = .ok compiled := by
  rw [plainTarget]
  cases wrapped? job file <;> simp

theorem plainFile_eq_plainTarget (hmem : file ∈ job.files.values) (hnew : file.name ∉ stack) :
    plainFile job (fun dep _ _ => plain engine job (stack ++ [dep.name]) dep) file hmem hnew =
      plainTarget engine job stack file := by
  rw [plainFile, plainTarget, wrapped?]
  cases file.language <;> rfl

/-- What a relative import of the module at the top of a stack becomes. -/
def outcome (engine : Engine) (job : Job) (stack : List String) (importer source : String) :
    Except CompileError (Option String) :=
  match target? job importer source with
  | none => .ok none
  | some file =>
    if file.name ∈ stack then .error (.circularImport (circle stack file.name))
    else replacement (plainTarget engine job stack file)

/-- A name is recorded for an import: it is looked at, or recorded for its file. -/
def Touches (engine : Engine) (job : Job) (stack : List String) (importer source k : String) :
    Prop :=
  k ∈ probes job importer source ∨
    ∃ file compiled, target? job importer source = some file ∧ file.name ∉ stack ∧
      plainTarget engine job stack file = .ok compiled ∧ compiled.dependencies.contains k = true

/-- The visitor of the imports of the module at the top of a stack. -/
def plainVisitor (engine : Engine) (job : Job) (stack : List String) (importer : String) :
    String → StateM Tried (Except CompileError (Option String)) :=
  plainImport job stack (fun dep _ _ => plain engine job (stack ++ [dep.name]) dep) importer

theorem plainVisitor_of_none (h : target? job importer source = none) :
    plainVisitor engine job stack importer source tried =
      (.ok none, recorded job importer source tried) := by
  rw [plainVisitor, plainImport]
  split <;> rename_i heq
  · rw [find_eq]
  · rw [find_eq, h] at heq
    cases heq

theorem plainVisitor_of_mem (h : target? job importer source = some file)
    (hmem : file.name ∈ stack) :
    plainVisitor engine job stack importer source tried =
      (.error (.circularImport (circle stack file.name)), recorded job importer source tried) := by
  rw [plainVisitor, plainImport]
  split <;> rename_i heq <;> rw [find_eq, h] at heq
  · cases heq
  · obtain rfl := Option.some.inj heq
    rw [dif_pos hmem, find_eq]

theorem plainVisitor_of_not_mem (h : target? job importer source = some file)
    (hnew : file.name ∉ stack) :
    plainVisitor engine job stack importer source tried =
      (replacement (plainTarget engine job stack file),
        withRecord (recorded job importer source tried) (plainTarget engine job stack file)) := by
  rw [plainVisitor, plainImport]
  split <;> rename_i heq <;> rw [find_eq, h] at heq
  · cases heq
  · obtain rfl := Option.some.inj heq
    rw [dif_neg hnew, plainFile_eq_plainTarget, find_eq]

/-- What an import becomes does not hang on the record. -/
theorem fst_plainVisitor :
    (plainVisitor engine job stack importer source tried).1 =
      outcome engine job stack importer source := by
  rw [outcome]
  cases ht : target? job importer source with
  | none => rw [plainVisitor_of_none ht]
  | some file =>
    by_cases hmem : file.name ∈ stack
    · rw [plainVisitor_of_mem ht hmem]
      simp only [hmem, if_true]
    · rw [plainVisitor_of_not_mem ht hmem]
      simp only [hmem, if_false]

theorem circular_of_replacement {result : Except CompileError Compiled} {e : CompileError}
    (h : replacement result = .error e) : ∃ chain, e = .circularImport chain := by
  rcases result with e' | compiled
  · cases e' with
    | circularImport chain => exact ⟨chain, (Except.error.inj h).symm⟩
    | _ => cases h
  · cases h

/-- An import only fails with a circle. -/
theorem circular_of_outcome {e : CompileError}
    (h : outcome engine job stack importer source = .error e) :
    ∃ chain, e = .circularImport chain := by
  rw [outcome] at h
  split at h
  · cases h
  · split at h
    · exact ⟨_, (Except.error.inj h).symm⟩
    · exact circular_of_replacement h

/-- A visit adds the names of its import to the record. -/
theorem contains_plainVisitor (k : String) :
    (plainVisitor engine job stack importer source tried).2.contains k = true ↔
      tried.contains k = true ∨ Touches engine job stack importer source k := by
  rw [Touches, or_left_comm]
  cases ht : target? job importer source with
  | none =>
    rw [plainVisitor_of_none ht, contains_recorded]
    simp
  | some file =>
    by_cases hmem : file.name ∈ stack
    · rw [plainVisitor_of_mem ht hmem, contains_recorded]
      simp [hmem]
    · rw [plainVisitor_of_not_mem ht hmem]
      rcases hc : plainTarget engine job stack file with e | compiled
      · simp only [withRecord, contains_recorded]
        simp [hc]
      · simp only [withRecord, contains_union, contains_recorded]
        simp [hc, hmem, or_assoc]

/-- A visit keeps a record current if the records of compiled files are. -/
theorem Current.plainVisitor (h : Current job.files tried)
    (hfile : ∀ file compiled, target? job importer source = some file → file.name ∉ stack →
      plainTarget engine job stack file = .ok compiled →
        Current job.files compiled.dependencies) :
    Current job.files (plainVisitor engine job stack importer source tried).2 := by
  cases ht : target? job importer source with
  | none =>
    rw [plainVisitor_of_none ht]
    exact h.recorded
  | some file =>
    by_cases hmem : file.name ∈ stack
    · rw [plainVisitor_of_mem ht hmem]
      exact h.recorded
    · rw [plainVisitor_of_not_mem ht hmem]
      rcases hc : plainTarget engine job stack file with e | compiled
      · exact h.recorded
      · exact h.recorded.union (hfile file compiled ht hmem hc)

/-! ### Modules -/

theorem plain_eq :
    plain engine job stack file =
      plainRetry job.config.inMemoryMarker
        (plainModule engine job file (plainVisitor engine job stack file.name))
        (plainModule engine job file (plainRecord job file.name)) := by
  rw [plain, plainVisitor]

/-- A file that is no module is refused. -/
theorem plain_of_parse_error {message : String}
    (h : engine.parse file.name (moduleText job file) = .error message) :
    plain engine job stack file =
      .error (refusal job.config.inMemoryMarker file.name message) := by
  have hmodule : ∀ visit, plainModule engine job file visit =
      .error (.parse file.name message) := fun visit => by rw [plainModule, h]
  rw [plain_eq, hmodule, hmodule, plainRetry, refusal]
  split <;> rfl

section Parsed

variable {m : engine.Module} (hm : engine.parse file.name (moduleText job file) = .ok m)

include hm in
theorem plainModule_of_parse
    (visit : String → StateM Tried (Except CompileError (Option String))) :
    plainModule engine job file visit =
      finish engine file m (run visit (engine.sources m) NameMap.empty).1
        (run visit (engine.sources m) NameMap.empty).2 := by
  simp only [plainModule, hm]
  rfl

/-- The visit of the imports of a module. -/
abbrev plainVisited (engine : Engine) (job : Job) (stack : List String) (file : SourceFile)
    (m : engine.Module) : Redirection CompileError × Tried :=
  run (plainVisitor engine job stack file.name) (engine.sources m) NameMap.empty

/-- What the imports of a module become does not hang on the record. -/
theorem fst_plainVisited : ∀ source ∈ engine.sources m, relative source = true → ∀ tried,
    (plainVisitor engine job stack file.name source tried).1 =
      outcome engine job stack file.name source :=
  fun _ _ _ _ => fst_plainVisitor

include hm in
/-- A failing import fails the module, with a circle. -/
theorem plain_of_failure {e : CompileError}
    (hf : (plainVisited engine job stack file m).1.failure = some e) :
    ∃ chain, plain engine job stack file = .error (.circularImport chain) := by
  have hcircular : ∃ chain, e = .circularImport chain := by
    refine (Redirection.run_induct (plainVisitor engine job stack file.name) (fun _ => True)
      (fun _ => True) (∃ chain, · = .circularImport chain) ?_ (s := NameMap.empty) trivial).2.2
      e hf
    refine fun source _ _ tried _ => ⟨trivial, fun _ => trivial, fun e' he => ?_⟩
    rw [fst_plainVisitor] at he
    exact circular_of_outcome he
  obtain ⟨chain, rfl⟩ := hcircular
  have hfirst : plainModule engine job file (plainVisitor engine job stack file.name) =
      .error (.circularImport chain) := by
    rw [plainModule_of_parse hm, finish, hf]
  exact ⟨chain, by rw [plain_eq, hfirst]; rfl⟩

include hm in
/-- A module whose imports are visited without a circle is written. -/
theorem plain_of_emit {code : String}
    (hf : (plainVisited engine job stack file m).1.failure = none)
    (he : engine.emit (engine.withSources m (plainVisited engine job stack file m).1.sources) =
      .ok code) :
    plain engine job stack file = .ok ⟨code, (plainVisited engine job stack file m).2⟩ := by
  have hfirst : plainModule engine job file (plainVisitor engine job stack file.name) =
      .ok ⟨code, (plainVisited engine job stack file m).2⟩ := by
    rw [plainModule_of_parse hm, finish, hf]
    simp only [he]
  rw [plain_eq, hfirst]
  rfl

end Parsed

/-! ### Engines that write every module -/

/-- There are three ways to compile a file without a cache: it is no module, one of its imports
closes a circle, or it is visited and written. -/
theorem plain_cases (ha : engine.Accepting) (job : Job) (stack : List String) (file : SourceFile) :
    (∃ message, engine.parse file.name (moduleText job file) = .error message ∧
      plain engine job stack file =
        .error (refusal job.config.inMemoryMarker file.name message)) ∨
    ∃ m, engine.parse file.name (moduleText job file) = .ok m ∧
      ((∃ chain, plain engine job stack file = .error (.circularImport chain)) ∨
        ∃ code, (plainVisited engine job stack file m).1.failure = none ∧
          engine.emit (engine.withSources m (plainVisited engine job stack file m).1.sources) =
            .ok code ∧
          plain engine job stack file = .ok ⟨code, (plainVisited engine job stack file m).2⟩) := by
  cases hm : engine.parse file.name (moduleText job file) with
  | error message => exact .inl ⟨message, rfl, plain_of_parse_error hm⟩
  | ok m =>
    refine .inr ⟨m, rfl, ?_⟩
    cases hf : (plainVisited engine job stack file m).1.failure with
    | some e => exact .inl (plain_of_failure hm hf)
    | none =>
      obtain ⟨code, he⟩ := ha _ _ m (plainVisited engine job stack file m).1.sources hm
      exact .inr ⟨code, rfl, he, plain_of_emit hm hf he⟩

/-- A file fails without a circle only if it is no module. -/
theorem parse_error_of_plain (ha : engine.Accepting) {e : CompileError}
    (h : plain engine job stack file = .error e) (hne : ∀ chain, e ≠ .circularImport chain) :
    ∃ message, engine.parse file.name (moduleText job file) = .error message ∧
      e = refusal job.config.inMemoryMarker file.name message := by
  rcases plain_cases ha job stack file with
    ⟨message, hm, hr⟩ | ⟨m, -, ⟨chain, hr⟩ | ⟨code, -, -, hr⟩⟩ <;> rw [hr] at h
  · cases h
    exact ⟨message, hm, rfl⟩
  · cases h
    exact absurd rfl (hne chain)
  · cases h

/-- The description of a compiled module: it is written with each relative import redirected, and
its record holds, as they are at present, the names recorded for its relative imports. -/
structure Written (engine : Engine) (job : Job) (stack : List String) (file : SourceFile)
    (m : engine.Module) (compiled : Compiled) : Prop where
  /-- The file is a module. -/
  parse : engine.parse file.name (moduleText job file) = .ok m
  /-- No relative import closes a circle. -/
  outcome_eq : ∀ source ∈ engine.sources m, relative source = true →
    ∃ text?, outcome engine job stack file.name source = .ok text?
  /-- The text of the redirected module. -/
  emit : engine.emit (engine.withSources m
    ((engine.sources m).map (redirect (outcome engine job stack file.name)))) = .ok compiled.code
  /-- The record is current. -/
  current : Current job.files compiled.dependencies
  /-- The recorded names. -/
  contains_iff : ∀ k, compiled.dependencies.contains k = true ↔
    ∃ source ∈ engine.sources m, relative source = true ∧
      Touches engine job stack file.name source k

/-- Current records of the same names are the same. -/
theorem Current.ext {files : FileSet} {tried tried' : Tried} (h : Current files tried)
    (h' : Current files tried')
    (hcontains : ∀ k, tried.contains k = true ↔ tried'.contains k = true) : tried = tried' := by
  refine NameMap.ext_get? fun k => ?_
  have hk := hcontains k
  rw [NameMap.contains, NameMap.contains] at hk
  cases ht : tried.get? k with
  | none =>
    rw [ht] at hk
    have ht' : tried'.get? k = none := by simpa using hk
    exact ht'.symm
  | some fp =>
    rw [ht] at hk
    obtain ⟨fp', ht'⟩ := Option.isSome_iff_exists.1 (hk.1 rfl)
    rw [ht', h k fp ht, h' k fp' ht']

/-- A compiled module is written as described. -/
theorem exists_written_of_plain (ha : engine.Accepting) (stack : List String) (file : SourceFile) :
    ∀ compiled, plain engine job stack file = .ok compiled →
      ∃ m, Written engine job stack file m compiled := by
  induction stack, file using stack_induction job.files with
  | step stack file ih =>
  intro compiled h
  rcases plain_cases ha job stack file with
    ⟨message, -, hr⟩ | ⟨m, hm, ⟨chain, hr⟩ | ⟨code, hf, he, hr⟩⟩ <;> rw [hr] at h
  · cases h
  · cases h
  obtain rfl := Except.ok.inj h
  have hvisits := Redirection.visits_run hf
  refine ⟨m, hm, (Redirection.failure_run_eq_none_iff fst_plainVisited).1 hf, ?_, ?_, fun k => ?_⟩
  · rw [← hvisits.sources_eq fst_plainVisited]
    exact he
  · refine (Redirection.run_induct (plainVisitor engine job stack file.name)
      (Current job.files) (fun _ => True) (fun _ => True) ?_ (current_empty _)).1
    refine fun source _ _ tried htried => ⟨htried.plainVisitor ?_, by simp, by simp⟩
    intro target compiled' ht hnew hc
    rcases plainTarget_eq_ok_iff.1 hc with ⟨text, -, rfl⟩ | ⟨-, hplain⟩
    · exact current_empty _
    · obtain ⟨m', hwritten⟩ := ih target (mem_values_of_target? ht) hnew compiled' hplain
      exact hwritten.current
  · rw [hvisits.snd_iff (fun tried : Tried => tried.contains k = true)
      (fun source => Touches engine job stack file.name source k)
      (fun source _ _ tried => contains_plainVisitor k)]
    simp [NameMap.contains]

/-- The compiled modules are those described. -/
theorem plain_eq_ok_iff (ha : engine.Accepting) {compiled : Compiled} :
    plain engine job stack file = .ok compiled ↔
      ∃ m, Written engine job stack file m compiled := by
  refine ⟨exists_written_of_plain ha stack file compiled, fun ⟨m, h⟩ => ?_⟩
  have hf : (plainVisited engine job stack file m).1.failure = none :=
    (Redirection.failure_run_eq_none_iff fst_plainVisited).2 h.outcome_eq
  have hplain : plain engine job stack file =
      .ok ⟨compiled.code, (plainVisited engine job stack file m).2⟩ := by
    refine plain_of_emit h.parse hf ?_
    rw [(Redirection.visits_run hf).sources_eq fst_plainVisited]
    exact h.emit
  -- Both records are current and hold the same names.
  obtain ⟨m', h'⟩ := exists_written_of_plain ha stack file _ hplain
  obtain rfl : m = m' := Except.ok.inj (h.parse.symm.trans h'.parse)
  have hdeps : (plainVisited engine job stack file m).2 = compiled.dependencies :=
    h'.current.ext h.current fun k => (h'.contains_iff k).trans (h.contains_iff k).symm
  rw [hplain, hdeps]

end LivePreview.Compile
