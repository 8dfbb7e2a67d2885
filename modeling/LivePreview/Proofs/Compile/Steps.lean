import LivePreview.Compile
import LivePreview.Proofs.Redirection
import LivePreview.Proofs.Resolve

/-!
# The steps of a compilation

One equation for each way in which a step of a compilation can end. They are stated for functions
that need no proof that a dependency is a new file of the set; the recursion of a compilation only
ever calls itself on such a file.

## Main definitions

* `LivePreview.Compile.target?`, `LivePreview.Compile.probes`: what an import stands for, and the
  names looked at for it.
* `LivePreview.Compile.compileTarget`, `LivePreview.Compile.fetch`,
  `LivePreview.Compile.visitor`: the parts of `LivePreview.Compile.transform`.
* `LivePreview.Compile.FetchEnds`, `LivePreview.Compile.VisitEnds`: the ways in which a fetch and
  the visit of an import end.
* `LivePreview.Compile.refusal`: the failure of a file that is no module.

## Main results

* `LivePreview.Compile.stack_induction`: induction over what is compiled below a stack.
* `LivePreview.Compile.fetch_ends`, `LivePreview.Compile.visitor_ends`: there are no other ways.
* `LivePreview.Compile.transform_of_parse_error`, `LivePreview.Compile.transform_of_circular`,
  `LivePreview.Compile.transform_of_emit`, `LivePreview.Compile.transform_of_emit_error`: the ways
  in which the compilation of a module ends.
* `LivePreview.Compile.transform_cases`: there are three with an engine that writes every module.
-/

namespace LivePreview.Compile

open Redirection (run)

variable {engine : Engine} {job : Job} {stack : List String} {file : SourceFile}
  {importer source : String} {cache : Cache} {tried : Tried}

/-- To show something of all compilations below stacks, show it of one below a stack when it holds
of the dependencies that may enter the stack. -/
@[elab_as_elim]
theorem stack_induction (files : FileSet) {motive : List String → SourceFile → Prop}
    (step : ∀ stack file, (∀ dep ∈ files.values, dep.name ∉ stack →
      motive (stack ++ [dep.name]) dep) → motive stack file)
    (stack : List String) (file : SourceFile) : motive stack file := by
  induction hn : unvisited files stack using Nat.strongRecOn generalizing stack file with
  | ind n ih =>
    refine step stack file fun dep hmem hnew => ?_
    have hlt : unvisited files (stack ++ [dep.name]) < n := hn ▸ unvisited_push_lt hmem hnew
    exact ih _ hlt _ _ rfl

/-! ### Dependencies -/

/-- The file an import of a module stands for. -/
@[irreducible]
def target? (job : Job) (importer source : String) : Option SourceFile :=
  Resolve.target? job.files importer source job.config.resolveExtensions

/-- The names looked at for an import of a module. -/
@[irreducible]
def probes (job : Job) (importer source : String) : List String :=
  Resolve.probes job.files importer source job.config.resolveExtensions

/-- The record with the names looked at for an import of a module. -/
@[irreducible]
def recorded (job : Job) (importer source : String) (tried : Tried) : Tried :=
  (Resolve.find job.files importer source job.config.resolveExtensions tried).2

theorem get?_recorded (k : String) :
    (recorded job importer source tried).get? k =
      if k ∈ probes job importer source then some (FileSet.current job.files k)
      else tried.get? k := by
  rw [recorded, probes]
  exact Resolve.get?_find tried k

theorem find_eq :
    Resolve.find job.files importer source job.config.resolveExtensions tried =
      (target? job importer source, recorded job importer source tried) := by
  rw [target?, recorded, ← Resolve.fst_find tried]

/-- An import stands for a file of the set. -/
theorem mem_values_of_target? (h : target? job importer source = some file) :
    file ∈ job.files.values := by
  rw [target?] at h
  exact Resolve.mem_values_of_target? h

/-- In a keyed set the name of the file that an import stands for is looked at. -/
theorem mem_probes_of_target? (hfiles : FileSet.Keyed job.files)
    (h : target? job importer source = some file) :
    file.name ∈ probes job importer source ∧ job.files.get? file.name = some file := by
  rw [target?] at h
  rw [probes]
  exact Resolve.mem_probes_of_target? hfiles h

/-- A file looked at is what the import stands for. -/
theorem target?_eq_of_mem_probes {k : String} (hk : k ∈ probes job importer source)
    (hfile : job.files.get? k = some file) : target? job importer source = some file := by
  rw [probes] at hk
  rw [target?]
  exact Resolve.target?_eq_of_mem_probes hk hfile

section Agreement

variable {files' : FileSet}
  (h : ∀ k ∈ probes job importer source, files'.get? k = job.files.get? k)

include h in
/-- Sets that agree on the names looked at look at the same names. -/
theorem probes_congr :
    probes { job with files := files' } importer source = probes job importer source := by
  rw [probes] at h
  rw [probes, probes]
  exact Resolve.probes_congr h

include h in
/-- The names looked at decide what an import stands for. -/
theorem target?_congr :
    target? { job with files := files' } importer source = target? job importer source := by
  rw [probes] at h
  rw [target?, target?]
  exact Resolve.target?_congr h

include h in
/-- The names looked at decide what is recorded for an import. -/
theorem recorded_congr :
    recorded { job with files := files' } importer source tried =
      recorded job importer source tried := by
  rw [probes] at h
  rw [recorded, recorded]
  exact congrArg Prod.snd (Resolve.find_congr h tried)

end Agreement

/-- The text of a file that is not compiled as a module: style sheets and data are wrapped. -/
def wrapped? (job : Job) (file : SourceFile) : Option String :=
  match file.language with
  | .styles => some (Asset.styleModule file job.stamp)
  | .data => some (Asset.dataModule file)
  | _ => none

/-- The compiled form of a file imported from the top of a stack. -/
def compileTarget (engine : Engine) (job : Job) (stack : List String) (file : SourceFile) :
    CacheM (Except CompileError Compiled) :=
  match wrapped? job file with
  | some text => pure (.ok ⟨text, NameMap.empty⟩)
  | none => transform engine job (stack ++ [file.name]) file

theorem compileTarget_of_wrapped {text : String} (h : wrapped? job file = some text) :
    compileTarget engine job stack file cache = (.ok ⟨text, NameMap.empty⟩, cache) := by
  rw [compileTarget, h]
  rfl

theorem compileTarget_of_module (h : wrapped? job file = none) :
    compileTarget engine job stack file = transform engine job (stack ++ [file.name]) file := by
  rw [compileTarget, h]

theorem compileFile_eq_compileTarget (hmem : file ∈ job.files.values) (hnew : file.name ∉ stack) :
    compileFile job (fun dep _ _ => transform engine job (stack ++ [dep.name]) dep) file hmem hnew =
      compileTarget engine job stack file := by
  rw [compileFile, compileTarget, wrapped?]
  cases file.language <;> rfl

/-- The entry of a compiled file. -/
def entryOf (file : SourceFile) (compiled : Compiled) : CacheEntry :=
  ⟨file.fingerprint, Asset.reference compiled.code, compiled.dependencies⟩

/-- The entry of a file imported from the top of a stack, from the cache if it is current. -/
def fetch (engine : Engine) (job : Job) (stack : List String) (file : SourceFile) :
    CacheM (Except CompileError CacheEntry) := fun cache =>
  cache.getOrCompute file.name file.fingerprint job.files.current fun cache =>
    match compileTarget engine job stack file cache with
    | (.ok compiled, cache) => (.ok (entryOf file compiled), cache)
    | (.error e, cache) => (.error e, cache)

theorem dependency_eq_fetch (hmem : file ∈ job.files.values) (hnew : file.name ∉ stack) :
    dependency job (fun dep _ _ => transform engine job (stack ++ [dep.name]) dep) file hmem hnew =
      fetch engine job stack file := by
  funext cache
  rw [dependency, fetch, compileFile_eq_compileTarget]
  rfl

theorem fetch_of_hit {entry : CacheEntry}
    (h : cache.lookup file.name file.fingerprint job.files.current = some entry) :
    fetch engine job stack file cache = (.ok entry, cache.hit file.name) := by
  rw [fetch, Cache.getOrCompute, h]

theorem fetch_of_miss (h : cache.lookup file.name file.fingerprint job.files.current = none)
    {compiled : Compiled} {cache' : Cache}
    (hc : compileTarget engine job stack file (cache.miss file.name) = (.ok compiled, cache')) :
    fetch engine job stack file cache =
      (.ok (entryOf file compiled), cache'.store file.name (entryOf file compiled)) := by
  rw [fetch, Cache.getOrCompute, h]
  simp only [hc]

theorem fetch_of_miss_error (h : cache.lookup file.name file.fingerprint job.files.current = none)
    {e : CompileError} {cache' : Cache}
    (hc : compileTarget engine job stack file (cache.miss file.name) = (.error e, cache')) :
    fetch engine job stack file cache = (.error e, cache') := by
  rw [fetch, Cache.getOrCompute, h]
  simp only [hc]

/-- The ways in which a fetch ends. -/
inductive FetchEnds (engine : Engine) (job : Job) (stack : List String) (file : SourceFile)
    (cache : Cache) : Except CompileError CacheEntry × Cache → Prop where
  /-- A current entry is served. -/
  | served {entry : CacheEntry}
    (h : cache.lookup file.name file.fingerprint job.files.current = some entry) :
    FetchEnds engine job stack file cache (.ok entry, cache.hit file.name)
  /-- A style sheet or data is wrapped. -/
  | wrapped {text : String}
    (h : cache.lookup file.name file.fingerprint job.files.current = none)
    (hw : wrapped? job file = some text) :
    FetchEnds engine job stack file cache
      (.ok (entryOf file ⟨text, NameMap.empty⟩),
        (cache.miss file.name).store file.name (entryOf file ⟨text, NameMap.empty⟩))
  /-- A module is compiled. -/
  | compiled {compiled : Compiled} {cache' : Cache}
    (h : cache.lookup file.name file.fingerprint job.files.current = none)
    (hw : wrapped? job file = none)
    (hc : transform engine job (stack ++ [file.name]) file (cache.miss file.name) =
      (.ok compiled, cache')) :
    FetchEnds engine job stack file cache
      (.ok (entryOf file compiled), cache'.store file.name (entryOf file compiled))
  /-- The compilation of a module fails. -/
  | failed {e : CompileError} {cache' : Cache}
    (h : cache.lookup file.name file.fingerprint job.files.current = none)
    (hw : wrapped? job file = none)
    (hc : transform engine job (stack ++ [file.name]) file (cache.miss file.name) =
      (.error e, cache')) :
    FetchEnds engine job stack file cache (.error e, cache')

theorem fetch_ends {result : Except CompileError CacheEntry × Cache}
    (h : fetch engine job stack file cache = result) :
    FetchEnds engine job stack file cache result := by
  subst h
  cases hl : cache.lookup file.name file.fingerprint job.files.current with
  | some entry =>
    rw [fetch_of_hit hl]
    exact .served hl
  | none =>
    cases hw : wrapped? job file with
    | some text =>
      rw [fetch_of_miss hl (compileTarget_of_wrapped hw)]
      exact .wrapped hl hw
    | none =>
      have htarget : compileTarget engine job stack file (cache.miss file.name) =
          transform engine job (stack ++ [file.name]) file (cache.miss file.name) := by
        rw [compileTarget_of_module hw]
      rcases hc : transform engine job (stack ++ [file.name]) file (cache.miss file.name) with
        ⟨e | compiled, cache'⟩ <;> rw [hc] at htarget
      · rw [fetch_of_miss_error hl htarget]
        exact .failed hl hw hc
      · rw [fetch_of_miss hl htarget]
        exact .compiled hl hw hc

/-! ### Imports -/

/-- The visitor of the imports of the module at the top of a stack. -/
def visitor (engine : Engine) (job : Job) (stack : List String) (importer : String) :
    String → StateM (Cache × Tried) (Except CompileError (Option String)) :=
  resolveImport job stack (fun dep _ _ => transform engine job (stack ++ [dep.name]) dep) importer

/-- An import that stands for no file stays as it is. -/
theorem visitor_of_none (h : target? job importer source = none) :
    visitor engine job stack importer source (cache, tried) =
      (.ok none, cache, recorded job importer source tried) := by
  rw [visitor, resolveImport]
  split <;> rename_i heq <;> rw [find_eq, h] at heq <;> simp_all

/-- An import of a module in progress closes a circle. -/
theorem visitor_of_mem (h : target? job importer source = some file) (hmem : file.name ∈ stack) :
    visitor engine job stack importer source (cache, tried) =
      (.error (.circularImport (circle stack file.name)), cache,
        recorded job importer source tried) := by
  rw [visitor, resolveImport]
  split <;> rename_i heq <;> rw [find_eq, h] at heq <;> simp_all

/-- Any other import is replaced by the reference of its file, if there is one. -/
theorem visitor_of_not_mem (h : target? job importer source = some file)
    (hnew : file.name ∉ stack) :
    visitor engine job stack importer source (cache, tried) =
      match fetch engine job stack file cache with
      | (.ok entry, cache) =>
        (.ok (some entry.reference), cache,
          (recorded job importer source tried).union entry.dependencies)
      | (.error (.circularImport chain), cache) =>
        (.error (.circularImport chain), cache, recorded job importer source tried)
      | (.error _, cache) => (.ok none, cache, recorded job importer source tried) := by
  rw [visitor, resolveImport]
  split <;> rename_i heq <;> rw [find_eq, h] at heq
  · simp at heq
  · obtain ⟨rfl, rfl⟩ : file = _ ∧ recorded job importer source tried = _ := by
      simpa using heq
    rw [dif_neg hnew]
    exact dependency_eq_fetch (mem_values_of_target? h) hnew ▸ rfl

/-- An import of a file that fails without a circle stays as it is. -/
theorem visitor_of_fetch_error (h : target? job importer source = some file)
    (hnew : file.name ∉ stack) {e : CompileError} {cache' : Cache}
    (hfetch : fetch engine job stack file cache = (.error e, cache'))
    (hne : ∀ chain, e ≠ .circularImport chain) :
    visitor engine job stack importer source (cache, tried) =
      (.ok none, cache', recorded job importer source tried) := by
  rw [visitor_of_not_mem h hnew, hfetch]
  cases e with
  | circularImport chain => exact absurd rfl (hne chain)
  | _ => rfl

/-- A second attempt records what an import stands for, and keeps it. -/
theorem recordImport_eq (s : Cache × Tried) :
    recordImport job importer source s =
      (.ok none, s.1, recorded job importer source s.2) := by
  rw [recordImport, recorded]

/-- The ways in which the visit of an import ends. -/
inductive VisitEnds (engine : Engine) (job : Job) (stack : List String) (importer source : String)
    (cache : Cache) (tried : Tried) : Except CompileError (Option String) × Cache × Tried → Prop where
  /-- The import stands for no file. -/
  | unresolved (ht : target? job importer source = none) :
    VisitEnds engine job stack importer source cache tried
      (.ok none, cache, recorded job importer source tried)
  /-- The file is in progress. -/
  | closes {target : SourceFile} (ht : target? job importer source = some target)
    (hmem : target.name ∈ stack) :
    VisitEnds engine job stack importer source cache tried
      (.error (.circularImport (circle stack target.name)), cache,
        recorded job importer source tried)
  /-- The file is fetched, and the import is replaced. -/
  | replaced {target : SourceFile} {entry : CacheEntry} {cache' : Cache}
    (ht : target? job importer source = some target) (hnew : target.name ∉ stack)
    (hfetch : fetch engine job stack target cache = (.ok entry, cache')) :
    VisitEnds engine job stack importer source cache tried
      (.ok (some entry.reference), cache',
        (recorded job importer source tried).union entry.dependencies)
  /-- A circle closes below the file. -/
  | circular {target : SourceFile} {chain : List String} {cache' : Cache}
    (ht : target? job importer source = some target) (hnew : target.name ∉ stack)
    (hfetch : fetch engine job stack target cache = (.error (.circularImport chain), cache')) :
    VisitEnds engine job stack importer source cache tried
      (.error (.circularImport chain), cache', recorded job importer source tried)
  /-- The file fails without a circle, and the import is kept. -/
  | kept {target : SourceFile} {e : CompileError} {cache' : Cache}
    (ht : target? job importer source = some target) (hnew : target.name ∉ stack)
    (hfetch : fetch engine job stack target cache = (.error e, cache'))
    (hne : ∀ chain, e ≠ .circularImport chain) :
    VisitEnds engine job stack importer source cache tried
      (.ok none, cache', recorded job importer source tried)

theorem visitor_ends {result : Except CompileError (Option String) × Cache × Tried}
    (h : visitor engine job stack importer source (cache, tried) = result) :
    VisitEnds engine job stack importer source cache tried result := by
  subst h
  cases ht : target? job importer source with
  | none =>
    rw [visitor_of_none ht]
    exact .unresolved ht
  | some target =>
    by_cases hmem : target.name ∈ stack
    · rw [visitor_of_mem ht hmem]
      exact .closes ht hmem
    · rw [visitor_of_not_mem ht hmem]
      split <;> rename_i hfetch
      · exact .replaced ht hmem hfetch
      · exact .circular ht hmem hfetch
      · rename_i hne
        exact .kept ht hmem hfetch hne

/-- A visitor only fails with a circle. -/
theorem circular_of_visitor {e : CompileError}
    (h : (visitor engine job stack importer source (cache, tried)).1 = .error e) :
    ∃ chain, e = .circularImport chain := by
  generalize hv : visitor engine job stack importer source (cache, tried) = result at h
  cases visitor_ends hv with
  | unresolved | replaced | kept => cases h
  | closes | circular => exact ⟨_, (Except.error.inj h).symm⟩

/-! ### Modules -/

/-- The failure of a file that is no module. -/
def refusal (marker file message : String) : CompileError :=
  if retries marker (.parse file message) then .degraded (CompileError.parse file message).message
  else .parse file message

theorem refusal_ne_circular (marker file message : String) (chain : List String) :
    refusal marker file message ≠ .circularImport chain := by
  rw [refusal]
  split <;> simp

theorem withRetry_of_ok {marker : String} {first second : CacheM (Except CompileError Compiled)}
    {compiled : Compiled} {cache' : Cache} (h : first cache = (.ok compiled, cache')) :
    withRetry marker first second cache = (.ok compiled, cache') := by
  simp only [withRetry, bind, StateT.bind, h]
  rfl

theorem withRetry_of_error {marker : String}
    {first second : CacheM (Except CompileError Compiled)} {e : CompileError} {cache' : Cache}
    (h : first cache = (.error e, cache')) :
    withRetry marker first second cache =
      if retries marker e then
        match second cache' with
        | (.ok compiled, cache) => (.ok compiled, cache)
        | (.error _, cache) => (.error (.degraded e.message), cache)
      else (.error e, cache') := by
  simp only [withRetry, bind, StateT.bind, h]
  split
  · rcases hs : second cache' with ⟨e' | compiled, cache''⟩ <;> simp only [StateT.bind, hs] <;> rfl
  · rfl

theorem transform_eq :
    transform engine job stack file =
      withRetry job.config.inMemoryMarker
        (transformModule engine job file (visitor engine job stack file.name))
        (transformModule engine job file (recordImport job file.name)) := by
  rw [transform, visitor]

/-- The visit of the imports of a module. -/
abbrev visited (engine : Engine) (job : Job) (stack : List String) (file : SourceFile)
    (m : engine.Module) (cache : Cache) : Redirection CompileError × Cache × Tried :=
  run (visitor engine job stack file.name) (engine.sources m) (cache, NameMap.empty)

/-- A file that is no module is refused, and nothing else happens. -/
theorem transform_of_parse_error {message : String}
    (h : engine.parse file.name (moduleText job file) = .error message) :
    transform engine job stack file cache =
      (.error (refusal job.config.inMemoryMarker file.name message), cache) := by
  have hmodule : ∀ visit, transformModule engine job file visit cache =
      (.error (.parse file.name message), cache) := fun visit => by
    simp only [transformModule, h]
  rw [transform_eq, withRetry_of_error (hmodule _), hmodule, refusal]
  split <;> rfl

section Parsed

variable {m : engine.Module} (hm : engine.parse file.name (moduleText job file) = .ok m)

include hm in
theorem transformModule_of_parse
    (visit : String → StateM (Cache × Tried) (Except CompileError (Option String))) :
    transformModule engine job file visit cache =
      (finish engine file m (run visit (engine.sources m) (cache, NameMap.empty)).1
        (run visit (engine.sources m) (cache, NameMap.empty)).2.2,
        (run visit (engine.sources m) (cache, NameMap.empty)).2.1) := by
  simp only [transformModule, hm]
  rfl

/-- A failing import of a module is a circle, which fails the module too. -/
theorem circular_of_visited {e : CompileError}
    (hf : (visited engine job stack file m cache).1.failure = some e) :
    ∃ chain, e = .circularImport chain :=
  (Redirection.run_induct _ (fun _ => True) (fun _ => True) (∃ chain, · = .circularImport chain)
    (fun _ _ _ _ _ => ⟨trivial, fun _ => trivial, fun _ => circular_of_visitor⟩) trivial).2.2 e hf

include hm in
/-- A circle below a module fails it. -/
theorem transform_of_circular {chain : List String}
    (hf : (visited engine job stack file m cache).1.failure = some (.circularImport chain)) :
    transform engine job stack file cache =
      (.error (.circularImport chain), (visited engine job stack file m cache).2.1) := by
  have hfirst : transformModule engine job file (visitor engine job stack file.name) cache =
      (.error (.circularImport chain), (visited engine job stack file m cache).2.1) := by
    rw [transformModule_of_parse hm, finish, hf]
  rw [transform_eq, withRetry_of_error hfirst]
  rfl

include hm in
/-- A module whose imports are visited without a circle is written. -/
theorem transform_of_emit {code : String}
    (hf : (visited engine job stack file m cache).1.failure = none)
    (he : engine.emit (engine.withSources m (visited engine job stack file m cache).1.sources) =
      .ok code) :
    transform engine job stack file cache =
      (.ok ⟨code, (visited engine job stack file m cache).2.2⟩,
        (visited engine job stack file m cache).2.1) := by
  rw [transform_eq]
  apply withRetry_of_ok
  rw [transformModule_of_parse hm, finish, hf]
  simp only [he]

/-- Recording imports leaves the cache as it is and never fails. -/
theorem snd_recordImport_run (l : List String) :
    (run (recordImport job importer) l (cache, tried)).2.1 = cache ∧
      (run (recordImport job importer) l (cache, tried)).1.failure = none := by
  obtain ⟨hcache, -, hnone⟩ := Redirection.run_induct (recordImport job importer)
    (fun s => s.1 = cache) (fun _ => True) (fun _ => False)
    (fun source _ _ s hs => by simpa only [recordImport_eq] using ⟨hs, by simp, by simp⟩)
    (l := l) (s := (cache, tried)) rfl
  refine ⟨hcache, ?_⟩
  cases hf : (run (recordImport job importer) l (cache, tried)).1.failure with
  | none => rfl
  | some e => exact (hnone e hf).elim

include hm in
/-- A module whose imports are visited without a circle, but which cannot be written, changes the
cache in the same way, and its failure is no circle. -/
theorem transform_of_emit_error {message : String}
    (hf : (visited engine job stack file m cache).1.failure = none)
    (he : engine.emit (engine.withSources m (visited engine job stack file m cache).1.sources) =
      .error message) :
    (transform engine job stack file cache).2 = (visited engine job stack file m cache).2.1 ∧
      ∀ chain, (transform engine job stack file cache).1 ≠ .error (.circularImport chain) := by
  have hfirst : transformModule engine job file (visitor engine job stack file.name) cache =
      (.error (.transform file.name message), (visited engine job stack file m cache).2.1) := by
    rw [transformModule_of_parse hm, finish, hf]
    simp only [he]
  rw [transform_eq, withRetry_of_error hfirst]
  split
  · rw [transformModule_of_parse hm, (snd_recordImport_run _).1]
    split <;> rename_i heq <;> simp_all
  · simp

end Parsed

/-! ### Engines that write every module -/

/-- With an engine that writes every module, a compilation ends in one of three ways: the file is
refused, a circle is found below it, or the module is written. -/
theorem transform_cases (ha : engine.Accepting) (job : Job) (stack : List String)
    (file : SourceFile) (cache : Cache) :
    (∃ message, engine.parse file.name (moduleText job file) = .error message ∧
      transform engine job stack file cache =
        (.error (refusal job.config.inMemoryMarker file.name message), cache)) ∨
    ∃ m, engine.parse file.name (moduleText job file) = .ok m ∧
      ((∃ chain, transform engine job stack file cache =
          (.error (.circularImport chain), (visited engine job stack file m cache).2.1)) ∨
        ∃ code, (visited engine job stack file m cache).1.failure = none ∧
          engine.emit (engine.withSources m (visited engine job stack file m cache).1.sources) =
            .ok code ∧
          transform engine job stack file cache =
            (.ok ⟨code, (visited engine job stack file m cache).2.2⟩,
              (visited engine job stack file m cache).2.1)) := by
  cases hm : engine.parse file.name (moduleText job file) with
  | error message => exact .inl ⟨message, rfl, transform_of_parse_error hm⟩
  | ok m =>
    refine .inr ⟨m, rfl, ?_⟩
    cases hf : (visited engine job stack file m cache).1.failure with
    | some e =>
      obtain ⟨chain, rfl⟩ := circular_of_visited hf
      exact .inl ⟨chain, transform_of_circular hm hf⟩
    | none =>
      obtain ⟨code, he⟩ := ha _ _ m (visited engine job stack file m cache).1.sources hm
      exact .inr ⟨code, rfl, he, transform_of_emit hm hf he⟩

/-- A module that is compiled was visited and written. -/
theorem exists_visited_of_transform (ha : engine.Accepting) {compiled : Compiled} {cache' : Cache}
    (h : transform engine job stack file cache = (.ok compiled, cache')) :
    ∃ m, engine.parse file.name (moduleText job file) = .ok m ∧
      (visited engine job stack file m cache).1.failure = none ∧
      engine.emit (engine.withSources m (visited engine job stack file m cache).1.sources) =
        .ok compiled.code ∧
      compiled.dependencies = (visited engine job stack file m cache).2.2 ∧
      cache' = (visited engine job stack file m cache).2.1 := by
  rcases transform_cases ha job stack file cache with
    ⟨message, -, hr⟩ | ⟨m, hm, ⟨chain, hr⟩ | ⟨code, hf, he, hr⟩⟩ <;> rw [hr] at h
  · cases h
  · cases h
  · cases h
    exact ⟨m, hm, hf, he, rfl, rfl⟩

/-- A file that fails without a circle is no module, and nothing else happens. -/
theorem parse_error_of_transform (ha : engine.Accepting) {e : CompileError} {cache' : Cache}
    (h : transform engine job stack file cache = (.error e, cache'))
    (hne : ∀ chain, e ≠ .circularImport chain) :
    ∃ message, engine.parse file.name (moduleText job file) = .error message ∧
      e = refusal job.config.inMemoryMarker file.name message ∧ cache' = cache := by
  rcases transform_cases ha job stack file cache with
    ⟨message, hm, hr⟩ | ⟨m, -, ⟨chain, hr⟩ | ⟨code, -, -, hr⟩⟩ <;> rw [hr] at h
  · cases h
    exact ⟨message, hm, rfl, rfl⟩
  · cases h
    exact absurd rfl (hne chain)
  · cases h

/-! ### Jobs -/

/-- The patched entry of a keyed set has the name of the entry. -/
theorem name_patched (hfiles : FileSet.Keyed job.files) (hentry : entry? job = some file) :
    (patched job file).name = job.config.entryFile := by
  have hget := (Option.filter_eq_some_iff.1 hentry).1
  have hname : file.name = job.config.entryFile := hfiles _ file hget
  rw [patched]
  exact hname

theorem compile_of_entry (hentry : entry? job = some file) :
    compile engine job cache =
      (entryCode (root engine job (patched job file) cache).1,
        (root engine job (patched job file) cache).2) := by
  rw [compile, hentry]
  rfl

end LivePreview.Compile
