import LivePreview.Asset
import LivePreview.Cache
import LivePreview.Component.Desugar
import LivePreview.Config
import LivePreview.Engine
import LivePreview.EntryPatch
import LivePreview.Failure
import LivePreview.Redirection

/-!
# Compiling modules

A module is compiled together with everything it imports. Each relative import is resolved in the
file set, its target is compiled first, through the cache, and the import is replaced by an address
that carries the compiled text. A target that fails to compile leaves its import as it is; a circle
of imports fails the whole job. The modules being compiled form a stack of distinct names of the
set, so the recursion ends.

A failure whose text mentions the in-memory marker is answered by a second attempt that leaves all
imports alone.

## Main definitions

* `LivePreview.Compile.Job`: what is the same for all modules of a job.
* `LivePreview.Compile.Compiled`: a compiled module and the names its imports were resolved against.
* `LivePreview.Compile.transform`: compiles a module and everything it imports.
* `LivePreview.Compile.compile`, `LivePreview.Compile.transformFile`: compile jobs.

## Main results

* `LivePreview.Compile.unvisited_push_lt`: a module that enters the stack leaves fewer to enter.
-/

namespace LivePreview.Compile

/-- What is the same for all modules of a job. -/
structure Job where
  /-- The settings. -/
  config : Config
  /-- The files. -/
  files : FileSet
  /-- The stamp that makes the ids of style elements unique. -/
  stamp : Nat

/-- A compiled module. -/
structure Compiled where
  /-- The text of the module. -/
  code : String
  /-- Every name its imports were resolved against, through all levels. -/
  dependencies : Tried
deriving DecidableEq

/-- The result of a step that may use the cache. -/
abbrev CacheM (α : Type) := StateM Cache α

/-- Builds a dependency that is no module in progress. -/
abbrev Build (job : Job) (stack : List String) :=
  (file : SourceFile) → file ∈ job.files.values → file.name ∉ stack →
    CacheM (Except CompileError Compiled)

/-! ### Sources -/

/-- Whether elements are part of the language of a file. -/
def usesElements (name : String) : Bool :=
  extension? name = some "jsx" || extension? name = some "tsx"

/-- The module text of a file: components are desugared, files with elements get the imports of the
factory. -/
def moduleText (job : Job) (file : SourceFile) : String :=
  if file.language = .component then
    Component.desugar file.name file.content job.config.frameworkModule job.stamp
  else if usesElements file.name then
    FactoryImport.addMissing file.content job.config.frameworkModule
  else file.content

/-! ### Dependencies -/

/-- The circle that closes when `name` is imported by the top of the stack. -/
def circle (stack : List String) (name : String) : List String :=
  stack.dropWhile (· ≠ name) ++ [name]

/-- The compiled form of a dependency: style sheets and data are wrapped, anything else is
compiled. -/
def compileFile (job : Job) {stack : List String} (build : Build job stack) (file : SourceFile)
    (hmem : file ∈ job.files.values) (hnew : file.name ∉ stack) :
    CacheM (Except CompileError Compiled) :=
  match file.language with
  | .styles => pure (.ok ⟨Asset.styleModule file job.stamp, NameMap.empty⟩)
  | .data => pure (.ok ⟨Asset.dataModule file, NameMap.empty⟩)
  | _ => build file hmem hnew

/-- The entry of a dependency, from the cache if it is current. -/
def dependency (job : Job) {stack : List String} (build : Build job stack) (file : SourceFile)
    (hmem : file ∈ job.files.values) (hnew : file.name ∉ stack) :
    CacheM (Except CompileError CacheEntry) := fun cache =>
  cache.getOrCompute file.name file.fingerprint job.files.current fun cache =>
    match compileFile job build file hmem hnew cache with
    | (.ok compiled, cache) =>
      (.ok ⟨file.fingerprint, Asset.reference compiled.code, compiled.dependencies⟩, cache)
    | (.error e, cache) => (.error e, cache)

/-- What a relative import of a module is replaced by. An unresolved import and one whose target
fails stay as they are; a circle is an error. -/
def resolveImport (job : Job) (stack : List String) (build : Build job stack)
    (importer specifier : String) :
    StateM (Cache × Tried) (Except CompileError (Option String)) := fun (cache, tried) =>
  match h : Resolve.find job.files importer specifier job.config.resolveExtensions tried with
  | (none, tried) => (.ok none, cache, tried)
  | (some file, tried) =>
    if hnew : file.name ∈ stack then
      (.error (.circularImport (circle stack file.name)), cache, tried)
    else
      match dependency job build file (Resolve.mem_values_of_find (congrArg Prod.fst h)) hnew
        cache with
      | (.ok entry, cache) => (.ok (some entry.reference), cache, tried.union entry.dependencies)
      | (.error (.circularImport chain), cache) => (.error (.circularImport chain), cache, tried)
      | (.error _, cache) => (.ok none, cache, tried)

/-- Records what a relative import would be resolved against, and leaves it as it is. -/
def recordImport (job : Job) (importer specifier : String) :
    StateM (Cache × Tried) (Except CompileError (Option String)) := fun (cache, tried) =>
  let found := Resolve.find job.files importer specifier job.config.resolveExtensions tried
  (.ok none, cache, found.2)

/-! ### Modules -/

/-- Writes a module whose imports are replaced. -/
def finish (engine : Engine) (file : SourceFile) (m : engine.Module)
    (redirected : Redirection CompileError) (tried : Tried) : Except CompileError Compiled :=
  match redirected.failure with
  | some e => .error e
  | none =>
    match engine.emit (engine.withSources m redirected.sources) with
    | .ok code => .ok ⟨code, tried⟩
    | .error message => .error (.transform file.name message)

/-- Compiles a module, its relative imports being visited by `visit`. -/
def transformModule (engine : Engine) (job : Job) (file : SourceFile)
    (visit : String → StateM (Cache × Tried) (Except CompileError (Option String))) :
    CacheM (Except CompileError Compiled) := fun cache =>
  match engine.parse file.name (moduleText job file) with
  | .error message => (.error (.parse file.name message), cache)
  | .ok m =>
    match Redirection.run visit (engine.sources m) (cache, NameMap.empty) with
    | (redirected, cache, tried) => (finish engine file m redirected tried, cache)

/-- Whether a failure is answered by a second attempt. -/
def retries (marker : String) : CompileError → Bool
  | .circularImport _ => false
  | e => Text.holds e.message marker

/-- A first attempt, and after a failure that mentions the marker a second one. If that fails too,
the first failure is reported. -/
def withRetry (marker : String) (first second : CacheM (Except CompileError Compiled)) :
    CacheM (Except CompileError Compiled) := do
  match ← first with
  | .ok compiled => pure (.ok compiled)
  | .error e =>
    if retries marker e then
      match ← second with
      | .ok compiled => pure (.ok compiled)
      | .error _ => pure (.error (.degraded e.message))
    else pure (.error e)

/-! ### The recursion -/

/-- The number of files of the set whose names are not on the stack. -/
def unvisited (files : FileSet) (stack : List String) : Nat :=
  (files.values.filter fun file => file.name ∉ stack).length

/-- A module that enters the stack leaves fewer to enter. -/
theorem unvisited_push_lt {files : FileSet} {stack : List String} {file : SourceFile}
    (hmem : file ∈ files.values) (hnew : file.name ∉ stack) :
    unvisited files (stack ++ [file.name]) < unvisited files stack := by
  unfold unvisited
  have hsplit : (files.values.filter fun f => f.name ∉ stack ++ [file.name]) =
      (files.values.filter fun f => f.name ∉ stack).filter fun f => f.name ≠ file.name := by
    rw [List.filter_filter]
    congr 1
    funext f
    simp [not_or, and_comm]
  rw [hsplit]
  refine List.length_filter_lt_length_iff_exists.2 ⟨file, ?_, by simp⟩
  simpa using ⟨hmem, hnew⟩

/-- Compiles a module and everything it imports. `stack` holds the modules in progress, from the
root to this one. -/
def transform (engine : Engine) (job : Job) (stack : List String) (file : SourceFile) :
    CacheM (Except CompileError Compiled) :=
  withRetry job.config.inMemoryMarker
    (transformModule engine job file
      (resolveImport job stack
        (fun dep _ _ => transform engine job (stack ++ [dep.name]) dep) file.name))
    (transformModule engine job file (recordImport job file.name))
termination_by unvisited job.files stack
decreasing_by exact unvisited_push_lt ‹_› ‹_›

/-! ### Jobs -/

/-- Compiles a file as the root of a job. -/
def root (engine : Engine) (job : Job) (file : SourceFile) :
    CacheM (Except CompileError Compiled) :=
  transform engine job [file.name] file

/-- The entry file of a job, if its content is not blank. -/
def entry? (job : Job) : Option SourceFile :=
  (job.files.get? job.config.entryFile).filter fun file => !Text.isBlankText file.content

/-- The entry file with its patched content. -/
def patched (job : Job) (file : SourceFile) : SourceFile :=
  { file with
    content := EntryPatch.patch file.content job.config.frameworkModule job.config.mountId }

/-- The text of a compiled entry, which must not be blank. -/
def entryCode : Except CompileError Compiled → Except CompileError String
  | .error e => .error e
  | .ok compiled =>
    if Text.isBlankText compiled.code then .error .emptyOutput else .ok compiled.code

/-- Compiles the entry of a job. -/
def compile (engine : Engine) (job : Job) : CacheM (Except CompileError String) := do
  match entry? job with
  | none => pure (.error (.entryMissing job.config.entryFile))
  | some file => return entryCode (← root engine job (patched job file))

/-- Compiles one file of a job as it is. -/
def transformFile (engine : Engine) (job : Job) (name : String) :
    CacheM (Except CompileError Compiled) :=
  match job.files.get? name with
  | none => pure (.error (.entryMissing name))
  | some file => root engine job file

end LivePreview.Compile
