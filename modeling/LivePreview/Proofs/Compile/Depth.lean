import LivePreview.Proofs.Compile.Steps

/-!
# The depth of a compilation

The modules in progress are distinct files of the set, so modules are never nested deeper than
there are files. A compilation that is cut off at that depth is the whole compilation, whatever
would be done below: nothing is ever compiled there. The cut-off compilation recurses on the depth
alone, without any proof that a dependency is new, so it can also be computed.

## Main definitions

* `LivePreview.Compile.transformWithin`, `LivePreview.Compile.compileWithin`: compilations that
  are cut off at a depth.

## Main results

* `LivePreview.Compile.transformWithin_eq_transform`: nothing is cut off below all new files.
* `LivePreview.Compile.compileWithin_eq_compile`: the number of files is depth enough.
-/

namespace LivePreview.Compile

variable {engine : Engine} {job : Job}

/-- The compilation of a module in which modules are nested no deeper than a number. What would
be compiled below that is `bottom` instead. -/
def transformWithin (engine : Engine) (job : Job) (bottom : CacheM (Except CompileError Compiled)) :
    Nat → List String → SourceFile → CacheM (Except CompileError Compiled)
  | 0, _, _ => bottom
  | depth + 1, stack, file =>
    withRetry job.config.inMemoryMarker
      (transformModule engine job file
        (resolveImport job stack
          (fun dep _ _ => transformWithin engine job bottom depth (stack ++ [dep.name]) dep)
          file.name))
      (transformModule engine job file (recordImport job file.name))

/-- Compiles the entry of a job with modules nested no deeper than a number. -/
def compileWithin (engine : Engine) (job : Job) (bottom : CacheM (Except CompileError Compiled))
    (depth : Nat) : CacheM (Except CompileError String) := do
  match entry? job with
  | none => pure (.error (.entryMissing job.config.entryFile))
  | some file =>
    return entryCode (← transformWithin engine job bottom depth [file.name] (patched job file))

/-- A depth above the number of files that may still enter the stack cuts nothing off. -/
theorem transformWithin_eq_transform (bottom : CacheM (Except CompileError Compiled)) {depth : Nat}
    {stack : List String} {file : SourceFile} (h : unvisited job.files stack < depth) :
    transformWithin engine job bottom depth stack file = transform engine job stack file := by
  induction depth generalizing stack file with
  | zero => omega
  | succ depth ih =>
    have hbuild : ∀ dep ∈ job.files.values, dep.name ∉ stack →
        transformWithin engine job bottom depth (stack ++ [dep.name]) dep =
          transform engine job (stack ++ [dep.name]) dep := by
      intro dep hmem hnew
      have hlt := unvisited_push_lt hmem hnew
      exact ih (by omega)
    rw [transformWithin, transform]
    congr 3
    funext dep hmem hnew
    exact hbuild dep hmem hnew

/-- The root of a job is one of its files, so that fewer are left to enter the stack. -/
theorem unvisited_singleton_lt {files : FileSet} {file : SourceFile} (hmem : file ∈ files.values) :
    unvisited files [file.name] < files.size := by
  have hle : unvisited files [] ≤ files.size :=
    calc unvisited files [] ≤ files.values.length := List.length_filter_le _ _
      _ = files.size := List.length_map _
  have hlt : unvisited files [file.name] < unvisited files [] :=
    unvisited_push_lt hmem List.not_mem_nil
  exact Nat.lt_of_lt_of_le hlt hle

/-- Modules are never nested deeper than there are files. -/
theorem compileWithin_eq_compile (bottom : CacheM (Except CompileError Compiled)) :
    compileWithin engine job bottom job.files.size = compile engine job := by
  rw [compileWithin, compile]
  cases h : entry? job with
  | none => rfl
  | some file =>
    have hmem : file ∈ job.files.values := by
      have hget := (Option.filter_eq_some_iff.1 h).1
      exact NameMap.mem_values_of_get? hget
    have hroot : transformWithin engine job bottom job.files.size [file.name] (patched job file) =
        root engine job (patched job file) :=
      transformWithin_eq_transform bottom (unvisited_singleton_lt hmem)
    simp only [hroot]

/-- A file of a set is compiled with modules nested no deeper than there are files. -/
theorem transformFile_eq_within (bottom : CacheM (Except CompileError Compiled)) {name : String}
    {file : SourceFile} (h : job.files.get? name = some file) :
    transformFile engine job name =
      transformWithin engine job bottom job.files.size [file.name] file := by
  have hmem : file ∈ job.files.values := NameMap.mem_values_of_get? h
  rw [transformWithin_eq_transform bottom (unvisited_singleton_lt hmem), transformFile, h]
  rfl

end LivePreview.Compile
