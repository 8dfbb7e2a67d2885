import LivePreview.Compile
import LivePreview.Message

/-!
# Compile units

A transformer compiles one request after another with one cache. Whatever happens, a request gets
one response.

## Main definitions

* `LivePreview.Transformer`: the settings, the clock and the cache of a compile unit.
* `LivePreview.Transformer.handle`: the response to a request.
* `LivePreview.Transformer.handleAll`: the responses to requests that come one after another.
-/

namespace LivePreview

/-- The settings, the clock and the cache of a compile unit. -/
structure Transformer where
  /-- The settings. -/
  config : Config
  /-- What the clock shows. -/
  stamp : Nat
  /-- The compiled dependencies. -/
  cache : Cache

namespace Transformer

/-- A compile unit at its start. -/
def ofConfig (config : Config) (stamp : Nat) : Transformer := ⟨config, stamp, Cache.empty⟩

/-- The job of a file set. -/
def job (t : Transformer) (files : FileSet) : Compile.Job := ⟨t.config, files, t.stamp⟩

/-- Compiles the entry of a file set. -/
def compile (engine : Engine) (t : Transformer) (files : FileSet) :
    Except CompileError String × Transformer :=
  match Compile.compile engine (t.job files) t.cache with
  | (result, cache) => (result, { t with cache := cache })

/-- Compiles one file of a file set as it is. -/
def transformFile (engine : Engine) (t : Transformer) (name : String) (files : FileSet) :
    Except CompileError Compile.Compiled × Transformer :=
  match Compile.transformFile engine (t.job files) name t.cache with
  | (result, cache) => (result, { t with cache := cache })

/-- Compiles the files of a request. -/
def attempt (engine : Engine) (t : Transformer) (files : FileSet) :
    Except CompileError String × Transformer :=
  if files.isEmpty then (.error (.invalidRequest "empty file set"), t)
  else t.compile engine files

/-- The text that stands for failures which mention the in-memory marker. -/
def inMemoryMessage : String :=
  "could not find an in-memory file reference, check the import statements and file references"

/-- The outcome of a compile job. -/
def outcome (marker : String) : Except CompileError String → Outcome
  | .ok code => .code code
  | .error e => .error (if Text.holds e.message marker then inMemoryMessage else e.message)

/-- The response to a request. -/
def handle (engine : Engine) (t : Transformer) (request : Request) : Response × Transformer :=
  match t.attempt engine request.files with
  | (result, t) => (⟨request.sequence, outcome t.config.inMemoryMarker result⟩, t)

/-- The responses to requests that come one after another. -/
def handleAll (engine : Engine) (t : Transformer) : List Request → List Response
  | [] => []
  | request :: rest =>
    match t.handle engine request with
    | (response, t) => response :: handleAll engine t rest

end Transformer

end LivePreview
