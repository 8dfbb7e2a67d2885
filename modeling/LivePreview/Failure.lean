/-!
# Failures and their texts

What can go wrong while a preview is compiled and shown, and the text shown for it.

## Main definitions

* `LivePreview.CompileError`: a compile job failed.
* `LivePreview.DispatchError`: the compile unit took no request.
* `LivePreview.PreviewError`: what a session shows in its error slot.
-/

namespace LivePreview

/-- Why a compile job failed. -/
inductive CompileError where
  /-- The file to start from is absent, or has a blank content. -/
  | entryMissing (name : String)
  /-- The request cannot be compiled at all. -/
  | invalidRequest (reason : String)
  /-- A file is not a module. -/
  | parse (file message : String)
  /-- A module cannot be lowered. -/
  | transform (file message : String)
  /-- Modules import one another in a circle: each name imports the next one. -/
  | circularImport (chain : List String)
  /-- Not even the second attempt, without imports resolved, succeeded. -/
  | degraded (message : String)
  /-- The result is blank. -/
  | emptyOutput
deriving DecidableEq, Repr

/-- The text shown for a failed compile job. -/
def CompileError.message : CompileError → String
  | entryMissing name => "entry file " ++ name ++ " is missing or empty"
  | invalidRequest reason => "invalid compile data: " ++ reason
  | parse file message => "failed to parse " ++ file ++ ": " ++ message
  | transform file message => "failed to transform " ++ file ++ ": " ++ message
  | circularImport chain => "circular import: " ++ " -> ".intercalate chain
  | degraded message => message ++ ". Check the syntax and import statements"
  | emptyOutput => "compiled output is empty, check the entry file"

/-- Why the compile unit took no request. -/
inductive DispatchError where
  /-- It is not running. -/
  | closed
deriving DecidableEq, Repr

/-- The text shown for a request that was not taken. -/
def DispatchError.message : DispatchError → String
  | closed => "compile unit is not running"

/-- What a session shows in its error slot. -/
inductive PreviewError where
  /-- The compile unit is not ready. -/
  | notReady
  /-- Compile attempts come too fast. -/
  | compileLoop
  /-- Resets come too fast. -/
  | resetLoop
  /-- A compile job failed. -/
  | compile (message : String)
  /-- The surface refused the document of an artifact. -/
  | render (message : String)
  /-- The surface refused the blank document. -/
  | reset (message : String)
  /-- The compile unit took no request. -/
  | dispatch (message : String)
deriving DecidableEq, Repr

/-- The text shown for an error slot. -/
def PreviewError.message : PreviewError → String
  | notReady => "compiler is not ready, edit again to retry"
  | compileLoop => "possible compile loop detected, wait a few seconds before continuing"
  | resetLoop => "possible reset loop detected, wait a few seconds before continuing"
  | compile message => "Compile failed: " ++ message
  | render message => "failed to update preview: " ++ message
  | reset message => "failed to reset preview: " ++ message
  | dispatch message => "compile request failed: " ++ message

end LivePreview
