import LivePreview.FileSet

/-!
# Messages of the compile unit

The compile unit answers each request with one response that carries the request's number.

## Main definitions

* `LivePreview.Request`: a numbered file set to compile.
* `LivePreview.Outcome`: the code of a finished job, or the text of its failure.
* `LivePreview.Response`: a numbered outcome.
-/

namespace LivePreview

/-- A file set to compile. -/
structure Request where
  /-- The number of the request, ascending within a session. -/
  sequence : Nat
  /-- The files to compile. -/
  files : FileSet
deriving DecidableEq

/-- How a compile job ended. -/
inductive Outcome where
  /-- It gave the text of a module. -/
  | code (text : String)
  /-- It failed. -/
  | error (message : String)
deriving DecidableEq, Repr

/-- The answer to a request. -/
structure Response where
  /-- The number of the request. -/
  sequence : Nat
  /-- How the job ended. -/
  outcome : Outcome
deriving DecidableEq, Repr

end LivePreview
