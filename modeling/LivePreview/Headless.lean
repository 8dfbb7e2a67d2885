import LivePreview.Session
import LivePreview.Transformer

/-!
# Sessions without a screen

A compile unit and a surface for sessions that nobody looks at: the unit records the requests it is
handed and may compile them at once, the surface records what it shows and can be made to refuse
documents.

## Main definitions

* `LivePreview.RecordingUnit`: a compile unit that records requests.
* `LivePreview.FlakySurface`: a surface that refuses a given number of documents.
* `LivePreview.Headless.drain`: applies all queued responses.
-/

namespace LivePreview

/-! ### The compile unit -/

/-- A compile unit that records the requests handed to it, and compiles them at once if it has a
transformer. -/
structure RecordingUnit (engine : Engine) where
  /-- Whether the unit says that it is ready. -/
  ready : Bool
  /-- Whether the unit refuses requests. -/
  closed : Bool
  /-- What compiles requests at once, if anything. -/
  transformer : Option Transformer
  /-- The requests taken, the latest first. -/
  requests : List Request
  /-- The responses that are not applied yet, in order. -/
  queue : List Response

namespace RecordingUnit

variable {engine : Engine}

/-- A ready unit that has taken nothing. -/
def start (transformer : Option Transformer) : RecordingUnit engine :=
  ⟨true, false, transformer, [], []⟩

/-- Takes a request. -/
def take (u : RecordingUnit engine) (request : Request) : RecordingUnit engine :=
  match u.transformer with
  | none => { u with requests := request :: u.requests }
  | some t =>
    match t.handle engine request with
    | (response, t) =>
      { u with
        requests := request :: u.requests
        transformer := some t
        queue := u.queue ++ [response] }

instance : CompileUnit (RecordingUnit engine) where
  ready u := u.ready
  dispatch u request := if u.closed then (u, .error .closed) else (u.take request, .ok ())

end RecordingUnit

/-! ### The surface -/

/-- A surface that refuses the next documents, as many as its counter tells. -/
structure FlakySurface where
  /-- The documents shown, the latest first. -/
  shown : List String
  /-- How many documents are refused from now on. -/
  failures : Nat
  /-- The message with which they are refused. -/
  message : String

namespace FlakySurface

/-- A surface that shows nothing yet and refuses nothing. -/
def blank : FlakySurface := ⟨[], 0, ""⟩

instance : Surface FlakySurface where
  present s html :=
    match s.failures with
    | 0 => ({ s with shown := html :: s.shown }, .ok ())
    | n + 1 => ({ s with failures := n }, .error s.message)

end FlakySurface

/-! ### Draining the queue -/

namespace Headless

/-- A session on a recording unit and a flaky surface. -/
abbrev Run (engine : Engine) := Session (RecordingUnit engine) FlakySurface

variable {engine : Engine}

/-- Applies the first queued response, if there is one. -/
def applyNext (s : Run engine) (now : Nat) : Option (Response × Run engine) :=
  match s.unit.queue with
  | [] => none
  | response :: rest =>
    some (response,
      { s with unit := { s.unit with queue := rest } : Run engine }.applyResult response now)

/-- Applies queued responses, at most `fuel` of them, and lists them. -/
def drainFrom : Nat → Run engine → Nat → List Response × Run engine
  | 0, s, _ => ([], s)
  | fuel + 1, s, now =>
    match applyNext s now with
    | none => ([], s)
    | some (response, s) =>
      match drainFrom fuel s now with
      | (applied, s) => (response :: applied, s)

/-- Applies queued responses, those that are queued meanwhile too, until none is left, and lists
them. A response is queued meanwhile only after a refused document, so there are no more than the
queue holds and the surface refuses. -/
def drain (s : Run engine) (now : Nat) : List Response × Run engine :=
  drainFrom (s.unit.queue.length + s.renderer.surface.failures) s now

end Headless

end LivePreview
