import LivePreview.Session

/-!
# What a session does

An operation of a session may hand a request to the compile unit and documents to the surface. What
an operation does to the two is the list of its effects, in order, each with the answer it got.
Effects are determined by the state from which an operation starts.

## Main definitions

* `LivePreview.Effect`: a request or a document that was handed over, or a reset that was stopped.
* `LivePreview.Session.compileEffects`, `timerEffects`, `resetEffects`, `renderEffects`,
  `resultEffects`: the effects of the operations.
-/

namespace LivePreview

/-- What a session does to its compile unit and its surface. -/
inductive Effect where
  /-- A request is handed to the compile unit, which takes it or not. -/
  | request (request : Request) (taken : Bool)
  /-- The document of an artifact is handed to the surface, which shows it or not. -/
  | document (html : String) (shown : Bool)
  /-- A reset hands the blank document to the surface, which shows it or not. -/
  | blank (html : String) (shown : Bool)
  /-- A reset trips the guard of resets. -/
  | resetLoop
deriving DecidableEq

namespace Effect

/-- The request that is handed over. -/
def request? : Effect → Option Request
  | request r _ => some r
  | _ => none

/-- The document that the surface accepts. -/
def shown? : Effect → Option String
  | document html true => some html
  | blank html true => some html
  | _ => none

/-- Whether a request is handed over. -/
def isRequest : Effect → Bool
  | request _ _ => true
  | _ => false

/-- Whether a reset reaches the surface. -/
def isBlank : Effect → Bool
  | blank _ _ => true
  | _ => false

end Effect

namespace Renderer

variable {σ : Type} [Surface σ]

/-- The effects of an update. -/
def updateEffects (r : Renderer σ) (artifact : Option Artifact) (force : Bool) : List Effect :=
  match artifact, (r.update artifact force).1 with
  | some a, .injected => [.document (Document.build a.code r.config) true]
  | some a, .failed _ => [.document (Document.build a.code r.config) false]
  | _, _ => []

/-- The effects of a reset. -/
def resetEffects (r : Renderer σ) (now : Nat) : List Effect :=
  match (r.reset now).1 with
  | .done => [.blank (Document.build "" r.config) true]
  | .failed _ => [.blank (Document.build "" r.config) false]
  | .loopDetected => [.resetLoop]
  | .suppressed => []

end Renderer

namespace Session

variable {δ σ : Type} [CompileUnit δ]

/-- The effects of handing over the files of an attempt. -/
def dispatchEffects (s : Session δ σ) (files : FileSet) : List Effect :=
  let request : Request := ⟨s.nextSequence, files⟩
  [.request request (CompileUnit.dispatch s.unit request).2.isOk]

/-- The effects of a compile attempt. -/
def compileEffects (s : Session δ σ) (force : Bool) (now : Nat) : List Effect :=
  match (s.scheduler.attempt s.files force (CompileUnit.ready s.unit) now).1 with
  | .dispatch files => s.dispatchEffects files
  | _ => []

/-- The effects of the waiting compile attempt. -/
def dueEffects (s : Session δ σ) (now : Nat) : List Effect :=
  match s.scheduler.due now with
  | (none, _) => []
  | (some force, scheduler) =>
    { s with scheduler := scheduler : Session δ σ }.compileEffects force now

/-- The effects of the timers. -/
def timerEffects (s : Session δ σ) (now : Nat) : List Effect :=
  ((s.cooldownCompile now).cooldownReset now).dueEffects now

variable [Surface σ]

/-- The effects of a reset, which compiles again. -/
def resetEffects (s : Session δ σ) (now : Nat) : List Effect :=
  s.renderer.resetEffects now ++
    match s.renderer.reset now with
    | (.done, renderer) =>
      { s with renderer := renderer, artifact := none : Session δ σ }.compileEffects true now
    | _ => []

/-- The effects of showing the artifact. -/
def renderEffects (s : Session δ σ) (force : Bool) (now : Nat) : List Effect :=
  s.renderer.updateEffects s.artifact force ++
    match s.renderer.update s.artifact force with
    | (.failed message, renderer) =>
      { s with renderer := renderer, error := some (.render message) : Session δ σ }.resetEffects
        now
    | _ => []

/-- The effects of the outcome of a response that is not stale. -/
def outcomeEffects (s : Session δ σ) (sequence : Nat) (now : Nat) : Outcome → List Effect
  | .code text =>
    { s with
      error := none
      artifact := some (Artifact.ofCode text sequence) : Session δ σ }.renderEffects false now
  | .error _ => []

/-- The effects of a response. -/
def resultEffects (s : Session δ σ) (response : Response) (now : Nat) : List Effect :=
  if s.stale response.sequence then []
  else
    { s with lastApplied := some response.sequence : Session δ σ }.outcomeEffects
      response.sequence now response.outcome

end Session

end LivePreview
