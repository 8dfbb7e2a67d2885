import LivePreview.Message
import LivePreview.Renderer
import LivePreview.Scheduler

/-!
# Preview sessions

A session owns the current files, the scheduler, the renderer, the artifact and one error slot. It
hands requests to a compile unit and takes the responses that come back. Nothing here waits: every
operation is given the current instant, and `Session.nextDeadline` tells when `Session.pollTimers`
has something to do.

A response with a number not above the last applied one is stale and dropped; all others apply in
the order in which they arrive.

## Main definitions

* `LivePreview.CompileUnit`: something that takes requests, or is not ready for them.
* `LivePreview.Session`: the state of a session.
* `LivePreview.Session.filesChanged`, `requestCompile`, `pollTimers`, `compileNow`: the way of an
  edit to the compile unit.
* `LivePreview.Session.applyResult`, `refresh`, `reset`: the way of a response to the surface.
-/

namespace LivePreview

/-- Something that takes compile requests. Taking or refusing one may change its state. -/
class CompileUnit (δ : Type) where
  /-- Whether a request may be handed over at present. -/
  ready : δ → Bool
  /-- Hands a request over. -/
  dispatch : δ → Request → δ × Except DispatchError Unit

/-- The state of a session. -/
structure Session (δ σ : Type) where
  /-- The current files. -/
  files : FileSet
  /-- The scheduler of compile attempts. -/
  scheduler : Scheduler
  /-- The renderer of the surface. -/
  renderer : Renderer σ
  /-- The compile unit. -/
  unit : δ
  /-- The artifact of the last response with code, until a new request drops it. -/
  artifact : Option Artifact
  /-- The error slot. -/
  error : Option PreviewError
  /-- The number of the next request. -/
  nextSequence : Nat
  /-- The number of the last applied response. -/
  lastApplied : Option Nat

namespace Session

variable {δ σ : Type}

/-- A session at its start. -/
def start (config : Config) (unit : δ) (surface : σ) (files : FileSet) : Session δ σ where
  files := files
  scheduler := Scheduler.ofConfig config
  renderer := Renderer.ofConfig surface config
  unit := unit
  artifact := none
  error := none
  nextSequence := 1
  lastApplied := none

/-- Empties the error slot. -/
def clearError (s : Session δ σ) : Session δ σ := { s with error := none }

/-! ### Edits -/

/-- New files, without a compile attempt. -/
def setFiles (s : Session δ σ) (files : FileSet) : Session δ σ := { s with files := files }

/-- Asks for a compile attempt after the delay. -/
def requestCompile (s : Session δ σ) (force : Bool) (now : Nat) : Session δ σ :=
  { s with scheduler := s.scheduler.request force now }

/-- New files, and a compile attempt after the delay. -/
def filesChanged (s : Session δ σ) (files : FileSet) (now : Nat) : Session δ σ :=
  (s.setFiles files).requestCompile false now

/-- The earliest of some instants. -/
def earliest : List (Option Nat) → Option Nat
  | [] => none
  | none :: rest => earliest rest
  | some a :: rest =>
    match earliest rest with
    | none => some a
    | some b => some (min a b)

/-- The earliest instant at which a timer is due. -/
def nextDeadline (s : Session δ σ) : Option Nat :=
  earliest [s.scheduler.pending.map (·.deadline), s.scheduler.guard.coolingUntil,
    s.renderer.guard.coolingUntil]

/-! ### Compile attempts -/

/-- Hands the files of an attempt over under the next number. Whatever waits is covered by it, and
the artifact is out of date. A refused request does not count as dispatched. -/
def dispatch [CompileUnit δ] (s : Session δ σ) (files : FileSet) : Session δ σ :=
  let request : Request := ⟨s.nextSequence, files⟩
  let s := { s with
    scheduler := s.scheduler.cancel
    artifact := none
    nextSequence := s.nextSequence + 1 }
  match CompileUnit.dispatch s.unit request with
  | (unit, .ok ()) => { s with unit := unit }
  | (unit, .error e) =>
    { s with
      unit := unit
      error := some (.dispatch e.message)
      scheduler := s.scheduler.forget }

/-- One compile attempt, now. -/
def compileNow [CompileUnit δ] (s : Session δ σ) (force : Bool) (now : Nat) : Session δ σ :=
  match s.scheduler.attempt s.files force (CompileUnit.ready s.unit) now with
  | (.dispatch files, scheduler) => { s with scheduler := scheduler : Session δ σ }.dispatch files
  | (.unchanged, scheduler) => { s with scheduler := scheduler }
  | (.notReady, scheduler) => { s with scheduler := scheduler, error := some .notReady }
  | (.loopDetected, scheduler) => { s with scheduler := scheduler, error := some .compileLoop }
  | (.suppressed, scheduler) => { s with scheduler := scheduler }

/-! ### Timers -/

/-- The error slot without one particular error. -/
def dismiss (e : PreviewError) (s : Session δ σ) : Session δ σ :=
  if s.error = some e then s.clearError else s

/-- Ends the cooldown of the compile guard if it is over. -/
def cooldownCompile (s : Session δ σ) (now : Nat) : Session δ σ :=
  if s.scheduler.guard.cooledBy now then
    dismiss .compileLoop { s with scheduler := s.scheduler.endCooldown }
  else s

/-- Ends the cooldown of the reset guard if it is over. -/
def cooldownReset (s : Session δ σ) (now : Nat) : Session δ σ :=
  if s.renderer.guard.cooledBy now then
    dismiss .resetLoop { s with renderer := s.renderer.endCooldown }
  else s

/-- Starts the waiting compile attempt if its delay is over. -/
def compileDue [CompileUnit δ] (s : Session δ σ) (now : Nat) : Session δ σ :=
  match s.scheduler.due now with
  | (none, scheduler) => { s with scheduler := scheduler }
  | (some force, scheduler) =>
    { s with scheduler := scheduler : Session δ σ }.compileNow force now

/-- Fires every timer that is due: cooldowns first, then the waiting compile attempt. -/
def pollTimers [CompileUnit δ] (s : Session δ σ) (now : Nat) : Session δ σ :=
  ((s.cooldownCompile now).cooldownReset now).compileDue now

/-! ### Results -/

/-- Blanks the surface, drops the artifact and compiles again. -/
def reset [CompileUnit δ] [Surface σ] (s : Session δ σ) (now : Nat) : Session δ σ :=
  match s.renderer.reset now with
  | (.done, renderer) =>
    { s with renderer := renderer, artifact := none : Session δ σ }.compileNow true now
  | (.loopDetected, renderer) =>
    { s with
      renderer := renderer
      error := some .resetLoop
      artifact := none
      scheduler := s.scheduler.forget }
  | (.suppressed, renderer) => { s with renderer := renderer }
  | (.failed message, renderer) =>
    { s with renderer := renderer, error := some (.reset message) }

/-- Shows the artifact; a refused document leads to a reset. -/
def render [CompileUnit δ] [Surface σ] (s : Session δ σ) (force : Bool) (now : Nat) :
    Session δ σ :=
  match s.renderer.update s.artifact force with
  | (.injected, renderer) => { s with renderer := renderer, error := none }
  | (.skipped, renderer) => { s with renderer := renderer }
  | (.failed message, renderer) =>
    { s with renderer := renderer, error := some (.render message) : Session δ σ }.reset now

/-- Shows the artifact again even if it is showing. -/
def refresh [CompileUnit δ] [Surface σ] (s : Session δ σ) (now : Nat) : Session δ σ :=
  s.render true now

/-- Whether a response number is not above the last applied one. -/
def stale (s : Session δ σ) (sequence : Nat) : Bool :=
  match s.lastApplied with
  | none => false
  | some last => sequence ≤ last

/-- Takes the outcome of a response that is not stale. -/
def takeOutcome [CompileUnit δ] [Surface σ] (s : Session δ σ) (sequence : Nat) (now : Nat) :
    Outcome → Session δ σ
  | .code text =>
    { s with error := none, artifact := some (Artifact.ofCode text sequence) : Session δ σ }.render
      false now
  | .error message => { s with error := some (.compile message) }

/-- Applies a response of the compile unit. -/
def applyResult [CompileUnit δ] [Surface σ] (s : Session δ σ) (response : Response) (now : Nat) :
    Session δ σ :=
  if s.stale response.sequence then s
  else
    { s with lastApplied := some response.sequence : Session δ σ }.takeOutcome response.sequence
      now response.outcome

end Session

end LivePreview
