import LivePreview.Session.Run

/-!
# What a session tries

The effects of a session are what reaches its compile unit and its surface. Its record also tells
what does not get that far: every compile attempt, forced or not, with the way it ends, and every
reset with the verdict of its guard.

## Main definitions

* `LivePreview.Ending`, `LivePreview.Attempt`: how a compile attempt ends, and what is tried.
* `LivePreview.Session.compileRecord`, `timerRecord`, `resetRecord`, `renderRecord`,
  `resultRecord`: the record of the operations.
* `LivePreview.Session.record`: the record of a run.
* `LivePreview.Record.taken`, `LivePreview.Record.lastEnding`, `LivePreview.Record.lastVerdict`:
  what a record tells of requests, of attempts and of guards.
-/

namespace LivePreview

/-- How a compile attempt ends. -/
inductive Ending where
  /-- A request is handed to the compile unit, which takes it or not. -/
  | handed (request : Request) (taken : Bool)
  /-- The content is the one dispatched last. -/
  | unchanged
  /-- The compile unit is not ready. -/
  | notReady
  /-- The attempt trips its guard. -/
  | loopDetected
  /-- The guard is cooling down. -/
  | suppressed
deriving DecidableEq

namespace Ending

/-- The verdict of the guard, if it is asked. -/
def verdict? : Ending → Option Verdict
  | handed _ _ => some .allowed
  | unchanged => some .allowed
  | notReady => none
  | loopDetected => some .tripped
  | suppressed => some .suppressed

/-- Whether the guard stops the attempt. -/
def refused : Ending → Bool
  | loopDetected => true
  | suppressed => true
  | _ => false

end Ending

/-- What a session tries. -/
inductive Attempt where
  /-- A compile attempt, forced or not. -/
  | compile (force : Bool) (ending : Ending)
  /-- A reset. -/
  | reset (verdict : Verdict)
deriving DecidableEq

namespace Attempt

/-- The request that is handed over, and whether it is taken. -/
def handed? : Attempt → Option (Request × Bool)
  | compile _ (.handed request taken) => some (request, taken)
  | _ => none

/-- The request that is taken. -/
def taken? : Attempt → Option Request
  | compile _ (.handed request true) => some request
  | _ => none

/-- How a compile attempt ends. -/
def ending? : Attempt → Option Ending
  | compile _ ending => some ending
  | reset _ => none

/-- The verdict of the guard of compile attempts. -/
def compileVerdict? : Attempt → Option Verdict
  | compile _ ending => ending.verdict?
  | reset _ => none

/-- The verdict of the guard of resets. -/
def resetVerdict? : Attempt → Option Verdict
  | compile _ _ => none
  | reset verdict => some verdict

end Attempt

/-- What was tried, in order. -/
abbrev Record := List Attempt

namespace Record

/-- The requests that were handed over, and whether they were taken. -/
def handed (l : Record) : List (Request × Bool) := l.filterMap Attempt.handed?

/-- The requests that were taken. -/
def taken (l : Record) : List Request := l.filterMap Attempt.taken?

/-- How the last compile attempt ended. -/
def lastEnding (l : Record) : Option Ending := (l.filterMap Attempt.ending?).getLast?

/-- The last verdict of some kind that is not a suppression. -/
def lastVerdict (kind : Attempt → Option Verdict) (l : Record) : Option Verdict :=
  ((l.filterMap kind).filter (· ≠ .suppressed)).getLast?

end Record

/-- The request that is handed over, and whether it is taken. -/
def Effect.handed? : Effect → Option (Request × Bool)
  | request r taken => some (r, taken)
  | _ => none

/-- The requests of a history, and whether they were taken. -/
def History.handed (h : History) : List (Request × Bool) := h.filterMap fun e => e.2.handed?

/-- The requests of a history that were taken. -/
def History.taken (h : History) : List Request :=
  h.handed.filterMap fun e => if e.2 then some e.1 else none

namespace Session

variable {δ σ : Type} [CompileUnit δ]

/-- How a compile attempt ends. -/
def ending (s : Session δ σ) (force : Bool) (now : Nat) : Ending :=
  match (s.scheduler.attempt s.files force (CompileUnit.ready s.unit) now).1 with
  | .dispatch files =>
    let request : Request := ⟨s.nextSequence, files⟩
    .handed request (CompileUnit.dispatch s.unit request).2.isOk
  | .unchanged => .unchanged
  | .notReady => .notReady
  | .loopDetected => .loopDetected
  | .suppressed => .suppressed

/-- The record of a compile attempt. -/
def compileRecord (s : Session δ σ) (force : Bool) (now : Nat) : Record :=
  [.compile force (s.ending force now)]

/-- The record of the waiting compile attempt. -/
def dueRecord (s : Session δ σ) (now : Nat) : Record :=
  match s.scheduler.due now with
  | (none, _) => []
  | (some force, scheduler) =>
    { s with scheduler := scheduler : Session δ σ }.compileRecord force now

/-- The record of the timers. -/
def timerRecord (s : Session δ σ) (now : Nat) : Record :=
  ((s.cooldownCompile now).cooldownReset now).dueRecord now

variable [Surface σ]

/-- The record of a reset, which compiles again. -/
def resetRecord (s : Session δ σ) (now : Nat) : Record :=
  .reset (s.renderer.guard.check now).1 ::
    match s.renderer.reset now with
    | (.done, renderer) =>
      { s with renderer := renderer, artifact := none : Session δ σ }.compileRecord true now
    | _ => []

/-- The record of showing the artifact. -/
def renderRecord (s : Session δ σ) (force : Bool) (now : Nat) : Record :=
  match s.renderer.update s.artifact force with
  | (.failed message, renderer) =>
    { s with renderer := renderer, error := some (.render message) : Session δ σ }.resetRecord now
  | _ => []

/-- The record of the outcome of a response that is not stale. -/
def outcomeRecord (s : Session δ σ) (sequence : Nat) (now : Nat) : Outcome → Record
  | .code text =>
    { s with
      error := none
      artifact := some (Artifact.ofCode text sequence) : Session δ σ }.renderRecord false now
  | .error _ => []

/-- The record of a response. -/
def resultRecord (s : Session δ σ) (response : Response) (now : Nat) : Record :=
  if s.stale response.sequence then []
  else
    { s with lastApplied := some response.sequence : Session δ σ }.outcomeRecord
      response.sequence now response.outcome

/-- The record of an operation. -/
def operationRecord (s : Session δ σ) (now : Nat) : Operation → Record
  | .pollTimers => s.timerRecord now
  | .compileNow force => s.compileRecord force now
  | .refresh => s.renderRecord true now
  | .reset => s.resetRecord now
  | _ => []

/-- The record of a step. -/
def stepRecord (s : Session δ σ) (now : Nat) : Step δ σ → Record
  | .operate operation => s.operationRecord now operation
  | .deliver response => s.resultRecord response now
  | .unit _ => []
  | .surface _ => []

/-- The record of a run. -/
def record (s : Session δ σ) : List (Nat × Step δ σ) → Record
  | [] => []
  | (now, step) :: rest => s.stepRecord now step ++ (s.step now step).record rest

theorem record_append (s : Session δ σ) (steps more : List (Nat × Step δ σ)) :
    s.record (steps ++ more) = s.record steps ++ (s.after steps).record more := by
  induction steps generalizing s with
  | nil => rfl
  | cons first rest ih => simp [record, after, ih]

end Session

end LivePreview
