import LivePreview.FileSet
import LivePreview.Guard

/-!
# Compile scheduling

The scheduler collapses a burst of edits into one compile attempt after a delay, passes over
attempts whose file set is unchanged, and stops compile loops with a burst guard.

## Main definitions

* `LivePreview.Scheduler`: the state of the scheduler.
* `LivePreview.Scheduler.request`: an edit restarts the delay.
* `LivePreview.Scheduler.due`: takes the attempt whose delay is over.
* `LivePreview.Scheduler.attempt`: decides on an attempt.
-/

namespace LivePreview

/-- An attempt that waits for its delay to pass. -/
structure Pending where
  /-- The instant from which the attempt is due. -/
  deadline : Nat
  /-- Whether unchanged content is compiled too. -/
  force : Bool
deriving DecidableEq, Repr

/-- What becomes of an attempt. -/
inductive Decision where
  /-- The file set goes to the compile unit. -/
  | dispatch (files : FileSet)
  /-- The content is the one dispatched last. -/
  | unchanged
  /-- The compile unit is not ready. -/
  | notReady
  /-- The attempt is one too many. -/
  | loopDetected
  /-- The guard is cooling down. -/
  | suppressed
deriving DecidableEq

/-- The state of the scheduler. -/
structure Scheduler where
  /-- How long an edit waits for further edits. -/
  debounce : Nat
  /-- The guard of compile attempts. -/
  guard : Guard
  /-- The fingerprint of the file set dispatched last. -/
  lastDispatched : Option Fingerprint
  /-- The attempt that waits. -/
  pending : Option Pending
deriving DecidableEq, Repr

namespace Scheduler

/-- A scheduler at its start. -/
def ofConfig (config : Config) : Scheduler where
  debounce := config.debounce
  guard := Guard.ofConfig config.compileGuard
  lastDispatched := none
  pending := none

/-- An edit at `now`: the delay starts again and the latest `force` counts. -/
def request (s : Scheduler) (force : Bool) (now : Nat) : Scheduler :=
  { s with pending := some ⟨now + s.debounce, force⟩ }

/-- Nothing waits any more. -/
def cancel (s : Scheduler) : Scheduler := { s with pending := none }

/-- Takes the waiting attempt if its delay is over. -/
def due (s : Scheduler) (now : Nat) : Option Bool × Scheduler :=
  match s.pending with
  | none => (none, s)
  | some p => if p.deadline ≤ now then (some p.force, s.cancel) else (none, s)

/-- Decides on an attempt. Only an attempt with a ready compile unit is counted by the guard. -/
def attempt (s : Scheduler) (files : FileSet) (force ready : Bool) (now : Nat) :
    Decision × Scheduler :=
  if ready then
    match s.guard.check now with
    | (.tripped, g) => (.loopDetected, { s with guard := g })
    | (.suppressed, g) => (.suppressed, { s with guard := g })
    | (.allowed, g) =>
      if s.lastDispatched = some files.fingerprint ∧ force = false then
        (.unchanged, { s with guard := g })
      else (.dispatch files, { s with guard := g, lastDispatched := some files.fingerprint })
  else (.notReady, s)

/-- The next attempt goes out even with unchanged content. -/
def forget (s : Scheduler) : Scheduler := { s with lastDispatched := none }

/-- The guard's cooldown is over. -/
def endCooldown (s : Scheduler) : Scheduler := { s with guard := s.guard.endCooldown }

end Scheduler

end LivePreview
