import LivePreview.Guard

/-!
# The log of a burst guard

What a guard was asked and what it answered, oldest first. The log says nothing about what the guard
keeps: rules about a history are stated over it.

## Main definitions

* `LivePreview.Guard.Call`, `LivePreview.Guard.Event`: a call to a guard, without and with its
  verdict.
* `LivePreview.Guard.after`, `LivePreview.Guard.log`: the guard and the log after some calls.
-/

namespace LivePreview.Guard

/-- A call to a guard. -/
inductive Call where
  /-- An attempt at an instant. -/
  | check (now : Nat)
  /-- The cooldown is ended from outside. -/
  | endCooldown
deriving DecidableEq, Repr

/-- A call that was answered. -/
inductive Event where
  /-- An attempt with its verdict. -/
  | checked (now : Nat) (verdict : Verdict)
  /-- The cooldown was ended from outside. -/
  | ended
deriving DecidableEq, Repr

/-- What was asked. -/
def Event.call : Event → Call
  | .checked now _ => .check now
  | .ended => .endCooldown

/-- The verdict on an attempt. -/
def Event.verdict? : Event → Option Verdict
  | .checked _ verdict => some verdict
  | .ended => none

/-- The instant of an attempt that was allowed. -/
def Event.allowed? : Event → Option Nat
  | .checked now .allowed => some now
  | _ => none

/-- The guard takes a call. -/
def answer (g : Guard) : Call → Event × Guard
  | .check now => (.checked now (g.check now).1, (g.check now).2)
  | .endCooldown => (.ended, g.endCooldown)

/-- The guard after some calls. -/
def after (g : Guard) : List Call → Guard
  | [] => g
  | call :: calls => (g.answer call).2.after calls

/-- The log of some calls. -/
def log (g : Guard) : List Call → List Event
  | [] => []
  | call :: calls => (g.answer call).1 :: (g.answer call).2.log calls

/-- The instants of the attempts that were allowed. -/
def allowed (log : List Event) : List Nat := log.filterMap Event.allowed?

/-- The verdicts on the attempts. -/
def verdicts (log : List Event) : List Verdict := log.filterMap Event.verdict?

end LivePreview.Guard
