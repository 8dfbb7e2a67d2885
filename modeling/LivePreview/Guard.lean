import LivePreview.Config

/-!
# Burst guards

A burst guard counts attempts that come less than a window after the last allowed one. When a burst
has more than a threshold of them the guard trips once, and suppresses everything until its
cooldown is over. Instants are milliseconds from an arbitrary origin and may go backwards.

The count is kept in 32 bits, with overflow checks: to count one more attempt than fits is an error
that ends a run, so that the attempt gets no verdict and nothing follows it. (Without the checks the
count would start again at zero.) Counts are numbers without a bound here, and
`LivePreview.Guard.Fits` tells whether there was an overflow. There is none unless the threshold is
the highest number of 32 bits.

## Main definitions

* `LivePreview.Guard`: a burst guard.
* `LivePreview.Guard.Fits`: its count fits 32 bits.
* `LivePreview.Guard.check`: one attempt and the verdict on it.
* `LivePreview.Guard.endCooldown`: clears the cooldown and the count.
-/

namespace LivePreview

/-- The verdict on an attempt. -/
inductive Verdict where
  /-- The attempt may go on. -/
  | allowed
  /-- The attempt is one too many. -/
  | tripped
  /-- The guard is cooling down. -/
  | suppressed
deriving DecidableEq, Repr

/-- A burst guard. -/
structure Guard where
  /-- The limits. -/
  config : GuardConfig
  /-- The instant of the last allowed attempt. -/
  lastAllowed : Option Nat
  /-- The number of attempts in the current burst, which has to fit 32 bits, see `Guard.Fits`. -/
  burst : Nat
  /-- The instant at which the current cooldown ends. -/
  coolingUntil : Option Nat
deriving DecidableEq, Repr

namespace Guard

/-- The count fits the 32 bits that it is kept in. If it does after an attempt, there was no overflow
in counting it. -/
def Fits (g : Guard) : Prop := g.burst < UInt32.size

/-- A guard that has seen nothing. -/
def ofConfig (config : GuardConfig) : Guard := ⟨config, none, 0, none⟩

/-- The guard with its cooldown and its count cleared. -/
def endCooldown (g : Guard) : Guard := { g with burst := 0, coolingUntil := none }

/-- Whether an attempt comes less than a window after the last allowed one. Going backwards in time
counts as no distance. -/
def inWindow (g : Guard) (now : Nat) : Bool :=
  match g.lastAllowed with
  | none => false
  | some last => now - last < g.config.window

/-- The guard counts an attempt that is not suppressed. -/
def count (g : Guard) (now : Nat) : Verdict × Guard :=
  let burst := if g.inWindow now then g.burst + 1 else 1
  if g.inWindow now ∧ g.config.threshold < burst then
    (.tripped, { g with burst := burst, coolingUntil := some (now + g.config.cooldown) })
  else (.allowed, { g with burst := burst, lastAllowed := some now })

/-- One attempt. A cooldown that is over by then is ended first. -/
def check (g : Guard) (now : Nat) : Verdict × Guard :=
  match g.coolingUntil with
  | none => g.count now
  | some deadline => if now < deadline then (.suppressed, g) else g.endCooldown.count now

/-- Whether a cooldown is running that is over at an instant. -/
def cooledBy (g : Guard) (now : Nat) : Bool :=
  match g.coolingUntil with
  | none => false
  | some deadline => deadline ≤ now

end Guard

end LivePreview
