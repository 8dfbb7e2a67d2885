import LivePreview.Proofs.Session.LoopErrors

/-!
# Deadlines

The host of a session sleeps until the next deadline, and then has the timers fired. For that to be
enough, nothing may be due before the deadline, and when the timers have fired, nothing may be due
any more: a host that is woken at once again does not sleep at all. One timer can set another,
though. The attempt that was waiting may trip the guard of compile attempts, and begin a cooldown
that is over at the same instant if cooldowns take no time. The attempt does not come back, however,
so the next round ends that cooldown and sets nothing. Timers that are due therefore weigh less
after each round, if the waiting attempt weighs as much as the cooldown that it may begin and one
more.

## Main definitions

* `LivePreview.Session.Sleeps`: nothing is due, going by the next deadline.
* `LivePreview.Session.overdue`: the weight of the timers that are due.
* `LivePreview.Session.Starting`: the timers are to make the attempt that was waiting.
* `LivePreview.Session.Fired`: the timers that were due have fired.

## Main results

* `LivePreview.Session.sleeps_iff`: the next deadline tells whether some timer is due.
* `LivePreview.Session.pollTimers_of_not_due`, `LivePreview.Session.exists_starting`: when a round
  of the timers starts an attempt.
* `LivePreview.Session.fired_pollTimers`: what a round of the timers leaves.
* `LivePreview.Session.sleeps_after_poll`: a round that is made too early does nothing, and after at
  most two rounds nothing is due.
-/

namespace LivePreview

/-! ### Cooldowns that are over -/

namespace Guard

variable {g g' : Guard} {now : Nat}

/-- A guard that lets an attempt through is not cooling down. -/
theorem coolingUntil_of_allowed (h : g.check now = (.allowed, g')) : g'.coolingUntil = none := by
  have hcount {g : Guard} (hnone : g.coolingUntil = none) (h : g.count now = (.allowed, g')) :
      g'.coolingUntil = none := by
    rcases count_cases g now with ⟨-, -, hg⟩ | ⟨-, -, hg⟩ | ⟨-, hg⟩ <;>
      obtain ⟨hverdict, rfl⟩ := Prod.mk.inj (hg.symm.trans h)
    · cases hverdict
    · exact hnone
    · exact hnone
  rcases check_cases g now with ⟨hnone, hg⟩ | ⟨-, -, -, hg⟩ | ⟨-, hg⟩ <;> rw [hg] at h
  · exact hcount hnone h
  · cases h
  · exact hcount (g := g.endCooldown) rfl h

theorem cooledBy_eq_false_iff :
    g.cooledBy now = false ↔ ∀ deadline, g.coolingUntil = some deadline → now < deadline := by
  cases h : g.coolingUntil <;> simp [cooledBy, h]

/-- The timer of a cooldown leaves none that is over. -/
@[simp] theorem cooledBy_cooled (g : Guard) (now : Nat) : (g.cooled now).cooledBy now = false := by
  rw [cooled]
  split
  · rfl
  · rename_i hrunning
    simpa using hrunning

end Guard

namespace Session

variable {δ σ : Type} {now : Nat} {s t u : Session δ σ}

/-! ### The next deadline -/

/-- The host sleeps at an instant: there is no deadline up to then. -/
def Sleeps (now : Nat) (s : Session δ σ) : Prop :=
  ∀ deadline, s.nextDeadline = some deadline → now < deadline

/-- The earliest of some instants is one of them. -/
theorem mem_of_earliest {instants : List (Option Nat)} {first : Nat}
    (h : earliest instants = some first) : some first ∈ instants := by
  induction instants generalizing first with
  | nil => cases h
  | cons a rest ih =>
    cases a with
    | none => exact List.mem_cons_of_mem _ (ih h)
    | some a =>
      rw [earliest] at h
      cases hrest : earliest rest with
      | none =>
        obtain rfl : a = first := by simpa [hrest] using h
        exact List.mem_cons_self
      | some b =>
        obtain rfl : min a b = first := by simpa [hrest] using h
        rcases Nat.le_total a b with hle | hle
        · rw [Nat.min_eq_left hle]
          exact List.mem_cons_self
        · rw [Nat.min_eq_right hle]
          exact List.mem_cons_of_mem _ (ih hrest)

/-- The host sleeps while nothing that waits is due and no cooldown is over. -/
theorem sleeps_iff : Sleeps now s ↔
    (∀ p, s.scheduler.pending = some p → now < p.deadline) ∧
      s.scheduler.guard.cooledBy now = false ∧ s.renderer.guard.cooledBy now = false := by
  have hearliest : Sleeps now s ↔ ∀ deadline, some deadline ∈
      [s.scheduler.pending.map (·.deadline), s.scheduler.guard.coolingUntil,
        s.renderer.guard.coolingUntil] → now < deadline := by
    constructor
    · intro h deadline hmem
      obtain ⟨first, hfirst, hle⟩ := earliest_le hmem
      exact Nat.lt_of_lt_of_le (h first hfirst) hle
    · exact fun h deadline hdeadline => h deadline (mem_of_earliest hdeadline)
  rw [hearliest, Guard.cooledBy_eq_false_iff, Guard.cooledBy_eq_false_iff]
  constructor
  · intro h
    refine ⟨fun p hp => h p.deadline (by simp [hp]), fun deadline hd => h deadline (by simp [hd]),
      fun deadline hd => h deadline (by simp [hd])⟩
  · rintro ⟨hpending, hcompile, hreset⟩ deadline hmem
    simp only [List.mem_cons, List.not_mem_nil, or_false] at hmem
    rcases hmem with hp | hd | hd
    · obtain ⟨p, hwaits, rfl⟩ := Option.map_eq_some_iff.1 hp.symm
      exact hpending p hwaits
    · exact hcompile deadline hd.symm
    · exact hreset deadline hd.symm

/-! ### One round of the timers -/

/-- The timers of both cooldowns change the guards and the error slot only. -/
theorem exists_cooldowns (s : Session δ σ) (now : Nat) :
    ∃ slot, (s.cooldownCompile now).cooldownReset now =
      { s with
        scheduler := { s.scheduler with guard := s.scheduler.guard.cooled now }
        renderer := { s.renderer with guard := s.renderer.guard.cooled now }
        error := slot } := by
  obtain ⟨slot, hcompile, -⟩ := exists_cooldownCompile s now
  obtain ⟨slot', hreset, -⟩ := exists_cooldownReset (s.cooldownCompile now) now
  exact ⟨slot', by rw [hreset, hcompile]⟩

/-- The session in which the timers make the attempt that was waiting. Cooldowns that are over have
ended by then. -/
structure Starting (now : Nat) (s t : Session δ σ) : Prop where
  /-- The files are the same. -/
  files : t.files = s.files
  /-- The compile unit is the same. -/
  unit : t.unit = s.unit
  /-- The delay is the same. -/
  debounce : t.scheduler.debounce = s.scheduler.debounce
  /-- Nothing waits any more. -/
  pending : t.scheduler.pending = none
  /-- The cooldown of compile attempts has ended if it was over. -/
  compileGuard : t.scheduler.guard = s.scheduler.guard.cooled now
  /-- The cooldown of resets has ended if it was over. -/
  resetGuard : t.renderer.guard = s.renderer.guard.cooled now

/-- The timers that were due have fired. The attempt that was waiting may have begun a cooldown. -/
structure Fired (now : Nat) (s t : Session δ σ) : Prop where
  /-- What waits was waiting before, and is not due. -/
  pending : ∀ p, t.scheduler.pending = some p → s.scheduler.pending = some p ∧ now < p.deadline
  /-- The cooldown of resets has ended if it was over. -/
  resetGuard : t.renderer.guard = s.renderer.guard.cooled now
  /-- A cooldown of compile attempts is not over, or it begins with the attempt that was waiting. -/
  compileGuard : ∀ deadline, t.scheduler.guard.coolingUntil = some deadline →
    (s.scheduler.guard.coolingUntil = some deadline ∧ now < deadline) ∨
    ∃ p, s.scheduler.pending = some p ∧ p.deadline ≤ now ∧
      deadline = now + s.scheduler.guard.config.cooldown

variable [CompileUnit δ]

/-- A compile attempt leaves nothing waiting that was not, and leaves the guard of resets alone. It
leaves a cooldown that was running, or begins one. -/
theorem Ends.fired {force : Bool} {ending : Ending} (h : Ends now force s ending t) :
    (t.scheduler.pending = s.scheduler.pending ∨ t.scheduler.pending = none) ∧
      t.renderer = s.renderer ∧
      ∀ deadline, t.scheduler.guard.coolingUntil = some deadline →
        s.scheduler.guard.coolingUntil = some deadline ∨
          deadline = now + s.scheduler.guard.config.cooldown := by
  have hallowed {g : Guard} (hg : s.scheduler.guard.check now = (.allowed, g)) (deadline : Nat)
      (hdeadline : g.coolingUntil = some deadline) :
      s.scheduler.guard.coolingUntil = some deadline ∨
        deadline = now + s.scheduler.guard.config.cooldown :=
    nomatch (Guard.coolingUntil_of_allowed hg).symm.trans hdeadline
  cases h with
  | notReady => exact ⟨.inl rfl, rfl, fun _ => .inl⟩
  | loopDetected _ hg =>
    refine ⟨.inl rfl, rfl, fun deadline hdeadline => .inr ?_⟩
    exact Option.some.inj (hdeadline.symm.trans (Guard.coolingUntil_of_tripped hg))
  | suppressed => exact ⟨.inl rfl, rfl, fun _ => .inl⟩
  | unchanged _ hg => exact ⟨.inl rfl, rfl, hallowed hg⟩
  | taken _ hg => exact ⟨.inr rfl, rfl, hallowed hg⟩
  | untaken _ hg => exact ⟨.inr rfl, rfl, hallowed hg⟩

/-- The timers start no attempt while the delay of what waits is not over. Then nothing changes but
cooldowns. -/
theorem pollTimers_of_not_due (h : ∀ p, s.scheduler.pending = some p → now < p.deadline) :
    s.pollTimers now = (s.cooldownCompile now).cooldownReset now ∧ s.timerRecord now = [] := by
  have hcooled := cooled_cooldowns s now
  rw [pollTimers, timerRecord]
  generalize (s.cooldownCompile now).cooldownReset now = cooled at hcooled ⊢
  rcases compileDue_cases cooled now with ⟨-, hsame, hrecord⟩ | ⟨p, hp, hover, -, -⟩
  · exact ⟨hsame, hrecord⟩
  · exact absurd hover (Nat.not_le.2 (h p (hcooled.pending ▸ hp)))

/-- When the delay of what waits is over, the timers start an attempt for it. -/
theorem exists_starting {p : Pending} (hp : s.scheduler.pending = some p)
    (hover : p.deadline ≤ now) : ∃ t : Session δ σ, Starting now s t ∧
      s.pollTimers now = t.compileNow p.force now ∧
        s.timerRecord now = [.compile p.force (t.ending p.force now)] := by
  obtain ⟨slot, hcooled⟩ := exists_cooldowns s now
  let cooled : Session δ σ :=
    { s with
      scheduler := { s.scheduler with guard := s.scheduler.guard.cooled now }
      renderer := { s.renderer with guard := s.renderer.guard.cooled now }
      error := slot }
  have hstarting : Starting now s { cooled with scheduler := cooled.scheduler.cancel } :=
    ⟨rfl, rfl, rfl, rfl, rfl, rfl⟩
  refine ⟨_, hstarting, ?_⟩
  rw [pollTimers, timerRecord, hcooled]
  rcases compileDue_cases cooled now with ⟨hlater, -, -⟩ | ⟨p', hp', -, hcompile, hrecord⟩
  · exact absurd hover (Nat.not_le.2 (hlater p hp))
  · obtain rfl := Option.some.inj (hp.symm.trans hp')
    exact ⟨hcompile, hrecord⟩

/-- A round of the timers fires those that are due. -/
theorem fired_pollTimers (s : Session δ σ) (now : Nat) : Fired now s (s.pollTimers now) := by
  have hrunning (deadline : Nat)
      (hdeadline : (s.scheduler.guard.cooled now).coolingUntil = some deadline) :
      s.scheduler.guard.coolingUntil = some deadline ∧ now < deadline := by
    refine ⟨?_, Guard.cooledBy_eq_false_iff.1 (Guard.cooledBy_cooled _ _) deadline hdeadline⟩
    rw [Guard.cooled] at hdeadline
    split at hdeadline
    · cases hdeadline
    · exact hdeadline
  by_cases hdue : ∃ p, s.scheduler.pending = some p ∧ p.deadline ≤ now
  · obtain ⟨p, hp, hover⟩ := hdue
    obtain ⟨t, ht, hcompile, -⟩ := exists_starting hp hover
    obtain ⟨hpending, hrenderer, hguard⟩ := (ends_compileNow t p.force now).fired
    have hconfig : t.scheduler.guard.config = s.scheduler.guard.config := by
      rw [ht.compileGuard, Guard.cooled]
      split <;> rfl
    rw [hcompile]
    refine ⟨fun p' hp' => ?_, hrenderer ▸ ht.resetGuard, fun deadline hd => ?_⟩
    · rw [ht.pending, or_self] at hpending
      exact absurd (hpending.symm.trans hp') (by simp)
    · rcases hguard deadline hd with hd' | hd'
      · exact .inl (hrunning deadline (ht.compileGuard ▸ hd'))
      · exact .inr ⟨p, hp, hover, hconfig ▸ hd'⟩
  · have hlater (p : Pending) (hp : s.scheduler.pending = some p) : now < p.deadline :=
      Nat.not_le.1 fun hover => hdue ⟨p, hp, hover⟩
    obtain ⟨slot, hcooled⟩ := exists_cooldowns s now
    rw [(pollTimers_of_not_due hlater).1, hcooled]
    exact ⟨fun p hp => ⟨hp, hlater p hp⟩, rfl, fun deadline hd => .inl (hrunning deadline hd)⟩

/-- A round of the timers that is made while the host sleeps does nothing. -/
theorem pollTimers_of_sleeps (h : Sleeps now s) :
    s.pollTimers now = s ∧ s.timerEffects now = [] := by
  obtain ⟨hlater, hcompile, hreset⟩ := sleeps_iff.1 h
  have hcooled : (s.cooldownCompile now).cooldownReset now = s := by
    have hfirst : s.cooldownCompile now = s := if_neg (by simp [hcompile])
    rw [hfirst]
    exact if_neg (by simp [hreset])
  have hdue : s.scheduler.due now = (none, s.scheduler) := by
    rw [Scheduler.due]
    split
    · rfl
    · rename_i p hp
      exact if_neg (Nat.not_le.2 (hlater p hp))
  rw [pollTimers, timerEffects, hcooled, compileDue, dueEffects, hdue]
  exact ⟨rfl, rfl⟩

/-! ### Progress -/

/-- The weight of the timers that are due. The waiting attempt weighs two, for it may begin a
cooldown that is over at once. -/
def overdue (now : Nat) (s : Session δ σ) : Nat :=
  (if s.scheduler.pending.any (·.deadline ≤ now) then 2 else 0) +
    (if s.scheduler.guard.cooledBy now then 1 else 0) +
    if s.renderer.guard.cooledBy now then 1 else 0

omit [CompileUnit δ] in
theorem sleeps_iff_overdue : Sleeps now s ↔ overdue now s = 0 := by
  have hpending : s.scheduler.pending.any (·.deadline ≤ now) = false ↔
      ∀ p, s.scheduler.pending = some p → now < p.deadline := by
    cases s.scheduler.pending <;> simp
  rw [sleeps_iff, ← hpending, overdue]
  cases s.scheduler.pending.any (·.deadline ≤ now) <;>
    cases s.scheduler.guard.cooledBy now <;> cases s.renderer.guard.cooledBy now <;> simp

omit [CompileUnit δ] in
/-- When the timers have fired, nothing is due but a cooldown that the waiting attempt began. -/
theorem Fired.overdue_eq (h : Fired now s t) :
    overdue now t = if t.scheduler.guard.cooledBy now then 1 else 0 := by
  have hpending : t.scheduler.pending.any (·.deadline ≤ now) = false := by
    cases hp : t.scheduler.pending with
    | none => rfl
    | some p => simpa using (h.pending p hp).2
  simp [overdue, hpending, h.resetGuard]

omit [CompileUnit δ] in
/-- If no attempt was due, or cooldowns take time, then nothing is due when the timers have
fired. -/
theorem Fired.sleeps (h : Fired now s t)
    (hs : (∀ p, s.scheduler.pending = some p → now < p.deadline) ∨
      0 < s.scheduler.guard.config.cooldown) : Sleeps now t := by
  have hcompile : t.scheduler.guard.cooledBy now = false := by
    refine Guard.cooledBy_eq_false_iff.2 fun deadline hdeadline => ?_
    rcases h.compileGuard deadline hdeadline with ⟨-, hlt⟩ | ⟨p, hp, hover, rfl⟩
    · exact hlt
    · rcases hs with hlater | hcooldown
      · exact absurd hover (Nat.not_le.2 (hlater p hp))
      · exact Nat.lt_add_of_pos_right hcooldown
  rw [sleeps_iff_overdue, h.overdue_eq, hcompile]
  rfl

omit [CompileUnit δ] in
/-- The timers that are due weigh less when they have fired. -/
theorem Fired.overdue_lt (h : Fired now s t) (hs : ¬ Sleeps now s) :
    overdue now t < overdue now s := by
  by_cases hlater : ∀ p, s.scheduler.pending = some p → now < p.deadline
  · have hsleeps : overdue now t = 0 := sleeps_iff_overdue.1 (h.sleeps (.inl hlater))
    rw [hsleeps]
    exact Nat.pos_of_ne_zero fun hzero => hs (sleeps_iff_overdue.2 hzero)
  · obtain ⟨p, hp, hover⟩ : ∃ p, s.scheduler.pending = some p ∧ p.deadline ≤ now := by
      simpa using hlater
    have htwo : 2 ≤ overdue now s := by simp [overdue, hp, hover]; omega
    have hone : overdue now t ≤ 1 := by
      rw [h.overdue_eq]
      split <;> simp
    omega

variable [Surface σ]

/-- In every state: while there is no deadline up to now, a round of the timers changes nothing and
hands nothing over. Otherwise it changes something and the timers that are due weigh less. After it
there is no deadline up to now if cooldowns of compile attempts take time, and after one more round
there is none in any case. -/
theorem sleeps_after_poll (config : Config) (unit : δ) (surface : σ) (files : FileSet)
    (steps : List (Nat × Step δ σ)) (now : Nat) :
    let s := (start config unit surface files).after steps
    (Sleeps now s → s.pollTimers now = s ∧ s.timerEffects now = []) ∧
    (¬ Sleeps now s →
      s.pollTimers now ≠ s ∧ overdue now (s.pollTimers now) < overdue now s ∧
      (0 < config.compileGuard.cooldown → Sleeps now (s.pollTimers now)) ∧
      Sleeps now ((s.pollTimers now).pollTimers now)) := by
  intro s
  have hlimits : s.scheduler.guard.config = config.compileGuard :=
    (attributed_run config unit surface files steps).limits
  have hfirst : Fired now s (s.pollTimers now) := fired_pollTimers s now
  have hsecond := fired_pollTimers (s.pollTimers now) now
  refine ⟨pollTimers_of_sleeps, fun hawake => ⟨fun hsame => ?_, hfirst.overdue_lt hawake,
    fun hcooldown => hfirst.sleeps (.inr (hlimits ▸ hcooldown)),
    hsecond.sleeps (.inl fun p hp => (hfirst.pending p hp).2)⟩⟩
  have hlt := hfirst.overdue_lt hawake
  rw [hsame] at hlt
  exact Nat.lt_irrefl _ hlt

/-- Settings under which attempts do not wait and cooldowns take no time. -/
def instant : Config := { Config.standard with debounce := 0, compileGuard := ⟨1000, 1, 0⟩ }

/-- A session with these settings. -/
def instantStart : Session (RecordingUnit Script.engine) FlakySurface :=
  start instant (RecordingUnit.start none) FlakySurface.blank NameMap.empty

/-- An attempt, and another one that waits to trip the guard. -/
def hurrying : List (Nat × Step (RecordingUnit Script.engine) FlakySurface) :=
  [(0, .operate (.compileNow true)), (10, .operate (.requestCompile true))]

/-- A running cooldown lets the host sleep, and then takes one round of the timers. The attempt that
begins a cooldown that is over at once takes two. -/
theorem sleeps_after_poll_hurrying :
    (strictStart.after looping).pollTimers 2009 = strictStart.after looping ∧
    Sleeps 2010 ((strictStart.after looping).pollTimers 2010) ∧
    ¬ Sleeps 10 ((instantStart.after hurrying).pollTimers 10) ∧
    Sleeps 10 (((instantStart.after hurrying).pollTimers 10).pollTimers 10) := by
  have hcooling : (strictStart.after looping).nextDeadline = some 2010 := by decide +kernel
  have hsleeps : Sleeps 2009 (strictStart.after looping) := fun deadline hdeadline => by
    obtain rfl := Option.some.inj (hcooling.symm.trans hdeadline)
    decide
  have hwaiting : (instantStart.after hurrying).nextDeadline = some 10 := by decide +kernel
  have hbegun : ((instantStart.after hurrying).pollTimers 10).nextDeadline = some 10 := by
    decide +kernel
  have hround := sleeps_after_poll strict (RecordingUnit.start none) FlakySurface.blank
    NameMap.empty looping
  have hrounds := sleeps_after_poll instant (RecordingUnit.start none) FlakySurface.blank
    NameMap.empty hurrying 10
  exact ⟨((hround 2009).1 hsleeps).1,
    ((hround 2010).2 fun h => Nat.lt_irrefl _ (h 2010 hcooling)).2.2.1 (by decide),
    fun h => Nat.lt_irrefl _ (h 10 hbegun),
    (hrounds.2 fun h => Nat.lt_irrefl _ (h 10 hwaiting)).2.2.2⟩

end Session

end LivePreview
