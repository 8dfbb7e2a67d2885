import LivePreview.Headless
import LivePreview.Proofs.Guard
import LivePreview.Proofs.Session.Attempts
import LivePreview.Script

/-!
# The errors of guards

A guard that trips leaves its error in the slot and cools down, and the timer that ends the cooldown
takes the error away with it. There is another end of a cooldown, however: an attempt that is made
directly, after the cooldown is over and before the timer, ends it too, and leaves the error where
it is. If that attempt is let through, the guard is not cooling down any more, and no timer will
take the error away. This is the only exception.

## Main definitions

* `LivePreview.Session.Attributed`: an error of a guard has its reason.
* `LivePreview.Session.looping`: a run that trips the guard of compile attempts.

## Main results

* `LivePreview.Session.earliest_le`: there is a deadline no later than each of the timers.
* `LivePreview.Session.error_pollTimers_ne_compileLoop`,
  `LivePreview.Session.error_pollTimers_ne_resetLoop`: the timer of a cooldown takes its error away.
* `LivePreview.Session.cooling_of_loop`: in every run an error of a guard stands for its cooldown,
  unless the guard has let an attempt through since.
* `LivePreview.Session.loop_outlives_cooldown`: the exception does occur.
-/

namespace LivePreview

namespace Session

variable {δ σ : Type} {now : Nat} {s t : Session δ σ} {l r : Record}

/-! ### Timers -/

/-- There is a deadline no later than each of some instants. -/
theorem earliest_le {instants : List (Option Nat)} {instant : Nat} (h : some instant ∈ instants) :
    ∃ first, earliest instants = some first ∧ first ≤ instant := by
  induction instants with
  | nil => cases h
  | cons a rest ih =>
    rcases List.mem_cons.1 h with rfl | h
    · rw [earliest]
      cases earliest rest with
      | none => exact ⟨instant, rfl, Nat.le_refl _⟩
      | some b => exact ⟨_, rfl, Nat.min_le_left _ _⟩
    · obtain ⟨first, hfirst, hle⟩ := ih h
      cases a with
      | none => exact ⟨first, hfirst, hle⟩
      | some a =>
        rw [earliest, hfirst]
        exact ⟨_, rfl, Nat.le_trans (Nat.min_le_right _ _) hle⟩

variable [CompileUnit δ]

/-- Only an attempt that trips the guard leaves its error. -/
theorem Ends.error_ne_compileLoop {force : Bool} {ending : Ending} (h : Ends now force s ending t)
    (hs : s.error ≠ some .compileLoop) (hguard : ∀ g, s.scheduler.guard.check now ≠ (.tripped, g)) :
    t.error ≠ some .compileLoop := by
  cases h with
  | notReady => simp
  | loopDetected _ hg => exact absurd hg (hguard _)
  | untaken => simp
  | _ => exact hs

/-- No compile attempt leaves the error of the guard of resets. -/
theorem Ends.error_ne_resetLoop {force : Bool} {ending : Ending} (h : Ends now force s ending t)
    (hs : s.error ≠ some .resetLoop) : t.error ≠ some .resetLoop := by
  cases h with
  | notReady => simp
  | loopDetected => simp
  | untaken => simp
  | _ => exact hs

/-- Timers that fire when the cooldown of compile attempts is over take the error of its guard away.
The waiting attempt, which may be made then, does not trip the guard again. -/
theorem error_pollTimers_ne_compileLoop (hthreshold : 1 ≤ s.scheduler.guard.config.threshold)
    (hover : s.scheduler.guard.cooledBy now = true) :
    (s.pollTimers now).error ≠ some .compileLoop := by
  have h := cooled_cooldowns s now
  rw [pollTimers]
  generalize (s.cooldownCompile now).cooldownReset now = cooled at h ⊢
  have hcooled : cooled.error ≠ some .compileLoop := fun he => (h.error _ he).2.1 hover rfl
  rcases compileDue_cases cooled now with ⟨-, hsame, -⟩ | ⟨p, -, -, hcompile, -⟩
  · rwa [hsame]
  · rw [hcompile]
    refine (ends_compileNow _ p.force now).error_ne_compileLoop hcooled fun g hg => ?_
    have hguard : cooled.scheduler.guard = s.scheduler.guard.endCooldown :=
      h.compileGuard.trans (if_pos hover)
    exact Guard.check_endCooldown_ne_tripped hthreshold (hguard ▸ hg)

/-- Timers that fire when the cooldown of resets is over take the error of its guard away. -/
theorem error_pollTimers_ne_resetLoop (hover : s.renderer.guard.cooledBy now = true) :
    (s.pollTimers now).error ≠ some .resetLoop := by
  have h := cooled_cooldowns s now
  rw [pollTimers]
  generalize (s.cooldownCompile now).cooldownReset now = cooled at h ⊢
  have hcooled : cooled.error ≠ some .resetLoop := fun he => (h.error _ he).2.2 hover rfl
  rcases compileDue_cases cooled now with ⟨-, hsame, -⟩ | ⟨p, -, -, hcompile, -⟩
  · rwa [hsame]
  · rw [hcompile]
    exact (ends_compileNow _ p.force now).error_ne_resetLoop hcooled

/-! ### Errors and their guards -/

/-- An error of a guard is in the slot only while the guard is cooling down, or after it let another
attempt through. -/
structure Attributed (config : Config) (l : Record) (s : Session δ σ) : Prop where
  /-- The limits of compile attempts are the ones given. -/
  limits : s.scheduler.guard.config = config.compileGuard
  /-- The error of the guard of compile attempts has its reason. -/
  compile : s.error = some .compileLoop → s.scheduler.guard.coolingUntil ≠ none ∨
    l.lastVerdict Attempt.compileVerdict? = some .allowed
  /-- The error of the guard of resets has its reason. -/
  reset : s.error = some .resetLoop → s.renderer.guard.coolingUntil ≠ none ∨
    l.lastVerdict Attempt.resetVerdict? = some .allowed

variable {config : Config}

/-- A compile attempt that trips its guard starts a cooldown, and one that passes it is on
record. -/
theorem Attributed.ends (hs : Attributed config l s) {force : Bool} {ending : Ending}
    (h : Ends now force s ending t) : Attributed config (l ++ [.compile force ending]) t := by
  have hlimits {verdict : Verdict} {g : Guard} (hg : s.scheduler.guard.check now = (verdict, g)) :
      g.config = config.compileGuard := by
    simpa [hg, hs.limits] using Guard.config_check s.scheduler.guard now
  have hreset (he : s.error = some .resetLoop) : s.renderer.guard.coolingUntil ≠ none ∨
      Record.lastVerdict Attempt.resetVerdict? (l ++ [.compile force ending]) = some .allowed := by
    rw [Record.lastVerdict_concat_of_quiet (.inl rfl)]
    exact hs.reset he
  cases h with
  | notReady => exact ⟨hs.limits, nofun, nofun⟩
  | loopDetected _ hg =>
    exact ⟨hlimits hg, fun _ => .inl (by simp [Guard.coolingUntil_of_tripped hg]), nofun⟩
  | suppressed =>
    refine ⟨hs.limits, fun he => ?_, hreset⟩
    rw [Record.lastVerdict_concat_of_quiet (.inr rfl)]
    exact hs.compile he
  | unchanged _ hg =>
    exact ⟨hlimits hg, fun _ => .inr (Record.lastVerdict_concat rfl nofun), hreset⟩
  | taken _ hg => exact ⟨hlimits hg, fun _ => .inr (Record.lastVerdict_concat rfl nofun), hreset⟩
  | untaken _ hg => exact ⟨hlimits hg, nofun, nofun⟩

variable [Surface σ]

omit [CompileUnit δ] in
/-- A reset that trips its guard starts a cooldown, and one that passes it is on record. -/
theorem Attributed.resets (hs : Attributed config l s) {verdict : Verdict} {blank : Bool}
    (h : Resets now s verdict blank t) : Attributed config (l ++ [.reset verdict]) t := by
  have hcompile (he : s.error = some .compileLoop) : s.scheduler.guard.coolingUntil ≠ none ∨
      Record.lastVerdict Attempt.compileVerdict? (l ++ [.reset verdict]) = some .allowed := by
    rw [Record.lastVerdict_concat_of_quiet (.inl rfl)]
    exact hs.compile he
  cases h with
  | blanked => exact ⟨hs.limits, hcompile, fun _ => .inr (Record.lastVerdict_concat rfl nofun)⟩
  | unblanked => exact ⟨hs.limits, nofun, nofun⟩
  | resetLoop hg =>
    exact ⟨hs.limits, nofun, fun _ => .inl (by simp [Guard.coolingUntil_of_tripped hg])⟩
  | suppressed =>
    refine ⟨hs.limits, hcompile, fun he => ?_⟩
    rw [Record.lastVerdict_concat_of_quiet (.inr rfl)]
    exact hs.reset he

/-- Errors of guards keep their reasons through every part of a step. The timer that ends a cooldown
takes the error away with it. -/
theorem Attributed.part (hs : Attributed config l s) (h : Part now s r t) :
    Attributed config (l ++ r) t := by
  cases h with
  | compile h => exact hs.ends h
  | reset h => exact hs.resets h
  | compileCooled =>
    rw [List.append_nil, dismiss_eq]
    exact ⟨hs.limits, fun he => absurd rfl (of_dismissed he).1,
      fun he => hs.reset (of_dismissed he).2⟩
  | resetCooled =>
    rw [List.append_nil, dismiss_eq]
    exact ⟨hs.limits, fun he => hs.compile (of_dismissed he).2,
      fun he => absurd rfl (of_dismissed he).1⟩
  | other h =>
    rw [List.append_nil]
    exact ⟨h.compileGuard ▸ hs.limits, fun he => h.compileGuard ▸ hs.compile (h.compileLoop he),
      fun he => h.resetGuard ▸ hs.reset (h.resetLoop he)⟩

/-- In every run an error of a guard is in the slot only while the guard is cooling down, or after
it let another attempt through. -/
theorem attributed_run (config : Config) (unit : δ) (surface : σ) (files : FileSet)
    (steps : List (Nat × Step δ σ)) :
    Attributed config ((start config unit surface files).record steps)
      ((start config unit surface files).after steps) := by
  have hstart : Attributed config [] (start config unit surface files) := ⟨rfl, nofun, nofun⟩
  have hrun := record_induct (P := Attributed config) Attributed.part hstart steps
  simpa using hrun

/-- In every state, unless the guard in question has let an attempt through since: while the slot
holds the error of a guard, its cooldown is running, there is a deadline no later than the end of
the cooldown, and timers that fire when it is over or later take the error away. -/
theorem cooling_of_loop {config : Config} (hthreshold : 1 ≤ config.compileGuard.threshold)
    (unit : δ) (surface : σ) (files : FileSet) (steps : List (Nat × Step δ σ)) :
    let s := (start config unit surface files).after steps
    let record := (start config unit surface files).record steps
    (s.error = some .compileLoop → record.lastVerdict Attempt.compileVerdict? ≠ some .allowed →
      ∃ deadline, s.scheduler.guard.coolingUntil = some deadline ∧
        (∃ next, s.nextDeadline = some next ∧ next ≤ deadline) ∧
        ∀ now, deadline ≤ now → (s.pollTimers now).error ≠ some .compileLoop) ∧
    (s.error = some .resetLoop → record.lastVerdict Attempt.resetVerdict? ≠ some .allowed →
      ∃ deadline, s.renderer.guard.coolingUntil = some deadline ∧
        (∃ next, s.nextDeadline = some next ∧ next ≤ deadline) ∧
        ∀ now, deadline ≤ now → (s.pollTimers now).error ≠ some .resetLoop) := by
  intro s record
  have hrun : Attributed config record s := attributed_run config unit surface files steps
  constructor
  · intro herror hverdict
    obtain ⟨deadline, hdeadline⟩ :=
      Option.ne_none_iff_exists'.1 ((hrun.compile herror).resolve_right hverdict)
    refine ⟨deadline, hdeadline, earliest_le (by simp [hdeadline]), fun now hle => ?_⟩
    exact error_pollTimers_ne_compileLoop (hrun.limits ▸ hthreshold)
      (Guard.cooledBy_of_le hdeadline hle)
  · intro herror hverdict
    obtain ⟨deadline, hdeadline⟩ :=
      Option.ne_none_iff_exists'.1 ((hrun.reset herror).resolve_right hverdict)
    refine ⟨deadline, hdeadline, earliest_le (by simp [hdeadline]), fun now hle => ?_⟩
    exact error_pollTimers_ne_resetLoop (Guard.cooledBy_of_le hdeadline hle)

/-- Settings with a guard that lets one compile attempt through in a second, and else cools down for
two. -/
def strict : Config := { Config.standard with compileGuard := ⟨1000, 1, 2000⟩ }

/-- A session with these settings. -/
def strictStart : Session (RecordingUnit Script.engine) FlakySurface :=
  start strict (RecordingUnit.start none) FlakySurface.blank NameMap.empty

/-- Two attempts of which the second one trips the guard. -/
def looping : List (Nat × Step (RecordingUnit Script.engine) FlakySurface) :=
  [(0, .operate (.compileNow true)), (10, .operate (.compileNow true))]

/-- The error of the guard is there, and the timer at the end of the cooldown takes it away. -/
theorem cooling_of_loop_looping :
    (strictStart.after looping).error = some .compileLoop ∧
      (strictStart.after looping).nextDeadline = some 2010 ∧
      ((strictStart.after looping).pollTimers 2010).error ≠ some .compileLoop := by
  have herror : (strictStart.after looping).error = some .compileLoop := by decide +kernel
  have hcooling : (strictStart.after looping).scheduler.guard.coolingUntil = some 2010 := by
    decide +kernel
  have hthreshold : 1 ≤ strict.compileGuard.threshold := by decide
  obtain ⟨deadline, hdeadline, -, hpoll⟩ := (cooling_of_loop hthreshold (RecordingUnit.start none)
    FlakySurface.blank NameMap.empty looping).1 herror (by decide +kernel)
  obtain rfl := Option.some.inj (hcooling.symm.trans hdeadline)
  exact ⟨herror, by decide +kernel, hpoll 2010 (Nat.le_refl _)⟩

/-- A third attempt, made directly when the cooldown is over. -/
def outliving : List (Nat × Step (RecordingUnit Script.engine) FlakySurface) :=
  looping ++ [(2010, .operate (.compileNow true))]

/-- The third attempt ends the cooldown, and no timer takes the error of the guard away after
that. -/
theorem loop_outlives_cooldown :
    (strictStart.after outliving).error = some .compileLoop ∧
      (strictStart.after outliving).scheduler.guard.coolingUntil = none ∧
      (strictStart.after outliving).nextDeadline = none ∧
      ∀ now, ((strictStart.after outliving).pollTimers now).error = some .compileLoop := by
  have herror : (strictStart.after outliving).error = some .compileLoop := by decide +kernel
  have hcompile : (strictStart.after outliving).scheduler.guard.coolingUntil = none := by
    decide +kernel
  have hreset : (strictStart.after outliving).renderer.guard.coolingUntil = none := by
    decide +kernel
  have hpending : (strictStart.after outliving).scheduler.pending = none := by decide +kernel
  refine ⟨herror, hcompile, by decide +kernel, fun now => ?_⟩
  simp [pollTimers, cooldownCompile, cooldownReset, Guard.cooledBy, compileDue, Scheduler.due,
    hcompile, hreset, hpending, herror]

end Session

end LivePreview
