import LivePreview.Proofs.Session.Moves
import LivePreview.Session.Attempts

/-!
# What becomes of attempts

A compile attempt ends in one of six ways, and a reset goes on in one of four. Everything else that
a session does leaves its guards and its numbers as they are, apart from timers, which end cooldowns
that are over. So whatever happens to a session is made of parts, and the record lists those of them
that are attempts. A response or a refresh makes at most one reset, and a reset at most one compile
attempt, for which there has to be a blank surface.

An invariant of sessions and their records is an invariant of parts.

## Main definitions

* `LivePreview.Session.Ends`: the ways in which a compile attempt ends.
* `LivePreview.Session.Cooled`: the timers of both cooldowns have fired.
* `LivePreview.Session.Resets`: the ways in which a reset goes on.
* `LivePreview.Session.Leaves`: the guards and the numbers are as they were.
* `LivePreview.Session.Part`, `LivePreview.Session.Parts`: the parts, and what follows from them.

## Main results

* `LivePreview.Session.ends_compileNow`, `LivePreview.Session.exists_resets`: an attempt ends, and a
  reset goes on, in one of these ways.
* `LivePreview.Session.render_cases`, `LivePreview.Session.applyResult_cases`: what is shown and
  what arrives leads to one reset at most.
* `LivePreview.Session.record_induct`: what parts keep, runs keep.
* `LivePreview.Session.handed_record`, `LivePreview.Session.taken_record`: the record tells of the
  requests that are handed over, and of those that are taken.
-/

namespace LivePreview

/-! ### One more attempt -/

namespace Record

variable {kind : Attempt → Option Verdict} {l : Record} {a : Attempt}

theorem handed_concat (l : Record) (a : Attempt) :
    handed (l ++ [a]) = l.handed ++ a.handed?.toList := by
  cases h : a.handed? <;> simp [handed, h]

theorem taken_concat (l : Record) (a : Attempt) :
    taken (l ++ [a]) = l.taken ++ a.taken?.toList := by
  cases h : a.taken? <;> simp [taken, h]

theorem lastEnding_concat (l : Record) (force : Bool) (ending : Ending) :
    lastEnding (l ++ [.compile force ending]) = some ending := by
  simp [lastEnding, Attempt.ending?]

/-- An attempt that does not ask a guard, or is suppressed by it, does not count. -/
theorem lastVerdict_concat_of_quiet (h : kind a = none ∨ kind a = some .suppressed) :
    lastVerdict kind (l ++ [a]) = lastVerdict kind l := by
  rcases h with h | h <;> simp [lastVerdict, h]

/-- Of the verdicts that count, the last one is the last. -/
theorem lastVerdict_concat {verdict : Verdict} (h : kind a = some verdict)
    (hverdict : verdict ≠ .suppressed) :
    lastVerdict kind (l ++ [a]) = some verdict := by
  simp [lastVerdict, h, hverdict]

end Record

namespace Session

variable {δ σ : Type} [CompileUnit δ]

/-! ### Compile attempts -/

/-- The ways in which a compile attempt ends, each with the session after it. -/
inductive Ends (now : Nat) (force : Bool) (s : Session δ σ) : Ending → Session δ σ → Prop where
  /-- The compile unit is not ready. -/
  | notReady (h : CompileUnit.ready s.unit = false) :
    Ends now force s .notReady { s with error := some .notReady }
  /-- The guard is tripped. -/
  | loopDetected {g : Guard} (hready : CompileUnit.ready s.unit = true)
    (hg : s.scheduler.guard.check now = (.tripped, g)) :
    Ends now force s .loopDetected
      { s with scheduler := { s.scheduler with guard := g }, error := some .compileLoop }
  /-- The guard is cooling down. -/
  | suppressed (hready : CompileUnit.ready s.unit = true)
    (hg : s.scheduler.guard.check now = (.suppressed, s.scheduler.guard)) :
    Ends now force s .suppressed s
  /-- The content is the one dispatched last. -/
  | unchanged {g : Guard} (hready : CompileUnit.ready s.unit = true)
    (hg : s.scheduler.guard.check now = (.allowed, g))
    (hsame : s.scheduler.lastDispatched = some s.files.fingerprint) (hforce : force = false) :
    Ends now force s .unchanged { s with scheduler := { s.scheduler with guard := g } }
  /-- A request is handed over, which is taken. -/
  | taken {g : Guard} {unit : δ} (hready : CompileUnit.ready s.unit = true)
    (hg : s.scheduler.guard.check now = (.allowed, g))
    (hchanged : force = true ∨ s.scheduler.lastDispatched ≠ some s.files.fingerprint)
    (hunit : CompileUnit.dispatch s.unit ⟨s.nextSequence, s.files⟩ = (unit, .ok ())) :
    Ends now force s (.handed ⟨s.nextSequence, s.files⟩ true)
      { s with
        scheduler := { s.scheduler with
          guard := g, lastDispatched := some s.files.fingerprint, pending := none }
        unit := unit
        artifact := none
        nextSequence := s.nextSequence + 1 }
  /-- A request is handed over, which is not taken. -/
  | untaken {g : Guard} {unit : δ} {e : DispatchError} (hready : CompileUnit.ready s.unit = true)
    (hg : s.scheduler.guard.check now = (.allowed, g))
    (hchanged : force = true ∨ s.scheduler.lastDispatched ≠ some s.files.fingerprint)
    (hunit : CompileUnit.dispatch s.unit ⟨s.nextSequence, s.files⟩ = (unit, .error e)) :
    Ends now force s (.handed ⟨s.nextSequence, s.files⟩ false)
      { s with
        scheduler := { s.scheduler with guard := g, lastDispatched := none, pending := none }
        unit := unit
        artifact := none
        error := some (.dispatch e.message)
        nextSequence := s.nextSequence + 1 }

/-- A compile attempt ends in one of these ways, and the record tells in which. -/
theorem ends_compileNow (s : Session δ σ) (force : Bool) (now : Nat) :
    Ends now force s (s.ending force now) (s.compileNow force now) := by
  cases hready : CompileUnit.ready s.unit with
  | false =>
    simp only [ending, compileNow, Scheduler.attempt, hready]
    exact .notReady hready
  | true =>
    rcases hg : s.scheduler.guard.check now with ⟨verdict, g⟩
    cases verdict with
    | tripped =>
      simp only [ending, compileNow, Scheduler.attempt, hready, hg]
      exact .loopDetected hready hg
    | suppressed =>
      obtain rfl := Guard.eq_of_check_suppressed hg
      simp only [ending, compileNow, Scheduler.attempt, hready, hg]
      exact .suppressed hready hg
    | allowed =>
      by_cases hsame : s.scheduler.lastDispatched = some s.files.fingerprint ∧ force = false
      · simp only [ending, compileNow, Scheduler.attempt, hready, hg, if_pos hsame]
        exact .unchanged hready hg hsame.1 hsame.2
      · have hchanged : force = true ∨ s.scheduler.lastDispatched ≠ some s.files.fingerprint := by
          cases force with
          | true => exact .inl rfl
          | false => exact .inr fun h => hsame ⟨h, rfl⟩
        rcases hunit : CompileUnit.dispatch s.unit ⟨s.nextSequence, s.files⟩ with ⟨unit, e | ⟨⟩⟩
        · simp only [ending, compileNow, Scheduler.attempt, hready, hg, if_neg hsame, if_true,
            dispatch, hunit]
          exact .untaken hready hg hchanged hunit
        · simp only [ending, compileNow, Scheduler.attempt, hready, hg, if_neg hsame, if_true,
            dispatch, hunit]
          exact .taken hready hg hchanged hunit

/-- The waiting compile attempt is made once its delay is over, and nothing waits then. -/
theorem compileDue_cases (s : Session δ σ) (now : Nat) :
    ((∀ p, s.scheduler.pending = some p → now < p.deadline) ∧ s.compileDue now = s ∧
      s.dueRecord now = []) ∨
    ∃ p, s.scheduler.pending = some p ∧ p.deadline ≤ now ∧
      s.compileDue now =
        { s with scheduler := s.scheduler.cancel : Session δ σ }.compileNow p.force now ∧
      s.dueRecord now =
        { s with scheduler := s.scheduler.cancel : Session δ σ }.compileRecord p.force now := by
  cases hp : s.scheduler.pending with
  | none =>
    refine .inl ⟨nofun, ?_, ?_⟩
    · simp only [compileDue, Scheduler.due, hp]
    · simp only [dueRecord, Scheduler.due, hp]
  | some p =>
    by_cases hover : p.deadline ≤ now
    · refine .inr ⟨p, rfl, hover, ?_, ?_⟩
      · simp only [compileDue, Scheduler.due, hp, if_pos hover]
      · simp only [dueRecord, Scheduler.due, hp, if_pos hover]
    · refine .inl ⟨fun p' hp' => ?_, ?_, ?_⟩
      · obtain rfl := Option.some.inj hp'
        exact Nat.lt_of_not_le hover
      · simp only [compileDue, Scheduler.due, hp, if_neg hover]
      · simp only [dueRecord, Scheduler.due, hp, if_neg hover]

/-! ### Timers of cooldowns -/

/-- What is left of a slot without some error is another one, and was there before. -/
theorem of_dismissed {slot : Option PreviewError} {e e' : PreviewError}
    (h : (if slot = some e then none else slot) = some e') : e' ≠ e ∧ slot = some e' := by
  split at h
  · cases h
  · rename_i hne
    exact ⟨fun heq => hne (heq ▸ h), h⟩

omit [CompileUnit δ] in
/-- The timer of the cooldown of compile attempts may end it, and then its error is not left. -/
theorem exists_cooldownCompile (s : Session δ σ) (now : Nat) :
    ∃ slot, s.cooldownCompile now =
        { s with
          scheduler := { s.scheduler with guard := s.scheduler.guard.cooled now }
          error := slot } ∧
      ∀ e, slot = some e →
        s.error = some e ∧ (s.scheduler.guard.cooledBy now = true → e ≠ .compileLoop) := by
  rw [cooldownCompile, Guard.cooled]
  split
  · refine ⟨_, dismiss_eq _ _, fun e he => ?_⟩
    obtain ⟨hne, hslot⟩ := of_dismissed he
    exact ⟨hslot, fun _ => hne⟩
  · rename_i hrunning
    exact ⟨s.error, rfl, fun e he => ⟨he, fun hover => absurd hover hrunning⟩⟩

omit [CompileUnit δ] in
/-- The timer of the cooldown of resets may end it, and then its error is not left. -/
theorem exists_cooldownReset (s : Session δ σ) (now : Nat) :
    ∃ slot, s.cooldownReset now =
        { s with
          renderer := { s.renderer with guard := s.renderer.guard.cooled now }
          error := slot } ∧
      ∀ e, slot = some e →
        s.error = some e ∧ (s.renderer.guard.cooledBy now = true → e ≠ .resetLoop) := by
  rw [cooldownReset, Guard.cooled]
  split
  · refine ⟨_, dismiss_eq _ _, fun e he => ?_⟩
    obtain ⟨hne, hslot⟩ := of_dismissed he
    exact ⟨hslot, fun _ => hne⟩
  · rename_i hrunning
    exact ⟨s.error, rfl, fun e he => ⟨he, fun hover => absurd hover hrunning⟩⟩

/-- The timers of both cooldowns have fired. -/
structure Cooled (now : Nat) (s t : Session δ σ) : Prop where
  /-- A cooldown of compile attempts that is over has ended. -/
  compileGuard : t.scheduler.guard = s.scheduler.guard.cooled now
  /-- The files are the same. -/
  files : t.files = s.files
  /-- The compile unit is the same. -/
  unit : t.unit = s.unit
  /-- What waits is the same. -/
  pending : t.scheduler.pending = s.scheduler.pending
  /-- The fingerprint of the last dispatch is the same. -/
  lastDispatched : t.scheduler.lastDispatched = s.scheduler.lastDispatched
  /-- The number of the next request is the same. -/
  nextSequence : t.nextSequence = s.nextSequence
  /-- An error was there before, and is not that of a guard whose cooldown is over. -/
  error : ∀ e, t.error = some e → s.error = some e ∧
    (s.scheduler.guard.cooledBy now = true → e ≠ .compileLoop) ∧
    (s.renderer.guard.cooledBy now = true → e ≠ .resetLoop)

omit [CompileUnit δ] in
theorem cooled_cooldowns (s : Session δ σ) (now : Nat) :
    Cooled now s ((s.cooldownCompile now).cooldownReset now) := by
  obtain ⟨slot, hcompile, hslot⟩ := exists_cooldownCompile s now
  obtain ⟨slot', hreset, hslot'⟩ := exists_cooldownReset (s.cooldownCompile now) now
  rw [hreset]
  rw [hcompile] at hslot' ⊢
  refine ⟨rfl, rfl, rfl, rfl, rfl, rfl, fun e he => ?_⟩
  obtain ⟨he', hne'⟩ := hslot' e he
  obtain ⟨hs, hne⟩ := hslot e he'
  exact ⟨hs, hne, hne'⟩

/-! ### Resets -/

variable [Surface σ]

/-- The ways in which a reset goes on, up to its compile attempt: the verdict of the guard, whether
there is a blank surface to compile for, and the session then. -/
inductive Resets (now : Nat) (s : Session δ σ) : Verdict → Bool → Session δ σ → Prop where
  /-- The surface is blank. -/
  | blanked {g : Guard} {surface : σ} (hg : s.renderer.guard.check now = (.allowed, g))
    (hsurface : Surface.present s.renderer.surface (Document.build "" s.renderer.config) =
      (surface, .ok ())) :
    Resets now s .allowed true
      { s with
        renderer := { s.renderer with
          surface := surface, guard := g, phase := .idle, lastInjected := none }
        artifact := none }
  /-- The surface refuses the blank document. -/
  | unblanked {g : Guard} {surface : σ} {message : String}
    (hg : s.renderer.guard.check now = (.allowed, g))
    (hsurface : Surface.present s.renderer.surface (Document.build "" s.renderer.config) =
      (surface, .error message)) :
    Resets now s .allowed false
      { s with
        renderer := { s.renderer with
          surface := surface, guard := g, phase := .idle, lastInjected := none }
        error := some (.reset message) }
  /-- The guard is tripped. -/
  | resetLoop {g : Guard} (hg : s.renderer.guard.check now = (.tripped, g)) :
    Resets now s .tripped false
      { s with
        renderer := { s.renderer with guard := g }
        scheduler := s.scheduler.forget
        artifact := none
        error := some .resetLoop }
  /-- The guard is cooling down. -/
  | suppressed (hg : s.renderer.guard.check now = (.suppressed, s.renderer.guard)) :
    Resets now s .suppressed false s

/-- A reset goes on in one of these ways, and then compiles if the surface is blank. -/
theorem exists_resets (s : Session δ σ) (now : Nat) :
    ∃ verdict blank t, Resets now s verdict blank t ∧
      s.reset now = (if blank then t.compileNow true now else t) ∧
      s.resetRecord now =
        .reset verdict :: if blank then t.compileRecord true now else [] := by
  rcases hg : s.renderer.guard.check now with ⟨verdict, g⟩
  cases verdict with
  | tripped =>
    refine ⟨_, _, _, .resetLoop hg, ?_, ?_⟩
    · simp only [reset, Renderer.reset, hg, Bool.false_eq_true, if_false]
    · simp only [resetRecord, Renderer.reset, hg, Bool.false_eq_true, if_false]
  | suppressed =>
    obtain rfl := Guard.eq_of_check_suppressed hg
    refine ⟨_, _, _, .suppressed hg, ?_, ?_⟩
    · simp only [reset, Renderer.reset, hg, Bool.false_eq_true, if_false]
    · simp only [resetRecord, Renderer.reset, hg, Bool.false_eq_true, if_false]
  | allowed =>
    rcases hsurface : Surface.present s.renderer.surface
      (Document.build "" s.renderer.config) with ⟨surface, message | ⟨⟩⟩
    · refine ⟨_, _, _, .unblanked hg hsurface, ?_, ?_⟩
      · simp only [reset, Renderer.reset, Renderer.blank, hg, hsurface, Bool.false_eq_true,
          if_false]
      · simp only [resetRecord, Renderer.reset, Renderer.blank, hg, hsurface, Bool.false_eq_true,
          if_false]
    · refine ⟨_, _, _, .blanked hg hsurface, ?_, ?_⟩
      · simp only [reset, Renderer.reset, Renderer.blank, hg, hsurface, if_true]
      · simp only [resetRecord, Renderer.reset, Renderer.blank, hg, hsurface, if_true]

/-! ### Showing -/

/-- The guards and the numbers are as they were, and there is no error of a guard that was not
there before. -/
structure Leaves (s t : Session δ σ) : Prop where
  /-- The guard of compile attempts is the same. -/
  compileGuard : t.scheduler.guard = s.scheduler.guard
  /-- The fingerprint of the last dispatch is the same. -/
  lastDispatched : t.scheduler.lastDispatched = s.scheduler.lastDispatched
  /-- The guard of resets is the same. -/
  resetGuard : t.renderer.guard = s.renderer.guard
  /-- The number of the next request is the same. -/
  nextSequence : t.nextSequence = s.nextSequence
  /-- An error of the guard of compile attempts was there before. -/
  compileLoop : t.error = some .compileLoop → s.error = some .compileLoop
  /-- An error of the guard of resets was there before. -/
  resetLoop : t.error = some .resetLoop → s.error = some .resetLoop

/-- Showing an artifact leads to a reset if its document is refused, and otherwise leaves the
guards and the numbers as they are. The compile unit has no part in either. -/
theorem render_cases (s : Session δ σ) (force : Bool) (now : Nat) :
    ((s.render force now).unit = s.unit ∧ Leaves s (s.render force now) ∧
      s.renderRecord force now = []) ∨
    ∃ t : Session δ σ, t.unit = s.unit ∧ Leaves s t ∧ s.render force now = t.reset now ∧
      s.renderRecord force now = t.resetRecord now := by
  have hguard : (s.renderer.update s.artifact force).2.guard = s.renderer.guard := by
    simp only [Renderer.update, Renderer.inject]
    repeat' split
    all_goals rfl
  rcases hupdate : s.renderer.update s.artifact force with ⟨_ | _ | message, renderer⟩
  all_goals rw [render, renderRecord, hupdate]
  all_goals rw [hupdate] at hguard
  · exact .inl ⟨rfl, ⟨rfl, rfl, hguard, rfl, by rintro ⟨⟩, by rintro ⟨⟩⟩, rfl⟩
  · exact .inl ⟨rfl, ⟨rfl, rfl, hguard, rfl, id, id⟩, rfl⟩
  · exact .inr ⟨{ s with renderer := renderer, error := some (.render message) }, rfl,
      ⟨rfl, rfl, hguard, rfl, by rintro ⟨⟩, by rintro ⟨⟩⟩, rfl, rfl⟩

/-- A response leads to a reset if the document of its code is refused, and otherwise leaves the
guards and the numbers as they are. -/
theorem applyResult_cases (s : Session δ σ) (r : Response) (now : Nat) :
    ((s.applyResult r now).unit = s.unit ∧ Leaves s (s.applyResult r now) ∧
      s.resultRecord r now = []) ∨
    ∃ t : Session δ σ, t.unit = s.unit ∧ Leaves s t ∧ s.applyResult r now = t.reset now ∧
      s.resultRecord r now = t.resetRecord now := by
  obtain ⟨sequence, outcome⟩ := r
  cases hstale : s.stale sequence with
  | true =>
    rw [applyResult, resultRecord, if_pos hstale, if_pos hstale]
    exact .inl ⟨rfl, ⟨rfl, rfl, rfl, rfl, id, id⟩, rfl⟩
  | false =>
    have hnew : ¬ s.stale sequence = true := by simp [hstale]
    rw [applyResult, resultRecord, if_neg hnew, if_neg hnew]
    cases outcome with
    | error message => exact .inl ⟨rfl, ⟨rfl, rfl, rfl, rfl, by rintro ⟨⟩, by rintro ⟨⟩⟩, rfl⟩
    | code text =>
      rw [takeOutcome, outcomeRecord]
      let shown : Session δ σ := { s with
        lastApplied := some sequence
        error := none
        artifact := some (Artifact.ofCode text sequence) }
      have hempty (e : PreviewError) : shown.error ≠ some e := by simp [shown]
      have hleaves {t : Session δ σ} (h : Leaves shown t) : Leaves s t :=
        ⟨h.compileGuard, h.lastDispatched, h.resetGuard, h.nextSequence,
          fun he => absurd (h.compileLoop he) (hempty _),
          fun he => absurd (h.resetLoop he) (hempty _)⟩
      rcases render_cases shown false now with
        ⟨hunit, h, hrecord⟩ | ⟨t, hunit, h, hreset, hrecord⟩
      · exact .inl ⟨hunit, hleaves h, hrecord⟩
      · exact .inr ⟨t, hunit, hleaves h, hreset, hrecord⟩

/-! ### Parts -/

/-- One part of what happens to a session, with what the record tells of it. -/
inductive Part (now : Nat) : Session δ σ → Record → Session δ σ → Prop where
  /-- A compile attempt. -/
  | compile {s t : Session δ σ} {force : Bool} {ending : Ending} (h : Ends now force s ending t) :
    Part now s [.compile force ending] t
  /-- A reset, up to its compile attempt. -/
  | reset {s t : Session δ σ} {verdict : Verdict} {blank : Bool}
    (h : Resets now s verdict blank t) : Part now s [.reset verdict] t
  /-- The cooldown of compile attempts is over, and with it the error that it had. -/
  | compileCooled {s : Session δ σ} (h : s.scheduler.guard.cooledBy now = true) :
    Part now s [] (dismiss .compileLoop { s with scheduler := s.scheduler.endCooldown })
  /-- The cooldown of resets is over, and with it the error that it had. -/
  | resetCooled {s : Session δ σ} (h : s.renderer.guard.cooledBy now = true) :
    Part now s [] (dismiss .resetLoop { s with renderer := s.renderer.endCooldown })
  /-- Anything else. -/
  | other {s t : Session δ σ} (h : Leaves s t) : Part now s [] t

/-- Parts that follow one another, with their record. -/
inductive Parts (now : Nat) : Session δ σ → Record → Session δ σ → Prop where
  /-- No part. -/
  | refl (s : Session δ σ) : Parts now s [] s
  /-- One more part. -/
  | tail {s t u : Session δ σ} {l r : Record} (h : Parts now s l t) (hpart : Part now t r u) :
    Parts now s (l ++ r) u

variable {now : Nat} {s t u : Session δ σ} {l r : Record}

theorem Part.parts (h : Part now s l t) : Parts now s l t :=
  .tail (.refl s) h

theorem Leaves.parts (h : Leaves s t) : Parts now s [] t :=
  (Part.other h).parts

theorem Parts.trans (h : Parts now s l t) (h' : Parts now t r u) : Parts now s (l ++ r) u := by
  induction h' with
  | refl => simpa using h
  | tail _ hpart ih => simpa using ih.tail hpart

theorem parts_compileNow (s : Session δ σ) (force : Bool) :
    Parts now s (s.compileRecord force now) (s.compileNow force now) :=
  (Part.compile (ends_compileNow s force now)).parts

theorem parts_pollTimers (s : Session δ σ) :
    Parts now s (s.timerRecord now) (s.pollTimers now) := by
  have hcompile (s : Session δ σ) : Parts now s [] (s.cooldownCompile now) := by
    rw [cooldownCompile]
    split
    · rename_i hcooled
      exact (Part.compileCooled hcooled).parts
    · exact .refl s
  have hreset (s : Session δ σ) : Parts now s [] (s.cooldownReset now) := by
    rw [cooldownReset]
    split
    · rename_i hcooled
      exact (Part.resetCooled hcooled).parts
    · exact .refl s
  have hdue (s : Session δ σ) : Parts now s (s.dueRecord now) (s.compileDue now) := by
    rcases compileDue_cases s now with ⟨-, hsame, hrecord⟩ | ⟨p, -, -, hcompile, hrecord⟩
    · rw [hsame, hrecord]
      exact .refl s
    · let due : Session δ σ := { s with scheduler := s.scheduler.cancel }
      have hdue : Leaves s due := ⟨rfl, rfl, rfl, rfl, id, id⟩
      rw [hcompile, hrecord]
      exact hdue.parts.trans (parts_compileNow due p.force)
  exact ((hcompile s).trans (hreset _)).trans (hdue _)

theorem parts_reset (s : Session δ σ) : Parts now s (s.resetRecord now) (s.reset now) := by
  obtain ⟨verdict, blank, t, ht, hreset, hrecord⟩ := exists_resets s now
  rw [hreset, hrecord]
  cases blank with
  | false => exact (Part.reset ht).parts
  | true => exact (Part.reset ht).parts.trans (parts_compileNow t true)

theorem parts_refresh (s : Session δ σ) :
    Parts now s (s.renderRecord true now) (s.refresh now) := by
  rcases render_cases s true now with ⟨-, h, hrecord⟩ | ⟨t, -, h, hreset, hrecord⟩
  · rw [hrecord]
    exact h.parts
  · rw [hrecord, refresh, hreset]
    exact h.parts.trans (parts_reset t)

theorem parts_applyResult (s : Session δ σ) (response : Response) :
    Parts now s (s.resultRecord response now) (s.applyResult response now) := by
  rcases applyResult_cases s response now with ⟨-, h, hrecord⟩ | ⟨t, -, h, hreset, hrecord⟩
  · rw [hrecord]
    exact h.parts
  · rw [hrecord, hreset]
    exact h.parts.trans (parts_reset t)

/-- A step is made of parts. -/
theorem parts_step (s : Session δ σ) (step : Step δ σ) :
    Parts now s (s.stepRecord now step) (s.step now step) := by
  cases step with
  | operate operation =>
    cases operation with
    | setFiles files => exact Leaves.parts ⟨rfl, rfl, rfl, rfl, id, id⟩
    | filesChanged files => exact Leaves.parts ⟨rfl, rfl, rfl, rfl, id, id⟩
    | requestCompile force => exact Leaves.parts ⟨rfl, rfl, rfl, rfl, id, id⟩
    | pollTimers => exact parts_pollTimers s
    | compileNow force => exact parts_compileNow s force
    | refresh => exact parts_refresh s
    | reset => exact parts_reset s
    | clearError => exact Leaves.parts ⟨rfl, rfl, rfl, rfl, nofun, nofun⟩
  | deliver response => exact parts_applyResult s response
  | unit unit => exact Leaves.parts ⟨rfl, rfl, rfl, rfl, id, id⟩
  | surface surface => exact Leaves.parts ⟨rfl, rfl, rfl, rfl, id, id⟩

/-- What one part keeps of a session and its record, runs keep. -/
theorem record_induct {P : Record → Session δ σ → Prop}
    (hpart : ∀ {now : Nat} {l r : Record} {s t : Session δ σ}, P l s → Part now s r t →
      P (l ++ r) t)
    (hs : P l s) (steps : List (Nat × Step δ σ)) : P (l ++ s.record steps) (s.after steps) := by
  induction steps generalizing l s with
  | nil => simpa [record, after] using hs
  | cons first rest ih =>
    obtain ⟨now, step⟩ := first
    have hparts {r : Record} {t : Session δ σ} (h : Parts now s r t) : P (l ++ r) t := by
      induction h with
      | refl => simpa using hs
      | tail _ hlast ih => simpa using hpart ih hlast
    simpa [record, after] using ih (hparts (parts_step s step))

/-! ### The requests of a record -/

omit [Surface σ] in
theorem handed_compileRecord (s : Session δ σ) (force : Bool) (now : Nat) :
    (s.compileRecord force now).handed = (s.compileEffects force now).filterMap Effect.handed? := by
  rw [compileRecord, ending, compileEffects]
  cases (s.scheduler.attempt s.files force (CompileUnit.ready s.unit) now).1 <;> rfl

omit [Surface σ] in
theorem handed_timerRecord (s : Session δ σ) (now : Nat) :
    (s.timerRecord now).handed = (s.timerEffects now).filterMap Effect.handed? := by
  rw [timerRecord, timerEffects, dueRecord, dueEffects]
  rcases ((s.cooldownCompile now).cooldownReset now).scheduler.due now with ⟨_ | force, scheduler⟩
  · rfl
  · exact handed_compileRecord _ force now

theorem handed_resetRecord (s : Session δ σ) (now : Nat) :
    (s.resetRecord now).handed = (s.resetEffects now).filterMap Effect.handed? := by
  have hreset : (s.renderer.resetEffects now).filterMap Effect.handed? = [] := by
    rw [Renderer.resetEffects]
    cases (s.renderer.reset now).1 <;> rfl
  rw [resetRecord, resetEffects, List.filterMap_append, hreset, List.nil_append]
  rcases s.renderer.reset now with ⟨_ | _ | _ | message, renderer⟩
  · exact handed_compileRecord _ true now
  · rfl
  · rfl
  · rfl

theorem handed_renderRecord (s : Session δ σ) (force : Bool) (now : Nat) :
    (s.renderRecord force now).handed = (s.renderEffects force now).filterMap Effect.handed? := by
  have hupdate : (s.renderer.updateEffects s.artifact force).filterMap Effect.handed? = [] := by
    unfold Renderer.updateEffects
    cases s.artifact with
    | none => rfl
    | some a => cases (s.renderer.update (some a) force).1 <;> rfl
  rw [renderRecord, renderEffects, List.filterMap_append, hupdate, List.nil_append]
  rcases s.renderer.update s.artifact force with ⟨_ | _ | message, renderer⟩
  · rfl
  · rfl
  · exact handed_resetRecord _ now

theorem handed_stepRecord (s : Session δ σ) (now : Nat) (step : Step δ σ) :
    (s.stepRecord now step).handed = (s.effects now step).filterMap Effect.handed? := by
  cases step with
  | operate operation =>
    cases operation with
    | pollTimers => exact handed_timerRecord s now
    | compileNow force => exact handed_compileRecord s force now
    | refresh => exact handed_renderRecord s true now
    | reset => exact handed_resetRecord s now
    | _ => rfl
  | deliver response =>
    rw [stepRecord, effects, resultRecord, resultEffects]
    split
    · rfl
    · cases response.outcome with
      | code text => exact handed_renderRecord _ false now
      | error message => rfl
  | unit unit => rfl
  | surface surface => rfl

/-- The requests of the record are those that are handed over, with the same answers. -/
theorem handed_record (s : Session δ σ) (steps : List (Nat × Step δ σ)) :
    (s.record steps).handed = (s.history steps).handed := by
  induction steps generalizing s with
  | nil => rfl
  | cons first rest ih =>
    obtain ⟨now, step⟩ := first
    have hstep : History.handed ((s.effects now step).map (now, ·)) =
        (s.effects now step).filterMap Effect.handed? := by
      rw [History.handed, List.filterMap_map]
      rfl
    rw [record, history, Record.handed, History.handed, List.filterMap_append,
      List.filterMap_append]
    exact congr (congrArg _ ((handed_stepRecord s now step).trans hstep.symm)) (ih _)

/-- The requests that were taken are those that the compile unit took. -/
theorem taken_record (s : Session δ σ) (steps : List (Nat × Step δ σ)) :
    (s.record steps).taken = (s.history steps).taken := by
  have htaken (l : Record) :
      l.taken = l.handed.filterMap fun e => if e.2 then some e.1 else none := by
    rw [Record.taken, Record.handed, List.filterMap_filterMap]
    refine congrArg (List.filterMap · l) (funext fun a => ?_)
    rcases a with ⟨force, ⟨request, _ | _⟩ | _⟩ | verdict <;> rfl
  rw [htaken, History.taken, handed_record]

end Session

end LivePreview
