import LivePreview.Proofs.Session.LoopErrors
import LivePreview.Proofs.Session.Performed

/-!
# After the blank document

A reset that reaches the surface takes the application off it and makes a forced compile attempt,
which is to bring it back. Such an attempt never finds its content unchanged, so either a request is
taken or the error slot says why not. There is one exception, the attempt that the compile guard
suppresses without a word. It is an exception only where nothing else has filled the slot: a refused
document has put its message there before the reset, so only a reset that is asked for directly can
leave the surface blank with an empty slot.

## Main definitions

* `LivePreview.Session.blanking`: a run up to a reset within the cooldown of the compile guard.

## Main results

* `LivePreview.Session.Ends.of_forced`: what becomes of a forced attempt.
* `LivePreview.Session.recompiled_of_blank`: a blank document comes with a request, an error or a
  suppressed attempt.
* `LivePreview.Session.blank_in_cooldown`: the suppressed attempt does occur.
-/

namespace LivePreview

namespace Session

variable {δ σ : Type} [CompileUnit δ] {now : Nat} {s t : Session δ σ} {html : String}

/-! ### Forced attempts -/

/-- A forced attempt hands the files over, or leaves an error, or is suppressed and leaves
everything as it was. -/
theorem Ends.of_forced {ending : Ending} (h : Ends now true s ending t) :
    ending = .handed ⟨s.nextSequence, s.files⟩ true ∨ t.error ≠ none ∨
      (ending = .suppressed ∧ t = s ∧
        ∃ deadline, s.scheduler.guard.coolingUntil = some deadline ∧ now < deadline) := by
  cases h with
  | taken => exact .inl rfl
  | notReady => exact .inr (.inl (by simp))
  | loopDetected => exact .inr (.inl (by simp))
  | untaken => exact .inr (.inl (by simp))
  | unchanged _ _ _ hforce => cases hforce
  | suppressed _ hg => exact .inr (.inr ⟨rfl, rfl, (Guard.of_check_suppressed hg).2⟩)

/-- A compile attempt does nothing to the surface. -/
theorem isBlank_of_mem_compileEffects {force : Bool} {e : Effect}
    (h : e ∈ s.compileEffects force now) : e.isBlank = false := by
  rw [compileEffects] at h
  split at h
  · obtain rfl := List.mem_singleton.1 h
    rfl
  · cases h

/-- Timers do nothing to the surface. -/
theorem isBlank_of_mem_timerEffects {e : Effect} (h : e ∈ s.timerEffects now) :
    e.isBlank = false := by
  rw [timerEffects, dueEffects] at h
  split at h
  · cases h
  · exact isBlank_of_mem_compileEffects h

variable [Surface σ]

/-! ### Resets that reach the surface -/

omit [CompileUnit δ] in
/-- The surface shows the blank document only for a reset that its guard lets through. -/
theorem exists_blanked {r : Renderer σ} (h : .blank html true ∈ r.resetEffects now) :
    ∃ renderer, r.reset now = (.done, renderer) := by
  rw [Renderer.resetEffects] at h
  rcases hreset : r.reset now with ⟨_ | _ | _ | message, renderer⟩ <;> rw [hreset] at h
  · exact ⟨renderer, rfl⟩
  all_goals simp at h

omit [CompileUnit δ] in
/-- An update puts no blank document on the surface. -/
theorem not_mem_updateEffects {r : Renderer σ} {artifact : Option Artifact} {force : Bool} :
    .blank html true ∉ r.updateEffects artifact force := by
  unfold Renderer.updateEffects
  split <;> simp

/-- A reset that blanks the surface makes a forced compile attempt with the files as they are. -/
theorem recompiled_reset (h : .blank html true ∈ s.resetEffects now) :
    .compile true (.handed ⟨s.nextSequence, s.files⟩ true) ∈ s.resetRecord now ∨
      (s.reset now).error ≠ none ∨
      (s.error = none ∧ .compile true .suppressed ∈ s.resetRecord now ∧
        ∃ deadline, s.scheduler.guard.coolingUntil = some deadline ∧ now < deadline) := by
  obtain ⟨renderer, hreset⟩ : ∃ renderer, s.renderer.reset now = (.done, renderer) := by
    rcases List.mem_append.1 h with h | h
    · exact exists_blanked h
    · split at h
      · rename_i renderer hreset
        exact ⟨renderer, hreset⟩
      · cases h
  let blanked : Session δ σ := { s with renderer := renderer, artifact := none }
  have hrecord : .compile true (blanked.ending true now) ∈ s.resetRecord now := by
    simp [resetRecord, compileRecord, hreset, blanked]
  have hcompile : s.reset now = blanked.compileNow true now := by
    simp only [reset, hreset, blanked]
  rw [hcompile]
  rcases (ends_compileNow blanked true now).of_forced with
    hending | herror | ⟨hending, hsame, hcooling⟩
  · exact .inl (hending ▸ hrecord)
  · exact .inr (.inl herror)
  · by_cases herror : s.error = none
    · exact .inr (.inr ⟨herror, hending ▸ hrecord, hcooling⟩)
    · rw [hsame]
      exact .inr (.inl herror)

/-- A blank document that comes with a refused one comes with a request or an error. -/
theorem recompiled_render {force : Bool} (h : .blank html true ∈ s.renderEffects force now) :
    .compile true (.handed ⟨s.nextSequence, s.files⟩ true) ∈ s.renderRecord force now ∨
      (s.render force now).error ≠ none := by
  rcases List.mem_append.1 h with h | h
  · exact absurd h not_mem_updateEffects
  · rcases hupdate : s.renderer.update s.artifact force with ⟨_ | _ | message, renderer⟩ <;>
      rw [hupdate] at h
    · cases h
    · cases h
    · rw [renderRecord, render, hupdate]
      rcases recompiled_reset h with htaken | herror | ⟨hempty, -, -⟩
      · exact .inl htaken
      · exact .inr herror
      · cases hempty

/-- A step hands over what its effects tell, and whenever the surface shows the blank document of a
reset, a forced request with the current files is taken, or the error slot is not empty when the
step is over, or the reset was asked for directly with an empty slot and its attempt was suppressed
during the cooldown of the compile guard. -/
theorem recompiled_of_blank (s : Session δ σ) (now : Nat) (step : Step δ σ) (html : String)
    (h : .blank html true ∈ s.effects now step) :
    Enacts s.unit s.renderer.surface [(now, step)] ((s.effects now step).map (now, ·))
      (s.step now step).unit (s.step now step).renderer.surface ∧
    ((.compile true (.handed ⟨s.nextSequence, s.files⟩ true) ∈ s.stepRecord now step ∧
        .request ⟨s.nextSequence, s.files⟩ true ∈ s.effects now step) ∨
      (s.step now step).error ≠ none ∨
      (step = .operate .reset ∧ s.error = none ∧
        .compile true .suppressed ∈ s.stepRecord now step ∧
        ∃ deadline, s.scheduler.guard.coolingUntil = some deadline ∧ now < deadline)) := by
  refine ⟨by simpa [history, after] using s.enacts_after [(now, step)], ?_⟩
  have hrequest (htaken : .compile true (.handed ⟨s.nextSequence, s.files⟩ true) ∈
      s.stepRecord now step) : .request ⟨s.nextSequence, s.files⟩ true ∈ s.effects now step := by
    have hhanded : (⟨s.nextSequence, s.files⟩, true) ∈ (s.stepRecord now step).handed :=
      List.mem_filterMap.2 ⟨_, htaken, rfl⟩
    rw [handed_stepRecord] at hhanded
    obtain ⟨e, he, heq⟩ := List.mem_filterMap.1 hhanded
    cases e <;> cases heq
    exact he
  cases step with
  | operate operation =>
    cases operation with
    | pollTimers => cases isBlank_of_mem_timerEffects h
    | compileNow force => cases isBlank_of_mem_compileEffects h
    | refresh =>
      rcases recompiled_render h with htaken | herror
      · exact .inl ⟨htaken, hrequest htaken⟩
      · exact .inr (.inl herror)
    | reset =>
      rcases recompiled_reset h with htaken | herror | hsuppressed
      · exact .inl ⟨htaken, hrequest htaken⟩
      · exact .inr (.inl herror)
      · exact .inr (.inr ⟨rfl, hsuppressed⟩)
    | _ => cases h
  | deliver response =>
    change _ ∈ s.resultEffects response now at h
    change .compile true (.handed ⟨s.nextSequence, s.files⟩ true) ∈ s.resultRecord response now → _
      at hrequest
    change (_ ∈ s.resultRecord response now ∧ _) ∨ (s.applyResult response now).error ≠ none ∨ _
    rw [resultEffects] at h
    rw [resultRecord] at hrequest ⊢
    rw [applyResult]
    split at h
    · cases h
    · rename_i hnew
      rw [if_neg hnew] at hrequest ⊢
      rcases houtcome : response.outcome with text | message <;> rw [houtcome] at h hrequest
      · rcases recompiled_render h with htaken | herror
        · exact .inl ⟨htaken, hrequest htaken⟩
        · exact .inr (.inl (by rw [if_neg hnew]; exact herror))
      · cases h
  | unit => cases h
  | surface => cases h

/-- A reset of a session at its start compiles again. -/
theorem recompiled_of_blank_start :
    .blank (Document.build "" strict) true ∈ strictStart.effects 0 (.operate .reset) ∧
      .request ⟨1, NameMap.empty⟩ true ∈ strictStart.effects 0 (.operate .reset) := by
  have hblank : .blank (Document.build "" strict) true ∈
      strictStart.effects 0 (.operate .reset) := List.mem_cons_self
  refine ⟨hblank, ?_⟩
  rcases (recompiled_of_blank strictStart 0 (.operate .reset) _ hblank).2 with
    ⟨-, hrequest⟩ | herror | ⟨-, -, -, deadline, hdeadline, -⟩
  · exact hrequest
  · exact absurd (by decide +kernel) herror
  · cases hdeadline

/-- Two attempts of which the second one trips the guard, and then the response to the first one,
which empties the error slot. -/
def blanking : List (Nat × Step (RecordingUnit Script.engine) FlakySurface) :=
  looping ++ [(20, .deliver ⟨1, .code "x;"⟩)]

/-- A reset within the cooldown blanks the surface, hands nothing over and leaves no error. -/
theorem blank_in_cooldown :
    (strictStart.after blanking).effects 30 (.operate .reset) =
        [.blank (Document.build "" strict) true] ∧
      ((strictStart.after blanking).step 30 (.operate .reset)).error = none := by
  constructor
  · rfl
  · rfl

end Session

end LivePreview
