import LivePreview.Proofs.Session.Attempts

/-!
# The counts of both guards

Whatever happens to a session, each of its guards stays as it is, sees the end of a cooldown or
counts one more attempt. So neither counts further than to the attempt that trips it.

## Main results

* `LivePreview.Session.Part.moved`: what a part of a step does to the guards.
* `LivePreview.Session.limited_after`: no run counts further than to a trip.
-/

namespace LivePreview

namespace Session

variable {δ σ : Type} [CompileUnit δ] [Surface σ] {now : Nat} {s t : Session δ σ} {r : Record}
  {limits : GuardConfig}

/-! ### What a part does to the guards -/

omit [Surface σ] in
/-- A compile attempt is counted by its guard, unless the compile unit is not ready. -/
theorem Ends.moved {force : Bool} {ending : Ending} (h : Ends now force s ending t) :
    s.scheduler.guard.Moved now [] t.scheduler.guard ∧ t.renderer = s.renderer := by
  cases h with
  | notReady => exact ⟨.stay, rfl⟩
  | suppressed => exact ⟨.stay, rfl⟩
  | loopDetected _ hg => exact ⟨.checked hg, rfl⟩
  | unchanged _ hg => exact ⟨.checked hg, rfl⟩
  | taken _ hg => exact ⟨.checked hg, rfl⟩
  | untaken _ hg => exact ⟨.checked hg, rfl⟩

omit [CompileUnit δ] in
/-- A reset is counted by its guard, and not by that of compile attempts. -/
theorem Resets.moved {verdict : Verdict} {blank : Bool} (h : Resets now s verdict blank t) :
    t.scheduler.guard = s.scheduler.guard ∧ s.renderer.guard.Moved now [] t.renderer.guard := by
  cases h with
  | blanked hg => exact ⟨rfl, .checked hg⟩
  | unblanked hg => exact ⟨rfl, .checked hg⟩
  | resetLoop hg => exact ⟨rfl, .checked hg⟩
  | suppressed => exact ⟨rfl, .stay⟩

/-- What one part does to the guards. -/
theorem Part.moved (h : Part now s r t) :
    s.scheduler.guard.Moved now [] t.scheduler.guard ∧
      s.renderer.guard.Moved now [] t.renderer.guard := by
  cases h with
  | compile h =>
    obtain ⟨hmoved, hrenderer⟩ := h.moved
    exact ⟨hmoved, hrenderer ▸ .stay⟩
  | reset h =>
    obtain ⟨hguard, hmoved⟩ := h.moved
    exact ⟨hguard ▸ .stay, hmoved⟩
  | compileCooled h =>
    rw [dismiss_eq]
    exact ⟨.cooled h, .stay⟩
  | resetCooled h =>
    rw [dismiss_eq]
    exact ⟨.stay, .cooled h⟩
  | other h => exact ⟨h.compileGuard ▸ .stay, h.resetGuard ▸ .stay⟩

/-! ### Limited guards -/

/-- Parts let the guard of compile attempts count no further than to its trip. -/
theorem Parts.limited_scheduler (h : Parts now s r t) (hs : s.scheduler.guard.Limited limits) :
    t.scheduler.guard.Limited limits := by
  induction h with
  | refl => exact hs
  | tail _ hpart ih => exact ih.moved hpart.moved.1

/-- Parts let the guard of resets count no further than to its trip. -/
theorem Parts.limited_renderer (h : Parts now s r t) (hs : s.renderer.guard.Limited limits) :
    t.renderer.guard.Limited limits := by
  induction h with
  | refl => exact hs
  | tail _ hpart ih => exact ih.moved hpart.moved.2

/-- In every run neither guard counts further than to its trip, if both let something through. -/
theorem limited_after (config : Config) (hcompile : 1 ≤ config.compileGuard.threshold)
    (hreset : 1 ≤ config.resetGuard.threshold) (unit : δ) (surface : σ) (files : FileSet)
    (steps : List (Nat × Step δ σ)) :
    let s := (start config unit surface files).after steps
    s.scheduler.guard.Limited config.compileGuard ∧ s.renderer.guard.Limited config.resetGuard :=
  record_induct
    (P := fun _ s => s.scheduler.guard.Limited config.compileGuard ∧
      s.renderer.guard.Limited config.resetGuard)
    (fun hs hpart => ⟨hs.1.moved hpart.moved.1, hs.2.moved hpart.moved.2⟩)
    (l := []) ⟨Guard.limited_ofConfig hcompile, Guard.limited_ofConfig hreset⟩ steps

end Session

end LivePreview
