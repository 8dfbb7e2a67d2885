import LivePreview.Proofs.Guard
import LivePreview.Session.Run

/-!
# The moves of a session

Whatever a session is asked to do, it does by a few moves. A move changes the session once and has
at most one effect: a timer ends, an attempt is decided on, an artifact is shown or refused, a reset
reaches the surface or is stopped. The moves are taken so large that the slots of a session fit
together after each of them: a response is taken in together with the showing of its code.

An invariant of sessions is an invariant of moves.

## Main definitions

* `LivePreview.Session.Offers`: the artifact that is to be shown next.
* `LivePreview.Session.Move`, `LivePreview.Session.Moves`: the moves, and what follows from them.

## Main results

* `LivePreview.Session.moves_operate`, `LivePreview.Session.moves_applyResult`: operations and
  responses are made of moves.
* `LivePreview.Session.after_induct`, `LivePreview.Session.after_induct_ascending`: what moves keep,
  runs keep.
-/

namespace LivePreview

namespace Session

variable {δ σ : Type} [CompileUnit δ] [Surface σ]

/-- The artifact that is to be shown next, and the session that shows it. Without a response it is
the one in the slot; a response that is not stale puts its code there. -/
inductive Offers (s : Session δ σ) : Option Response → Artifact → Session δ σ → Prop where
  /-- The artifact in the slot. -/
  | slot {a : Artifact} (h : s.artifact = some a) : Offers s none a s
  /-- The code of a response. -/
  | code {sequence : Nat} {text : String} (h : s.stale sequence = false) :
    Offers s (some ⟨sequence, .code text⟩) (Artifact.ofCode text sequence)
      { s with
        lastApplied := some sequence
        error := none
        artifact := some (Artifact.ofCode text sequence) }

/-- One move of a session with its effect, if it has one. A response may be coming in. -/
inductive Move (incoming : Option Response) (now : Nat) :
    Session δ σ → List Effect → Session δ σ → Prop where
  /-- New files. -/
  | setFiles {s : Session δ σ} (files : FileSet) : Move incoming now s [] (s.setFiles files)
  /-- The delay of the next attempt starts again. -/
  | request {s : Session δ σ} (force : Bool) : Move incoming now s [] (s.requestCompile force now)
  /-- The error is dismissed. -/
  | clearError {s : Session δ σ} : Move incoming now s [] s.clearError
  /-- The cooldown of compile attempts is over, and with it the error that it had. -/
  | compileCooled {s : Session δ σ} {error : Option PreviewError}
    (h : s.scheduler.guard.cooledBy now = true)
    (herror : error = if s.error = some .compileLoop then none else s.error) :
    Move incoming now s [] { s with scheduler := s.scheduler.endCooldown, error := error }
  /-- The cooldown of resets is over, and with it the error that it had. -/
  | resetCooled {s : Session δ σ} {error : Option PreviewError}
    (h : s.renderer.guard.cooledBy now = true)
    (herror : error = if s.error = some .resetLoop then none else s.error) :
    Move incoming now s [] { s with renderer := s.renderer.endCooldown, error := error }
  /-- The delay of an attempt is over. -/
  | due {s : Session δ σ} {p : Pending} (hp : s.scheduler.pending = some p)
    (h : p.deadline ≤ now) : Move incoming now s [] { s with scheduler := s.scheduler.cancel }
  /-- An attempt finds the compile unit not ready. -/
  | notReady {s : Session δ σ} (h : CompileUnit.ready s.unit = false) :
    Move incoming now s [] { s with error := some .notReady }
  /-- An attempt trips the guard. -/
  | compileLoop {s : Session δ σ} {g : Guard}
    (hg : s.scheduler.guard.check now = (.tripped, g)) :
    Move incoming now s []
      { s with scheduler := { s.scheduler with guard := g }, error := some .compileLoop }
  /-- An attempt finds the content unchanged. -/
  | unchanged {s : Session δ σ} {g : Guard} (hg : s.scheduler.guard.check now = (.allowed, g))
    (h : s.scheduler.lastDispatched = some s.files.fingerprint) :
    Move incoming now s [] { s with scheduler := { s.scheduler with guard := g } }
  /-- An attempt hands over a request, which is taken. -/
  | taken {s : Session δ σ} {g : Guard} {unit : δ}
    (hg : s.scheduler.guard.check now = (.allowed, g))
    (hunit : CompileUnit.dispatch s.unit ⟨s.nextSequence, s.files⟩ = (unit, .ok ())) :
    Move incoming now s [.request ⟨s.nextSequence, s.files⟩ true]
      { s with
        scheduler := { s.scheduler with
          guard := g, lastDispatched := some s.files.fingerprint, pending := none }
        unit := unit
        artifact := none
        nextSequence := s.nextSequence + 1 }
  /-- An attempt hands over a request, which is not taken. -/
  | untaken {s : Session δ σ} {g : Guard} {unit : δ} {e : DispatchError}
    (hg : s.scheduler.guard.check now = (.allowed, g))
    (hunit : CompileUnit.dispatch s.unit ⟨s.nextSequence, s.files⟩ = (unit, .error e)) :
    Move incoming now s [.request ⟨s.nextSequence, s.files⟩ false]
      { s with
        scheduler := { s.scheduler with guard := g, lastDispatched := none, pending := none }
        unit := unit
        artifact := none
        error := some (.dispatch e.message)
        nextSequence := s.nextSequence + 1 }
  /-- The code of a response is showing already. -/
  | kept {s t : Session δ σ} {response : Response} {a : Artifact}
    (hresponse : incoming = some response) (ha : s.Offers incoming a t)
    (h : s.renderer.lastInjected = some a.fingerprint) : Move incoming now s [] t
  /-- The document of an artifact is shown. -/
  | shown {s t : Session δ σ} {a : Artifact} {surface : σ} (ha : s.Offers incoming a t)
    (hsurface : Surface.present s.renderer.surface (Document.build a.code s.renderer.config) =
      (surface, .ok ())) :
    Move incoming now s [.document (Document.build a.code s.renderer.config) true]
      { t with
        renderer := { s.renderer with
          surface := surface, phase := .idle, lastInjected := some a.fingerprint }
        error := none }
  /-- The document of an artifact is refused. -/
  | refused {s t : Session δ σ} {a : Artifact} {surface : σ} {message : String}
    (ha : s.Offers incoming a t)
    (hsurface : Surface.present s.renderer.surface (Document.build a.code s.renderer.config) =
      (surface, .error message)) :
    Move incoming now s [.document (Document.build a.code s.renderer.config) false]
      { t with
        renderer := { s.renderer with surface := surface, phase := .idle, lastInjected := none }
        error := some (.render message) }
  /-- A response tells of a failure. -/
  | failed {s : Session δ σ} {sequence : Nat} {message : String}
    (hresponse : incoming = some ⟨sequence, .error message⟩) (h : s.stale sequence = false) :
    Move incoming now s []
      { s with lastApplied := some sequence, error := some (.compile message) }
  /-- A reset blanks the surface. -/
  | blanked {s : Session δ σ} {g : Guard} {surface : σ}
    (hg : s.renderer.guard.check now = (.allowed, g))
    (hsurface : Surface.present s.renderer.surface (Document.build "" s.renderer.config) =
      (surface, .ok ())) :
    Move incoming now s [.blank (Document.build "" s.renderer.config) true]
      { s with
        renderer := { s.renderer with
          surface := surface, guard := g, phase := .idle, lastInjected := none }
        artifact := none }
  /-- A reset finds that the surface refuses the blank document. -/
  | unblanked {s : Session δ σ} {g : Guard} {surface : σ} {message : String}
    (hg : s.renderer.guard.check now = (.allowed, g))
    (hsurface : Surface.present s.renderer.surface (Document.build "" s.renderer.config) =
      (surface, .error message)) :
    Move incoming now s [.blank (Document.build "" s.renderer.config) false]
      { s with
        renderer := { s.renderer with
          surface := surface, guard := g, phase := .idle, lastInjected := none }
        error := some (.reset message) }
  /-- A reset trips the guard. -/
  | resetLoop {s : Session δ σ} {g : Guard}
    (hg : s.renderer.guard.check now = (.tripped, g)) :
    Move incoming now s [.resetLoop]
      { s with
        renderer := { s.renderer with guard := g }
        scheduler := s.scheduler.forget
        artifact := none
        error := some .resetLoop }

/-- Moves that follow one another, with their effects. -/
inductive Moves (incoming : Option Response) (now : Nat) :
    Session δ σ → List Effect → Session δ σ → Prop where
  /-- No move. -/
  | refl (s : Session δ σ) : Moves incoming now s [] s
  /-- One more move. -/
  | tail {s t u : Session δ σ} {l e : List Effect} (h : Moves incoming now s l t)
    (hmove : Move incoming now t e u) : Moves incoming now s (l ++ e) u

variable {incoming : Option Response} {now : Nat} {s t u : Session δ σ} {l l' : List Effect}

theorem Move.moves (h : Move incoming now s l t) : Moves incoming now s l t :=
  .tail (.refl s) h

theorem Moves.trans (h : Moves incoming now s l t) (h' : Moves incoming now t l' u) :
    Moves incoming now s (l ++ l') u := by
  induction h' with
  | refl => simpa using h
  | tail _ hmove ih => simpa using ih.tail hmove

/-! ### Compile attempts -/

/-- An attempt is one move, or none if the guard is cooling down. -/
theorem moves_compileNow (s : Session δ σ) (force : Bool) :
    Moves incoming now s (s.compileEffects force now) (s.compileNow force now) := by
  cases hready : CompileUnit.ready s.unit with
  | false =>
    simp only [compileEffects, compileNow, Scheduler.attempt, hready]
    exact (Move.notReady hready).moves
  | true =>
    rcases hg : s.scheduler.guard.check now with ⟨verdict, g⟩
    cases verdict with
    | tripped =>
      simp only [compileEffects, compileNow, Scheduler.attempt, hready, hg]
      exact (Move.compileLoop hg).moves
    | suppressed =>
      simp only [compileEffects, compileNow, Scheduler.attempt, hready, hg]
      rw [Guard.eq_of_check_suppressed hg]
      exact .refl s
    | allowed =>
      by_cases hsame : s.scheduler.lastDispatched = some s.files.fingerprint ∧ force = false
      · simp only [compileEffects, compileNow, Scheduler.attempt, hready, hg, if_pos hsame]
        exact (Move.unchanged hg hsame.1).moves
      · rcases hunit : CompileUnit.dispatch s.unit ⟨s.nextSequence, s.files⟩ with ⟨unit, e | ⟨⟩⟩
        · simp only [compileEffects, compileNow, Scheduler.attempt, hready, hg, if_neg hsame,
            if_true, dispatchEffects, dispatch, hunit]
          exact (Move.untaken hg hunit).moves
        · simp only [compileEffects, compileNow, Scheduler.attempt, hready, hg, if_neg hsame,
            if_true, dispatchEffects, dispatch, hunit]
          exact (Move.taken hg hunit).moves

/-! ### Timers -/

omit [CompileUnit δ] [Surface σ] in
/-- Dismissing an error empties the error slot if it holds that one. -/
theorem dismiss_eq (e : PreviewError) (s : Session δ σ) :
    dismiss e s = { s with error := if s.error = some e then none else s.error } := by
  rw [dismiss]
  split <;> rfl

theorem moves_cooldownCompile (s : Session δ σ) :
    Moves incoming now s [] (s.cooldownCompile now) := by
  rw [cooldownCompile]
  split
  · rename_i hcooled
    rw [dismiss_eq]
    exact (Move.compileCooled hcooled rfl).moves
  · exact .refl s

theorem moves_cooldownReset (s : Session δ σ) :
    Moves incoming now s [] (s.cooldownReset now) := by
  rw [cooldownReset]
  split
  · rename_i hcooled
    rw [dismiss_eq]
    exact (Move.resetCooled hcooled rfl).moves
  · exact .refl s

theorem moves_compileDue (s : Session δ σ) :
    Moves incoming now s (s.dueEffects now) (s.compileDue now) := by
  cases hp : s.scheduler.pending with
  | none =>
    simp only [dueEffects, compileDue, Scheduler.due, hp]
    exact .refl s
  | some p =>
    by_cases hdue : p.deadline ≤ now
    · simp only [dueEffects, compileDue, Scheduler.due, hp, if_pos hdue]
      exact (Move.due hp hdue).moves.trans (moves_compileNow _ p.force)
    · simp only [dueEffects, compileDue, Scheduler.due, hp, if_neg hdue]
      exact .refl s

theorem moves_pollTimers (s : Session δ σ) :
    Moves incoming now s (s.timerEffects now) (s.pollTimers now) :=
  ((moves_cooldownCompile s).trans (moves_cooldownReset _)).trans (moves_compileDue _)

/-! ### Resets -/

/-- A reset that reaches the surface, and then an attempt if the surface is blank. -/
theorem moves_reset (s : Session δ σ) :
    Moves incoming now s (s.resetEffects now) (s.reset now) := by
  rcases hg : s.renderer.guard.check now with ⟨verdict, g⟩
  cases verdict with
  | tripped =>
    simp only [resetEffects, reset, Renderer.resetEffects, Renderer.reset, hg]
    exact (Move.resetLoop hg).moves
  | suppressed =>
    simp only [resetEffects, reset, Renderer.resetEffects, Renderer.reset, hg]
    rw [Guard.eq_of_check_suppressed hg]
    exact .refl s
  | allowed =>
    rcases hsurface : Surface.present s.renderer.surface
      (Document.build "" s.renderer.config) with ⟨surface, message | ⟨⟩⟩
    · simp only [resetEffects, reset, Renderer.resetEffects, Renderer.reset, Renderer.blank, hg,
        hsurface]
      exact (Move.unblanked hg hsurface).moves
    · simp only [resetEffects, reset, Renderer.resetEffects, Renderer.reset, Renderer.blank, hg,
        hsurface]
      exact (Move.blanked hg hsurface).moves.trans (moves_compileNow _ true)

/-! ### Showing -/

omit [CompileUnit δ] [Surface σ] in
theorem Offers.renderer {a : Artifact} (h : s.Offers incoming a t) : t.renderer = s.renderer := by
  cases h <;> rfl

omit [CompileUnit δ] [Surface σ] in
theorem Offers.artifact {a : Artifact} (h : s.Offers incoming a t) : t.artifact = some a := by
  cases h with
  | slot h => exact h
  | code _ => rfl

omit [CompileUnit δ] [Surface σ] in
theorem Offers.scheduler {a : Artifact} (h : s.Offers incoming a t) :
    t.scheduler = s.scheduler := by
  cases h <;> rfl

/-- A move leaves the renderer idle. -/
theorem Move.phase (hmove : Move incoming now s l t) (hphase : s.renderer.phase = .idle) :
    t.renderer.phase = .idle := by
  cases hmove with
  | shown => rfl
  | refused => rfl
  | blanked => rfl
  | unblanked => rfl
  | kept _ ha => exact ha.renderer ▸ hphase
  | _ => exact hphase

theorem Moves.phase (h : Moves incoming now s l t) (hphase : s.renderer.phase = .idle) :
    t.renderer.phase = .idle := by
  induction h with
  | refl => exact hphase
  | tail _ hmove ih => exact hmove.phase ih

/-- An artifact that is to be shown is shown or refused, and a refused one leads to a reset. -/
theorem moves_render {a : Artifact} (ha : s.Offers incoming a t)
    (hphase : s.renderer.phase = .idle) {force : Bool}
    (h : ¬ (force = false ∧ s.renderer.lastInjected = some a.fingerprint)) :
    Moves incoming now s (t.renderEffects force now) (t.render force now) := by
  have hupdate : s.renderer.update (some a) force = s.renderer.inject a := by
    rw [Renderer.update, hphase, if_neg (by simp)]
    exact if_neg h
  have hupdate' : t.renderer.update t.artifact force = s.renderer.inject a := by
    rw [ha.renderer, ha.artifact, hupdate]
  rcases hsurface : Surface.present s.renderer.surface
    (Document.build a.code s.renderer.config) with ⟨surface, message | ⟨⟩⟩
  · simp only [Renderer.inject, hsurface] at hupdate hupdate'
    have heffects : t.renderer.updateEffects t.artifact force =
        [.document (Document.build a.code s.renderer.config) false] := by
      simp only [Renderer.updateEffects, ha.renderer, ha.artifact, hupdate]
    rw [renderEffects, render, heffects, hupdate']
    exact (Move.refused ha hsurface).moves.trans (moves_reset _)
  · simp only [Renderer.inject, hsurface] at hupdate hupdate'
    have heffects : t.renderer.updateEffects t.artifact force =
        [.document (Document.build a.code s.renderer.config) true] := by
      simp only [Renderer.updateEffects, ha.renderer, ha.artifact, hupdate]
    rw [renderEffects, render, heffects, hupdate']
    exact (Move.shown ha hsurface).moves

theorem moves_refresh (s : Session δ σ) (hphase : s.renderer.phase = .idle) :
    Moves none now s (s.renderEffects true now) (s.refresh now) := by
  cases ha : s.artifact with
  | some a => exact moves_render (.slot ha) hphase (by simp)
  | none =>
    have hupdate : s.renderer.update s.artifact true = (.skipped, s.renderer) := by
      rw [ha, Renderer.update, hphase, if_neg (by simp)]
    have heffects : s.renderer.updateEffects s.artifact true = [] := by
      simp only [Renderer.updateEffects, ha]
    rw [renderEffects, refresh, render, heffects, hupdate]
    exact .refl s

/-! ### Operations and responses -/

/-- A response is dropped, or taken in together with the showing of its code. -/
theorem moves_applyResult (s : Session δ σ) (hphase : s.renderer.phase = .idle)
    (response : Response) :
    Moves (some response) now s (s.resultEffects response now) (s.applyResult response now) := by
  obtain ⟨sequence, outcome⟩ := response
  cases hstale : s.stale sequence with
  | true =>
    simp only [resultEffects, applyResult, hstale, if_true]
    exact .refl s
  | false =>
    cases outcome with
    | error message =>
      simp only [resultEffects, applyResult, hstale, outcomeEffects, takeOutcome,
        Bool.false_eq_true, if_false]
      exact (Move.failed rfl hstale).moves
    | code text =>
      simp only [resultEffects, applyResult, hstale, outcomeEffects, takeOutcome,
        Bool.false_eq_true, if_false]
      have hoffers : s.Offers (some ⟨sequence, .code text⟩) _ _ := .code hstale
      by_cases hshowing : s.renderer.lastInjected = some (Artifact.ofCode text sequence).fingerprint
      · simp only [renderEffects, render, Renderer.updateEffects, Renderer.update, hphase,
          hshowing, reduceCtorEq, if_false, and_self, if_true]
        exact (Move.kept rfl hoffers hshowing).moves
      · exact moves_render hoffers hphase (by simpa using hshowing)

/-- An operation is made of moves. -/
theorem moves_operate (s : Session δ σ) (hphase : s.renderer.phase = .idle)
    (operation : Operation) :
    Moves none now s (s.operationEffects now operation) (s.operate now operation) := by
  cases operation with
  | setFiles files => exact (Move.setFiles files).moves
  | filesChanged files => exact (Move.setFiles files).moves.trans (Move.request false).moves
  | requestCompile force => exact (Move.request force).moves
  | pollTimers => exact moves_pollTimers s
  | compileNow force => exact moves_compileNow s force
  | refresh => exact moves_refresh s hphase
  | reset => exact moves_reset s
  | clearError => exact Move.clearError.moves

/-! ### Runs -/

/-- What one move keeps of a session and its history, moves keep. -/
theorem Moves.induct {P : History → Session δ σ → Prop}
    (hmove : ∀ {h : History} {s t : Session δ σ} {e : List Effect}, P h s →
      Move incoming now s e t → P (h ++ e.map (now, ·)) t)
    {h : History} (hs : P h s) (hmoves : Moves incoming now s l t) :
    P (h ++ l.map (now, ·)) t := by
  induction hmoves with
  | refl => simpa using hs
  | tail _ hlast ih => simpa using hmove ih hlast

/-- What moves at an instant keep, and changes of the compile unit and the surface, steps at that
instant keep. -/
theorem step_induct {P : History → Session δ σ → Prop}
    (hidle : ∀ {h : History} {s : Session δ σ}, P h s → s.renderer.phase = .idle)
    (hmove : ∀ {incoming : Option Response} {h : History} {s t : Session δ σ} {e : List Effect},
      P h s → Move incoming now s e t → P (h ++ e.map (now, ·)) t)
    (hunit : ∀ {h : History} {s : Session δ σ} (unit : δ), P h s → P h { s with unit := unit })
    (hsurface : ∀ {h : History} {s : Session δ σ} (surface : σ), P h s →
      P h { s with renderer := { s.renderer with surface := surface } })
    {h : History} (hs : P h s) (step : Step δ σ) :
    P (h ++ (s.effects now step).map (now, ·)) (s.step now step) := by
  cases step with
  | operate operation => exact (moves_operate s (hidle hs) operation).induct hmove hs
  | deliver response => exact (moves_applyResult s (hidle hs) response).induct hmove hs
  | unit unit => simpa [effects, Session.step] using hunit unit hs
  | surface surface => simpa [effects, Session.step] using hsurface surface hs

/-- What moves keep, and changes of the compile unit and the surface, runs keep. -/
theorem after_induct {P : History → Session δ σ → Prop}
    (hidle : ∀ {h : History} {s : Session δ σ}, P h s → s.renderer.phase = .idle)
    (hmove : ∀ {incoming : Option Response} {now : Nat} {h : History} {s t : Session δ σ}
      {e : List Effect}, P h s → Move incoming now s e t → P (h ++ e.map (now, ·)) t)
    (hunit : ∀ {h : History} {s : Session δ σ} (unit : δ), P h s → P h { s with unit := unit })
    (hsurface : ∀ {h : History} {s : Session δ σ} (surface : σ), P h s →
      P h { s with renderer := { s.renderer with surface := surface } })
    {h : History} (hs : P h s) (steps : List (Nat × Step δ σ)) :
    P (h ++ s.history steps) (s.after steps) := by
  induction steps generalizing h s with
  | nil => simpa [history, after] using hs
  | cons step rest ih =>
    have hstep : P (h ++ (s.effects step.1 step.2).map (step.1, ·)) (s.step step.1 step.2) :=
      step_induct (P := P) hidle hmove hunit hsurface hs step.2
    simpa [history, after] using ih hstep

/-- Runs leave the renderer idle. -/
theorem phase_after (hphase : s.renderer.phase = .idle) (steps : List (Nat × Step δ σ)) :
    (s.after steps).renderer.phase = .idle :=
  after_induct (P := fun _ s => s.renderer.phase = .idle) id (fun hs hmove => hmove.phase hs)
    (fun _ => id) (fun _ => id) (h := []) hphase steps

/-- What moves keep at their instant, and changes of the compile unit and the surface, runs keep in
which time does not go backwards, if it survives the passing of time. -/
theorem after_induct_ascending {P : Nat → History → Session δ σ → Prop}
    (hidle : ∀ {now : Nat} {h : History} {s : Session δ σ}, P now h s →
      s.renderer.phase = .idle)
    (hmono : ∀ {now later : Nat} {h : History} {s : Session δ σ}, P now h s → now ≤ later →
      P later h s)
    (hmove : ∀ {incoming : Option Response} {now : Nat} {h : History} {s t : Session δ σ}
      {e : List Effect}, P now h s → Move incoming now s e t → P now (h ++ e.map (now, ·)) t)
    (hunit : ∀ {now : Nat} {h : History} {s : Session δ σ} (unit : δ), P now h s →
      P now h { s with unit := unit })
    (hsurface : ∀ {now : Nat} {h : History} {s : Session δ σ} (surface : σ), P now h s →
      P now h { s with renderer := { s.renderer with surface := surface } })
    {now : Nat} {h : History} (hs : P now h s) {steps : List (Nat × Step δ σ)}
    (hsteps : steps.Pairwise fun a b => a.1 ≤ b.1) (hnow : ∀ step ∈ steps, now ≤ step.1) :
    ∃ later, P later (h ++ s.history steps) (s.after steps) := by
  induction steps generalizing now h s with
  | nil => exact ⟨now, by simpa [history, after] using hs⟩
  | cons step rest ih =>
    obtain ⟨hfirst, hrest⟩ := List.pairwise_cons.1 hsteps
    have hstep : P step.1 (h ++ (s.effects step.1 step.2).map (step.1, ·))
        (s.step step.1 step.2) :=
      step_induct (P := P step.1) hidle hmove hunit hsurface
        (hmono hs (hnow step List.mem_cons_self)) step.2
    obtain ⟨later, hlater⟩ := ih hstep hrest hfirst
    exact ⟨later, by simpa [history, after] using hlater⟩

end Session

end LivePreview
