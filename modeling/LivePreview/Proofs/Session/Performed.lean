import LivePreview.Headless
import LivePreview.Proofs.Session.Moves

/-!
# Effects are what a session does

The effects of an operation or a response are listed beside it. They are indeed all that the compile
unit and the surface undergo: each request and each document of the list is handed over in turn,
with the answer that the list tells, and nothing else happens to the two. So it is with the history
of a run, in which the compile unit and the surface may also change on their own. What a history
says was shown last is therefore the last document that the surface was handed and accepted.

A surface may be known to show every document from now on. Then no effect is a refused document, and
the surface stays of that kind.

## Main definitions

* `LivePreview.Performs`: effects turn one compile unit and surface into others.
* `LivePreview.Enacts`: a run with its history turns one compile unit and surface into others.
* `LivePreview.ShowsAll`: a surface that shows every document from now on.

## Main results

* `LivePreview.Session.performs_operate`, `LivePreview.Session.performs_applyResult`: operations and
  responses perform their effects.
* `LivePreview.Session.enacts_after`: a run enacts its history.
* `LivePreview.Performs.showsAll`: a surface that shows every document stays one.
* `LivePreview.Enacts.shown_flaky`: a surface that keeps what it shows has kept what the history
  tells.
-/

namespace LivePreview

variable {δ σ : Type} [CompileUnit δ] [Surface σ]

/-! ### Effects one after another -/

/-- The effects, performed one after another on a compile unit and a surface, get the answers that
are listed and leave some compile unit and surface. -/
inductive Performs : δ → σ → List Effect → δ → σ → Prop where
  /-- Nothing is done. -/
  | nil {u : δ} {x : σ} : Performs u x [] u x
  /-- A request is handed to the compile unit. -/
  | request {u u' u'' : δ} {x x' : σ} {r : Request} {answer : Except DispatchError Unit}
    {l : List Effect} (h : CompileUnit.dispatch u r = (u', answer))
    (hl : Performs u' x l u'' x') : Performs u x (.request r answer.isOk :: l) u'' x'
  /-- The document of an artifact is handed to the surface. -/
  | document {u u' : δ} {x x' x'' : σ} {html : String} {answer : Except String Unit}
    {l : List Effect} (h : Surface.present x html = (x', answer))
    (hl : Performs u x' l u' x'') : Performs u x (.document html answer.isOk :: l) u' x''
  /-- The blank document is handed to the surface. -/
  | blank {u u' : δ} {x x' x'' : σ} {html : String} {answer : Except String Unit}
    {l : List Effect} (h : Surface.present x html = (x', answer))
    (hl : Performs u x' l u' x'') : Performs u x (.blank html answer.isOk :: l) u' x''
  /-- A reset is stopped. -/
  | resetLoop {u u' : δ} {x x' : σ} {l : List Effect} (hl : Performs u x l u' x') :
    Performs u x (.resetLoop :: l) u' x'

theorem Performs.append {u u' u'' : δ} {x x' x'' : σ} {l l' : List Effect}
    (h : Performs u x l u' x') (h' : Performs u' x' l' u'' x'') :
    Performs u x (l ++ l') u'' x'' := by
  induction h with
  | nil => exact h'
  | request hr _ ih => exact .request hr (ih h')
  | document hd _ ih => exact .document hd (ih h')
  | blank hb _ ih => exact .blank hb (ih h')
  | resetLoop _ ih => exact .resetLoop (ih h')

/-- An update hands over the document that it lists, whatever the renderer is doing. -/
theorem Renderer.performs_update (u : δ) (r : Renderer σ) (artifact : Option Artifact)
    (force : Bool) :
    Performs u r.surface (r.updateEffects artifact force) u (r.update artifact force).2.surface := by
  unfold Renderer.updateEffects
  by_cases hphase : r.phase = .resetting
  · simp only [update, if_pos hphase]
    exact .nil
  cases artifact with
  | none =>
    simp only [update, if_neg hphase]
    exact .nil
  | some a =>
    by_cases hshowing : force = false ∧ r.lastInjected = some a.fingerprint
    · simp only [update, if_neg hphase, if_pos hshowing]
      exact .nil
    · rcases hsurface : Surface.present r.surface (Document.build a.code r.config) with
        ⟨surface, message | ⟨⟩⟩
      · simp only [update, if_neg hphase, if_neg hshowing, inject, hsurface]
        exact .document hsurface .nil
      · simp only [update, if_neg hphase, if_neg hshowing, inject, hsurface]
        exact .document hsurface .nil

namespace Session

variable {incoming : Option Response} {now : Nat} {s t : Session δ σ} {e l : List Effect}

omit [CompileUnit δ] [Surface σ] in
theorem Offers.unit {a : Artifact} (h : s.Offers incoming a t) : t.unit = s.unit := by
  cases h <;> rfl

/-- A move performs its effect. -/
theorem Move.performs (hmove : Move incoming now s e t) :
    Performs s.unit s.renderer.surface e t.unit t.renderer.surface := by
  cases hmove with
  | taken _ hunit => exact .request hunit .nil
  | untaken _ hunit => exact .request hunit .nil
  | kept _ ha => exact ha.unit ▸ ha.renderer ▸ .nil
  | shown ha hsurface => exact ha.unit ▸ .document hsurface .nil
  | refused ha hsurface => exact ha.unit ▸ .document hsurface .nil
  | blanked _ hsurface => exact .blank hsurface .nil
  | unblanked _ hsurface => exact .blank hsurface .nil
  | resetLoop => exact .resetLoop .nil
  | _ => exact .nil

theorem Moves.performs (h : Moves incoming now s l t) :
    Performs s.unit s.renderer.surface l t.unit t.renderer.surface := by
  induction h with
  | refl => exact .nil
  | tail _ hmove ih => exact ih.append hmove.performs

/-- Showing the artifact performs its effects, and so does the reset after a refused document. -/
theorem performs_render (s : Session δ σ) (force : Bool) (now : Nat) :
    Performs s.unit s.renderer.surface (s.renderEffects force now) (s.render force now).unit
      (s.render force now).renderer.surface := by
  have hupdate := s.renderer.performs_update s.unit s.artifact force
  rcases h : s.renderer.update s.artifact force with ⟨_ | _ | message, renderer⟩
  · simpa only [renderEffects, render, h, List.append_nil] using hupdate
  · simpa only [renderEffects, render, h, List.append_nil] using hupdate
  · rw [h] at hupdate
    let refused : Session δ σ :=
      { s with renderer := renderer, error := some (.render message) }
    have hreset : Moves none now refused _ _ := moves_reset refused
    simpa only [renderEffects, render, h] using hupdate.append hreset.performs

/-- An operation performs its effects. -/
theorem performs_operate (s : Session δ σ) (now : Nat) (operation : Operation) :
    Performs s.unit s.renderer.surface (s.operationEffects now operation)
      (s.operate now operation).unit (s.operate now operation).renderer.surface := by
  cases operation with
  | pollTimers =>
    have hmoves : Moves none now s _ _ := moves_pollTimers s
    exact hmoves.performs
  | compileNow force =>
    have hmoves : Moves none now s _ _ := moves_compileNow s force
    exact hmoves.performs
  | refresh => exact performs_render s true now
  | reset =>
    have hmoves : Moves none now s _ _ := moves_reset s
    exact hmoves.performs
  | _ => exact .nil

/-- A response performs its effects. -/
theorem performs_applyResult (s : Session δ σ) (response : Response) (now : Nat) :
    Performs s.unit s.renderer.surface (s.resultEffects response now)
      (s.applyResult response now).unit (s.applyResult response now).renderer.surface := by
  rw [resultEffects, applyResult]
  split
  · exact .nil
  · cases response.outcome with
    | code text =>
      exact performs_render { s with
        lastApplied := some response.sequence
        error := none
        artifact := some (Artifact.ofCode text response.sequence) } false now
    | error message => exact .nil

end Session

/-! ### Runs -/

/-- A run with its history turns one compile unit and surface into others: each operation and each
response performs the effects that the history has at its instant, and apart from that the compile
unit and the surface change in the steps only that are changes of their own. -/
inductive Enacts : δ → σ → List (Nat × Step δ σ) → History → δ → σ → Prop where
  /-- Nothing happens. -/
  | nil {u : δ} {x : σ} : Enacts u x [] [] u x
  /-- The session is asked to do something. -/
  | operate {u u' u'' : δ} {x x' x'' : σ} {now : Nat} {operation : Operation} {l : List Effect}
    {rest : List (Nat × Step δ σ)} {h : History} (hl : Performs u x l u' x')
    (hrest : Enacts u' x' rest h u'' x'') :
    Enacts u x ((now, .operate operation) :: rest) (l.map (now, ·) ++ h) u'' x''
  /-- A response arrives. -/
  | deliver {u u' u'' : δ} {x x' x'' : σ} {now : Nat} {response : Response} {l : List Effect}
    {rest : List (Nat × Step δ σ)} {h : History} (hl : Performs u x l u' x')
    (hrest : Enacts u' x' rest h u'' x'') :
    Enacts u x ((now, .deliver response) :: rest) (l.map (now, ·) ++ h) u'' x''
  /-- The compile unit changes. -/
  | unit {u u' u'' : δ} {x x' : σ} {now : Nat} {rest : List (Nat × Step δ σ)} {h : History}
    (hrest : Enacts u' x rest h u'' x') : Enacts u x ((now, .unit u') :: rest) h u'' x'
  /-- The surface changes. -/
  | surface {u u' : δ} {x x' x'' : σ} {now : Nat} {rest : List (Nat × Step δ σ)} {h : History}
    (hrest : Enacts u x' rest h u' x'') : Enacts u x ((now, .surface x') :: rest) h u' x''

/-- A run enacts its history. -/
theorem Session.enacts_after (s : Session δ σ) (steps : List (Nat × Step δ σ)) :
    Enacts s.unit s.renderer.surface steps (s.history steps) (s.after steps).unit
      (s.after steps).renderer.surface := by
  induction steps generalizing s with
  | nil => exact .nil
  | cons first rest ih =>
    obtain ⟨now, step⟩ := first
    cases step with
    | operate operation => exact .operate (s.performs_operate now operation) (ih _)
    | deliver response => exact .deliver (s.performs_applyResult response now) (ih _)
    | unit unit => exact .unit (ih { s with unit := unit })
    | surface surface =>
      exact .surface (ih { s with renderer := { s.renderer with surface := surface } })

/-! ### Surfaces that show everything -/

/-- A surface after it was handed some documents. -/
def presentAll (x : σ) (htmls : List String) : σ :=
  htmls.foldl (fun x html => (Surface.present x html).1) x

/-- From now on the surface shows every document that it is handed. -/
def ShowsAll (x : σ) : Prop :=
  ∀ htmls html, (Surface.present (presentAll x htmls) html).2 = .ok ()

theorem ShowsAll.present {x : σ} (h : ShowsAll x) (html : String) :
    ∃ y, Surface.present x html = (y, .ok ()) ∧ ShowsAll y :=
  ⟨_, Prod.ext rfl (h [] html), fun htmls => h (html :: htmls)⟩

/-- No document is refused, and none will be. -/
theorem ShowsAll.of_present {x y : σ} (h : ShowsAll x) {html : String}
    {answer : Except String Unit} (hy : Surface.present x html = (y, answer)) :
    answer = .ok () ∧ ShowsAll y := by
  obtain ⟨z, hz, hall⟩ := h.present html
  obtain ⟨rfl, rfl⟩ := Prod.mk.inj (hy.symm.trans hz)
  exact ⟨rfl, hall⟩

/-- A surface that shows every document stays one, whatever is done. -/
theorem Performs.showsAll {u u' : δ} {x x' : σ} {l : List Effect} (h : Performs u x l u' x')
    (hall : ShowsAll x) : ShowsAll x' := by
  induction h with
  | nil => exact hall
  | request _ _ ih => exact ih hall
  | document hd _ ih => exact ih (hall.of_present hd).2
  | blank hb _ ih => exact ih (hall.of_present hb).2
  | resetLoop _ ih => exact ih hall

theorem showsAll_flaky {x : FlakySurface} (h : x.failures = 0) : ShowsAll x := by
  have hall (htmls : List String) : (presentAll x htmls).failures = 0 := by
    induction htmls generalizing x with
    | nil => exact h
    | cons html rest ih => exact ih (by simp [Surface.present, h])
  intro htmls html
  simp [Surface.present, hall htmls]

/-! ### Surfaces that keep what they show -/

/-- A surface that keeps what it shows keeps a document that it accepts. -/
theorem FlakySurface.shown_present {x y : FlakySurface} {html : String}
    {answer : Except String Unit} (h : Surface.present x html = (y, answer)) :
    y.shown = (if answer.isOk then [html] else []) ++ x.shown := by
  cases hfailures : x.failures with
  | zero =>
    simp only [Surface.present, hfailures] at h
    obtain ⟨rfl, rfl⟩ := Prod.mk.inj h
    rfl
  | succ n =>
    simp only [Surface.present, hfailures] at h
    obtain ⟨rfl, rfl⟩ := Prod.mk.inj h
    rfl

/-- Such a surface has kept the documents that were accepted. -/
theorem Performs.shown_flaky {u u' : δ} {x x' : FlakySurface} {l : List Effect}
    (h : Performs u x l u' x') : x'.shown = (l.filterMap Effect.shown?).reverse ++ x.shown := by
  have hkept {x y : FlakySurface} {html : String} {answer : Except String Unit} {e : Effect}
      (hy : Surface.present x html = (y, answer))
      (he : e.shown? = if answer.isOk then some html else none) (l : List Effect) :
      (l.filterMap Effect.shown?).reverse ++ y.shown =
        ((e :: l).filterMap Effect.shown?).reverse ++ x.shown := by
    rw [FlakySurface.shown_present hy]
    cases hanswer : answer.isOk <;> simp [he, hanswer]
  induction h with
  | nil => rfl
  | request _ _ ih => exact ih
  | @document _ _ _ _ _ _ answer _ hd _ ih =>
    exact ih.trans (hkept hd (by cases answer <;> rfl) _)
  | @blank _ _ _ _ _ _ answer _ hb _ ih =>
    exact ih.trans (hkept hb (by cases answer <;> rfl) _)
  | resetLoop _ ih => exact ih

/-- What the history says was shown is what such a surface has kept in a run in which it does not
change on its own. -/
theorem Enacts.shown_flaky {u u' : δ} {x x' : FlakySurface}
    {steps : List (Nat × Step δ FlakySurface)} {h : History} (henacts : Enacts u x steps h u' x')
    (hsurface : ∀ now y, (now, .surface y) ∉ steps) :
    x'.shown = (h.filterMap fun e => e.2.shown?).reverse ++ x.shown := by
  induction henacts with
  | nil => rfl
  | operate hl _ ih =>
    have hrest := ih fun now y hmem => hsurface now y (List.mem_cons_of_mem _ hmem)
    rw [hrest, hl.shown_flaky, List.filterMap_append, List.filterMap_map, List.reverse_append,
      List.append_assoc]
    rfl
  | deliver hl _ ih =>
    have hrest := ih fun now y hmem => hsurface now y (List.mem_cons_of_mem _ hmem)
    rw [hrest, hl.shown_flaky, List.filterMap_append, List.filterMap_map, List.reverse_append,
      List.append_assoc]
    rfl
  | unit _ ih => exact ih fun now y hmem => hsurface now y (List.mem_cons_of_mem _ hmem)
  | surface => exact absurd List.mem_cons_self (hsurface _ _)

end LivePreview
