import LivePreview.Redirection

/-!
# Reasoning about the visit of a module's sources

The rules by which a visit of sources is reasoned about. Each reduces a statement about a visit of
a whole list to one about the visitor at a single relative source: what the visitor keeps and
establishes, how two visitors run side by side, and what the sources are when the outcome of a
source does not hang on the state.

## Main definitions

* `LivePreview.Redirection.put`: a visited source in front.
* `LivePreview.Redirection.redirect`: a source with its outcome.
* `LivePreview.Redirection.Visits`: a visit in which nothing fails, source by source.

## Main results

* `LivePreview.Redirection.run_induct`: what a visitor keeps at each source holds after the visit.
* `LivePreview.Redirection.run_simulates`: visitors that agree step by step give the same result.
* `LivePreview.Redirection.visits_run`: a visit without failure goes on source by source.
* `LivePreview.Redirection.Visits.sources_eq`: the sources when outcomes do not hang on the state.
-/

namespace LivePreview.Redirection

variable {σ τ ε : Type}

/-! ### One source -/

/-- A visited source in front, which is replaced if there is a replacement. -/
def put (source : String) : Option String → Redirection ε → Redirection ε
  | none, r => keep source r
  | some replacement, r => replace replacement r

@[simp] theorem failure_keep (source : String) (r : Redirection ε) :
    (keep source r).failure = r.failure := rfl

@[simp] theorem sources_keep (source : String) (r : Redirection ε) :
    (keep source r).sources = source :: r.sources := rfl

@[simp] theorem failure_put (source : String) (outcome : Option String) (r : Redirection ε) :
    (put source outcome r).failure = r.failure := by
  cases outcome <;> rfl

@[simp] theorem sources_put (source : String) (outcome : Option String) (r : Redirection ε) :
    (put source outcome r).sources = outcome.getD source :: r.sources := by
  cases outcome <;> rfl

section Run

variable {visit : String → StateM σ (Except ε (Option String))} {source : String}
  {rest : List String} {s s' : σ}

@[simp] theorem run_nil : run visit [] s = (⟨[], 0, none⟩, s) := rfl

theorem run_cons_of_not_relative (h : relative source = false) :
    run visit (source :: rest) s =
      (keep source (run visit rest s).1, (run visit rest s).2) := by
  rw [run, h]
  rfl

theorem run_cons_of_error (h : relative source = true) {e : ε}
    (hv : visit source s = (.error e, s')) :
    run visit (source :: rest) s = (⟨source :: rest, 0, some e⟩, s') := by
  rw [run, if_pos h]
  simp only [bind, StateT.bind, hv]
  rfl

theorem run_cons_of_ok (h : relative source = true) {outcome : Option String}
    (hv : visit source s = (.ok outcome, s')) :
    run visit (source :: rest) s =
      (put source outcome (run visit rest s').1, (run visit rest s').2) := by
  rw [run, if_pos h]
  simp only [bind, StateT.bind, hv]
  cases outcome <;> rfl

end Run

/-! ### Invariants -/

/-- What a visitor keeps at each relative source holds after the visit of a list, what it
establishes holds for each of them if nothing fails, and else what it tells of its failures holds
for the one that ended the visit. -/
theorem run_induct (visit : String → StateM σ (Except ε (Option String))) (I : σ → Prop)
    (Q : String → Prop) (E : ε → Prop) {l : List String}
    (hvisit : ∀ source ∈ l, relative source = true → ∀ s, I s → I (visit source s).2 ∧
      ((∃ outcome, (visit source s).1 = .ok outcome) → Q source) ∧
      ∀ e, (visit source s).1 = .error e → E e)
    {s : σ} (hs : I s) :
    I (run visit l s).2 ∧
      ((run visit l s).1.failure = none → ∀ source ∈ l, relative source = true → Q source) ∧
      ∀ e, (run visit l s).1.failure = some e → E e := by
  induction l generalizing s with
  | nil => exact ⟨hs, by simp, by simp⟩
  | cons source rest ih =>
    have hrest := fun x hx => hvisit x (List.mem_cons_of_mem source hx)
    cases hrel : relative source with
    | false =>
      obtain ⟨hI, hQ, hE⟩ := ih hrest hs
      rw [run_cons_of_not_relative hrel]
      refine ⟨hI, fun hf x hx hx' => ?_, hE⟩
      rcases List.mem_cons.1 hx with rfl | hx
      · simp [hrel] at hx'
      · exact hQ hf x hx hx'
    | true =>
      obtain ⟨hI, hQ, hE⟩ := hvisit source List.mem_cons_self hrel s hs
      rcases hv : visit source s with ⟨e | outcome, s'⟩
      · rw [run_cons_of_error hrel hv]
        rw [hv] at hI hE
        exact ⟨hI, by simp, by simpa using hE e rfl⟩
      · rw [run_cons_of_ok hrel hv]
        rw [hv] at hI hQ
        obtain ⟨hI', hQ', hE'⟩ := ih hrest hI
        refine ⟨hI', fun hf x hx hx' => ?_, by simpa using hE'⟩
        rcases List.mem_cons.1 hx with rfl | hx
        · exact hQ ⟨outcome, rfl⟩
        · exact hQ' (by simpa using hf) x hx hx'

/-- What holds of the state after each visit holds before, if single visits inherit it so. -/
theorem of_snd_run {visit : String → StateM σ (Except ε (Option String))} {P : σ → Prop}
    {l : List String} (hP : ∀ source ∈ l, ∀ s, P (visit source s).2 → P s) {s : σ}
    (hlast : P (run visit l s).2) : P s := by
  induction l generalizing s with
  | nil => exact hlast
  | cons source rest ih =>
    have hP' := fun x hx => hP x (List.mem_cons_of_mem source hx)
    have hsource := hP source List.mem_cons_self s
    cases hrel : relative source with
    | false =>
      rw [run_cons_of_not_relative hrel] at hlast
      exact ih hP' hlast
    | true =>
      rcases hv : visit source s with ⟨e | outcome, s'⟩ <;> rw [hv] at hsource
      · rw [run_cons_of_error hrel hv] at hlast
        exact hsource hlast
      · rw [run_cons_of_ok hrel hv] at hlast
        exact hsource (ih hP' hlast)

/-! ### Outcomes -/

/-- A source with its outcome: a relative one that has a replacement is replaced. -/
def redirect (out : String → Except ε (Option String)) (source : String) : String :=
  if relative source then
    match out source with
    | .ok outcome => outcome.getD source
    | .error _ => source
  else source

/-- Only the outcome of a relative source counts. -/
theorem redirect_congr {out out' : String → Except ε (Option String)} {source : String}
    (h : relative source = true → out source = out' source) :
    redirect out source = redirect out' source := by
  rw [redirect, redirect]
  cases hrel : relative source with
  | false => rfl
  | true => rw [h hrel]

/-- If outcomes do not hang on the state, a visit succeeds if no relative source fails. -/
theorem failure_run_eq_none_iff {visit : String → StateM σ (Except ε (Option String))}
    {out : String → Except ε (Option String)} {l : List String}
    (hout : ∀ source ∈ l, relative source = true → ∀ s, (visit source s).1 = out source) {s : σ} :
    (run visit l s).1.failure = none ↔
      ∀ source ∈ l, relative source = true → ∃ outcome, out source = .ok outcome := by
  induction l generalizing s with
  | nil => simp
  | cons source rest ih =>
    have hrest := fun x hx => hout x (List.mem_cons_of_mem source hx)
    cases hrel : relative source with
    | false =>
      rw [run_cons_of_not_relative hrel, failure_keep, ih hrest]
      simp [hrel]
    | true =>
      have hsource := hout source List.mem_cons_self hrel s
      rcases hv : visit source s with ⟨e | outcome, s'⟩ <;> rw [hv] at hsource
      · rw [run_cons_of_error hrel hv]
        simp [hrel, ← hsource]
      · rw [run_cons_of_ok hrel hv, failure_put, ih hrest]
        simp [hrel, ← hsource]

/-! ### Visits without failure -/

/-- A visit of a list of sources in which nothing fails, with the sources and the state after it. -/
inductive Visits (visit : String → StateM σ (Except ε (Option String))) :
    List String → σ → List String → σ → Prop where
  /-- Nothing is left to visit. -/
  | nil {s : σ} : Visits visit [] s [] s
  /-- A source that is not relative stays as it is. -/
  | keep {source : String} {rest out : List String} {s s' : σ} (h : relative source = false)
    (hrest : Visits visit rest s out s') : Visits visit (source :: rest) s (source :: out) s'
  /-- A relative source gets an outcome. -/
  | step {source : String} {rest out : List String} {s t s' : σ} {outcome : Option String}
    (h : relative source = true) (hv : visit source s = (.ok outcome, t))
    (hrest : Visits visit rest t out s') :
    Visits visit (source :: rest) s (outcome.getD source :: out) s'

section Visits

variable {visit : String → StateM σ (Except ε (Option String))} {l out : List String} {s s' : σ}

/-- A visit without failure goes on source by source. -/
theorem visits_run (hf : (run visit l s).1.failure = none) :
    Visits visit l s (run visit l s).1.sources (run visit l s).2 := by
  induction l generalizing s with
  | nil => exact .nil
  | cons source rest ih =>
    cases hrel : relative source with
    | false =>
      rw [run_cons_of_not_relative hrel] at hf ⊢
      exact .keep hrel (ih hf)
    | true =>
      rcases hv : visit source s with ⟨e | outcome, t⟩
      · rw [run_cons_of_error hrel hv] at hf
        cases hf
      · rw [run_cons_of_ok hrel hv] at hf ⊢
        rw [sources_put]
        exact .step hrel hv (ih (by simpa using hf))

/-- What each visit that gives an outcome keeps holds at the end. -/
theorem Visits.induct {I : σ → Prop} (h : Visits visit l s out s')
    (hvisit : ∀ source s outcome t, I s → visit source s = (.ok outcome, t) → I t) (hs : I s) :
    I s' := by
  induction h with
  | nil => exact hs
  | keep _ _ ih => exact ih hs
  | step _ hv _ ih => exact ih (hvisit _ _ _ _ hs hv)

/-- What each visit may only add to the state holds at the end if it held before or was added at one
of the sources. -/
theorem Visits.snd_iff (h : Visits visit l s out s') (H : σ → Prop) (A : String → Prop)
    (hvisit : ∀ source ∈ l, relative source = true → ∀ s, H (visit source s).2 ↔ H s ∨ A source) :
    H s' ↔ H s ∨ ∃ source ∈ l, relative source = true ∧ A source := by
  induction h with
  | nil => simp
  | keep hrel _ ih =>
    rw [ih fun x hx => hvisit x (List.mem_cons_of_mem _ hx)]
    simp [hrel]
  | @step source rest out s t s' outcome hrel hv _ ih =>
    have hsource := hvisit source List.mem_cons_self hrel s
    rw [hv] at hsource
    rw [ih fun x hx => hvisit x (List.mem_cons_of_mem _ hx), hsource]
    simp [hrel, or_assoc]

/-- If outcomes do not hang on the state, each source is redirected. -/
theorem Visits.sources_eq (h : Visits visit l s out s')
    {outcomeOf : String → Except ε (Option String)}
    (hout : ∀ source ∈ l, relative source = true →
      ∀ s, (visit source s).1 = outcomeOf source) : out = l.map (redirect outcomeOf) := by
  induction h with
  | nil => rfl
  | keep hrel _ ih =>
    rw [ih fun x hx => hout x (List.mem_cons_of_mem _ hx)]
    simp [redirect, hrel]
  | @step source rest out s t s' outcome hrel hv _ ih =>
    have hsource := hout source List.mem_cons_self hrel s
    rw [hv] at hsource
    rw [ih fun x hx => hout x (List.mem_cons_of_mem _ hx)]
    simp [redirect, hrel, ← hsource]

end Visits

/-! ### Two visits -/

/-- Two visitors that give the same outcome at each relative source give the same result for a
list. `R` relates their states on the way. The agreement at a source is only asked for if the
visit goes on with an outcome or with a failure that `B` allows, and if the state after it
satisfies `P`, which must be inherited by the states before. -/
theorem run_simulates (visit : String → StateM σ (Except ε (Option String)))
    (visit' : String → StateM τ (Except ε (Option String))) (R : σ → τ → Prop) (P : σ → Prop)
    (B : ε → Prop) {l : List String}
    (hP : ∀ source ∈ l, ∀ s, P (visit source s).2 → P s)
    (hvisit : ∀ source ∈ l, relative source = true → ∀ s t, R s t → P (visit source s).2 →
      (∀ e, (visit source s).1 = .error e → B e) →
        (visit' source t).1 = (visit source s).1 ∧ R (visit source s).2 (visit' source t).2)
    {s : σ} {t : τ} (hst : R s t) (hlast : P (run visit l s).2)
    (hB : ∀ e, (run visit l s).1.failure = some e → B e) :
    (run visit' l t).1 = (run visit l s).1 ∧ R (run visit l s).2 (run visit' l t).2 := by
  induction l generalizing s t with
  | nil => exact ⟨rfl, hst⟩
  | cons source rest ih =>
    have hP' := fun x hx => hP x (List.mem_cons_of_mem source hx)
    have hrest := fun x hx => hvisit x (List.mem_cons_of_mem source hx)
    cases hrel : relative source with
    | false =>
      rw [run_cons_of_not_relative hrel] at hlast hB
      obtain ⟨hr, hR⟩ := ih hP' hrest hst hlast hB
      rw [run_cons_of_not_relative hrel, run_cons_of_not_relative hrel, hr]
      exact ⟨rfl, hR⟩
    | true =>
      have hsource := hvisit source List.mem_cons_self hrel s t hst
      rcases hv : visit source s with ⟨e | outcome, s'⟩ <;>
        rcases hv' : visit' source t with ⟨r', t'⟩
      · rw [run_cons_of_error hrel hv] at hlast hB ⊢
        rw [hv, hv'] at hsource
        obtain ⟨rfl, hR⟩ := hsource hlast fun e' he => hB e' (by simpa using he)
        rw [run_cons_of_error hrel hv']
        exact ⟨rfl, hR⟩
      · rw [run_cons_of_ok hrel hv] at hlast hB ⊢
        have hs' : P s' := of_snd_run hP' hlast
        rw [hv, hv'] at hsource
        obtain ⟨rfl, hR⟩ := hsource hs' (by simp)
        obtain ⟨hr, hR'⟩ := ih hP' hrest hR hlast (by simpa using hB)
        rw [run_cons_of_ok hrel hv', hr]
        exact ⟨rfl, hR'⟩

end LivePreview.Redirection
