import LivePreview.Proofs.Session.LoopErrors

/-!
# Attempts that come to nothing

Most compile attempts hand nothing over: the compile unit is not ready, the content is the one
dispatched last, or the guard trips or is cooling down. Such an attempt may be made again later, so
it must not use anything up. What it leaves is a guard that has counted it, and an error that says
why it came to nothing.

A request that is handed over and not taken is another matter. By then the session has given up what
was waiting and the artifact, and has used a number. What it does not do is remember the content, so
that the next attempt does not take it for dispatched.

## Main results

* `LivePreview.Session.Ends.of_not_handed`: an attempt that hands nothing over changes the guard and
  the error slot at most.
* `LivePreview.Session.lastDispatched_after`: what was forgotten stays forgotten until a request is
  taken.
* `LivePreview.Session.refused_attempt`: what an attempt leaves that hands nothing over, or whose
  request is not taken.
-/

namespace LivePreview

namespace Session

variable {δ σ : Type} [CompileUnit δ] {now : Nat} {s t : Session δ σ} {l r : Record}

/-! ### One attempt -/

/-- Whether a request is handed over, and whether it is taken, is told by the effects. -/
theorem compileEffects_eq (s : Session δ σ) (force : Bool) (now : Nat) :
    s.compileEffects force now =
      match s.ending force now with
      | .handed request taken => [.request request taken]
      | _ => [] := by
  rw [compileEffects, ending]
  cases (s.scheduler.attempt s.files force (CompileUnit.ready s.unit) now).1 <;> rfl

/-- An attempt that hands nothing over changes the guard and the error slot at most. An error says
that the compile unit is not ready or that the guard was tripped, and the guard changes only if it
counts the attempt. -/
theorem Ends.of_not_handed {force : Bool} {ending : Ending} (h : Ends now force s ending t)
    (hending : ∀ request taken, ending ≠ .handed request taken) :
    ∃ guard error,
      t = { s with scheduler := { s.scheduler with guard := guard }, error := error } ∧
      (error = s.error ∨
        error = some .notReady ∧ CompileUnit.ready s.unit = false ∨
        error = some .compileLoop ∧ CompileUnit.ready s.unit = true ∧
          (s.scheduler.guard.check now).1 = .tripped) ∧
      (CompileUnit.ready s.unit = false ∨ (s.scheduler.guard.check now).1 = .suppressed →
        guard = s.scheduler.guard) := by
  cases h with
  | notReady hready => exact ⟨_, _, rfl, .inr (.inl ⟨rfl, hready⟩), fun _ => rfl⟩
  | loopDetected hready hg =>
    exact ⟨_, _, rfl, .inr (.inr ⟨rfl, hready, by rw [hg]⟩), by simp [hready, hg]⟩
  | suppressed => exact ⟨_, _, rfl, .inl rfl, fun _ => rfl⟩
  | unchanged hready hg => exact ⟨_, _, rfl, .inl rfl, by simp [hready, hg]⟩
  | taken => exact absurd rfl (hending _ _)
  | untaken => exact absurd rfl (hending _ _)

/-- A request that is not taken leaves no content to be remembered. -/
theorem Ends.lastDispatched_of_untaken {force : Bool} {request : Request}
    (h : Ends now force s (.handed request false) t) : t.scheduler.lastDispatched = none := by
  cases h
  rfl

/-- When nothing is remembered, an attempt that is let through hands the files over, and a compile
unit that takes requests takes them. -/
theorem Ends.taken_of_forgotten {force : Bool} {ending : Ending} (h : Ends now force s ending t)
    (hforgotten : s.scheduler.lastDispatched = none) (hready : CompileUnit.ready s.unit = true)
    (hopen : (CompileUnit.dispatch s.unit ⟨s.nextSequence, s.files⟩).2 = .ok ())
    (hallowed : (s.scheduler.guard.check now).1 = .allowed) :
    ending = .handed ⟨s.nextSequence, s.files⟩ true ∧
      t.unit = (CompileUnit.dispatch s.unit ⟨s.nextSequence, s.files⟩).1 := by
  cases h with
  | notReady hnot => exact nomatch hready.symm.trans hnot
  | loopDetected _ hg => exact nomatch hallowed.symm.trans (congrArg Prod.fst hg)
  | suppressed _ hg => exact nomatch hallowed.symm.trans (congrArg Prod.fst hg)
  | unchanged _ _ hsame => exact nomatch hforgotten.symm.trans hsame
  | taken _ _ _ hunit => exact ⟨rfl, (congrArg Prod.fst hunit).symm⟩
  | untaken _ _ _ hunit => exact nomatch hopen.symm.trans (congrArg Prod.snd hunit)

/-! ### What stays forgotten -/

variable [Surface σ]

/-- Nothing is remembered, unless a request was taken. -/
def Forgotten (l : Record) (s : Session δ σ) : Prop :=
  l.taken = [] → s.scheduler.lastDispatched = none

/-- No part of a step brings back what was forgotten, but for a request that is taken. -/
theorem Forgotten.part (hs : Forgotten l s) (h : Part now s r t) : Forgotten (l ++ r) t := by
  intro htaken
  rw [Record.taken, List.filterMap_append, List.append_eq_nil_iff] at htaken
  have hnone := hs htaken.1
  cases h with
  | compile h =>
    cases h with
    | taken => exact absurd htaken.2 (by simp [Attempt.taken?])
    | untaken => rfl
    | _ => exact hnone
  | reset h =>
    cases h with
    | resetLoop => rfl
    | _ => exact hnone
  | compileCooled =>
    rw [dismiss_eq]
    exact hnone
  | resetCooled =>
    rw [dismiss_eq]
    exact hnone
  | other h => exact h.lastDispatched.trans hnone

/-- What was forgotten stays forgotten over a run in which no request is taken. -/
theorem lastDispatched_after (hnone : s.scheduler.lastDispatched = none)
    {steps : List (Nat × Step δ σ)} (htaken : (s.history steps).taken = []) :
    (s.after steps).scheduler.lastDispatched = none := by
  have hrun := record_induct (P := Forgotten) (l := []) Forgotten.part (fun _ => hnone) steps
  exact hrun (by rw [List.nil_append, taken_record, htaken])

/-! ### Refused attempts -/

/-- In every state: a compile attempt that hands nothing over leaves the session as it is, but for
an error that tells why, and a guard that has counted it. An attempt whose request is not taken
leaves nothing remembered; after it, and as long as no request is taken, an attempt with whatever
files hands them over if the compile unit is ready and takes them and the guard lets it through. -/
theorem refused_attempt (s : Session δ σ) (force : Bool) (now : Nat) :
    (s.compileEffects force now = [] →
      ∃ guard error,
        s.compileNow force now =
          { s with scheduler := { s.scheduler with guard := guard }, error := error } ∧
        (error = s.error ∨
          error = some .notReady ∧ CompileUnit.ready s.unit = false ∨
          error = some .compileLoop ∧ CompileUnit.ready s.unit = true ∧
            (s.scheduler.guard.check now).1 = .tripped) ∧
        (CompileUnit.ready s.unit = false ∨ (s.scheduler.guard.check now).1 = .suppressed →
          guard = s.scheduler.guard)) ∧
    ∀ request, s.compileEffects force now = [.request request false] →
      (s.compileNow force now).scheduler.lastDispatched = none ∧
      ∀ (steps : List (Nat × Step δ σ)) (later : Nat) (files : FileSet),
        let t := (s.compileNow force now).after steps
        ((s.compileNow force now).history steps).taken = [] →
        CompileUnit.ready t.unit = true →
        (CompileUnit.dispatch t.unit ⟨t.nextSequence, files⟩).2 = .ok () →
        (t.scheduler.guard.check later).1 = .allowed →
          (t.setFiles files).compileEffects false later =
              [.request ⟨t.nextSequence, files⟩ true] ∧
            ((t.setFiles files).compileNow false later).unit =
              (CompileUnit.dispatch t.unit ⟨t.nextSequence, files⟩).1 := by
  have hends := ends_compileNow s force now
  have heffects := compileEffects_eq s force now
  constructor
  · intro hnone
    refine hends.of_not_handed fun request taken hending => ?_
    rw [hending] at heffects
    exact nomatch hnone.symm.trans heffects
  · intro request hrequest
    have hforgotten : (s.compileNow force now).scheduler.lastDispatched = none := by
      cases hending : s.ending force now with
      | handed request' taken =>
        rw [hending] at heffects hends
        obtain ⟨-, rfl⟩ : request = request' ∧ false = taken := by
          simpa using hrequest.symm.trans heffects
        exact hends.lastDispatched_of_untaken
      | _ =>
        rw [hending] at heffects
        exact nomatch hrequest.symm.trans heffects
    refine ⟨hforgotten, fun steps later files => ?_⟩
    intro t htaken hready hopen hallowed
    have hlater : (t.setFiles files).scheduler.lastDispatched = none :=
      lastDispatched_after hforgotten htaken
    obtain ⟨hending, hunit⟩ := (ends_compileNow (t.setFiles files) false
      later).taken_of_forgotten hlater hready hopen hallowed
    refine ⟨?_, hunit⟩
    rw [compileEffects_eq, hending]
    rfl

/-- A session whose compile unit takes no requests. -/
def closedStart : Session (RecordingUnit Script.engine) FlakySurface :=
  start strict ⟨true, true, none, [], []⟩ FlakySurface.blank NameMap.empty

/-- The compile unit takes requests again. -/
def reopening : List (Nat × Step (RecordingUnit Script.engine) FlakySurface) :=
  [(10, .unit (RecordingUnit.start none))]

/-- An attempt that trips the guard leaves its error and the guard, and a request that was not taken
is handed over again, with the files unchanged, when the compile unit takes requests again. -/
theorem refused_attempt_reopening :
    (∃ guard error, (strictStart.after looping) =
      { strictStart.compileNow true 0 with
        scheduler := { (strictStart.compileNow true 0).scheduler with guard := guard }
        error := error }) ∧
    closedStart.compileEffects false 0 = [.request ⟨1, NameMap.empty⟩ false] ∧
    (((closedStart.compileNow false 0).after reopening).setFiles NameMap.empty).compileEffects
      false 2000 = [.request ⟨2, NameMap.empty⟩ true] := by
  have hnothing : (strictStart.compileNow true 0).compileEffects true 10 = [] := by
    decide +kernel
  obtain ⟨guard, error, hloop, -⟩ := (refused_attempt (strictStart.compileNow true 0) true
    10).1 hnothing
  have huntaken : closedStart.compileEffects false 0 = [.request ⟨1, NameMap.empty⟩ false] := by
    decide +kernel
  have hagain := ((refused_attempt closedStart false 0).2 _ huntaken).2 reopening 2000
    NameMap.empty (by decide +kernel) rfl rfl (by decide +kernel)
  exact ⟨⟨guard, error, hloop⟩, huntaken, hagain.1⟩

end Session

end LivePreview
