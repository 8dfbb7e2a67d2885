import LivePreview.Proofs.Session.Deliveries
import LivePreview.Proofs.Session.Dispatches
import LivePreview.Proofs.Session.LoopErrors

/-!
# The way of an edit

An edit waits for its delay, and then one compile attempt is made for it. With a compile unit that
takes every request and a surface that shows every document, an attempt ends in one of four ways:
its request is taken, its content is the one dispatched last, it trips its guard, or it is
suppressed while the guard cools down. In the first two the last request that was taken is for the
current files. An attempt that the guard stops is not made again, though, not even when the cooldown
is over and the error of the guard is gone: its edit reaches the compile unit only with a later one.

## Main definitions

* `LivePreview.TakesAll`: a compile unit that takes every request from now on.
* `LivePreview.Step.Editing`: new files, timers and responses.
* `LivePreview.Session.Editable`: a session between such a unit and a surface that shows everything.
* `LivePreview.Session.UpToDate`: the last request that was taken is for the current files.
* `LivePreview.Session.Covered`: no edit is lost but for the guard.

## Main results

* `LivePreview.Session.covered_pollTimers`, `LivePreview.Session.covered_applyResult`: timers and
  responses lose no edit but for the guard.
* `LivePreview.Session.upToDate_of_edits`: after some edits, once nothing waits, the last request
  that was taken is for the current files, unless the guard stopped the last attempt.
* `LivePreview.Session.edit_lost`: an edit whose attempt trips the guard may be lost.
-/

namespace LivePreview

/-! ### Compile units that take everything -/

section

variable {δ : Type} [CompileUnit δ]

/-- A compile unit after it was handed some requests. -/
def handAll (u : δ) (requests : List Request) : δ :=
  requests.foldl (fun u r => (CompileUnit.dispatch u r).1) u

/-- From now on the compile unit is ready and takes every request that it is handed. -/
def TakesAll (u : δ) : Prop :=
  ∀ requests, CompileUnit.ready (handAll u requests) = true ∧
    ∀ r, (CompileUnit.dispatch (handAll u requests) r).2 = .ok ()

theorem TakesAll.ready {u : δ} (h : TakesAll u) : CompileUnit.ready u = true :=
  (h []).1

/-- A request is taken, and the next ones will be. -/
theorem TakesAll.of_dispatch {u v : δ} (h : TakesAll u) {r : Request}
    {answer : Except DispatchError Unit} (hv : CompileUnit.dispatch u r = (v, answer)) :
    answer = .ok () ∧ TakesAll v := by
  have hfirst := (h []).2 r
  refine ⟨by simpa [handAll, hv] using hfirst, fun requests => ?_⟩
  simpa [handAll, hv] using h (r :: requests)

/-- A compile unit that takes every request stays one, whatever is done. -/
theorem Performs.takesAll {σ : Type} [Surface σ] {u u' : δ} {x x' : σ} {l : List Effect}
    (h : Performs u x l u' x') (hu : TakesAll u) : TakesAll u' := by
  induction h with
  | nil => exact hu
  | request hr _ ih => exact ih (hu.of_dispatch hr).2
  | document _ _ ih => exact ih hu
  | blank _ _ ih => exact ih hu
  | resetLoop _ ih => exact ih hu

end

theorem takesAll_recording {engine : Engine} {u : RecordingUnit engine} (hready : u.ready = true)
    (hclosed : u.closed = false) : TakesAll u := by
  have htake (u : RecordingUnit engine) (r : Request) :
      (u.take r).ready = u.ready ∧ (u.take r).closed = u.closed := by
    rw [RecordingUnit.take]
    cases u.transformer <;> exact ⟨rfl, rfl⟩
  have hall (requests : List Request) :
      (handAll u requests).ready = true ∧ (handAll u requests).closed = false := by
    induction requests generalizing u with
    | nil => exact ⟨hready, hclosed⟩
    | cons r rest ih =>
      have hnext : (CompileUnit.dispatch u r).1 = u.take r := by
        simp [CompileUnit.dispatch, hclosed]
      obtain ⟨hready', hclosed'⟩ := htake u r
      have hrest := ih (u := u.take r) (hready' ▸ hready) (hclosed' ▸ hclosed)
      simpa [handAll, hnext] using hrest
  intro requests
  obtain ⟨hready, hclosed⟩ := hall requests
  exact ⟨hready, fun r => by simp [CompileUnit.dispatch, hclosed]⟩

/-! ### Steps of editing -/

/-- There are new files, timers are due or a response arrives. -/
inductive Step.Editing {δ σ : Type} : Step δ σ → Prop where
  /-- There are new files. -/
  | filesChanged (files : FileSet) : Editing (.operate (.filesChanged files))
  /-- Timers are due. -/
  | pollTimers : Editing (.operate .pollTimers)
  /-- A response arrives. -/
  | deliver (response : Response) : Editing (.deliver response)

namespace Session

variable {δ σ : Type} [CompileUnit δ] [Surface σ] {s t : Session δ σ} {l : Record} {now : Nat}

/-- The last request that was taken is for the current files. -/
def UpToDate (l : Record) (s : Session δ σ) : Prop :=
  ∃ q, l.taken.getLast? = some q ∧ q.files.fingerprint = s.files.fingerprint

/-- An edit waits, or the guard stopped the last attempt, or the last request that was taken is for
the current files. -/
def Covered (l : Record) (s : Session δ σ) : Prop :=
  s.scheduler.pending ≠ none ∨ (∃ ending, l.lastEnding = some ending ∧ ending.refused = true) ∨
    UpToDate l s

/-- A session with a compile unit that takes everything and a surface that shows everything. -/
structure Editable (l : Record) (s : Session δ σ) : Prop where
  /-- The renderer is idle. -/
  phase : s.renderer.phase = .idle
  /-- The surface shows everything. -/
  showsAll : ShowsAll s.renderer.surface
  /-- The compile unit takes everything. -/
  takesAll : TakesAll s.unit
  /-- The session remembers what the record leaves. -/
  dispatched : Dispatched l s

/-! ### Responses -/

omit [CompileUnit δ] in
/-- A surface that shows everything refuses no artifact. -/
theorem update_ne_failed {x : Renderer σ} (hall : ShowsAll x.surface) (artifact : Option Artifact)
    (force : Bool) (message : String) : (x.update artifact force).1 ≠ .failed message := by
  cases artifact with
  | none =>
    simp only [Renderer.update]
    split <;> simp
  | some a =>
    obtain ⟨surface, hsurface, -⟩ := hall.present (Document.build a.code x.config)
    simp only [Renderer.update, Renderer.inject, hsurface]
    split
    · simp
    · split <;> simp

/-- What a surface shows that shows everything leads to no attempt. -/
theorem resultRecord_of_showsAll (hall : ShowsAll s.renderer.surface) (response : Response)
    (now : Nat) : s.resultRecord response now = [] := by
  have hrender {t : Session δ σ} (ht : ShowsAll t.renderer.surface) :
      t.renderRecord false now = [] := by
    rw [renderRecord]
    rcases hupdate : t.renderer.update t.artifact false with ⟨_ | _ | message, renderer⟩
    · rfl
    · rfl
    · exact absurd (congrArg Prod.fst hupdate) (update_ne_failed ht _ _ message)
  rw [resultRecord]
  split
  · rfl
  · cases response.outcome with
    | code text => exact hrender hall
    | error message => rfl

/-- Responses lose no edit. -/
theorem covered_applyResult (hs : Editable l s) (hcovered : Covered l s) (response : Response)
    (now : Nat) :
    Covered (l ++ s.resultRecord response now) (s.applyResult response now) := by
  obtain ⟨-, -, hfiles, hscheduler⟩ := applyResult_frame hs.phase hs.showsAll response now
  rw [resultRecord_of_showsAll hs.showsAll, List.append_nil, Covered, UpToDate, hfiles, hscheduler]
  exact hcovered

/-! ### Timers -/

omit [Surface σ] in
/-- A compile attempt that the guard does not stop leaves nothing to be taken: its own request is
taken, or the last one was for the same content. -/
theorem Ends.upToDate {force : Bool} {ending : Ending} (h : Ends now force s ending t)
    (htakes : TakesAll s.unit) (hs : Dispatched l s) :
    ending.refused = true ∨ UpToDate (l ++ [.compile force ending]) t := by
  cases h with
  | notReady hready => exact absurd htakes.ready (by simp [hready])
  | loopDetected => exact .inl rfl
  | suppressed => exact .inl rfl
  | unchanged _ _ hsame =>
    have hlast : l.taken.getLast?.map (·.files.fingerprint) = some s.files.fingerprint := by
      rcases hs.taken with hnone | hlast
      · exact nomatch hnone.symm.trans hsame
      · exact hlast.symm.trans hsame
    obtain ⟨q, hq, hfingerprint⟩ := Option.map_eq_some_iff.1 hlast
    exact .inr ⟨q, by simpa [Record.taken_concat, Attempt.taken?] using hq, hfingerprint⟩
  | taken =>
    exact .inr ⟨⟨s.nextSequence, s.files⟩, by simp [Record.taken_concat, Attempt.taken?], rfl⟩
  | untaken _ _ _ hunit => exact nomatch (htakes.of_dispatch hunit).1

/-- Timers lose no edit but for the guard. -/
theorem covered_pollTimers (hs : Editable l s) (hcovered : Covered l s) (now : Nat) :
    Covered (l ++ s.timerRecord now) (s.pollTimers now) := by
  have h := cooled_cooldowns s now
  rw [timerRecord, pollTimers]
  generalize (s.cooldownCompile now).cooldownReset now = cooled at h ⊢
  rcases compileDue_cases cooled now with ⟨-, hsame, hrecord⟩ | ⟨p, -, -, hcompile, hrecord⟩
  · rw [hsame, hrecord, List.append_nil, Covered, UpToDate, h.pending, h.files]
    exact hcovered
  · let due : Session δ σ := { cooled with scheduler := cooled.scheduler.cancel }
    have hdue : Dispatched l due := by
      simpa using hs.dispatched.frame (t := due) h.lastDispatched h.nextSequence
    rw [hcompile, hrecord]
    rcases (ends_compileNow due p.force now).upToDate (h.unit ▸ hs.takesAll) hdue with
      hrefused | htaken
    · exact .inr (.inl ⟨due.ending p.force now, Record.lastEnding_concat _ _ _, hrefused⟩)
    · exact .inr (.inr htaken)

/-! ### Runs -/

/-- Steps of editing keep the compile unit and the surface as they have to be. -/
theorem Editable.step (hs : Editable l s) {step : Step δ σ} (hstep : step.Editing) (now : Nat) :
    Editable (l ++ s.stepRecord now step) (s.step now step) := by
  have hperforms : Performs s.unit s.renderer.surface (s.effects now step) (s.step now step).unit
      (s.step now step).renderer.surface := by
    cases hstep with
    | filesChanged files => exact performs_operate s now (.filesChanged files)
    | pollTimers => exact performs_operate s now .pollTimers
    | deliver response => exact performs_applyResult s response now
  refine ⟨phase_after hs.phase [(now, step)], hperforms.showsAll hs.showsAll,
    hperforms.takesAll hs.takesAll, ?_⟩
  have hrun := record_induct (P := Dispatched) Dispatched.part hs.dispatched [(now, step)]
  simpa [record, after] using hrun

/-- Steps of editing lose no edit but for the guard. -/
theorem Covered.step (hcovered : Covered l s) (hs : Editable l s) {step : Step δ σ}
    (hstep : step.Editing) (now : Nat) :
    Covered (l ++ s.stepRecord now step) (s.step now step) := by
  cases hstep with
  | filesChanged files => exact .inl (Option.some_ne_none _)
  | pollTimers => exact covered_pollTimers hs hcovered now
  | deliver response => exact covered_applyResult hs hcovered response now

/-- Runs of editing lose no edit but for the guard. -/
theorem covered_after (hs : Editable l s) {steps : List (Nat × Step δ σ)}
    (hsteps : ∀ e ∈ steps, e.2.Editing)
    (hedit : Covered l s ∨ ∃ now files, (now, .operate (.filesChanged files)) ∈ steps) :
    Covered (l ++ s.record steps) (s.after steps) := by
  induction steps generalizing l s with
  | nil =>
    have hcovered : Covered l s := hedit.resolve_right (by simp)
    simpa [record, after] using hcovered
  | cons first rest ih =>
    obtain ⟨now, step⟩ := first
    have hfirst : step.Editing := hsteps (now, step) List.mem_cons_self
    have hrest := ih (hs.step hfirst now) (fun e he => hsteps e (List.mem_cons_of_mem _ he)) <| by
      rcases hedit with hcovered | ⟨later, files, hmem⟩
      · exact .inl (hcovered.step hs hfirst now)
      · rcases List.mem_cons.1 hmem with heq | hmem
        · obtain ⟨-, rfl⟩ := Prod.mk.inj heq
          exact .inl (.inl (Option.some_ne_none _))
        · exact .inr ⟨later, files, hmem⟩
    simpa [record, after] using hrest

/-- In every state after some edits, with a compile unit that is ready and takes every request and a
surface that shows every document: the compile unit was handed the requests of the history and no
others; and once nothing waits, the last request that was taken is for the current files, up to
their fingerprint, unless the guard stopped the last compile attempt. -/
theorem upToDate_of_edits (config : Config) {unit : δ} (hunit : TakesAll unit) {surface : σ}
    (hsurface : ShowsAll surface) (files : FileSet) {steps : List (Nat × Step δ σ)}
    (hsteps : ∀ e ∈ steps, e.2.Editing)
    (hedit : ∃ now files, (now, .operate (.filesChanged files)) ∈ steps) :
    let s := (start config unit surface files).after steps
    let h := (start config unit surface files).history steps
    let record := (start config unit surface files).record steps
    Enacts unit surface steps h s.unit s.renderer.surface ∧
      (s.scheduler.pending = none →
        (∀ ending, record.lastEnding = some ending → ending.refused = false) →
          ∃ q, h.taken.getLast? = some q ∧ q.files.fingerprint = s.files.fingerprint) := by
  intro s h record
  refine ⟨enacts_after (start config unit surface files) steps, fun hpending hrefused => ?_⟩
  have hstart : Editable [] (start config unit surface files) :=
    ⟨rfl, hsurface, hunit, dispatched_start config unit surface files⟩
  have hcovered : Covered record s := by
    simpa using covered_after hstart hsteps (.inr hedit)
  rw [show h.taken = record.taken from (taken_record _ steps).symm]
  rcases hcovered with hwaits | ⟨ending, hending, hstopped⟩ | htaken
  · exact absurd hpending hwaits
  · exact absurd hstopped (by simp [hrefused ending hending])
  · exact htaken

/-- A file set with an entry only. -/
def entryFiles (text : String) : FileSet := FileSet.ofFiles [⟨"main.ts", text, .script⟩]

/-- An edit, the attempt that it leads to, and its response. -/
def editing : List (Nat × Step (RecordingUnit Script.engine) FlakySurface) :=
  [(0, .operate (.filesChanged (entryFiles "x"))), (200, .operate .pollTimers),
    (250, .deliver ⟨1, .code "x;"⟩)]

/-- Another edit, an attempt that comes too soon after the first one, and the timer at the end of
the cooldown. -/
def hastyEditing : List (Nat × Step (RecordingUnit Script.engine) FlakySurface) :=
  editing ++ [(300, .operate (.filesChanged (entryFiles "y"))), (500, .operate .pollTimers),
    (2500, .operate .pollTimers)]

theorem editing_editing : ∀ e ∈ editing, e.2.Editing := by
  simp only [editing, List.forall_mem_cons]
  exact ⟨.filesChanged _, .pollTimers, .deliver _, nofun⟩

theorem editing_hastyEditing : ∀ e ∈ hastyEditing, e.2.Editing := by
  simp only [hastyEditing, List.forall_mem_append, List.forall_mem_cons]
  exact ⟨editing_editing, .filesChanged _, .pollTimers, .pollTimers, nofun⟩

/-- After the first edit the request is for the current files. -/
theorem upToDate_of_edits_editing :
    (strictStart.history editing).taken = [⟨1, entryFiles "x"⟩] ∧
      ∃ q, (strictStart.history editing).taken.getLast? = some q ∧
        q.files.fingerprint = (strictStart.after editing).files.fingerprint := by
  have hending : (strictStart.record editing).lastEnding =
      some (.handed ⟨1, entryFiles "x"⟩ true) := by decide +kernel
  have hunit : TakesAll strictStart.unit := takesAll_recording rfl rfl
  have hsurface : ShowsAll strictStart.renderer.surface := showsAll_flaky rfl
  obtain ⟨-, hupToDate⟩ := upToDate_of_edits strict hunit hsurface NameMap.empty editing_editing
    ⟨0, _, List.mem_cons_self⟩
  refine ⟨by decide +kernel, hupToDate (by decide +kernel) fun ending h => ?_⟩
  obtain rfl := Option.some.inj (hending.symm.trans h)
  rfl

/-- The attempt for the second edit trips the guard. When its cooldown is over, nothing waits, no
guard is cooling down and the slot is empty, but the last request that was taken is for other
files. -/
theorem edit_lost :
    (∀ e ∈ hastyEditing, e.2.Editing) ∧ hastyEditing.Pairwise (fun a b => a.1 ≤ b.1) ∧
      TakesAll strictStart.unit ∧ ShowsAll strictStart.renderer.surface ∧
      (strictStart.after hastyEditing).scheduler.pending = none ∧
      (strictStart.after hastyEditing).scheduler.guard.coolingUntil = none ∧
      (strictStart.after hastyEditing).renderer.guard.coolingUntil = none ∧
      (strictStart.after hastyEditing).error = none ∧
      ∃ q, (strictStart.history hastyEditing).taken.getLast? = some q ∧
        q.files.fingerprint ≠ (strictStart.after hastyEditing).files.fingerprint :=
  ⟨editing_hastyEditing, by decide, takesAll_recording rfl rfl, showsAll_flaky rfl,
    by decide +kernel, by decide +kernel, by decide +kernel, by decide +kernel,
    ⟨1, entryFiles "x"⟩, by decide +kernel, by decide +kernel⟩

end Session

end LivePreview
