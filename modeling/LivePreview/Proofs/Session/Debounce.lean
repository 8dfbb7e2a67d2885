import LivePreview.Proofs.Guard.Description
import LivePreview.Proofs.Session.Deadlines
import LivePreview.Session.Diary

/-!
# The delay of compile attempts

A session keeps one attempt waiting at most. Whoever asks for an attempt replaces the one that waits
and starts the delay again; the timers take it when its delay is over, and any attempt that hands a
request over drops it. An attempt that is stopped before it hands anything over leaves it alone. So
what the session keeps is what its diary says was asked for last, unless that was settled since, and
the timers start an attempt exactly when its delay is over.

The timers settle what they start an attempt for, whatever comes of it. So nothing that was asked
for is served twice, and of a burst of edits only the last one is served.

## Main definitions

* `LivePreview.Session.Carries`, `LivePreview.Session.Stepped`: what attempts, and what steps do to
  the files and to what waits.
* `LivePreview.Session.Debounced`: a session keeps what its diary says.
* `LivePreview.Session.Burst`: requests that come before the delay of the one before is over.

## Main results

* `LivePreview.Session.stepped_step`: what a step does to the files and to what waits.
* `LivePreview.Session.Debounced.step`: a session goes on keeping what its diary says.
* `LivePreview.Session.ServedOnce.step`: nothing that was asked for is served twice.
* `LivePreview.Session.Burst.awaits`: a burst leads to no attempt, and its last request waits.
* `LivePreview.Session.debounce_exact`: when the timers start an attempt, with which files, and how
  often.
-/

namespace LivePreview

/-! ### One entry more -/

namespace Diary

variable {δ σ : Type} {diary : Diary δ σ} {e : Entry δ σ} {asked : Nat} {force : Bool}

/-- After one entry more, what waits was asked for there, or waited before and was not settled. -/
theorem waits_concat_iff : Waits (diary ++ [e]) asked force ↔
    (e.now = asked ∧ e.step.asks? = some force) ∨
      Waits diary asked force ∧ e.step.asks? = none ∧ e.timed = false ∧ e.handed = false := by
  constructor
  · rintro ⟨before, e', since, heq, hnow, hasks, hsince⟩
    rcases Guard.concat_eq_append_cons_iff.1 heq with ⟨-, -, rfl⟩ | ⟨since', rfl, rfl⟩
    · exact .inl ⟨hnow, hasks⟩
    · refine .inr ⟨⟨before, e', since', rfl, hnow, hasks, fun x hx => ?_⟩, ?_⟩
      · exact hsince x (List.mem_append_left _ hx)
      · exact hsince e (List.mem_append_right _ (List.mem_singleton_self e))
  · rintro (⟨hnow, hasks⟩ | ⟨⟨before, e', since, rfl, hnow, hasks, hsince⟩, he⟩)
    · exact ⟨diary, e, [], rfl, hnow, hasks, nofun⟩
    · refine ⟨before, e', since ++ [e], by simp, hnow, hasks, fun x hx => ?_⟩
      rcases List.mem_append.1 hx with hx | hx
      · exact hsince x hx
      · exact List.mem_singleton.1 hx ▸ he

theorem not_waits_nil : ¬ Waits ([] : Diary δ σ) asked force := by
  rintro ⟨before, e, since, h, -⟩
  simp at h

theorem latestFiles_concat (files : FileSet) (diary : Diary δ σ) (e : Entry δ σ) :
    latestFiles files (diary ++ [e]) = e.step.brings?.getD (latestFiles files diary) := by
  cases h : e.step.brings? <;> simp [latestFiles, h]

end Diary

namespace Session

variable {δ σ : Type} [CompileUnit δ] {now : Nat} {s t u : Session δ σ} {l r : Record}

/-! ### Attempts -/

/-- Attempts leave the files and the delay as they are, and drop what waits if they hand a request
over. -/
structure Carries (l : Record) (s t : Session δ σ) : Prop where
  /-- The files are the same. -/
  files : t.files = s.files
  /-- The delay is the same. -/
  debounce : t.scheduler.debounce = s.scheduler.debounce
  /-- What waits is dropped when a request is handed over. -/
  pending : t.scheduler.pending = if l.handed.isEmpty then s.scheduler.pending else none

omit [CompileUnit δ] in
/-- Without an attempt nothing is dropped. -/
theorem carries_nil (hfiles : t.files = s.files)
    (hdebounce : t.scheduler.debounce = s.scheduler.debounce)
    (hpending : t.scheduler.pending = s.scheduler.pending) : Carries [] s t :=
  ⟨hfiles, hdebounce, hpending⟩

omit [CompileUnit δ] in
theorem Carries.trans (h : Carries l s t) (h' : Carries r t u) : Carries (l ++ r) s u where
  files := h'.files.trans h.files
  debounce := h'.debounce.trans h.debounce
  pending := by
    have happend : Record.handed (l ++ r) = l.handed ++ r.handed := List.filterMap_append
    rw [h'.pending, h.pending, happend]
    cases l.handed <;> cases r.handed <;> rfl

theorem Ends.carries {force : Bool} {ending : Ending} (h : Ends now force s ending t) :
    Carries [.compile force ending] s t := by
  cases h <;> exact ⟨rfl, rfl, rfl⟩

variable [Surface σ]

omit [CompileUnit δ] in
theorem Resets.carries {verdict : Verdict} {blank : Bool} (h : Resets now s verdict blank t) :
    Carries [.reset verdict] s t := by
  cases h <;> exact ⟨rfl, rfl, rfl⟩

omit [Surface σ] in
theorem carries_compileNow (s : Session δ σ) (force : Bool) (now : Nat) :
    Carries (s.compileRecord force now) s (s.compileNow force now) :=
  (ends_compileNow s force now).carries

theorem carries_reset (s : Session δ σ) (now : Nat) :
    Carries (s.resetRecord now) s (s.reset now) := by
  obtain ⟨verdict, blank, t, ht, hreset, hrecord⟩ := exists_resets s now
  rw [hreset, hrecord]
  cases blank with
  | false => exact ht.carries
  | true => exact ht.carries.trans (carries_compileNow t true now)

theorem carries_render (s : Session δ σ) (force : Bool) (now : Nat) :
    Carries (s.renderRecord force now) s (s.render force now) := by
  rw [render, renderRecord]
  rcases s.renderer.update s.artifact force with ⟨_ | _ | message, renderer⟩
  · exact carries_nil rfl rfl rfl
  · exact carries_nil rfl rfl rfl
  · let refused : Session δ σ :=
      { s with renderer := renderer, error := some (.render message) }
    have hrefused : Carries [] s refused := carries_nil rfl rfl rfl
    exact hrefused.trans (carries_reset refused now)

theorem carries_applyResult (s : Session δ σ) (response : Response) (now : Nat) :
    Carries (s.resultRecord response now) s (s.applyResult response now) := by
  rw [applyResult, resultRecord]
  split
  · exact carries_nil rfl rfl rfl
  · cases response.outcome with
    | code text =>
      let offered : Session δ σ :=
        { s with
          lastApplied := some response.sequence
          error := none
          artifact := some (Artifact.ofCode text response.sequence) }
      have hoffered : Carries [] s offered := carries_nil rfl rfl rfl
      exact hoffered.trans (carries_render offered false now)
    | error message => exact carries_nil rfl rfl rfl

/-! ### Timers -/

omit [Surface σ] in
/-- The timers start an attempt exactly when the delay of what waits is over. -/
theorem timerRecord_ne_nil_iff : s.timerRecord now ≠ [] ↔
    ∃ p, s.scheduler.pending = some p ∧ p.deadline ≤ now := by
  constructor
  · intro hne
    by_contra hnone
    push Not at hnone
    exact hne (pollTimers_of_not_due hnone).2
  · rintro ⟨p, hp, hover⟩
    obtain ⟨t, -, -, hrecord⟩ := exists_starting hp hover
    simp [hrecord]

/-! ### Steps -/

/-- What a step does to the files and to what waits. -/
structure Stepped (e : Diary.Entry δ σ) (s t : Session δ σ) : Prop where
  /-- The files are the ones it brings, if any. -/
  files : t.files = e.step.brings?.getD s.files
  /-- The delay is the same. -/
  debounce : t.scheduler.debounce = s.scheduler.debounce
  /-- What is asked for waits. -/
  asked : ∀ force, e.step.asks? = some force →
    t.scheduler.pending = some ⟨e.now + s.scheduler.debounce, force⟩
  /-- The timers start an attempt for what waits. -/
  timed : e.timed = true → s.scheduler.pending ≠ none
  /-- When they do, or a request is handed over, nothing waits any more. -/
  settled : e.step.asks? = none → e.timed = true ∨ e.handed = true → t.scheduler.pending = none
  /-- Otherwise what waits goes on waiting. -/
  left : e.step.asks? = none → e.timed = false → e.handed = false →
    t.scheduler.pending = s.scheduler.pending

omit [CompileUnit δ] [Surface σ] in
/-- Attempts that the timers have no part in. -/
theorem Carries.stepped (h : Carries l s t) {step : Step δ σ} (hasks : step.asks? = none)
    (hbrings : step.brings? = none) (hpolls : step.polls = false) :
    Stepped ⟨now, step, l⟩ s t where
  files := by simpa [hbrings] using h.files
  debounce := h.debounce
  asked force hforce := nomatch hasks.symm.trans hforce
  timed htimed := by simp [Diary.Entry.timed, hpolls] at htimed
  settled _ hsettled := by
    have hhanded : l.handed ≠ [] := by
      simpa [Diary.Entry.timed, Diary.Entry.handed, hpolls] using hsettled
    simpa [hhanded] using h.pending
  left _ _ hhanded := by
    have hnone : l.handed = [] := by simpa [Diary.Entry.handed] using hhanded
    simpa [hnone] using h.pending

omit [CompileUnit δ] [Surface σ] in
/-- A step that asks for an attempt. -/
theorem stepped_of_asks {step : Step δ σ} {force : Bool} (hasks : step.asks? = some force)
    (hfiles : t.files = step.brings?.getD s.files)
    (hrequest : t.scheduler = s.scheduler.request force now) : Stepped ⟨now, step, []⟩ s t where
  files := hfiles
  debounce := by rw [hrequest, Scheduler.request]
  asked force' hforce := by
    obtain rfl := Option.some.inj (hasks.symm.trans hforce)
    exact congrArg Scheduler.pending hrequest
  timed htimed := by simp [Diary.Entry.timed] at htimed
  settled hnone := by simp [hasks] at hnone
  left hnone := by simp [hasks] at hnone

omit [CompileUnit δ] [Surface σ] in
/-- A step that asks for nothing and tries nothing. -/
theorem stepped_of_quiet {step : Step δ σ} (hasks : step.asks? = none)
    (hfiles : t.files = step.brings?.getD s.files)
    (hdebounce : t.scheduler.debounce = s.scheduler.debounce)
    (hpending : t.scheduler.pending = s.scheduler.pending) : Stepped ⟨now, step, []⟩ s t where
  files := hfiles
  debounce := hdebounce
  asked force hforce := by simp [hasks] at hforce
  timed htimed := by simp [Diary.Entry.timed] at htimed
  settled _ h := by simp [Diary.Entry.timed, Diary.Entry.handed, Record.handed] at h
  left _ _ _ := hpending

omit [Surface σ] in
/-- A round of the timers. -/
theorem stepped_pollTimers (s : Session δ σ) (now : Nat) :
    Stepped ⟨now, .operate .pollTimers, s.timerRecord now⟩ s (s.pollTimers now) := by
  by_cases hdue : ∃ p, s.scheduler.pending = some p ∧ p.deadline ≤ now
  · obtain ⟨p, hp, hover⟩ := hdue
    obtain ⟨t, ht, hcompile, hrecord⟩ := exists_starting hp hover
    have h := carries_compileNow t p.force now
    have hnone : (t.compileNow p.force now).scheduler.pending = none := by
      rw [h.pending, ht.pending, ite_self]
    rw [hcompile, hrecord]
    exact ⟨h.files.trans ht.files, h.debounce.trans ht.debounce, nofun, fun _ => by simp [hp],
      fun _ _ => hnone, nofun⟩
  · push Not at hdue
    obtain ⟨slot, hcooled⟩ := exists_cooldowns s now
    obtain ⟨hsame, hrecord⟩ := pollTimers_of_not_due hdue
    rw [hsame, hrecord, hcooled]
    exact stepped_of_quiet rfl rfl rfl rfl

/-- Each step of a run. -/
theorem stepped_step (s : Session δ σ) (now : Nat) (step : Step δ σ) :
    Stepped ⟨now, step, s.stepRecord now step⟩ s (s.step now step) := by
  cases step with
  | operate operation =>
    cases operation with
    | setFiles files => exact stepped_of_quiet rfl rfl rfl rfl
    | filesChanged files => exact stepped_of_asks rfl rfl rfl
    | requestCompile force => exact stepped_of_asks rfl rfl rfl
    | pollTimers => exact stepped_pollTimers s now
    | compileNow force => exact (carries_compileNow s force now).stepped rfl rfl rfl
    | refresh => exact (carries_render s true now).stepped rfl rfl rfl
    | reset => exact (carries_reset s now).stepped rfl rfl rfl
    | clearError => exact stepped_of_quiet rfl rfl rfl rfl
  | deliver response => exact (carries_applyResult s response now).stepped rfl rfl rfl
  | unit unit => exact stepped_of_quiet rfl rfl rfl rfl
  | surface surface => exact stepped_of_quiet rfl rfl rfl rfl

/-- What each step keeps of a diary and a session, runs keep. -/
theorem diary_induct {P : Diary δ σ → Session δ σ → Prop}
    (hstep : ∀ {diary : Diary δ σ} {e : Diary.Entry δ σ} {s t : Session δ σ}, P diary s →
      Stepped e s t → P (diary ++ [e]) t)
    {diary : Diary δ σ} (hs : P diary s) (steps : List (Nat × Step δ σ)) :
    P (diary ++ s.diary steps) (s.after steps) := by
  induction steps generalizing diary s with
  | nil => simpa [Session.diary, after] using hs
  | cons first rest ih =>
    obtain ⟨now, step⟩ := first
    simpa [Session.diary, after] using ih (hstep hs (stepped_step s now step))

/-! ### What waits -/

/-- The attempt that waits is the one that was asked for last, if that was not settled since. -/
structure Debounced (config : Config) (files : FileSet) (diary : Diary δ σ) (s : Session δ σ) :
    Prop where
  /-- The delay is the one given. -/
  debounce : s.scheduler.debounce = config.debounce
  /-- The files are the ones that were brought last. -/
  files : s.files = diary.latestFiles files
  /-- What waits was asked for last. -/
  pending : ∀ p, s.scheduler.pending = some p ↔
    ∃ asked, diary.Waits asked p.force ∧ p.deadline = asked + config.debounce

variable {config : Config} {files : FileSet} {diary : Diary δ σ} {e : Diary.Entry δ σ}

omit [CompileUnit δ] [Surface σ] in
/-- A step leaves waiting what its diary says. -/
theorem Debounced.step (hs : Debounced config files diary s) (h : Stepped e s t) :
    Debounced config files (diary ++ [e]) t where
  debounce := h.debounce.trans hs.debounce
  files := by rw [Diary.latestFiles_concat, h.files, hs.files]
  pending p := by
    simp only [Diary.waits_concat_iff]
    cases hasks : e.step.asks? with
    | some force =>
      rw [h.asked force hasks, hs.debounce]
      constructor
      · intro hp
        obtain rfl := Option.some.inj hp
        exact ⟨e.now, .inl ⟨rfl, rfl⟩, rfl⟩
      · rintro ⟨asked, ⟨rfl, hforce⟩ | ⟨-, hnone, -⟩, hdeadline⟩
        · rw [← hdeadline, Option.some.inj hforce]
        · cases hnone
    | none =>
      cases htimed : e.timed with
      | true => simp [h.settled hasks (.inl htimed)]
      | false =>
        cases hhanded : e.handed with
        | true => simp [h.settled hasks (.inr hhanded)]
        | false => simp [h.left hasks htimed hhanded, hs.pending p]

omit [Surface σ] in
/-- The timers start an attempt exactly when something waits and its delay is over. -/
theorem Debounced.timed_iff (hs : Debounced config files diary s) : s.timerRecord now ≠ [] ↔
    ∃ asked force, diary.Waits asked force ∧ asked + config.debounce ≤ now := by
  rw [timerRecord_ne_nil_iff]
  constructor
  · rintro ⟨p, hp, hover⟩
    obtain ⟨asked, hwaits, hdeadline⟩ := (hs.pending p).1 hp
    exact ⟨asked, p.force, hwaits, hdeadline ▸ hover⟩
  · rintro ⟨asked, force, hwaits, hover⟩
    exact ⟨⟨asked + config.debounce, force⟩, (hs.pending _).2 ⟨asked, hwaits, rfl⟩, hover⟩

omit [Surface σ] in
/-- The attempt is forced if it was asked for so, and is made with the files that were brought
last. -/
theorem Debounced.exists_compileNow (hs : Debounced config files diary s) {asked : Nat}
    {force : Bool} (hwaits : diary.Waits asked force) (hover : asked + config.debounce ≤ now) :
    ∃ t : Session δ σ, t.files = diary.latestFiles files ∧ t.unit = s.unit ∧
      s.pollTimers now = t.compileNow force now ∧
      s.timerRecord now = [.compile force (t.ending force now)] := by
  have hp := (hs.pending ⟨asked + config.debounce, force⟩).2 ⟨asked, hwaits, rfl⟩
  obtain ⟨t, ht, hcompile, hrecord⟩ := exists_starting hp hover
  exact ⟨t, ht.files.trans hs.files, ht.unit, hcompile, hrecord⟩

/-- The timers have started one attempt at most since something was asked for last, and if they
have, nothing waits. -/
def ServedOnce (diary : Diary δ σ) (s : Session δ σ) : Prop :=
  ∀ before e since, diary = before ++ e :: since → e.step.asks? ≠ none →
    (∀ e' ∈ since, e'.step.asks? = none) →
      since.countP (·.timed) ≤ 1 ∧ (since.countP (·.timed) = 1 → s.scheduler.pending = none)

omit [CompileUnit δ] [Surface σ] in
/-- The timers start an attempt only for what waits, and leave nothing waiting. -/
theorem ServedOnce.step (hs : ServedOnce diary s) (h : Stepped e s t) :
    ServedOnce (diary ++ [e]) t := by
  intro before e' since heq hasked hsince
  rcases Guard.concat_eq_append_cons_iff.1 heq with ⟨rfl, -, -⟩ | ⟨since', rfl, rfl⟩
  · simp
  · have hasks : e.step.asks? = none :=
      hsince e (List.mem_append_right _ (List.mem_singleton_self e))
    obtain ⟨hle, hnone⟩ := hs before e' since' rfl hasked fun x hx =>
      hsince x (List.mem_append_left _ hx)
    rw [List.countP_append, List.countP_singleton]
    cases htimed : e.timed with
    | true =>
      -- Something waits, so there was no attempt before.
      have hone : since'.countP (·.timed) ≠ 1 := fun hone => h.timed htimed (hnone hone)
      simp only [if_true]
      exact ⟨by omega, fun _ => h.settled hasks (.inl htimed)⟩
    | false =>
      refine ⟨by simpa using hle, fun hone => ?_⟩
      cases hhanded : e.handed with
      | true => exact h.settled hasks (.inr hhanded)
      | false =>
        rw [h.left hasks htimed hhanded]
        exact hnone (by simpa using hone)

/-! ### Bursts -/

/-- Attempts that are asked for one after another. Files may be brought in between, and the timers
may come, but only before the delay of the one that was asked for then is over. The last one was
asked for at `asked`. -/
inductive Burst (debounce : Nat) : List (Nat × Step δ σ) → Nat → Bool → Prop where
  /-- The first one is asked for. -/
  | first {now : Nat} {step : Step δ σ} {force : Bool} (h : step.asks? = some force) :
    Burst debounce [(now, step)] now force
  /-- Another one is asked for. -/
  | again {steps : List (Nat × Step δ σ)} {asked now : Nat} {step : Step δ σ}
    {force force' : Bool} (h : Burst debounce steps asked force)
    (hasks : step.asks? = some force') :
    Burst debounce (steps ++ [(now, step)]) now force'
  /-- Files are brought, and nothing is asked for. -/
  | files {steps : List (Nat × Step δ σ)} {asked now : Nat} {force : Bool}
    (h : Burst debounce steps asked force) (files : FileSet) :
    Burst debounce (steps ++ [(now, .operate (.setFiles files))]) asked force
  /-- The timers come too early. -/
  | poll {steps : List (Nat × Step δ σ)} {asked now : Nat} {force : Bool}
    (h : Burst debounce steps asked force) (hnow : now < asked + debounce) :
    Burst debounce (steps ++ [(now, .operate .pollTimers)]) asked force

/-- Asking for an attempt makes none. -/
theorem stepRecord_of_asks {step : Step δ σ} {force : Bool} (h : step.asks? = some force) :
    s.stepRecord now step = [] := by
  cases step with
  | operate operation =>
    cases operation with
    | filesChanged files => rfl
    | requestCompile force => rfl
    | _ => cases h
  | _ => cases h

/-- A run leads to no attempt, and leaves one waiting. -/
structure Awaits (s : Session δ σ) (steps : List (Nat × Step δ σ)) (debounce : Nat) (p : Pending) :
    Prop where
  /-- There is no attempt. -/
  record : s.record steps = []
  /-- The delay. -/
  debounce : (s.after steps).scheduler.debounce = debounce
  /-- What waits. -/
  pending : (s.after steps).scheduler.pending = some p

section Awaits

variable {steps : List (Nat × Step δ σ)} {step : Step δ σ} {debounce : Nat} {force : Bool}

/-- What is asked for waits. -/
theorem awaits_asked (hrecord : s.record steps = [])
    (hdebounce : (s.after steps).scheduler.debounce = debounce) (now : Nat)
    (hasks : step.asks? = some force) :
    Awaits s (steps ++ [(now, step)]) debounce ⟨now + debounce, force⟩ := by
  have hstep := stepped_step (s.after steps) now step
  refine ⟨?_, ?_, ?_⟩
  · rw [record_append, hrecord]
    simp [Session.record, stepRecord_of_asks hasks]
  · rw [after_append]
    exact hstep.debounce.trans hdebounce
  · rw [after_append]
    exact hdebounce ▸ hstep.asked _ hasks

/-- A step that asks for nothing and tries nothing leaves what waits. -/
theorem Awaits.quiet {p : Pending} (h : Awaits s steps debounce p) (hasks : step.asks? = none)
    (hnone : (s.after steps).stepRecord now step = []) :
    Awaits s (steps ++ [(now, step)]) debounce p := by
  have hstep := stepped_step (s.after steps) now step
  rw [hnone] at hstep
  refine ⟨?_, ?_, ?_⟩
  · rw [record_append, h.record]
    simp [Session.record, hnone]
  · rw [after_append]
    exact hstep.debounce.trans h.debounce
  · have htimed : Diary.Entry.timed ⟨now, step, []⟩ = false := by simp [Diary.Entry.timed]
    rw [after_append]
    exact (hstep.left hasks htimed rfl).trans h.pending

/-- A burst leads to no attempt, and leaves what was asked for last waiting. -/
theorem Burst.awaits {asked : Nat} (h : Burst debounce steps asked force)
    (hs : s.scheduler.debounce = debounce) :
    Awaits s steps debounce ⟨asked + debounce, force⟩ := by
  induction h with
  | @first now step force hasks =>
    have hstart : s.record [] = [] := rfl
    exact awaits_asked hstart hs now hasks
  | @again _ _ now _ _ _ _ hasks ih => exact awaits_asked ih.record ih.debounce now hasks
  | files _ _ ih => exact ih.quiet rfl rfl
  | poll _ hnow ih =>
    refine ih.quiet rfl (pollTimers_of_not_due fun p hp => ?_).2
    obtain rfl := Option.some.inj (ih.pending.symm.trans hp)
    exact hnow

/-- While nothing waits, the timers start no attempt. -/
theorem record_polls (h : s.scheduler.pending = none) (polls : List Nat) :
    s.record (polls.map fun now => (now, .operate .pollTimers)) = [] := by
  induction polls generalizing s with
  | nil => rfl
  | cons now rest ih =>
    have hnone : s.timerRecord now = [] := (pollTimers_of_not_due (by simp [h])).2
    have hstep := stepped_pollTimers s now
    rw [hnone] at hstep
    have hrest := ih ((hstep.left rfl rfl rfl).trans h)
    rw [List.map_cons, record]
    change s.timerRecord now ++ (s.pollTimers now).record _ = []
    rw [hnone, hrest]
    rfl

/-- What waits leads the timers to one attempt, once its delay is over. -/
theorem Awaits.served_once {p : Pending} (h : Awaits s steps debounce p)
    (hover : p.deadline ≤ now) :
    (∃ ending, (s.after steps).timerRecord now = [.compile p.force ending]) ∧
      ∀ polls : List Nat, ((s.after steps).pollTimers now).record
        (polls.map fun later => (later, .operate .pollTimers)) = [] := by
  obtain ⟨t, ht, hcompile, hrecord⟩ := exists_starting h.pending hover
  refine ⟨⟨_, hrecord⟩, record_polls ?_⟩
  rw [hcompile, (carries_compileNow t p.force now).pending, ht.pending, ite_self]

end Awaits

/-- In every state, going by its diary. The timers start an attempt exactly when something waits and
its delay is over; they end cooldowns and do nothing else otherwise. The attempt is forced if it was
asked for so, and is made with the files that were brought last. What was asked for last has led the
timers to one attempt at most. A burst leads to none, and the first round of the timers after its
last delay starts one, after which further rounds start none. -/
theorem debounce_exact (config : Config) (unit : δ) (surface : σ) (files : FileSet)
    (steps : List (Nat × Step δ σ)) :
    let s := (start config unit surface files).after steps
    let diary := (start config unit surface files).diary steps
    (∀ now,
      (s.timerRecord now ≠ [] ↔
        ∃ asked force, diary.Waits asked force ∧ asked + config.debounce ≤ now) ∧
      (s.timerRecord now = [] → s.pollTimers now = (s.cooldownCompile now).cooldownReset now) ∧
      ∀ asked force, diary.Waits asked force → asked + config.debounce ≤ now →
        ∃ t : Session δ σ, t.files = diary.latestFiles files ∧ t.unit = s.unit ∧
          s.pollTimers now = t.compileNow force now ∧
          s.timerRecord now = [.compile force (t.ending force now)]) ∧
    (∀ before e since, diary = before ++ e :: since → e.step.asks? ≠ none →
      (∀ e' ∈ since, e'.step.asks? = none) → since.countP (·.timed) ≤ 1) ∧
    ∀ burst asked force, Burst config.debounce burst asked force →
      s.record burst = [] ∧
      ∀ now, asked + config.debounce ≤ now →
        (∃ ending, (s.after burst).timerRecord now = [.compile force ending]) ∧
        ∀ polls : List Nat, ((s.after burst).pollTimers now).record
          (polls.map fun later => (later, .operate .pollTimers)) = [] := by
  intro s diary
  have hstart : Debounced config files ([] : Diary δ σ) (start config unit surface files) :=
    ⟨rfl, rfl, fun p => ⟨nofun, fun ⟨_, h, _⟩ => absurd h Diary.not_waits_nil⟩⟩
  have hkept : Debounced config files diary s := diary_induct Debounced.step hstart steps
  have hfresh : ServedOnce ([] : Diary δ σ) (start config unit surface files) :=
    fun before e since h => by simp at h
  have hserved : ServedOnce diary s := diary_induct ServedOnce.step hfresh steps
  refine ⟨fun now => ⟨hkept.timed_iff, fun hnone => ?_, fun _ _ => hkept.exists_compileNow⟩,
    fun before e since heq hasks hsince => (hserved before e since heq hasks hsince).1,
    fun burst asked force hburst => ?_⟩
  · refine (pollTimers_of_not_due fun p hp => ?_).1
    by_contra hover
    exact timerRecord_ne_nil_iff.2 ⟨p, hp, Nat.not_lt.1 hover⟩ hnone
  · have hawaits := hburst.awaits hkept.debounce
    exact ⟨hawaits.record, fun _ hover => hawaits.served_once hover⟩

/-- Two edits and a request, with a round of the timers that comes too early. -/
def bursting : List (Nat × Step (RecordingUnit Script.engine) FlakySurface) :=
  [(0, .operate (.filesChanged NameMap.empty)), (150, .operate (.filesChanged NameMap.empty)),
    (300, .operate .pollTimers), (320, .operate (.requestCompile true))]

/-- The request waits after the burst. It leads to one attempt, which is forced, and to no other. -/
theorem debounce_exact_bursting :
    (strictStart.diary bursting).Waits 320 true ∧
    (strictStart.after bursting).timerRecord 519 = [] ∧
    (strictStart.after bursting).timerRecord 520 ≠ [] ∧
    Burst strict.debounce bursting 320 true ∧ strictStart.record bursting = [] ∧
    (∃ ending, (strictStart.after bursting).timerRecord 520 = [.compile true ending]) ∧
    ((strictStart.after bursting).pollTimers 520).record
      ([520, 900].map fun later => (later, .operate .pollTimers)) = [] := by
  have hwaits : (strictStart.diary bursting).Waits 320 true :=
    ⟨strictStart.diary (bursting.take 3), ⟨320, .operate (.requestCompile true), []⟩, [],
      rfl, rfl, rfl, nofun⟩
  obtain ⟨htimers, -, -⟩ := debounce_exact strict (RecordingUnit.start none) FlakySurface.blank
    NameMap.empty bursting
  have hburst : Burst strict.debounce bursting 320 true :=
    .again (.poll (.again (.first rfl) rfl) (by decide)) rfl
  obtain ⟨-, -, hbursts⟩ := debounce_exact strict (RecordingUnit.start none) FlakySurface.blank
    NameMap.empty []
  obtain ⟨hnone, hrounds⟩ := hbursts bursting 320 true hburst
  obtain ⟨hone, hlater⟩ := hrounds 520 (by decide)
  exact ⟨hwaits, by decide +kernel, (htimers 520).1.2 ⟨320, true, hwaits, by decide⟩, hburst, hnone,
    hone, hlater [520, 900]⟩

end Session

end LivePreview
