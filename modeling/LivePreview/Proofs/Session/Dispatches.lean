import LivePreview.Proofs.Session.Attempts
import LivePreview.Proofs.Session.Performed

/-!
# Dispatching on change

What a session remembers of its dispatches is settled by its record: a request that is taken leaves
the fingerprint of its files, and one that is not taken leaves nothing, nor does a reset loop. An
attempt that is not forced hands over only files whose fingerprint is not the one remembered. So two
requests that are taken one after the other have the same fingerprint only if the second one was
forced or the first one forgotten.

## Main definitions

* `LivePreview.Record.remembered`: the fingerprint that is left after some attempts.
* `LivePreview.Record.Economical`: no attempt hands over what is remembered unless it is forced.
* `LivePreview.Session.Dispatched`: a session remembers and numbers what its record tells.

## Main results

* `LivePreview.Session.Dispatched.part`: a part of a step keeps memory and numbers right.
* `LivePreview.Session.dispatched_on_change`: requests are numbered without a gap, and unchanged
  content is dispatched again only on force or after it was forgotten.
-/

namespace LivePreview

namespace Attempt

/-- The fingerprint that is left after an attempt, when it was `last` before. -/
def remember (last : Option Fingerprint) : Attempt → Option Fingerprint
  | compile _ (.handed request true) => some request.files.fingerprint
  | compile _ (.handed _ false) => none
  | reset .tripped => none
  | _ => last

/-- Whether an attempt makes a session forget what it dispatched: a request is not taken, or resets
come too fast. -/
def forgets (a : Attempt) : Prop :=
  (∃ force request, a = compile force (.handed request false)) ∨ a = reset .tripped

/-- An attempt takes a request, or forgets, or leaves the fingerprint that it finds. -/
theorem remember_cases (a : Attempt) (last : Option Fingerprint) :
    (∃ request, a.taken? = some request ∧ a.remember last = some request.files.fingerprint) ∨
    (a.taken? = none ∧ a.forgets ∧ a.remember last = none) ∨
    (a.taken? = none ∧ ¬ a.forgets ∧ a.remember last = last) := by
  cases a with
  | compile force ending =>
    cases ending with
    | handed request taken =>
      cases taken with
      | true => exact .inl ⟨request, rfl, rfl⟩
      | false => exact .inr (.inl ⟨rfl, .inl ⟨force, request, rfl⟩, rfl⟩)
    | _ => exact .inr (.inr ⟨rfl, by simp [forgets], rfl⟩)
  | reset verdict =>
    cases verdict with
    | tripped => exact .inr (.inl ⟨rfl, .inr rfl, rfl⟩)
    | _ => exact .inr (.inr ⟨rfl, by simp [forgets], rfl⟩)

end Attempt

namespace Record

variable {last : Option Fingerprint} {l r : Record}

/-- The fingerprint that is left after some attempts, when it was `last` before. -/
def remembered (last : Option Fingerprint) (l : Record) : Option Fingerprint :=
  l.foldl Attempt.remember last

/-- Attempts that take no request and do not forget leave the fingerprint that they find. -/
theorem remembered_of_not_forgets (h : ∀ a ∈ l, a.taken? = none ∧ ¬ a.forgets) :
    remembered last l = last := by
  induction l with
  | nil => rfl
  | cons a rest ih =>
    obtain ⟨htaken, hforgets⟩ := h a List.mem_cons_self
    have hsame : a.remember last = last := by
      rcases a.remember_cases last with ⟨request, hrequest, -⟩ | ⟨-, hforgets', -⟩ | ⟨-, -, hsame⟩
      · exact nomatch htaken.symm.trans hrequest
      · exact absurd hforgets' hforgets
      · exact hsame
    rw [remembered, List.foldl_cons, hsame]
    exact ih fun b hb => h b (List.mem_cons_of_mem a hb)

/-- No attempt that is not forced hands over a request for files whose fingerprint is the one that
is left by then. -/
def Economical : Option Fingerprint → Record → Prop
  | _, [] => True
  | last, a :: rest =>
    (∀ request, a = .compile false (.handed request true) →
      last ≠ some request.files.fingerprint) ∧ Economical (a.remember last) rest

theorem economical_append :
    Economical last (l ++ r) ↔ Economical last l ∧ Economical (remembered last l) r := by
  induction l generalizing last with
  | nil => simp [Economical, remembered]
  | cons a rest ih => simp [Economical, remembered, ih, and_assoc]

/-- Of two requests that are taken one after the other, the second one is for other content, or is
forced, or comes after the first one was forgotten. -/
theorem Economical.changed {before between rest : Record} {f f' : Bool} {q q' : Request}
    (h : Economical last (before ++ .compile f (.handed q true) ::
      (between ++ .compile f' (.handed q' true) :: rest)))
    (hbetween : ∀ a ∈ between, a.taken? = none)
    (hsame : q.files.fingerprint = q'.files.fingerprint) :
    f' = true ∨ ∃ a ∈ between, a.forgets := by
  cases f' with
  | true => exact .inl rfl
  | false =>
    by_cases hforgets : ∃ a ∈ between, a.forgets
    · exact .inr hforgets
    · have hkept : remembered (some q.files.fingerprint) between = some q.files.fingerprint :=
        remembered_of_not_forgets fun a ha => ⟨hbetween a ha, fun h => hforgets ⟨a, ha, h⟩⟩
      have hother : remembered (some q.files.fingerprint) between ≠ some q'.files.fingerprint :=
        (economical_append.1 (economical_append.1 h).2.2).2.1 q' rfl
      exact absurd (hkept.trans (congrArg some hsame)) hother

end Record

namespace Session

variable {δ σ : Type} {now : Nat} {s t : Session δ σ} {l r : Record}

/-- A session remembers what its record leaves, and the requests of the record are numbered from 1
on without a gap. -/
structure Dispatched (l : Record) (s : Session δ σ) : Prop where
  /-- The session remembers what the record leaves. -/
  remembered : s.scheduler.lastDispatched = Record.remembered none l
  /-- If that is anything, it is the fingerprint of the last request that was taken. -/
  taken : s.scheduler.lastDispatched = none ∨
    s.scheduler.lastDispatched = l.taken.getLast?.map (·.files.fingerprint)
  /-- What is remembered is handed over again only on force. -/
  economical : Record.Economical none l
  /-- Requests are numbered in order. -/
  numbers : l.handed.map (·.1.sequence) = List.range' 1 l.handed.length
  /-- The next number is the one after those of the requests. -/
  next : s.nextSequence = l.handed.length + 1

theorem dispatched_start (config : Config) (unit : δ) (surface : σ) (files : FileSet) :
    Dispatched [] (start config unit surface files) :=
  ⟨rfl, .inl rfl, trivial, rfl, rfl⟩

/-- What leaves the numbers as they are keeps them right. -/
theorem Dispatched.frame (hs : Dispatched l s)
    (hlast : t.scheduler.lastDispatched = s.scheduler.lastDispatched)
    (hnext : t.nextSequence = s.nextSequence) : Dispatched (l ++ []) t := by
  rw [List.append_nil]
  exact ⟨hlast.trans hs.remembered, hlast ▸ hs.taken, hs.economical, hs.numbers,
    hnext.trans hs.next⟩

/-- An attempt keeps memory and numbers right if it hands over what is remembered only on force,
under the next number. -/
theorem Dispatched.attempt (hs : Dispatched l s) {a : Attempt}
    (hlast : t.scheduler.lastDispatched = a.remember s.scheduler.lastDispatched)
    (heconomical : ∀ request, a = .compile false (.handed request true) →
      s.scheduler.lastDispatched ≠ some request.files.fingerprint)
    (hnumber : a.handed? = none ∧ t.nextSequence = s.nextSequence ∨
      ∃ taken, a.handed? = some (⟨s.nextSequence, s.files⟩, taken) ∧
        t.nextSequence = s.nextSequence + 1) : Dispatched (l ++ [a]) t where
  remembered := by
    rw [hlast, hs.remembered, Record.remembered, Record.remembered, List.foldl_append]
    rfl
  taken := by
    rw [hlast, Record.taken_concat]
    rcases a.remember_cases s.scheduler.lastDispatched with
      ⟨request, htaken, hsome⟩ | ⟨-, -, hnone⟩ | ⟨htaken, -, hsame⟩
    · exact .inr (by simp [htaken, hsome])
    · exact .inl hnone
    · simpa [htaken, hsame] using hs.taken
  economical := by
    rw [Record.economical_append, ← hs.remembered]
    exact ⟨hs.economical, heconomical, trivial⟩
  numbers := by
    rw [Record.handed_concat]
    rcases hnumber with ⟨hnone, -⟩ | ⟨taken, hsome, -⟩
    · simpa [hnone] using hs.numbers
    · rw [List.map_append, hs.numbers, hsome, List.length_append, Option.toList_some,
        List.length_singleton, List.range'_1_concat, Nat.add_comm 1, ← hs.next]
      rfl
  next := by
    rw [Record.handed_concat]
    rcases hnumber with ⟨hnone, hnext⟩ | ⟨taken, hsome, hnext⟩
    · simp [hnone, hnext, hs.next]
    · simp [hsome, hnext, hs.next]

variable [CompileUnit δ] [Surface σ]

/-- A part of a step keeps memory and numbers right. -/
theorem Dispatched.part (hs : Dispatched l s) (h : Part now s r t) : Dispatched (l ++ r) t := by
  cases h with
  | compile h =>
    cases h with
    | taken hready hg hchanged hunit =>
      refine hs.attempt rfl (fun request heq => ?_) (.inr ⟨true, rfl, rfl⟩)
      cases heq
      exact hchanged.resolve_left (by simp)
    | untaken => exact hs.attempt rfl (fun _ heq => nomatch heq) (.inr ⟨false, rfl, rfl⟩)
    | _ => exact hs.attempt rfl nofun (.inl ⟨rfl, rfl⟩)
  | reset h =>
    cases h with
    | _ => exact hs.attempt rfl nofun (.inl ⟨rfl, rfl⟩)
  | compileCooled =>
    rw [dismiss_eq]
    exact hs.frame rfl rfl
  | resetCooled =>
    rw [dismiss_eq]
    exact hs.frame rfl rfl
  | other h => exact hs.frame h.lastDispatched h.nextSequence

/-- Every run leaves memory and numbers right. -/
theorem dispatched_run (config : Config) (unit : δ) (surface : σ) (files : FileSet)
    (steps : List (Nat × Step δ σ)) :
    Dispatched ((start config unit surface files).record steps)
      ((start config unit surface files).after steps) := by
  have hrun := record_induct (P := Dispatched) Dispatched.part
    (dispatched_start config unit surface files) steps
  simpa using hrun

/-- In every state, whether the compile unit is ready and takes requests or not: the compile unit was
handed the requests of the record, with these answers, and no others; a session remembers nothing or
the fingerprint of the last request that was taken; the requests that were handed over are numbered
1, 2, 3 and so on; and of two requests that were taken one after the other, with equal fingerprints,
the second one was forced, or in between a request was not taken or a reset loop was detected. -/
theorem dispatched_on_change (config : Config) (unit : δ) (surface : σ) (files : FileSet)
    (steps : List (Nat × Step δ σ)) :
    let s := (start config unit surface files).after steps
    let h := (start config unit surface files).history steps
    let record := (start config unit surface files).record steps
    Enacts unit surface steps h s.unit s.renderer.surface ∧
    record.handed = h.handed ∧
    (s.scheduler.lastDispatched = none ∨
      s.scheduler.lastDispatched = record.taken.getLast?.map (·.files.fingerprint)) ∧
    record.handed.map (·.1.sequence) = List.range' 1 record.handed.length ∧
    ∀ (before between rest : Record) (f f' : Bool) (q q' : Request),
      record = before ++ .compile f (.handed q true) ::
        (between ++ .compile f' (.handed q' true) :: rest) →
      (∀ a ∈ between, a.taken? = none) → q.files.fingerprint = q'.files.fingerprint →
        f' = true ∨ ∃ a ∈ between,
          (∃ f q, a = .compile f (.handed q false)) ∨ a = .reset .tripped := by
  intro s h record
  have hrun := dispatched_run config unit surface files steps
  refine ⟨enacts_after (start config unit surface files) steps, handed_record _ steps, hrun.taken,
    hrun.numbers, fun before between rest f f' q q' heq hbetween hsame => ?_⟩
  have heconomical := hrun.economical
  rw [show (start config unit surface files).record steps = _ from heq] at heconomical
  exact heconomical.changed hbetween hsame

end Session

end LivePreview
