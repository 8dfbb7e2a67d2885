import LivePreview.Session.Attempts

/-!
# The diary of a session

The record of a run tells what was tried, but not when and at whose request. Its diary tells both,
step by step. An edit asks for a compile attempt after the delay, and so may the host without an
edit. What was asked for last waits until the timers start an attempt or some attempt hands a
request over, whichever comes first. Nothing here looks at what the scheduler keeps.

## Main definitions

* `LivePreview.Step.asks?`, `LivePreview.Step.brings?`: what a step asks for and what it brings.
* `LivePreview.Diary`: the steps of a run with their instants and what was tried in them.
* `LivePreview.Diary.Waits`: what was asked for last waits.
* `LivePreview.Diary.latestFiles`: the files that were brought last.
* `LivePreview.Session.diary`: the diary of a run.
-/

namespace LivePreview

variable {δ σ : Type}

namespace Step

/-- The compile attempt that a step asks for after the delay, forced or not. -/
def asks? : Step δ σ → Option Bool
  | .operate (.filesChanged _) => some false
  | .operate (.requestCompile force) => some force
  | _ => none

/-- The files that a step brings. -/
def brings? : Step δ σ → Option FileSet
  | .operate (.setFiles files) => some files
  | .operate (.filesChanged files) => some files
  | _ => none

/-- Whether a step fires the timers. -/
def polls : Step δ σ → Bool
  | .operate .pollTimers => true
  | _ => false

end Step

/-- A step of a run. -/
structure Diary.Entry (δ σ : Type) where
  /-- The instant. -/
  now : Nat
  /-- What happened. -/
  step : Step δ σ
  /-- What was tried. -/
  tried : Record

namespace Diary.Entry

/-- Whether the timers started a compile attempt. -/
def timed (e : Entry δ σ) : Bool := e.step.polls && !e.tried.isEmpty

/-- Whether a compile attempt handed a request over, be it taken or not. -/
def handed (e : Entry δ σ) : Bool := !e.tried.handed.isEmpty

end Diary.Entry

/-- The steps of a run, in order. -/
abbrev Diary (δ σ : Type) := List (Diary.Entry δ σ)

namespace Diary

/-- What was asked for last, at some instant and forced or not, waits: since then the timers have
started no attempt, and no attempt has handed a request over. -/
def Waits (diary : Diary δ σ) (asked : Nat) (force : Bool) : Prop :=
  ∃ before e since, diary = before ++ e :: since ∧ e.now = asked ∧ e.step.asks? = some force ∧
    ∀ e' ∈ since, e'.step.asks? = none ∧ e'.timed = false ∧ e'.handed = false

/-- The files that were brought last, with those of the start if none were. -/
def latestFiles (files : FileSet) (diary : Diary δ σ) : FileSet :=
  (diary.filterMap fun e => e.step.brings?).getLast?.getD files

end Diary

namespace Session

variable [CompileUnit δ] [Surface σ]

/-- The diary of a run. -/
def diary (s : Session δ σ) : List (Nat × Step δ σ) → Diary δ σ
  | [] => []
  | (now, step) :: rest => ⟨now, step, s.stepRecord now step⟩ :: (s.step now step).diary rest

end Session

end LivePreview
