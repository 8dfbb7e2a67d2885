import LivePreview.Headless
import LivePreview.Proofs.Session.Counts

/-!
# Recovery comes to an end

A refused document leads to a reset, the reset compiles again, and if the compile unit answers at
once, there is another response, whose document may be refused again. So while waiting responses are
applied, more of them may come. All of this happens at one instant, though, and the guard of resets
lets only so many of them through before it trips. A response that meets the tripped guard brings
nothing new. With a threshold of `T`, then, each of the responses that were waiting at first
accounts for `T + 1` applied ones at most, itself included. It does not matter how long the cooldown
is: even one that is over at once begins with a response that brings nothing new.

## Main definitions

* `LivePreview.Guard.Effective`: a guard that lets something through, and counts.
* `LivePreview.Guard.spent`: how many attempts of a burst at some instant a guard has let through.
* `LivePreview.AnsweringUnit`: a compile unit that answers at once.
* `LivePreview.Session.Drains`: waiting responses are applied one after another.
* `LivePreview.Session.toll`: a bound on the responses to be applied.

## Main results

* `LivePreview.Session.toll_applyResult`: every applied response lowers the bound.
* `LivePreview.Session.drains_within`: no more than `n * (T + 1)` responses are applied, and in the
  end none is waiting.
* `LivePreview.Headless.queue_drainFrom`: so many rounds of `LivePreview.Headless.drainFrom` leave
  an empty queue.
-/

namespace LivePreview

/-! ### Attempts at one instant -/

namespace Guard

variable {g g' : Guard} {now : Nat}

/-- A guard that lets at least one attempt through, and counts those at one instant. -/
structure Effective (g : Guard) : Prop where
  /-- At least one attempt is let through. -/
  threshold : 1 ≤ g.config.threshold
  /-- Attempts at one instant are counted. -/
  window : 0 < g.config.window

theorem Effective.of_config (h : g.Effective) (hconfig : g'.config = g.config) : g'.Effective :=
  ⟨hconfig ▸ h.threshold, hconfig ▸ h.window⟩

/-- How many attempts of a burst that goes on at some instant the guard has let through. A guard
that is cooling down starts again. -/
def spent (g : Guard) (now : Nat) : Nat :=
  if g.coolingUntil = none ∧ g.inWindow now = true then min g.burst g.config.threshold else 0

theorem spent_le (g : Guard) (now : Nat) : g.spent now ≤ g.config.threshold := by
  rw [spent]
  split <;> omega

/-- A counted attempt that is allowed adds to its burst. -/
theorem Effective.spent_count (heffective : g.Effective) (hnone : g.coolingUntil = none)
    (h : g.count now = (.allowed, g')) : g.spent now < g'.spent now := by
  obtain ⟨hthreshold, hwindow⟩ := heffective
  have hnow (burst : Nat) : { g with burst := burst, lastAllowed := some now : Guard }.spent now =
      min burst g.config.threshold := by
    simp [spent, inWindow, hnone, hwindow]
  rcases count_cases g now with ⟨-, -, hg⟩ | ⟨hw, hle, hg⟩ | ⟨hw, hg⟩ <;>
    obtain ⟨hverdict, rfl⟩ := Prod.mk.inj (hg.symm.trans h)
  · cases hverdict
  · rw [hnow, spent, if_pos ⟨hnone, hw⟩]
    omega
  · rw [hnow, spent, if_neg (by simp [hw])]
    omega

/-- An attempt that is allowed adds to its burst. -/
theorem Effective.spent_check (heffective : g.Effective) (h : g.check now = (.allowed, g')) :
    g.spent now < g'.spent now := by
  rcases check_cases g now with ⟨hnone, hg⟩ | ⟨-, -, -, hg⟩ | ⟨hc, hg⟩ <;> rw [hg] at h
  · exact heffective.spent_count hnone h
  · cases h
  · have hcooling : g.coolingUntil ≠ none := fun hnone => by simp [cooledBy, hnone] at hc
    have hzero : g.spent now = 0 := if_neg fun h => hcooling h.1
    have hended : g.endCooldown.Effective := heffective.of_config rfl
    exact hzero ▸ Nat.zero_lt_of_lt (hended.spent_count rfl h)

end Guard

/-! ### Compile units that answer at once -/

/-- A compile unit with responses that wait to be applied. A request that is handed over adds one of
them at most, with whatever outcome. -/
class AnsweringUnit (δ : Type) extends CompileUnit δ where
  /-- The responses that wait. -/
  waiting : δ → List Response
  /-- The unit without the response at some place. -/
  withdraw : δ → Nat → δ
  /-- The other responses go on waiting. -/
  waiting_withdraw (u : δ) (i : Nat) : waiting (withdraw u i) = (waiting u).eraseIdx i
  /-- A request is answered at once or not at all. -/
  waiting_dispatch (u : δ) (r : Request) : waiting (dispatch u r).1 = waiting u ∨
    ∃ response, waiting (dispatch u r).1 = waiting u ++ [response]

theorem RecordingUnit.queue_take {engine : Engine} (u : RecordingUnit engine) (r : Request) :
    (u.take r).queue = u.queue ∨ ∃ response, (u.take r).queue = u.queue ++ [response] := by
  rw [take]
  cases u.transformer with
  | none => exact .inl rfl
  | some t => exact .inr ⟨(t.handle engine r).1, rfl⟩

instance {engine : Engine} : AnsweringUnit (RecordingUnit engine) where
  waiting u := u.queue
  withdraw u i := { u with queue := u.queue.eraseIdx i }
  waiting_withdraw _ _ := rfl
  waiting_dispatch u r := by
    cases hclosed : u.closed with
    | true => simp [CompileUnit.dispatch, hclosed]
    | false => simpa [CompileUnit.dispatch, hclosed] using u.queue_take r

namespace Session

open AnsweringUnit

variable {δ σ : Type} [AnsweringUnit δ] {s t : Session δ σ} {now : Nat}

/-- The session without the waiting response at some place. -/
def withdrawn (s : Session δ σ) (i : Nat) : Session δ σ := { s with unit := withdraw s.unit i }

/-- How many applied responses the waiting ones may account for: `T + 1` each, less what the guard
of resets has let through of its burst. -/
def toll (now : Nat) (s : Session δ σ) : Nat :=
  (waiting s.unit).length * (s.renderer.guard.config.threshold + 1) - s.renderer.guard.spent now

/-! ### One response -/

/-- A compile attempt adds one waiting response at most, and leaves the renderer alone. -/
theorem Ends.waiting_le {force : Bool} {ending : Ending} (h : Ends now force s ending t) :
    t.renderer = s.renderer ∧ (waiting t.unit).length ≤ (waiting s.unit).length + 1 := by
  have hdispatch {unit : δ} {request : Request} {answer : Except DispatchError Unit}
      (hunit : CompileUnit.dispatch s.unit request = (unit, answer)) :
      (waiting unit).length ≤ (waiting s.unit).length + 1 := by
    have hwaiting := waiting_dispatch s.unit request
    rw [hunit] at hwaiting
    rcases hwaiting with hsame | ⟨response, hmore⟩
    · simp [hsame]
    · simp [hmore]
  cases h with
  | taken _ _ _ hunit => exact ⟨rfl, hdispatch hunit⟩
  | untaken _ _ _ hunit => exact ⟨rfl, hdispatch hunit⟩
  | _ => exact ⟨rfl, Nat.le_succ _⟩

variable [Surface σ]

omit [AnsweringUnit δ] in
/-- A reset does not touch the compile unit. It compiles again only if its guard lets it through. -/
theorem Resets.spent_lt {verdict : Verdict} {blank : Bool} (h : Resets now s verdict blank t)
    (heffective : s.renderer.guard.Effective) :
    t.unit = s.unit ∧ t.renderer.guard.config = s.renderer.guard.config ∧
      (blank = true → s.renderer.guard.spent now < t.renderer.guard.spent now) := by
  have hconfig {verdict : Verdict} {g : Guard} (hg : s.renderer.guard.check now = (verdict, g)) :
      g.config = s.renderer.guard.config := by
    simpa [hg] using Guard.config_check s.renderer.guard now
  cases h with
  | blanked hg => exact ⟨rfl, hconfig hg, fun _ => heffective.spent_check hg⟩
  | unblanked hg => exact ⟨rfl, hconfig hg, nofun⟩
  | resetLoop hg => exact ⟨rfl, hconfig hg, nofun⟩
  | suppressed => exact ⟨rfl, rfl, nofun⟩

/-- A response adds no waiting one, or adds one while the guard of resets lets one more reset
through. -/
theorem waiting_applyResult (s : Session δ σ) (r : Response) (now : Nat)
    (heffective : s.renderer.guard.Effective) :
    (s.applyResult r now).renderer.guard.config = s.renderer.guard.config ∧
      ((waiting (s.applyResult r now).unit).length = (waiting s.unit).length ∨
        (waiting (s.applyResult r now).unit).length ≤ (waiting s.unit).length + 1 ∧
          s.renderer.guard.spent now < (s.applyResult r now).renderer.guard.spent now) := by
  rcases applyResult_cases s r now with ⟨hunit, h, -⟩ | ⟨t, hunit, h, hreset, -⟩
  · exact ⟨congrArg Guard.config h.resetGuard, .inl (by rw [hunit])⟩
  · obtain ⟨verdict, blank, u, hu, hcompile, -⟩ := exists_resets t now
    rw [← h.resetGuard] at heffective ⊢
    obtain ⟨hunit', hconfig, hspent⟩ := hu.spent_lt heffective
    rw [hreset, hcompile, ← hunit, ← hunit']
    cases blank with
    | false => exact ⟨hconfig, .inl rfl⟩
    | true =>
      obtain ⟨hrenderer, hle⟩ := (ends_compileNow u true now).waiting_le
      rw [if_pos rfl, hrenderer]
      exact ⟨hconfig, .inr ⟨hle, hspent rfl⟩⟩

/-- A waiting response that is applied lowers the bound. -/
theorem toll_applyResult {i : Nat} {r : Response} (hr : (waiting s.unit)[i]? = some r)
    (heffective : s.renderer.guard.Effective) (now : Nat) :
    toll now ((s.withdrawn i).applyResult r now) < toll now s := by
  obtain ⟨hi, -⟩ := List.getElem?_eq_some_iff.1 hr
  have hlength : (waiting (s.withdrawn i).unit).length + 1 = (waiting s.unit).length := by
    rw [withdrawn, waiting_withdraw, List.length_eraseIdx_of_lt hi]
    omega
  have hguard : (s.withdrawn i).renderer.guard = s.renderer.guard := rfl
  obtain ⟨hconfig, hwaiting⟩ := waiting_applyResult (s.withdrawn i) r now heffective
  rw [hguard] at hconfig hwaiting
  have hspent := s.renderer.guard.spent_le now
  have hspent' := ((s.withdrawn i).applyResult r now).renderer.guard.spent_le now
  rw [hconfig] at hspent'
  rw [toll, toll, hconfig, ← hlength, Nat.succ_mul]
  rcases hwaiting with hsame | ⟨hle, hlt⟩
  · rw [hsame]
    omega
  · have hmul := Nat.mul_le_mul_right (s.renderer.guard.config.threshold + 1) hle
    rw [Nat.succ_mul] at hmul
    omega

/-! ### All responses -/

/-- Waiting responses are applied one after another at some instant, in any order, and so may be
those that come meanwhile. -/
inductive Drains (now : Nat) : Session δ σ → List Response → Session δ σ → Prop where
  /-- No more responses are applied. -/
  | nil (s : Session δ σ) : Drains now s [] s
  /-- The response at some place is applied next. -/
  | cons {s t : Session δ σ} {i : Nat} {r : Response} {l : List Response}
    (hr : (waiting s.unit)[i]? = some r) (h : Drains now ((s.withdrawn i).applyResult r now) l t) :
    Drains now s (r :: l) t

variable {l : List Response}

/-- The guard of resets has the same limits for the next response. -/
theorem effective_applyResult (heffective : s.renderer.guard.Effective) (i : Nat) (r : Response)
    (now : Nat) : ((s.withdrawn i).applyResult r now).renderer.guard.Effective :=
  heffective.of_config (waiting_applyResult (s.withdrawn i) r now heffective).1

/-- No more responses are applied than the bound tells. -/
theorem Drains.length_le (h : Drains now s l t) (heffective : s.renderer.guard.Effective) :
    l.length ≤ toll now s := by
  induction h with
  | nil => exact Nat.zero_le _
  | @cons s t i r l hr _ ih =>
    exact Nat.lt_of_le_of_lt (ih (effective_applyResult heffective i r now))
      (toll_applyResult hr heffective now)

/-- The waiting responses can all be applied, with those that come meanwhile. -/
theorem exists_drains (heffective : s.renderer.guard.Effective) (now : Nat) :
    ∃ l t, Drains now s l t ∧ waiting t.unit = [] := by
  induction hn : toll now s using Nat.strongRecOn generalizing s with
  | ind n ih =>
    cases hw : waiting s.unit with
    | nil => exact ⟨[], s, .nil s, hw⟩
    | cons r rest =>
      have hr : (waiting s.unit)[0]? = some r := by rw [hw]; rfl
      have hlt : toll now ((s.withdrawn 0).applyResult r now) < n :=
        hn ▸ toll_applyResult hr heffective now
      obtain ⟨l, t, hdrains, hempty⟩ := ih _ hlt (effective_applyResult heffective 0 r now) rfl
      exact ⟨r :: l, t, .cons hr hdrains, hempty⟩

/-- Responses that are applied let neither guard count further than to its trip. -/
theorem Drains.limited (h : Drains now s l t) (limits : GuardConfig) :
    (s.scheduler.guard.Limited limits → t.scheduler.guard.Limited limits) ∧
      (s.renderer.guard.Limited limits → t.renderer.guard.Limited limits) := by
  induction h with
  | nil => exact ⟨id, id⟩
  | @cons s t i r l _ _ ih =>
    have hparts : Parts now (s.withdrawn i) _ _ := parts_applyResult (s.withdrawn i) r
    exact ⟨fun hs => ih.1 (hparts.limited_scheduler hs),
      fun hs => ih.2 (hparts.limited_renderer hs)⟩

/-- A compile unit that answers each request with the same code. -/
structure EchoUnit where
  /-- The code. -/
  code : String
  /-- The responses that wait. -/
  queue : List Response

instance : AnsweringUnit EchoUnit where
  ready _ := true
  dispatch u request :=
    ({ u with queue := u.queue ++ [⟨request.sequence, .code u.code⟩] }, .ok ())
  waiting u := u.queue
  withdraw u i := { u with queue := u.queue.eraseIdx i }
  waiting_withdraw _ _ := rfl
  waiting_dispatch u request := .inr ⟨⟨request.sequence, .code u.code⟩, rfl⟩

/-- A surface that shows or refuses the next documents as a list tells, and shows all after them. -/
structure ScriptedSurface where
  /-- Whether the next documents are shown. -/
  answers : List Bool

instance : Surface ScriptedSurface where
  present x _ :=
    match x.answers with
    | false :: rest => (⟨rest⟩, .error "refused")
    | true :: rest => (⟨rest⟩, .ok ())
    | [] => (x, .ok ())

/-- A session whose first request is answered, on a surface that shows blank documents only. -/
def echoing : Session EchoUnit ScriptedSurface :=
  (start Config.standard ⟨"", []⟩ ⟨[false, true, false, true, false]⟩ NameMap.empty).compileNow
    false 0

end Session

/-! ### Draining the queue -/

namespace Headless

open Session

variable {engine : Engine}

/-- The first queued response is applied, if there is one. -/
theorem applyNext_cases (s : Run engine) (now : Nat) :
    (s.unit.queue = [] ∧ applyNext s now = none) ∨
    ∃ r, (AnsweringUnit.waiting s.unit)[0]? = some r ∧
      applyNext s now = some (r, (s.withdrawn 0).applyResult r now) := by
  cases hq : s.unit.queue with
  | nil => exact .inl ⟨rfl, by simp only [applyNext, hq]⟩
  | cons r rest =>
    have hwaiting : AnsweringUnit.waiting s.unit = r :: rest := hq
    have hrest : s.withdrawn 0 = { s with unit := { s.unit with queue := rest } } := by
      simp [withdrawn, AnsweringUnit.withdraw, hq]
    exact .inr ⟨r, by rw [hwaiting]; rfl, by simp only [applyNext, hq, hrest]⟩

/-- As many rounds as the waiting responses may account for leave an empty queue. -/
theorem queue_drainFrom {fuel : Nat} {s : Run engine} {now : Nat}
    (heffective : s.renderer.guard.Effective)
    (hfuel : s.unit.queue.length * (s.renderer.guard.config.threshold + 1) ≤ fuel) :
    (drainFrom fuel s now).2.unit.queue = [] := by
  have htoll : toll now s ≤ fuel := Nat.le_trans (Nat.sub_le _ _) hfuel
  clear hfuel
  induction fuel generalizing s with
  | zero =>
    rcases applyNext_cases s now with ⟨hempty, -⟩ | ⟨r, hr, -⟩
    · exact hempty
    · have hlt := toll_applyResult hr heffective now
      omega
  | succ fuel ih =>
    rcases applyNext_cases s now with ⟨hempty, hnext⟩ | ⟨r, hr, hnext⟩
    · simpa only [drainFrom, hnext] using hempty
    · have hlt := toll_applyResult hr heffective now
      have hrest := ih (effective_applyResult heffective 0 r now) (by omega)
      simpa only [drainFrom, hnext] using hrest

end Headless

end LivePreview
