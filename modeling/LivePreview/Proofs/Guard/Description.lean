import LivePreview.Guard.Log
import LivePreview.Proofs.Guard
import Mathlib.Data.List.Chain

/-!
# What a burst guard does, said over its log

A guard keeps a count, an instant and a deadline. Its log says the same without them: a verdict is a
matter of which attempts were allowed and when the guard tripped or was let go. A cooldown runs from
a tripped attempt until it is ended from outside or an attempt comes after its deadline. A streak is
a number of allowed attempts, the last ones of the log, each less than a window after the one before
it and none of them before the end of a cooldown. An attempt trips the guard when it goes on a
streak as long as the threshold.

The streaks of a log are all lengths up to the count, except while a cooldown runs. Then the count
is of no use, for whatever ends the cooldown clears it.

## Main definitions

* `LivePreview.Guard.Cools`: a cooldown runs at the end of a log.
* `LivePreview.Guard.Ends`: a call ends the cooldown, or would if one were running.
* `LivePreview.Guard.Streak`: the allowed attempts of a streak.
* `LivePreview.Guard.Suppresses`, `LivePreview.Guard.Crowds`: what an attempt is suppressed for, and
  what it trips the guard for.
* `LivePreview.Guard.Describes`: a log describes what the guard keeps.

## Main results

* `LivePreview.Guard.Describes.answer`: what the guard does to a call is described by the longer
  log.
* `LivePreview.Guard.verdict_described`: the verdicts are the described ones, the count stays small,
  trips are a threshold apart, and it does not matter who ends a cooldown that is over.
-/

namespace LivePreview.Guard

/-! ### Rules over a log -/

/-- A cooldown that began with an attempt at `t` runs at the end of a log: it was not ended, and no
attempt since came after its deadline. -/
def Cools (config : GuardConfig) (log : List Event) (t : Nat) : Prop :=
  ∃ before since, log = before ++ .checked t .tripped :: since ∧
    ∀ e ∈ since, ∃ now verdict, e = .checked now verdict ∧ now < t + config.cooldown

/-- A call is the end of a cooldown: it ends one from outside, or it is an attempt after the
deadline of the one that runs. -/
def Ends (config : GuardConfig) (log : List Event) : Call → Prop
  | .endCooldown => True
  | .check now => ∃ t, Cools config log t ∧ t + config.cooldown ≤ now

/-- No call of `since`, which follows `log`, is the end of a cooldown. -/
def Calm (config : GuardConfig) (log since : List Event) : Prop :=
  ∀ before e after, since = before ++ e :: after → ¬ Ends config (log ++ before) e.call

/-- An attempt comes less than a window after the last allowed one. -/
def Follows (config : GuardConfig) (log : List Event) (now : Nat) : Prop :=
  ∃ last, (allowed log).getLast? = some last ∧ now - last < config.window

/-- The last `n` allowed attempts of a log come after the end of the latest cooldown, and each of
them less than a window after the one before it. -/
def Streak (config : GuardConfig) (log : List Event) (n : Nat) : Prop :=
  ∃ before first since, log = before ++ .checked first .allowed :: since ∧
    Calm config (before ++ [.checked first .allowed]) since ∧
    (first :: allowed since).length = n ∧
    (first :: allowed since).IsChain fun a b => b - a < config.window

/-- A cooldown runs that is not over. -/
def Suppresses (config : GuardConfig) (log : List Event) (now : Nat) : Prop :=
  ∃ t, Cools config log t ∧ now < t + config.cooldown

/-- The attempt goes on a streak as long as the threshold, and ends no cooldown. -/
def Crowds (config : GuardConfig) (log : List Event) (now : Nat) : Prop :=
  Streak config log config.threshold ∧ ¬ Ends config log (.check now) ∧ Follows config log now

variable {config : GuardConfig} {log : List Event} {g : Guard} {now t n : Nat}

/-! ### One event more -/

/-- A split of a longer list leaves the last element behind, or it is the split there. -/
theorem concat_eq_append_cons_iff {α : Type} {l before since : List α} {a e : α} :
    l ++ [e] = before ++ a :: since ↔
      (since = [] ∧ before = l ∧ a = e) ∨
      ∃ since', since = since' ++ [e] ∧ l = before ++ a :: since' := by
  rcases List.eq_nil_or_concat since with rfl | ⟨since', e', rfl⟩
  · constructor
    · intro h
      obtain ⟨rfl, ha⟩ := List.append_inj' h rfl
      exact .inl ⟨rfl, rfl, (List.singleton_inj.1 ha).symm⟩
    · rintro (⟨-, rfl, rfl⟩ | ⟨since', h, -⟩)
      · rfl
      · simp at h
  · constructor
    · intro h
      rw [List.concat_eq_append, ← List.cons_append, ← List.append_assoc] at h
      obtain ⟨rfl, he⟩ := List.append_inj' h rfl
      exact .inr ⟨since', by rw [List.concat_eq_append, List.singleton_inj.1 he], rfl⟩
    · rintro (⟨h, -, -⟩ | ⟨since'', h, rfl⟩)
      · simp at h
      · rw [h]
        simp

@[simp] theorem allowed_nil : allowed [] = [] := rfl

theorem allowed_append (log since : List Event) :
    allowed (log ++ since) = allowed log ++ allowed since :=
  List.filterMap_append

@[simp] theorem allowed_singleton (e : Event) : allowed [e] = e.allowed?.toList := by
  cases h : e.allowed? <;> simp [allowed, h]

theorem not_cools_nil : ¬ Cools config [] t := by
  rintro ⟨before, since, h, -⟩
  simp at h

/-- A cooldown runs after one event more if it began there, or ran before and was not ended. -/
theorem cools_concat_iff (e : Event) :
    Cools config (log ++ [e]) t ↔
      e = .checked t .tripped ∨
        Cools config log t ∧
          ∃ now verdict, e = .checked now verdict ∧ now < t + config.cooldown := by
  constructor
  · rintro ⟨before, since, hlog, hsince⟩
    rcases concat_eq_append_cons_iff.1 hlog with ⟨-, -, he⟩ | ⟨since', rfl, hlog'⟩
    · exact .inl he.symm
    · refine .inr ⟨⟨before, since', hlog', fun e' he' => hsince e' ?_⟩, hsince e ?_⟩ <;> simp [*]
  · rintro (rfl | ⟨⟨before, since, rfl, hsince⟩, he⟩)
    · exact ⟨log, [], rfl, by simp⟩
    · refine ⟨before, since ++ [e], by simp, fun e' he' => ?_⟩
      rcases List.mem_append.1 he' with he' | he'
      · exact hsince e' he'
      · rw [List.mem_singleton.1 he']
        exact he

theorem calm_nil : Calm config log [] := by
  intro before e after h
  simp at h

/-- One event more is calm if it is not the end of a cooldown. -/
theorem calm_concat_iff {since : List Event} (e : Event) :
    Calm config log (since ++ [e]) ↔
      Calm config log since ∧ ¬ Ends config (log ++ since) e.call := by
  constructor
  · intro h
    refine ⟨fun before e' after hsince => ?_, h since e [] rfl⟩
    exact h before e' (after ++ [e]) (by simp [hsince])
  · rintro ⟨hsince, he⟩ before e' after h
    rcases concat_eq_append_cons_iff.1 h with ⟨-, rfl, rfl⟩ | ⟨after', -, hafter⟩
    · exact he
    · exact hsince before e' after' hafter

/-- The last allowed attempt is that of the events since it. -/
theorem getLast?_allowed_append (before : List Event) (first : Nat) (since : List Event) :
    (allowed (before ++ .checked first .allowed :: since)).getLast? =
      (first :: allowed since).getLast? := by
  have h : allowed (before ++ .checked first .allowed :: since) =
      allowed before ++ (first :: allowed since) := by
    rw [allowed_append]
    rfl
  rw [h, List.getLast?_append, List.getLast?_cons]
  rfl

theorem getLast?_allowed_concat :
    (allowed (log ++ [.checked now .allowed])).getLast? = some now :=
  getLast?_allowed_append log now []

/-- An allowed attempt is a streak, and goes on every streak that it follows. -/
theorem streak_concat_allowed_iff :
    Streak config (log ++ [.checked now .allowed]) n ↔
      n = 1 ∨ ∃ k, n = k + 1 ∧ Streak config log k ∧
        ¬ Ends config log (.check now) ∧ Follows config log now := by
  constructor
  · rintro ⟨before, first, since, hlog, hcalm, hlength, hchain⟩
    rcases concat_eq_append_cons_iff.1 hlog with ⟨rfl, -, -⟩ | ⟨since', rfl, hlog'⟩
    · exact .inl (by simpa using hlength.symm)
    · obtain ⟨hcalm', hends⟩ := (calm_concat_iff _).1 hcalm
      have hallowed : first :: allowed (since' ++ [.checked now .allowed]) =
          (first :: allowed since') ++ [now] := by
        simp [allowed_append, Event.allowed?]
      rw [hallowed] at hlength hchain
      obtain ⟨hchain', -, hlast⟩ := List.isChain_append.1 hchain
      obtain ⟨last, hget⟩ : ∃ last, (first :: allowed since').getLast? = some last := by
        simp [List.getLast?_cons]
      refine .inr ⟨_, by simpa using hlength.symm, ⟨before, first, since', hlog', hcalm', rfl,
        hchain'⟩, ?_, last, ?_, hlast last hget now rfl⟩
      · simpa [hlog', Event.call] using hends
      · rw [hlog', getLast?_allowed_append, hget]
  · rintro (rfl | ⟨k, rfl, ⟨before, first, since, rfl, hcalm, hlength, hchain⟩, hends, last, hlast,
      hwindow⟩)
    · exact ⟨log, now, [], rfl, calm_nil, rfl, by simp⟩
    · have hallowed : first :: allowed (since ++ [.checked now .allowed]) =
          (first :: allowed since) ++ [now] := by
        simp [allowed_append, Event.allowed?]
      refine ⟨before, first, since ++ [.checked now .allowed], by simp, ?_, ?_, ?_⟩
      · refine (calm_concat_iff _).2 ⟨hcalm, ?_⟩
        simpa [Event.call] using hends
      · rw [hallowed, List.length_append, hlength]
        rfl
      · rw [hallowed]
        rw [getLast?_allowed_append] at hlast
        refine List.isChain_append.2 ⟨hchain, by simp, ?_⟩
        intro a ha b hb
        obtain rfl : last = a := Option.some.inj (hlast.symm.trans ha)
        obtain rfl : now = b := by simpa using hb
        exact hwindow

/-- No streak outlives the end of a cooldown. -/
theorem not_streak_concat_ended : ¬ Streak config (log ++ [.ended]) n := by
  rintro ⟨before, first, since, hlog, hcalm, -, -⟩
  rcases concat_eq_append_cons_iff.1 hlog with ⟨-, -, he⟩ | ⟨since', rfl, -⟩
  · cases he
  · exact ((calm_concat_iff _).1 hcalm).2 trivial

theorem not_streak_nil : ¬ Streak config [] n := by
  rintro ⟨before, first, since, hlog, -⟩
  simp at hlog

/-! ### What the guard keeps -/

/-- A log describes what a guard keeps. -/
structure Describes (config : GuardConfig) (log : List Event) (g : Guard) : Prop where
  /-- The limits are those of the guard. -/
  config_eq : g.config = config
  /-- The instant is that of the last allowed attempt. -/
  lastAllowed : g.lastAllowed = (allowed log).getLast?
  /-- The deadline is that of the cooldown that runs. -/
  cools : ∀ t, Cools config log t ↔ g.coolingUntil = some (t + config.cooldown)
  /-- Every deadline is that of some cooldown. -/
  deadline : ∀ deadline, g.coolingUntil = some deadline → ∃ t, deadline = t + config.cooldown
  /-- The count is at most one more than the threshold. -/
  burst_le : g.burst ≤ config.threshold + 1
  /-- The count is within the threshold unless a cooldown runs. -/
  within : g.coolingUntil = none → g.burst ≤ config.threshold
  /-- The streaks are all lengths up to the count unless a cooldown runs. -/
  streak : g.coolingUntil = none → ∀ k, 1 ≤ k → (Streak config log k ↔ k ≤ g.burst)

/-- A guard that is about to count an attempt, after it ended a cooldown that is over. -/
structure Ready (config : GuardConfig) (log : List Event) (now : Nat) (g : Guard) : Prop where
  /-- The limits are those of the guard. -/
  config_eq : g.config = config
  /-- The instant is that of the last allowed attempt. -/
  lastAllowed : g.lastAllowed = (allowed log).getLast?
  /-- No cooldown runs any more. -/
  cooled : g.coolingUntil = none
  /-- The cooldown that ran is over. -/
  expired : ∀ t, Cools config log t → t + config.cooldown ≤ now
  /-- The count is within the threshold. -/
  within : g.burst ≤ config.threshold
  /-- The streaks that the attempt can go on are all lengths up to the count. -/
  streak : ∀ k, 1 ≤ k → (Streak config log k ∧ ¬ Ends config log (.check now) ↔ k ≤ g.burst)

theorem describes_ofConfig (config : GuardConfig) : Describes config [] (ofConfig config) where
  config_eq := rfl
  lastAllowed := rfl
  cools t := by simp [not_cools_nil, ofConfig]
  deadline := by simp [ofConfig]
  burst_le := Nat.zero_le _
  within _ := Nat.zero_le _
  streak _ k hk := by
    have hburst : ¬ k ≤ (ofConfig config).burst := by
      simp only [ofConfig]
      omega
    simp [not_streak_nil, hburst]

/-- Without a cooldown an attempt may be counted at once. -/
theorem Describes.ready (h : Describes config log g) (hnone : g.coolingUntil = none) :
    Ready config log now g where
  config_eq := h.config_eq
  lastAllowed := h.lastAllowed
  cooled := hnone
  expired t ht := by
    simp [(h.cools t).1 ht] at hnone
  within := h.within hnone
  streak k hk := by
    have hends : ¬ Ends config log (.check now) := by
      rintro ⟨t, ht, -⟩
      simp [(h.cools t).1 ht] at hnone
    rw [h.streak hnone k hk]
    simp [hends]

/-- A cooldown that is over is ended before the attempt is counted. -/
theorem Describes.ready_endCooldown (h : Describes config log g) (hcooled : g.cooledBy now = true) :
    Ready config log now g.endCooldown where
  config_eq := h.config_eq
  lastAllowed := h.lastAllowed
  cooled := rfl
  expired t ht := by simpa [cooledBy, (h.cools t).1 ht] using hcooled
  within := Nat.zero_le _
  streak k hk := by
    have hends : Ends config log (.check now) := by
      cases hd : g.coolingUntil with
      | none => simp [cooledBy, hd] at hcooled
      | some deadline =>
        obtain ⟨t, rfl⟩ := h.deadline deadline hd
        exact ⟨t, (h.cools t).2 hd, by simpa [cooledBy, hd] using hcooled⟩
    have hburst : ¬ k ≤ g.endCooldown.burst := by
      simp only [endCooldown]
      omega
    simp [hends, hburst]

/-- The window is that since the last allowed attempt of the log. -/
theorem Ready.inWindow_iff (h : Ready config log now g) :
    g.inWindow now = true ↔ Follows config log now := by
  rw [Follows, ← h.lastAllowed, ← h.config_eq]
  cases hlast : g.lastAllowed with
  | none => simp [inWindow, hlast]
  | some last => simp [inWindow, hlast]

/-- An attempt crowds when it comes in the window and the count is up to the threshold. -/
theorem Ready.crowds_iff (h : Ready config log now g) (hpos : 1 ≤ config.threshold) :
    Crowds config log now ↔ config.threshold ≤ g.burst ∧ g.inWindow now = true := by
  rw [← h.streak _ hpos, h.inWindow_iff, Crowds, and_assoc]

/-- No cooldown runs after an allowed attempt. -/
theorem Ready.not_cools (h : Ready config log now g) :
    ¬ Cools config (log ++ [.checked now .allowed]) t := by
  rw [cools_concat_iff]
  rintro (he | ⟨ht, now', verdict, he, hlt⟩)
  · simp at he
  · obtain ⟨rfl, -⟩ := Event.checked.inj he
    exact absurd (h.expired t ht) (Nat.not_le.2 hlt)

/-- The guard trips: a cooldown begins, and no other can be running. -/
theorem Ready.tripped (h : Ready config log now g) :
    Describes config (log ++ [.checked now .tripped])
      { g with burst := g.burst + 1, coolingUntil := some (now + g.config.cooldown) } where
  config_eq := h.config_eq
  lastAllowed := by simpa [allowed_append, Event.allowed?] using h.lastAllowed
  cools t := by
    rw [cools_concat_iff]
    constructor
    · rintro (he | ⟨ht, now', verdict, he, hlt⟩)
      · obtain ⟨rfl, -⟩ := Event.checked.inj he
        rw [h.config_eq]
      · obtain ⟨rfl, -⟩ := Event.checked.inj he
        exact absurd (h.expired t ht) (Nat.not_le.2 hlt)
    · intro ht
      obtain rfl : now = t := by simpa [h.config_eq] using ht
      exact .inl rfl
  deadline deadline hdeadline := ⟨now, h.config_eq ▸ (Option.some.inj hdeadline).symm⟩
  burst_le := Nat.succ_le_succ h.within
  within := by simp
  streak := by simp

/-- An attempt in the window goes on the streaks up to the count. -/
theorem Ready.continued (h : Ready config log now g) (hw : g.inWindow now = true)
    (hle : g.burst + 1 ≤ config.threshold) :
    Describes config (log ++ [.checked now .allowed])
      { g with burst := g.burst + 1, lastAllowed := some now } where
  config_eq := h.config_eq
  lastAllowed := getLast?_allowed_concat.symm
  cools t := by simp [h.not_cools, h.cooled]
  deadline := by simp [h.cooled]
  burst_le := Nat.le_succ_of_le hle
  within _ := hle
  streak _ k hk := by
    rw [streak_concat_allowed_iff]
    constructor
    · rintro (rfl | ⟨k', rfl, hstreak, hends, -⟩)
      · exact Nat.le_add_left 1 g.burst
      · rcases Nat.eq_zero_or_pos k' with rfl | hk'
        · exact Nat.le_add_left 1 g.burst
        · exact Nat.succ_le_succ ((h.streak k' hk').1 ⟨hstreak, hends⟩)
    · intro hkburst
      obtain ⟨k, rfl⟩ := Nat.exists_eq_add_of_le' hk
      rcases Nat.eq_zero_or_pos k with rfl | hk'
      · exact .inl rfl
      · obtain ⟨hstreak, hends⟩ := (h.streak k hk').2 (Nat.le_of_succ_le_succ hkburst)
        exact .inr ⟨k, rfl, hstreak, hends, h.inWindow_iff.1 hw⟩

/-- An attempt after the window is a streak of its own. -/
theorem Ready.restarted (h : Ready config log now g) (hw : g.inWindow now = false)
    (hpos : 1 ≤ config.threshold) :
    Describes config (log ++ [.checked now .allowed])
      { g with burst := 1, lastAllowed := some now } where
  config_eq := h.config_eq
  lastAllowed := getLast?_allowed_concat.symm
  cools t := by simp [h.not_cools, h.cooled]
  deadline := by simp [h.cooled]
  burst_le := Nat.le_add_left 1 config.threshold
  within _ := hpos
  streak _ k hk := by
    have hfollows : ¬ Follows config log now := by simp [← h.inWindow_iff, hw]
    rw [streak_concat_allowed_iff]
    simp only [hfollows, and_false, exists_const, or_false]
    exact ⟨Nat.le_of_eq, fun hle => Nat.le_antisymm hle hk⟩

/-- An attempt that is counted trips the guard exactly when it crowds. -/
theorem Ready.count (h : Ready config log now g) (hpos : 1 ≤ config.threshold) :
    (((g.count now).1 = .tripped ∧ Crowds config log now) ∨
      ((g.count now).1 = .allowed ∧ ¬ Crowds config log now)) ∧
    Describes config (log ++ [.checked now (g.count now).1]) (g.count now).2 := by
  rw [h.crowds_iff hpos]
  rcases count_cases g now with ⟨hw, hlt, hg⟩ | ⟨hw, hle, hg⟩ | ⟨hw, hg⟩ <;> rw [hg]
  · rw [h.config_eq] at hlt
    exact ⟨.inl ⟨rfl, Nat.le_of_lt_succ hlt, hw⟩, h.tripped⟩
  · rw [h.config_eq] at hle
    exact ⟨.inr ⟨rfl, fun hc => Nat.not_succ_le_self _ (hle.trans hc.1)⟩, h.continued hw hle⟩
  · exact ⟨.inr ⟨rfl, fun hc => by simp [hw] at hc⟩, h.restarted hw hpos⟩

/-- An attempt during a cooldown is suppressed, and changes nothing. -/
theorem Describes.suppressed (h : Describes config log g) {deadline : Nat}
    (hdeadline : g.coolingUntil = some deadline) (hlt : now < deadline) :
    Describes config (log ++ [.checked now .suppressed]) g := by
  have hcooling : g.coolingUntil ≠ none := by simp [hdeadline]
  refine ⟨h.config_eq, ?_, fun t => ?_, h.deadline, h.burst_le, h.within, fun hnone => ?_⟩
  · simpa [allowed_append, Event.allowed?] using h.lastAllowed
  · rw [cools_concat_iff, h.cools t]
    constructor
    · rintro (he | ⟨ht, -⟩)
      · simp at he
      · exact ht
    · intro ht
      obtain rfl : deadline = t + config.cooldown := Option.some.inj (hdeadline.symm.trans ht)
      exact .inr ⟨ht, now, .suppressed, rfl, hlt⟩
  · exact absurd hnone hcooling

/-- Nothing is left of a cooldown and a count that were ended from outside. -/
theorem Describes.endCooldown (h : Describes config log g) :
    Describes config (log ++ [.ended]) g.endCooldown := by
  refine ⟨h.config_eq, ?_, fun t => ?_, by simp [Guard.endCooldown], Nat.zero_le _,
    fun _ => Nat.zero_le _, fun _ k hk => ?_⟩
  · simpa [allowed_append, Event.allowed?, Guard.endCooldown] using h.lastAllowed
  · rw [cools_concat_iff]
    simp [Guard.endCooldown]
  · have hburst : ¬ k ≤ g.endCooldown.burst := by
      simp only [Guard.endCooldown]
      omega
    simp [not_streak_concat_ended, hburst]

/-- The verdict that a log calls for. -/
inductive Warrants (config : GuardConfig) (log : List Event) (now : Nat) : Verdict → Prop where
  /-- A cooldown runs that is not over. -/
  | suppressed (h : Suppresses config log now) : Warrants config log now .suppressed
  /-- The attempt is one too many. -/
  | tripped (hs : ¬ Suppresses config log now) (h : Crowds config log now) :
      Warrants config log now .tripped
  /-- There is nothing against the attempt. -/
  | allowed (hs : ¬ Suppresses config log now) (h : ¬ Crowds config log now) :
      Warrants config log now .allowed

/-- A log calls for one verdict. -/
theorem Warrants.unique {verdict verdict' : Verdict} (h : Warrants config log now verdict)
    (h' : Warrants config log now verdict') : verdict = verdict' := by
  cases h <;> cases h' <;> first | rfl | contradiction

/-- An attempt that is counted is not suppressed. -/
theorem Ready.warrants (h : Ready config log now g) (hpos : 1 ≤ config.threshold) :
    Warrants config log now (g.count now).1 := by
  have hs : ¬ Suppresses config log now := by
    rintro ⟨t, ht, hlt⟩
    exact absurd (h.expired t ht) (Nat.not_le.2 hlt)
  rcases (h.count hpos).1 with ⟨hverdict, hcrowds⟩ | ⟨hverdict, hcrowds⟩
  · exact hverdict ▸ .tripped hs hcrowds
  · exact hverdict ▸ .allowed hs hcrowds

/-- The verdict is the one that the log calls for, and the longer log describes what comes of it. -/
theorem Describes.check (h : Describes config log g) (hpos : 1 ≤ config.threshold) (now : Nat) :
    Warrants config log now (g.check now).1 ∧
      Describes config (log ++ [.checked now (g.check now).1]) (g.check now).2 := by
  rcases check_cases g now with ⟨hnone, hg⟩ | ⟨deadline, hdeadline, hlt, hg⟩ | ⟨hcooled, hg⟩ <;>
    rw [hg]
  · exact ⟨(h.ready hnone).warrants hpos, ((h.ready hnone).count hpos).2⟩
  · obtain ⟨t, rfl⟩ := h.deadline deadline hdeadline
    exact ⟨.suppressed ⟨t, (h.cools t).2 hdeadline, hlt⟩, h.suppressed hdeadline hlt⟩
  · have hready := h.ready_endCooldown hcooled
    exact ⟨hready.warrants hpos, (hready.count hpos).2⟩

/-- What the guard does to a call is described by the longer log. -/
theorem Describes.answer (h : Describes config log g) (hpos : 1 ≤ config.threshold) (call : Call) :
    Describes config (log ++ [(g.answer call).1]) (g.answer call).2 := by
  cases call with
  | check now => exact (h.check hpos now).2
  | endCooldown => exact h.endCooldown

/-- What the guard does to some calls is described by their log. -/
theorem Describes.after (h : Describes config log g) (hpos : 1 ≤ config.threshold)
    (calls : List Call) : Describes config (log ++ g.log calls) (g.after calls) := by
  induction calls generalizing g log with
  | nil => simpa [Guard.log, Guard.after] using h
  | cons call calls ih => simpa [Guard.log, Guard.after] using ih (h.answer hpos call)

/-! ### Trips -/

/-- The count, unless a cooldown runs, whose end will clear it. -/
def live (g : Guard) : Nat := if g.coolingUntil = none then g.burst else 0

/-- An attempt adds at most one to the count, and only if it is allowed. -/
theorem live_check (g : Guard) (now : Nat) :
    (g.check now).2.live ≤
      g.live + (allowed [.checked now (g.check now).1]).length := by
  have hcount {g : Guard} (hnone : g.coolingUntil = none) :
      (g.count now).2.live ≤ g.burst + (allowed [.checked now (g.count now).1]).length := by
    rcases count_cases g now with ⟨-, -, hg⟩ | ⟨-, -, hg⟩ | ⟨-, hg⟩ <;> rw [hg] <;>
      simp [live, hnone, Event.allowed?]
  rcases check_cases g now with ⟨hnone, hg⟩ | ⟨-, -, -, hg⟩ | ⟨-, hg⟩ <;> rw [hg]
  · have hlive : g.live = g.burst := by simp [live, hnone]
    rw [hlive]
    exact hcount hnone
  · exact Nat.le_add_right _ _
  · have := hcount (g := g.endCooldown) rfl
    simp only [endCooldown] at this ⊢
    omega

/-- The calls of a run add at most the allowed attempts to the count. -/
theorem live_after (g : Guard) (calls : List Call) :
    (g.after calls).live ≤ g.live + (allowed (g.log calls)).length := by
  induction calls generalizing g with
  | nil => exact Nat.le_add_right _ _
  | cons call calls ih =>
    have hcall : (g.answer call).2.live ≤ g.live + (allowed [(g.answer call).1]).length := by
      cases call with
      | check now => exact live_check g now
      | endCooldown => simp [answer, endCooldown, live]
    have hlog : allowed (g.log (call :: calls)) =
        allowed [(g.answer call).1] ++ allowed ((g.answer call).2.log calls) :=
      allowed_append [(g.answer call).1] _
    rw [hlog, List.length_append]
    exact Nat.le_trans (ih _) (by omega)

/-- A guard that trips has counted as many attempts as the threshold, and begins anew. -/
theorem live_of_tripped (hpos : 1 ≤ g.config.threshold) (h : (g.check now).1 = .tripped) :
    g.config.threshold ≤ g.live ∧ (g.check now).2.live = 0 := by
  have hcount {g : Guard} (h : (g.count now).1 = .tripped) :
      g.config.threshold ≤ g.burst ∧ (g.count now).2.live = 0 := by
    rcases count_cases g now with ⟨-, hlt, hg⟩ | ⟨-, -, hg⟩ | ⟨-, hg⟩ <;> rw [hg] at h ⊢
    · exact ⟨Nat.le_of_lt_succ hlt, by simp [live]⟩
    · cases h
    · cases h
  rcases check_cases g now with ⟨hnone, hg⟩ | ⟨-, -, -, hg⟩ | ⟨-, hg⟩ <;> rw [hg] at h ⊢
  · simpa [live, hnone] using hcount h
  · cases h
  · have := (hcount h).1
    exact absurd this (Nat.not_le.2 hpos)

/-! ### Runs -/

theorem after_append (g : Guard) (calls more : List Call) :
    g.after (calls ++ more) = (g.after calls).after more := by
  induction calls generalizing g with
  | nil => rfl
  | cons call calls ih => exact ih _

theorem log_append (g : Guard) (calls more : List Call) :
    g.log (calls ++ more) = g.log calls ++ (g.after calls).log more := by
  induction calls generalizing g with
  | nil => rfl
  | cons call calls ih => simp [log, after, ih]

/-- An event of a log comes from a call. -/
theorem exists_of_log_eq_append_cons {calls : List Call} {before since : List Event} {e : Event}
    (h : g.log calls = before ++ e :: since) :
    ∃ first call rest, calls = first ++ call :: rest ∧ g.log first = before ∧
      ((g.after first).answer call).1 = e ∧ ((g.after first).answer call).2.log rest = since := by
  induction before generalizing g calls with
  | nil =>
    cases calls with
    | nil => simp [log] at h
    | cons call calls =>
      obtain ⟨he, hsince⟩ := List.cons.inj h
      exact ⟨[], call, calls, rfl, rfl, he, hsince⟩
  | cons e' before ih =>
    cases calls with
    | nil => simp [log] at h
    | cons call calls =>
      obtain ⟨rfl, hlog⟩ := List.cons.inj h
      obtain ⟨first, call', rest, rfl, rfl, he, hsince⟩ := ih hlog
      exact ⟨call :: first, call', rest, rfl, rfl, he, hsince⟩

/-- A tripped attempt of a log comes from an attempt. -/
theorem exists_of_log_tripped {calls : List Call} {before since : List Event}
    (h : g.log calls = before ++ .checked t .tripped :: since) :
    ∃ first rest, ((g.after first).check t).1 = .tripped ∧
      ((g.after first).check t).2.log rest = since := by
  obtain ⟨first, call, rest, -, -, he, hsince⟩ := exists_of_log_eq_append_cons h
  cases call with
  | endCooldown => cases he
  | check now =>
    obtain ⟨rfl, hverdict⟩ := Event.checked.inj he
    exact ⟨first, rest, hverdict, hsince⟩

theorem config_answer (g : Guard) (call : Call) : (g.answer call).2.config = g.config := by
  cases call with
  | check now => exact config_check g now
  | endCooldown => rfl

@[simp] theorem config_after (g : Guard) (calls : List Call) :
    (g.after calls).config = g.config := by
  induction calls generalizing g with
  | nil => rfl
  | cons call calls ih => exact (ih _).trans (config_answer g call)

/-- Between two tripped attempts as many are allowed as the threshold. -/
theorem threshold_le_allowed (hpos : 1 ≤ g.config.threshold) {calls : List Call}
    {before between since : List Event} {t' : Nat}
    (h : g.log calls =
      before ++ .checked t .tripped :: (between ++ .checked t' .tripped :: since)) :
    g.config.threshold ≤ (allowed between).length := by
  obtain ⟨first, rest, htrip, hrest⟩ := exists_of_log_tripped h
  obtain ⟨second, call, last, -, hsecond, he, -⟩ := exists_of_log_eq_append_cons hrest
  have hzero := (live_of_tripped (by simpa using hpos) htrip).2
  have hafter := live_after ((g.after first).check t).2 second
  rw [hzero, hsecond, Nat.zero_add] at hafter
  have hconfig : (((g.after first).check t).2.after second).config = g.config := by
    simp [config_check]
  refine Nat.le_trans ?_ hafter
  cases call with
  | endCooldown => cases he
  | check now =>
    obtain ⟨-, hverdict⟩ := Event.checked.inj he
    rw [← hconfig]
    exact (live_of_tripped (by rw [hconfig]; exact hpos) hverdict).1

/-- It does not matter who ends a cooldown that is over. -/
theorem check_endCooldown (h : g.cooledBy now = true) : g.endCooldown.check now = g.check now := by
  rcases check_cases g now with ⟨hnone, -⟩ | ⟨deadline, hdeadline, hlt, -⟩ | ⟨-, hg⟩
  · simp [cooledBy, hnone] at h
  · have : deadline ≤ now := by simpa [cooledBy, hdeadline] using h
    omega
  · exact hg.symm

theorem verdicts_append (log since : List Event) :
    verdicts (log ++ since) = verdicts log ++ verdicts since :=
  List.filterMap_append

/-- Ending a cooldown that is over changes no verdict, now or later. -/
theorem verdicts_endCooldown (h : g.cooledBy now = true) (more : List Call) :
    verdicts (g.log (.endCooldown :: .check now :: more)) =
      verdicts (g.log (.check now :: more)) := by
  have hcheck : g.endCooldown.answer (.check now) = g.answer (.check now) := by
    simp only [Guard.answer, check_endCooldown h]
  have hlog : g.log (.endCooldown :: .check now :: more) =
      .ended :: g.log (.check now :: more) := by
    change _ :: _ :: _ = _ :: _ :: _
    rw [show (g.answer .endCooldown).2 = g.endCooldown from rfl, hcheck]
    rfl
  rw [hlog]
  rfl

/-! ### The description -/

/-- What a guard does to its calls, whatever their instants, is what its log calls for. An attempt
is suppressed during a cooldown, and changes nothing then. Any other trips the guard when it goes on
a streak as long as the threshold, and is allowed otherwise. The count stays in the range of its
type, two tripped attempts have as many allowed ones between them as the threshold, and a cooldown
that is over may be ended from outside or by the next attempt. -/
theorem verdict_described (config : GuardConfig) (hpos : 1 ≤ config.threshold)
    (hmax : config.threshold + 1 < UInt32.size) (calls : List Call) (now : Nat) :
    let g := (ofConfig config).after calls
    let log := (ofConfig config).log calls
    ((g.check now).1 = .suppressed ↔ Suppresses config log now) ∧
    ((g.check now).1 = .suppressed → (g.check now).2 = g) ∧
    ((g.check now).1 = .tripped ↔ ¬ Suppresses config log now ∧ Crowds config log now) ∧
    ((g.check now).1 = .allowed ↔ ¬ Suppresses config log now ∧ ¬ Crowds config log now) ∧
    (g.burst ≤ config.threshold + 1 ∧ g.burst < UInt32.size) ∧
    (∀ before t between t' since,
      log = before ++ .checked t .tripped :: (between ++ .checked t' .tripped :: since) →
        config.threshold ≤ (allowed between).length) ∧
    ∀ deadline, g.coolingUntil = some deadline → deadline ≤ now → ∀ more,
      verdicts ((ofConfig config).log (calls ++ .endCooldown :: .check now :: more)) =
        verdicts ((ofConfig config).log (calls ++ .check now :: more)) := by
  intro g log
  have hdescribes : Describes config log g := (describes_ofConfig config).after hpos calls
  have hverdict (verdict : Verdict) :
      (g.check now).1 = verdict ↔ Warrants config log now verdict := by
    have hwarrants := (hdescribes.check hpos now).1
    constructor
    · intro h
      exact h ▸ hwarrants
    · exact hwarrants.unique
  refine ⟨?_, fun h => ?_, ?_, ?_, ⟨hdescribes.burst_le, ?_⟩, ?_, ?_⟩
  · rw [hverdict]
    exact ⟨fun | .suppressed h => h, .suppressed⟩
  · exact eq_of_check_suppressed (Prod.ext h rfl)
  · rw [hverdict]
    exact ⟨fun | .tripped hs h => ⟨hs, h⟩, fun h => .tripped h.1 h.2⟩
  · rw [hverdict]
    exact ⟨fun | .allowed hs h => ⟨hs, h⟩, fun h => .allowed h.1 h.2⟩
  · exact Nat.lt_of_le_of_lt hdescribes.burst_le hmax
  · intro before t between t' since hlog
    exact threshold_le_allowed hpos hlog
  · intro deadline hdeadline hle more
    rw [log_append, log_append, verdicts_append, verdicts_append,
      verdicts_endCooldown (cooledBy_of_le hdeadline hle)]

/-- A third attempt within the window crowds, and one during the cooldown is suppressed. -/
theorem verdict_described_burst :
    Crowds ⟨1000, 2, 2000⟩ ((ofConfig ⟨1000, 2, 2000⟩).log [.check 0, .check 100]) 200 ∧
      Suppresses ⟨1000, 2, 2000⟩
        ((ofConfig ⟨1000, 2, 2000⟩).log [.check 0, .check 100, .check 200]) 50 := by
  have htripped :=
    verdict_described ⟨1000, 2, 2000⟩ (by decide) (by decide) [.check 0, .check 100] 200
  have hsuppressed := verdict_described ⟨1000, 2, 2000⟩ (by decide) (by decide)
    [.check 0, .check 100, .check 200] 50
  exact ⟨(htripped.2.2.1.1 (by decide)).2, hsuppressed.1.1 (by decide)⟩

end LivePreview.Guard
