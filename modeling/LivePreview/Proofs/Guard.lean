import LivePreview.Guard

/-!
# The rate of a burst guard

A guard remembers the last allowed attempt and how many attempts its burst has. That is enough to
bound what it allows: in no interval as long as its window does it allow more attempts than its
threshold, if time does not go backwards and a cooldown is no shorter than the window. A burst that
goes on counts at least what was allowed in any interval around the last allowed attempt. A cooldown
clears the count, but when it is over, the last allowed attempt is a whole window ago.

The count never passes the threshold by more than one, for the attempt that does is the one that
trips the guard. So it fits its 32 bits, if there are any numbers of 32 bits above the threshold.

## Main definitions

* `LivePreview.Guard.Limited`: a guard that has not counted further than to its trip.
* `LivePreview.Guard.FitsUntilTripped`: no attempt before the trip has had too high a count.
* `LivePreview.Guard.countIn`: the number of instants in an interval.
* `LivePreview.Guard.Tracks`: a guard that has allowed the attempts at some instants.
* `LivePreview.Guard.Paces`: a guard that keeps what happens at some instants within its limits.

## Main results

* `LivePreview.Guard.count_cases`: the three ways to count an attempt.
* `LivePreview.Guard.Limited.moved`: whatever a guard goes through, it counts no further.
* `LivePreview.Guard.Limited.fitsUntilTripped`: where the count of a guard does not fit.
* `LivePreview.Guard.Tracks.check`, `LivePreview.Guard.Tracks.endCooldown`: what a guard does keeps
  track.
* `LivePreview.Guard.Paces.moved`: whatever a guard goes through, it keeps within the limits.
* `LivePreview.Guard.Paces.countIn_le`: what needs an allowed attempt happens within the limits.
-/

namespace LivePreview.Guard

/-- The number of instants in the half-open interval of a length that starts at `start`. -/
def countIn (start length : Nat) (instants : List Nat) : Nat :=
  instants.countP fun t => start ≤ t ∧ t < start + length

variable {g g' : Guard} {now : Nat} {allowed : List Nat}

/-! ### The verdicts -/

/-- An attempt in the window trips the guard or adds to the burst; any other starts a burst. -/
theorem count_cases (g : Guard) (now : Nat) :
    (g.inWindow now = true ∧ g.config.threshold < g.burst + 1 ∧
      g.count now =
        (.tripped, { g with
          burst := g.burst + 1, coolingUntil := some (now + g.config.cooldown) })) ∨
    (g.inWindow now = true ∧ g.burst + 1 ≤ g.config.threshold ∧
      g.count now = (.allowed, { g with burst := g.burst + 1, lastAllowed := some now })) ∨
    (g.inWindow now = false ∧
      g.count now = (.allowed, { g with burst := 1, lastAllowed := some now })) := by
  cases hw : g.inWindow now with
  | false => simp [count, hw]
  | true =>
    by_cases hburst : g.config.threshold < g.burst + 1
    · simp [count, hw, hburst]
    · simp [count, hw, hburst, Nat.le_of_not_lt hburst]

/-- An attempt is suppressed during a cooldown, and otherwise counted, after a cooldown that is over
was ended. -/
theorem check_cases (g : Guard) (now : Nat) :
    (g.coolingUntil = none ∧ g.check now = g.count now) ∨
    (∃ deadline, g.coolingUntil = some deadline ∧ now < deadline ∧
      g.check now = (.suppressed, g)) ∨
    (g.cooledBy now = true ∧ g.check now = g.endCooldown.count now) := by
  cases hc : g.coolingUntil with
  | none => simp [check, hc]
  | some deadline =>
    by_cases hlt : now < deadline
    · simp [check, hc, hlt]
    · simp [check, hc, hlt, cooledBy, Nat.le_of_not_lt hlt]

/-- An attempt that is counted is not suppressed. -/
theorem count_ne_suppressed (g : Guard) (now : Nat) : (g.count now).1 ≠ .suppressed := by
  rcases count_cases g now with ⟨-, -, hg⟩ | ⟨-, -, hg⟩ | ⟨-, hg⟩ <;> simp [hg]

/-- An attempt is suppressed only during a cooldown, and leaves no trace. -/
theorem of_check_suppressed (h : g.check now = (.suppressed, g')) :
    g' = g ∧ ∃ deadline, g.coolingUntil = some deadline ∧ now < deadline := by
  rcases check_cases g now with ⟨-, hg⟩ | ⟨deadline, hdeadline, hlt, hg⟩ | ⟨-, hg⟩
  · exact absurd (congrArg Prod.fst (hg.symm.trans h)) (count_ne_suppressed g now)
  · exact ⟨(Prod.mk.inj (hg.symm.trans h)).2.symm, deadline, hdeadline, hlt⟩
  · exact absurd (congrArg Prod.fst (hg.symm.trans h)) (count_ne_suppressed _ now)

/-- A suppressed attempt leaves no trace. -/
theorem eq_of_check_suppressed (h : g.check now = (.suppressed, g')) : g' = g :=
  (of_check_suppressed h).1

/-- A guard that trips cools down from then on. -/
theorem coolingUntil_of_tripped (h : g.check now = (.tripped, g')) :
    g'.coolingUntil = some (now + g.config.cooldown) := by
  have hcount {g : Guard} (h : g.count now = (.tripped, g')) :
      g'.coolingUntil = some (now + g.config.cooldown) := by
    rcases count_cases g now with ⟨-, -, hg⟩ | ⟨-, -, hg⟩ | ⟨-, hg⟩ <;>
      obtain ⟨hverdict, rfl⟩ := Prod.mk.inj (hg.symm.trans h)
    · rfl
    · cases hverdict
    · cases hverdict
  rcases check_cases g now with ⟨-, hg⟩ | ⟨-, -, -, hg⟩ | ⟨-, hg⟩ <;> rw [hg] at h
  · exact hcount h
  · cases h
  · exact hcount (g := g.endCooldown) h

/-- A guard whose cooldown was ended does not trip at once, if it lets anything through. -/
theorem check_endCooldown_ne_tripped (hthreshold : 1 ≤ g.config.threshold) :
    g.endCooldown.check now ≠ (.tripped, g') := by
  intro h
  have hcount : g.endCooldown.count now = (.tripped, g') := h
  rcases count_cases g.endCooldown now with ⟨-, hlt, -⟩ | ⟨-, -, hg⟩ | ⟨-, hg⟩
  · exact absurd hlt (Nat.not_lt.2 hthreshold)
  · cases hg.symm.trans hcount
  · cases hg.symm.trans hcount

/-- The guard after the timer of its cooldown. -/
def cooled (g : Guard) (now : Nat) : Guard := if g.cooledBy now then g.endCooldown else g

theorem cooledBy_of_le {deadline : Nat} (h : g.coolingUntil = some deadline)
    (hle : deadline ≤ now) : g.cooledBy now = true := by
  simpa [cooledBy, h] using hle

/-- What becomes of a guard at one instant, with the instants of what an allowed attempt led to. -/
inductive Moved (now : Nat) (g : Guard) : List Nat → Guard → Prop where
  /-- There is no attempt. -/
  | stay : Moved now g [] g
  /-- A cooldown that is over is ended. -/
  | cooled (h : g.cooledBy now = true) : Moved now g [] g.endCooldown
  /-- An attempt leads to nothing. -/
  | checked {verdict : Verdict} {g' : Guard} (h : g.check now = (verdict, g')) : Moved now g [] g'
  /-- An allowed attempt leads to something. -/
  | allowed {g' : Guard} (h : g.check now = (.allowed, g')) : Moved now g [now] g'

/-! ### Counts -/

variable {limits : GuardConfig}

/-- A guard that lets something through, and has not counted further than to the attempt that trips
it. -/
structure Limited (limits : GuardConfig) (g : Guard) : Prop where
  /-- The limits are those of the guard. -/
  config : g.config = limits
  /-- At least one attempt is let through. -/
  threshold : 1 ≤ limits.threshold
  /-- The count is one above the threshold at most. -/
  burst_le : g.burst ≤ limits.threshold + 1
  /-- The count is above the threshold only while the guard is cooling down. -/
  within : g.coolingUntil = none → g.burst ≤ limits.threshold

/-- The count of a guard fits 32 bits, or the threshold is the highest number there and the guard
was tripped. In the latter case the attempt that trips it was the first one with too high a
count. -/
def FitsUntilTripped (g : Guard) : Prop :=
  g.Fits ∨ g.config.threshold + 1 = UInt32.size ∧ g.coolingUntil ≠ none

theorem limited_ofConfig (hthreshold : 1 ≤ limits.threshold) :
    Limited limits (ofConfig limits) :=
  ⟨rfl, hthreshold, Nat.zero_le _, fun _ => Nat.zero_le _⟩

theorem Limited.endCooldown (h : Limited limits g) : Limited limits g.endCooldown :=
  ⟨h.config, h.threshold, Nat.zero_le _, fun _ => Nat.zero_le _⟩

/-- A counted attempt trips the guard or leaves its count within the threshold. -/
theorem Limited.count (h : Limited limits g) (hnone : g.coolingUntil = none) (now : Nat) :
    Limited limits (g.count now).2 := by
  obtain ⟨rfl, hthreshold, -, hwithin⟩ := h
  rcases count_cases g now with ⟨-, -, hg⟩ | ⟨-, hle, hg⟩ | ⟨-, hg⟩ <;> rw [hg]
  · exact ⟨rfl, hthreshold, Nat.succ_le_succ (hwithin hnone), nofun⟩
  · exact ⟨rfl, hthreshold, Nat.le_succ_of_le hle, fun _ => hle⟩
  · exact ⟨rfl, hthreshold, Nat.le_succ_of_le hthreshold, fun _ => hthreshold⟩

theorem Limited.check (h : Limited limits g) (now : Nat) : Limited limits (g.check now).2 := by
  rcases check_cases g now with ⟨hnone, hg⟩ | ⟨-, -, -, hg⟩ | ⟨-, hg⟩ <;> rw [hg]
  · exact h.count hnone now
  · exact h
  · exact h.endCooldown.count rfl now

/-- Whatever a guard goes through, it counts no further than to its trip. -/
theorem Limited.moved (h : Limited limits g) {led : List Nat} (hg : Moved now g led g') :
    Limited limits g' := by
  have hcheck := h.check now
  cases hg with
  | stay => exact h
  | cooled => exact h.endCooldown
  | checked hg => rwa [hg] at hcheck
  | allowed hg => rwa [hg] at hcheck

/-- With a threshold of 32 bits, the count does not fit only if the guard was tripped and there is
no higher threshold. -/
theorem Limited.fitsUntilTripped (h : Limited limits g) (hmax : limits.threshold < UInt32.size) :
    g.FitsUntilTripped := by
  obtain ⟨rfl, -, hle, hwithin⟩ := h
  by_cases hnone : g.coolingUntil = none
  · exact .inl (Nat.lt_of_le_of_lt (hwithin hnone) hmax)
  · rcases Nat.lt_or_eq_of_le (Nat.succ_le_of_lt hmax) with hlt | heq
    · exact .inl (Nat.lt_of_le_of_lt hle hlt)
    · exact .inr ⟨heq, hnone⟩

/-! ### Instants in an interval -/

variable {start length : Nat}

theorem countIn_append (l l' : List Nat) :
    countIn start length (l ++ l') = countIn start length l + countIn start length l' :=
  List.countP_append

/-- No instant is in an interval that starts after all of them. -/
theorem countIn_eq_zero (h : ∀ t ∈ allowed, t < start) : countIn start length allowed = 0 := by
  refine List.countP_eq_zero.2 fun t ht => ?_
  have := h t ht
  simp
  omega

/-- One more instant counts if it is in the interval. -/
theorem countIn_concat (now : Nat) :
    countIn start length (allowed ++ [now]) =
      countIn start length allowed + if start ≤ now ∧ now < start + length then 1 else 0 := by
  rw [countIn_append]
  congr 1
  simp [countIn, List.countP_cons]

/-! ### Keeping track -/

/-- A guard that has allowed the attempts at some instants up to now, in their order. -/
structure Tracks (g : Guard) (now : Nat) (allowed : List Nat) : Prop where
  /-- The last allowed attempt is not later than now. -/
  last_le : ∀ last, g.lastAllowed = some last → last ≤ now
  /-- No attempt was allowed after the last one. -/
  le_last : ∀ t ∈ allowed, ∃ last, g.lastAllowed = some last ∧ t ≤ last
  /-- Intervals as long as the window do not hold more than the threshold. -/
  bounded : ∀ start, countIn start g.config.window allowed ≤ g.config.threshold
  /-- The burst counts what is in an interval around the last allowed attempt, if that is less than
  a window ago. -/
  burst : g.coolingUntil = none → ∀ last, g.lastAllowed = some last →
    now < last + g.config.window → ∀ start, start ≤ last → last < start + g.config.window →
      countIn start g.config.window allowed ≤ g.burst
  /-- A cooldown ends no sooner than a window after the last allowed attempt. -/
  cooling : ∀ deadline, g.coolingUntil = some deadline → ∀ last, g.lastAllowed = some last →
    last + g.config.window ≤ deadline

theorem tracks_ofConfig (config : GuardConfig) (now : Nat) : (ofConfig config).Tracks now [] where
  last_le := by simp [ofConfig]
  le_last := by simp
  bounded := by simp [countIn]
  burst := by simp [ofConfig]
  cooling := by simp [ofConfig]

/-- Time passes. -/
theorem Tracks.mono (h : g.Tracks now allowed) {later : Nat} (hle : now ≤ later) :
    g.Tracks later allowed where
  last_le last hlast := Nat.le_trans (h.last_le last hlast) hle
  le_last := h.le_last
  bounded := h.bounded
  burst hnone last hlast hlt := h.burst hnone last hlast (Nat.lt_of_le_of_lt hle hlt)
  cooling := h.cooling

/-- A cooldown that is over may be ended. The last allowed attempt is a window ago by then. -/
theorem Tracks.endCooldown (h : g.Tracks now allowed) (hc : g.cooledBy now = true) :
    g.endCooldown.Tracks now allowed where
  last_le := h.last_le
  le_last := h.le_last
  bounded := h.bounded
  burst := by
    intro _ last hlast hlt
    obtain ⟨deadline, hdeadline, hle⟩ : ∃ deadline, g.coolingUntil = some deadline ∧
        deadline ≤ now := by
      cases hd : g.coolingUntil with
      | none => simp [cooledBy, hd] at hc
      | some deadline => exact ⟨deadline, rfl, by simpa [cooledBy, hd] using hc⟩
    have hwindow := h.cooling deadline hdeadline last hlast
    have hlt' : now < last + g.config.window := hlt
    omega
  cooling := by simp [Guard.endCooldown]

/-- An attempt is allowed now. Then the burst, which counts what it counted before and this one, is
within the threshold. -/
theorem Tracks.allow (h : g.Tracks now allowed) (hnone : g.coolingUntil = none) {burst : Nat}
    (hle : burst ≤ g.config.threshold)
    (hburst : ∀ start, start ≤ now → now < start + g.config.window →
      countIn start g.config.window allowed + 1 ≤ burst) :
    { g with burst := burst, lastAllowed := some now : Guard }.Tracks now (allowed ++ [now]) where
  last_le last hlast := by
    obtain rfl : now = last := by simpa using hlast
    exact Nat.le_refl now
  le_last t ht := by
    refine ⟨now, rfl, ?_⟩
    rcases List.mem_append.1 ht with ht | ht
    · obtain ⟨last, hlast, hle⟩ := h.le_last t ht
      exact Nat.le_trans hle (h.last_le last hlast)
    · exact Nat.le_of_eq (List.mem_singleton.1 ht)
  bounded start := by
    rw [countIn_concat]
    split
    · rename_i hin
      exact Nat.le_trans (hburst start hin.1 hin.2) hle
    · exact h.bounded start
  burst _ last hlast _ start hstart hend := by
    obtain rfl : now = last := by simpa using hlast
    rw [countIn_concat, if_pos ⟨hstart, hend⟩]
    exact hburst start hstart hend
  cooling := by simp [hnone]

/-- A counted attempt is kept track of. -/
theorem Tracks.count (h : g.Tracks now allowed) (hthreshold : 1 ≤ g.config.threshold)
    (hcooldown : g.config.window ≤ g.config.cooldown) (hnone : g.coolingUntil = none) :
    (g.count now).2.Tracks now
      (if (g.count now).1 = .allowed then allowed ++ [now] else allowed) := by
  rcases count_cases g now with ⟨hw, hlt, hg⟩ | ⟨hw, hle, hg⟩ | ⟨hw, hg⟩ <;> rw [hg]
  · -- The guard trips: nothing is allowed, and the cooldown covers the window.
    refine ⟨h.last_le, h.le_last, h.bounded, by simp, ?_⟩
    intro deadline hdeadline last hlast
    have hlast' := h.last_le last hlast
    obtain rfl : now + g.config.cooldown = deadline := by simpa using hdeadline
    simp only
    omega
  · -- The burst goes on: an interval around now holds nothing or is one around the last attempt.
    obtain ⟨last, hlast, hlt⟩ : ∃ last, g.lastAllowed = some last ∧
        now < last + g.config.window := by
      cases hl : g.lastAllowed with
      | none => simp [inWindow, hl] at hw
      | some last =>
        have hdistance : now - last < g.config.window := by simpa [inWindow, hl] using hw
        exact ⟨last, rfl, by omega⟩
    refine h.allow hnone hle fun start hstart hend => ?_
    by_cases hlast' : start ≤ last
    · have hle := h.last_le last hlast
      exact Nat.succ_le_succ (h.burst hnone last hlast hlt start hlast' (by omega))
    · have hzero : countIn start g.config.window allowed = 0 := by
        refine countIn_eq_zero fun t ht => ?_
        obtain ⟨last', hlast'', htl⟩ := h.le_last t ht
        obtain rfl := Option.some.inj (hlast.symm.trans hlast'')
        omega
      omega
  · -- A burst starts: everything before is a window ago.
    refine h.allow hnone hthreshold fun start hstart hend => ?_
    have hzero : countIn start g.config.window allowed = 0 := by
      refine countIn_eq_zero fun t ht => ?_
      obtain ⟨last, hlast, htl⟩ := h.le_last t ht
      have hdistance : ¬ now - last < g.config.window := by simpa [inWindow, hlast] using hw
      omega
    omega

/-- An attempt is kept track of. -/
theorem Tracks.check (h : g.Tracks now allowed) (hthreshold : 1 ≤ g.config.threshold)
    (hcooldown : g.config.window ≤ g.config.cooldown) :
    (g.check now).2.Tracks now
      (if (g.check now).1 = .allowed then allowed ++ [now] else allowed) := by
  rcases check_cases g now with ⟨hnone, hg⟩ | ⟨-, -, -, hg⟩ | ⟨hc, hg⟩ <;> rw [hg]
  · exact h.count hthreshold hcooldown hnone
  · exact h
  · exact (h.endCooldown hc).count hthreshold hcooldown rfl

theorem config_check (g : Guard) (now : Nat) : (g.check now).2.config = g.config := by
  have hcount (g : Guard) : (g.count now).2.config = g.config := by
    rcases count_cases g now with ⟨-, -, hg⟩ | ⟨-, -, hg⟩ | ⟨-, hg⟩ <;> rw [hg]
  rcases check_cases g now with ⟨-, hg⟩ | ⟨-, -, -, hg⟩ | ⟨-, hg⟩ <;> rw [hg]
  · exact hcount g
  · exact hcount g.endCooldown

/-! ### Limits -/

/-- A guard that keeps what happens at some instants within limits: it has allowed an attempt for
each of them up to now. -/
structure Paces (limits : GuardConfig) (now : Nat) (g : Guard) (instants : List Nat) : Prop where
  /-- The limits are those of the guard. -/
  config : g.config = limits
  /-- What happens is among the allowed attempts. -/
  tracks : ∃ allowed, g.Tracks now allowed ∧ instants.Sublist allowed

variable {instants : List Nat}

theorem paces_ofConfig (limits : GuardConfig) (now : Nat) : Paces limits now (ofConfig limits) [] :=
  ⟨rfl, [], tracks_ofConfig limits now, .slnil⟩

theorem Paces.mono (h : Paces limits now g instants) {later : Nat} (hle : now ≤ later) :
    Paces limits later g instants := by
  obtain ⟨hconfig, allowed, htracks, hsub⟩ := h
  exact ⟨hconfig, allowed, htracks.mono hle, hsub⟩

/-- What a guard goes through stays within the limits. -/
theorem Paces.moved (h : Paces limits now g instants) (hthreshold : 1 ≤ limits.threshold)
    (hcooldown : limits.window ≤ limits.cooldown) {led : List Nat} (hg : Moved now g led g') :
    Paces limits now g' (instants ++ led) := by
  obtain ⟨rfl, allowed, htracks, hsub⟩ := h
  have hcheck := htracks.check hthreshold hcooldown
  have hconfig := config_check g now
  cases hg with
  | stay => exact ⟨rfl, allowed, htracks, by simpa using hsub⟩
  | cooled hc => exact ⟨rfl, allowed, htracks.endCooldown hc, by simpa using hsub⟩
  | @checked verdict _ hg =>
    rw [hg] at hcheck hconfig
    refine ⟨hconfig, _, hcheck, ?_⟩
    rw [List.append_nil]
    split
    · exact hsub.trans (List.sublist_append_left allowed [now])
    · exact hsub
  | allowed hg =>
    rw [hg] at hcheck hconfig
    exact ⟨hconfig, _, hcheck, hsub.append (.refl _)⟩

/-- In no interval as long as the window happens more than the threshold. -/
theorem Paces.countIn_le (h : Paces limits now g instants) (start : Nat) :
    countIn start limits.window instants ≤ limits.threshold := by
  obtain ⟨rfl, allowed, htracks, hsub⟩ := h
  exact Nat.le_trans hsub.countP_le (htracks.bounded start)

end LivePreview.Guard
