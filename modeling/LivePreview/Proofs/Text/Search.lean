import LivePreview.Text.Search
import Mathlib.Data.List.Infix
import Mathlib.Data.List.TakeWhile

/-!
# Occurrences of phrases

A phrase occurs in a text as an infix, and a run of characters of a class ends before the first
character that does not belong to it.

## Main definitions

* `LivePreview.Text.FirstAt`: the first occurrence of a phrase.

## Main results

* `LivePreview.Text.holds_iff`: an occurrence is an infix.
* `LivePreview.Text.cutAt_eq_some_iff`: a cut is at the first occurrence.
* `LivePreview.Text.run_iff`: the run at the start of a text and what follows it.
-/

namespace LivePreview.Text

variable {phrase s : List Char}

theorem isPrefixOf?_eq_none_iff : phrase.isPrefixOf? s = none ↔ ¬phrase <+: s := by
  rw [← List.isPrefixOf_iff_prefix, ← List.isSome_isPrefixOf?_eq_isPrefixOf,
    Option.not_isSome_iff_eq_none]

theorem occursIn_iff : {s : List Char} → (occursIn phrase s = true ↔ phrase <:+: s)
  | [] => by simp [occursIn]
  | c :: s => by
      rw [occursIn, Bool.or_eq_true, List.isPrefixOf_iff_prefix, occursIn_iff, List.infix_cons_iff]

theorem holds_iff {text phrase : String} :
    holds text phrase = true ↔ phrase.toList <:+: text.toList := occursIn_iff

/-! ### Phrases in parts of a text -/

/-- What a part of a text holds, the text holds. -/
theorem holds_of_infix {text part phrase : String} (h : holds part phrase = true)
    (hpart : part.toList <:+: text.toList) : holds text phrase = true :=
  holds_iff.2 ((holds_iff.1 h).trans hpart)

theorem holds_append_left {text phrase : String} (h : holds text phrase = true) (more : String) :
    holds (text ++ more) phrase = true :=
  holds_of_infix h (String.toList_append ▸ (List.prefix_append ..).isInfix)

theorem holds_append_right {text phrase : String} (h : holds text phrase = true) (front : String) :
    holds (front ++ text) phrase = true :=
  holds_of_infix h (String.toList_append ▸ (List.suffix_append ..).isInfix)

/-- What a line holds, the lines hold. -/
theorem holds_intercalate {separator line phrase : String} (h : holds line phrase = true) :
    {lines : List String} → line ∈ lines → holds (separator.intercalate lines) phrase = true
  | [_], hline => by
      rw [String.intercalate_singleton]
      exact List.mem_singleton.1 hline ▸ h
  | first :: second :: lines, hline => by
      rw [String.intercalate_cons_cons]
      rcases List.mem_cons.1 hline with rfl | hline
      · exact holds_append_left (holds_append_left h _) _
      · exact holds_append_right (holds_intercalate h hline) _

/-! ### First occurrences -/

/-- The first occurrence of a phrase in a text, by what is before and behind it. -/
def FirstAt (phrase before behind s : List Char) : Prop :=
  s = before ++ (phrase ++ behind) ∧
    ∀ before' behind', s = before' ++ (phrase ++ behind') → before.length ≤ before'.length

theorem firstAt_of_append {behind : List Char} : FirstAt phrase [] behind (phrase ++ behind) :=
  ⟨rfl, fun _ _ _ => Nat.zero_le _⟩

/-- Where a text does not start with the phrase, the first occurrence is that in the rest. -/
theorem firstAt_cons_iff {before behind : List Char} {c : Char} (h : ¬phrase <+: c :: s) :
    FirstAt phrase before behind (c :: s) ↔
      ∃ before', before = c :: before' ∧ FirstAt phrase before' behind s := by
  constructor
  · rintro ⟨hs, hfirst⟩
    cases before with
    | nil => exact absurd (hs ▸ List.prefix_append phrase behind) h
    | cons d before =>
      obtain ⟨rfl, rfl⟩ := List.cons.inj hs
      refine ⟨before, rfl, rfl, fun before' behind' hs' => ?_⟩
      exact Nat.le_of_succ_le_succ (hfirst (c :: before') behind' (congrArg (c :: ·) hs'))
  · rintro ⟨before, rfl, rfl, hfirst⟩
    refine ⟨rfl, fun before' behind' hs => ?_⟩
    cases before' with
    | nil => exact absurd (hs ▸ List.prefix_append phrase behind') h
    | cons d before' => exact Nat.succ_le_succ (hfirst before' behind' (List.cons.inj hs).2)

/-- A text is cut at the first occurrence. -/
theorem cutAt_eq_some_iff : {s before behind : List Char} →
    (cutAt phrase s = some (before, behind) ↔ FirstAt phrase before behind s)
  | [], before, behind => by
      cases phrase with
      | nil => simp +contextual [cutAt, FirstAt, eq_comm]
      | cons c phrase => simp [cutAt, FirstAt]
  | c :: s, before, behind => by
      rw [cutAt]
      split
      · rename_i rest hrest
        obtain hs := List.isPrefixOf?_eq_some_iff_append_eq.1 hrest
        rw [Option.some_inj, Prod.mk.injEq]
        constructor
        · rintro ⟨rfl, rfl⟩
          exact hs ▸ firstAt_of_append
        · rintro ⟨hs', hfirst⟩
          obtain rfl := List.eq_nil_of_length_eq_zero
            (Nat.le_zero.1 (hfirst [] rest hs.symm))
          exact ⟨rfl, List.append_cancel_left (hs.trans hs')⟩
      · rename_i hnone
        rw [firstAt_cons_iff (isPrefixOf?_eq_none_iff.1 hnone)]
        simp only [Option.map_eq_some_iff, Prod.exists, Prod.mk.injEq, cutAt_eq_some_iff]
        constructor
        · rintro ⟨before', rest, hfirst, rfl, rfl⟩
          exact ⟨before', rfl, hfirst⟩
        · rintro ⟨before', rfl, hfirst⟩
          exact ⟨before', behind, hfirst, rfl, rfl⟩

/-- A text without the phrase is not cut. -/
theorem cutAt_eq_none_iff : {s : List Char} → (cutAt phrase s = none ↔ ¬phrase <:+: s)
  | [] => by simp [cutAt]
  | c :: s => by
      rw [cutAt, List.infix_cons_iff]
      split
      · rename_i rest hrest
        simp [← List.isPrefixOf?_eq_some_iff_append_eq.1 hrest]
      · rename_i hnone
        rw [Option.map_eq_none_iff, cutAt_eq_none_iff,
          or_iff_right (isPrefixOf?_eq_none_iff.1 hnone)]

/-! ### Runs -/

theorem drop_length_takeWhile (p : Char → Bool) (s : List Char) :
    s.drop (s.takeWhile p).length = s.dropWhile p := by
  have h := congrArg (List.drop (s.takeWhile p).length)
    (List.takeWhile_append_dropWhile (p := p) (l := s))
  rw [List.drop_left] at h
  exact h.symm

/-- The run of characters of a class at the start of a text, and what follows it. -/
theorem run_iff {p : Char → Bool} {run rest : List Char} :
    (s.takeWhile p = run ∧ s.drop run.length = rest) ↔
      s = run ++ rest ∧ (∀ c ∈ run, p c = true) ∧ ∀ c ∈ rest.head?, p c = false := by
  constructor
  · rintro ⟨rfl, rfl⟩
    rw [drop_length_takeWhile, List.takeWhile_append_dropWhile]
    refine ⟨rfl, fun c hc => List.mem_takeWhile_imp hc, fun c hc => ?_⟩
    have hnot := List.head?_dropWhile_not p s
    rwa [hc] at hnot
  · rintro ⟨rfl, hrun, hrest⟩
    have htake : (run ++ rest).takeWhile p = run := by
      rw [List.takeWhile_append_of_pos hrun]
      cases rest with
      | nil => simp
      | cons c rest => rw [List.takeWhile_cons_of_neg (by simp [hrest c rfl]), List.append_nil]
    exact ⟨htake, List.drop_left⟩

theorem takeWhile_append_cons {p : Char → Bool} {run rest : List Char} {c : Char}
    (hrun : ∀ d ∈ run, p d = true) (hc : p c = false) :
    (run ++ c :: rest).takeWhile p = run :=
  (run_iff.2 ⟨rfl, hrun, by simpa using hc⟩).1

/-- A text tells what stands before the first of some character, and what follows. -/
theorem append_cons_inj_of_notMem {c : Char} {before before' rest rest' : List Char}
    (h : c ∉ before) (h' : c ∉ before') (heq : before ++ c :: rest = before' ++ c :: rest') :
    before = before' ∧ rest = rest' := by
  have hrun {run : List Char} (hc : c ∉ run) (rest : List Char) :
      (run ++ c :: rest).takeWhile (· != c) = run :=
    takeWhile_append_cons (fun d hd => bne_iff_ne.2 (ne_of_mem_of_not_mem hd hc))
      (bne_self_eq_false c)
  obtain rfl : before = before' := by rw [← hrun h rest, heq, hrun h']
  exact ⟨rfl, (List.cons.inj (List.append_cancel_left heq)).2⟩

theorem dropWhile_eq_iff {p : Char → Bool} {rest : List Char} : s.dropWhile p = rest ↔
    ∃ run, s = run ++ rest ∧ (∀ c ∈ run, p c = true) ∧ ∀ c ∈ rest.head?, p c = false := by
  rw [← drop_length_takeWhile]
  constructor
  · exact fun h => ⟨_, run_iff.1 ⟨rfl, h⟩⟩
  · rintro ⟨run, h⟩
    obtain ⟨rfl, hrest⟩ := run_iff.2 h
    exact hrest

end LivePreview.Text
