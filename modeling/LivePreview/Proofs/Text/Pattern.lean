import LivePreview.Text.Pattern
import Mathlib.Order.Bounds.Basic

/-!
# Matches of patterns

What patterns match, piece by piece. The rules follow a match from a spot on: a word takes its
letters, a long run up to a character that it must not hold ends at the first such character, as
every shorter one would be followed by another, and a short run ends at the first position from
which the rest of the pattern matches.

## Main definitions

* `LivePreview.Text.Pattern.UpTo`: patterns of long runs up to a character.

## Main results

* `LivePreview.Text.Pattern.match?_seq_folded`: a word, and what follows.
* `LivePreview.Text.Pattern.UpTo.match?_seq`: a long run up to a character, and what follows.
* `LivePreview.Text.Pattern.match?_seq_few`: a captured short run, and what follows.
* `LivePreview.Text.Pattern.search_eq_some_iff`: the leftmost match is found.
-/

namespace LivePreview.Text

namespace Spot

@[simp] theorem rest_advance (spot : Spot) (n : Nat) : (spot.advance n).rest = spot.rest.drop n :=
  rfl

@[simp] theorem captured_advance (spot : Spot) (n : Nat) :
    (spot.advance n).captured = spot.captured := rfl

@[simp] theorem rest_capture (spot : Spot) (texts : List (List Char)) :
    (spot.capture texts).rest = spot.rest := rfl

@[simp] theorem captured_capture (spot : Spot) (texts : List (List Char)) :
    (spot.capture texts).captured = spot.captured ++ texts := rfl

@[simp] theorem rest_ofText (s : List Char) : (ofText s).rest = s := rfl

@[simp] theorem captured_ofText (s : List Char) : (ofText s).captured = [] := rfl

@[simp] theorem advance_zero (spot : Spot) : spot.advance 0 = spot := rfl

@[simp] theorem capture_nil (spot : Spot) : spot.capture [] = spot := by
  rw [capture, List.append_nil]

theorem advance_advance (spot : Spot) (m n : Nat) :
    (spot.advance m).advance n = spot.advance (m + n) := by
  simp only [advance, List.take_add, List.reverse_append, List.append_assoc, List.drop_drop]

theorem advance_capture (spot : Spot) (texts : List (List Char)) (n : Nat) :
    (spot.capture texts).advance n = (spot.advance n).capture texts := rfl

end Spot

namespace Pattern

/-- A pattern of long runs up to a character that they must not hold. Of the run `keep` tells which
texts are captured. -/
def UpTo (stop : Char) (keep : List Char → List (List Char)) (run : Pattern) : Prop :=
  ∀ spot, run.ways spot = ((List.range (spot.rest.findIdx (· == stop) + 1)).map fun n =>
    (spot.advance n).capture (keep (spot.rest.take n))).reverse

variable {p : Pattern} {spot behind : Spot}

/-- The first value of a range is that of its first number with a value. -/
theorem findSome?_range_eq_some_iff {α : Type} {n : Nat} {f : Nat → Option α} {a : α} :
    (List.range n).findSome? f = some a ↔ ∃ i < n, f i = some a ∧ ∀ j < i, f j = none := by
  constructor
  · intro h
    obtain ⟨before, i, behind, hrange, hi, hnone⟩ := List.findSome?_eq_some_iff.1 h
    have hlt : i < n := List.mem_range.1 (hrange ▸ by simp)
    rw [List.range_eq_range'] at hrange
    obtain ⟨k, -, rfl, hbehind⟩ := List.range'_eq_append_iff.1 hrange
    obtain ⟨rfl, -, -⟩ := List.range'_eq_cons_iff.1 hbehind.symm
    exact ⟨_, hlt, hi, fun j hj => hnone j (List.mem_range'_1.2 (by omega))⟩
  · rintro ⟨i, hi, ha, hnone⟩
    obtain ⟨m, rfl⟩ := Nat.exists_eq_add_of_lt hi
    have hrange : (List.range i).findSome? f = none :=
      List.findSome?_eq_none_iff.2 fun j hj => hnone j (List.mem_range.1 hj)
    rw [Nat.add_assoc, List.range_add, List.findSome?_append, hrange, List.range_succ_eq_map]
    simp [ha]

theorem match?_seq (first second : Pattern) (spot : Spot) :
    (Pattern.seq first second).match? spot = (first.ways spot).findSome? second.match? :=
  List.head?_flatMap

theorem ways_folded : (word : List Char) → (spot : Spot) → (folded word).ways spot =
    if (dropFolded? word spot.rest).isSome then [spot.advance word.length] else []
  | [], spot => rfl
  | letter :: word, spot => by
      cases hs : spot.rest with
      | nil => simp [folded, ways, dropFolded?, hs]
      | cons c s =>
        cases hc : foldsTo letter c with
        | false => simp [folded, ways, dropFolded?, hs, hc]
        | true =>
          simp [folded, ways, dropFolded?, hs, hc, ways_folded word, Spot.advance_advance,
            Nat.add_comm]

/-- A word takes its letters. -/
theorem match?_seq_folded {word : List Char} :
    (Pattern.seq (folded word) p).match? spot = some behind ↔
      (dropFolded? word spot.rest).isSome ∧ p.match? (spot.advance word.length) = some behind := by
  rw [match?_seq, ways_folded]
  split <;> simp [*]

theorem match?_folded {word : List Char} : (folded word).match? spot = some behind ↔
    (dropFolded? word spot.rest).isSome ∧ behind = spot.advance word.length := by
  rw [match?, ways_folded]
  split <;> simp [*, eq_comm]

theorem match?_folded_eq_none_iff {word : List Char} :
    (folded word).match? spot = none ↔ ¬ (dropFolded? word spot.rest).isSome := by
  rw [match?, ways_folded]
  split <;> simp [*]

theorem match?_seq_wordEdge : (Pattern.seq .wordEdge p).match? spot = some behind ↔
    spot.atWordEdge = true ∧ p.match? spot = some behind := by
  rw [match?_seq, ways]
  split <;> simp [*]

/-- The texts of captured runs. -/
theorem map_capture_runs (accepts : Char → Bool) (spot : Spot) :
    (runs accepts spot).map (fun behind =>
      behind.capture [spot.rest.take (spot.rest.length - behind.rest.length)]) =
    (List.range (spot.rest.findIdx (!accepts ·) + 1)).map fun n =>
      (spot.advance n).capture [spot.rest.take n] := by
  rw [runs, List.map_map]
  refine List.map_congr_left fun n hn => ?_
  have hlength : n ≤ spot.rest.length :=
    Nat.le_trans (Nat.le_of_lt_succ (List.mem_range.1 hn)) List.findIdx_le_length
  simp only [Function.comp_apply, Spot.rest_advance, List.length_drop, Nat.sub_sub_self hlength]

theorem findIdx_le_of_getElem? {stop : Char} {s : List Char} {n : Nat} (h : s[n]? = some stop) :
    s.findIdx (· == stop) ≤ n := by
  by_contra hlt
  obtain ⟨hn, hget⟩ := List.getElem?_eq_some_iff.1 h
  simpa [hget] using List.not_of_lt_findIdx (Nat.lt_of_not_le hlt)

/-- The first position of a character is where it is found. -/
theorem isLeast_getElem?_iff {stop : Char} {s : List Char} {n : Nat} :
    IsLeast {n | s[n]? = some stop} n ↔ s[n]? = some stop ∧ n = s.findIdx (· == stop) := by
  constructor
  · rintro ⟨hn, hleast⟩
    obtain ⟨hlength, -⟩ := List.getElem?_eq_some_iff.1 hn
    have hfound : s[s.findIdx (· == stop)]? = some stop := by
      have hlt := Nat.lt_of_le_of_lt (findIdx_le_of_getElem? hn) hlength
      rw [List.getElem?_eq_getElem hlt, beq_iff_eq.1 (List.findIdx_getElem (w := hlt))]
    exact ⟨hn, Nat.le_antisymm (hleast hfound) (findIdx_le_of_getElem? hn)⟩
  · rintro ⟨hn, rfl⟩
    exact ⟨hn, fun _ hm => findIdx_le_of_getElem? hm⟩

/-- What is no lower-case letter stands for itself only. -/
theorem foldsTo_eq_beq {sign : Char} (h : sign.isLower = false) (c : Char) :
    foldsTo sign c = (c == sign) := by
  have hs : (sign == 's') = false := beq_eq_false_iff_ne.2 fun hs => by simp [hs] at h
  have hk : (sign == 'k') = false := beq_eq_false_iff_ne.2 fun hk => by simp [hk] at h
  simp only [foldsTo, h, hs, hk, Bool.false_and, Bool.or_false]

/-- A character that is no lower-case letter. -/
theorem match?_seq_char {stop : Char} (hstop : stop.isLower = false) :
    (Pattern.seq (folded [stop]) p).match? spot = some behind ↔
      spot.rest.head? = some stop ∧ p.match? (spot.advance 1) = some behind := by
  rw [match?_seq_folded]
  cases spot.rest <;> simp [dropFolded?, foldsTo_eq_beq hstop, apply_ite]

/-- A long run up to a character that it must not hold ends at the first such character, as a
shorter run is followed by another. -/
theorem UpTo.match?_seq {run : Pattern} {stop : Char} {keep : List Char → List (List Char)}
    (hrun : UpTo stop keep run) (hstop : stop.isLower = false) :
    (Pattern.seq run (.seq (folded [stop]) p)).match? spot = some behind ↔
      ∃ n, IsLeast {n | spot.rest[n]? = some stop} n ∧
        p.match? ((spot.advance (n + 1)).capture (keep (spot.rest.take n))) = some behind := by
  let texts := fun n => keep (spot.rest.take n)
  have hchar : ∀ n b, (Pattern.seq (folded [stop]) p).match?
      ((spot.advance n).capture (texts n)) = some b ↔ spot.rest[n]? = some stop ∧
        p.match? ((spot.advance (n + 1)).capture (texts n)) = some b := fun n b => by
    rw [match?_seq_char hstop, Spot.advance_capture, Spot.advance_advance, Spot.rest_capture,
      Spot.rest_advance, List.head?_drop]
  have hshorter : ∀ n < spot.rest.findIdx (· == stop), (Pattern.seq (folded [stop]) p).match?
      ((spot.advance n).capture (texts n)) = none := fun n hn =>
    Option.eq_none_iff_forall_ne_some.2 fun b hb =>
      Nat.not_le_of_lt hn (findIdx_le_of_getElem? ((hchar n b).1 hb).1)
  have hlong : (run.ways spot).findSome? (Pattern.seq (folded [stop]) p).match? =
      (Pattern.seq (folded [stop]) p).match? ((spot.advance (spot.rest.findIdx (· == stop))).capture
        (texts (spot.rest.findIdx (· == stop)))) := by
    rw [hrun spot, List.range_succ, List.map_append, List.reverse_append, List.map_singleton,
      List.reverse_singleton, List.singleton_append, List.findSome?_cons]
    split
    · rename_i hb
      rw [hb]
    · rename_i hnone
      rw [hnone, List.findSome?_eq_none_iff]
      intro b hb
      obtain ⟨n, hn, rfl⟩ := List.mem_map.1 (List.mem_reverse.1 hb)
      exact hshorter n (List.mem_range.1 hn)
  rw [Pattern.match?_seq, hlong, hchar]
  simp only [isLeast_getElem?_iff, and_assoc]
  constructor
  · exact fun h => ⟨_, h.1, rfl, h.2⟩
  · rintro ⟨_, h, rfl, h'⟩
    exact ⟨h, h'⟩

theorem upTo_many (stop : Char) : UpTo stop (fun _ => []) (.many (· != stop)) := fun spot => by
  simp [ways, runs, bne]

theorem upTo_group_many (stop : Char) :
    UpTo stop (fun text => [text]) (.group (.many (· != stop))) := fun spot => by
  rw [ways, ways, List.map_reverse, map_capture_runs]
  simp [bne]

/-- A captured short run ends at the first position where the rest of the pattern matches. -/
theorem match?_seq_few : (Pattern.seq (.group (.few fun _ => true)) p).match? spot = some behind ↔
    ∃ n ≤ spot.rest.length,
      p.match? ((spot.advance n).capture [spot.rest.take n]) = some behind ∧
        ∀ m < n, p.match? ((spot.advance m).capture [spot.rest.take m]) = none := by
  have hlength : spot.rest.findIdx (fun _ => !true) = spot.rest.length :=
    List.findIdx_eq_length.2 fun _ _ => rfl
  rw [match?_seq, ways, ways, map_capture_runs, hlength, List.findSome?_map,
    findSome?_range_eq_some_iff]
  simp only [Function.comp_apply, Nat.lt_succ_iff]

/-- A search finds the leftmost match. -/
theorem search_eq_some_iff {s : List Char} : p.search s = some behind ↔ ∃ n ≤ s.length,
    p.match? ((Spot.ofText s).advance n) = some behind ∧
      ∀ m < n, p.match? ((Spot.ofText s).advance m) = none := by
  simp only [search, findSome?_range_eq_some_iff, Nat.lt_succ_iff]

end Pattern

end LivePreview.Text
