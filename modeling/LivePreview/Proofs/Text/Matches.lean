import LivePreview.Proofs.Text.Pattern

/-!
# Texts that patterns match

Most pieces of a pattern match texts of one kind, whatever stands around them. A pattern made of
such pieces matches exactly the texts that are made of such parts, and the parts in groups are
captured.

## Main definitions

* `LivePreview.Text.Pattern.Reads`: a pattern matches texts of a kind, wherever they stand.

## Main results

* `LivePreview.Text.Pattern.Reads.mem_ways_seq`, `LivePreview.Text.Pattern.Reads.mem_ways_group`:
  such a pattern, captured or not, and what follows.
* `LivePreview.Text.Pattern.isSome_search_iff`: a text that a pattern is found in.
* `LivePreview.Text.Pattern.match?_eq_some_iff_mem`: a match that is the only one.
-/

namespace LivePreview.Text.Pattern

variable {p q : Pattern} {P Q : List Char → Prop} {accepts : Char → Bool} {spot behind : Spot}
  {before s : List Char} {texts : List (List Char)}

/-- A pattern matches the texts of a kind, wherever they stand, and captures nothing. -/
def Reads (p : Pattern) (P : List Char → Prop) : Prop :=
  ∀ before s texts behind, behind ∈ p.ways ⟨before, s, texts⟩ ↔
    ∃ text rest, s = text ++ rest ∧ P text ∧ behind = ⟨text.reverse ++ before, rest, texts⟩

theorem mem_ways_seq : behind ∈ (Pattern.seq p q).ways spot ↔
    ∃ middle ∈ p.ways spot, behind ∈ q.ways middle := List.mem_flatMap

theorem mem_ways_wordEdge_seq : behind ∈ (Pattern.seq .wordEdge p).ways spot ↔
    spot.atWordEdge = true ∧ behind ∈ p.ways spot := by
  rw [mem_ways_seq, ways]
  split <;> simp [*]

theorem mem_ways_empty : behind ∈ Pattern.empty.ways spot ↔ behind = spot := List.mem_singleton

theorem mem_ways_seq_empty : behind ∈ (Pattern.seq p .empty).ways spot ↔ behind ∈ p.ways spot := by
  simp [mem_ways_seq, mem_ways_empty]

/-- A pattern for texts of a kind, and what follows. -/
theorem Reads.mem_ways_seq (h : Reads p P) :
    behind ∈ (Pattern.seq p q).ways ⟨before, s, texts⟩ ↔ ∃ text rest, s = text ++ rest ∧ P text ∧
      behind ∈ q.ways ⟨text.reverse ++ before, rest, texts⟩ := by
  rw [Pattern.mem_ways_seq]
  constructor
  · rintro ⟨middle, hmiddle, hbehind⟩
    obtain ⟨text, rest, hs, htext, rfl⟩ := (h _ _ _ _).1 hmiddle
    exact ⟨text, rest, hs, htext, hbehind⟩
  · rintro ⟨text, rest, hs, htext, hbehind⟩
    exact ⟨_, (h _ _ _ _).2 ⟨text, rest, hs, htext, rfl⟩, hbehind⟩

/-- A captured text of a kind, and what follows. -/
theorem Reads.mem_ways_group (h : Reads p P) :
    behind ∈ (Pattern.seq (.group p) q).ways ⟨before, s, texts⟩ ↔
      ∃ text rest, s = text ++ rest ∧ P text ∧
        behind ∈ q.ways ⟨text.reverse ++ before, rest, texts ++ [text]⟩ := by
  have hcapture (text rest : List Char) :
      Spot.capture ⟨text.reverse ++ before, rest, texts⟩
        [(text ++ rest).take ((text ++ rest).length - rest.length)] =
      ⟨text.reverse ++ before, rest, texts ++ [text]⟩ := by
    rw [List.length_append, Nat.add_sub_cancel, List.take_left, Spot.capture]
  rw [Pattern.mem_ways_seq]
  simp only [ways, List.mem_map]
  constructor
  · rintro ⟨_, ⟨middle, hmiddle, rfl⟩, hbehind⟩
    obtain ⟨text, rest, rfl, htext, rfl⟩ := (h _ _ _ _).1 hmiddle
    exact ⟨text, rest, rfl, htext, hcapture text rest ▸ hbehind⟩
  · rintro ⟨text, rest, rfl, htext, hbehind⟩
    exact ⟨_, ⟨_, (h _ _ _ _).2 ⟨text, rest, rfl, htext, rfl⟩, rfl⟩,
      (hcapture text rest).symm ▸ hbehind⟩

/-! ### Pieces -/

theorem reads_empty : Reads .empty (· = []) := fun before s texts behind => by
  simp [ways]

theorem reads_one : Reads (.one accepts) fun text => ∃ c, accepts c = true ∧ text = [c] :=
  fun before s texts behind => by
    cases s with
    | nil =>
      constructor
      · simp [ways]
      · rintro ⟨_, _, hs, ⟨c, -, rfl⟩, -⟩
        simp at hs
    | cons c s =>
      constructor
      · intro h
        cases hc : accepts c with
        | false => simp [ways, hc] at h
        | true =>
          simp only [ways, List.head?_cons, Option.any_some, hc, if_true] at h
          exact ⟨[c], s, rfl, ⟨c, hc, rfl⟩, List.mem_singleton.1 h⟩
      · rintro ⟨_, rest, hs, ⟨d, hd, rfl⟩, rfl⟩
        obtain ⟨rfl, rfl⟩ := List.cons.inj hs
        simp [ways, hd, Spot.advance]

theorem Reads.seq (hp : Reads p P) (hq : Reads q Q) :
    Reads (.seq p q) fun text => ∃ first second, text = first ++ second ∧ P first ∧ Q second :=
  fun before s texts behind => by
    rw [hp.mem_ways_seq]
    constructor
    · rintro ⟨first, _, rfl, hfirst, hbehind⟩
      obtain ⟨second, rest, rfl, hsecond, rfl⟩ := (hq _ _ _ _).1 hbehind
      exact ⟨first ++ second, rest, by simp, ⟨first, second, rfl, hfirst, hsecond⟩, by simp⟩
    · rintro ⟨_, rest, rfl, ⟨first, second, rfl, hfirst, hsecond⟩, rfl⟩
      exact ⟨first, second ++ rest, by simp, hfirst,
        (hq _ _ _ _).2 ⟨second, rest, rfl, hsecond, by simp⟩⟩

theorem reads_many : Reads (.many accepts) fun text => ∀ c ∈ text, accepts c = true :=
  fun before s texts behind => by
    rw [ways, List.mem_reverse, runs, List.mem_map]
    simp only [List.mem_range, Nat.lt_succ_iff]
    constructor
    · rintro ⟨n, hn, rfl⟩
      refine ⟨s.take n, s.drop n, (List.take_append_drop n s).symm, fun c hc => ?_, rfl⟩
      obtain ⟨i, hi, rfl⟩ := List.getElem_of_mem hc
      rw [List.length_take] at hi
      have hnot := List.not_of_lt_findIdx (show i < s.findIdx (!accepts ·) by
        have hn' : n ≤ s.findIdx (!accepts ·) := hn
        omega)
      rw [List.getElem_take]
      simpa using hnot
    · rintro ⟨text, rest, rfl, htext, rfl⟩
      refine ⟨text.length, ?_, by simp [Spot.advance]⟩
      change text.length ≤ (text ++ rest).findIdx (!accepts ·)
      have htext' : text.findIdx (!accepts ·) = text.length :=
        List.findIdx_eq_length.2 fun c hc => by simp [htext c hc]
      rw [List.findIdx_append, htext', if_neg (Nat.lt_irrefl _)]
      exact Nat.le_add_left ..

theorem Reads.congr (h : Reads p P) (hiff : ∀ text, P text ↔ Q text) : Reads p Q :=
  fun before s texts behind => by simp only [h before s texts behind, hiff]

theorem reads_exactly : (w : List Char) → Reads (exactly w) (· = w)
  | [] => reads_empty
  | c :: w => (reads_one.seq (reads_exactly w)).congr fun text => by
      constructor
      · rintro ⟨_, _, rfl, ⟨d, hd, rfl⟩, rfl⟩
        rw [beq_iff_eq.1 hd, List.singleton_append]
      · rintro rfl
        exact ⟨[c], w, rfl, ⟨c, beq_self_eq_true c, rfl⟩, rfl⟩

theorem reads_several :
    Reads (several accepts) fun text => text ≠ [] ∧ ∀ c ∈ text, accepts c = true :=
  (reads_one.seq reads_many).congr fun text => by
    cases text with
    | nil => simp
    | cons c text => simp

/-! ### Searches -/

/-- A pattern is found in a text if it matches at some spot of it. -/
theorem isSome_search_iff : (p.search s).isSome ↔ ∃ front rest behind, s = front ++ rest ∧
    behind ∈ p.ways ⟨front.reverse, rest, []⟩ := by
  rw [search, List.findSome?_isSome_iff]
  simp only [match?, List.isSome_head?, ne_eq, List.mem_range, Nat.lt_succ_iff]
  constructor
  · rintro ⟨n, hn, hways⟩
    obtain ⟨behind, hbehind⟩ := List.exists_mem_of_ne_nil _ hways
    refine ⟨s.take n, s.drop n, behind, (List.take_append_drop n s).symm, ?_⟩
    simpa [Spot.advance, Spot.ofText] using hbehind
  · rintro ⟨front, rest, behind, rfl, hbehind⟩
    refine ⟨front.length, by simp, List.ne_nil_of_mem (a := behind) ?_⟩
    simpa [Spot.advance, Spot.ofText] using hbehind

/-- The only match at a spot is the preferred one. -/
theorem match?_eq_some_iff_mem
    (h : ∀ first ∈ p.ways spot, ∀ second ∈ p.ways spot, first = second) :
    p.match? spot = some behind ↔ behind ∈ p.ways spot := by
  rw [match?]
  constructor
  · exact List.mem_of_head?
  · intro hbehind
    cases hways : p.ways spot with
    | nil => simp [hways] at hbehind
    | cons first more =>
      rw [List.head?_cons, h first (hways ▸ List.mem_cons_self) behind hbehind]

end LivePreview.Text.Pattern
