import LivePreview.Component
import Mathlib.Data.List.Forall2
import Mathlib.Data.Nat.Find
import Mathlib.Order.Bounds.Basic

/-!
# Where blocks stand

The block of a tag name is described by three positions in the source text: where the opening tag
starts, where it ends, and where the closing tag starts. Each is the first one of its kind behind
the one before, and the scan finds a block exactly if there are all three. A closing tag that is
missing behind the first opening tag is missing behind all others too, so no later opening tag gives
a block instead.

## Main definitions

* `LivePreview.Component.Opens`, `LivePreview.Component.Closes`: tags at the start of a text.
* `LivePreview.Component.Encloses`: an opening tag with its end and its closing tag.
* `LivePreview.Component.Delimits`: the first opening tag with its end and its closing tag.
* `LivePreview.Component.NamesSetup`: attributes in which the word `setup` stands by itself.

## Main results

* `LivePreview.Component.delimits_iff`: the first opening tag and the first block are one.
* `LivePreview.Component.blockOf?_eq_some_iff`: the scan finds what the positions describe.
* `LivePreview.Component.hasSetup_iff`: the scan finds the word `setup`.
-/

namespace LivePreview.Component

/-- A text is a word in whatever case. -/
def Spells (word text : List Char) : Prop :=
  List.Forall₂ (fun letter c => Text.foldsTo letter c = true) word text

/-- The opening tag of a name starts the text: behind the name no word goes on. -/
def Opens (tag : String) (text : List Char) : Prop :=
  ∃ name rest, text = '<' :: (name ++ rest) ∧ Spells tag.toList name ∧ Text.wordEnds rest = true

/-- The closing tag of a name starts the text. -/
def Closes (tag : String) (text : List Char) : Prop :=
  ∃ name rest, text = '<' :: '/' :: (name ++ '>' :: rest) ∧ Spells tag.toList name

/-- The block of an opening tag: the tag ends at the first `>` behind its start, and the block at
the first closing tag behind that. -/
structure Encloses (tag : String) (s : List Char) (p q r : Nat) : Prop where
  /-- The opening tag starts at `p`. -/
  opens : Opens tag (s.drop p)
  /-- It ends at `q`. -/
  ends : IsLeast {q | p < q ∧ s[q]? = some '>'} q
  /-- The closing tag starts at `r`. -/
  closes : IsLeast {r | q < r ∧ Closes tag (s.drop r)} r

/-- The block of the first opening tag. -/
structure Delimits (tag : String) (s : List Char) (p q r : Nat) : Prop
    extends Encloses tag s p q r where
  /-- No opening tag starts before `p`. -/
  first : ∀ p', Opens tag (s.drop p') → p ≤ p'

/-- The attributes of an opening tag that starts at `p` and ends at `q`. -/
def attributesBetween (tag : String) (s : List Char) (p q : Nat) : List Char :=
  (s.take q).drop (p + 1 + tag.length)

/-- The text strictly between two positions. -/
def textBetween (s : List Char) (q r : Nat) : List Char := (s.take r).drop (q + 1)

/-- The word `setup` stands at the start of attributes or behind a blank, and before a blank, before
`=` or at their end. -/
def NamesSetup (attributes : List Char) : Prop :=
  ∃ front word back, attributes = front ++ word ++ back ∧ Spells "setup".toList word ∧
    (front = [] ∨ ∃ start c, front = start ++ [c] ∧ Text.isBlank c = true) ∧
    (back = [] ∨ ∃ c rest, back = c :: rest ∧ (Text.isBlank c = true ∨ c = '='))

/-- A name whose letters are word characters in whatever case, as those of a tag are. -/
def IsTag (tag : String) : Prop :=
  tag.toList.isEmpty = false ∧
    tag.toList.all (fun letter => Text.isWord letter && Text.isWord letter.toUpper) = true

theorem isTag_template : IsTag "template" := ⟨rfl, by decide +kernel⟩

theorem isTag_script : IsTag "script" := ⟨rfl, by decide +kernel⟩

theorem isTag_style : IsTag "style" := ⟨rfl, by decide +kernel⟩

/-! ### Words -/

theorem dropFolded?_eq_some_iff : {word s rest : List Char} →
    (Text.dropFolded? word s = some rest ↔ ∃ name, s = name ++ rest ∧ Spells word name)
  | [], s, rest => by simp [Text.dropFolded?, Spells]
  | letter :: word, [], rest => by
      simp only [Text.dropFolded?, reduceCtorEq, false_iff, not_exists, not_and]
      intro name hs hname
      cases hname with
      | cons _ _ => simp at hs
  | letter :: word, c :: s, rest => by
      rw [Text.dropFolded?]
      split
      · rename_i hc
        rw [dropFolded?_eq_some_iff]
        constructor
        · rintro ⟨name, rfl, hname⟩
          exact ⟨c :: name, rfl, .cons hc hname⟩
        · rintro ⟨name, hs, hname⟩
          cases hname with
          | cons _ hname =>
            obtain ⟨rfl, hrest⟩ := List.cons.inj hs
            exact ⟨_, hrest, hname⟩
      · rename_i hc
        constructor
        · simp
        · rintro ⟨name, hs, hname⟩
          cases hname with
          | cons hc' _ =>
            obtain ⟨rfl, _⟩ := List.cons.inj hs
            exact absurd hc' hc

theorem Spells.dropFolded? {word name : List Char} (h : Spells word name) (rest : List Char) :
    Text.dropFolded? word (name ++ rest) = some rest :=
  dropFolded?_eq_some_iff.2 ⟨name, rfl, h⟩

theorem Spells.length_eq {word text : List Char} (h : Spells word text) :
    text.length = word.length := (List.Forall₂.length_eq h).symm

/-- What stands for a letter of a tag is a word character. -/
theorem isWord_of_foldsTo {tag : String} (htag : IsTag tag) {letter c : Char}
    (hletter : letter ∈ tag.toList) (h : Text.foldsTo letter c = true) : Text.isWord c = true := by
  obtain ⟨hlower, hupper⟩ := Bool.and_eq_true_iff.1 (List.all_eq_true.1 htag.2 letter hletter)
  simp only [Text.foldsTo, Bool.or_eq_true, Bool.and_eq_true, beq_iff_eq] at h
  rcases h with ((rfl | ⟨_, rfl⟩) | ⟨_, rfl⟩) | ⟨_, rfl⟩
  · exact hlower
  · exact hupper
  · decide +kernel
  · decide +kernel

theorem Spells.isWord {tag : String} (htag : IsTag tag) {name : List Char}
    (h : Spells tag.toList name) {c : Char} (hc : c ∈ name) : Text.isWord c = true := by
  obtain ⟨i, hi, rfl⟩ := List.getElem_of_mem hc
  exact isWord_of_foldsTo htag (List.getElem_mem _) (List.Forall₂.get h (h.length_eq ▸ hi) hi)

/-! ### Tags at the start of a text -/

section Tags

variable {tag : String} {c : Char} {s rest : List Char} {n : Nat}

theorem not_opens_nil : ¬ Opens tag [] := by
  rintro ⟨_, _, h, -⟩
  simp at h

theorem not_closes_nil : ¬ Closes tag [] := by
  rintro ⟨_, _, h, -⟩
  simp at h

theorem Opens.le_length (h : Opens tag (s.drop n)) : n ≤ s.length := by
  by_contra hlength
  rw [List.drop_eq_nil_of_le (Nat.le_of_not_le hlength)] at h
  exact not_opens_nil h

theorem Closes.le_length (h : Closes tag (s.drop n)) : n ≤ s.length := by
  by_contra hlength
  rw [List.drop_eq_nil_of_le (Nat.le_of_not_le hlength)] at h
  exact not_closes_nil h

/-- The opening tag of a name is read like its letters. -/
theorem opens_iff : Opens tag s ↔ ∃ rest, s = '<' :: s.tail ∧
    Text.dropFolded? tag.toList s.tail = some rest ∧ Text.wordEnds rest = true := by
  constructor
  · rintro ⟨name, rest, rfl, hname, hrest⟩
    exact ⟨rest, rfl, hname.dropFolded? rest, hrest⟩
  · rintro ⟨rest, hs, hdrop, hrest⟩
    obtain ⟨name, htail, hname⟩ := dropFolded?_eq_some_iff.1 hdrop
    exact ⟨name, rest, htail ▸ hs, hname, hrest⟩

/-- The text behind a word. -/
theorem rest_eq_of_dropFolded? {word : List Char} (h : Text.dropFolded? word s = some rest) :
    rest = s.drop word.length := by
  obtain ⟨name, rfl, hname⟩ := dropFolded?_eq_some_iff.1 h
  rw [← hname.length_eq, List.drop_left]

/-- The closing tag of a name is read like its letters. -/
theorem closes_iff : closes tag.toList s = true ↔ Closes tag s := by
  constructor
  · intro h
    unfold closes at h
    split at h
    · rename_i s
      split at h
      · rename_i rest hdrop
        obtain ⟨name, rfl, hname⟩ := dropFolded?_eq_some_iff.1 hdrop
        exact ⟨name, rest, rfl, hname⟩
      · cases h
    · cases h
  · rintro ⟨name, rest, rfl, hname⟩
    simp only [closes, hname.dropFolded?]

end Tags

/-! ### Scans -/

section Scans

variable {tag : String} {c : Char} {s rest before : List Char} {n : Nat}

/-- The first position in a text is its start, or the first one behind its first character. -/
theorem isLeast_cons_iff {P : List Char → Prop} : IsLeast {n | P ((c :: s).drop n)} n ↔
    (P (c :: s) ∧ n = 0) ∨ (¬ P (c :: s) ∧ ∃ m, IsLeast {n | P (s.drop n)} m ∧ n = m + 1) := by
  constructor
  · rintro ⟨hn, hleast⟩
    by_cases hP : P (c :: s)
    · exact .inl ⟨hP, Nat.le_zero.1 (hleast hP)⟩
    · cases n with
      | zero => exact absurd hn hP
      | succ m =>
        exact .inr ⟨hP, m, ⟨hn, fun k hk => Nat.le_of_succ_le_succ (hleast (a := k + 1) hk)⟩, rfl⟩
  · rintro (⟨hP, rfl⟩ | ⟨hP, m, ⟨hm, hleast⟩, rfl⟩)
    · exact ⟨hP, fun _ _ => Nat.zero_le _⟩
    · refine ⟨hm, fun k hk => ?_⟩
      cases k with
      | zero => exact absurd hk hP
      | succ k => exact Nat.succ_le_succ (hleast hk)

/-- A scan gives a value for the first position at which something holds. -/
theorem scan_eq_some_iff {α : Type} (P : List Char → Prop) (scan : List Char → Option α)
    (value : List Char → Nat → α) (shift : Char → α → α) (hnil : scan [] = none) (hP : ¬ P [])
    (hstop : ∀ c s, P (c :: s) → scan (c :: s) = some (value (c :: s) 0))
    (hstep : ∀ c s, ¬ P (c :: s) → scan (c :: s) = (scan s).map (shift c))
    (hshift : ∀ c s n, shift c (value s n) = value (c :: s) (n + 1)) {a : α} :
    {s : List Char} → (scan s = some a ↔ ∃ n, IsLeast {n | P (s.drop n)} n ∧ a = value s n)
  | [] => by
      rw [hnil]
      constructor
      · simp
      · rintro ⟨n, ⟨hn, -⟩, -⟩
        exact absurd (by simpa using hn) hP
  | c :: s => by
      by_cases hc : P (c :: s)
      · simp only [hstop c s hc, isLeast_cons_iff, hc, true_and, not_true_eq_false, false_and,
          or_false, exists_eq_left, Option.some.injEq, eq_comm]
      · have ih {a : α} := scan_eq_some_iff P scan value shift hnil hP hstop hstep hshift (a := a)
          (s := s)
        simp only [hstep c s hc, Option.map_eq_some_iff, isLeast_cons_iff, hc, false_and, false_or,
          not_false_eq_true, true_and, ih]
        constructor
        · rintro ⟨_, ⟨n, hn, rfl⟩, rfl⟩
          exact ⟨n + 1, ⟨n, hn, rfl⟩, hshift c s n⟩
        · rintro ⟨_, ⟨n, hn, rfl⟩, rfl⟩
          exact ⟨_, ⟨n, hn, rfl⟩, hshift c s n⟩

theorem behindTag?_eq_some_iff : behindTag? tag.toList s = some rest ↔
    ∃ p, IsLeast {p | Opens tag (s.drop p)} p ∧ rest = s.drop (p + 1 + tag.length) := by
  refine scan_eq_some_iff (Opens tag) (behindTag? tag.toList)
    (fun s p => s.drop (p + 1 + tag.length)) (fun _ rest => rest) rfl not_opens_nil ?_ ?_ ?_
  · intro c s hopens
    obtain ⟨behind, hc, hdrop, hends⟩ := opens_iff.1 hopens
    obtain ⟨rfl, -⟩ := List.cons.inj hc
    have hrest : behind = s.drop tag.length := rest_eq_of_dropFolded? hdrop
    rw [List.tail_cons] at hdrop
    rw [behindTag?, if_pos rfl, hdrop]
    refine (if_pos hends).trans (congrArg some ?_)
    rw [hrest, Nat.zero_add, Nat.add_comm 1, List.drop_succ_cons]
  · intro c s hopens
    rw [behindTag?, Option.map_id']
    split
    · rename_i rest hdrop
      split at hdrop
      · rename_i hc
        refine if_neg fun hends => hopens (opens_iff.2 ⟨rest, ?_, hdrop, hends⟩)
        rw [hc, List.tail_cons]
      · cases hdrop
    · rfl
  · intro c s p
    simp only [Nat.add_right_comm _ 1, List.drop_succ_cons]

theorem cutAtTagEnd?_eq_some_iff : cutAtTagEnd? s = some (before, rest) ↔
    ∃ j, IsLeast {j | s[j]? = some '>'} j ∧ before = s.take j ∧ rest = s.drop (j + 1) := by
  have hscan := scan_eq_some_iff (fun s => s.head? = some '>') cutAtTagEnd?
    (fun s j => (s.take j, s.drop (j + 1))) (fun c p => (c :: p.1, p.2)) rfl (by simp) ?_ ?_ ?_
    (a := (before, rest)) (s := s)
  · simpa only [List.head?_drop, Prod.mk.injEq] using hscan
  · intro c s hc
    simp [cutAtTagEnd?, Option.some.inj hc]
  · intro c s hc
    rw [cutAtTagEnd?, if_neg fun h => hc (congrArg some h)]
  · intro c s j
    rfl

theorem untilClosing?_eq_some_iff : untilClosing? tag.toList s = some before ↔
    ∃ k, IsLeast {k | Closes tag (s.drop k)} k ∧ before = s.take k := by
  refine scan_eq_some_iff (Closes tag) (untilClosing? tag.toList) (fun s k => s.take k) List.cons
    rfl not_closes_nil ?_ ?_ fun _ _ _ => rfl
  · intro c s hcloses
    rw [untilClosing?, if_pos (closes_iff.2 hcloses), List.take_zero]
  · intro c s hcloses
    rw [untilClosing?, if_neg (mt closes_iff.1 hcloses)]

end Scans

/-! ### Blocks -/

section Blocks

variable {tag : String} {s : List Char} {p q r : Nat}

/-- A first position from some position on is one relative to it. -/
theorem isLeast_from_iff {P : Nat → Prop} {m n : Nat} :
    IsLeast {n | m ≤ n ∧ P n} n ↔ ∃ k, IsLeast {k | P (m + k)} k ∧ n = m + k := by
  constructor
  · rintro ⟨⟨hm, hn⟩, hleast⟩
    obtain ⟨k, rfl⟩ := Nat.exists_eq_add_of_le hm
    exact ⟨k, ⟨hn, fun j hj => Nat.le_of_add_le_add_left
      (hleast (a := m + j) ⟨Nat.le_add_right m j, hj⟩)⟩, rfl⟩
  · rintro ⟨k, ⟨hk, hleast⟩, rfl⟩
    refine ⟨⟨Nat.le_add_right m k, hk⟩, fun n ⟨hm, hn⟩ => ?_⟩
    obtain ⟨j, rfl⟩ := Nat.exists_eq_add_of_le hm
    exact Nat.add_le_add_left (hleast hn) m

/-- An opening tag does not end within its name. -/
theorem Opens.le_of_getElem? (htag : IsTag tag) (h : Opens tag (s.drop p)) (hq : p < q)
    (hend : s[q]? = some '>') : p + 1 + tag.length ≤ q := by
  obtain ⟨name, rest, hs, hname, -⟩ := h
  obtain ⟨i, rfl⟩ := Nat.exists_eq_add_of_lt hq
  by_contra hlt
  have hi : i < name.length := by
    rw [hname.length_eq, String.length_toList]
    omega
  have hget : s[p + i + 1]? = some name[i] := by
    rw [Nat.add_assoc, ← List.getElem?_drop, hs, List.getElem?_cons_succ,
      List.getElem?_append_left hi, List.getElem?_eq_getElem hi]
  have hword := hname.isWord htag (List.getElem_mem hi)
  rw [Option.some.inj (hget.symm.trans hend)] at hword
  exact absurd hword (by decide)

/-- The positions of a block relative to the texts behind. -/
theorem encloses_iff (htag : IsTag tag) : Encloses tag s p q r ↔ Opens tag (s.drop p) ∧
    ∃ j k, IsLeast {j | (s.drop (p + 1 + tag.length))[j]? = some '>'} j ∧
      IsLeast {k | Closes tag ((s.drop (q + 1)).drop k)} k ∧ q = p + 1 + tag.length + j ∧
        r = q + 1 + k := by
  have hends (hopens : Opens tag (s.drop p)) : {q | p < q ∧ s[q]? = some '>'} =
      {q | p + 1 + tag.length ≤ q ∧ s[q]? = some '>'} :=
    Set.ext fun q => ⟨fun h => ⟨hopens.le_of_getElem? htag h.1 h.2, h.2⟩,
      fun h => ⟨by have := h.1; omega, h.2⟩⟩
  have hcloses : IsLeast {r | q < r ∧ Closes tag (s.drop r)} r ↔
      ∃ k, IsLeast {k | Closes tag ((s.drop (q + 1)).drop k)} k ∧ r = q + 1 + k := by
    simp only [List.drop_drop]
    exact isLeast_from_iff
  simp only [List.getElem?_drop]
  constructor
  · rintro ⟨hopens, hq, hr⟩
    rw [hends hopens] at hq
    obtain ⟨j, hj, rfl⟩ := isLeast_from_iff.1 hq
    obtain ⟨k, hk, rfl⟩ := hcloses.1 hr
    exact ⟨hopens, j, k, hj, hk, rfl, rfl⟩
  · rintro ⟨hopens, j, k, hj, hk, rfl, rfl⟩
    refine ⟨hopens, ?_, hcloses.2 ⟨k, hk, rfl⟩⟩
    rw [hends hopens]
    exact isLeast_from_iff.2 ⟨j, hj, rfl⟩

theorem attributesBetween_add {j : Nat} : attributesBetween tag s p (p + 1 + tag.length + j) =
    (s.drop (p + 1 + tag.length)).take j := by
  rw [attributesBetween, List.drop_take, Nat.add_sub_cancel_left]

theorem textBetween_add {k : Nat} :
    textBetween s q (q + 1 + k) = (s.drop (q + 1)).take k := by
  rw [textBetween, List.drop_take, Nat.add_sub_cancel_left]

/-- The scan finds the block of the first opening tag. -/
theorem blockOf?_eq_some_iff (htag : IsTag tag) {attributes body : List Char} :
    blockOf? tag s = some (attributes, body) ↔ ∃ p q r, Delimits tag s p q r ∧
      attributes = attributesBetween tag s p q ∧ body = textBetween s q r := by
  simp only [blockOf?, Option.bind_eq_bind, Option.pure_def, Option.bind_eq_some_iff, Prod.exists,
    behindTag?_eq_some_iff, cutAtTagEnd?_eq_some_iff, untilClosing?_eq_some_iff,
    Option.some.injEq, Prod.mk.injEq]
  constructor
  · rintro ⟨_, ⟨p, hp, rfl⟩, _, _, ⟨j, hj, rfl, rfl⟩, _, ⟨k, hk, rfl⟩, rfl, rfl⟩
    rw [List.drop_drop] at hk
    have hencloses := (encloses_iff htag).2 ⟨hp.1, j, k, hj, hk, rfl, rfl⟩
    exact ⟨p, _, _, ⟨hencloses, fun _ h => hp.2 h⟩, attributesBetween_add.symm, by
      rw [List.drop_drop, textBetween_add]
      rfl⟩
  · rintro ⟨p, q, r, h, rfl, rfl⟩
    obtain ⟨hopens, j, k, hj, hk, rfl, rfl⟩ := (encloses_iff htag).1 h.toEncloses
    refine ⟨_, ⟨p, ⟨hopens, h.first⟩, rfl⟩, _, _, ⟨j, hj, rfl, rfl⟩, _, ⟨k, ?_, rfl⟩,
      attributesBetween_add.symm, ?_⟩
    · rw [List.drop_drop]
      exact hk
    · rw [List.drop_drop, textBetween_add]
      rfl

/-- Some number of a set of them is the least one. -/
theorem exists_isLeast {P : Nat → Prop} (h : ∃ n, P n) : ∃ n, IsLeast {n | P n} n := by
  classical
  exact ⟨Nat.find h, Nat.find_spec h, fun _ => Nat.find_min' h⟩

/-- Where a block ends, the blocks of all opening tags before it end at the latest. -/
theorem Encloses.exists_of_le {p' : Nat} (h : Encloses tag s p q r) (hp : p' ≤ p)
    (hopens : Opens tag (s.drop p')) : ∃ q' r', Encloses tag s p' q' r' := by
  obtain ⟨⟨hpq, hq⟩, -⟩ := h.ends
  obtain ⟨⟨hqr, hr⟩, -⟩ := h.closes
  have hpq' : p' < q := lt_of_le_of_lt hp hpq
  obtain ⟨q', hq'⟩ := exists_isLeast (P := fun q => p' < q ∧ s[q]? = some '>') ⟨q, hpq', hq⟩
  have hqr' : q' < r := lt_of_le_of_lt (hq'.2 ⟨hpq', hq⟩) hqr
  obtain ⟨r', hr'⟩ := exists_isLeast (P := fun r => q' < r ∧ Closes tag (s.drop r)) ⟨r, hqr', hr⟩
  exact ⟨q', r', hopens, hq', hr'⟩

/-- The first opening tag is the first one with a block, if there is a block at all. -/
theorem delimits_iff : Delimits tag s p q r ↔ Encloses tag s p q r ∧
    ∀ p' q' r', Encloses tag s p' q' r' → p ≤ p' := by
  constructor
  · exact fun h => ⟨h.toEncloses, fun p' _ _ h' => h.first p' h'.opens⟩
  · rintro ⟨h, hleast⟩
    refine ⟨h, fun p' hopens => ?_⟩
    by_contra hlt
    obtain ⟨q', r', h'⟩ := h.exists_of_le (Nat.le_of_not_le hlt) hopens
    exact hlt (hleast p' q' r' h')

end Blocks

/-! ### Setup scripts -/

section Setup

variable {s : List Char}

/-- The word `setup` starts the text, before a blank, before `=` or at the end. -/
theorem startsWithSetup_iff : startsWithSetup s = true ↔ ∃ word back, s = word ++ back ∧
    Spells "setup".toList word ∧
      (back = [] ∨ ∃ c rest, back = c :: rest ∧ (Text.isBlank c = true ∨ c = '=')) := by
  constructor
  · intro h
    unfold startsWithSetup at h
    split at h
    · cases h
    · rename_i hdrop
      obtain ⟨word, hs, hword⟩ := dropFolded?_eq_some_iff.1 hdrop
      exact ⟨word, [], hs, hword, .inl rfl⟩
    · rename_i c rest hdrop
      obtain ⟨word, hs, hword⟩ := dropFolded?_eq_some_iff.1 hdrop
      exact ⟨word, c :: rest, hs, hword, .inr ⟨c, rest, rfl, by simpa using h⟩⟩
  · rintro ⟨word, back, rfl, hword, hback⟩
    rw [startsWithSetup, hword.dropFolded?]
    rcases hback with rfl | ⟨c, rest, rfl, hc⟩
    · rfl
    · simpa using hc

theorem setupBehindBlank_iff : {s : List Char} → (setupBehindBlank s = true ↔
    ∃ start c rest, s = start ++ c :: rest ∧ Text.isBlank c = true ∧ startsWithSetup rest = true)
  | [] => by simp [setupBehindBlank]
  | c :: s => by
      simp only [setupBehindBlank, Bool.or_eq_true, Bool.and_eq_true, setupBehindBlank_iff]
      constructor
      · rintro (⟨hc, hs⟩ | ⟨start, d, rest, rfl, hd, hrest⟩)
        · exact ⟨[], c, s, rfl, hc, hs⟩
        · exact ⟨c :: start, d, rest, rfl, hd, hrest⟩
      · rintro ⟨_ | ⟨_, start⟩, d, rest, hs, hd, hrest⟩
        · obtain ⟨rfl, rfl⟩ := List.cons.inj hs
          exact .inl ⟨hd, hrest⟩
        · obtain ⟨rfl, rfl⟩ := List.cons.inj hs
          exact .inr ⟨start, d, rest, rfl, hd, hrest⟩

/-- Attributes name a setup script exactly if the scan says so. -/
theorem hasSetup_iff : hasSetup s = true ↔ NamesSetup s := by
  rw [hasSetup, Bool.or_eq_true, setupBehindBlank_iff]
  constructor
  · rintro (hs | ⟨start, c, rest, rfl, hc, hs⟩)
    · obtain ⟨word, back, rfl, hword, hback⟩ := startsWithSetup_iff.1 hs
      exact ⟨[], word, back, rfl, hword, .inl rfl, hback⟩
    · obtain ⟨word, back, rfl, hword, hback⟩ := startsWithSetup_iff.1 hs
      exact ⟨start ++ [c], word, back, by simp, hword, .inr ⟨start, c, rfl, hc⟩, hback⟩
  · rintro ⟨front, word, back, rfl, hword, hfront, hback⟩
    have hs := startsWithSetup_iff.2 ⟨word, back, rfl, hword, hback⟩
    rcases hfront with rfl | ⟨start, c, rfl, hc⟩
    · exact .inl hs
    · exact .inr ⟨start, c, word ++ back, by simp, hc, hs⟩

end Setup

end LivePreview.Component
