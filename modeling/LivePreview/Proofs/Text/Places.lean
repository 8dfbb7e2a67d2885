import LivePreview.Proofs.Text.Search

/-!
# Places of a phrase

All places where a phrase stands in a text. A text that is put together has the places of its parts,
if no occurrence of the phrase can lie across the joint.

## Main definitions

* `LivePreview.Text.places`: where a phrase stands.
* `LivePreview.Text.Apart`: two texts with a joint that no occurrence lies across.

## Main results

* `LivePreview.Text.places_append`, `LivePreview.Text.infix_append_iff`: a text of two parts.
* `LivePreview.Text.infix_flatMap_iff`: a text whose characters are written in another way.
-/

namespace LivePreview.Text

variable {phrase s l r : List Char}

/-- The places where a phrase stands in a text, by the number of characters in front. -/
def places (phrase s : List Char) : List Nat :=
  (List.range s.length).filter fun i => phrase.isPrefixOf (s.drop i)

theorem mem_places_iff {i : Nat} : i ∈ places phrase s ↔ i < s.length ∧ phrase <+: s.drop i := by
  simp [places]

theorem places_eq_nil_iff (hphrase : phrase ≠ []) : places phrase s = [] ↔ ¬phrase <:+: s := by
  rw [List.eq_nil_iff_forall_not_mem]
  refine ⟨?_, fun h i hi => h ?_⟩
  swap
  · exact (mem_places_iff.1 hi).2.isInfix.trans (List.drop_suffix i s).isInfix
  rintro h ⟨front, rest, rfl⟩
  refine h front.length (mem_places_iff.2 ⟨?_, ?_⟩)
  · have := List.length_pos_iff.2 hphrase
    simp only [List.length_append]
    omega
  · rw [List.append_assoc, List.drop_left]
    exact List.prefix_append ..

/-! ### Joints -/

/-- Two texts with a joint that no occurrence of the phrase lies across. -/
def Apart (phrase l r : List Char) : Prop :=
  ∀ front rest, phrase = front ++ rest → front <:+ l → rest <+: r → front = [] ∨ rest = []

/-- The text in front of the joint does not have the first character of the phrase. -/
theorem apart_of_notMem {first : Char} (h : first ∉ l) : Apart (first :: phrase) l r := by
  intro front rest hphrase hl _
  cases front with
  | nil => exact .inl rfl
  | cons c front =>
    obtain ⟨rfl, -⟩ := List.cons.inj hphrase
    exact absurd (hl.subset List.mem_cons_self) h

/-- The text in front of the joint ends in a character that does not belong to the phrase. -/
theorem apart_of_getLast? {last : Char} (hlast : l.getLast? = some last) (h : last ∉ phrase) :
    Apart phrase l r := by
  rintro front rest rfl ⟨more, rfl⟩ _
  refine .inl (by_contra fun hfront => h (List.mem_append_left _ ?_))
  rw [List.getLast?_append_of_ne_nil _ hfront] at hlast
  exact List.mem_of_getLast? hlast

/-- The text behind the joint starts with a character that the phrase may at most start with. -/
theorem apart_of_head? {head : Char} (hhead : r.head? = some head) (h : head ∉ phrase.tail) :
    Apart phrase l r := by
  rintro front rest rfl _ ⟨more, rfl⟩
  refine or_iff_not_imp_left.2 fun hfront => by_contra fun hrest => h ?_
  rw [List.tail_append_of_ne_nil hfront]
  rw [List.head?_append_of_ne_nil _ hrest] at hhead
  exact List.mem_append_right _ (List.mem_of_head? hhead)

/-- A phrase at a place in front of the joint ends in front of it. -/
theorem Apart.prefix_append_iff (h : Apart phrase l r) {part : List Char} (hpart : part <:+ l)
    (hne : part ≠ []) : phrase <+: part ++ r ↔ phrase <+: part := by
  refine ⟨?_, fun h => h.trans (List.prefix_append ..)⟩
  rintro ⟨more, hmore⟩
  rcases List.append_eq_append_iff.1 hmore with ⟨behind, hbehind, -⟩ | ⟨behind, rfl, rfl⟩
  · exact hbehind ▸ List.prefix_append ..
  · rcases h part behind rfl hpart (List.prefix_append ..) with rfl | rfl
    · exact absurd rfl hne
    · rw [List.append_nil]

theorem infix_append_iff (h : Apart phrase l r) :
    phrase <:+: l ++ r ↔ phrase <:+: l ∨ phrase <:+: r := by
  induction l with
  | nil => simp +contextual
  | cons c l ih =>
    have hl : Apart phrase l r := fun front rest hphrase hfront =>
      h front rest hphrase (hfront.trans (List.suffix_cons c l))
    rw [List.cons_append, List.infix_cons_iff, ← List.cons_append,
      h.prefix_append_iff List.suffix_rfl (List.cons_ne_nil c l), ih hl, List.infix_cons_iff,
      or_assoc]

/-- A text of two parts has the places of both. -/
theorem places_append (h : Apart phrase l r) :
    places phrase (l ++ r) = places phrase l ++ (places phrase r).map (l.length + ·) := by
  rw [places, List.length_append, List.range_add, List.filter_append, List.filter_map]
  refine congrArg₂ (· ++ ·) (List.filter_congr fun i hi => ?_)
    (congrArg _ (List.filter_congr fun i _ => ?_))
  · have hi : i < l.length := List.mem_range.1 hi
    rw [List.drop_append_of_le_length hi.le, Bool.eq_iff_iff, List.isPrefixOf_iff_prefix,
      List.isPrefixOf_iff_prefix, h.prefix_append_iff (List.drop_suffix i l)
        (List.drop_eq_nil_iff.not.2 (by omega))]
  · rw [Function.comp_apply, List.drop_append, List.drop_eq_nil_of_le (by omega),
      List.nil_append, Nat.add_sub_cancel_left]

/-! ### Other ways to write characters -/

variable {plain : Char → Char} {write : Char → List Char} {first : Char}

/-- Characters of the phrase are written plainly, and what is written for another one neither starts
with a character of the phrase nor has its first one. -/
def Keeps (first : Char) (phrase : List Char) (plain : Char → Char) (write : Char → List Char) :
    Prop :=
  ∀ c, write c = [plain c] ∨ (plain c ∉ first :: phrase ∧ first ∉ write c ∧
    ∃ d more, write c = d :: more ∧ d ∉ phrase)

theorem Keeps.prefix_flatMap_iff (h : Keeps first phrase plain write) : {part : List Char} →
    part ⊆ phrase → {s : List Char} → (part <+: s.flatMap write ↔ part <+: s.map plain)
  | [], _, _ => by simp
  | _ :: _, _, [] => by simp
  | a :: part, hpart, c :: s => by
      have ha : a ∈ phrase := hpart List.mem_cons_self
      rw [List.flatMap_cons, List.map_cons]
      rcases h c with hc | ⟨hc, -, d, more, hwrite, hd⟩
      · rw [hc, List.singleton_append, List.cons_prefix_cons, List.cons_prefix_cons,
          h.prefix_flatMap_iff (List.subset_of_cons_subset hpart)]
      · rw [hwrite, List.cons_append, List.cons_prefix_cons, List.cons_prefix_cons]
        exact iff_of_false (fun h => hd (h.1 ▸ ha)) fun h => hc (List.mem_cons_of_mem _ (h.1 ▸ ha))

/-- The phrase stands in a text if it stands in the text as it is written. -/
theorem infix_flatMap_iff (h : Keeps first phrase plain write) : {s : List Char} →
    (first :: phrase <:+: s.flatMap write ↔ first :: phrase <:+: s.map plain)
  | [] => by simp
  | c :: s => by
      rw [List.flatMap_cons, List.map_cons]
      rcases h c with hc | ⟨hc, hwrite, -⟩
      · rw [hc, List.singleton_append, List.infix_cons_iff, List.infix_cons_iff,
          infix_flatMap_iff h, List.cons_prefix_cons, List.cons_prefix_cons,
          h.prefix_flatMap_iff (List.Subset.refl phrase)]
      · have hfirst : first ≠ plain c := fun h => hc (h ▸ List.mem_cons_self)
        rw [infix_append_iff (apart_of_notMem hwrite), infix_flatMap_iff h,
          or_iff_right fun h => hwrite (h.subset List.mem_cons_self), List.infix_cons_iff,
          or_iff_right fun h => hfirst (List.cons_prefix_cons.1 h).1]

end LivePreview.Text
