/-!
# References of a module

The imports and re-exports of a module are listed in the order of the text, each with the text that
names the other module. A visit of a module reaches those of them that no declaration exported by
name holds, gives new texts to these one after another, and passes over the others.

## Main definitions

* `LivePreview.Reference`: an import or re-export.
* `LivePreview.Reference.reached`: the texts that a visit reaches.
* `LivePreview.Reference.refill`, `LivePreview.Reference.redirected`: references with other texts for
  those that a visit reaches.

## Main results

* `LivePreview.Reference.reached_refill`: the texts given are those that are reached afterwards.
-/

namespace LivePreview

/-- An import or re-export. -/
structure Reference where
  /-- The text that names the other module. -/
  source : String
  /-- Whether it stands inside of a declaration that is exported by name. -/
  inside : Bool
  deriving DecidableEq, Repr

namespace Reference

/-- A reference in a declaration that is exported by name. -/
def enclosed (r : Reference) : Reference := { r with inside := true }

/-- The texts of the references that a visit reaches. -/
def reached (refs : List Reference) : List String :=
  (refs.filter fun r => !r.inside).map source

/-- The references with other texts for those that a visit reaches, as long as there are any. -/
def refill : List Reference → List String → List Reference
  | [], _ => []
  | r :: rest, l =>
    if r.inside then r :: refill rest l
    else match l with
      | [] => r :: rest
      | source :: l => ⟨source, false⟩ :: refill rest l

/-- The references, with another text for each that a visit reaches. -/
def redirected (text : String → String) (refs : List Reference) : List Reference :=
  refs.map fun r => if r.inside then r else { r with source := text r.source }

variable {refs : List Reference} {r : Reference}

@[simp] theorem reached_append (refs refs' : List Reference) :
    reached (refs ++ refs') = reached refs ++ reached refs' := by
  simp [reached]

theorem reached_cons (r : Reference) (rest : List Reference) :
    reached (r :: rest) = if r.inside then reached rest else r.source :: reached rest := by
  cases h : r.inside <;> simp [reached, h]

theorem mem_reached_iff {source : String} :
    source ∈ reached refs ↔ ∃ r ∈ refs, r.inside = false ∧ r.source = source := by
  simp [reached, and_assoc]

theorem refill_cons_of_inside (h : r.inside = true) (rest : List Reference) (l : List String) :
    refill (r :: rest) l = r :: refill rest l := by
  cases l <;> rw [refill, if_pos h]

theorem refill_cons_of_not_inside (h : r.inside = false) (rest : List Reference) (source : String)
    (l : List String) : refill (r :: rest) (source :: l) = ⟨source, false⟩ :: refill rest l := by
  rw [refill, if_neg (by simp [h])]

theorem refill_append : {refs refs' : List Reference} → {l l' : List String} →
    l.length = (reached refs).length →
      refill (refs ++ refs') (l ++ l') = refill refs l ++ refill refs' l'
  | [], _, l, _, h => by
      obtain rfl := List.eq_nil_of_length_eq_zero h
      rfl
  | r :: rest, _, l, _, h => by
      rw [reached_cons] at h
      rw [List.cons_append]
      cases hr : r.inside with
      | true =>
        rw [hr, if_pos rfl] at h
        rw [refill_cons_of_inside hr, refill_cons_of_inside hr, refill_append h, List.cons_append]
      | false =>
        cases l with
        | nil => simp [hr] at h
        | cons source l =>
          have hl : l.length = (reached rest).length := by simpa [hr] using h
          rw [List.cons_append, refill_cons_of_not_inside hr, refill_cons_of_not_inside hr,
            refill_append hl, List.cons_append]

theorem refill_of_forall_inside : {refs : List Reference} → (∀ r ∈ refs, r.inside = true) →
    (l : List String) → refill refs l = refs
  | [], _, _ => rfl
  | r :: rest, h, l => by
      obtain ⟨hr, hrest⟩ := List.forall_mem_cons.1 h
      rw [refill_cons_of_inside hr, refill_of_forall_inside hrest]

theorem refill_reached : (refs : List Reference) → refill refs (reached refs) = refs
  | [] => rfl
  | r :: rest => by
      rw [reached_cons]
      cases hr : r.inside with
      | true => rw [if_pos rfl, refill_cons_of_inside hr, refill_reached rest]
      | false =>
        rw [if_neg Bool.false_ne_true, refill_cons_of_not_inside hr, refill_reached rest, ← hr]

/-- The texts given are those that a visit reaches afterwards. -/
theorem reached_refill : {refs : List Reference} → {l : List String} →
    l.length = (reached refs).length → reached (refill refs l) = l
  | [], l, h => (List.eq_nil_of_length_eq_zero h).symm
  | r :: rest, l, h => by
      rw [reached_cons] at h
      cases hr : r.inside with
      | true =>
        rw [hr, if_pos rfl] at h
        rw [refill_cons_of_inside hr, reached_cons, if_pos hr, reached_refill h]
      | false =>
        cases l with
        | nil => simp [hr] at h
        | cons source l =>
          have hl : l.length = (reached rest).length := by simpa [hr] using h
          rw [refill_cons_of_not_inside hr, reached_cons, if_neg Bool.false_ne_true,
            reached_refill hl]

theorem reached_redirected (text : String → String) (refs : List Reference) :
    reached (redirected text refs) = (reached refs).map text := by
  induction refs with
  | nil => rfl
  | cons r rest ih =>
    rw [redirected, List.map_cons, ← redirected, reached_cons, reached_cons, ih]
    cases hr : r.inside <;> simp [hr]

/-- Texts that depend on the old ones only. -/
theorem refill_map_reached (text : String → String) : (refs : List Reference) →
    refill refs ((reached refs).map text) = redirected text refs
  | [] => rfl
  | r :: rest => by
      rw [reached_cons, redirected, List.map_cons]
      cases hr : r.inside with
      | true =>
        rw [if_pos rfl, if_pos rfl, refill_cons_of_inside hr, refill_map_reached text rest]
        rfl
      | false =>
        rw [if_neg Bool.false_ne_true, if_neg Bool.false_ne_true, List.map_cons,
          refill_cons_of_not_inside hr, refill_map_reached text rest, ← hr]
        rfl

end Reference

end LivePreview
