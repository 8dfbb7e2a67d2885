import LivePreview.Proofs.Redirection
import LivePreview.Proofs.Script.References
import LivePreview.Script.Parse

/-!
# The answers of a visitor

A visit of the sources of a module gives each reference at most one answer. Handed over are the
references whose source starts with a dot, in the order of the text, up to and including the first
one that the visitor fails for. A reference whose answer is a replacement has it afterwards, all
others are as they were, and so is the rest of the module.

References inside of declarations that are exported by name are passed over, although they are
imports and re-exports like the others.

## Main definitions

* `LivePreview.Redirection.Answered`: a reference with its answer, if there is one.
* `LivePreview.Redirection.Calls`: calls of a visitor one after another.
* `LivePreview.Redirection.UpToFailure`: which references have an answer.
* `LivePreview.Redirection.Answers`: the answers that a visit gets.

## Main results

* `LivePreview.Redirection.exists_answers`: a visit with its answers.
* `LivePreview.Redirection.rewrites_in_order`: the module after a visit.
* `LivePreview.Redirection.exported_space_passed_over`: a re-export that is passed over.
-/

namespace LivePreview.Redirection

open Reference Script

variable {σ ε : Type}

/-- A reference with the answer of the visitor, if it was asked. -/
abbrev Answered (ε : Type) := Reference × Option (Except ε (Option String))

namespace Answered

/-- The reference afterwards. -/
def settled : Answered ε → Reference
  | (r, some (.ok (some replacement))) => ⟨replacement, r.inside⟩
  | (r, _) => r

/-- Whether the reference is replaced. -/
def isReplaced : Answered ε → Bool
  | (_, some (.ok (some _))) => true
  | _ => false

/-- The failure that is the answer. -/
def failure? : Answered ε → Option ε
  | (_, some (.error e)) => some e
  | _ => none

/-- The call of the visitor for the reference. -/
def call? (a : Answered ε) : Option (String × Except ε (Option String)) :=
  a.2.map fun answer => (a.1.source, answer)

end Answered

/-- The calls of a visitor behind some answers. -/
def calls (answered : List (Answered ε)) : List (String × Except ε (Option String)) :=
  answered.filterMap Answered.call?

/-- References that the visitor is not asked for. -/
def unasked (refs : List Reference) : List (Answered ε) := refs.map (·, none)

/-- A visitor is called for some sources one after another. -/
inductive Calls (visit : String → StateM σ (Except ε (Option String))) :
    σ → List (String × Except ε (Option String)) → σ → Prop
  /-- No call is made. -/
  | nil {s : σ} : Calls visit s [] s
  /-- A call is made before others. -/
  | cons {source : String} {answer : Except ε (Option String)}
    {rest : List (String × Except ε (Option String))} {s t s' : σ}
    (hv : visit source s = (answer, t)) (hrest : Calls visit t rest s') :
    Calls visit s ((source, answer) :: rest) s'

/-- A visitor that notes the sources it is handed. -/
def noting (visit : String → StateM σ (Except ε (Option String))) :
    String → StateM (σ × List String) (Except ε (Option String)) := fun source (s, noted) =>
  ((visit source s).1, (visit source s).2, noted ++ [source])

/-- A reference that is to be handed over: it is relative, and no declaration that is exported by
name holds it. -/
def Handed (r : Reference) : Prop := r.inside = false ∧ ∃ rest, r.source = "." ++ rest

/-- The references that are to be handed over have an answer that is no failure, and no others have
one. -/
def Complete (answered : List (Answered ε)) : Prop :=
  ∀ a ∈ answered, (Handed a.1 ∧ ∃ outcome, a.2 = some (.ok outcome)) ∨ (¬ Handed a.1 ∧ a.2 = none)

/-- The references have answers up to and including the first failure. -/
def UpToFailure (answered : List (Answered ε)) : Prop :=
  Complete answered ∨ ∃ before r e silent, answered = before ++ (r, some (.error e)) :: silent ∧
    Complete before ∧ Handed r ∧ ∀ a ∈ silent, a.2 = none

theorem relative_iff {source : String} : relative source = true ↔ ∃ rest, source = "." ++ rest := by
  rw [relative, beq_iff_eq, List.head?_eq_some_iff]
  constructor
  · rintro ⟨rest, hrest⟩
    exact ⟨String.ofList rest, String.toList_inj.1 (by simpa using hrest)⟩
  · rintro ⟨rest, rfl⟩
    exact ⟨rest.toList, by simp⟩

theorem handed_iff {r : Reference} : Handed r ↔ r.inside = false ∧ relative r.source = true := by
  rw [Handed, relative_iff]

section Unasked

variable {refs : List Reference}

theorem map_fst_unasked : (unasked refs : List (Answered ε)).map Prod.fst = refs := by
  rw [unasked, List.map_map]
  exact List.map_id refs

theorem calls_unasked : calls (unasked refs : List (Answered ε)) = [] := by
  simp [calls, unasked, Answered.call?]

theorem settled_unasked : (unasked refs : List (Answered ε)).map Answered.settled = refs := by
  rw [unasked, List.map_map]
  exact List.map_id refs

theorem isReplaced_unasked : (unasked refs : List (Answered ε)).countP Answered.isReplaced = 0 := by
  simp [unasked, Answered.isReplaced]

end Unasked

/-! ### Visits of references -/

/-- The answers that a visit of references gets, and what they say of its result. -/
structure Answers (visit : String → StateM σ (Except ε (Option String))) (s : σ)
    (refs : List Reference) (answered : List (Answered ε)) : Prop where
  /-- These are the answers for the references. -/
  refs_eq : answered.map Prod.fst = refs
  /-- The answers go up to the first failure. -/
  up_to : UpToFailure answered
  /-- The answers are those of the visitor. -/
  calls : Calls visit s (calls answered) (run visit (reached refs) s).2
  /-- The visitor is called for nothing else. -/
  noted : ∀ noted, run (noting visit) (reached refs) (s, noted) =
    ((run visit (reached refs) s).1, (run visit (reached refs) s).2,
      noted ++ (Redirection.calls answered).map Prod.fst)
  /-- Each source is replaced so far as there are new ones. -/
  length_eq : (run visit (reached refs) s).1.sources.length = (reached refs).length
  /-- The references afterwards. -/
  settled : refill refs (run visit (reached refs) s).1.sources = answered.map Answered.settled
  /-- How many of them are replaced. -/
  replaced : (run visit (reached refs) s).1.replaced = answered.countP Answered.isReplaced
  /-- The first failure. -/
  failure : (run visit (reached refs) s).1.failure = answered.findSome? Answered.failure?

section Answers

variable {visit : String → StateM σ (Except ε (Option String))} {s : σ} {r : Reference}
  {refs : List Reference} {answered : List (Answered ε)}

theorem UpToFailure.cons {a : Answered ε} (h : UpToFailure answered)
    (ha : (Handed a.1 ∧ ∃ outcome, a.2 = some (.ok outcome)) ∨ (¬ Handed a.1 ∧ a.2 = none)) :
    UpToFailure (a :: answered) := by
  rcases h with h | ⟨before, r, e, silent, rfl, hbefore, hr, hsilent⟩
  · exact .inl (List.forall_mem_cons.2 ⟨ha, h⟩)
  · exact .inr ⟨a :: before, r, e, silent, rfl, List.forall_mem_cons.2 ⟨ha, hbefore⟩, hr, hsilent⟩

theorem answers_nil : Answers visit s [] [] where
  refs_eq := rfl
  up_to := .inl (by simp [Complete])
  calls := .nil
  noted := by simp [Redirection.calls, reached]
  length_eq := rfl
  settled := rfl
  replaced := rfl
  failure := rfl

/-- A reference inside of an exported declaration is passed over. -/
theorem Answers.cons_inside (h : Answers visit s refs answered) (hr : r.inside = true) :
    Answers visit s (r :: refs) ((r, none) :: answered) := by
  have hreached : reached (r :: refs) = reached refs := by rw [reached_cons, if_pos hr]
  have hhanded : ¬ Handed r := by simp [handed_iff, hr]
  constructor
  case refs_eq => rw [List.map_cons, h.refs_eq]
  case up_to => exact h.up_to.cons (.inr ⟨hhanded, rfl⟩)
  case calls => exact hreached ▸ h.calls
  case noted => exact hreached ▸ h.noted
  case length_eq => exact hreached ▸ h.length_eq
  case settled =>
    rw [hreached, refill_cons_of_inside hr, h.settled]
    rfl
  case replaced => exact hreached ▸ h.replaced
  case failure => exact hreached ▸ h.failure

/-- A reference that is not relative is no concern of the visitor. -/
theorem Answers.cons_of_not_relative (h : Answers visit s refs answered) (hr : r.inside = false)
    (hrel : relative r.source = false) : Answers visit s (r :: refs) ((r, none) :: answered) := by
  have hreached : reached (r :: refs) = r.source :: reached refs := by simp [reached_cons, hr]
  have hrun : run visit (reached (r :: refs)) s =
      (keep r.source (run visit (reached refs) s).1, (run visit (reached refs) s).2) := by
    rw [hreached, run_cons_of_not_relative hrel]
  have hhanded : ¬ Handed r := by simp [handed_iff, hrel]
  constructor
  case refs_eq => rw [List.map_cons, h.refs_eq]
  case up_to => exact h.up_to.cons (.inr ⟨hhanded, rfl⟩)
  case calls => exact hrun ▸ h.calls
  case noted =>
    intro noted
    rw [hrun, hreached, run_cons_of_not_relative hrel, h.noted]
    rfl
  case length_eq =>
    rw [hrun, hreached]
    exact congrArg (· + 1) h.length_eq
  case settled =>
    rw [hrun, sources_keep, refill_cons_of_not_inside hr, h.settled, List.map_cons, ← hr]
    rfl
  case replaced => exact hrun ▸ h.replaced
  case failure => exact hrun ▸ h.failure

/-- The visitor is asked for a relative reference, and then for the others. -/
theorem Answers.cons_ok {t : σ} {outcome : Option String} (h : Answers visit t refs answered)
    (hr : r.inside = false) (hrel : relative r.source = true)
    (hv : visit r.source s = (.ok outcome, t)) :
    Answers visit s (r :: refs) ((r, some (.ok outcome)) :: answered) := by
  have hreached : reached (r :: refs) = r.source :: reached refs := by simp [reached_cons, hr]
  have hrun : run visit (reached (r :: refs)) s =
      (put r.source outcome (run visit (reached refs) t).1, (run visit (reached refs) t).2) := by
    rw [hreached, run_cons_of_ok hrel hv]
  have hnoting : ∀ noted, noting visit r.source (s, noted) =
      (.ok outcome, (t, noted ++ [r.source])) := fun noted => by rw [noting, hv]
  constructor
  case refs_eq => rw [List.map_cons, h.refs_eq]
  case up_to => exact h.up_to.cons (.inl ⟨handed_iff.2 ⟨hr, hrel⟩, outcome, rfl⟩)
  case calls => exact hrun ▸ .cons hv h.calls
  case noted =>
    intro noted
    rw [hrun, hreached, run_cons_of_ok hrel (hnoting noted), h.noted, List.append_assoc]
    rfl
  case length_eq =>
    rw [hrun, hreached, sources_put]
    exact congrArg (· + 1) h.length_eq
  case settled =>
    rw [hrun, sources_put, refill_cons_of_not_inside hr, h.settled, List.map_cons, ← hr]
    cases outcome <;> rfl
  case replaced =>
    rw [hrun, List.countP_cons, ← h.replaced]
    cases outcome <;> rfl
  case failure =>
    rw [hrun, failure_put, h.failure]
    rfl

/-- After a failure the visitor is not asked any more. -/
theorem answers_error {t : σ} {e : ε} (hr : r.inside = false) (hrel : relative r.source = true)
    (hv : visit r.source s = (.error e, t)) (refs : List Reference) :
    Answers visit s (r :: refs) ((r, some (.error e)) :: unasked refs) := by
  have hreached : reached (r :: refs) = r.source :: reached refs := by simp [reached_cons, hr]
  have hrun : run visit (reached (r :: refs)) s = (⟨reached (r :: refs), 0, some e⟩, t) := by
    rw [hreached, run_cons_of_error hrel hv]
  have hnoting : ∀ noted, noting visit r.source (s, noted) =
      (.error e, (t, noted ++ [r.source])) := fun noted => by rw [noting, hv]
  have hcalls : Redirection.calls ((r, some (.error e)) :: unasked refs) =
      [(r.source, Except.error e)] := congrArg ((r.source, Except.error e) :: ·) calls_unasked
  constructor
  case refs_eq => exact congrArg (r :: ·) map_fst_unasked
  case up_to =>
    exact .inr ⟨[], r, e, _, rfl, by simp [Complete], handed_iff.2 ⟨hr, hrel⟩, by simp [unasked]⟩
  case calls =>
    rw [hrun, hcalls]
    exact .cons hv .nil
  case noted =>
    intro noted
    rw [hrun, hcalls, hreached, run_cons_of_error hrel (hnoting noted)]
    rfl
  case length_eq => rw [hrun]
  case settled =>
    rw [hrun, refill_reached, List.map_cons, settled_unasked]
    rfl
  case replaced =>
    rw [hrun, List.countP_cons, isReplaced_unasked]
    rfl
  case failure =>
    rw [hrun]
    rfl

/-- Each visit of references gets answers. -/
theorem exists_answers (visit : String → StateM σ (Except ε (Option String))) (s : σ)
    (refs : List Reference) : ∃ answered, Answers visit s refs answered := by
  induction refs generalizing s with
  | nil => exact ⟨[], answers_nil⟩
  | cons r refs ih =>
    cases hr : r.inside with
    | true =>
      obtain ⟨answered, h⟩ := ih s
      exact ⟨_, h.cons_inside hr⟩
    | false =>
      cases hrel : relative r.source with
      | false =>
        obtain ⟨answered, h⟩ := ih s
        exact ⟨_, h.cons_of_not_relative hr hrel⟩
      | true =>
        rcases hv : visit r.source s with ⟨e | outcome, t⟩
        · exact ⟨_, answers_error hr hrel hv refs⟩
        · obtain ⟨answered, h⟩ := ih t
          exact ⟨_, h.cons_ok hr hrel hv⟩

end Answers

/-! ### Visits of modules -/

/-- What a visit of the sources of a module does, by the answers that the visitor gives. -/
structure Rewrites (visit : String → StateM σ (Except ε (Option String))) (s : σ) (p : Program)
    (answered : List (Answered ε)) : Prop where
  /-- The answers are for the references of the module, in the order of the text. -/
  refs_eq : answered.map Prod.fst = p.references
  /-- The references that are to be handed over have answers up to and including the first failure,
  and no others have one. -/
  up_to : UpToFailure answered
  /-- The visitor gives these answers, called in this order, and leaves the state of the visit. -/
  calls : Calls visit s (calls answered) (run visit p.sources s).2
  /-- The visitor is called for nothing else. -/
  noted : (run (noting visit) p.sources (s, [])).2 =
    ((run visit p.sources s).2, (Redirection.calls answered).map Prod.fst)
  /-- A reference has its replacement afterwards, and is as it was if it has none. -/
  settled : (p.withSources (run visit p.sources s).1.sources).references =
    answered.map Answered.settled
  /-- Nothing but the references is changed. -/
  restored : (p.withSources (run visit p.sources s).1.sources).withSources p.sources = p
  /-- The replacements are counted. -/
  replaced : (run visit p.sources s).1.replaced = answered.countP Answered.isReplaced
  /-- The first failure is kept. -/
  failure : (run visit p.sources s).1.failure = answered.findSome? Answered.failure?

/-- A visit of the sources of a module rewrites it in the order of the text, and passes over what is
exported by name. -/
theorem rewrites_in_order (visit : String → StateM σ (Except ε (Option String))) (s : σ)
    (p : Program) : ∃ answered, Rewrites visit s p answered := by
  obtain ⟨answered, h⟩ := exists_answers visit s p.references
  have hsources := p.sources_eq_reached
  have hlength : (run visit p.sources s).1.sources.length = p.sources.length := by
    rw [hsources, h.length_eq]
  refine ⟨answered, ?_⟩
  constructor
  case refs_eq => exact h.refs_eq
  case up_to => exact h.up_to
  case calls => exact hsources ▸ h.calls
  case noted => rw [hsources, h.noted, List.nil_append]
  case settled => rw [Program.references_withSources hlength, hsources, h.settled]
  case restored =>
    rw [Program.withSources_withSources hlength rfl, Program.withSources_sources]
  case replaced => rw [hsources, h.replaced]
  case failure => rw [hsources, h.failure]

/-- A re-export in a space of names is handed over if the space is not exported. -/
example : (Program.parse "scan.ts"
    "namespace N \x7b export \x7b c \x7d from './c' \x7d").toOption.map Program.sources =
      some ["./c"] := by
  decide +kernel

/-- A re-export in a space of names that is exported is not handed over, and keeps its source. -/
theorem exported_space_passed_over : ∃ p : Program,
    (Program.parse "scan.ts"
      "export namespace N \x7b export \x7b c \x7d from './c' \x7d").toOption = some p ∧
    p.references.map Reference.source = ["./c"] ∧
    run (noting fun _ => pure (.ok (some "data:c"))) p.sources ((), []) =
      ((⟨[], 0, none⟩ : Redirection Unit), (), []) ∧
    (p.withSources []).references.map Reference.source = ["./c"] := by
  have hparse : (Program.parse "scan.ts"
      "export namespace N \x7b export \x7b c \x7d from './c' \x7d").toOption.map
        (fun p => (p.references, p.sources)) = some ([⟨"./c", true⟩], []) := by
    decide +kernel
  obtain ⟨p, hp, hparts⟩ := Option.map_eq_some_iff.1 hparse
  obtain ⟨hrefs, hsources⟩ := Prod.mk.inj hparts
  have hwith : p.withSources [] = p := by rw [← hsources, p.withSources_sources]
  exact ⟨p, hp, by rw [hrefs]; rfl, by rw [hsources]; rfl, by rw [hwith, hrefs]; rfl⟩

end LivePreview.Redirection
