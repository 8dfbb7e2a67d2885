import LivePreview.ModuleGrammar

/-!
# A grammar of brackets

A grammar that looks at brackets alone: every closing one has to be of the kind of the latest open
one. It is far from that of modules, but reads the elements of a text in the same way, and so tells
which texts can be divided at all.

## Main definitions

* `LivePreview.Script.tokens?`: the division of a text without regular expressions and substitutions.
* `LivePreview.bracketGrammar`: the grammar.

## Main results

* `LivePreview.Script.divides_of_tokens?`: what is found is a division.
-/

namespace LivePreview

namespace Script

/-! ### Plain divisions -/

/-- The tokens of a text from left to right. There is nothing to be found if a token is faulty, or
opens a substitution. The first argument bounds the number of tokens. -/
def tokens? : Nat → Gap → List Char → Option (List Element)
  | 0, _, _ => none
  | fuel + 1, g, s =>
    match gap false .blank g s with
    | (_, [], false) => some []
    | (g, t, false) =>
      let found := scan t
      let written := t.take (t.length - found.rest.length)
      if found.faults = [] ∧ written ≠ [] ∧ written ++ found.rest = t ∧
          (Lexeme.token found.token).depthBehind? 0 = some 0 then
        (tokens? fuel (.start false) found.rest).map
          (⟨g.onNewLine, written, .token found.token⟩ :: ·)
      else none
    | _ => none

theorem divides_of_tokens? {fuel : Nat} {g : Gap} {s : List Char} {es : List Element}
    (h : tokens? fuel g s = some es) : Divides g 0 s es := by
  induction fuel generalizing g s es with
  | zero => cases h
  | succ fuel ih =>
    rw [tokens?] at h
    split at h
    · rename_i g' hgap
      cases h
      exact .done hgap
    · rename_i g' t _ hgap
      dsimp only at h
      split at h
      · rename_i hfound
        obtain ⟨hfaults, hwritten, happend, hdepth⟩ := hfound
        obtain ⟨es, hes, rfl⟩ := Option.map_eq_some_iff.1 h
        have hscan : scan t = .fine (scan t).token (scan t).rest := by
          rw [Scanned.fine, ← hfaults]
        exact .cons (by rw [hgap, happend]) hwritten (by rw [happend]; exact .plain hscan) hdepth
          (ih hes)
      · cases h
    · cases h

end Script

open Script

/-! ### Brackets -/

/-- The brackets that close the open ones behind an element, the latest first. -/
def bracketStep (closings : List String) (e : Element) : Option (List String) :=
  match e.lexeme with
  | .token (.mark mark) =>
    if mark = "(" then some (")" :: closings)
    else if mark = "[" then some ("]" :: closings)
    else if mark = "\x7b" then some ("\x7d" :: closings)
    else if mark ∈ [")", "]", "\x7d"] then
      if closings.head? = some mark then some closings.tail else none
    else some closings
  | _ => some closings

theorem foldlM_bracketStep_of_exchanged {es es' : List Element} (h : Exchanged es es')
    (closings : List String) :
    es.foldlM bracketStep closings = es'.foldlM bracketStep closings := by
  induction h generalizing closings with
  | here => rfl
  | there e h ih => simp only [List.foldlM_cons, ih]

/-- The grammar of texts with matching brackets. -/
def bracketGrammar : ModuleGrammar where
  IsModule es := es.foldlM bracketStep [] = some []
  isModule_of_exchanged h hmodule := (foldlM_bracketStep_of_exchanged h []).symm.trans hmodule

end LivePreview
