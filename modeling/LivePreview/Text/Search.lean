/-!
# Finding and replacing a phrase

Searches for a fixed phrase inside a text. A replacement goes from left to right and continues
behind each replaced occurrence, so occurrences never overlap and an inserted text is not searched
again.

## Main definitions

* `LivePreview.Text.occursIn`: whether a phrase occurs.
* `LivePreview.Text.cutAt`: the text before and after the first occurrence.
* `LivePreview.Text.replaceFirst`, `LivePreview.Text.replaceAll`: replacement.

## Main results

* `LivePreview.Text.cutAt_eq_some`: a cut gives the text back around the phrase.
-/

namespace LivePreview.Text

/-- Whether `phrase` occurs in the text. -/
def occursIn (phrase : List Char) : List Char → Bool
  | [] => phrase.isEmpty
  | c :: s => phrase.isPrefixOf (c :: s) || occursIn phrase s

/-- The text before and after the first occurrence of `phrase`. -/
def cutAt (phrase : List Char) : List Char → Option (List Char × List Char)
  | [] => if phrase.isEmpty then some ([], []) else none
  | c :: s =>
    match phrase.isPrefixOf? (c :: s) with
    | some rest => some ([], rest)
    | none => (cutAt phrase s).map fun (before, rest) => (c :: before, rest)

private theorem append_of_isPrefixOf? :
    (p s : List Char) → {r : List Char} → p.isPrefixOf? s = some r → p ++ r = s
  | [], _, _, h => (Option.some.inj h).symm
  | _ :: _, [], _, h => nomatch h
  | a :: p, b :: s, r, h => by
      change (if a == b then p.isPrefixOf? s else none) = some r at h
      split at h
      · rename_i hab
        rw [List.cons_append, append_of_isPrefixOf? p s h, beq_iff_eq.1 hab]
      · simp at h

/-- A cut gives the text back around the phrase. -/
theorem cutAt_eq_some (phrase : List Char) :
    (s : List Char) → {before rest : List Char} → cutAt phrase s = some (before, rest) →
      s = before ++ phrase ++ rest
  | [], before, rest, h => by
      rw [cutAt] at h
      split at h
      · rename_i he
        simp_all [List.isEmpty_iff]
      · simp at h
  | c :: s, before, rest, h => by
      rw [cutAt] at h
      split at h
      · rename_i r hr
        simp only [Option.some.injEq, Prod.mk.injEq] at h
        obtain ⟨rfl, rfl⟩ := h
        simpa using (append_of_isPrefixOf? phrase (c :: s) hr).symm
      · obtain ⟨⟨b, r⟩, hbr, heq⟩ := Option.map_eq_some_iff.1 h
        simp only [Prod.mk.injEq] at heq
        obtain ⟨rfl, rfl⟩ := heq
        simp [cutAt_eq_some phrase s hbr]

/-- The text with the first occurrence of `phrase` replaced by `new`. -/
def replaceFirst (phrase new s : List Char) : List Char :=
  match cutAt phrase s with
  | some (before, rest) => before ++ new ++ rest
  | none => s

/-- One left-to-right replacement of `phrase` by `new`, where `skip` characters still belong to the
occurrence replaced last. -/
def replaceFrom (phrase new : List Char) : Nat → List Char → List Char
  | _, [] => []
  | skip + 1, _ :: s => replaceFrom phrase new skip s
  | 0, c :: s =>
    if phrase.isPrefixOf (c :: s) then new ++ replaceFrom phrase new (phrase.length - 1) s
    else c :: replaceFrom phrase new 0 s

/-- The text with every occurrence of the non-empty `phrase` replaced by `new`. -/
def replaceAll (phrase new s : List Char) : List Char :=
  replaceFrom phrase new 0 s

/-- The text with every occurrence of one character replaced by a text. -/
def replaceChar (old : Char) (new s : List Char) : List Char :=
  s.flatMap fun c => if c = old then new else [c]

/-- Whether a string holds a phrase. -/
def holds (s phrase : String) : Bool :=
  occursIn phrase.toList s.toList

end LivePreview.Text
