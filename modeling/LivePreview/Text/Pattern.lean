import LivePreview.Text.Fold

/-!
# Patterns

Patterns of texts as programs in the tradition of Perl read them. At a spot of a text a pattern may
match in several ways, which come in an order of preference: of two alternatives the first is
preferred, and a run of characters is taken as long or as short as possible. A search takes the
first spot at which the pattern matches at all, and there the preferred way.

Runs are those of single characters of a class, which is all that the patterns of this library need.

## Main definitions

* `LivePreview.Text.Pattern`: patterns.
* `LivePreview.Text.Pattern.ways`: the ways in which a pattern matches at a spot.
* `LivePreview.Text.Pattern.match?`: the preferred match at a spot.
* `LivePreview.Text.Pattern.search`: the match that is found in a text.
* `LivePreview.Text.Pattern.replaceAll`: a text with its matches replaced.
-/

namespace LivePreview.Text

/-- A spot in a text, with the texts that were captured on the way there. -/
structure Spot where
  /-- The text before it, backwards. -/
  before : List Char
  /-- The text behind it. -/
  rest : List Char
  /-- The captured texts. -/
  captured : List (List Char)
deriving DecidableEq, Repr

namespace Spot

/-- The start of a text. -/
def ofText (s : List Char) : Spot := ⟨[], s, []⟩

/-- The spot that many characters further. -/
def advance (spot : Spot) (n : Nat) : Spot :=
  ⟨(spot.rest.take n).reverse ++ spot.before, spot.rest.drop n, spot.captured⟩

/-- The spot with further captured texts. -/
def capture (spot : Spot) (texts : List (List Char)) : Spot :=
  { spot with captured := spot.captured ++ texts }

/-- Whether a word starts or ends here. -/
def atWordEdge (spot : Spot) : Bool := wordEnds spot.before != wordEnds spot.rest

end Spot

/-- A pattern. -/
inductive Pattern
  /-- No characters. -/
  | empty
  /-- A character of a class. -/
  | one (accepts : Char → Bool)
  /-- The start or the end of a word. -/
  | wordEdge
  /-- The start of the text. -/
  | start
  /-- The end of the text. -/
  | stop
  /-- One pattern and then another. -/
  | seq (first second : Pattern)
  /-- One pattern or another, preferably the first. -/
  | either (first second : Pattern)
  /-- A run of characters of a class, preferably a long one. -/
  | many (accepts : Char → Bool)
  /-- A run of characters of a class, preferably a short one. -/
  | few (accepts : Char → Bool)
  /-- A pattern whose text is captured. -/
  | group (inner : Pattern)

namespace Pattern

/-- The runs of characters of a class at a spot, short ones first. -/
def runs (accepts : Char → Bool) (spot : Spot) : List Spot :=
  (List.range (spot.rest.findIdx (!accepts ·) + 1)).map spot.advance

/-- The spots behind a match at a spot, the preferred ways first. -/
def ways : Pattern → Spot → List Spot
  | .empty, spot => [spot]
  | .one accepts, spot => if spot.rest.head?.any accepts then [spot.advance 1] else []
  | .wordEdge, spot => if spot.atWordEdge then [spot] else []
  | .start, spot => if spot.before.isEmpty then [spot] else []
  | .stop, spot => if spot.rest.isEmpty then [spot] else []
  | .seq first second, spot => (first.ways spot).flatMap second.ways
  | .either first second, spot => first.ways spot ++ second.ways spot
  | .many accepts, spot => (runs accepts spot).reverse
  | .few accepts, spot => runs accepts spot
  | .group inner, spot =>
    (inner.ways spot).map fun behind =>
      behind.capture [spot.rest.take (spot.rest.length - behind.rest.length)]

/-- The spot behind the preferred match at a spot. -/
def match? (p : Pattern) (spot : Spot) : Option Spot := (p.ways spot).head?

/-- The spot behind the match that is found in a text. -/
def search (p : Pattern) (s : List Char) : Option Spot :=
  (List.range (s.length + 1)).findSome? fun n => p.match? ((Spot.ofText s).advance n)

/-- A word in whatever case it is written. -/
def folded : List Char → Pattern
  | [] => .empty
  | letter :: word => .seq (.one (foldsTo letter)) (folded word)

/-- A text as it is written. -/
def exactly : List Char → Pattern
  | [] => .empty
  | c :: text => .seq (.one (· == c)) (exactly text)

/-- A run of at least one character of a class, preferably a long one. -/
def several (accepts : Char → Bool) : Pattern := .seq (.one accepts) (.many accepts)

/-- Patterns one after another. -/
def inOrder : List Pattern → Pattern
  | [] => .empty
  | p :: l => .seq p (inOrder l)

/-- A text with the matches of a pattern replaced from left to right, where the next `pending`
characters belong to the match before. The second argument is the text before, backwards; the new
text is made of the captured ones. -/
def replaceFrom (p : Pattern) (new : List (List Char) → List Char) :
    Nat → List Char → List Char → List Char
  | _, _, [] => []
  | pending + 1, before, c :: s => replaceFrom p new pending (c :: before) s
  | 0, before, c :: s =>
    match p.match? ⟨before, c :: s, []⟩ with
    | some behind =>
      new behind.captured ++
        replaceFrom p new (s.length - behind.rest.length) (c :: before) s
    | none => c :: replaceFrom p new 0 (c :: before) s

/-- A text with all matches replaced of a pattern that does not match the empty text. -/
def replaceAll (p : Pattern) (new : List (List Char) → List Char) (s : List Char) : List Char :=
  p.replaceFrom new 0 [] s

end Pattern

end LivePreview.Text
