import LivePreview.EntryPatch
import LivePreview.Text.Pattern

/-!
# The pattern of mount calls

The pattern that describes a mount call. In the usual notation it is
`(\s*)(createApp\([^)]+\))\.mount\(['"](#[^'"]+)['"]\)`.

## Main definitions

* `LivePreview.EntryPatch.mountPattern`: the pattern.
* `LivePreview.EntryPatch.expansion`: what stands for a call, given the captured texts.
-/

namespace LivePreview.EntryPatch

open Text (Pattern)

/-- A call of `createApp`. -/
def creationPattern : Pattern :=
  .inOrder [.exactly "createApp(".toList, .several (· != ')'), .exactly [')']]

/-- A selector. -/
def selectorPattern : Pattern := .inOrder [.exactly ['#'], .several (!isQuote ·)]

/-- A mount call. The blanks in front of it, the call of `createApp` and the selector are
captured. -/
def mountPattern : Pattern := .inOrder
  [.group (.many Text.isBlank), .group creationPattern, .exactly ".mount(".toList, .one isQuote,
    .group selectorPattern, .one isQuote, .exactly [')']]

/-- The statements that stand for a mount call, given the captured texts. -/
def expansion (captured : List (List Char)) : List Char :=
  let text (n : Nat) := String.ofList (captured.getD n [])
  (MountCall.mk (text 0) (text 1) (text 2)).expand.toList

end LivePreview.EntryPatch
