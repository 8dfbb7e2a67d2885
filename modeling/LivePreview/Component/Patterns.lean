import LivePreview.Component
import LivePreview.Text.Pattern

/-!
# Patterns of components

The patterns that describe the blocks of a component. In the usual notation the pattern of a block
is `<tag\b[^>]*>(.*?)</tag>`, where the attributes are captured as well for a script, and that of
the attributes of a setup script is `(?:^|\s)setup(?:\s|=|$)`, all of them without regard to case.

## Main definitions

* `LivePreview.Component.blockPattern`: the pattern of a block.
* `LivePreview.Component.setupPattern`: the pattern in the attributes of a setup script.
* `LivePreview.Component.matched`: the blocks that the patterns find.
-/

namespace LivePreview.Component

open Text (Pattern)

/-- The attributes of a tag. -/
def attributesPattern : Pattern := .many (· != '>')

/-- A block with its tags, given the pattern of its attributes. The interior is captured. -/
def blockPattern (tag : String) (attributes : Pattern) : Pattern :=
  .seq (.folded ('<' :: tag.toList)) <| .seq .wordEdge <| .seq attributes <|
    .seq (.folded ['>']) <| .seq (.group (.few fun _ => true)) <|
      .folded ('<' :: '/' :: (tag.toList ++ ['>']))

/-- The word `setup` among attributes. -/
def setupPattern : Pattern :=
  .seq (.either .start (.one Text.isBlank)) <| .seq (.folded "setup".toList) <|
    .either (.one Text.isBlank) <| .either (.folded ['=']) .stop

/-- A captured text without surrounding blanks. -/
def trimmed (text : List Char) : String := String.ofList (Text.trim text)

/-- The body of the block of a tag, if the pattern finds one. -/
def matchedBody (tag : String) (source : List Char) : Option String := do
  let found ← (blockPattern tag attributesPattern).search source
  let body ← found.captured[0]?
  return trimmed body

/-- The script, if the pattern finds one. -/
def matchedScript (source : List Char) : Option Script := do
  let found ← (blockPattern "script" (.group attributesPattern)).search source
  return ⟨trimmed (found.captured.getD 1 []),
    (setupPattern.search (found.captured.getD 0 [])).isSome⟩

/-- The blocks of a source text that the patterns find. -/
def matched (source : String) : Blocks where
  template := matchedBody "template" source.toList
  script := matchedScript source.toList
  style := matchedBody "style" source.toList

end LivePreview.Component
