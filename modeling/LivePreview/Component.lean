import LivePreview.Text.Blank
import LivePreview.Text.Fold

/-!
# Single-file components

A component file has a template, a script and a style block. A block starts at the first opening
tag of its name and ends at the first closing tag behind that; tags are recognised in any case,
nesting is not looked at, and a block that does not end is absent.

## Main definitions

* `LivePreview.Component.blockOf?`: the attributes and the interior of a block.
* `LivePreview.Component.Blocks`: the three blocks of a component.
* `LivePreview.Component.blocks`: the blocks of a source text.
-/

namespace LivePreview.Component

/-- The text behind the first `<tag` whose name ends there. -/
def behindTag? (tag : List Char) : List Char → Option (List Char)
  | [] => none
  | c :: s =>
    match if c = '<' then Text.dropFolded? tag s else none with
    | some rest => if Text.wordEnds rest then some rest else behindTag? tag s
    | none => behindTag? tag s

/-- The text before and behind the first `>`. -/
def cutAtTagEnd? : List Char → Option (List Char × List Char)
  | [] => none
  | c :: s =>
    if c = '>' then some ([], s)
    else (cutAtTagEnd? s).map fun (before, rest) => (c :: before, rest)

/-- Whether a text starts with the closing tag. -/
def closes (tag : List Char) : List Char → Bool
  | '<' :: '/' :: s =>
    match Text.dropFolded? tag s with
    | some ('>' :: _) => true
    | _ => false
  | _ => false

/-- The text before the first closing tag. -/
def untilClosing? (tag : List Char) : List Char → Option (List Char)
  | [] => none
  | c :: s =>
    if closes tag (c :: s) then some []
    else (untilClosing? tag s).map (c :: ·)

/-- The attributes and the interior of the block of a tag name. -/
def blockOf? (tag : String) (source : List Char) : Option (List Char × List Char) := do
  let opened ← behindTag? tag.toList source
  let (attributes, rest) ← cutAtTagEnd? opened
  let interior ← untilClosing? tag.toList rest
  return (attributes, interior)

/-- Whether a text starts with the word `setup`, followed by a blank, by `=` or by nothing. -/
def startsWithSetup (s : List Char) : Bool :=
  match Text.dropFolded? "setup".toList s with
  | none => false
  | some [] => true
  | some (c :: _) => Text.isBlank c || c == '='

/-- Whether `setup` comes behind a blank of the attributes. -/
def setupBehindBlank : List Char → Bool
  | [] => false
  | c :: s => (Text.isBlank c && startsWithSetup s) || setupBehindBlank s

/-- Whether attributes hold `setup`. -/
def hasSetup (attributes : List Char) : Bool :=
  startsWithSetup attributes || setupBehindBlank attributes

/-- The script block of a component. -/
structure Script where
  /-- The interior, without surrounding blanks. -/
  body : String
  /-- Whether the block is a setup script. -/
  setup : Bool
deriving DecidableEq, Repr

/-- The blocks of a component, their interiors without surrounding blanks. -/
structure Blocks where
  /-- The template block. -/
  template : Option String
  /-- The script block. -/
  script : Option Script
  /-- The style block. -/
  style : Option String
deriving DecidableEq, Repr

/-- The interior of a block, without surrounding blanks. -/
def interior (block : List Char × List Char) : String :=
  String.ofList (Text.trim block.2)

/-- The blocks of a source text. -/
def blocks (source : String) : Blocks where
  template := (blockOf? "template" source.toList).map interior
  script := (blockOf? "script" source.toList).map fun block =>
    ⟨interior block, hasSetup block.1⟩
  style := (blockOf? "style" source.toList).map interior

end LivePreview.Component
