import LivePreview.FactoryImport
import LivePreview.Script.Token

/-!
# What markup stands for

Markup stands for calls of a function that makes elements. A comment of the module may name another
function: it holds an at sign, a word that says what is named, and the name after blanks. Of several
comments the last one counts.

## Main definitions

* `LivePreview.Script.Factory`: what the markup of a module stands for.
* `LivePreview.Script.Factory.after`: what it stands for after a comment.
* `LivePreview.Script.Factory.faults`: why markup cannot be lowered that way.
-/

namespace LivePreview.Script

/-! ### Comments -/

/-- Whether a character parts a word from a name on the same line. -/
def isWordGap (c : Char) : Bool := c == ' ' || c == '\t'

/-- Whether a character ends a name. -/
def endsName (c : Char) : Bool :=
  isWordGap c || c == '\n' || c == '\r' || c == '\x0b' || c == '\x0c'

/-- The words after `@jsx` that say what is named. -/
def factoryWords : List (List Char) :=
  ["", "Frag", "Runtime", "ImportSource"].map String.toList

/-- The words with the names after them that a comment holds. The first argument bounds their
number. -/
def namedIn : Nat → List Char → List (List Char × List Char)
  | 0, _ => []
  | fuel + 1, s =>
    match s.dropWhile (· ≠ '@') with
    | '@' :: 'j' :: 's' :: 'x' :: s =>
      let word := s.takeWhile fun c => !isWordGap c
      match s.drop word.length with
      | [] => []
      | _ :: rest =>
        if factoryWords.contains word then
          let rest := rest.dropWhile isWordGap
          let name := rest.takeWhile fun c => !endsName c
          if name.isEmpty then [] else (word, name) :: namedIn fuel (rest.drop name.length)
        else namedIn fuel rest
    | _ :: s => namedIn fuel s
    | [] => []

/-! ### Factories -/

/-- What the markup of a module stands for. -/
structure Factory where
  /-- The function that makes elements: a name, perhaps with names of properties after dots. -/
  element : String
  /-- What stands for the tag of elements without a parent. -/
  fragment : String
  /-- Whether the function is to be found without its name. -/
  isAutomatic : Bool
  /-- Whether the module that has the function is named. -/
  hasSource : Bool
  deriving DecidableEq, Repr

namespace Factory

/-- What markup stands for where no comment says otherwise. -/
def usual : Factory := ⟨FactoryImport.factoryName, FactoryImport.fragmentName, false, false⟩

/-- What markup stands for after something is named. -/
def naming (f : Factory) (word name : String) : Factory :=
  match word with
  | "" => { f with element := name }
  | "Frag" => { f with fragment := name }
  | "Runtime" =>
    if name == "automatic" then { f with isAutomatic := true }
    else if name == "classic" then { f with isAutomatic := false }
    else f
  | _ => { f with hasSource := true }

/-- What markup stands for after a comment. -/
def after (f : Factory) (comment : Comment) : Factory :=
  let inside := comment.inside
  (namedIn inside.length inside).foldl
    (fun f (word, name) => f.naming (String.ofList word) (String.ofList name)) f

/-- The parts of a name with dots. -/
def parts (name : String) : List String := name.splitOn "."

/-- The variable that a name with dots starts with. -/
def variableOf (name : String) : String := (parts name).headD ""

/-- Whether a name with dots has a part that is no name. -/
def isMalformed (name : String) : Bool :=
  match parts name with
  | "import" :: rest => rest.head? ≠ some "meta" || rest.contains ""
  | parts => parts.contains ""

/-- Why markup cannot be lowered. -/
def faults (f : Factory) : List String :=
  if f.isAutomatic then ["pragma and pragmaFrag cannot be set when runtime is automatic."]
  else
    (if f.hasSource then ["importSource cannot be set when runtime is classic."] else []) ++
      ([f.element, f.fragment].filter isMalformed).map fun _ =>
        "pragma and pragmaFrag must be of the form `foo` or `foo.bar`."

end Factory

end LivePreview.Script
