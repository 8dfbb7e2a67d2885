import LivePreview.Text.Blank
import LivePreview.Text.Fold

/-!
# Imports of the element factory

Elements are lowered to calls of `h`, fragments to `Fragment`; both come from the framework module.
Whether a script imports such a name already is told from its text: the word `import`, braces with
the name standing alone between them, `from`, and the framework in quotes.

## Main definitions

* `LivePreview.FactoryImport.factoryName`, `fragmentName`: the two names.
* `LivePreview.FactoryImport.importsName`: whether a script imports a name from the framework.
* `LivePreview.FactoryImport.addMissing`: a script with the missing imports put in front.
-/

namespace LivePreview.FactoryImport

/-- The name that elements are lowered to. -/
def factoryName : String := "h"

/-- The name that fragments are lowered to. -/
def fragmentName : String := "Fragment"

/-- Whether a text goes on, after blanks, with `from` and the framework in quotes. The two quotes
need not be of one kind. -/
def fromFramework (framework : String) (s : List Char) : Bool :=
  match "from".toList.isPrefixOf? (s.dropWhile Text.isBlank) with
  | none => false
  | some rest =>
    match rest.dropWhile Text.isBlank with
    | [] => false
    | opening :: rest =>
      (opening == '\'' || opening == '"') &&
        match framework.toList.isPrefixOf? rest with
        | some (closing :: _) => closing == '\'' || closing == '"'
        | _ => false

/-- Whether an import of `name` from the framework starts at the start of the text. -/
def importsNameHere (framework name : String) (s : List Char) : Bool :=
  match "import".toList.isPrefixOf? s with
  | none => false
  | some rest =>
    match rest.dropWhile Text.isBlank with
    | '\x7b' :: rest =>
      let names := rest.takeWhile (· ≠ '\x7d')
      match rest.drop names.length with
      | [] => false
      | _ :: behind =>
        Text.standsAlone name.toList false names && fromFramework framework behind
    | _ => false

/-- Whether an import of `name` from the framework starts somewhere in the text. -/
def importsNameIn (framework name : String) : List Char → Bool
  | [] => false
  | c :: s => importsNameHere framework name (c :: s) || importsNameIn framework name s

/-- Whether a script imports `name` from the framework. -/
def importsName (script framework name : String) : Bool :=
  importsNameIn framework name script.toList

/-- The line that imports names from the framework. -/
def importLine (framework : String) (names : List String) : String :=
  "import \x7b " ++ ", ".intercalate names ++ " \x7d from '" ++ framework ++ "'\n"

/-- The script with an import line for those of the two names that it does not import. -/
def addMissing (script framework : String) : String :=
  let missing := [factoryName, fragmentName].filter fun name => !importsName script framework name
  if missing.isEmpty then script else importLine framework missing ++ script

end LivePreview.FactoryImport
