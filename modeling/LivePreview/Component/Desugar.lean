import LivePreview.Component
import LivePreview.FactoryImport
import LivePreview.Text.Search

/-!
# Components as modules

A component becomes a plain module. Its template is rendered as a `div` whose inner HTML is the
template text; a setup script is kept in front of a `setup` export, a plain script gets a `render`
member at the start of its default export; the style block becomes a statement that appends a style
element to the head.

## Main definitions

* `LivePreview.Component.escapeTemplate`: a text as the interior of a template literal.
* `LivePreview.Component.desugar`: the module of a component.
-/

namespace LivePreview.Component

/-- One character of the interior of a template literal. -/
def escapeTemplateChar (c : Char) : List Char :=
  if c = '\\' ∨ c = '`' ∨ c = '$' then ['\\', c] else [c]

/-- A text as the interior of a template literal: backslashes, backticks and dollar signs are
escaped. -/
def escapeTemplate (text : String) : String :=
  String.ofList (text.toList.flatMap escapeTemplateChar)

/-- The expression that renders a template text. -/
def renderCall (template : String) : String :=
  "h('div', \x7b\n      innerHTML: `" ++ escapeTemplate template ++ "`\n    \x7d)"

/-- The import line of the factory, unless the script has one. -/
def factoryImport (script framework : String) : String :=
  if FactoryImport.importsName script framework FactoryImport.factoryName then ""
  else FactoryImport.importLine framework [FactoryImport.factoryName]

/-- The start of a default export of an object literal. -/
def exportOpening : String := "export default \x7b"

/-- A render member that gives a call. -/
def renderMember (call : String) : String :=
  "\n  render() \x7b\n    return " ++ call ++ "\n  \x7d"

/-- The module text of a component's script around a render call. -/
def scriptModule (script : Option Script) (framework call : String) : String :=
  match script.filter fun s => s.body ≠ "" with
  | none =>
    "\n" ++ FactoryImport.importLine framework [FactoryImport.factoryName] ++ "\n" ++
      exportOpening ++ renderMember call ++ "\n\x7d\n"
  | some script =>
    "\n" ++ factoryImport script.body framework ++
      if script.setup then
        script.body ++ "\n\n" ++ exportOpening ++ "\n  setup() \x7b\n    return () => " ++ call ++
          "\n  \x7d\n\x7d\n"
      else
        String.ofList (Text.replaceFirst exportOpening.toList
          (exportOpening ++ renderMember call ++ ",").toList script.body.toList) ++ "\n"

/-- The statement that appends a style element; its id is made unique by the stamp. -/
def styleStatement (fileName style : String) (stamp : Nat) : String :=
  "\n;(() => \x7b\n  const style = document.createElement('style')\n" ++
  "  style.textContent = `" ++ escapeTemplate style ++ "`\n" ++
  "  style.setAttribute('data-preview-component', '" ++ fileName ++ "-" ++ toString stamp ++
  "')\n  document.head.appendChild(style)\n\x7d)()\n"

/-- The module of a component. -/
def desugar (fileName source framework : String) (stamp : Nat) : String :=
  let found := blocks source
  let call := renderCall (found.template.getD "")
  let style := found.style.getD ""
  scriptModule found.script framework call ++
    if style = "" then "" else styleStatement fileName style stamp

end LivePreview.Component
