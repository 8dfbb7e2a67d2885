import LivePreview.Component.Desugar
import LivePreview.Script.Scan

/-!
# Readers of modules

What a module imports and exports is told from its text by a reader. Of the grammar of modules a
reader is taken to know what follows. Line breaks around a module change nothing. An import in front
of it adds its names, unless they are taken. Further statements behind it, and a further member in
front of those of the object that it exports by default, leave its imports as they are.

## Main definitions

* `LivePreview.Outline`: what a module imports and exports.
* `LivePreview.ModuleReader`: a reader.
-/

namespace LivePreview

open Component FactoryImport

/-- A text that stands for itself between single quotes. -/
def IsQuotable (text : String) : Prop :=
  ∀ c ∈ text.toList, c ≠ '\'' ∧ c ≠ '\\' ∧ Script.isLineEnd c = false

instance (text : String) : Decidable (IsQuotable text) :=
  have hall : (text.toList.all fun c => c != '\'' && c != '\\' && !Script.isLineEnd c) = true ↔
      IsQuotable text := by
    simp [IsQuotable, and_assoc]
  decidable_of_decidable_of_iff hall

/-- What a module imports and exports. -/
structure Outline where
  /-- Whether the first line names what runs the module. -/
  hashbang : Bool
  /-- The names that its import specifiers bind, each with the module it comes from. -/
  imports : List (String × String)
  /-- The names that it declares as a whole in other ways. -/
  declares : List String
  /-- Whether it has a default export. -/
  exportsDefault : Bool
deriving DecidableEq, Repr

namespace Outline

/-- A module without statements. -/
def blank : Outline := ⟨false, [], [], false⟩

/-- The modules that a name comes from, one for each import specifier that binds it. -/
def origins (o : Outline) (name : String) : List String :=
  (o.imports.filter (·.1 == name)).map Prod.snd

end Outline

/-- The members of an object that render a template: one that renders, or one that sets up. -/
def renderingMembers (template : String) : List String :=
  [renderMember (renderCall template),
    "\n  setup() \x7b\n    return () => " ++ renderCall template ++ "\n  \x7d"]

theorem renderMember_mem (template : String) :
    renderMember (renderCall template) ∈ renderingMembers template := List.mem_cons_self

theorem setupMember_mem (template : String) :
    "\n  setup() \x7b\n    return () => " ++ renderCall template ++ "\n  \x7d" ∈
      renderingMembers template := List.mem_cons_of_mem _ (List.mem_singleton_self _)

/-- A reader of modules. -/
structure ModuleReader where
  /-- What a text is as a module, if it is one. -/
  read : String → Option Outline
  /-- Whether two texts are a module together, and the first one ends in the opening brace of an
  object literal that is its default export. -/
  OpensDefault : String → String → Prop
  /-- The empty text is a module. -/
  read_empty : read "" = some .blank
  /-- A line break in front of a module. -/
  read_lineBreak_append {text : String} {o : Outline} (h : read text = some o)
    (hhashbang : o.hashbang = false) : read ("\n" ++ text) = some o
  /-- A line break behind a module. -/
  read_append_lineBreak {text : String} {o : Outline} (h : read text = some o) :
    read (text ++ "\n") = some o
  /-- An import in front of a module that does not use its names. -/
  read_importLine_append {text framework : String} {names : List String} {o : Outline}
    (h : read text = some o) (hhashbang : o.hashbang = false) (hframework : IsQuotable framework)
    (hsublist : names.Sublist [factoryName, fragmentName]) (hempty : names ≠ [])
    (hnames : ∀ name ∈ names, o.origins name = [] ∧ name ∉ o.declares) :
    read (importLine framework names ++ text) =
      some { o with imports := names.map (·, framework) ++ o.imports }
  /-- A default export of an object behind a module that has none. -/
  read_append_export {text template member : String} {o : Outline} (h : read text = some o)
    (hdefault : o.exportsDefault = false) (hmember : member ∈ renderingMembers template) :
    ∃ o', read (text ++ ("\n" ++ exportOpening ++ member ++ "\n\x7d\n")) = some o' ∧
      o'.imports = o.imports
  /-- A member in front of the others of the object that is the default export. -/
  read_member_append {front rest : String} (template : String) {o : Outline}
    (h : read (front ++ rest) = some o) (hopens : OpensDefault front rest) :
    read (front ++ (renderMember (renderCall template) ++ "," ++ rest)) = some o
  /-- A statement behind a module. -/
  read_append_style {text fileName : String} (style : String) (stamp : Nat) {o : Outline}
    (h : read text = some o) (hfileName : IsQuotable fileName) :
    ∃ o', read (text ++ styleStatement fileName style stamp) = some o' ∧ o'.imports = o.imports

end LivePreview
