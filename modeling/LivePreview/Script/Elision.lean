import LivePreview.Script.Names

/-!
# Imports without use

An import binds what a module may use as a value or only as a type. What it does not use as a value
is left out when the module is written, and so are exports of types. An import of a name that the
module gives to a value itself is left out too. A module that had imports or exports and loses them
all exports nothing, so that it is still a module.

## Main definitions

* `LivePreview.Script.Program.uses`: what a module uses.
* `LivePreview.Script.Program.withoutUnused`: the module without imports that it does not use.
* `LivePreview.Script.Program.stayingModule`: the module, which exports nothing if it has to.
-/

namespace LivePreview.Script

/-! ### Uses -/

/-- The variables that a module uses, among them those that its markup stands for. -/
def Program.uses (p : Program) : List String :=
  (usesOfBody p.body).map fun use =>
    match use with
    | .name text => text
    | .element => Factory.variableOf p.factory.element
    | .fragment => Factory.variableOf p.factory.fragment

/-! ### Other names -/

/-- A statement of which nothing is written, though it declares names of values and of types. -/
def unwritten (values types : List String) : Stmt := .erased false values types []

/-- A statement, but nothing of another name that is not among given uses. -/
def Stmt.ifUsed (uses : List Use) : Stmt → Stmt
  | .commented comments s => .commented comments (s.ifUsed uses)
  | .alias name target =>
    if uses.contains (.name name) then .alias name target else unwritten [name] [name]
  | s => s

/-- The statements of a block without other names that are not used. The last one is looked at
first, so that what is used for such a name alone is not used. The second argument holds the
statements that are not looked at yet, the last one first. -/
def withoutIdle (after : List Stmt) : List Stmt → List Stmt
  | [] => after
  | s :: before =>
    let s := if s.isAlias then s.ifUsed (usesOfBody before ++ usesOfBody after) else s
    withoutIdle (s :: after) before

mutual

/-- A statement without other names that are not used in the space of names that it declares. -/
def Stmt.withoutAliases : Stmt → Stmt
  | .commented comments s => .commented comments s.withoutAliases
  | .exportDeclaration isNamed s => .exportDeclaration isNamed s.withoutAliases
  | .space word name body => .space word name (withoutIdle [] (withoutAliasesIn body).reverse)
  | s => s

/-- Statements without other names that are not used in the spaces of names that they declare. -/
def withoutAliasesIn : List Stmt → List Stmt
  | [] => []
  | s :: l => s.withoutAliases :: withoutAliasesIn l

end

/-- The module without other names that it does not use as values. -/
def Program.withoutAliases (p : Program) : Program :=
  { p with body := withoutIdle [] (withoutAliasesIn p.body).reverse }

/-! ### Values -/

/-- What decides about the imports and exports of a module. -/
structure Population where
  /-- The variables that the module uses. -/
  uses : List String
  /-- The names that it gives to values. -/
  values : List String
  /-- The names that it imports. -/
  imports : List String
  /-- The names that it gives to types. -/
  types : List String
  /-- The names of values that exist elsewhere. -/
  ambient : List String

namespace Population

/-- Whether a name stands for a type alone, or for what exists elsewhere. -/
def isTypeOnly (p : Population) (name : String) : Bool :=
  p.ambient.contains name ||
    p.types.contains name && !p.values.contains name && !p.imports.contains name

/-- Whether what an import binds is used. -/
def keeps (p : Population) (binding : Binding) : Bool :=
  !binding.isType && !p.values.contains binding.inner && p.uses.contains binding.inner

end Population

/-- The names of values that exist elsewhere by a statement. -/
def Stmt.ambientValues : Stmt → List String
  | .erased true values _ _ => values
  | .commented _ s => s.ambientValues
  | .exportDeclaration _ s => s.ambientValues
  | _ => []

/-- What decides about the imports and exports of a module. -/
def Program.population (p : Program) : Population where
  uses := p.uses
  values := p.body.flatMap fun s => s.lexical ++ s.hoisted
  imports := p.body.flatMap Stmt.importedValues
  types := p.body.flatMap Stmt.types
  ambient := p.body.flatMap Stmt.ambientValues

/-! ### Elision -/

/-- Whether something is written of a declaration. -/
def Stmt.isWritten : Stmt → Bool
  | .erased _ _ _ _ => false
  | .typeDeclaration _ _ => false
  | .outside _ => false
  | _ => true

/-- What is left of a statement of a module. Its names are declared even where nothing is written
of it. -/
def Stmt.withoutUnused (p : Population) : Stmt → List Stmt
  | .commented comments s => (s.withoutUnused p).map (.commented comments)
  | .importFrom phase imports source attributes =>
    let used := imports.filter p.keeps
    let (types, values) := (imports.filter (!p.keeps ·)).partition Binding.isType
    let unused := unwritten (values.map Binding.inner) (types.map Binding.inner)
    if imports.isEmpty || !used.isEmpty then
      [unused, .importFrom phase used source attributes]
    else [unused]
  | .exportNames specifiers =>
    let values := specifiers.filter fun specifier => !p.isTypeOnly specifier.inner.text
    if values.isEmpty && !specifiers.isEmpty then [] else [.exportNames values]
  | .exportDefault declares (.name text) =>
    if p.isTypeOnly text then [] else [.exportDefault declares (.name text)]
  | .exportDeclaration isNamed s =>
    if s.isWritten then [.exportDeclaration isNamed s] else [s]
  | .typesOnly types _ => [unwritten [] types]
  | s => [s]

/-- Whether a statement makes its text a module. Spaces of names that are exported do so only if
something else of them is written. -/
def Stmt.isModular : Stmt → Bool
  | .commented _ s => s.isModular
  | .importFrom _ _ _ _ => true
  | .exportFrom _ _ _ => true
  | .exportAll _ _ _ => true
  | .exportNames _ => true
  | .exportDeclaration _ s => !s.isSpace
  | .exportDefault _ _ => true
  | .typesOnly _ _ => true
  | _ => false

/-- The statements with an export of nothing at their end, before the last comments. -/
def exportingNothing : List Stmt → List Stmt
  | [] => [.exportNames []]
  | [.remarks comments] => [.exportNames [], .remarks comments]
  | s :: l => s :: exportingNothing l

/-- The module without imports that it does not use as values. -/
def Program.withoutUnused (p : Program) : Program :=
  let p := p.withoutAliases
  { p with body := p.body.flatMap (Stmt.withoutUnused p.population) }

/-- Whether an import or export of the module is left out. -/
def Program.losesPart (p : Program) : Bool :=
  let p := p.withoutAliases
  let population := p.population
  p.body.any fun s => s.isModular && !(s.withoutUnused population).any Stmt.isModular

/-- The module, which exports nothing if it has no imports and exports. -/
def Program.stayingModule (p : Program) : Program :=
  if p.body.any Stmt.isModular then p else { p with body := exportingNothing p.body }

end LivePreview.Script
