import LivePreview.Script.Tree

/-!
# Names in use

The variables that a part of a module uses without declaring them. A declaration holds for the block
or function around it, a variable of the oldest kind for the whole function, and a parameter for its
function. Markup uses the functions that make elements whatever is declared around it.

## Main definitions

* `LivePreview.Script.Use`: what is used.
* `LivePreview.Script.Expr.bound`: the names that a pattern declares.
* `LivePreview.Script.Stmt.hoisted`: the names that a statement declares for its function.
* `LivePreview.Script.lexicalNames`: the names that statements declare for their block.
* `LivePreview.Script.Stmt.types`: the names that stand for types alone.
* `LivePreview.Script.Expr.uses`, `Stmt.uses`: what an expression or statement uses.
-/

namespace LivePreview.Script

/-- What is used. -/
inductive Use
  /-- A variable. -/
  | name (text : String)
  /-- The function that makes elements of markup. -/
  | element
  /-- The tag of elements without a parent. -/
  | fragment
  deriving DecidableEq, Repr

/-- The uses of other than the declared names. -/
def withoutNames (declared : List String) (uses : List Use) : List Use :=
  uses.filter fun use =>
    match use with
    | .name text => !declared.contains text
    | _ => true

/-! ### Declared names -/

mutual

/-- The names that a pattern declares. -/
def Expr.bound : Expr → List String
  | .name text => [text]
  | .array items => boundNames items
  | .object _ members => boundMembers members
  | .assign _ target _ => target.bound
  | .spread e => e.bound
  | .paren e => e.bound
  | .cast _ e => e.bound
  | .decorated _ e => e.bound
  | _ => []

/-- The names that patterns declare. -/
def boundNames : List Expr → List String
  | [] => []
  | e :: l => e.bound ++ boundNames l

/-- The names that the members of an object pattern declare. -/
def boundMembers : List Member → List String
  | [] => []
  | m :: l => m.bound ++ boundMembers l

/-- The names that a member of an object pattern declares. -/
def Member.bound : Member → List String
  | .mk _ _ _ kind _ key value =>
    match kind with
    | .shorthand => key.bound
    | _ => value.bound

end

mutual

/-- The names that a statement declares for its function. -/
def Stmt.hoisted : Stmt → List String
  | .bindings kind declarators => if kind == "var" then boundNames declarators else []
  | .commented _ s => s.hoisted
  | .block body => hoistedNames body
  | .ifThen _ yes => yes.hoisted
  | .ifElse _ yes no => yes.hoisted ++ no.hoisted
  | .forLoop start _ _ body => start.hoisted ++ body.hoisted
  | .forEach _ left _ _ body => left.hoisted ++ body.hoisted
  | .headed _ _ body => body.hoisted
  | .doLoop body _ => body.hoisted
  | .labeled _ body => body.hoisted
  | .switch _ clauses => hoistedClauses clauses
  | .attempt body clauses => hoistedNames body ++ hoistedClauses clauses
  | .exportDeclaration _ s => s.hoisted
  | _ => []

/-- The names that statements declare for their function. -/
def hoistedNames : List Stmt → List String
  | [] => []
  | s :: l => s.hoisted ++ hoistedNames l

/-- The names that clauses declare for their function. -/
def hoistedClauses : List Clause → List String
  | [] => []
  | c :: l => c.hoisted ++ hoistedClauses l

/-- The names that a clause declares for its function. -/
def Clause.hoisted : Clause → List String
  | .case _ body => hoistedNames body
  | .default body => hoistedNames body
  | .handler _ _ _ body => hoistedNames body
  | .finalizer body => hoistedNames body

end

mutual

/-- Whether a statement is more than a declaration of types or of names for what is elsewhere. These
names are the ones of values and of types alike. -/
def Stmt.hasValues : Stmt → Bool
  | .remarks _ => false
  | .directive _ => false
  | .alias _ _ => false
  | .importFrom _ _ _ _ => false
  | .commented _ s => s.hasValues
  | .space _ _ body => haveValues body
  | .typeDeclaration _ _ => false
  | .erased _ values types _ => values.any (!types.contains ·)
  | .outside _ => false
  | .exportDeclaration _ s => s.isAlias || s.hasValues
  | .exportNames _ => false
  | .exportFrom _ _ _ => false
  | .typesOnly _ _ => false
  | _ => true

/-- Whether one of several statements is more than a declaration of types. -/
def haveValues : List Stmt → Bool
  | [] => false
  | s :: l => s.hasValues || haveValues l

end

/-- The name of a function or class. -/
def Expr.ownName : Expr → String
  | .function _ _ own _ _ => own
  | .classOf own _ _ => own
  | .pureFunction e => e.ownName
  | .decorated _ e => e.ownName
  | _ => ""

/-- The names of values that a statement declares for its block. Imports are not among them. -/
def Stmt.lexical : Stmt → List String
  | .bindings kind declarators => if kind == "var" then [] else boundNames declarators
  | .declaration e => [e.ownName]
  | .enumeration name _ _ => [name]
  | .space _ name body => if haveValues body then [name] else []
  | .alias name _ => [name]
  | .erased _ values _ _ => values
  | .commented _ s => s.lexical
  | .labeled _ s => s.lexical
  | .exportDeclaration _ s => s.lexical
  | .exportDefault true e => [e.ownName]
  | _ => []

/-- The names that statements declare for their block. -/
def lexicalNames (body : List Stmt) : List String := body.flatMap Stmt.lexical

/-- The names that a statement imports. -/
def Stmt.imported : Stmt → List String
  | .importFrom _ imports _ _ => imports.map Binding.inner
  | .commented _ s => s.imported
  | _ => []

/-- The names that a statement imports, but not those of types. -/
def Stmt.importedValues : Stmt → List String
  | .importFrom _ imports _ _ => (imports.filter (!·.isType)).map Binding.inner
  | .commented _ s => s.importedValues
  | _ => []

/-- The names that stand for types alone by a statement. -/
def Stmt.types : Stmt → List String
  | .space _ name body => if haveValues body then [] else [name]
  | .typeDeclaration name _ => [name]
  | .erased _ _ types _ => types
  | .importFrom _ imports _ _ => (imports.filter Binding.isType).map Binding.inner
  | .typesOnly types _ => types
  | .commented _ s => s.types
  | .exportDeclaration _ s => s.types
  | _ => []

/-- All names that a statement declares, of values and of types. -/
def Stmt.declared (s : Stmt) : List String := s.lexical ++ s.hoisted ++ s.imported ++ s.types

/-- The names that the clauses of a choice by value declare together. -/
def Clause.lexical : Clause → List String
  | .case _ body => lexicalNames body
  | .default body => lexicalNames body
  | _ => []

/-- The names of the members of an enumeration. -/
def memberNames (members : List Member) : List String :=
  members.filterMap fun m =>
    match m with
    | .mk _ _ _ _ _ (.string value) _ => some value.text
    | _ => none

/-! ### Uses -/

mutual

/-- What an expression uses. -/
def Expr.uses : Expr → List Use
  | .name text => [.name text]
  | .template tag _ values => tag.uses ++ usesOf values
  | .array items => usesOf items
  | .object _ members => usesOfMembers members
  | .function _ _ name params body =>
    withoutNames
      (name :: "arguments" :: boundNames params ++ lexicalNames body ++ hoistedNames body)
      (usesOfPatterns params ++ usesOfBody body)
  | .arrow _ params value =>
    withoutNames (boundNames params) (usesOfPatterns params ++ value.uses)
  | .arrowBlock _ params body =>
    withoutNames (boundNames params ++ lexicalNames body ++ hoistedNames body)
      (usesOfPatterns params ++ usesOfBody body)
  | .classOf name base members => withoutNames [name] (base.uses ++ usesOfMembers members)
  | .unary _ operand => operand.uses
  | .update _ _ operand => operand.uses
  | .binary _ left right => left.uses ++ right.uses
  | .assign _ target value => target.uses ++ value.uses
  | .conditional test yes no => test.uses ++ yes.uses ++ no.uses
  | .sequence items => usesOf items
  | .member object _ _ => object.uses
  | .index object key _ => object.uses ++ key.uses
  | .call callee args _ => callee.uses ++ usesOf args
  | .construct callee args => callee.uses ++ usesOf args
  | .chain e => e.uses
  | .paren e => e.uses
  | .spread e => e.uses
  | .yield _ value => value.uses
  | .importCall _ args => usesOf args
  | .element tag attributes children _ =>
    .element :: tag.uses ++ usesOfMembers attributes ++ usesOf children
  | .fragment children _ => .element :: .fragment :: usesOf children
  | .cast _ e => e.uses
  | .decorated decorators e => usesOf decorators ++ e.uses
  | .noted _ e => e.uses
  | .pureCall e => e.uses
  | .pureFunction e => e.uses
  | _ => []

/-- What expressions use. -/
def usesOf : List Expr → List Use
  | [] => []
  | e :: l => e.uses ++ usesOf l

/-- What patterns that declare names use besides these. -/
def usesOfPatterns : List Expr → List Use
  | [] => []
  | e :: l => e.usesOfPattern ++ usesOfPatterns l

/-- What a pattern that declares names uses besides these. -/
def Expr.usesOfPattern : Expr → List Use
  | .array items => usesOfPatterns items
  | .object _ members => usesOfPatternMembers members
  | .assign _ target value => target.usesOfPattern ++ value.uses
  | .spread e => e.usesOfPattern
  | .decorated decorators e => usesOf decorators ++ e.usesOfPattern
  | _ => []

/-- What the members of an object pattern that declares names use besides these. -/
def usesOfPatternMembers : List Member → List Use
  | [] => []
  | m :: l => m.usesOfPattern ++ usesOfPatternMembers l

/-- What a member of an object pattern that declares names uses besides these. -/
def Member.usesOfPattern : Member → List Use
  | .mk _ _ _ kind computed key value =>
    match kind with
    | .shorthand => value.uses
    | _ => (if computed then key.uses else []) ++ value.usesOfPattern

/-- What members use. -/
def usesOfMembers : List Member → List Use
  | [] => []
  | m :: l => m.uses ++ usesOfMembers l

/-- What a member uses. -/
def Member.uses : Member → List Use
  | .mk _ decorators _ kind computed key value =>
    usesOf decorators ++
      match kind with
      | .shorthand => key.uses ++ value.uses
      | _ => (if computed then key.uses else []) ++ value.uses

/-- What a statement uses. -/
def Stmt.uses : Stmt → List Use
  | .commented _ s => s.uses
  | .expr e => e.uses
  | .declaration e => e.uses
  | .bindings _ declarators => usesOfPatterns declarators
  | .block body => withoutNames (lexicalNames body) (usesOfBody body)
  | .ifThen test yes => test.uses ++ yes.uses
  | .ifElse test yes no => test.uses ++ yes.uses ++ no.uses
  | .forLoop start test step body =>
    withoutNames start.lexical (start.uses ++ test.uses ++ step.uses ++ body.uses)
  | .forEach _ left _ range body =>
    withoutNames left.lexical (left.uses ++ range.uses ++ body.uses)
  | .headed _ head body => head.uses ++ body.uses
  | .doLoop body test => body.uses ++ test.uses
  | .jump _ value => value.uses
  | .labeled _ body => body.uses
  | .switch subject clauses =>
    subject.uses ++ withoutNames (clauses.flatMap Clause.lexical) (usesOfClauses clauses)
  | .attempt body clauses =>
    withoutNames (lexicalNames body) (usesOfBody body) ++ usesOfClauses clauses
  | .enumeration name members _ =>
    withoutNames (name :: memberNames members) (usesOfMembers members)
  | .space _ _ body => withoutNames (lexicalNames body ++ hoistedNames body) (usesOfBody body)
  | .alias _ target => target.uses
  | .exportNames specifiers => specifiers.map fun specifier => .name specifier.inner.text
  | .erased _ _ _ body => withoutNames (lexicalNames body ++ hoistedNames body) (usesOfBody body)
  | .outside body => withoutNames (lexicalNames body ++ hoistedNames body) (usesOfBody body)
  | .exportDeclaration _ s => s.uses
  | .exportDefault _ e => e.uses
  | .exportValue e => e.uses
  | _ => []

/-- What statements use. -/
def usesOfBody : List Stmt → List Use
  | [] => []
  | s :: l => s.uses ++ usesOfBody l

/-- What clauses use. -/
def usesOfClauses : List Clause → List Use
  | [] => []
  | c :: l => c.uses ++ usesOfClauses l

/-- What a clause uses. -/
def Clause.uses : Clause → List Use
  | .case value body => value.uses ++ usesOfBody body
  | .default body => usesOfBody body
  | .handler _ param _ body =>
    withoutNames (param.bound ++ lexicalNames body) (param.usesOfPattern ++ usesOfBody body)
  | .finalizer body => withoutNames (lexicalNames body) (usesOfBody body)

end

end LivePreview.Script
