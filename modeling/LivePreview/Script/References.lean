import LivePreview.Reference
import LivePreview.Script.Tree

/-!
# References in scripts

The imports and re-exports of a module, wherever they stand: at the top, in the bodies of functions
and in spaces of names. They are listed in the order of the text, each with the text that names the
other module and with whether a declaration that is exported by name holds it.

## Main definitions

* `LivePreview.Script.Program.references`: those of a module.
-/

namespace LivePreview.Script

/-- The reference of a statement that names another module. -/
def StringValue.reference (source : StringValue) : Reference := ⟨source.text, false⟩

mutual

/-- The references in an expression. -/
def Expr.references : Expr → List Reference
  | .template tag _ values => tag.references ++ referencesOf values
  | .array items => referencesOf items
  | .object _ members => referencesOfMembers members
  | .function _ _ _ params body => referencesOf params ++ referencesOfBody body
  | .arrow _ params value => referencesOf params ++ value.references
  | .arrowBlock _ params body => referencesOf params ++ referencesOfBody body
  | .classOf _ base members => base.references ++ referencesOfMembers members
  | .unary _ operand => operand.references
  | .update _ _ operand => operand.references
  | .binary _ left right => left.references ++ right.references
  | .assign _ target value => target.references ++ value.references
  | .conditional test yes no => test.references ++ yes.references ++ no.references
  | .sequence items => referencesOf items
  | .member object _ _ => object.references
  | .index object key _ => object.references ++ key.references
  | .call callee args _ => callee.references ++ referencesOf args
  | .construct callee args => callee.references ++ referencesOf args
  | .chain e => e.references
  | .paren e => e.references
  | .spread e => e.references
  | .yield _ value => value.references
  | .importCall _ args => referencesOf args
  | .element tag attributes children _ =>
    tag.references ++ referencesOfMembers attributes ++ referencesOf children
  | .fragment children _ => referencesOf children
  | .cast _ e => e.references
  | .decorated decorators e => referencesOf decorators ++ e.references
  | .noted _ e => e.references
  | .pureCall e => e.references
  | .pureFunction e => e.references
  | _ => []

/-- The references in expressions. -/
def referencesOf : List Expr → List Reference
  | [] => []
  | e :: l => e.references ++ referencesOf l

/-- The references in members. -/
def referencesOfMembers : List Member → List Reference
  | [] => []
  | member :: l => member.references ++ referencesOfMembers l

/-- The references in a member. -/
def Member.references : Member → List Reference
  | .mk _ decorators _ _ _ key value =>
    referencesOf decorators ++ key.references ++ value.references

/-- The references in a statement. -/
def Stmt.references : Stmt → List Reference
  | .commented _ s => s.references
  | .expr e => e.references
  | .declaration e => e.references
  | .bindings _ declarators => referencesOf declarators
  | .block body => referencesOfBody body
  | .ifThen test yes => test.references ++ yes.references
  | .ifElse test yes no => test.references ++ yes.references ++ no.references
  | .forLoop start test step body =>
    start.references ++ test.references ++ step.references ++ body.references
  | .forEach _ left _ range body => left.references ++ range.references ++ body.references
  | .headed _ head body => head.references ++ body.references
  | .doLoop body test => body.references ++ test.references
  | .jump _ value => value.references
  | .labeled _ body => body.references
  | .switch subject clauses => subject.references ++ referencesOfClauses clauses
  | .attempt body clauses => referencesOfBody body ++ referencesOfClauses clauses
  | .enumeration _ members _ => referencesOfMembers members
  | .space _ _ body => referencesOfBody body
  | .alias _ target => target.references
  | .outside body => referencesOfBody body
  | .erased _ _ _ body => referencesOfBody body
  | .importFrom _ _ source _ => [source.reference]
  | .exportFrom _ source _ => [source.reference]
  | .exportAll _ source _ => [source.reference]
  | .exportDeclaration true s => s.references.map Reference.enclosed
  | .exportDeclaration false s => s.references
  | .exportDefault _ e => e.references
  | .exportValue e => e.references
  | .typesOnly _ (some source) => [source.reference]
  | _ => []

/-- The references in statements. -/
def referencesOfBody : List Stmt → List Reference
  | [] => []
  | s :: l => s.references ++ referencesOfBody l

/-- The references in clauses. -/
def referencesOfClauses : List Clause → List Reference
  | [] => []
  | c :: l => c.references ++ referencesOfClauses l

/-- The references in a clause. -/
def Clause.references : Clause → List Reference
  | .case value body => value.references ++ referencesOfBody body
  | .default body => referencesOfBody body
  | .handler _ param _ body => param.references ++ referencesOfBody body
  | .finalizer body => referencesOfBody body

end

/-- The references in a module. -/
def Program.references (p : Program) : List Reference := referencesOfBody p.body

end LivePreview.Script
