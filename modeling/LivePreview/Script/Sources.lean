import LivePreview.Script.Tree

/-!
# Sources

The texts by which a module names others. Imports and re-exports may stand in the bodies of
functions and in spaces of names, so the tree is visited in the order of its text. Declarations that
are exported by name are passed over, with all that stands in them.

## Main definitions

* `LivePreview.Script.Program.mapSources`: the module with the sources that a computation gives.
* `LivePreview.Script.Program.sources`: the sources, in the order of the text.
* `LivePreview.Script.Program.withSources`: the module with other sources in their places.
* `LivePreview.Script.Program.ownSources`: the sources that statements of the module itself name,
  and not the bodies in them.
-/

namespace LivePreview.Script

variable {m : Type → Type} [Monad m]

/-- A source with the text that a computation gives for it. -/
def StringValue.mapSource (f : String → m String) (value : StringValue) : m StringValue :=
  return { value with text := ← f value.text }

mutual

/-- An expression with other sources in it. -/
def Expr.mapSources (f : String → m String) : Expr → m Expr
  | .template tag texts values =>
    return .template (← tag.mapSources f) texts (← mapSourcesOf f values)
  | .array items => return .array (← mapSourcesOf f items)
  | .object comments members => return .object comments (← mapSourcesOfMembers f members)
  | .function isAsync isGenerator name params body =>
    return .function isAsync isGenerator name (← mapSourcesOf f params) (← mapSourcesOfBody f body)
  | .arrow isAsync params value =>
    return .arrow isAsync (← mapSourcesOf f params) (← value.mapSources f)
  | .arrowBlock isAsync params body =>
    return .arrowBlock isAsync (← mapSourcesOf f params) (← mapSourcesOfBody f body)
  | .classOf name base members =>
    return .classOf name (← base.mapSources f) (← mapSourcesOfMembers f members)
  | .unary op operand => return .unary op (← operand.mapSources f)
  | .update op before operand => return .update op before (← operand.mapSources f)
  | .binary op left right => return .binary op (← left.mapSources f) (← right.mapSources f)
  | .assign op target value => return .assign op (← target.mapSources f) (← value.mapSources f)
  | .conditional test yes no =>
    return .conditional (← test.mapSources f) (← yes.mapSources f) (← no.mapSources f)
  | .sequence items => return .sequence (← mapSourcesOf f items)
  | .member object name optional => return .member (← object.mapSources f) name optional
  | .index object key optional =>
    return .index (← object.mapSources f) (← key.mapSources f) optional
  | .call callee args optional =>
    return .call (← callee.mapSources f) (← mapSourcesOf f args) optional
  | .construct callee args => return .construct (← callee.mapSources f) (← mapSourcesOf f args)
  | .chain e => return .chain (← e.mapSources f)
  | .paren e => return .paren (← e.mapSources f)
  | .spread e => return .spread (← e.mapSources f)
  | .yield delegate value => return .yield delegate (← value.mapSources f)
  | .importCall phase args => return .importCall phase (← mapSourcesOf f args)
  | .element tag attributes children remarks =>
    return .element (← tag.mapSources f) (← mapSourcesOfMembers f attributes)
      (← mapSourcesOf f children) remarks
  | .fragment children remarks => return .fragment (← mapSourcesOf f children) remarks
  | .cast leads e => return .cast leads (← e.mapSources f)
  | .decorated decorators e =>
    return .decorated (← mapSourcesOf f decorators) (← e.mapSources f)
  | .noted comments e => return .noted comments (← e.mapSources f)
  | .pureCall e => return .pureCall (← e.mapSources f)
  | .pureFunction e => return .pureFunction (← e.mapSources f)
  | e => return e

/-- Expressions with other sources in them. -/
def mapSourcesOf (f : String → m String) : List Expr → m (List Expr)
  | [] => return []
  | e :: l => return (← e.mapSources f) :: (← mapSourcesOf f l)

/-- Members with other sources in them. -/
def mapSourcesOfMembers (f : String → m String) : List Member → m (List Member)
  | [] => return []
  | member :: l => return (← member.mapSources f) :: (← mapSourcesOfMembers f l)

/-- A member with other sources in it. -/
def Member.mapSources (f : String → m String) : Member → m Member
  | .mk comments decorators isStatic kind computed key value =>
    return .mk comments (← mapSourcesOf f decorators) isStatic kind computed (← key.mapSources f)
      (← value.mapSources f)

/-- A statement with other sources in it. -/
def Stmt.mapSources (f : String → m String) : Stmt → m Stmt
  | .commented comments s => return .commented comments (← s.mapSources f)
  | .expr e => return .expr (← e.mapSources f)
  | .declaration e => return .declaration (← e.mapSources f)
  | .bindings kind declarators => return .bindings kind (← mapSourcesOf f declarators)
  | .block body => return .block (← mapSourcesOfBody f body)
  | .ifThen test yes => return .ifThen (← test.mapSources f) (← yes.mapSources f)
  | .ifElse test yes no =>
    return .ifElse (← test.mapSources f) (← yes.mapSources f) (← no.mapSources f)
  | .forLoop start test step body =>
    return .forLoop (← start.mapSources f) (← test.mapSources f) (← step.mapSources f)
      (← body.mapSources f)
  | .forEach isAwait left link range body =>
    return .forEach isAwait (← left.mapSources f) link (← range.mapSources f) (← body.mapSources f)
  | .headed word head body => return .headed word (← head.mapSources f) (← body.mapSources f)
  | .doLoop body test => return .doLoop (← body.mapSources f) (← test.mapSources f)
  | .jump word value => return .jump word (← value.mapSources f)
  | .labeled label body => return .labeled label (← body.mapSources f)
  | .switch subject clauses =>
    return .switch (← subject.mapSources f) (← mapSourcesOfClauses f clauses)
  | .attempt body clauses =>
    return .attempt (← mapSourcesOfBody f body) (← mapSourcesOfClauses f clauses)
  | .enumeration name members remarks =>
    return .enumeration name (← mapSourcesOfMembers f members) remarks
  | .space word name body => return .space word name (← mapSourcesOfBody f body)
  | .alias name target => return .alias name (← target.mapSources f)
  | .outside body => return .outside (← mapSourcesOfBody f body)
  | .erased isAmbient values types body =>
    return .erased isAmbient values types (← mapSourcesOfBody f body)
  | .importFrom phase bindings source attributes =>
    return .importFrom phase bindings (← source.mapSource f) attributes
  | .exportFrom specifiers source attributes =>
    return .exportFrom specifiers (← source.mapSource f) attributes
  | .exportAll name source attributes => return .exportAll name (← source.mapSource f) attributes
  | .exportDeclaration false s => return .exportDeclaration false (← s.mapSources f)
  | .exportDefault declares e => return .exportDefault declares (← e.mapSources f)
  | .exportValue e => return .exportValue (← e.mapSources f)
  | .typesOnly types (some source) => return .typesOnly types (some (← source.mapSource f))
  | s => return s

/-- Statements with other sources in them. -/
def mapSourcesOfBody (f : String → m String) : List Stmt → m (List Stmt)
  | [] => return []
  | s :: l => return (← s.mapSources f) :: (← mapSourcesOfBody f l)

/-- Clauses with other sources in them. -/
def mapSourcesOfClauses (f : String → m String) : List Clause → m (List Clause)
  | [] => return []
  | c :: l => return (← c.mapSources f) :: (← mapSourcesOfClauses f l)

/-- A clause with other sources in it. -/
def Clause.mapSources (f : String → m String) : Clause → m Clause
  | .case value body =>
    return .case (← value.mapSources f) (← mapSourcesOfBody f body)
  | .default body => return .default (← mapSourcesOfBody f body)
  | .handler comments param inner body =>
    return .handler comments (← param.mapSources f) inner (← mapSourcesOfBody f body)
  | .finalizer body => return .finalizer (← mapSourcesOfBody f body)

end

/-- The source that a statement names by itself, if it names one. -/
def Stmt.source? : Stmt → Option String
  | .commented _ s => s.source?
  | .importFrom _ _ source _ => some source.text
  | .exportFrom _ source _ => some source.text
  | .exportAll _ source _ => some source.text
  | .typesOnly _ source => source.map StringValue.text
  | _ => none

namespace Program

/-- The module with the sources that a computation gives for those it names. -/
def mapSources (f : String → m String) (p : Program) : m Program :=
  return { p with body := ← mapSourcesOfBody f p.body }

/-- Collects a source. -/
def collect (source : String) : StateM (List String) String := do
  modify (· ++ [source])
  return source

/-- The sources a module names, in the order of its text. -/
def sources (p : Program) : List String := (p.mapSources collect []).2

/-- Takes the next of the given sources in place of one, as long as there are any. -/
def replace (source : String) : StateM (List String) String := do
  match ← get with
  | [] => return source
  | new :: rest =>
    set rest
    return new

/-- The module with other sources in place of those it names. -/
def withSources (p : Program) (sources : List String) : Program := (p.mapSources replace sources).1

/-- The sources that statements of the module itself name, in the order of the text. -/
def ownSources (p : Program) : List String := p.body.filterMap Stmt.source?

end Program

end LivePreview.Script
