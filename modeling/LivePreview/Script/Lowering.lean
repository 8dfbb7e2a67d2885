import LivePreview.Script.Enumeration
import LivePreview.Script.Names
import LivePreview.Script.TakenNames

/-!
# Lowering

What a module has beyond plain script is replaced: markup becomes calls of the function that makes
elements, an enumeration a call of a function that fills an object, and a space of names a call of a
function that is given its object. Declarations of types and parentheses without effect are gone. A
tag with a namespace and a variable that a space exports cannot be replaced; they are told.

## Main definitions

* `LivePreview.Script.Lowering`: what is known on the way.
* `LivePreview.Script.Expr.lower`, `Stmt.lower`: lowered expressions and statements.
* `LivePreview.Script.Program.lower`: a lowered module, or why there is none.
-/

namespace LivePreview.Script

/-! ### States and places -/

/-- What is known on the way. -/
structure Lowering where
  /-- The name of the file of the module. -/
  title : String
  /-- What markup stands for. -/
  factory : Factory
  /-- The enumerations so far. -/
  enumerations : List (String × EnumMembers)
  /-- The names that are taken. -/
  taken : TakenNames
  /-- What cannot be lowered. -/
  faults : List String

/-- A step of a lowering. -/
abbrev Lower (α : Type) := StateM Lowering α

/-- Where something is lowered. -/
structure Frame where
  /-- Whether statements are those of the module itself. -/
  isModule : Bool
  /-- Whether a declaration is exported. -/
  isExported : Bool
  /-- The parameter that stands for the object of the space of names around, if there is one. -/
  space : Option String
  /-- The enumeration whose member has the value that is lowered. -/
  enumeration : String
  /-- The names that stand for members of that enumeration. -/
  members : List String
  /-- The name of what the value is given to, if it has one. -/
  owner : Option String
  /-- Whether a statement has a label, or an object for its variables, so that it is not left
  out. -/
  isLabeled : Bool

namespace Frame

/-- The place of the statements of a module. -/
def module : Frame := ⟨true, false, none, "", [], none, false⟩

/-- A place inside of a statement. -/
def inner (f : Frame) : Frame :=
  { f with
    isModule := false
    isExported := false
    space := none
    owner := none
    isLabeled := false }

/-- A place inside of a function that declares names. -/
def inFunction (f : Frame) (declared : List String) : Frame :=
  { f.inner with members := f.members.filter fun name => !declared.contains name }

/-- The place of the value of a member of an enumeration. -/
def inEnumeration (f : Frame) (name : String) (members : List String) : Frame :=
  { f.inner with enumeration := name, members }

/-- A place where names do not stand for members of an enumeration. -/
def plain (f : Frame) : Frame := { f with members := [] }

/-- The place of a statement with a label or an object for its variables. -/
def labeled (f : Frame) : Frame := { f.inner with isModule := f.isModule, isLabeled := true }

/-- The place of a value that is given to something. -/
def owned (f : Frame) (owner : Option String) : Frame := { f with owner }

/-- The place of a declaration that is exported. -/
def exported (f : Frame) : Frame := { f with isExported := true }

/-- A declaration as it is written at a place: exported, or with an assignment to a property of the
space around. -/
def placed (f : Frame) (s : Stmt) : Stmt :=
  if f.isExported && f.space.isNone then .exportDeclaration true s else s

end Frame

/-- Notes what cannot be lowered. -/
def refuse (message : String) : Lower Unit :=
  modify fun l => { l with faults := l.faults ++ [message] }

/-- The message about a tag with a namespace. -/
def namespaceMessage : String :=
  "Namespace tags are not supported by default. React's JSX doesn't support namespace tags. " ++
    "You can set `throwIfNamespace: false` to bypass this warning."

/-- The message about the description of another module in a space of names. -/
def nestedModuleMessage : String :=
  "Ambient modules cannot be nested in other modules or namespaces."

/-- The message about a variable that a space of names exports. -/
def exportedVariableMessage : String :=
  "Namespaces exporting non-const are not supported by Babel. Change to const or see: " ++
    "https://babeljs.io/docs/en/babel-plugin-transform-typescript"

/-! ### Components -/

/-- The text of a key that is told by the text of the module. -/
def Expr.keyName? : Expr → Option String
  | .name text => some text
  | .string value => some value.text
  | .number value => some value.decimalText
  | _ => none

/-- The name of what an assignment gives a value to. -/
def Expr.ownName? : Expr → Option String
  | .name text => some text
  | .member _ key _ => if key.startsWith "#" then none else some key
  | .index _ (.string value) _ => some value.text
  | _ => none

/-- The name that the value of a member of an object is given to. -/
def ownerByKey (computed : Bool) (key : Expr) : Option String :=
  match computed, key with
  | true, .name _ => none
  | _, key => key.keyName?

/-- Whether a function makes components from objects. -/
def Expr.makesComponents : Expr → Bool
  | .name text => text == "createReactClass"
  | .member (.name space) key _ => space == "React" && key == "createClass"
  | .index (.name space) (.string value) _ => space == "React" && value.text == "createClass"
  | _ => false

/-- The key of the name that a component is shown with. -/
def shownName : String := "displayName"

/-- Whether a member of an object says with what name a component is shown. -/
def Member.isShownName : Member → Bool
  | .mk _ _ _ kind computed key _ => kind != .spread && ownerByKey computed key == some shownName

/-- Whether arguments are an object and nothing else. -/
def isSoleObject : List Expr → Bool
  | [.object _ _] => true
  | _ => false

/-- The arguments of a call. An object that a component is made from tells the name of what the
component is given to, unless it tells one itself. -/
def namedArguments (owner : Option String) (args : List Expr) : List Expr :=
  match owner, args with
  | some owner, [.object comments members] =>
    if members.any Member.isShownName then args
    else
      let own := Member.mk [] [] false .property false (.name shownName) (.string (.ofText owner))
      [.object comments (own :: members)]
  | _, _ => args

/-! ### Names -/

/-- A new name that is made from another one. -/
def newNameFor (name : String) : Lower String := do
  let l ← get
  let (new, taken) := l.taken.newName name
  set { l with taken }
  return new

/-! ### Shapes -/

/-- Whether parentheses around an expression are kept, because it is a function. -/
def Expr.keepsParens : Expr → Bool
  | .function .. => true
  | .arrow .. => true
  | .arrowBlock .. => true
  | .pureFunction e => e.keepsParens
  | _ => false

/-- Whether a decorator is written without parentheses: it is a name, a property or a call of one
of these. -/
def Expr.isPlainDecorator : Expr → Bool
  | .name _ => true
  | .member _ _ _ => true
  | .call callee _ false => callee.isPlainDecorator
  | .pureCall e => e.isPlainDecorator
  | _ => false

/-- Whether an expression is an object, perhaps with another type. -/
def Expr.isObjectLiteral : Expr → Bool
  | .object _ _ => true
  | .cast _ e => e.isObjectLiteral
  | _ => false

/-- Whether an expression starts elsewhere once its types are gone, so that comments before it are
before something else. -/
def Expr.losesStart : Expr → Bool
  | .cast leads e =>
    leads || match e with
      | .paren _ => true
      | e => e.losesStart
  | _ => false

/-- Whether an expression is a call or a new object. -/
def Expr.isCall : Expr → Bool
  | .call .. => true
  | .construct .. => true
  | .pureCall e => e.isCall
  | _ => false

/-- Whether a key sets the prototype of an object. -/
def isPrototypeKey : Expr → Bool
  | .name text => text == "__proto__"
  | .string value => value.text == "__proto__"
  | _ => false

/-- Whether a member of an object sets its prototype. -/
def Member.setsPrototype : Member → Bool
  | .mk _ _ _ kind computed key _ => kind == .property && !computed && isPrototypeKey key

/-- The members that stand for the members of another object: its own ones where they are written
there. -/
def spreadMembers (isLiteral : Bool) (e : Expr) : List Member :=
  let whole := [Member.mk [] [] false .spread false .absent (.spread e)]
  match e with
  | .object _ members =>
    if isLiteral && !members.any Member.setsPrototype then members else whole
  | _ => whole

/-- A call that can be left out if its value is not used. -/
def pureCallOf (callee : Expr) (args : List Expr) : Expr := .pureCall (.call callee args false)

/-- The value that a name with dots stands for. -/
def dottedValue (name : String) : Expr :=
  let property (e : Expr) (part : String) : Expr := .member e part false
  match Factory.parts name with
  | "this" :: rest => rest.foldl property (.keyword "this")
  | "import" :: _ :: rest => rest.foldl property (.keyword "import.meta")
  | first :: rest => rest.foldl property (.name first)
  | [] => .absent

/-- A call of the function that makes elements, with the comments at its end. -/
def elementCall (factory : Factory) (args : List Expr) (remarks : List Comment) : Expr :=
  let last := if remarks.isEmpty then [] else [Expr.noted remarks .absent]
  pureCallOf (dottedValue factory.element) (args ++ last)

/-- The attributes of an element as one value. -/
def attributesValue (attributes lowered : List Member) : Expr :=
  match attributes, lowered with
  | [], _ => .keyword "null"
  | [.mk _ _ _ .spread _ _ (.spread given)], [.mk _ _ _ _ _ _ (.spread e)] =>
    if given.isObjectLiteral then .object [] lowered else e
  | _, lowered => .object [] lowered

/-- What stands for statements where there is one. -/
def soleOf : List Stmt → Stmt
  | [s] => s
  | l => .block l

/-- Statements with comments before the last of them. -/
def commentLast (comments : List Comment) (l : List Stmt) : List Stmt :=
  l.dropLast ++ (l.drop (l.length - 1)).map (.commented comments)

/-! ### Enumerations -/

/-- An assignment. -/
def assigned (target value : Expr) : Expr := .assign "=" target value

/-- A property by a key that is a text. -/
def propertyAt (object : Expr) (key : String) : Expr :=
  .index object (.string (.ofText key)) false

/-- The value of a member of an enumeration, the given one being lowered. -/
def EnumValue.toExpr (enumeration : String) (given : Expr) : EnumValue → Expr
  | constant (.number value) => .number value
  | constant (.text value) => .string (.ofText value)
  | successor before =>
    .binary "+" (.number (.ofNat 1)) (propertyAt (.name enumeration) before)
  | EnumValue.given => given

/-- The statement that fills in a member of an enumeration: its name has its value, and its value
its name unless it is a string. -/
def memberStatement (enumeration key : String) (value : EnumValue) (given : Expr) : Stmt :=
  let object := Expr.name enumeration
  match value with
  | .constant (.text text) => .expr (assigned (propertyAt object key) (.string (.ofText text)))
  | value =>
    let forward := assigned (propertyAt object key) (value.toExpr enumeration given)
    .expr (assigned (.index object forward false) (.string (.ofText key)))

/-- The object that an enumeration fills: an empty one, or that of a declaration of the same
name. -/
def enumerationObject (isFresh : Bool) (name : String) : Expr :=
  if isFresh then .object [] [] else .binary "||" (.name name) (.object [] [])

/-- The call of the function that fills the object of an enumeration. It has an effect if the
function calls another one, as it does where a member is given the value of a call. -/
def enumerationValue (isFresh calls : Bool) (name : String) (statements : List Stmt)
    (remarks : List Comment) : Expr :=
  let last := if remarks.isEmpty then [] else [Stmt.remarks remarks]
  let body := statements ++ Stmt.jump "return" (.name name) :: last
  let callee := Expr.function false false "" [.name name] body
  let args := [enumerationObject isFresh name]
  if calls then .call callee args false else pureCallOf callee args

/-! ### Spaces of names -/

/-- The assignment that makes a name a property of the space around. -/
def shared (space name : String) : Expr := assigned (.member (.name space) name false) (.name name)

/-- A declaration, and if it is exported from a space of names the assignment that does this. -/
def sharing (f : Frame) (s : Stmt) : List Stmt :=
  match f.space with
  | some space =>
    let names := s.lexical ++ s.hoisted
    if f.isExported then s :: names.map fun name => .expr (shared space name) else [s]
  | none => [f.placed s]

/-- The statements that declare an enumeration. -/
def enumerationStatements (f : Frame) (isDeclared calls : Bool) (name : String)
    (statements : List Stmt) (remarks : List Comment) : List Stmt :=
  let isFresh := (f.isExported || !f.isModule) && !isDeclared
  let value := assigned (.name name) (enumerationValue isFresh calls name statements remarks)
  if isDeclared then [.expr value]
  else sharing f (.bindings (if f.isModule && !f.isExported then "var" else "let") [value])

/-- A constant that is assigned to a property of a space of names as well. -/
def sharedConstant (space : String) : Expr → Expr
  | .assign op (.name name) value =>
    .assign op (.name name) (assigned (.member (.name space) name false) value)
  | e => e

/-- Whether a declarator is one of a single name. -/
def isSingle : Expr → Bool
  | .assign _ (.name _) _ => true
  | .name _ => true
  | _ => false

/-- Variables that are exported from a space of names. -/
def sharedBindings (space kind : String) (declarators : List Expr) : List Stmt :=
  if declarators.all isSingle then [.bindings kind (declarators.map (sharedConstant space))]
  else
    let assignments := (boundNames declarators).map (shared space)
    let value := match assignments with
      | [e] => e
      | l => .sequence l
    [.bindings kind declarators, .expr value]

/-- Declared variables. -/
def bindingStatements (f : Frame) (kind : String) (declarators : List Expr) : List Stmt :=
  match f.space with
  | some space =>
    if f.isExported then sharedBindings space kind declarators else [.bindings kind declarators]
  | none => [f.placed (.bindings kind declarators)]

/-- The statements that declare a space of names, whose object is a property of the space around if
it is exported from there. -/
def spaceStatements (f : Frame) (isDeclared : Bool) (name parameter : String)
    (body : List Stmt) : List Stmt :=
  let callee := Expr.function false false "" [.name parameter] body
  let fresh := assigned (.name name) (.object [] [])
  let object : Expr := match f.space, f.isExported with
    | some space, true =>
      let property := Expr.member (.name space) name false
      let outer := Expr.binary "||" property (assigned property (.object [] []))
      .binary "||" (.name name) (assigned (.name name) outer)
    | _, _ => .binary "||" (.name name) fresh
  let filled := Stmt.expr (.call callee [object] false)
  if isDeclared then [filled] else [f.placed (.bindings "let" [.name name]), filled]

/-- The statements of a clause. -/
def Clause.statements : Clause → List Stmt
  | .case _ body => body
  | .default body => body
  | .handler _ _ _ body => body
  | .finalizer body => body

/-- Whether a statement exports a declaration. -/
def Stmt.isExport : Stmt → Bool
  | .exportDeclaration _ _ => true
  | _ => false

/-- A declaration of something elsewhere. A class does not say that it is. -/
def Stmt.elsewhere : Stmt → Stmt
  | .declaration e => .declaration e
  | s => .ambient s

/-- Whether a declaration of something elsewhere is one of variables, of a class, of a type or of a
space of names. -/
def Stmt.isPlainDeclaration : Stmt → Bool
  | .bindings _ _ => true
  | .declaration _ => true
  | .typeDeclaration _ _ => true
  | .space _ _ _ => true
  | _ => false

mutual

/-- Whether a statement gives the function that fills the object of a space of names something to
do. What exists elsewhere counts unless it is exported or another space. -/
def Stmt.fillsSpace : Stmt → Bool
  | .commented _ s => s.fillsSpace
  | .remarks _ => false
  | .directive _ => false
  | .space _ _ body => haveValues body && fillSpace body
  | .exportDeclaration _ (.space _ _ body) => haveValues body && fillSpace body
  | .exportDeclaration _ s => !s.isTyped || s.isAlias || s.isEnumeration
  | .exportNames _ => false
  | .exportFrom _ _ _ => false
  | .outside _ => false
  | .erased isAmbient _ _ body => !isAmbient || !body.any Stmt.isSpace
  | _ => true

/-- Whether one of several statements gives the function that fills the object of a space of names
something to do. -/
def fillSpace : List Stmt → Bool
  | [] => false
  | s :: l => s.fillsSpace || fillSpace l

end

/-- Whether a space of names leaves a statement out: it has no exports but declarations. -/
def leavesOut (f : Frame) : Stmt → Bool
  | .exportNames _ => f.space.isSome
  | .exportFrom _ _ _ => f.space.isSome
  | _ => false

/-- Whether the names of a declaration are those of a value in the statements before. -/
def isValueBefore (before : List Stmt) (name : String) : Bool :=
  before.any fun s => (s.lexical ++ s.hoisted ++ s.importedValues).contains name

/-- What stands for a statement that is all that a condition or a loop holds, given the step that
lowers it. A declaration that plain script does not have is left out, even one that has values. -/
def alone (s : Stmt) (lowered : Lower (List Stmt)) : Lower Stmt := do
  if s.isTyped then return .block [] else return soleOf (← lowered)

/-! ### Lowering -/

mutual

/-- A lowered expression or pattern. -/
def Expr.lower (f : Frame) : Expr → Lower Expr
  | .name text =>
    return if f.members.contains text then .member (.name f.enumeration) text false else .name text
  | .template tag texts values => return .template (← tag.lower f) texts (← lowerAll f values)
  | .array items => return .array (← lowerAll f items)
  | .object comments members => return .object comments (← lowerMembers f members)
  | .function isAsync isGenerator own params body => do
    let f := f.inFunction (boundNames params ++ lexicalNames body ++ hoistedNames body)
    return .function isAsync isGenerator own (← lowerAll f params) (← lowerBody f [] body)
  | .arrow isAsync params value => do
    let f := f.inFunction (boundNames params)
    return .arrow isAsync (← lowerAll f params) (← value.lower f)
  | .arrowBlock isAsync params body => do
    let f := f.inFunction (boundNames params ++ lexicalNames body ++ hoistedNames body)
    return .arrowBlock isAsync (← lowerAll f params) (← lowerBody f [] body)
  | .classOf own base members =>
    return .classOf own (← base.lower f) (← lowerMembers f members)
  | .unary op operand => return .unary op (← operand.lower f)
  | .update op before operand => return .update op before (← operand.lower f)
  | .binary op left right => return .binary op (← left.lower f) (← right.lower f)
  | .assign op target value => do
    let owner := target.ownName?
    return .assign op (← target.lower f.plain) (← value.lower (f.owned owner))
  | .conditional test yes no =>
    return .conditional (← test.lower f) (← yes.lower f) (← no.lower f)
  | .sequence items => return .sequence (← lowerAll f items)
  | .member object name optional => return .member (← object.lower f) name optional
  | .index object key optional => return .index (← object.lower f) (← key.lower f) optional
  | .call callee args optional => do
    let fits := callee.makesComponents && isSoleObject args
    let lowered ← callee.lower f
    let args ← lowerAll f args
    return .call lowered (if fits then namedArguments f.owner args else args) optional
  | .construct callee args => return .construct (← callee.lower f) (← lowerAll f args)
  | .chain e => return .chain (← e.lower f)
  | .paren e => do
    let keeps := e.keepsParens
    let e ← e.lower f
    return if keeps then .paren e else e
  | .spread e => return .spread (← e.lower f)
  | .yield delegate value => return .yield delegate (← value.lower f)
  | .importCall phase args => return .importCall phase (← lowerAll f args)
  | .element tag attributes children remarks => do
    let value ← tag.lower f
    let lowered ← lowerAttributes f attributes
    let children ← lowerAll f children
    let args := value :: attributesValue attributes lowered :: children
    return elementCall (← get).factory args remarks
  | .fragment children remarks => do
    let children ← lowerAll f children
    let factory := (← get).factory
    let args := dottedValue factory.fragment :: .keyword "null" :: children
    return elementCall factory args remarks
  | .namespaced space name => do
    refuse namespaceMessage
    return .namespaced space name
  | .cast _ e => e.lower f
  | .decorated decorators e => return .decorated (← lowerDecorators f decorators) (← e.lower f)
  | .noted comments e => return .after (if e.losesStart then [] else comments) (← e.lower f)
  | .pureCall e => return .pureCall (← e.lower f)
  | .pureFunction e => return .pureFunction (← e.lower f)
  | e => return e
termination_by structural e => e

/-- Lowered expressions. -/
def lowerAll (f : Frame) : List Expr → Lower (List Expr)
  | [] => return []
  | e :: l => return (← e.lower f) :: (← lowerAll f l)
termination_by structural l => l

/-- Lowered decorators. One that is more than a name, a property or a call of these stands in
parentheses. -/
def lowerDecorators (f : Frame) : List Expr → Lower (List Expr)
  | [] => return []
  | e :: l => do
    let isPlain := e.isPlainDecorator
    let e ← e.lower f
    return (if isPlain then e else .paren e) :: (← lowerDecorators f l)
termination_by structural l => l

/-- Lowered members of an object or a class. -/
def lowerMembers (f : Frame) : List Member → Lower (List Member)
  | [] => return []
  | m :: l => return (← m.lower f) :: (← lowerMembers f l)
termination_by structural l => l

/-- A lowered member of an object or a class. A name alone that stands for a member of an
enumeration is given its value. -/
def Member.lower (f : Frame) : Member → Lower Member
  | .mk comments decorators isStatic kind computed key value => do
    let decorators ← lowerDecorators f decorators
    let owner := if kind == .property then ownerByKey computed key else f.owner
    let value ← value.lower (f.owned owner)
    let newKey ← if computed then key.lower f else pure key
    match kind, key with
    | .shorthand, .name text =>
      if f.members.contains text && value.isAbsent then
        let member := Expr.member (.name f.enumeration) text false
        return .mk comments decorators isStatic .property computed newKey member
      else return .mk comments decorators isStatic kind computed newKey value
    | _, _ => return .mk comments decorators isStatic kind computed newKey value
termination_by structural m => m

/-- The attributes of an element as members of an object. -/
def lowerAttributes (f : Frame) : List Member → Lower (List Member)
  | [] => return []
  | .mk _ _ _ .spread _ _ (.spread e) :: l => do
    let isLiteral := e.isObjectLiteral
    let e ← e.lower f
    return spreadMembers isLiteral e ++ (← lowerAttributes f l)
  | m :: l => return (← m.lower f) :: (← lowerAttributes f l)
termination_by structural l => l

/-- The statements that fill in the members of an enumeration with the given names and values. The
names before are known. -/
def lowerEnumeration (f : Frame) (name : String) (names : List String)
    (values : List (String × EnumValue)) : List Member → Lower (List Stmt)
  | [] => return []
  | .mk comments _ _ _ _ _ value :: l => do
    match values with
    | [] => return []
    | (text, result) :: values =>
      let names := text :: names
      let given ← value.lower (f.inEnumeration name names)
      let s := memberStatement name text result given
      return .after comments s :: (← lowerEnumeration f name names values l)
termination_by structural l => l

/-- What stands for a statement after others of its block. -/
def Stmt.lower (f : Frame) (before : List Stmt) : Stmt → Lower (List Stmt)
  | .commented comments s => do
    let hidden := f.space.isSome && s.isExport
    let lowered ← s.lower f before
    return if hidden then lowered else commentLast comments lowered
  | .expr e => return [.expr (← e.lower f)]
  | .declaration e => return sharing f (.declaration (← e.lower f.inner))
  | .bindings kind declarators => do
    let lowered ← lowerAll f.inner declarators
    if f.isExported && f.space.isSome && kind ≠ "const" then
      declarators.forM fun _ => refuse exportedVariableMessage
    return bindingStatements f kind lowered
  | .block body => return [.block (← lowerBody f.inner [] body)]
  | .ifThen test yes => do
    let test ← test.lower f
    return [.ifThen test (← alone yes (yes.lower f.inner []))]
  | .ifElse test yes no => do
    let test ← test.lower f
    let yes ← alone yes (yes.lower f.inner [])
    if no.isTyped then return [.ifThen test yes]
    else return [.ifElse test yes (← alone no (no.lower f.inner []))]
  | .forLoop start test step body => do
    let start ← start.lower f.inner []
    let test ← test.lower f
    let step ← step.lower f
    return [.forLoop (soleOf start) test step (← alone body (body.lower f.inner []))]
  | .forEach isAwait left link range body => do
    let left ← left.lower f.inner []
    let range ← range.lower f
    return [.forEach isAwait (soleOf left) link range (← alone body (body.lower f.inner []))]
  | .headed word head body => do
    let head ← head.lower f
    if word == "with" then return [.headed word head (soleOf (← body.lower f.labeled []))]
    else return [.headed word head (← alone body (body.lower f.inner []))]
  | .doLoop body test => do
    let body ← alone body (body.lower f.inner [])
    return [.doLoop body (← test.lower f)]
  | .jump word value => return [.jump word (← value.lower f)]
  | .labeled label body =>
    return [.labeled label (soleOf (← body.lower f.labeled before))]
  | .switch subject clauses => do
    let subject ← subject.lower f
    return [.switch subject (← lowerClauses f.inner [] clauses)]
  | .attempt body clauses => do
    let body ← lowerBody f.inner [] body
    return [.attempt body (← lowerClauses f.inner [] clauses)]
  | .enumeration name members remarks => do
    let enumerations := (← get).enumerations
    let known := (enumerations.lookup name).getD []
    let values := EnumValue.ofMembers enumerations known none members
    let all := values.reverse.map (fun (text, value) => (text, value.constant?)) ++ known
    modify fun l => { l with enumerations := (name, all) :: enumerations }
    let statements ← lowerEnumeration f name (known.map Prod.fst) values members
    let isDeclared := before.any fun s => s.declared.contains name
    let calls := members.any fun m => m.value.isCall
    return enumerationStatements f isDeclared calls name statements remarks
  | .space word name body => do
    if f.isLabeled then return [.space word name (← lowerBody f.inner [] body)]
    if (!f.isModule && f.space.isNone) || !haveValues body then return []
    let parameter ← newNameFor name
    let lowered ← lowerBody { f.inner with space := some parameter } [] body
    if !fillSpace body then return []
    else return spaceStatements f (isValueBefore before name) name parameter lowered
  | .alias name target => do
    let target ← target.lower f
    let word := if target.isCall then "const" else "var"
    return sharing f (.bindings word [assigned (.name name) target])
  | .exportDeclaration _ s => s.lower f.exported before
  | .exportDefault declares e => do
    let title := (← get).title
    return [.exportDefault declares (← e.lower (f.owned (some title)))]
  | .exportValue e =>
    return [.expr (assigned (.member (.name "module") "exports" false) (← e.lower f))]
  | .erased isAmbient values types body => do
    if f.space.isSome && (Stmt.erased isAmbient values types body).isOutside then
      refuse nestedModuleMessage
    if f.isLabeled && body.all Stmt.isPlainDeclaration then
      return (← lowerBody f [] body).map Stmt.elsewhere
    else return []
  | .typeDeclaration name text => return if f.isLabeled then [.typeDeclaration name text] else []
  | .outside _ => do
    if f.space.isSome then refuse nestedModuleMessage
    return []
  | .typesOnly _ _ => return []
  | s => return if leavesOut f s then [] else [s]
termination_by structural s => s

/-- What stands for statements after others of their block, the latest of these first. -/
def lowerBody (f : Frame) (before : List Stmt) : List Stmt → Lower (List Stmt)
  | [] => return []
  | s :: l => do
    let lowered ← s.lower f before
    return lowered ++ (← lowerBody f (s :: before) l)
termination_by structural l => l

/-- Lowered clauses after statements of the same choice. -/
def lowerClauses (f : Frame) (before : List Stmt) : List Clause → Lower (List Clause)
  | [] => return []
  | c :: l => do
    let c' ← c.lower f before
    return c' :: (← lowerClauses f (c.statements.reverse ++ before) l)
termination_by structural l => l

/-- A lowered clause after statements of the same choice. -/
def Clause.lower (f : Frame) (before : List Stmt) : Clause → Lower Clause
  | .case value body => do
    let value ← value.lower f
    return .case value (← lowerBody f before body)
  | .default body => return .default (← lowerBody f before body)
  | .handler comments param inner body => do
    let param ← param.lower f
    return .handler comments param inner (← lowerBody f [] body)
  | .finalizer body => return .finalizer (← lowerBody f [] body)
termination_by structural c => c

end

/-! ### Modules -/

/-- A lowered module, or all reasons why there is none. -/
def Program.lower (p : Program) : Except (List String) Program :=
  let start : Lowering := ⟨p.title, p.factory, [], .ofNames p.marked, p.factory.faults⟩
  let (body, state) := lowerBody .module [] p.body start
  if state.faults.isEmpty then .ok { p with body } else .error state.faults

end LivePreview.Script
