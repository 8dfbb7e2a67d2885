import LivePreview.Script.Grammar.Pattern

/-!
# Functions and classes

The bodies of functions, and the members of classes. A function or method without a body only says
what types it has, and so do abstract and declared members; nothing is kept of them.

## Main definitions

* `LivePreview.Script.Grammar.body`: the statements of a function.
* `LivePreview.Script.Grammar.functionAfterWord`: a function.
* `LivePreview.Script.Grammar.classAfterWord`: a class.
-/

namespace LivePreview.Script

/-- The name that a parameter without parts gives. -/
def Expr.parameterName? : Expr → Option String
  | .name text => some text
  | .assign _ target _ => target.parameterName?
  | .decorated _ e => e.parameterName?
  | _ => none

/-- Statements that give a new object the properties that its constructor takes as parameters. -/
def propertyStatements (params : List Grammar.Param) : List Stmt :=
  (params.filter (·.isProperty)).filterMap fun param =>
    param.pattern.parameterName?.map fun text =>
      .expr (.assign "=" (.member (.keyword "this") text false) (.name text))

/-- Whether a statement calls the constructor of the base. -/
def Stmt.callsBase : Stmt → Bool
  | .expr (.call (.keyword "super") _ _) => true
  | .expr (.pureCall (.call (.keyword "super") _ _)) => true
  | .commented _ s => s.callsBase
  | _ => false

/-- The body of a constructor with statements for its properties, which come after the call of the
base constructor if there is one. -/
def withProperties (params : List Grammar.Param) (body : List Stmt) : List Stmt :=
  let new := propertyStatements params
  if body.any Stmt.callsBase then
    body.takeWhile (!·.callsBase) ++ (body.dropWhile (!·.callsBase)).take 1 ++ new ++
      (body.dropWhile (!·.callsBase)).drop 1
  else body.takeWhile Stmt.isDirective ++ new ++ body.dropWhile Stmt.isDirective

namespace Grammar

open LivePreview.Script.Parser

variable (g : Grammar)

/-! ### Bodies -/

/-- The text between the quotes of the string literal at a cursor. -/
def quotedText (c : Cursor) : String :=
  String.ofList (((c.text.take (c.text.length - c.rest.length)).drop 1).dropLast)

/-- The directive that a statement at the start of a body is, if it is one. -/
def directive? (c : Cursor) : Stmt → Option Stmt
  | .expr (.string _) => some (.directive (quotedText c))
  | .commented comments (.expr (.string _)) =>
    some (.commented comments (.directive (quotedText c)))
  | _ => none

/-- The comments before the token. -/
def remarks : Parser (List Stmt) := do
  match ← takeComments with
  | [] => return []
  | comments => return [.remarks comments]

/-- Statements up to a closing brace, with the comments before it. As long as there are only
directives, a string is one. -/
def bodyItems : Nat → Bool → Parser (List Stmt)
  | 0, _ => return []
  | fuel + 1, directives => do
    if (← atMark "\x7d") || (← token) == .eof then remarks
    else
      let c ← get
      let s ← g.statement false
      match if directives then directive? c s else none with
      | some directive => return directive :: (← bodyItems fuel true)
      | none => return s :: (← bodyItems fuel false)

/-- Statements up to a closing brace. -/
def blockItems : Nat → Parser (List Stmt)
  | 0 => return []
  | fuel + 1 => do
    if (← atMark "\x7d") || (← token) == .eof then return []
    else
      let s ← g.statement false
      return s :: (← blockItems fuel)

/-- Statements in braces. -/
def block : Parser (List Stmt) := do
  expect "\x7b"
  let items ← enclosed (g.blockItems g.width)
  expect "\x7d"
  return items

/-- The surroundings inside of a function. -/
def insideFunction (isAsync isGenerator : Bool) (s : Setting) : Setting :=
  { inBrackets s with inFunction := true, inAsync := isAsync, inGenerator := isGenerator }

/-- The surroundings inside of an arrow function. Where `in` is no operator around it, neither is it
there. -/
def insideArrow (isAsync : Bool) (s : Setting) : Setting :=
  { s with inFunction := true, inAsync := isAsync, inGenerator := false }

/-- The surroundings of the value of a field. -/
def insideField (s : Setting) : Setting :=
  { inBrackets s with inAsync := false, inGenerator := false }

/-- The surroundings in a block of a class, which is no function, but where values are awaited. -/
def insideClassBlock (s : Setting) : Setting :=
  { inBrackets s with inFunction := false, inAsync := true, inGenerator := false }

/-- The statements of a function or of an arrow function, in its surroundings. -/
def body (change : Setting → Setting) : Parser (List Stmt) := do
  expect "\x7b"
  let items ← enclosed (within change (g.bodyItems g.width true))
  expect "\x7d"
  return items

/-! ### Functions -/

/-- What is said about a function. -/
inductive FunctionRole
  /-- It is declared. -/
  | declared
  /-- It is declared as the default export. -/
  | exported
  /-- It is a value. -/
  | value
  deriving DecidableEq, Repr

/-- The parameters and the statements of a function, if it has any statements. -/
def callable (isAsync isGenerator : Bool) : Parser (Params × Option (List Stmt)) := do
  let change (s : Setting) : Setting := { s with inAsync := isAsync, inGenerator := isGenerator }
  discard g.typeParameters
  let params ← within change g.parameters
  discard g.returnType
  if ← atMark "\x7b" then return (params, some (← g.body (insideFunction isAsync isGenerator)))
  else return (params, none)

/-- The name of a function, which must be there if that is declared. The name of a function that is
a value belongs to that. -/
def functionName (role : FunctionRole) (isAsync isGenerator : Bool) : Parser String := do
  let change (s : Setting) : Setting := { s with inAsync := isAsync, inGenerator := isGenerator }
  let t ← token
  if t.isName then
    if role == .value then within change newName else newName
  else
    if role == .declared then
      if t.isMark "(" then report "Expected function name"
      else if t.word?.any isReserved then needed (quoted "Identifier")
    return ""

/-- A function, with the cursor at its word. Its name and its statements may be missing. -/
def functionAfterWord (role : FunctionRole) (isAsync : Bool) : Parser (String × Option Expr) := do
  expectWord "function"
  let isGenerator ← eat "*"
  let own ← functionName role isAsync isGenerator
  let (params, statements) ← g.callable isAsync isGenerator
  return (own, statements.map fun s => .function isAsync isGenerator own params.patterns s)

/-- Whether the cursor is at the words of an asynchronous function. -/
def atAsyncFunction : Parser Bool := do
  let (t, onNewLine) ← nextToken
  return (← atWord "async") && t.isWord "function" && !onNewLine

/-! ### Members -/

/-- The words before members of classes. -/
def memberWords : List String :=
  ["static", "public", "private", "protected", "readonly", "override", "abstract", "declare",
    "accessor"]

/-- One more word before a member. -/
def memberWord? (words : List String) : Parser (Option (List String)) := do
  let (following, onNewLine) ← nextToken
  match (← token).word? with
  | none => return none
  | some text =>
    if !memberWords.contains text || !followsModifier following then return none
    else if onNewLine && text ≠ "static" then return none
    else if following.isMark "\x7b" || (text == "static" && words.contains text) then return none
    else return some (← modifier words text)

/-- What kind of method the word at the cursor starts. -/
def methodKind : Parser MemberKind := do
  let following := (← nextToken).1
  if (← atWord "get") && startsKey following then next; return .getter
  else if (← atWord "set") && startsKey following then next; return .setter
  else return .method

/-- Whether the cursor is at the word of an asynchronous method, and over it. -/
def eatAsync : Parser Bool := do
  let (following, onNewLine) ← nextToken
  if (← atWord "async") && (startsKey following || following.isMark "*") && !onNewLine then
    next
    return true
  else return false

/-- Whether a key is a given text. -/
def isKey (text : String) (computed : Bool) (key : Expr) : Bool :=
  match key with
  | .name other => !computed && other == text
  | .string value => !computed && value.text == text
  | _ => false

/-- Whether a key is that of the constructor. -/
def isConstructorKey (computed : Bool) (key : Expr) : Bool := isKey "constructor" computed key

/-- Whether a key is the name of a private member. -/
def isPrivateKey : Expr → Bool
  | .name text => text.toList.head? == some '#'
  | _ => false

/-- Notes what is wrong with the parameters of a method that reads or writes a property. -/
def checkParameters (kind : MemberKind) (params : Params) : Parser Unit := do
  if kind == .getter && !params.list.isEmpty then
    report "A 'get' accessor must not have any formal parameters."
  if kind == .setter then
    if params.single.length < params.list.length then
      report "A 'set' accessor cannot have rest parameter."
    else if params.list.length ≠ 1 then
      report "A 'set' accessor must have exactly one formal parameter."

/-- A method whose key is read, nothing if it has no statements. -/
def methodRest (isStatic isAsync isGenerator : Bool) (kind : MemberKind) (computed : Bool)
    (key : Expr) : Parser (Option Member) := do
  let (params, statements) ← g.callable isAsync isGenerator
  checkParameters kind params
  let isConstructor := !isStatic && isConstructorKey computed key
  if isConstructor && params.typesThis then report "A constructor cannot have a 'this' parameter."
  match statements with
  | none => return none
  | some s =>
    let s := if isConstructor then withProperties params.list s else s
    return some (.mk [] [] isStatic kind computed key
      (.function isAsync isGenerator "" params.patterns s))

/-- Moves over the end of a field. -/
def fieldEnd : Parser Unit := do
  if ← mayEnd then discard (eat ";") else needed (quoted ";")

/-- What is wrong with the name of a member of a class. -/
def keyFaults (words : List String) (computed : Bool) (key : Expr) : List String :=
  (if words.any guardWords.contains && isPrivateKey key then
    ["An accessibility modifier cannot be used with a private identifier."] else []) ++
  (if isKey "#constructor" computed key then
    ["Classes can't have an element named '#constructor'"] else []) ++
  if words.contains "static" && isKey "prototype" computed key then
    ["Classes may not have a static property named prototype"] else []

/-- What is wrong with a method that has the name of the constructor. -/
def constructorFaults (kind : MemberKind) (isAsync isGenerator : Bool) : List String :=
  (if kind == .getter || kind == .setter then ["Constructor can't have get/set modifier"]
    else []) ++
  (if isAsync then ["Constructor can't be an async method"] else []) ++
  if isGenerator then ["Constructor can't be a generator"] else []

/-- A member of a class after its modifiers. -/
def classMemberRest (words : List String) : Parser (Option Member) := do
  if ← startsIndexSignature then
    discard g.indexSignature
    statementEnd
    return none
  let isStatic := words.contains "static"
  let kind ← methodKind
  let isAsync ← eatAsync
  let isGenerator ← eat "*"
  let (computed, key) ← g.memberKey
  (keyFaults words computed key).forM report
  discard (eat "?")
  let member ←
    if kind ≠ .method || isGenerator || (← atMark "(") || (← atMark "<") then do
      if !isStatic && isConstructorKey computed key then
        (constructorFaults kind isAsync isGenerator).forM report
      let member ← g.methodRest isStatic isAsync isGenerator kind computed key
      if member.isNone then statementEnd
      pure member
    else do
      if (← atMark "!") && !(← onNewLine) then next
      discard g.annotation
      let value ← if ← eat "=" then within insideField g.expression else pure .absent
      fieldEnd
      if isConstructorKey computed key then report "Classes can't have a field named 'constructor'"
      let kind : MemberKind := if words.contains "accessor" then .accessor else .field
      pure (some (.mk [] [] isStatic kind computed key value))
  return if words.contains "abstract" || words.contains "declare" then none else member

/-- A member with comments and decorators before it. -/
def afterLead (comments : List Comment) (decorators : List Expr) : Member → Member
  | .mk _ _ isStatic kind computed key value =>
    .mk comments decorators isStatic kind computed key value

/-- A member of a class. -/
def classMember : Parser (Option Member) := do
  let comments ← takeComments
  let decorators ← g.decorators
  if (← atWord "static") && (← nextToken).1.isMark "\x7b" then
    next
    let items ← within insideClassBlock g.block
    return some
      (.mk comments [] true .block false .absent (.function false false "" [] items))
  let words ← iterated memberWord? g.width []
  return (← g.classMemberRest words).map (afterLead comments decorators)

/-- The members of a class up to its closing brace. -/
def classMembers : Nat → Parser (List Member)
  | 0 => return []
  | fuel + 1 => do
    if ← eat ";" then classMembers fuel
    else if (← atMark "\x7d") || (← token) == .eof then return []
    else
      match ← g.classMember with
      | none => classMembers fuel
      | some member => return member :: (← classMembers fuel)

/-! ### Classes -/

/-- What a class extends, absent if it is nothing. -/
def baseClass : Parser Expr := do
  if ← eatWord "extends" then
    let base ← g.rule .operand
    discard g.typeArguments?
    return base
  else return .absent

/-- The types that a class implements. -/
def implemented : Parser Unit := do
  if ← eatWord "implements" then
    discard (g.list "\x7b" do
      discard g.qualifiedName
      discard g.typeArguments?)

/-- A class, with the cursor at its word. Its name may be missing. -/
def classAfterWord : Parser Expr := do
  expectWord "class"
  let own ← if (← token).isName && !(← atWord "implements") then newName else pure ""
  discard g.typeParameters
  let base ← g.baseClass
  g.implemented
  expect "\x7b"
  let members ← enclosed (g.classMembers g.width)
  expect "\x7d"
  return .classOf own base members

end Grammar

end LivePreview.Script
