import LivePreview.Script.Grammar.Function
import LivePreview.Script.Operator

/-!
# Expressions

Literals, operands with their properties and calls, operators, arrow functions and assignments.
Whether a parenthesis starts an arrow function is told by a few tokens where they suffice, else by
reading its parameters on trial.

## Main definitions

* `LivePreview.Script.Grammar.primaryRule`: a literal, a name or an expression in brackets.
* `LivePreview.Script.Grammar.operandRule`: an operand with its properties and calls.
* `LivePreview.Script.Grammar.unaryRule`, `binaryRule`: operators.
* `LivePreview.Script.Grammar.assignmentRule`: an expression without commas.
-/

namespace LivePreview.Script

/-! ### Marks -/

/-- An expression whose first call or new object is marked as one that can be left out. -/
def Expr.markPure : Expr → Expr
  | .call callee args optional => .pureCall (.call callee args optional)
  | .construct callee args => .pureCall (.construct callee args)
  | .chain (.call callee args optional) => .chain (.pureCall (.call callee args optional))
  | .binary op left right => .binary op left.markPure right
  | .conditional test yes no => .conditional test.markPure yes no
  | .paren e => .paren e.markPure
  | .cast leads e => .cast leads e.markPure
  | e => e

/-- A function that is marked as one whose calls can be left out. Other expressions stay as they
are. -/
def Expr.markPureFunction : Expr → Expr
  | .function isAsync isGenerator fn params body =>
    .pureFunction (.function isAsync isGenerator fn params body)
  | .arrow isAsync params value => .pureFunction (.arrow isAsync params value)
  | .arrowBlock isAsync params body => .pureFunction (.arrowBlock isAsync params body)
  | .paren e => .paren e.markPureFunction
  | e => e

/-- A declaration that is marked as one of a function whose calls can be left out. Of variables only
the first constant can be one. -/
def Stmt.markPureFunction : Stmt → Stmt
  | .declaration e => .declaration e.markPureFunction
  | .exportDefault declares e => .exportDefault declares e.markPureFunction
  | .bindings "const" (.assign op target value :: l) =>
    .bindings "const" (.assign op target value.markPureFunction :: l)
  | .exportDeclaration isNamed s => .exportDeclaration isNamed s.markPureFunction
  | s => s

namespace Grammar

open LivePreview.Script.Parser

variable (g : Grammar)

/-! ### Literals -/

/-- The stretches of a template and the values between them, after its first stretch. -/
def templateParts : Nat → Bool → Parser (List String × List Expr)
  | 0, _ => unexpected
  | _, true => return ([], [])
  | fuel + 1, false => do
    let value ← refusing Refusal.inSubstitution g.anyExpression
    let (raw, closed) ← templateRest
    let (texts, values) ← templateParts fuel closed
    return (raw :: texts, value :: values)

/-- A template with the stretch at the cursor. -/
def template (tag : Expr) (raw : String) (closed : Bool) : Parser Expr := do
  next
  let (more, values) ← g.templateParts g.width closed
  let texts := raw :: more
  if tag.isAbsent && texts.any fun text => (templateValue? text).isNone then
    report "Bad escape sequence in untagged template literal"
  return .template tag texts values

/-- A regular expression, at its opening slash. There must be nothing wrong with the tokens up to
it. -/
def regex : Parser Expr := do
  let c ← get
  match scanRegex (c.text.drop 1) with
  | some (text, rest, faults) =>
    set { c with rest }
    reportTokens faults
    if !(← get).tokenFaults.isEmpty then fail "Unexpected token"
    next
    return .regex text
  | none =>
    reportTokens ["Unterminated regular expression"]
    fail "Unexpected token"

/-- An element of a list. -/
def arrayItem : Parser Expr := do
  if ← atMark "," then return .absent
  else if ← eat "..." then return .spread (← g.value)
  else g.value

/-- A list, at its bracket. -/
def array : Parser Expr := do
  next
  let items ← enclosed (g.list "]" g.arrayItem)
  expect "]"
  return .array items

/-- A member of an object whose key is read. -/
def objectMemberRest (named isGenerator : Bool) (computed : Bool) (key : Expr) : Parser Member := do
  if isGenerator || (← atMark "(") || (← atMark "<") then
    match ← g.methodRest true false isGenerator .method computed key with
    | some member => return member
    | none => needed (quoted "\x7b")
  else if named && !(← atMark ":") then
    checkKey key
    if ← eat "=" then
      modify fun c => { c with openDefaults := c.openDefaults + 1 }
      return plainMember .shorthand false key (← g.value)
    else return plainMember .shorthand false key .absent
  else
    expect ":"
    return plainMember .property computed key (← g.value)

/-- A method of an object after the words before it. -/
def objectMethod (isAsync : Bool) (kind : MemberKind) : Parser Member := do
  let isGenerator ← eat "*"
  let (computed, key) ← g.memberKey
  match ← g.methodRest true isAsync isGenerator kind computed key with
  | some (.mk comments _ _ kind computed key value) =>
    return .mk comments [] false kind computed key value
  | none => needed (quoted "\x7b")

/-- A member of an object. -/
def objectMember : Parser Member := do
  if ← eat "..." then return plainMember .spread false .absent (.spread (← g.value))
  else if ← eatAsync then g.objectMethod true .method
  else
    match ← methodKind with
    | .method =>
      let isGenerator ← eat "*"
      let named := (← token).isName
      let (computed, key) ← g.memberKey
      match ← g.objectMemberRest named isGenerator computed key with
      | .mk comments _ _ kind computed key value =>
        return .mk comments [] false kind computed key value
    | kind => g.objectMethod false kind

/-- An object, at its brace. -/
def object : Parser Expr := do
  let comments ← takeComments
  next
  let members ← enclosed (g.list "\x7d" g.objectMember)
  expect "\x7d"
  return .object comments members

/-- An expression in parentheses, at the first one. -/
def parenthesized : Parser Expr := do
  next
  let items ← enclosed (g.list ")" g.value)
  match items with
  | [] =>
    expect ")"
    fail "Empty parenthesized expression"
  | [e] =>
    expect ")"
    return .paren e
  | items =>
    expect ")"
    return .paren (.sequence items)

/-! ### Operands -/

/-- An argument of a call, after the comments before it. -/
def argument : Parser Expr := do
  let comments ← takeComments
  let e ← if ← eat "..." then do pure (.spread (← g.value)) else g.value
  return .after comments e

/-- Arguments in parentheses, with the comments after them. -/
def arguments : Parser (List Expr) := do
  expect "("
  let args ← enclosed (g.list ")" g.argument)
  let comments ← takeComments
  expect ")"
  return args ++ if comments.isEmpty then [] else [.noted comments .absent]

/-- Whether an expression can start with a token. -/
def startsExpression : Token → Bool
  | .word text =>
    !isReserved text ||
      ["this", "super", "null", "true", "false", "function", "class", "new", "typeof", "void",
        "delete", "import"].contains text
  | .mark text =>
    ["(", "[", "\x7b", "+", "-", "~", "!", "++", "--", "<", "/", "/=", "@"].contains text
  | .fault _ => false
  | .eof => false
  | _ => true

/-- The operator that a token is between two operands. -/
def operatorOf? : Token → Option String
  | .mark text => (levelOf? text).map fun _ => text
  | .word text =>
    if ["in", "instanceof", "as", "satisfies"].contains text then some text else none
  | _ => none

/-- Types in angle brackets after an expression, unless what follows makes the brackets signs of a
comparison. -/
def expressionTypes : Parser Unit := do
  splitAngle
  expect "<"
  discard (g.list ">" g.type)
  if (← joinAngle).isMark ">=" then unexpected
  modify fun c =>
    match c.token, c.text with
    | .mark _, '>' :: rest => { c with token := .mark ">", rest }
    | _, _ => c
  expect ">"
  match ← token with
  | .mark "(" => return ()
  | .template _ _ => return ()
  | t =>
    if ["<", ">", "+", "-"].any (t.isMark ·) then unexpected
    else if (← onNewLine) || (operatorOf? t).isSome || !startsExpression t then return ()
    else unexpected

/-- The name of a property. -/
def propertyName : Parser String := do
  match ← token with
  | .privateName text => next; return "#" ++ text
  | _ => anyWord

/-- An operand, and whether it has an optional link. -/
abbrev Link := Expr × Bool

/-- One more optional link of an operand, after its sign. -/
def optionalLink (e : Expr) : Parser Link := do
  match ← token with
  | .mark "[" =>
    next
    let key ← enclosed g.anyExpression
    expect "]"
    return (.index e key true, true)
  | .template raw closed =>
    report "Tagged template expressions are not permitted in an optional chain"
    return (← g.template e raw closed, true)
  | .mark "(" => return (.call e (← g.arguments) true, true)
  | .mark "<" =>
    discard g.typeArguments
    return (.call e (← g.arguments) true, true)
  | _ => return (.member e (← propertyName) true, true)

/-- One more link of an operand; calls and optional links only where they are allowed. -/
def link? (calls : Bool) (operand : Link) : Parser (Option Link) := do
  let (e, optional) := operand
  match ← token with
  | .mark "." =>
    next
    return some (.member e (← propertyName) false, optional)
  | .mark "?." =>
    if calls then
      next
      return some (← g.optionalLink e)
    else return none
  | .mark "[" =>
    if (← setting).inDecorator then return none
    else
      next
      let key ← enclosed g.anyExpression
      expect "]"
      return some (.index e key false, optional)
  | .mark "!" =>
    if ← onNewLine then return none
    else
      next
      return some (.cast false e, optional)
  | .template raw closed =>
    if optional then
      report "Tagged template expressions are not permitted in an optional chain"
    return some (← g.template e raw closed, optional)
  | .mark "(" =>
    if calls then return some (.call e (← g.arguments) false, optional) else return none
  | .mark "<" => return (← attempt g.expressionTypes).map fun _ => operand
  | .mark "<<" => return (← attempt g.expressionTypes).map fun _ => operand
  | _ => return none

/-- Whether an expression loads a module. -/
def isImportCall : Expr → Bool
  | .importCall _ _ => true
  | _ => false

/-- A new object, at its word. -/
def construct : Parser Expr := do
  next
  if ← eat "." then
    if ← eatWord "target" then return .keyword "new.target"
    else
      next
      fail "The only valid meta property for new is new.target"
  let (callee, _) ← iterated (g.link? false) g.width (← g.rule .primary, false)
  if ← atMark "?." then fail "Optional chaining cannot appear in the callee of new expressions"
  let args ← if ← atMark "(" then g.arguments else pure []
  if isImportCall callee then report "Cannot use new with dynamic import"
  return .construct callee args

/-- The arguments of a module that is loaded: its source and perhaps options, with comments. -/
def importArguments : Parser (List Expr) := do
  expect "("
  if ← eat ")" then fail "import() requires a specifier."
  let comments ← takeComments
  let source := Expr.after comments (← g.value)
  let options ← if (← eat ",") && !(← atMark ")") then do
      let comments ← takeComments
      pure [Expr.after comments (← g.value)]
    else pure []
  discard (eat ",")
  let comments ← takeComments
  if !(← eat ")") then
    fail ("Dynamic imports can only accept a module specifier and an optional set of attributes " ++
      "as arguments")
  return source :: options ++ if comments.isEmpty then [] else [.noted comments .absent]

/-- A module that is loaded, or what is known about this one, at its word. -/
def importOperand : Parser Expr := do
  next
  if ← eat "." then
    match ← token with
    | .word "meta" =>
      next
      return .keyword "import.meta"
    | .word "source" =>
      next
      return .importCall "source" (← g.importArguments)
    | .word "defer" =>
      next
      return .importCall "defer" (← g.importArguments)
    | _ =>
      next
      fail "The only valid meta property for import is import.meta"
  else if ← atMark "(" then return .importCall "" (← g.importArguments)
  else unexpected

/-- The object of the base class, at its word. A property or a call must follow. -/
def superOperand : Parser Expr := do
  next
  if !((← atMark ".") || (← atMark "[") || (← atMark "(")) then
    report "'super' can only be used with function calls or in property accesses"
  return .keyword "super"

/-- A function that is a value. -/
def functionOperand (isAsync : Bool) : Parser Expr := do
  match (← g.functionAfterWord .value isAsync).2 with
  | some e => return e
  | none => needed (quoted "\x7b")

/-- A class after decorators, at the first of them. -/
def decoratedClass : Parser Expr := do
  let decorators ← g.decorators
  if ← atWord "class" then return withDecorators decorators (← g.classAfterWord) else unexpected

/-- A literal, a name or an expression in brackets. -/
def primaryRule : Parser Expr := do
  match ← token with
  | .number value _ => next; return .number value
  | .bigint digits _ => next; return .bigint digits
  | .string value => next; return .string value
  | .template raw closed => g.template .absent raw closed
  | .mark "(" => g.parenthesized
  | .mark "[" => g.array
  | .mark "\x7b" => g.object
  | .mark "/" => regex
  | .mark "/=" => regex
  | .mark "@" => g.decoratedClass
  | .mark "<" => if (← setting).markup then g.rule (.markup false) else unexpected
  | .word "this" => next; return .keyword "this"
  | .word "super" => superOperand
  | .word "null" => next; return .keyword "null"
  | .word "true" => next; return .keyword "true"
  | .word "false" => next; return .keyword "false"
  | .word "function" => g.functionOperand false
  | .word "class" => g.classAfterWord
  | .word "new" => g.construct
  | .word "import" => g.importOperand
  | .word text =>
    if ← atAsyncFunction then
      next
      g.functionOperand true
    else if isReserved text then unexpected
    else return .name (← name)
  | _ => unexpected

/-- An operand with its properties and calls. -/
def operandRule : Parser Expr := do
  let (e, optional) ← iterated (g.link? true) g.width (← g.primaryRule, false)
  return if optional then .chain e else e

/-! ### Operators -/

/-- An expression that an operator changes. -/
def changeable (e : Expr) : Parser Expr := do
  if e.isSimpleTarget then return e else fail assignmentMessage

/-- An operand with an operator after it. -/
def updated : Parser Expr := do
  let e ← g.operandRule
  match ← token with
  | .mark op =>
    if (op == "++" || op == "--") && !(← onNewLine) then
      let e ← changeable e
      next
      return .update op false e
    else return e
  | _ => return e

/-- An operator before its operand. What has one is not raised to a power. -/
def unaryOperation (op : String) : Parser Expr := do
  next
  let c ← get
  let operand ← g.unary
  let operand := if c.marksPure && op != "await" then operand.markPure else operand
  if ← atMark "**" then report "Unexpected exponentiation expression"
  return .unary op operand

/-- Whether a value can start with a token that cannot follow a name. -/
def startsValueAfterWord : Token → Bool
  | .word text => text != "in" && text != "instanceof"
  | .number _ _ => true
  | .bigint _ _ => true
  | .string _ => true
  | _ => false

/-- Whether the token after a word at the cursor can only be the start of a value for it. -/
def hasValueAfterWord : Parser Bool := do
  let (following, onNewLine) ← nextToken
  return startsValueAfterWord following && !onNewLine

/-- Whether the word `await` at the cursor awaits a value. -/
def awaits : Parser Bool := return (← setting).inAsync || (← hasValueAfterWord)

/-- A value that is awaited, at the word for it. -/
def awaited : Parser Expr := do
  if !(← setting).inAsync then
    report "`await` is only allowed within async functions and at the top levels of modules"
  within (fun s => { s with inAsync := true }) (g.unaryOperation "await")

/-- An operand with the operators before or after it. -/
def unaryRule : Parser Expr := do
  match ← token with
  | .mark "<" =>
    if (← setting).markup then g.rule (.markup false)
    else
      next
      discard g.type
      expect ">"
      return .cast true (← g.unary)
  | .mark op =>
    if op == "++" || op == "--" then
      next
      return .update op true (← changeable (← g.unary))
    else if ["+", "-", "~", "!"].contains op then g.unaryOperation op
    else g.updated
  | .word "await" =>
    if ← awaits then g.awaited else g.updated
  | .word op => if isWordOperator op then g.unaryOperation op else g.updated
  | _ => g.updated

/-- Whether an expression is one of two conditions, or both. -/
def isCondition : Expr → Bool
  | .binary op _ _ => op == "||" || op == "&&"
  | _ => false

/-- An operator between its operands. -/
def operation (op : String) (left right : Expr) : Parser Expr := do
  if op == "??" && (isCondition left || isCondition right) then
    report "Logical expressions and coalesce expressions cannot be mixed"
  return .binary op left right

/-- One more operator of at least a level. -/
def operation? (level : Level) (left : Expr) : Parser (Option Expr) := do
  match operatorOf? (← joinAngle) with
  | none => return none
  | some op =>
    let own := (levelOf? op).getD Level.compare
    if (if fromRight own then own < level else own ≤ level) then return none
    else if op == "in" && !(← setting).allowsIn then return none
    else if op == "as" || op == "satisfies" then
      if ← onNewLine then return none
      else
        next
        discard g.type
        return some (.cast false left)
    else
      next
      return some (← operation op left (← g.rule (.binary own)))

/-- The first operand of an operator: one with its own operators, or the question whether an object
has a private member. -/
def firstOperand : Parser Expr := do
  match ← token with
  | .privateName text =>
    if (← setting).allowsIn then
      next
      expectWord "in"
      return .binary "in" (.name ("#" ++ text)) (← g.unary)
    else g.unary
  | _ => g.unary

/-- An expression of operators that bind more tightly than a level. -/
def binaryRule (level : Level) : Parser Expr := do
  let c ← get
  let e ← iterated (g.operation? level) g.width (← g.firstOperand)
  return if c.marksPure then e.markPure else e

/-! ### Arrow functions -/

/-- Whether something is so, as far as can be told. -/
inductive Guess
  /-- It is so. -/
  | yes
  /-- It is not so. -/
  | no
  /-- It may be so. -/
  | maybe
  deriving DecidableEq, Repr

/-- Whether an arrow function starts at a parenthesis, which the cursor is after. -/
def guessAfterParen : Parser Guess := do
  match ← token with
  | .mark ")" =>
    next
    match ← token with
    | .mark ":" => return .maybe
    | .mark "=>" => return .yes
    | .mark "\x7b" => return .yes
    | _ => return .no
  | .mark "[" => return .maybe
  | .mark "\x7b" => return .maybe
  | .mark "..." =>
    next
    match ← token with
    | .mark _ => return .maybe
    | t => return if t.isName then .yes else .no
  | t =>
    if !(t.isName || t.isWord "this") then return .no
    else
      let following := (← nextToken).1
      if t.word?.any (propertyWords.contains ·) && following.isName && !following.isWord "as" then
        return .yes
      else
        next
        match ← token with
        | .mark ":" => return .yes
        | .mark "?" =>
          next
          let t ← token
          return if [":", ",", "=", ")"].any (t.isMark ·) then .yes else .no
        | .mark "," => return .maybe
        | .mark "=" => return .maybe
        | .mark ")" => return .maybe
        | _ => return .no

/-- Whether an arrow function with types starts at an angle bracket, which the cursor is after. -/
def guessAfterAngle : Parser Guess := do
  let t ← token
  if !(t.isName || t.isWord "const") then return .no
  else if (← setting).markup then
    discard (eatWord "const")
    next
    match ← token with
    | .word "extends" =>
      next
      let t ← token
      return if ["=", ">", "/"].any (t.isMark ·) then .no else .yes
    | .mark "," => return .yes
    | .mark "=" => return .yes
    | _ => return .no
  else return .maybe

/-- Whether an arrow function with parameters in parentheses starts at the cursor. -/
def guessArrow : Parser Guess := lookAhead .no do
  if ← eatWord "async" then
    if (← onNewLine) || !((← atMark "(") || (← atMark "<")) then return .no
  match ← token with
  | .mark "(" => next; guessAfterParen
  | .mark "<" => next; guessAfterAngle
  | _ => return .no

/-- What an arrow function has before its arrow. -/
structure ArrowHead where
  /-- Whether it is asynchronous. -/
  isAsync : Bool
  /-- Its parameters. -/
  params : List Expr
  /-- Whether the type of its result is given. -/
  isTyped : Bool

/-- The parameters of an arrow function and the arrow. -/
def arrowHead : Parser ArrowHead := do
  let isAsync ← eatWord "async"
  discard g.typeParameters
  let params ← within (fun s => { s with inAsync := isAsync || s.inAsync }) g.parameters
  if params.typesThis then report "An arrow function cannot have a 'this' parameter."
  let isTyped ← atMark ":"
  discard g.returnType
  if ← onNewLine then report "Line terminator not permitted before arrow"
  expect "=>"
  return ⟨isAsync, params.patterns, isTyped⟩

/-- What an arrow function does. -/
def arrowBody (typedArrows : Bool) (head : ArrowHead) : Parser Expr := do
  let change := insideArrow head.isAsync
  if ← atMark "\x7b" then return .arrowBlock head.isAsync head.params (← g.body change)
  else return .arrow head.isAsync head.params (← within change (g.rule (.assignment typedArrows)))

/-- An arrow function that may turn out to be something else. -/
def arrowOnTrial (typedArrows : Bool) : Parser (Option Expr) := attempt do
  let head ← g.arrowHead
  let e ← g.arrowBody typedArrows head
  if !typedArrows && head.isTyped && !(← atMark ":") then unexpected
  return e

/-- An arrow function with parameters in parentheses, if there is one. -/
def arrow? (typedArrows : Bool) : Parser (Option Expr) := do
  match ← guessArrow with
  | .no => return none
  | .yes => return some (← g.arrowBody true (← g.arrowHead))
  | .maybe => g.arrowOnTrial typedArrows

/-- An asynchronous arrow function with one name as its parameter, if there is one. -/
def asyncArrow? (typedArrows : Bool) : Parser (Option Expr) := do
  let isArrow ← lookAhead false do
    if !(← eatWord "async") || (← onNewLine) then return false
    discard name
    return (← atMark "=>") && !(← onNewLine)
  if isArrow then
    next
    let param ← name
    next
    return some (← g.arrowBody typedArrows ⟨true, [.name param], false⟩)
  else return none

/-! ### Assignments -/

/-- Whether the word `yield` at the cursor gives a value to the caller. -/
def yields : Parser Bool := do
  return (← atWord "yield") && ((← setting).inGenerator || (← hasValueAfterWord))

/-- What a generator gives, at its word. -/
def yielded (typedArrows : Bool) : Parser Expr := do
  if !(← setting).inGenerator then
    report "A 'yield' expression is only allowed in a generator body."
  next
  let value := within (fun s => { s with inGenerator := true }) (g.rule (.assignment typedArrows))
  if ← onNewLine then return .yield false .absent
  else if ← eat "*" then return .yield true (← value)
  else
    let t ← token
    if t == .eof || t.isWord "in" ||
        [";", "\x7d", ")", "]", ",", ":"].any (t.isMark ·) then return .yield false .absent
    else return .yield false (← value)

/-- What follows the first part of an expression: an arrow, an assignment or a choice. -/
def assignmentRest (typedArrows : Bool) (left : Expr) : Parser Expr := do
  match left, ← token with
  | .name param, .mark "=>" =>
    if ← onNewLine then report "Line terminator not permitted before arrow"
    next
    g.arrowBody typedArrows ⟨false, [.name param], false⟩
  | left, .mark "?" =>
    next
    let yes ← within (fun s => { s with allowsIn := true }) (g.rule (.assignment false))
    expect ":"
    let no ← g.rule (.assignment typedArrows)
    return .conditional left yes no
  | left, .mark op =>
    if isAssignment op then
      takeTarget left
      next
      return .assign op left (← g.rule (.assignment typedArrows))
    else return left
  | left, _ => return left

/-- An expression without commas and without the marks before it. -/
def unmarked (typedArrows : Bool) : Parser Expr := do
  if ← yields then g.yielded typedArrows
  else
    match ← g.arrow? typedArrows with
    | some e => return e
    | none =>
      match ← g.asyncArrow? typedArrows with
      | some e => return e
      | none => g.assignmentRest typedArrows (← g.binaryRule Level.comma)

/-- An expression without commas. -/
def assignmentRule (typedArrows : Bool) : Parser Expr := do
  let c ← get
  let e ← g.unmarked typedArrows
  let e := if c.marksPureFunction then e.markPureFunction else e
  return if c.marksPure then e.markPure else e

end Grammar

end LivePreview.Script
