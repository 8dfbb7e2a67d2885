import LivePreview.Script.Grammar.Module

/-!
# Statements

The statements of a script, imports and exports among them.

## Main definitions

* `LivePreview.Script.Grammar.statementRule`: a statement.
-/

namespace LivePreview.Script.Grammar

open LivePreview.Script.Parser

variable (g : Grammar)

/-! ### Statements that hold others -/

/-- A statement that is all that a larger one holds. -/
def soleStatement : Parser Stmt := g.statement true

/-- The body of a condition or a loop. Of an abstract class nothing is written there. -/
def innerStatement : Parser Stmt := do
  let isAbstract ← atWord "abstract"
  let s ← g.soleStatement
  match s.bare with
  | .declaration e => return if isAbstract then .erased false [e.ownName] [] [s] else s
  | _ => return s

/-- A condition in parentheses. -/
def condition : Parser Expr := do
  expect "("
  let e ← enclosed g.expression
  expect ")"
  return e

/-- A condition or a choice, at its word. -/
def ifStatement : Parser Stmt := do
  next
  let test ← refusing Refusal.beforeMore g.condition
  let yes ← g.innerStatement
  if ← eatWord "else" then return .ifElse test yes (← g.innerStatement)
  else return .ifThen test yes

/-- A loop with its test last, at its word. -/
def doStatement : Parser Stmt := do
  next
  let body ← refusing Refusal.beforeMore g.innerStatement
  expectWord "while"
  let test ← g.condition
  discard (eat ";")
  return .doLoop body test

/-- A statement after a word and an expression in parentheses, at the word. -/
def headedStatement : Parser Stmt := do
  let word ← keyword
  let head ← refusing Refusal.beforeMore g.condition
  return .headed word head (← g.innerStatement)

/-- An expression that may be left out before a sign. -/
def expressionBefore (sign : String) : Parser Expr := do
  if ← atMark sign then return .absent else g.anyExpression

/-- Notes that a loop over other than elements awaits them. -/
def checkAwaiting (isAwait : Bool) : Parser Unit := do
  if isAwait then report "await can only be used in conjunction with `for...of` statements"

/-- A loop after its start. -/
def countedLoop (isAwait : Bool) (start : Stmt) : Parser Stmt := do
  match start with
  | .bindings kind declarators => declarators.forM (checkInitialized kind)
  | _ => pure ()
  expect ";"
  let test ← refusing Refusal.beforeMore (g.expressionBefore ";")
  expect ";"
  let step ← refusing Refusal.beforeMore (g.expressionBefore ")")
  expect ")"
  checkAwaiting isAwait
  return .forLoop start test step (← g.innerStatement)

/-- A loop after its first part, which tells its kind. -/
def loopAfter (isAwait : Bool) (left : Stmt) : Parser Stmt := do
  if ← eatWord "of" then
    let range ← refusing Refusal.beforeMore g.assignment
    expect ")"
    return .forEach isAwait left "of" range (← g.innerStatement)
  else if ← eatWord "in" then
    let range ← refusing Refusal.beforeMore g.expression
    expect ")"
    checkAwaiting isAwait
    return .forEach isAwait left "in" range (← g.innerStatement)
  else g.countedLoop isAwait left

/-- A loop, at its word. -/
def forStatement : Parser Stmt := do
  next
  let isAwait ← atWord "await"
  if isAwait then
    if !(← setting).inAsync then
      report "`await` is only allowed within async functions and at the top levels of modules"
    next
  expect "("
  if ← atMark ";" then g.countedLoop isAwait .empty
  else if ← atVariables true then
    let left ← within (fun s => { s with allowsIn := false }) (g.bindings true)
    g.loopAfter isAwait left
  else
    let isWord ← atWord "async"
    let e ← within (fun s => { s with allowsIn := false }) g.expression
    let isElements ← atWord "of"
    match e with
    | .name _ =>
      if isElements && isWord && !isAwait then
        report "The left-hand side of a `for...of` statement may not be `async`"
    | _ => pure ()
    if isElements || (← atWord "in") then takeTarget e
    g.loopAfter isAwait (.expr e)

/-- The statements of a clause of a choice by value. -/
def clauseItems : Nat → Parser (List Stmt)
  | 0 => return []
  | fuel + 1 => do
    if (← atMark "\x7d") || (← atWord "case") || (← atWord "default") || (← token) == .eof then
      return []
    else
      let s ← g.statement false
      return s :: (← clauseItems fuel)

/-- A clause of a choice by value. -/
def switchClause : Parser Clause := do
  if ← eatWord "default" then
    expect ":"
    return .default (← g.clauseItems g.width)
  else if ← eatWord "case" then
    let value ← g.expression
    expect ":"
    return .case value (← g.clauseItems g.width)
  else unexpected

/-- A choice by value, at its word. -/
def switchStatement : Parser Stmt := do
  next
  let subject ← g.condition
  expect "\x7b"
  let clauses ← repeated (do
    if endsList "\x7d" (← token) then return none
    else return some (← g.switchClause)) g.width
  expect "\x7d"
  return .switch subject clauses

/-- What is done about a failure, at its word. -/
def handlerClause : Parser Clause := do
  let comments ← takeComments
  next
  let param ← if ← eat "(" then do
      let param ← g.pattern
      discard g.annotation
      expect ")"
      pure param
    else pure .absent
  let inner ← takeComments
  return .handler comments param inner (← g.block)

/-- An attempt, at its word. -/
def tryStatement : Parser Stmt := do
  next
  let body ← g.block
  let handlers ← if ← atWord "catch" then do pure [← g.handlerClause] else pure []
  let finalizers ←
    if ← eatWord "finally" then do pure [Clause.finalizer (← g.block)] else pure []
  if handlers.isEmpty && finalizers.isEmpty then report "Missing catch or finally clause"
  return .attempt body (handlers ++ finalizers)

/-! ### Other statements -/

/-- A return, at its word. -/
def returnStatement : Parser Stmt := do
  next
  let value ← if ← mayEnd then do
      discard (eat ";")
      pure .absent
    else do
      let value ← g.anyExpression
      statementEnd
      pure value
  if !(← setting).inFunction then
    report "A 'return' statement can only be used within a function body."
  return .jump "return" value

/-- A throw, at its word. -/
def throwStatement : Parser Stmt := do
  next
  if ← onNewLine then report "Illegal newline after throw"
  let value ← g.expression
  statementEnd
  return .jump "throw" value

/-- A break or continue, at its word. -/
def exitStatement : Parser Stmt := do
  let word ← keyword
  let label ← if ← mayEnd then pure "" else name
  statementEnd
  return .exit word label

/-- An expression, or a statement with a label. -/
def expressionStatement : Parser Stmt := do
  let before := (← get).marked
  let e ← g.expression
  match e with
  | .name label =>
    if ← eat ":" then
      modify fun c => { c with marked := before }
      return .labeled label (← g.soleStatement)
    else
      statementEnd
      return .expr e
  | _ =>
    statementEnd
    return .expr e

/-- Whether a token after `let` makes that the name of a variable. -/
def continuesName (following : Token) : Bool :=
  match following with
  | .mark text => isAssignment text || (levelOf? text).isSome || text == "." || text == "("
  | .word text => text == "in" || text == "instanceof"
  | _ => false

/-- Variables at the word `let`, or an expression if that is the name of a variable. -/
def letStatement (alone : Bool) : Parser Stmt := do
  let following := (← nextToken).1
  if continuesName following || (← get).escapesKeyword then g.expressionStatement
  else if (alone && !following.isMark "[") || following.isMark ";" then
    next
    statementEnd
    return .expr (.name "let")
  else g.variableStatement alone

/-- The declaration of a class, which would be of no use where a statement is all that a larger one
holds. -/
def classStatement (decorators : List Expr) (alone : Bool) : Parser Stmt := do
  let s ← g.classDeclaration decorators
  if alone then report "Invalid class declaration"
  return s

/-- The declaration or the export of a class after decorators. -/
def decoratedStatement (decorators : List Expr) (alone : Bool) : Parser Stmt := do
  if ← atWord "export" then g.exportDeclaration decorators
  else
    discard (eatWord "abstract")
    if ← atWord "class" then g.classStatement decorators alone else unexpected

/-- A statement without the comments and decorators before it. -/
def bareStatement (alone : Bool) : Parser Stmt := do
  let following := (← nextToken).1
  match ← token with
  | .mark "\x7b" => return .block (← g.block)
  | .mark ";" =>
    next
    return .empty
  | .word "if" => g.ifStatement
  | .word "do" => g.doStatement
  | .word "while" => g.headedStatement
  | .word "with" => g.headedStatement
  | .word "for" => g.forStatement
  | .word "switch" => g.switchStatement
  | .word "try" => g.tryStatement
  | .word "return" => g.returnStatement
  | .word "throw" => g.throwStatement
  | .word "break" => exitStatement
  | .word "continue" => exitStatement
  | .word "debugger" =>
    next
    statementEnd
    return .expr (.keyword "debugger")
  | .word "class" => g.classStatement [] alone
  | .word "function" => g.functionDeclaration .declared alone
  | .word "let" => g.letStatement alone
  | .word "export" => g.exportDeclaration []
  | .word "import" =>
    if following.isMark "(" || following.isMark "." then g.expressionStatement
    else g.importDeclaration
  | _ =>
    if ← startsTypedDeclaration then g.typedDeclaration
    else if ← atVariables false then g.variableStatement alone
    else if ← atAsyncFunction then g.functionDeclaration .declared alone
    else g.expressionStatement

/-- A statement with the comments before it. Those before decorators belong to the class, but what
is exported is a statement of its own after them. -/
def statementRule (alone : Bool) : Parser Stmt := do
  let marked := (← get).marksPureFunction
  let comments ← takeComments
  if ← atMark "@" then
    let decorators ← g.decorators
    let inner ← takeComments
    let isExport ← atWord "export"
    let s ← g.decoratedStatement decorators alone
    return .after (if isExport then inner else comments) s
  else
    let s ← g.bareStatement alone
    return .after comments (if marked then s.markPureFunction else s)

end LivePreview.Script.Grammar
