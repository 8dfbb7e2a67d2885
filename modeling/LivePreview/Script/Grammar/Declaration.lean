import LivePreview.Script.Grammar.Expression
import LivePreview.Script.Names

/-!
# Declarations

Variables, enumerations, spaces of names, and the declarations of types and of values that exist
elsewhere. Of the latter two the names are kept, and the statements in them.

## Main definitions

* `LivePreview.Script.Grammar.variableStatement`: variables.
* `LivePreview.Script.Grammar.typedDeclaration`: the other declarations.
* `LivePreview.Script.Grammar.startsTypedDeclaration`: whether words start one of these.
-/

namespace LivePreview.Script

/-- A declaration of which only the names and the statements in it are kept. -/
def Stmt.erase : Stmt → Stmt
  | .erased _ values types body => .erased true values types body
  | s => .erased true (s.lexical ++ s.hoisted) s.types [s]

namespace Grammar

open LivePreview.Script.Parser

variable (g : Grammar)

/-! ### Variables -/

/-- Notes that a pattern has no value, which must be given for constants, for patterns with parts
and for what is disposed of at the end of its block. -/
def checkInitialized (kind : String) (declarator : Expr) : Parser Unit := do
  match declarator with
  | .assign _ _ _ => return ()
  | .name _ =>
    if kind == "const" then report "Missing initializer in const declaration"
    if isDisposed kind then report "Using declarations must be initialized."
  | _ => report "Missing initializer in destructuring declaration"
where
  /-- Whether values of variables of some kind are disposed of. -/
  isDisposed (kind : String) : Bool := kind == "using" || kind == "await using"

/-- A pattern and its value, if that is given. -/
def declarator (inLoop : Bool) (kind : String) : Parser Expr := do
  let pattern ← g.pattern
  if (← atMark "!") && !(← onNewLine) then next
  discard g.annotation
  let d ← if ← eat "=" then do pure (.assign "=" pattern (← g.assignment)) else pure pattern
  if checkInitialized.isDisposed kind && pattern.isPattern then
    report "Using declarations may not have binding patterns."
  if !inLoop && !(← setting).isAmbient then checkInitialized kind d
  return d

/-- Declarators after the first, each after a comma. -/
def moreDeclarators (inLoop : Bool) (kind : String) : Nat → Parser (List Expr)
  | 0 => return []
  | fuel + 1 => do
    if ← eat "," then
      let d ← g.declarator inLoop kind
      return d :: (← moreDeclarators inLoop kind fuel)
    else return []

/-- The words that declare variables. -/
def bindingWords : Parser String := do
  if ← eatWord "await" then
    expectWord "using"
    return "await using"
  else keyword

/-- Variables, at the words that declare them. At the start of a loop they may have no values. -/
def bindings (inLoop : Bool) : Parser Stmt := do
  let kind ← bindingWords
  let first ← g.declarator inLoop kind
  return .bindings kind (first :: (← g.moreDeclarators inLoop kind g.width))

/-- Whether the word `using` at the cursor declares variables. In the head of a loop it may be the
variable itself. -/
def usingDeclares (inLoop : Bool) : Parser Bool := do
  let (following, onNewLine) ← nextToken
  if !(← atWord "using") || onNewLine then return false
  else if inLoop && following.isWord "of" then
    lookAhead false do
      next
      next
      return (← atMark "=") || (← atMark ";") || (← atMark ":")
  else return following.isName || following.isMark "\x7b"

/-- Whether the words at the cursor declare variables. -/
def atVariables (inLoop : Bool) : Parser Bool := do
  match ← token with
  | .word "var" => return true
  | .word "const" => return !(← nextToken).1.isWord "enum"
  | .word "let" =>
    let following := (← nextToken).1
    return !(← get).escapesKeyword &&
      (following.isName || following.isMark "[" || following.isMark "\x7b")
  | .word "using" => usingDeclares inLoop
  | .word "await" =>
    let (following, onNewLine) ← nextToken
    if following.isWord "using" && !onNewLine then
      lookAhead false do
        next
        usingDeclares inLoop
    else return false
  | _ => return false

/-- A declaration of variables. Where a statement is all that a larger one holds, their names would
be of no use. -/
def variableStatement (alone : Bool) : Parser Stmt := do
  let isLexical := (← atWord "let") || (← atWord "const")
  let s ← g.bindings false
  statementEnd
  if alone && isLexical then
    report "Lexical declaration cannot appear in a single-statement context"
  return s

/-! ### Functions and classes -/

/-- Notes what is wrong with a function that is all that a larger statement holds. -/
def checkAlone (alone : Bool) (function : Expr) : Parser Unit := do
  match function with
  | .function isAsync isGenerator _ _ _ =>
    if alone && isAsync then
      report "Async functions can only be declared at the top level or inside a block"
    if alone && isGenerator then
      report "Generators can only be declared at the top level or inside a block"
  | _ => return ()

/-- The declaration of a function. One without statements only says what types it has. -/
def functionDeclaration (role : FunctionRole) (alone : Bool) : Parser Stmt := do
  let isAsync ← eatWord "async"
  let (own, function) ← g.functionAfterWord role isAsync
  match function with
  | some e =>
    checkAlone alone e
    return .declaration e
  | none =>
    statementEnd
    return .erased false [own] [] []

/-- The declaration of a class after decorators. -/
def classDeclaration (decorators : List Expr) : Parser Stmt :=
  return .declaration (withDecorators decorators (← g.classAfterWord))

/-! ### Types -/

/-- Whether the words at the cursor start a declaration. -/
def startsDeclarationHere : Nat → Parser Bool
  | 0 => return false
  | fuel + 1 => do
    match ← token with
    | .word text =>
      let (following, onNewLine) ← nextToken
      if ["var", "let", "const", "function", "class", "enum"].contains text then return true
      else if text == "interface" || text == "type" then return following.isName && !onNewLine
      else if text == "module" || text == "namespace" then
        return !onNewLine && (following.isName || (following matches .string _))
      else if text == "global" then return following.isMark "\x7b"
      else if ["abstract", "async", "declare"].contains text then
        if onNewLine then return false
        else
          next
          startsDeclarationHere fuel
      else return false
    | _ => return false

/-- Whether the cursor is at a declaration of types, an enumeration or a declaration that is marked
by words. -/
def startsTypedDeclaration : Parser Bool := do
  match ← token with
  | .word text =>
    if ["interface", "type", "module", "namespace", "global", "abstract", "declare",
        "enum"].contains text then
      lookAhead false (startsDeclarationHere 8)
    else return text == "const" && (← nextToken).1.isWord "enum"
  | _ => return false

/-- The types that an interface extends. -/
def extendedTypes : Parser Doc := do
  if ← eatWord "extends" then
    let types ← g.list "\x7b" do
      let own ← g.qualifiedName
      return own ++ (← g.typeArguments?)
    return " extends " ++ .commas types
  else return ""

/-- An interface, at its word. -/
def interfaceDeclaration : Parser Stmt := do
  next
  let typeName ← newName
  let params ← g.typeParameters
  let base ← g.extendedTypes
  let members ← g.typeMembers
  let head : Doc := "interface " ++ typeName ++ params ++ base ++ " "
  return .typeDeclaration typeName (head ++ membersOnLines members)

/-- A name for a type, at its word. -/
def typeDeclaration : Parser Stmt := do
  next
  let typeName ← newName
  let params ← g.typeParameters
  expect "="
  let written ← g.type
  statementEnd
  return .typeDeclaration typeName ("type " ++ typeName ++ params ++ " = " ++ written ++ ";")

/-! ### Spaces of names -/

/-- Statements up to a closing brace, of which the first ones may be directives. -/
def spaceItems : Nat → Bool → Parser (List Stmt)
  | 0, _ => return []
  | fuel + 1, directives => do
    if (← atMark "\x7d") || (← token) == .eof then return []
    else
      let c ← get
      let s ← g.statement false
      match if directives then directive? c s else none with
      | some directive => return directive :: (← spaceItems fuel true)
      | none => return s :: (← spaceItems fuel false)

/-- The statements of a space of names, in braces. -/
def spaceBody : Parser (List Stmt) := do
  expect "\x7b"
  let items ← enclosed (g.spaceItems g.width true)
  expect "\x7d"
  return items

/-- A space of names after the words and points before it. Points in its name stand for spaces in
spaces. -/
def namedSpace (word : String) : Nat → Parser Stmt
  | 0 => unexpected
  | fuel + 1 => do
    let spaceName ← newName
    if ← eat "." then
      return .space word spaceName [.exportDeclaration false (← namedSpace word fuel)]
    else return .space word spaceName (← g.spaceBody)

/-- A space of names, at its word. One that is named by a text, or not at all, says what exists
elsewhere. -/
def spaceDeclaration : Parser Stmt := do
  let word ← keyword
  match ← token with
  | .string _ =>
    next
    if ← atMark "\x7b" then return .outside (← g.spaceBody)
    else
      statementEnd
      return .outside []
  | .mark _ => return .erased true [] [] (← g.spaceBody)
  | _ => g.namedSpace word g.width

/-! ### Enumerations -/

/-- The text that a computed name of a member of an enumeration is. -/
def computedName (e : Expr) : Parser StringValue := do
  match e with
  | .string value => return value
  | .template .absent [raw] [] => return .ofText ((templateValue? raw).getD raw)
  | .number _ => fail "An enum member cannot have a numeric name."
  | _ => fail "Computed property names are not allowed in enums."

/-- The name of a member of an enumeration. -/
def enumerationKey : Parser StringValue := do
  match ← token with
  | .string value => next; return value
  | .number _ _ => fail "An enum member cannot have a numeric name."
  | .bigint _ _ => fail "An enum member cannot have a numeric name."
  | .template _ _ => fail "Computed property names are not allowed in enums."
  | .mark "[" =>
    next
    let e ← g.value
    expect "]"
    computedName e
  | _ => return .ofText (← anyWord)

/-- A member of an enumeration. -/
def enumerationMember : Parser Member := do
  let comments ← takeComments
  let key ← g.enumerationKey
  markName key.text
  let value ← if ← eat "=" then g.value else pure .absent
  return .mk comments [] false .property false (.string key) value

/-- An enumeration, at its word. -/
def enumeration : Parser Stmt := do
  discard (eatWord "const")
  expectWord "enum"
  let enumName ← newName
  expect "\x7b"
  let members ← enclosed (g.list "\x7d" g.enumerationMember)
  let remarks ← takeComments
  expect "\x7d"
  return .enumeration enumName members remarks

/-! ### Marked declarations -/

/-- A declaration that says what exists elsewhere. -/
def ambientDeclaration : Parser Stmt := do
  match ← token with
  | .word "interface" => g.interfaceDeclaration
  | .word "type" => g.typeDeclaration
  | .word "module" => g.spaceDeclaration
  | .word "namespace" => g.spaceDeclaration
  | .word "global" => g.spaceDeclaration
  | .word "enum" => g.enumeration
  | .word "abstract" =>
    next
    g.classDeclaration []
  | .word "class" => g.classDeclaration []
  | .word "function" => g.functionDeclaration .declared false
  | .word "async" => g.functionDeclaration .declared false
  | .word "const" =>
    if (← nextToken).1.isWord "enum" then g.enumeration else g.variableStatement false
  | .word "var" => g.variableStatement false
  | .word "let" => g.variableStatement false
  | _ => unexpected

/-- A declaration of types, an enumeration or a declaration that is marked by words. -/
def typedDeclaration : Parser Stmt := do
  match ← token with
  | .word "abstract" =>
    next
    g.classDeclaration []
  | .word "const" => g.enumeration
  | .word "declare" =>
    next
    return (← within (fun s => { s with isAmbient := true }) g.ambientDeclaration).erase
  | _ => g.ambientDeclaration

end Grammar

end LivePreview.Script
