import LivePreview.Script.Grammar.Declaration

/-!
# Imports and exports

The statements by which modules refer to each other. They are read wherever a statement may stand.

## Main definitions

* `LivePreview.Script.Grammar.importDeclaration`, `exportDeclaration`: imports and exports.
-/

namespace LivePreview.Script.Grammar

open LivePreview.Script.Parser

variable (g : Grammar)

/-! ### Names and sources -/

/-- A name that is seen from outside. -/
def publicName : Parser PublicName := do
  match ← token with
  | .string value =>
    if value.holdsHalves then report "An export name cannot include a unicode lone surrogate"
    next
    return .quoted value
  | _ => return .word (← anyWord)

/-- The source of an import or export. -/
def sourceText : Parser StringValue := do
  match ← token with
  | .string value => next; return value
  | _ => unexpected

/-- An attribute of an import. -/
def importAttribute : Parser (PublicName × StringValue) := do
  let key ← publicName
  expect ":"
  return (key, ← sourceText)

/-- The attributes of an import, if there are any. -/
def importAttributes : Parser (Option Attributes) := do
  if (← atWord "with") || ((← atWord "assert") && !(← onNewLine)) then
    let word ← keyword
    expect "\x7b"
    let entries ← g.list "\x7d" importAttribute
    expect "\x7d"
    return some ⟨word, entries⟩
  else return none

/-- Whether the word `type` at the cursor says that the specifier after it is one of a type. -/
def marksTypeSpecifier : Parser Bool := lookAhead false do
  expectWord "type"
  match ← token with
  | .string _ => return true
  | .word "as" =>
    next
    if ← eatWord "as" then
      match ← token with
      | .word _ => return true
      | .string _ => return true
      | _ => return false
    else
      match ← token with
      | .word _ => return false
      | .string _ => return false
      | _ => return true
  | .word _ => return true
  | _ => return false

/-! ### Imports -/

/-- A name in braces that is imported. -/
def importSpecifier : Parser Binding := do
  let isType ← marksTypeSpecifier
  if isType then next
  let simple := (← token).isName
  let outer ← publicName
  let inner ←
    if ← eatWord "as" then newName
    else if simple then do
      markName outer.text
      pure outer.text
    else needed (quoted "as")
  return if isType then .type inner else .named outer inner

/-- All exports under one name, at the star. -/
def importAll : Parser Binding := do
  expect "*"
  expectWord "as"
  return .all (← newName)

/-- What an import binds besides the default export. -/
def importedNames : Parser (List Binding) := do
  match ← token with
  | .mark "*" => return [← importAll]
  | .mark "\x7b" =>
    next
    let specifiers ← g.list "\x7d" importSpecifier
    expect "\x7d"
    return specifiers
  | _ => unexpected

/-- What an import binds. -/
def importClause : Parser (List Binding) := do
  if (← token).isName then
    let inner ← newName
    if ← eat "," then return .default inner :: (← g.importedNames) else return [.default inner]
  else if (← atMark "*") || (← atMark "\x7b") then g.importedNames
  else return []

/-- Whether the word `type` at the cursor says that the import is one of types. What can follow it
is limited in either case. -/
def marksTypeImport : Parser Bool := do
  if !(← atWord "type") then return false
  let (following, _) ← nextToken
  match following with
  | .word "from" =>
    lookAhead false do
      next
      next
      return (← atWord "from") || (← atMark ",") || (← atMark "=")
  | .mark "," => return false
  | .mark "=" => return false
  | .mark "*" => return true
  | .mark "\x7b" => return true
  | t =>
    if t.isName then return true
    else
      next
      unexpected

/-- What another name for a part of a space of names or for a module stands for. -/
def aliasTarget : Parser Expr := do
  let calls := (← nextToken).1.isMark "("
  if (← atWord "require") && calls then
    next
    expect "("
    let source ← sourceText
    expect ")"
    return .call (.name "require") [.string source] false
  else
    let first ← name
    iterated (fun e => do
      if ← eat "." then return some (.member e (← anyWord) false) else return none) g.width
      (.name first)

/-- Another name for a part of a space of names or for a module, at the name. -/
def aliasDeclaration (isType : Bool) : Parser Stmt := do
  let inner ← newName
  expect "="
  let target ← g.aliasTarget
  statementEnd
  return if isType then .erased false [] [inner] [] else .alias inner target

/-- The phase in which a module is imported, at the word for it if there is one. -/
def importPhase : Parser String := do
  let following := (← nextToken).1
  if (← atWord "defer") && following.isMark "*" then
    next
    return "defer"
  else if (← atWord "source") && following.isName then
    let isPhase ← if following.isWord "from" then lookAhead false do
        next
        next
        atWord "from"
      else pure true
    if isPhase then
      next
      return "source"
    else return ""
  else return ""

/-- Notes what is wrong with what an import of types binds. -/
def checkTypeImport (names : List Binding) : Parser Unit := do
  match names with
  | .default _ :: _ :: _ =>
    report
      "A type-only import can specify a default import or named bindings, but not both."
  | _ => return ()

/-- An import, at its word. -/
def importDeclaration : Parser Stmt := do
  next
  match ← token with
  | .string source =>
    next
    let attributes ← g.importAttributes
    statementEnd
    return .importFrom "" [] source attributes
  | _ =>
    let isType ← marksTypeImport
    if isType then next
    if (← token).isName && (← nextToken).1.isMark "=" then g.aliasDeclaration isType
    else
      let phase ← if isType then pure "" else importPhase
      let names ← g.importClause
      if isType then checkTypeImport names
      expectWord "from"
      let source ← sourceText
      let attributes ← g.importAttributes
      statementEnd
      return if isType then .typesOnly (names.map Binding.inner) (some source)
        else .importFrom phase names source attributes

/-! ### Exports -/

/-- A name in braces that is exported, nothing if it is one of a type. -/
def exportSpecifier : Parser (Option ExportSpecifier) := do
  let comments ← takeComments
  let isType ← marksTypeSpecifier
  if isType then next
  let inner ← publicName
  if ← eatWord "as" then
    let outerComments ← takeComments
    let outer ← publicName
    return if isType then none else some ⟨comments, inner, outerComments, outer⟩
  else return if isType then none else some ⟨comments, inner, [], inner⟩

/-- Notes what is wrong with a name of this module that is exported. -/
def checkExported (specifier : ExportSpecifier) : Parser Unit := do
  match specifier.inner with
  | .quoted _ =>
    report "A string literal cannot be used as an exported binding without `from`"
  | .word text =>
    markName text
    if isReserved text || strictWords.contains text || text == "await" then
      report "A reserved word cannot be used as an exported binding without `from`"

/-- Names in braces that are exported, of this module or of another. -/
def exportedNames : Parser Stmt := do
  expect "\x7b"
  let specifiers ← g.list "\x7d" exportSpecifier
  expect "\x7d"
  let values := specifiers.filterMap id
  let noValues := values.isEmpty && !specifiers.isEmpty
  if ← eatWord "from" then
    let source ← sourceText
    let attributes ← g.importAttributes
    statementEnd
    return if noValues then .typesOnly [] (some source) else .exportFrom values source attributes
  else
    values.forM checkExported
    statementEnd
    return if noValues then .typesOnly [] none else .exportNames values

/-- All names of another module. -/
def exportedAll : Parser Stmt := do
  expect "*"
  let outer ← if ← eatWord "as" then do pure (some (← publicName)) else pure none
  expectWord "from"
  let source ← sourceText
  let attributes ← g.importAttributes
  statementEnd
  return .exportAll outer source attributes

/-- An export of types that was read like one of values. -/
def asTypes : Stmt → Stmt
  | .exportFrom _ source _ => .typesOnly [] (some source)
  | .exportAll _ source _ => .typesOnly [] (some source)
  | .typesOnly types source => .typesOnly types source
  | _ => .typesOnly [] none

/-- Whether a class starts at the cursor, perhaps after the word that it is abstract. -/
def atClass : Parser Bool := do
  return (← atWord "class") || ((← atWord "abstract") && (← nextToken).1.isWord "class")

/-- A class after decorators, perhaps after the word that it is abstract. -/
def exportedClass (decorators : List Expr) : Parser Expr := do
  discard (eatWord "abstract")
  return withDecorators decorators (← g.classAfterWord)

/-- The default export, after its words. -/
def defaultExport (decorators : List Expr) : Parser Stmt := do
  let decorators := decorators ++ (← if ← atMark "@" then g.decorators else pure [])
  if ← atClass then return .exportDefault true (← g.exportedClass decorators)
  else if !decorators.isEmpty then unexpected
  else if (← atAsyncFunction) || (← atWord "function") then
    match ← g.functionDeclaration .exported false with
    | .declaration e => return .exportDefault true e
    | s => return .exportDeclaration false s
  else if (← atWord "interface") && (← nextToken).1.isName && !(← nextToken).2 then
    return .exportDeclaration false (← g.interfaceDeclaration)
  else
    let e ← g.value
    statementEnd
    return .exportDefault false e

/-- A declaration that is exported. -/
def exportedDeclaration (decorators : List Expr) : Parser Stmt := do
  let decorators := decorators ++ (← g.decorators)
  if ← atClass then
    return .exportDeclaration true (.declaration (← g.exportedClass decorators))
  else if !decorators.isEmpty then unexpected
  else if ← startsTypedDeclaration then return .exportDeclaration true (← g.typedDeclaration)
  else if ["var", "let", "const"].any ((← token).isWord ·) then
    return .exportDeclaration true (← g.variableStatement false)
  else if (← atAsyncFunction) || (← atWord "function") then
    return .exportDeclaration true (← g.functionDeclaration .declared false)
  else unexpected

/-- A name for the module as a whole that scripts without modules use, after its first word. -/
def globalName : Parser Stmt := do
  expectWord "as"
  expectWord "namespace"
  discard newName
  statementEnd
  return .typesOnly [] none

/-- An export after decorators, at its word. -/
def exportDeclaration (decorators : List Expr) : Parser Stmt := do
  next
  let following := (← nextToken).1
  match ← token with
  | .mark "*" => g.exportedAll
  | .mark "\x7b" => g.exportedNames
  | .mark "=" =>
    next
    let e ← g.anyExpression
    statementEnd
    return .exportValue e
  | .word "default" =>
    next
    g.defaultExport decorators
  | .word "as" => globalName
  | .word "import" =>
    next
    return .exportDeclaration true (← g.aliasDeclaration false)
  | .word "type" =>
    if following.isMark "*" then
      next
      return asTypes (← g.exportedAll)
    else if following.isMark "\x7b" then
      next
      return asTypes (← g.exportedNames)
    else g.exportedDeclaration decorators
  | _ => g.exportedDeclaration decorators

end LivePreview.Script.Grammar
