import LivePreview.Script.Grammar
import LivePreview.Script.Layout

/-!
# Types

Types are read to find where they end. How they are written is kept where a declaration of a type
has a label, as nothing else is left out there; parameters of functions have no types even then.

## Main definitions

* `LivePreview.Script.Grammar.typeRule`: a type.
* `LivePreview.Script.Grammar.annotation`: the type of a variable.
* `LivePreview.Script.Grammar.returnType`: the type of what a function returns.
* `LivePreview.Script.Grammar.typeParameters`, `typeArguments`: types in angle brackets.
-/

namespace LivePreview.Script.Grammar

open LivePreview.Script.Parser

variable (g : Grammar)

/-! ### Lists of types -/

/-- A type as it is written after what stands before it, if there is one. -/
def leading (start : String) (written : Option Doc) : Doc :=
  match written with
  | some d => start ++ d
  | none => ""

/-- A word that is written with a space after it, if it is there. -/
def eatModifier (word : String) : Parser Doc :=
  return if ← eatWord word then word ++ " " else ""

/-- A sign that is written if it is there. -/
def eatSign (sign : String) : Parser Doc :=
  return if ← eat sign then sign else ""

/-- Types in angle brackets. -/
def typeArguments : Parser Doc := do
  splitAngle
  expect "<"
  let args ← g.list ">" g.type
  expect ">"
  return "<" ++ .commas args ++ ">"

/-- Types in angle brackets, if they are there. -/
def typeArguments? : Parser Doc := do
  splitAngle
  if ← atMark "<" then g.typeArguments else return ""

/-- The modifiers of a parameter that stands for a type. -/
def typeModifiers : Parser (List String) :=
  repeated (do
    let following := (← nextToken).1
    let isModifier := following.isName || following.isWord "in" || following.isWord "const"
    if (← atWord "const") || (← atWord "in") || ((← atWord "out") && isModifier) then
      return some (← keyword)
    else return none) g.width

/-- A parameter that stands for a type. -/
def typeParameter : Parser Doc := do
  let modifiers ← g.typeModifiers
  let own ← newName
  let bound ← if ← eatWord "extends" then some <$> g.type else pure none
  let usual ← if ← eat "=" then some <$> g.type else pure none
  let words := (["const", "in", "out"].filter modifiers.contains).map (· ++ " ")
  return String.join words ++ own ++ leading " extends " bound ++ leading " = " usual

/-- Parameters that stand for types, in angle brackets. Several are on lines of their own. -/
def typeParametersDoc : List Doc → Doc
  | [d] => "<" ++ d ++ ">"
  | l => .onLines 0 "<" l ">"

/-- Parameters that stand for types, if they are there. -/
def typeParameters : Parser Doc := do
  splitAngle
  if ← eat "<" then
    let params ← g.list ">" g.typeParameter
    expect ">"
    return typeParametersDoc params
  else return ""

/-- Names after a name, each after a point. -/
def pointedNames : Parser Doc := do
  let names ← repeated (do
    if ← eat "." then return some ("." ++ (← anyWord))
    else return none) g.width
  return String.join names

/-- A name with points. -/
def qualifiedName : Parser Doc := do
  let first ← anyWord
  markName first
  return first ++ (← g.pointedNames)

/-! ### Functions -/

/-- The type after a colon, if there is one. -/
def annotation : Parser Doc := do
  if ← eat ":" then return ": " ++ (← g.type) else return ""

/-- Whether a predicate on a value starts at the cursor: a word, and `is` on the same line. -/
def startsPredicate : Parser Bool := do
  let (t, onNewLine) ← nextToken
  return ((← token).isName || (← atWord "this")) && t.isWord "is" && !onNewLine

/-- The type of what a function returns: a type, or what is known after it returned. -/
def resultType : Parser Doc := do
  if ← startsPredicate then
    let subject ← keyword
    next
    return subject ++ " is " ++ (← g.type)
  else g.type

/-- The type of what a function returns, if there is one. -/
def returnType : Parser Doc := do
  if ← eat ":" then return ": " ++ (← g.resultType) else return ""

/-- A parameter of a function type, for which even a default value can be read. Only what stands for
the object of a call keeps its type. -/
def typedParameter : Parser Doc := do
  let rest ← eatSign "..."
  let place := Place.given 0 .none
  let own ← if ← eatWord "this" then pure none else some <$> g.pattern
  discard (eat "?")
  let known ← g.annotation
  let usual ← if ← eat "=" then some <$> g.value else pure none
  let subject := own.elim ("this" ++ known) fun pattern => pattern.layout place
  return rest ++ subject ++ leading " = " (usual.map fun e => e.layout place)

/-- Parameters in parentheses, of a function type. -/
def typedParameters : Parser Doc := do
  expect "("
  let params ← g.list ")" g.typedParameter
  expect ")"
  return "(" ++ .commas params ++ ")"

/-- A function type. -/
def functionType : Parser Doc := do
  let types ← g.typeParameters
  let params ← g.typedParameters
  if ← eat "=>" then return types ++ params ++ " => " ++ (← g.resultType) else unexpected

/-- Whether the parenthesis at the cursor starts the parameters of a function type. -/
def startsFunctionType : Parser Bool := lookAhead false do
  next
  if (← atMark ")") || (← atMark "...") then return true
  if (← token).isName || (← atWord "this") then next
  else if (← atMark "[") || (← atMark "\x7b") then discard g.pattern
  else return false
  let t ← token
  if t.isMark ":" || t.isMark "," || t.isMark "?" || t.isMark "=" then return true
  if ← eat ")" then atMark "=>" else return false

/-! ### Members -/

/-- The end of a member of an object type, which may be left out. -/
def memberEnd : Parser Unit := do
  if !(← eat ",") then discard (eat ";")

/-- A sign before a word or a mark of a mapped type, with what it stands before. -/
def signed (what : Parser Doc) : Parser Doc := do
  if ← eat "+" then return "+" ++ (← what)
  else if ← eat "-" then return "-" ++ (← what)
  else what

/-- Whether a mapped type starts at the cursor, after its brace. -/
def startsMappedType : Parser Bool := lookAhead false do
  discard (signed (eatModifier "readonly"))
  if !(← eat "[") then return false
  discard name
  atWord "in"

/-- What a mapped type holds, up to but without its closing brace. -/
def mappedType : Parser Doc := do
  let modifier ← signed (eatModifier "readonly")
  expect "["
  let key ← name
  expectWord "in"
  let keys ← g.type
  let newKeys ← if ← eatWord "as" then some <$> g.type else pure none
  expect "]"
  let sign ← signed (eatSign "?")
  let value ← g.annotation
  discard (eat ";")
  return modifier ++ "[" ++ key ++ " in " ++ keys ++ leading " as " newKeys ++ "]" ++ sign ++ value

/-- Whether an index signature starts at the cursor. -/
def startsIndexSignature : Parser Bool := lookAhead false do
  expect "["
  discard name
  return (← atMark ":") || (← atMark ",")

/-- The key of an index signature. -/
def indexKey : Parser Doc := do
  let pattern ← g.pattern
  discard (eat "?")
  let keys ← g.annotation
  if ← eat "=" then discard g.value
  return pattern.layout (.given 0 .none) ++ keys

/-- An index signature without its modifiers. -/
def indexSignature : Parser Doc := do
  expect "["
  let keys ← g.list "]" g.indexKey
  expect "]"
  return "[" ++ .commas keys ++ "]" ++ (← g.annotation)

/-- The parameters and the result of a signature. -/
def signature : Parser Doc := do
  let types ← g.typeParameters
  let params ← g.typedParameters
  return types ++ params ++ (← g.returnType)

/-- A modifier of a member, if what follows it can be the key. -/
def keyModifier (word : String) : Parser Doc := do
  if (← atWord word) && startsKey (← nextToken).1 then eatModifier word else return ""

/-- A key of a member of an object type, and what follows it. -/
def keyedMember : Parser Doc := do
  let reads ← keyModifier "get"
  let writes ← keyModifier "set"
  let (computed, key) ← g.memberKey
  let sign ← eatSign "?"
  let rest ← if (← atMark "(") || (← atMark "<") then g.signature else g.annotation
  return reads ++ writes ++ keyDoc computed (key.layout (.inner 0 Level.comma)) ++ sign ++ rest

/-- A member of an object type. -/
def typeMember : Parser Doc := do
  let following := (← nextToken).1
  if (← atMark "(") || (← atMark "<") then g.signature
  else if (← atWord "new") && (following.isMark "(" || following.isMark "<") then
    next
    return "new " ++ (← g.signature)
  else
    let modifier ← keyModifier "readonly"
    let rest ← if ← startsIndexSignature then g.indexSignature else g.keyedMember
    return modifier ++ rest

/-- The members of an object type, in braces. -/
def typeMembers : Parser (List Doc) := do
  expect "\x7b"
  let members ← repeated (do
    if endsList "\x7d" (← token) then return none
    else
      let m ← g.typeMember
      memberEnd
      return some m) g.width
  expect "\x7d"
  return members

/-- Members on lines of their own, in braces. -/
def membersOnLines (members : List Doc) : Doc :=
  .braced 0 members.isEmpty <|
    .concat (members.map fun m => .margin 1 ++ m.indented 1 ++ ";\n")

/-- An object type with members. One alone is on the line of its braces. -/
def membersDoc : List Doc → Doc
  | [m] => "\x7b " ++ m ++ " \x7d"
  | l => membersOnLines l

/-! ### Types without operators -/

/-- What an element of a list type says about the length of the list. -/
inductive TupleElement
  /-- The element is there. -/
  | required
  /-- The element may be left out. -/
  | optional
  /-- There may be any number of them. -/
  | rest
  deriving DecidableEq, Repr

/-- The name of an element of a list type and whether the element may be left out, if it has a
name. -/
def elementName : Parser (Option (String × Bool)) :=
  attempt do
    let own ← anyWord
    let isOptional ← eat "?"
    expect ":"
    return (own, isOptional)

/-- An element of a list type. -/
def tupleElement : Parser (TupleElement × Doc) := do
  let isRest ← eat "..."
  let named ← elementName
  let written ← g.type
  let isOptional ← eat "?"
  let kind : TupleElement :=
    if isRest then .rest
    else if isOptional || named.any (·.2) then .optional
    else .required
  let label := named.elim "" fun (own, isOptional) => own ++ (if isOptional then "?: " else ": ")
  let start := if isRest then "..." else ""
  return (kind, start ++ label ++ written ++ if isOptional then "?" else "")

/-- The elements of a list type. -/
def tupleElements : Parser (List Doc) := do
  let elements ← g.list "]" g.tupleElement
  let after := (elements.map Prod.fst).dropWhile (· ≠ .optional)
  if after.contains .required then report "A required element cannot follow an optional element."
  return elements.map Prod.snd

/-- The rest of a template of types, after a stretch of its text. -/
def templateTypes : Nat → Bool → Parser Doc
  | 0, _ => return ""
  | _, true => return ""
  | fuel + 1, false => do
    let part ← g.type
    let (raw, closed) ← templateRest
    return "$\x7b" ++ part ++ "\x7d" ++ verbatim raw ++ (← templateTypes fuel closed)

/-- A module that is named by its source, at the parenthesis before that. -/
def moduleType : Parser Doc := do
  expect "("
  let source ← g.type
  let options ← if (← eat ",") && !(← atMark ")") then do
      let e ← g.assignment
      discard (eat ",")
      pure (some (e.layout (.inner 0 Level.lowest)))
    else pure none
  expect ")"
  return "import(" ++ source ++ leading ", " options ++ ")" ++ (← g.pointedNames)

/-- The type of a variable. -/
def queryType : Parser Doc := do
  next
  let subject ← if ← eatWord "import" then g.moduleType else g.qualifiedName
  let args : Doc ← if ← onNewLine then pure "" else g.typeArguments?
  return "typeof " ++ subject ++ args

/-- The names of types that are always there. -/
def basicTypes : List String :=
  ["any", "unknown", "string", "number", "bigint", "symbol", "boolean", "undefined", "never",
    "object", "null", "intrinsic"]

/-- A type that is named by words. -/
def wordType (text : String) : Parser Doc := do
  let (following, isApart) ← nextToken
  if text == "this" then
    next
    if !isApart && (← eatWord "is") then return "this is " ++ (← g.type) else return "this"
  else if text == "asserts" && (following.isName || following.isWord "this") && !isApart then
    next
    let subject ← keyword
    let known ← if ← eatWord "is" then some <$> g.type else pure none
    return "asserts " ++ subject ++ leading " is " known
  else if ["void", "true", "false"].contains text then
    next
    return text
  else if basicTypes.contains text && !following.isMark "." then
    next
    return text
  else
    let own ← g.qualifiedName
    let args : Doc ← if ← onNewLine then pure "" else g.typeArguments?
    return own ++ args

/-- A number as a type. -/
def numberType (sign : String) : Parser Doc := do
  match ← token with
  | .number value _ =>
    next
    return sign ++ numberDoc Level.lowest value
  | .bigint digits _ =>
    next
    return sign ++ digits ++ "n"
  | _ => unexpected

/-- An object type. -/
def objectType : Parser Doc := do
  let isMapped ← lookAhead false do
    next
    startsMappedType
  if isMapped then
    next
    let written ← g.mappedType
    expect "\x7d"
    return "\x7b " ++ written ++ " \x7d"
  else return membersDoc (← within (fun s => { s with allowsTypeChoice := true }) g.typeMembers)

/-- A type without operators. -/
def plainType : Parser Doc := do
  match ← token with
  | .string value =>
    next
    return stringText value
  | .number _ _ => numberType ""
  | .bigint _ _ => numberType ""
  | .template raw closed =>
    next
    return "`" ++ verbatim raw ++ (← g.templateTypes g.width closed) ++ "`"
  | .mark "-" =>
    next
    numberType "-"
  | .mark "!" =>
    next
    return "!" ++ (← g.type)
  | .mark "?" =>
    next
    let t ← token
    if [",", "\x7d", ")", ">", "=", "|"].any (t.isMark ·) then return "unknown"
    else return "?" ++ (← g.type)
  | .mark "[" =>
    next
    let elements ← g.tupleElements
    expect "]"
    return "[" ++ .commas elements ++ "]"
  | .mark "(" =>
    next
    let written ← within (fun s => { s with allowsTypeChoice := true }) g.type
    expect ")"
    return "(" ++ written ++ ")"
  | .mark "\x7b" => g.objectType
  | .word "typeof" => g.queryType
  | .word "import" =>
    next
    let source ← g.moduleType
    return source ++ (← g.typeArguments?)
  | .word text => g.wordType text
  | _ => unexpected

/-! ### Operators on types -/

/-- Whether a type can start with a token. -/
def startsType : Token → Bool
  | .word text =>
    !isReserved text ||
      ["void", "null", "this", "typeof", "new", "true", "false", "import", "function"].contains text
  | .mark text =>
    ["(", "[", "\x7b", "<", "|", "&", "*", "?", "!", "...", "-"].contains text
  | .number _ _ => true
  | .bigint _ _ => true
  | .string _ => true
  | .template _ _ => true
  | _ => false

/-- Whether a question mark at the cursor belongs to the type before it: what follows it starts no
type, and does not make it the sign of an optional element of a list. -/
def endsWithQuestion : Parser Bool := lookAhead false do
  next
  let t ← token
  if t.isMark "-" then
    match (← nextToken).1 with
    | .number _ _ => return false
    | .bigint _ _ => return false
    | _ => return true
  else return !startsType t && !t.isMark "," && !t.isMark "]"

/-- A type with brackets or signs after it. -/
def bracketedType : Parser Doc := do
  let plain ← g.plainType
  iterated (fun (written : Doc) => do
    if ← onNewLine then return none
    else if ← eat "!" then return some (written ++ "!")
    else if (← atMark "?") && (← endsWithQuestion) then
      next
      return some (written ++ "?")
    else if ← eat "[" then
      let key ← if startsType (← token) then g.type else pure ""
      expect "]"
      return some (written ++ "[" ++ key ++ "]")
    else return none) g.width plain

/-- A type that is found where another one fits, and perhaps what it has to fit. -/
def inferredType : Parser Doc := do
  let own ← newName
  let bound ← attempt do
    expectWord "extends"
    let bound ← within (fun s => { s with allowsTypeChoice := false }) g.type
    if (← setting).allowsTypeChoice && (← atMark "?") then unexpected
    return bound
  return own ++ leading " extends " bound

/-- A type with words before it. The argument bounds their number. -/
def prefixedType : Nat → Parser Doc
  | 0 => unexpected
  | fuel + 1 => do
    if (← atWord "keyof") || (← atWord "unique") || (← atWord "readonly") then
      let word ← keyword
      return word ++ " " ++ (← prefixedType fuel)
    else if ← eatWord "infer" then return "infer " ++ (← g.inferredType)
    else g.bracketedType

/-- Types with an operator between them and perhaps before them. -/
def typesWith (operator : String) (operand : Parser Doc) : Parser Doc := do
  discard (eat operator)
  let first ← operand
  let more ← repeated (do
    if ← eat operator then return some (← operand)
    else return none) g.width
  return .between (" " ++ operator ++ " ") (first :: more)

/-- A type that is neither a function nor a choice. -/
def unionType : Parser Doc :=
  g.typesWith "|" (g.typesWith "&" (g.prefixedType g.width))

/-- A type that is chosen, after the one that decides. -/
def typeChoice (tested : Doc) : Parser Doc := do
  let wanted ← within (fun s => { s with allowsTypeChoice := false }) g.type
  expect "?"
  let yes ← g.type
  expect ":"
  let no ← g.type
  return tested ++ " extends " ++ wanted ++ " ? " ++ yes ++ " : " ++ no

/-- A type. -/
def typeRule : Parser Doc := do
  splitAngle
  if ← atMark "<" then g.functionType
  else if ← eatWord "new" then return "new " ++ (← g.functionType)
  else if (← atWord "abstract") && (← nextToken).1.isWord "new" then
    next
    next
    return "abstract new " ++ (← g.functionType)
  else if (← atMark "(") && (← g.startsFunctionType) then g.functionType
  else
    let written ← g.unionType
    if (← setting).allowsTypeChoice && !(← onNewLine) && (← eatWord "extends") then
      g.typeChoice written
    else return written

end LivePreview.Script.Grammar
