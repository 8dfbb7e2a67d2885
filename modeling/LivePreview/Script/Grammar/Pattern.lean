import LivePreview.Script.Grammar.Annotation

/-!
# Patterns and parameters

Patterns that give names to the parts of a value, and the parameters of functions.

## Main definitions

* `LivePreview.Script.Grammar.patternRule`: a pattern.
* `LivePreview.Script.Grammar.parameters`: the parameters of a function.
* `LivePreview.Script.Expr.targetFault?`: why an expression cannot be assigned to.
-/

namespace LivePreview.Script

/-- A member without comments, of an object. -/
def plainMember (kind : MemberKind) (computed : Bool) (key value : Expr) : Member :=
  .mk [] [] false kind computed key value

namespace Grammar

open LivePreview.Script.Parser

variable (g : Grammar)

/-! ### Patterns -/

/-- A pattern with its default value, if it has one. -/
def withDefault (pattern : Expr) : Parser Expr := do
  if ← eat "=" then return .assign "=" pattern (← g.value) else return pattern

/-- Notes that all that is left has nothing after it, not even a comma. -/
def checkRestEnd (close : String) : Parser Unit := do
  if (← atMark ",") && (← nextToken).1.isMark close && !(← setting).isAmbient then
    report "Unexpected trailing comma after rest element"

/-- A pattern for all that is left, after its sign. -/
def restPattern (close : String) : Parser Expr := do
  let pattern ← g.pattern
  checkRestEnd close
  return .spread pattern

/-- An element of a list pattern. -/
def patternElement : Parser Expr := do
  if ← atMark "," then return .absent
  else if ← eat "..." then g.restPattern "]"
  else g.withDefault (← g.pattern)

/-- Notes that a key that gives its own name to a variable is no name. -/
def checkKey (key : Expr) : Parser Unit :=
  match key with
  | .name text => checkName text
  | _ => return ()

/-- A member of an object pattern. -/
def patternMember : Parser Member := do
  if ← eat "..." then return plainMember .spread false .absent (← g.restPattern "\x7d")
  let named := (← token).isName
  let (computed, key) ← g.memberKey
  if ← eat ":" then
    return plainMember .property computed key (← g.withDefault (← g.pattern))
  else if named then
    checkKey key
    if ← eat "=" then return plainMember .shorthand false key (← g.value)
    else return plainMember .shorthand false key .absent
  else needed (quoted ":")

/-- Whether a pattern is that of all that is left. -/
def isRest : Expr → Bool
  | .spread _ => true
  | .decorated _ (.spread _) => true
  | _ => false

/-- Whether a member of a pattern is all that is left. -/
def isRestMember : Member → Bool
  | .mk _ _ _ kind _ _ _ => kind == .spread

/-- Whether a member of a pattern is all that is left, with patterns for its parts. -/
def isRestOfParts : Member → Bool
  | .mk _ _ _ _ _ _ (.spread (.name _)) => false
  | m => isRestMember m

/-- A pattern that gives names. -/
def patternRule : Parser Expr := do
  match ← token with
  | .mark "[" =>
    next
    let items ← g.list "]" g.patternElement
    if items.dropLast.any isRest then
      report "A rest element must be last in a destructuring pattern"
    expect "]"
    return .array items
  | .mark "\x7b" =>
    next
    let members ← g.list "\x7d" g.patternMember
    if members.dropLast.any isRestMember then
      report "A rest element must be last in a destructuring pattern"
    if members.any isRestOfParts then fail "Invalid rest element"
    expect "\x7d"
    return .object [] members
  | _ => return .name (← newName)

/-! ### Parameters -/

/-- A parameter, and whether it is a property of the new object as well. -/
structure Param where
  /-- The pattern with its default value. -/
  pattern : Expr
  /-- Whether it is a property as well. -/
  isProperty : Bool

/-- The parameters of a function. -/
structure Params where
  /-- Whether there is a type for `this`. -/
  typesThis : Bool
  /-- The parameters. -/
  list : List Param

namespace Params

/-- The patterns of parameters. -/
def patterns (params : Params) : List Expr := params.list.map (·.pattern)

/-- The parameters without that of all that is left. -/
def single (params : Params) : List Param := params.list.filter fun param => !isRest param.pattern

end Params

/-- The words that say who may use a member. -/
def guardWords : List String := ["public", "private", "protected"]

/-- The words before a member that another one must precede. -/
def wordsAfter (word : String) : List String :=
  if guardWords.contains word then
    ["override", "static", "accessor", "readonly", "async", "abstract"]
  else if word == "static" then ["readonly", "async", "accessor", "override"]
  else if word == "override" then ["readonly", "accessor", "async"]
  else []

/-- What is wrong with a word before a member, after other words. -/
def modifierFault? (words : List String) (word : String) : Option String :=
  if guardWords.contains word && words.any guardWords.contains then
    some "Accessibility modifier already seen."
  else if words.contains word then some ("'" ++ word ++ "' modifier already seen.")
  else
    ((wordsAfter word).find? words.contains).map fun other =>
      "'" ++ word ++ "' modifier must precede '" ++ other ++ "' modifier."

/-- One more word before a member or a parameter. -/
def modifier (words : List String) (word : String) : Parser (List String) := do
  match modifierFault? words word with
  | some message => report message
  | none => pure ()
  next
  return words ++ [word]

/-- The words before a parameter that make it a property. -/
def propertyWords : List String := ["public", "private", "protected", "readonly", "override"]

/-- One more word before a parameter. -/
def parameterWord? (words : List String) : Parser (Option (List String)) := do
  let following := (← nextToken).1
  match (← token).word? with
  | some text =>
    if propertyWords.contains text &&
        (following.isName || following.isMark "\x7b" || following.isMark "[") then
      return some (← modifier words text)
    else return none
  | none => return none

/-- Decorators, if there are any. -/
def decorators : Parser (List Expr) :=
  repeated (do
    if ← eat "@" then
      return some (← within (fun s => { s with inDecorator := true }) (g.rule .operand))
    else return none) g.width

/-- What stands after decorators, if there are any. -/
def withDecorators (decorators : List Expr) (e : Expr) : Expr :=
  if decorators.isEmpty then e else .decorated decorators e

/-- A parameter. -/
def parameter : Parser Param := do
  let decorators ← g.decorators
  if ← eat "..." then
    let pattern ← g.pattern
    discard g.annotation
    checkRestEnd ")"
    return ⟨withDecorators decorators (.spread pattern), false⟩
  let words ← iterated parameterWord? g.width []
  let pattern ← g.pattern
  discard (eat "?")
  discard g.annotation
  let pattern ← g.withDefault pattern
  return ⟨withDecorators decorators pattern, !words.isEmpty⟩

/-- The type of `this`, if it is given as the first parameter. -/
def thisParameter : Parser Bool := do
  if ← eatWord "this" then
    discard g.annotation
    if !(← atMark ")") then expect ","
    return true
  else return false

/-- Parameters in parentheses. -/
def parameters : Parser Params := do
  expect "("
  let typesThis ← g.thisParameter
  let params ← within inBrackets (g.list ")" g.parameter)
  if params.dropLast.any fun param => isRest param.pattern then
    report "A rest parameter must be last in a parameter list"
  expect ")"
  return ⟨typesThis, params⟩

end Grammar

/-! ### Assignment -/

/-- Whether an expression in parentheses is a target. -/
def Expr.isInnerTarget : Expr → Bool
  | .name _ => true
  | .member _ _ optional => !optional
  | .index _ _ optional => !optional
  | .paren e => e.isInnerTarget
  | .cast _ e => e.isInnerTarget
  | _ => false

/-- The message about an expression that cannot be assigned to. -/
def assignmentMessage : String := "Cannot assign to this expression"

/-- What is wrong with a target that is none, if it is none. -/
def simpleTargetFault? (isTarget : Bool) : Option String :=
  if isTarget then none else some assignmentMessage

/-- Whether an expression is taken for a pattern. -/
def Expr.isPattern : Expr → Bool
  | .array _ => true
  | .object _ _ => true
  | _ => false

mutual

/-- What is wrong with an expression as a target or as one that holds targets. -/
def Expr.targetFault? : Expr → Option String
  | .name _ => none
  | .member _ _ optional => simpleTargetFault? (!optional)
  | .index _ _ optional => simpleTargetFault? (!optional)
  | .paren e => simpleTargetFault? e.isInnerTarget
  | .array items => targetFaultOf? items
  | .object _ members => targetFaultOfMembers? members
  | .cast _ e => simpleTargetFault? e.isInnerTarget
  | _ => some assignmentMessage

/-- What is wrong with the elements of a list as targets, perhaps with default values. -/
def targetFaultOf? : List Expr → Option String
  | [] => none
  | .absent :: l => targetFaultOf? l
  | .spread e :: l => if l.isEmpty then e.targetFault? else some "Spread must be last element"
  | .assign op target _ :: l =>
    if op == "=" then target.targetFault?.or (targetFaultOf? l) else some assignmentMessage
  | e :: l => e.targetFault?.or (targetFaultOf? l)

/-- What is wrong with the members of an object as targets. -/
def targetFaultOfMembers? : List Member → Option String
  | [] => none
  | .mk _ _ _ .spread _ _ (.spread e) :: l =>
    if !l.isEmpty then some "Spread must be last element"
    else if e.isPattern then some "Invalid rest element"
    else e.targetFault?
  | .mk _ _ _ .property _ _ (.assign op target _) :: l =>
    if op == "=" then target.targetFault?.or (targetFaultOfMembers? l) else some assignmentMessage
  | .mk _ _ _ .property _ _ e :: l => e.targetFault?.or (targetFaultOfMembers? l)
  | .mk _ _ _ .shorthand _ _ _ :: l => targetFaultOfMembers? l
  | _ => some assignmentMessage

end

/-- Whether an expression can be changed by an operator that also reads it. -/
def Expr.isSimpleTarget : Expr → Bool
  | .paren e => e.isInnerTarget
  | .cast _ e => e.isInnerTarget
  | .name _ => true
  | .member _ _ optional => !optional
  | .index _ _ optional => !optional
  | _ => false

mutual

/-- How many names with default values make sense because an expression is a pattern. -/
def Expr.defaultCount : Expr → Nat
  | .array items => defaultCountOf items
  | .object _ members => defaultCountOfMembers members
  | .assign _ target _ => target.defaultCount
  | .spread e => e.defaultCount
  | _ => 0

/-- How many names with default values make sense because expressions are patterns. -/
def defaultCountOf : List Expr → Nat
  | [] => 0
  | e :: l => e.defaultCount + defaultCountOf l

/-- How many names with default values make sense because members are those of a pattern. -/
def defaultCountOfMembers : List Member → Nat
  | [] => 0
  | m :: l => m.defaultCount + defaultCountOfMembers l

/-- How many names with default values make sense because a member is one of a pattern. -/
def Member.defaultCount : Member → Nat
  | .mk _ _ _ kind _ _ value =>
    match kind with
    | .shorthand => if value.isAbsent then 0 else 1
    | _ => value.defaultCount

end

/-- Takes an expression for a pattern that is assigned to. -/
def Parser.takeTarget (e : Expr) : Parser Unit := do
  match e.targetFault? with
  | some message => fail message
  | none => modify fun c => { c with openDefaults := c.openDefaults - e.defaultCount }

end LivePreview.Script
