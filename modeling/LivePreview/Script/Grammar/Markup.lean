import LivePreview.Script.Grammar.Annotation
import LivePreview.Script.Markup

/-!
# Markup

Elements between tags. The signs after which text may follow are left to the rule that reads the
text: a tag inside of another ends with the cursor still at its last sign.

## Main definitions

* `LivePreview.Script.Grammar.markupRule`: an element or a fragment.
-/

namespace LivePreview.Script.Grammar

open LivePreview.Script.Parser

variable (g : Grammar)

/-! ### Names -/

/-- A name in a tag. -/
def tagWord : Parser String := do
  let c ← get
  match c.token with
  | .word _ =>
    let (text, rest) := markupName c.text
    set { c with rest }
    next
    return text
  | _ => unexpected

/-- The name of a tag: its text, and what it stands for. -/
structure TagName where
  /-- The text. -/
  text : String
  /-- What it stands for. -/
  value : Expr

/-- A variable, or the value of `this`. -/
def variableNamed (text : String) : Expr :=
  if text = "this" then .keyword "this" else .name text

/-- The properties in the name of a tag, each after a point. -/
def tagProperties : Nat → TagName → Parser TagName
  | 0, tag => return tag
  | fuel + 1, tag => do
    if ← eat "." then
      let property ← tagWord
      tagProperties fuel ⟨tag.text ++ "." ++ property, .member tag.value property false⟩
    else return tag

/-- The name of a tag. -/
def tagName : Parser TagName := do
  let text ← tagWord
  markName text
  if ← eat ":" then
    let inner ← tagWord
    return ⟨text ++ ":" ++ inner, .namespaced text inner⟩
  else if ← atMark "." then tagProperties g.width ⟨text, variableNamed text⟩
  else if isElementName text && text ≠ "this" then return ⟨text, .string (.ofText text)⟩
  else return ⟨text, variableNamed text⟩

/-- The last sign of a tag, with the comments before it. -/
def tagEnd (inside : Bool) : Parser (List Comment) := do
  let comments ← takeComments
  if ← atMark ">" then
    if !inside then next
    return comments
  else needed (quoted ">")

/-! ### Attributes -/

/-- Notes that the value of an expression in markup is that of its last part. -/
def checkSingle (e : Expr) : Parser Unit :=
  match e with
  | .sequence _ => report "JSX expressions may not use the comma operator"
  | _ => return ()

/-- The value of an attribute, at the sign before it. -/
def attributeValue : Parser Expr := do
  modify fun c => c.afterGap false scanAttribute
  match ← token with
  | .string text => next; return .string text
  | .mark "\x7b" =>
    next
    let e ← enclosed g.anyExpression
    checkSingle e
    expect "\x7d"
    return e
  | .mark "<" => g.rule (.markup false)
  | _ => unexpected

/-- Whether the text is that of a name outside of markup. -/
def isPlainName (text : String) : Bool :=
  text.toList.head?.any startsName && text.toList.all continuesName

/-- An attribute. -/
def tagAttribute : Parser Member := do
  if ← eat "\x7b" then
    expect "..."
    let e ← g.anyExpression
    expect "\x7d"
    return .mk [] [] false .spread false .absent (.spread e)
  let text ← tagWord
  let text ← if ← eat ":" then do pure (text ++ ":" ++ (← tagWord)) else pure text
  let key := if isPlainName text then Expr.name text else .string (.ofText text)
  let value ← if ← atMark "=" then g.attributeValue else pure (.keyword "true")
  return .mk [] [] false .property false key value

/-- The attributes of a tag. -/
def attributes : Parser (List Member) :=
  repeated (do
    match ← token with
    | .mark ">" => return none
    | .mark "/" => return none
    | .mark "<" => return none
    | _ => return some (← g.tagAttribute)) g.width

/-! ### Children -/

/-- The cursor at a sign in text, before which there is no gap. -/
def standAt (sign : String) (rest : List Char) : Parser Unit :=
  modify fun c =>
    { c with onNewLine := false, comments := [] }.standing c.rest ⟨.mark sign, rest, []⟩

/-- A value between tags, at its opening brace; nothing if the braces hold nothing. -/
def childValue : Parser (Option Expr) := do
  next
  if ← atMark "\x7d" then return none
  let comments ← takeComments
  let isSpread ← eat "..."
  let e ← enclosed g.anyExpression
  if !isSpread then checkSingle e
  if !(← atMark "\x7d") then needed (quoted "\x7d")
  return some (.after comments (if isSpread then .spread e else e))

/-- The message about a sign that has no place in text. -/
def strayMessage (sign : Char) : String :=
  let name := if sign = '>' then "gt" else "rbrace"
  "Unexpected token. Did you mean `\x7b'" ++ String.ofList [sign] ++ "'\x7d` or `&" ++ name ++ ";`?"

/-- What is between tags, from the last sign of the first tag on. It ends with the cursor at the
first sign of the closing tag. -/
def children : Nat → Parser (List Expr)
  | 0 => unexpected
  | fuel + 1 => do
    match scanMarkup (← get).rest with
    | (.text raw, rest) =>
      modify fun c => { c with rest }
      let more ← children fuel
      return (markupText? raw).elim more fun text => .string (.ofText text) :: more
    | (.value, rest) =>
      standAt "\x7b" rest
      let child ← g.childValue
      let more ← children fuel
      return child.elim more (· :: more)
    | (.tag, rest) =>
      standAt "<" rest
      if (← nextToken).1.isMark "/" then return []
      let child ← g.rule (.markup true)
      return child :: (← children fuel)
    | (.stray, rest) => fail (rest.head?.elim "Unexpected token" strayMessage)
    | (.eof, _) =>
      standAt "" []
      modify fun c => { c with token := .eof }
      unexpected

/-! ### Elements -/

/-- The closing tag, whose name must be that of the opening one, with the comments in it. -/
def closingTag (inside : Bool) (opening : String) : Parser (List Comment) := do
  expect "<"
  expect "/"
  let closing ← g.tagName
  if closing.text ≠ opening then
    report ("Expected corresponding JSX closing tag for '" ++ opening ++ "'.")
  tagEnd inside

/-- The closing tag of a fragment, which has no name, with the comments in it. -/
def closingSign (inside : Bool) : Parser (List Comment) := do
  expect "<"
  expect "/"
  if !(← atMark ">") then
    discard g.tagName
    report "Expected corresponding closing tag for JSX fragment."
  tagEnd inside

/-- An element after its first sign. -/
def element (inside : Bool) : Parser Expr := do
  let comments ← takeComments
  let tag ← g.tagName
  let value := Expr.after comments tag.value
  if ← atMark "<" then discard (attempt g.typeArguments)
  let attributes ← refusing Refusal.beforeMore g.attributes
  if ← eat "/" then
    let remarks ← tagEnd inside
    return .element value attributes [] remarks
  else
    discard (tagEnd true)
    let children ← refusing Refusal.beforeMore (g.children g.width)
    let remarks ← g.closingTag inside tag.text
    return .element value attributes children remarks

/-- An element or a fragment. -/
def markupRule (inside : Bool) : Parser Expr := do
  next
  match ← token with
  | .mark ">" =>
    let children ← refusing Refusal.beforeMore (g.children g.width)
    let remarks ← g.closingSign inside
    return .fragment children remarks
  | .word _ => g.element inside
  | _ => unexpected

end LivePreview.Script.Grammar
