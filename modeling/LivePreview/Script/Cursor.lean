import LivePreview.Script.Markup.Factory
import LivePreview.Script.Scan

/-!
# Reading with a cursor

A cursor stands at a token of a text and knows the text from there on, so that a token whose kind
depends on the grammar can be read again. A rule of the grammar is a function on cursors. It moves
on, or it fails; a failure holds all faults of the text up to that place. Faults that do not stop
the reading are collected by the cursor.

A comment belongs to the largest construct that starts at the token after it: the rule of a
construct that keeps comments takes them from the cursor before it reads its parts.

## Main definitions

* `LivePreview.Script.Cursor`: a place in a text.
* `LivePreview.Script.Refusal`: a failure.
* `LivePreview.Script.Parser`: a rule.
* `LivePreview.Script.Parser.attempt`, `lookAhead`: rules that can be taken back.
* `LivePreview.Script.Parser.separated`: lists in brackets.
-/

namespace LivePreview.Script

/-- What the surroundings of a place allow. -/
structure Setting where
  /-- Whether the text may hold markup. -/
  markup : Bool
  /-- Whether `in` is an operator. -/
  allowsIn : Bool
  /-- Whether a function may be left. -/
  inFunction : Bool
  /-- Whether values can be awaited. -/
  inAsync : Bool
  /-- Whether values can be given to the caller on the way. -/
  inGenerator : Bool
  /-- Whether a type may be a choice. -/
  allowsTypeChoice : Bool
  /-- Whether the place only tells what exists elsewhere. -/
  isAmbient : Bool
  /-- Whether the place is in a decorator. -/
  inDecorator : Bool

/-- A place in a text. -/
structure Cursor where
  /-- The token at the place. -/
  token : Token
  /-- Whether the token starts on another line than the one before. -/
  onNewLine : Bool
  /-- The comments that lead the token, as far as no construct has taken them. -/
  comments : List Comment
  /-- Whether a comment before the token says that a call can be left out. -/
  marksPure : Bool
  /-- Whether a comment before the token says that calls of a function can be left out. -/
  marksPureFunction : Bool
  /-- The text from the token on. -/
  text : List Char
  /-- The text after the token. -/
  rest : List Char
  /-- What is wrong with the tokens up to here. -/
  tokenFaults : List String
  /-- What else is wrong up to here. -/
  faults : List String
  /-- How many members of objects up to here make sense in a pattern only. -/
  openDefaults : Nat
  /-- What markup stands for, by the comments up to here. -/
  factory : Factory
  /-- The names up to here that start with an underscore, the latest first. -/
  marked : List String
  /-- What the surroundings allow. -/
  setting : Setting

namespace Cursor

/-- Whether a comment after the token is about what follows, although it is on the same line. -/
def opensSomething (t : Token) : Bool := t.isMark "=" || t.isMark "("

/-- The cursor at the token that was scanned. -/
def standing (c : Cursor) (text : List Char) (scanned : Scanned) : Cursor :=
  { c with
    token := scanned.token
    text := text
    rest := scanned.rest
    tokenFaults := c.tokenFaults ++ scanned.faults }

/-- The cursor with what it takes from a gap. -/
def taking (c : Cursor) (g : Gap) : Cursor :=
  { c with
    onNewLine := g.onNewLine
    comments := g.comments
    marksPure := g.all.any Comment.marksPure
    marksPureFunction := g.all.any Comment.marksPureFunction
    factory := if c.setting.markup then g.all.reverse.foldl Factory.after c.factory else c.factory }

/-- The first token after a gap, as `read` reads it. -/
def afterGap (c : Cursor) (start : Bool) (read : List Char → Scanned) : Cursor :=
  match gap (opensSomething c.token) .blank (.start start) c.rest with
  | (g, s, false) => (c.taking g).standing s (read s)
  | (g, _, true) => (c.taking g).standing [] ⟨.eof, [], ["Unterminated multiline comment"]⟩

/-- The cursor at the next token. -/
def next (c : Cursor) : Cursor := c.afterGap false scan

/-- Whether the token is a keyword that is written with escapes: its text does not start with it. -/
def escapesKeyword (c : Cursor) : Bool :=
  match c.token with
  | .word text => !text.toList.isPrefixOf c.text && isKeyword text
  | _ => false

/-- The cursor at the first token of a text. -/
def start (setting : Setting) (s : List Char) : Cursor :=
  afterGap ⟨.eof, false, [], false, false, [], s, [], [], 0, .usual, [], setting⟩ true scan

end Cursor

/-- Why a text cannot be read. -/
structure Refusal where
  /-- What is wrong with its tokens. -/
  tokenFaults : List String
  /-- What else is wrong with it. -/
  faults : List String
  /-- What stopped the reading, unless that is among the faults. -/
  stop : Option String
  /-- Whether nothing after the place was looked at. -/
  atEnd : Bool
  /-- Whether the reading stopped at a closing brace. -/
  atBrace : Bool

namespace Refusal

/-- All that is wrong. Where the rest of the text is skipped, what is wrong with its tokens is a
better reason than what stopped the reading. -/
def messages (r : Refusal) : List String :=
  let stop := if r.atEnd && !r.tokenFaults.isEmpty then [] else r.stop.toList
  r.tokenFaults ++ r.faults ++ stop

/-- The refusal of a text whose reading stopped inside of brackets: the rest is skipped. -/
def enclosed (r : Refusal) : Refusal := { r with atEnd := true, atBrace := false }

/-- The refusal of a text whose reading stopped where an expression had to follow. That there is
none is known from the last fault of the tokens, if there is one. -/
def beforeMore (r : Refusal) : Refusal := { r.enclosed with tokenFaults := r.tokenFaults.dropLast }

/-- The refusal of a text whose reading stopped in the substitution of a template. What stopped at
the closing brace of the substitution left the rest of the template without its end. -/
def inSubstitution (r : Refusal) : Refusal :=
  if r.atBrace then
    { r with
      tokenFaults := r.tokenFaults ++ ["Unterminated string"]
      atEnd := false
      atBrace := false }
  else r.enclosed

end Refusal

/-- A rule of the grammar: it moves a cursor, or fails with all faults of the text. -/
abbrev Parser (α : Type) := StateT Cursor (Except Refusal) α

namespace Parser

/-! ### Tokens -/

/-- The token at the cursor. -/
def token : Parser Token := return (← get).token

/-- Moves to the next token, whatever the one at the cursor is. -/
def skip : Parser Unit := modify Cursor.next

/-- Moves to the next token. A keyword must not have escapes in it. -/
def next : Parser Unit := modify fun c =>
  if c.escapesKeyword then
    { c.next with faults := c.faults ++ ["Keywords cannot contain escape characters"] }
  else c.next

/-- Fails. -/
def fail {α : Type} (message : String) : Parser α := fun c =>
  .error ⟨c.tokenFaults, c.faults, some message, c.token == .eof, c.token.isMark "\x7d"⟩

/-- Notes a fault. -/
def report (message : String) : Parser Unit :=
  modify fun c => { c with faults := c.faults ++ [message] }

/-- Notes faults of tokens. -/
def reportTokens (messages : List String) : Parser Unit :=
  modify fun c => { c with tokenFaults := c.tokenFaults ++ messages }

/-- The comments that lead the token. They are gone from the cursor. -/
def takeComments : Parser (List Comment) := do
  let comments := (← get).comments
  modify fun c => { c with comments := [] }
  return comments

/-- Fails because the token has no place here. Where no token could be read, the reason for that
is the better message. -/
def unexpected {α : Type} : Parser α := fun c =>
  match c.token, c.tokenFaults.getLast? with
  | .fault _, some message =>
    .error ⟨c.tokenFaults.dropLast, c.faults, some message, false, false⟩
  | .eof, some message => .error ⟨c.tokenFaults.dropLast, c.faults, some message, true, false⟩
  | _, _ => fail "Unexpected token" c

/-- Fails because other tokens were needed here. Where some token could not be read, that alone is
reported. -/
def needed {α : Type} (wanted : String) : Parser α := fun c =>
  let message := "Expected " ++ wanted ++ " but found `" ++ c.token.found ++ "`"
  .error ⟨c.tokenFaults, c.faults, some message, true, false⟩

/-- A text as messages show it. -/
def quoted (text : String) : String := "`" ++ text ++ "`"

/-- Whether the token is a given punctuator. -/
def atMark (text : String) : Parser Bool := return (← token).isMark text

/-- Whether the token is a given word. -/
def atWord (text : String) : Parser Bool := return (← token).isWord text

/-- Whether the token starts on another line than the one before. -/
def onNewLine : Parser Bool := return (← get).onNewLine

/-- What the surroundings allow. -/
def setting : Parser Setting := return (← get).setting

/-- Moves over a given punctuator, if it is there. -/
def eat (text : String) : Parser Bool := do
  if ← atMark text then next; return true
  else return false

/-- Moves over a given word, if it is there. -/
def eatWord (text : String) : Parser Bool := do
  if ← atWord text then next; return true
  else return false

/-- Moves over a given punctuator. -/
def expect (text : String) : Parser Unit := do
  if ← atMark text then next else needed (quoted text)

/-- Moves over a given word. -/
def expectWord (text : String) : Parser Unit := do
  if ← atWord text then next else needed (quoted text)

/-- Whether a statement may end before the token. -/
def mayEnd : Parser Bool := do
  let t ← token
  return t.isMark ";" || t.isMark "\x7d" || t == .eof || (← onNewLine)

/-- Moves over the end of a statement, which may be left out before a line break, a closing brace
and the end of the text. -/
def statementEnd : Parser Unit := do
  if ← mayEnd then discard (eat ";")
  else
    fail "Expected a semicolon or an implicit semicolon after a statement, but found none"

/-- A word that is a keyword here. -/
def keyword : Parser String := do
  match (← token).word? with
  | some text => next; return text
  | none => unexpected

/-- Any word. -/
def anyWord : Parser String := do
  match (← token).word? with
  | some text => skip; return text
  | none => unexpected

/-- Notes a name if it starts with an underscore. -/
def markName (text : String) : Parser Unit :=
  modify fun c => if text.startsWith "_" then { c with marked := text :: c.marked } else c

/-- Notes a name, and that a word is none where values are awaited or given on the way. -/
def checkName (text : String) : Parser Unit := do
  markName text
  if text == "await" && (← setting).inAsync then
    report "Cannot use `await` as an identifier in an async context"
  if text == "yield" && (← setting).inGenerator then
    report "Cannot use `yield` as an identifier in a generator context"

/-- A name. -/
def name : Parser String := do
  match (← token).name? with
  | some text =>
    checkName text
    skip
    return text
  | none => unexpected

/-- A name that something is given. -/
def newName : Parser String := do
  match ← token with
  | .word text =>
    if isReserved text then
      fail ("Identifier expected. '" ++ text ++ "' is a reserved word that cannot be used here.")
    else
      checkName text
      skip
      return text
  | _ => unexpected

/-! ### Taking back -/

/-- The result of a rule, or nothing and the cursor where it was if the rule fails. -/
def attempt {α : Type} (p : Parser α) : Parser (Option α) := fun c =>
  match p c with
  | .ok (a, c) => .ok (some a, c)
  | .error _ => .ok (none, c)

/-- The result of a rule, with the cursor where it was. -/
def lookAhead {α : Type} (otherwise : α) (p : Parser α) : Parser α := fun c =>
  match p c with
  | .ok (a, _) => .ok (a, c)
  | .error _ => .ok (otherwise, c)

/-- The token after the one at the cursor, and whether it starts on another line. -/
def nextToken : Parser (Token × Bool) := return ((← get).next.token, (← get).next.onNewLine)

/-- A rule whose failures are changed. -/
def refusing {α : Type} (change : Refusal → Refusal) (p : Parser α) : Parser α := fun c =>
  match p c with
  | .ok result => .ok result
  | .error r => .error (change r)

/-- A rule for what is in brackets. -/
def enclosed {α : Type} (p : Parser α) : Parser α := refusing Refusal.enclosed p

/-- A rule in other surroundings. -/
def within {α : Type} (change : Setting → Setting) (p : Parser α) : Parser α := fun c =>
  match p { c with setting := change c.setting } with
  | .ok (a, d) => .ok (a, { d with setting := c.setting })
  | .error e => .error e

/-! ### Repetition -/

/-- The results of a rule as long as there is one. The first argument bounds their number. -/
def repeated {α : Type} (p : Parser (Option α)) : Nat → Parser (List α)
  | 0 => return []
  | fuel + 1 => do
    match ← p with
    | none => return []
    | some a => return a :: (← repeated p fuel)

/-- A value changed by a rule as long as the rule has another one. The second argument bounds the
number of changes. -/
def iterated {α : Type} (p : α → Parser (Option α)) : Nat → α → Parser α
  | 0, a => return a
  | fuel + 1, a => do
    match ← p a with
    | none => return a
    | some a => iterated p fuel a

/-- Whether a list ends at a token, at the latest at the end of the text. -/
def endsList (close : String) : Token → Bool
  | .mark text => text = close
  | .eof => true
  | .fault _ => true
  | _ => false

/-- The elements of a list after the first, each after a comma, up to a closing bracket. -/
def separatedRest {α : Type} (close : String) (item : Parser α) : Nat → Parser (List α)
  | 0 => return []
  | fuel + 1 => do
    if endsList close (← token) then return []
    if !(← eat ",") then needed (quoted "," ++ " or " ++ quoted close)
    if ← atMark close then return []
    let a ← item
    return a :: (← separatedRest close item fuel)

/-- The elements of a list, with commas between them and perhaps after them, up to but without a
closing bracket. The first argument bounds their number. -/
def separated {α : Type} (fuel : Nat) (close : String) (item : Parser α) : Parser (List α) := do
  if endsList close (← token) then return []
  let a ← item
  return a :: (← separatedRest close item fuel)

/-! ### Tokens that depend on the grammar -/

/-- The longest punctuator that starts with `>` at the cursor, which then stands at it. -/
def joinAngle : Parser Token := do
  let c ← get
  if c.token.isMark ">" then
    match markAfterAngle c.text with
    | some (m, rest) =>
      set { c with token := .mark m, rest }
      return .mark m
    | none => return c.token
  else return c.token

/-- Splits a punctuator that starts with `<`, so that the cursor stands at the single sign. -/
def splitAngle : Parser Unit := do
  let c ← get
  match c.token, c.text with
  | .mark _, '<' :: rest => set { c with token := .mark "<", rest }
  | _, _ => return ()

/-- The stretch of a template after a substitution, whose closing brace the cursor stands at. -/
def templateRest : Parser (String × Bool) := do
  let c ← get
  if !c.token.isMark "\x7d" then needed (quoted "\x7d")
  let c := c.standing c.rest (scanTemplate c.rest)
  set c
  match c.token with
  | .template raw closed => next; return (raw, closed)
  | _ => unexpected

end Parser

end LivePreview.Script
