import LivePreview.Script.Binary64
import LivePreview.Text.Search

/-!
# Tokens of a script

A script is read as a sequence of tokens with gaps between them. Which token starts at a place may
depend on what is expected there; what a token shows of itself in a message does not.

## Main definitions

* `LivePreview.Script.StringValue`: the value of a string literal.
* `LivePreview.Script.Token`: a token.
* `LivePreview.Script.Token.found`: what a message calls a token.
* `LivePreview.Script.Comment`: a comment in a gap.
* `LivePreview.Script.isReserved`: the words that name nothing.
-/

namespace LivePreview.Script

/-! ### Strings -/

/-- A character of a string, or half of a surrogate pair without the other half. -/
inductive StringUnit
  /-- A character. -/
  | char (c : Char)
  /-- Half of a pair. -/
  | half (code : Nat)
  deriving DecidableEq, Repr

/-- The value of a string literal. Half of a surrogate pair is no character: in a text with such
halves the replacement character and four digits stand for each, and for each replacement
character. -/
structure StringValue where
  /-- The text. -/
  text : String
  /-- Whether there are halves of pairs in it. -/
  holdsHalves : Bool
  deriving DecidableEq, Repr

namespace StringValue

/-- The value that is a text. -/
def ofText (text : String) : StringValue := ⟨text, false⟩

/-- The replacement character with the digits of what it stands for. -/
def replaced (code : Nat) : List Char := Char.ofNat 0xFFFD :: Nat.toDigits 16 code

/-- The text of a part of a value with halves of pairs. -/
def spelled : StringUnit → List Char
  | .char c => if c = Char.ofNat 0xFFFD then replaced 0xFFFD else [c]
  | .half code => replaced code

/-- The character of a part, if it is one. -/
def char? : StringUnit → Option Char
  | .char c => some c
  | .half _ => none

/-- The value that consists of parts. -/
def ofUnits (units : List StringUnit) : StringValue :=
  match units.mapM char? with
  | some chars => ofText (String.ofList chars)
  | none => ⟨String.ofList (units.flatMap spelled), true⟩

theorem ofUnits_char (s : List Char) : ofUnits (s.map .char) = .ofText (String.ofList s) := by
  have hchars : (s.map StringUnit.char).mapM char? = some s := by
    induction s with
    | nil => rfl
    | cons c s ih => simp [char?, ih]
  rw [ofUnits, hchars]

end StringValue

/-! ### Tokens -/

/-- A token. -/
inductive Token
  /-- A name or a keyword. -/
  | word (text : String)
  /-- A name of a private member, without its sign. -/
  | privateName (text : String)
  /-- A punctuator. -/
  | mark (text : String)
  /-- A number, and what its notation is called. -/
  | number (value : Binary64) (style : String)
  /-- An integer without bounds, and what its notation is called. -/
  | bigint (digits style : String)
  /-- The value of a string literal. -/
  | string (value : StringValue)
  /-- A stretch of a template, up to its end or to a substitution. -/
  | template (raw : String) (closed : Bool)
  /-- Text that is no token, and why. -/
  | fault (message : String)
  /-- The end of the text. -/
  | eof
  deriving DecidableEq, Repr

/-- A comment in the gap before a token. -/
structure Comment where
  /-- The comment with its delimiters. -/
  text : String
  /-- Whether it ends with its line. -/
  isLine : Bool
  /-- Whether a line break precedes it in its gap. -/
  afterBreak : Bool
  /-- Whether a line break follows it. -/
  beforeBreak : Bool
  deriving DecidableEq, Repr

namespace Comment

/-- The text of a comment between its delimiters. -/
def inside (c : Comment) : List Char :=
  if c.isLine then c.text.toList.drop 2 else (c.text.toList.drop 2).dropLast.dropLast

/-- The text of a comment between its delimiters, without blanks at its start. -/
def content (c : Comment) : List Char := c.inside.dropWhile Char.isWhitespace

/-- Whether a comment has to be kept, because of a licence or because it says so. -/
def isLegal (c : Comment) : Bool :=
  c.inside.head? == some '!' || Text.occursIn "@license".toList c.inside ||
    Text.occursIn "@preserve".toList c.inside

/-- Whether a comment is one of the marks that start with given words. -/
def isMark (c : Comment) (words : String) : Bool :=
  match c.content with
  | sign :: rest => (sign == '@' || sign == '#') && words.toList.isPrefixOf rest
  | [] => false

/-- Whether a comment says that a call can be left out if its value is not used. -/
def marksPure (c : Comment) : Bool := c.isMark "__PURE__"

/-- Whether a comment says that calls of a function can be left out if their values are not used. -/
def marksPureFunction (c : Comment) : Bool := c.isMark "__NO_SIDE_EFFECTS__"

end Comment

/-! ### Words -/

/-- The words that are never names. -/
def reservedWords : List String :=
  ["break", "case", "catch", "class", "const", "continue", "debugger", "default", "delete",
    "do", "else", "enum", "export", "extends", "false", "finally", "for", "function", "if",
    "import", "in", "instanceof", "new", "null", "return", "super", "switch", "this", "throw",
    "true", "try", "typeof", "var", "void", "while", "with"]

/-- The words that are keywords in some places and names in the others. -/
def contextualWords : List String :=
  ["abstract", "accessor", "any", "as", "assert", "asserts", "async", "await", "bigint", "boolean",
    "constructor", "declare", "defer", "from", "get", "global", "implements", "infer", "interface",
    "intrinsic", "is", "keyof", "let", "meta", "module", "namespace", "never", "number", "object",
    "of", "out", "override", "package", "private", "protected", "public", "readonly", "require",
    "satisfies", "set", "source", "static", "string", "symbol", "target", "type", "undefined",
    "unique", "unknown", "using", "yield"]

/-- The words that are not names where a program is strict. -/
def strictWords : List String :=
  ["implements", "interface", "let", "package", "private", "protected", "public", "static", "yield"]

/-- Whether a word is never a name. -/
def isReserved (word : String) : Bool := reservedWords.contains word

/-- Whether a word is a keyword in some place. -/
def isKeyword (word : String) : Bool := isReserved word || contextualWords.contains word

namespace Token

/-- What a message calls a token. -/
def found : Token → String
  | word text => if isKeyword text then text else "Identifier"
  | privateName _ => "PrivateIdentifier"
  | mark text => text
  | number _ style => style
  | bigint _ style => style
  | string _ => "string"
  | template _ true => "NoSubstitutionTemplate"
  | template _ false => "TemplateHead"
  | fault _ => "Unknown"
  | eof => "EOF"

/-- Whether the token is a given punctuator. -/
def isMark (t : Token) (text : String) : Bool := t == .mark text

/-- Whether the token is a given word. -/
def isWord (t : Token) (text : String) : Bool := t == .word text

/-- A name or keyword. -/
def word? : Token → Option String
  | word text => some text
  | _ => none

/-- A word that is not reserved. -/
def name? : Token → Option String
  | word text => if isReserved text then none else some text
  | _ => none

/-- Whether the token is a word that is not reserved. -/
def isName (t : Token) : Bool := t.name?.isSome

end Token

end LivePreview.Script
