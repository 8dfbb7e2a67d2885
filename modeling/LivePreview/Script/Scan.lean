import LivePreview.Script.Token
import LivePreview.Text.Blank
import LivePreview.Text.Identifier

/-!
# Scanning

The gap before a token, and the token at the start of a text. A sign that starts several
punctuators is read as the longest of them, but `>` always alone: the places where it continues
another punctuator ask for that themselves, and so do the places where a slash starts a regular
expression, a brace continues a template, or text and names follow the rules of markup.

## Main definitions

* `LivePreview.Script.gap`: the blanks and comments before a token.
* `LivePreview.Script.scan`: the token at the start of a text.
* `LivePreview.Script.scanTemplate`, `scanRegex`, `markAfterAngle`: tokens read on demand.
* `LivePreview.Script.templateValue?`: what a stretch of a template stands for.
-/

namespace LivePreview.Script

/-! ### Classes of characters -/

/-- A character that ends a line. -/
def isLineEnd (c : Char) : Bool := c == '\n' || c == '\r' || c.toNat == 0x2028 || c.toNat == 0x2029

/-- A blank character of a script. -/
def isGap (c : Char) : Bool := Text.isBlank c || c.toNat == 0xFEFF || c.toNat == 0x200B

/-- A character that starts a name. -/
def startsName (c : Char) : Bool := Text.startsIdentifier c

/-- A character that continues a name. -/
def continuesName (c : Char) : Bool := Text.continuesIdentifier c

/-! ### Gaps -/

/-- What a gap holds so far. -/
structure Gap where
  /-- The comments that may belong to the next token, the latest first. -/
  pending : List Comment
  /-- All comments, the latest first. -/
  all : List Comment
  /-- Whether a line break was met outside of comments. -/
  broken : Bool
  /-- Whether the next token starts on another line. -/
  onNewLine : Bool

namespace Gap

/-- A gap that holds nothing yet. -/
def start (broken : Bool) : Gap := ⟨[], [], broken, false⟩

/-- A line break. Comments on the line of the token before belong to that token. -/
def lineBreak (g : Gap) : Gap :=
  let pending := match g.pending with
    | [] => []
    | last :: earlier => if g.broken then { last with beforeBreak := true } :: earlier else []
  { g with pending, broken := true, onNewLine := true }

/-- A comment up to the end of its line. One on the line of the token before belongs to that token,
unless the token opens something that the comment is about. -/
def lineComment (g : Gap) (afterOpening : Bool) (reversed : List Char) : Gap :=
  let comment : Comment := ⟨String.ofList reversed.reverse, true, g.broken, true⟩
  let pending := if g.broken || afterOpening then comment :: g.pending else []
  ⟨pending, comment :: g.all, true, true⟩

/-- A comment between delimiters. -/
def blockComment (g : Gap) (reversed : List Char) : Gap :=
  let comment : Comment := ⟨String.ofList reversed.reverse, false, g.broken, false⟩
  { g with
    pending := comment :: g.pending
    all := comment :: g.all
    onNewLine := g.onNewLine || reversed.any isLineEnd }

/-- The comments that belong to the next token, without those that are marks for calls. -/
def comments (g : Gap) : List Comment :=
  g.pending.reverse.filter fun c => !c.marksPure && !c.marksPureFunction

end Gap

/-- Where in a gap the reading stands; comments are kept with the latest character first. -/
inductive GapMode
  /-- Between comments. -/
  | blank
  /-- In a comment up to the end of its line. -/
  | line (reversed : List Char)
  /-- In a comment between delimiters. -/
  | block (reversed : List Char)

/-- Reads a gap. Returns its contents, the text after it, and whether it ends in an unclosed
comment. -/
def gap (afterOpening : Bool) : GapMode → Gap → List Char → Gap × List Char × Bool
  | .blank, g, '/' :: '/' :: s => gap afterOpening (.line ['/', '/']) g s
  | .blank, g, '/' :: '*' :: s => gap afterOpening (.block ['*', '/']) g s
  | .blank, g, c :: s =>
    if isLineEnd c then gap afterOpening .blank g.lineBreak s
    else if isGap c then gap afterOpening .blank g s
    else (g, c :: s, false)
  | .blank, g, [] => (g, [], false)
  | .line r, g, c :: s =>
    if isLineEnd c then gap afterOpening .blank (g.lineComment afterOpening r) s
    else gap afterOpening (.line (c :: r)) g s
  | .line r, g, [] => (g.lineComment afterOpening r, [], false)
  | .block r, g, '*' :: '/' :: s => gap afterOpening .blank (g.blockComment ('/' :: '*' :: r)) s
  | .block r, g, c :: s => gap afterOpening (.block (c :: r)) g s
  | .block _, g, [] => (g, [], true)

/-! ### Strings -/

/-- A token, the text after it, and what is wrong with it although it can be used. -/
structure Scanned where
  /-- The token. -/
  token : Token
  /-- The text after it. -/
  rest : List Char
  /-- What is wrong with it. -/
  faults : List String

/-- A token that nothing is wrong with. -/
def Scanned.fine (token : Token) (rest : List Char) : Scanned := ⟨token, rest, []⟩

/-- Text that is no token. -/
def Scanned.bad (message : String) (rest : List Char) : Scanned :=
  ⟨.fault message, rest, [message]⟩

/-- The value of a hexadecimal digit. -/
def hexDigit? (c : Char) : Option Nat :=
  if c.isDigit then some (c.toNat - '0'.toNat)
  else if 'a' ≤ c && c ≤ 'f' then some (c.toNat - 'a'.toNat + 10)
  else if 'A' ≤ c && c ≤ 'F' then some (c.toNat - 'A'.toNat + 10)
  else none

/-- The number that hexadecimal digits stand for, `none` if there is no digit or something else. -/
def hexValue? (s : List Char) : Option Nat :=
  if s.isEmpty then none
  else s.foldlM (fun n c => (hexDigit? c).map fun d => 16 * n + d) 0

/-- The number that a given count of hexadecimal digits stands for. -/
def hexDigits? (count : Nat) (s : List Char) : Option Nat :=
  if (s.take count).length < count then none else hexValue? (s.take count)

/-- The number that digits stand for in a base; other characters count for nothing. -/
def digitsValue (base : Nat) (s : List Char) : Nat :=
  s.foldl (fun n c => match hexDigit? c with
    | some d => base * n + d
    | none => n) 0

/-- The text of a string literal after its opening quote, up to the closing one, and the rest. -/
def untilQuote (quote : Char) : List Char → List Char → Option (List Char × List Char)
  | _, [] => none
  | r, '\\' :: '\r' :: '\n' :: s => untilQuote quote ('\n' :: '\r' :: '\\' :: r) s
  | r, '\\' :: c :: s => untilQuote quote (c :: '\\' :: r) s
  | r, c :: s =>
    if c = quote then some (r.reverse, s)
    else if c = '\n' || c = '\r' then none
    else untilQuote quote (c :: r) s

/-- The character of a single-letter escape. -/
def letterEscape (c : Char) : Char :=
  match c with
  | 'n' => '\n'
  | 't' => '\t'
  | 'r' => '\r'
  | 'b' => Char.ofNat 8
  | 'v' => Char.ofNat 11
  | 'f' => Char.ofNat 12
  | c => c

/-- The number of an escape by number, and the text after it. The text given is that after the
letter `u`. -/
def codeEscape? (s : List Char) : Option (Nat × List Char) :=
  match s with
  | '{' :: s =>
    match hexValue? (s.takeWhile (· ≠ '}')), s.dropWhile (· ≠ '}') with
    | some n, '}' :: rest => if n ≤ 0x10FFFF then some (n, rest) else none
    | _, _ => none
  | s => (hexDigits? 4 s).map fun n => (n, s.drop 4)

/-- The part of a string with a number. -/
def unitOf (n : Nat) : StringUnit :=
  if 0xD800 ≤ n && n < 0xE000 then .half n else .char (Char.ofNat n)

/-- The character whose halves are the given numbers, if they are halves of one. -/
def pair? (high low : Nat) : Option Char :=
  if 0xD800 ≤ high && high < 0xDC00 && 0xDC00 ≤ low && low < 0xE000 then
    some (Char.ofNat (0x10000 + (high - 0xD800) * 0x400 + (low - 0xDC00)))
  else none

/-- The part of a string that an escape by number stands for, and the text after it. The text given
is that after the letter `u`. Two escapes may stand for the halves of one character; after the first
half a second one must have four digits. -/
def unicodeEscape? (s : List Char) : Option (StringUnit × List Char) := do
  let (n, rest) ← codeEscape? s
  match s, rest with
  | '{' :: _, _ => return (unitOf n, rest)
  | _, '\\' :: 'u' :: t =>
    if 0xD800 ≤ n && n < 0xDC00 then
      match pair? n (← hexDigits? 4 t) with
      | some c => return (.char c, t.drop 4)
      | none => return (unitOf n, rest)
    else return (unitOf n, rest)
  | _, _ => return (unitOf n, rest)

/-- The number of an escape by octal digits, at most three and below 256, and the text after it. -/
def octalEscape (first : Char) (s : List Char) : Nat × List Char :=
  let more := (s.take (if first ≤ '3' then 2 else 1)).takeWhile fun c => '0' ≤ c && c ≤ '7'
  (digitsValue 8 (first :: more), s.drop more.length)

/-- What an escape stands for, and the text after it; nothing if it is not well formed. The text
given is that after the backslash. A line break stands for nothing. In a template there are no
escapes by octal digits. -/
def escape? (inTemplate : Bool) (c : Char) (s : List Char) : Option (List StringUnit × List Char) :=
  match c with
  | 'x' => (hexDigits? 2 s).map fun n => ([.char (Char.ofNat n)], s.drop 2)
  | 'u' => (unicodeEscape? s).map fun (u, rest) => ([u], rest)
  | '\r' => some ([], if s.head? = some '\n' then s.drop 1 else s)
  | c =>
    if isLineEnd c then some ([], s)
    else if c.isDigit then
      if c = '0' && !s.head?.any Char.isDigit then some ([.char (Char.ofNat 0)], s)
      else if inTemplate then none
      else if '8' ≤ c then some ([.char c], s)
      else some ([.char (Char.ofNat (octalEscape c s).1)], (octalEscape c s).2)
    else some ([.char (letterEscape c)], s)

/-- What the text of a literal stands for, nothing if an escape is not well formed. The second
argument bounds the length of the text. -/
def unescape? (inTemplate : Bool) : Nat → List Char → Option (List StringUnit)
  | 0, _ => some []
  | _, [] => some []
  | fuel + 1, '\\' :: c :: s => do
    let (units, rest) ← escape? inTemplate c s
    return units ++ (← unescape? inTemplate fuel rest)
  | fuel + 1, c :: s => return .char c :: (← unescape? inTemplate fuel s)

/-- A string literal after its opening quote. -/
def scanString (quote : Char) (s : List Char) : Scanned :=
  match untilQuote quote [] s with
  | none => .bad "Unterminated string" []
  | some (raw, rest) =>
    match unescape? false raw.length raw with
    | some units => .fine (.string (.ofUnits units)) rest
    | none => ⟨.string (.ofText ""), rest, ["Invalid escape sequence"]⟩

/-! ### Templates -/

/-- The next stretch of a template: its text, whether the template ends after it, and the rest. -/
def templateStretch : List Char → List Char → Option (List Char × Bool × List Char)
  | _, [] => none
  | r, '\\' :: c :: s => templateStretch (c :: '\\' :: r) s
  | r, '$' :: '{' :: s => some (r.reverse, false, s)
  | r, c :: s =>
    if c = Char.ofNat 0x60 then some (r.reverse, true, s) else templateStretch (c :: r) s

/-- Text in which every line break is a single character. -/
def withPlainBreaks : List Char → List Char
  | [] => []
  | '\r' :: '\n' :: s => '\n' :: withPlainBreaks s
  | c :: s => (if c = '\r' then '\n' else c) :: withPlainBreaks s

/-- A stretch of a template, from after its opening sign or after a substitution. -/
def scanTemplate (s : List Char) : Scanned :=
  match templateStretch [] s with
  | none => .bad "Unterminated string" []
  | some (raw, closed, rest) =>
    .fine (.template (String.ofList (withPlainBreaks raw)) closed) rest

/-- What a stretch of a template stands for, nothing if an escape is not well formed. -/
def templateValue? (raw : String) : Option String :=
  (unescape? true raw.length raw.toList).map fun units => (StringValue.ofUnits units).text

/-! ### Names -/

/-- A name with escapes, and the text after it; nothing if an escape is not well formed or stands
for a character that has no place there. The first argument bounds the length of the text. -/
def escapedName? : Nat → (Char → Bool) → List Char → Option (List Char × List Char)
  | 0, _, s => some ([], s)
  | fuel + 1, admits, '\\' :: 'u' :: s => do
    let (n, rest) ← codeEscape? s
    let c := Char.ofNat n
    if admits c then
      let (name, rest) ← escapedName? fuel continuesName rest
      return (c :: name, rest)
    else none
  | fuel + 1, admits, c :: s => do
    if admits c then
      let (name, rest) ← escapedName? fuel continuesName s
      return (c :: name, rest)
    else if c = '\\' then none
    else return ([], c :: s)
  | _, _, [] => some ([], [])

/-- The token of a name. -/
def scanName (token : String → Token) (s : List Char) : Scanned :=
  let rest := s.dropWhile continuesName
  if rest.head? = some '\\' then
    match escapedName? s.length startsName s with
    | some (name, rest) => .fine (token (String.ofList name)) rest
    | none => .bad "Invalid Unicode escape sequence" (rest.drop 1)
  else .fine (token (String.ofList (s.takeWhile continuesName))) rest

/-! ### Numbers -/

/-- The message about a character that has no place where it is, or about the end of the text. -/
def strayCharacter : List Char → String
  | [] => "Unexpected end of file"
  | c :: _ => "Invalid Character `" ++ String.ofList [c] ++ "`"

/-- Digits, and what follows them. -/
structure Digits where
  /-- The digits without separators. -/
  digits : List Char
  /-- The text after them. -/
  rest : List Char
  /-- What is wrong with them. -/
  faults : List String

/-- Digits after another one, with separators between them. -/
def moreDigits (isDigit : Char → Bool) : List Char → Digits
  | [] => ⟨[], [], []⟩
  | '_' :: c :: s =>
    if isDigit c then
      let more := moreDigits isDigit s
      { more with digits := c :: more.digits }
    else ⟨[], c :: s, [strayCharacter (c :: s)]⟩
  | c :: s =>
    if isDigit c then
      let more := moreDigits isDigit s
      { more with digits := c :: more.digits }
    else if c = '_' then ⟨[], s, [strayCharacter s]⟩
    else ⟨[], c :: s, []⟩

/-- Digits, at least one. -/
def someDigits (isDigit : Char → Bool) (s : List Char) : Digits :=
  if s.head?.any isDigit then moreDigits isDigit s else ⟨[], s, [strayCharacter s]⟩

/-- How many digits of an integer are read without rounding on the way. -/
def exactDigits (base : Nat) : Nat :=
  match base with
  | 2 => 64
  | 8 => 21
  | 10 => 19
  | _ => 16

/-- The value of an integer. Of one with many digits every digit is added to the rounded value of
those before it. -/
def integerValue (base : Nat) (digits : List Char) : Binary64 :=
  if digits.length ≤ exactDigits base then .ofNat (digitsValue base digits)
  else digits.foldl (fun value c => value.timesPlus base ((hexDigit? c).getD 0)) (.zero false)

/-- A number, unless a name or a digit follows it at once. -/
def checkedNumber (token : Token) (rest : List Char) (faults : List String) : Scanned :=
  if rest.head?.any fun c => startsName c || c.isDigit then
    let message := "Invalid characters after number"
    ⟨.fault message, rest.dropWhile continuesName, faults ++ [message]⟩
  else ⟨token, rest, faults⟩

/-- A number in a base that is not ten, after the sign of the base. -/
def scanInBase (base : Nat) (style : String) (s : List Char) : Scanned :=
  let found := someDigits (fun c => (hexDigit? c).any (· < base)) s
  match found.faults, found.rest with
  | message :: _, rest => .bad message rest
  | [], 'n' :: rest =>
    checkedNumber (.bigint (toString (digitsValue base found.digits)) style) rest []
  | [], rest => checkedNumber (.number (integerValue base found.digits) style) rest []

/-- The exponent at the start of a text, if there is one, the text after it, and what is wrong
with it. -/
def scanExponent (s : List Char) : Option (Bool × Nat) × List Char × List String :=
  match s with
  | [] => (none, s, [])
  | c :: t =>
    if c = 'e' || c = 'E' then
      let (negative, t) : Bool × List Char := match t with
        | '-' :: t => (true, t)
        | '+' :: t => (false, t)
        | t => (false, t)
      let found := someDigits Char.isDigit t
      (some (negative, digitsValue 10 found.digits), found.rest, found.faults)
    else (none, s, [])

/-- A number in base ten after its point, if it has one. -/
def scanFraction (whole : Digits) (hasPoint : Bool) (s : List Char) : Scanned :=
  let fraction : Digits :=
    if hasPoint && s.head?.any Char.isDigit then moreDigits Char.isDigit s else ⟨[], s, []⟩
  let (exponent, rest, faults) := scanExponent fraction.rest
  let digits := whole.digits ++ fraction.digits
  let power : Int := match exponent with
    | some (true, n) => -n
    | some (false, n) => n
    | none => 0
  let style := match exponent with
    | some (true, _) => "negative exponential"
    | some (false, _) => "positive exponential"
    | none => if hasPoint then "float" else "decimal"
  let value :=
    if style == "decimal" then integerValue 10 digits
    else Binary64.ofDecimal digits.length (digitsValue 10 digits) (power - fraction.digits.length)
  checkedNumber (.number value style) rest (whole.faults ++ fraction.faults ++ faults)

/-- A number in base ten. -/
def scanDecimal (s : List Char) : Scanned :=
  let whole : Digits := if s.head? = some '.' then ⟨[], s, []⟩ else moreDigits Char.isDigit s
  match whole.rest with
  | 'n' :: rest =>
    checkedNumber (.bigint (toString (digitsValue 10 whole.digits)) "decimal") rest whole.faults
  | '.' :: rest => scanFraction whole true rest
  | rest => scanFraction whole false rest

/-- A number that starts with a zero and another digit: an octal one, unless a digit is too large
for that. -/
def scanAfterZero (s : List Char) : Scanned :=
  let digits := s.takeWhile Char.isDigit
  let rest := s.dropWhile Char.isDigit
  if digits.all (· < '8') then
    checkedNumber (.number (integerValue 8 digits) "octal") rest []
  else
    match rest with
    | '.' :: rest => scanFraction ⟨digits, rest, []⟩ true rest
    | 'e' :: _ => scanFraction ⟨digits, rest, []⟩ false rest
    | rest => checkedNumber (.number (integerValue 10 ('0' :: digits)) "decimal") rest []

/-- A number. -/
def scanNumber (s : List Char) : Scanned :=
  match s with
  | '0' :: c :: t =>
    if c = 'x' || c = 'X' then scanInBase 16 "hex" t
    else if c = 'o' || c = 'O' then scanInBase 8 "octal" t
    else if c = 'b' || c = 'B' then scanInBase 2 "binary" t
    else if c.isDigit then scanAfterZero (c :: t)
    else if c = '_' then checkedNumber (.number (.ofNat 0) "decimal") (c :: t) []
    else scanDecimal s
  | s => scanDecimal s

/-! ### Punctuators -/

/-- The punctuators of more than one character that do not start with `>`, longer ones first. -/
def longMarks : List (List Char) :=
  [['.', '.', '.'], ['=', '=', '='], ['!', '=', '='], ['*', '*', '='], ['<', '<', '='],
    ['&', '&', '='], ['|', '|', '='], ['?', '?', '='], ['=', '='], ['!', '='], ['=', '>'],
    ['+', '+'], ['-', '-'], ['*', '*'], ['<', '<'], ['<', '='], ['&', '&'], ['|', '|'],
    ['?', '?'], ['?', '.'], ['+', '='], ['-', '='], ['*', '='], ['/', '='], ['%', '='], ['&', '='],
    ['|', '='], ['^', '=']]

/-- The punctuators that continue `>`, longer ones first. -/
def angleMarks : List (List Char) :=
  [['>', '>', '>', '='], ['>', '>', '>'], ['>', '>', '='], ['>', '>'], ['>', '=']]

/-- The punctuators of one character. -/
def shortMarks : List Char :=
  ['(', ')', '[', ']', '{', '}', ';', ',', '<', '>', '+', '-', '*', '/', '%', '&', '|', '^', '!',
    '~', '?', ':', '=', '.', '@']

/-- The first of the punctuators that a text starts with, and the text after it. -/
def firstMark (marks : List (List Char)) (s : List Char) : Option (String × List Char) :=
  (marks.find? fun m => m.isPrefixOf s).map fun m => (String.ofList m, s.drop m.length)

/-- The longest punctuator at the start of a text. A question mark and a point before a digit are
two punctuators. -/
def scanMark (s : List Char) : Scanned :=
  match firstMark longMarks s with
  | some (m, rest) =>
    if m = "?." && rest.head?.any Char.isDigit then .fine (.mark "?") (s.drop 1)
    else .fine (.mark m) rest
  | none =>
    match s with
    | [] => .fine .eof []
    | c :: rest =>
      if shortMarks.contains c then .fine (.mark (String.ofList [c])) rest
      else .bad (strayCharacter s) rest

/-- The longest punctuator that starts with `>` at the start of a text, if it is longer than
that. -/
def markAfterAngle (s : List Char) : Option (String × List Char) := firstMark angleMarks s

/-! ### Tokens -/

/-- The token at the start of a text without a gap before it. -/
def scan (s : List Char) : Scanned :=
  match s with
  | [] => .fine .eof []
  | c :: t =>
    if startsName c || c = '\\' then scanName .word s
    else if c.isDigit || (c = '.' && t.head?.any Char.isDigit) then scanNumber s
    else if c = '"' || c = '\'' then scanString c t
    else if c = Char.ofNat 0x60 then scanTemplate t
    else if c = '#' then
      if t.head?.any fun c => startsName c || c = '\\' then scanName .privateName t
      else .bad (strayCharacter t) (t.drop 1)
    else scanMark s

/-- A backtick starts a template. -/
theorem scan_backtick (s : List Char) : scan ('`' :: s) = scanTemplate s := by
  rw [scan, if_neg (by decide +kernel), if_neg (by simp), if_neg (by decide), if_pos rfl]

/-- The body of a regular expression after its opening slash, and the text after the closing one.
A slash in a class of characters does not close it. -/
def regexBody : Bool → List Char → List Char → Option (List Char × List Char)
  | _, _, [] => none
  | inClass, r, '\\' :: c :: s =>
    if isLineEnd c then none else regexBody inClass (c :: '\\' :: r) s
  | inClass, r, c :: s =>
    if isLineEnd c then none
    else if c = '/' && !inClass then some (r.reverse, s)
    else regexBody (c = '[' || (inClass && c ≠ ']')) (c :: r) s

/-- The letters after a regular expression. -/
def regexFlags : List Char := ['d', 'g', 'i', 'm', 's', 'u', 'v', 'y']

/-- Whether a character is read as a flag of a regular expression, although it may be none. -/
def continuesFlags (c : Char) : Bool := c.isAlphanum || c == '_' || c == '$'

/-- What is wrong with the flags of a regular expression. -/
def flagFaults (seen : List Char) : List Char → List String
  | [] => []
  | c :: s =>
    let name := String.ofList [c]
    if !regexFlags.contains c then
      ("Unexpected flag " ++ name ++ " in regular expression literal") :: flagFaults seen s
    else if seen.contains c then
      ("Flag " ++ name ++ " is mentioned twice in regular expression literal") :: flagFaults seen s
    else flagFaults (c :: seen) s

/-- A regular expression with its flags in order, the text after it, and what is wrong with the
flags. The text given is that after its opening slash. -/
def scanRegex (s : List Char) : Option (String × List Char × List String) :=
  (regexBody false [] s).map fun (body, rest) =>
    let flags := rest.takeWhile continuesFlags
    (String.ofList ('/' :: body ++ '/' :: regexFlags.filter flags.contains),
      rest.dropWhile continuesFlags, flagFaults [] flags)

/-- The first line of a text that names what runs it, without its sign, and the text after it. -/
def scanHashbang (s : List Char) : Option (String × List Char) :=
  match s with
  | '#' :: '!' :: s =>
    some (String.ofList (s.takeWhile fun c => !isLineEnd c), s.dropWhile fun c => !isLineEnd c)
  | _ => none

end LivePreview.Script
