import LivePreview.Script.Markup.Entities
import LivePreview.Script.Scan

/-!
# Text in markup

The text between the tags of markup stands for a string: characters may be written by name or
number, a line break and the blanks around it count as one space, and lines that hold nothing else
do not count.

## Main definitions

* `LivePreview.Script.decodeCharacters`: text with its named and numbered characters.
* `LivePreview.Script.markupText?`: the string that text between tags stands for.
* `LivePreview.Script.scanMarkup`: the token that follows a tag.
* `LivePreview.Script.scanAttribute`: the token that starts the value of an attribute.
* `LivePreview.Script.markupName`: a name in a tag.
-/

namespace LivePreview.Script

/-! ### Characters -/

/-- The character with a number, if there is one. -/
def charOf? (n : Nat) : Option Char :=
  if n < 0xD800 || (0xE000 ≤ n && n < 0x110000) then some (Char.ofNat n) else none

/-- Digits without the sign before them, if there is one. -/
def unsignedDigits : List Char → List Char
  | '+' :: digits => digits
  | digits => digits

/-- The character that a name or number stands for, if it does for any. -/
def namedChar? (word : List Char) : Option Char :=
  match word with
  | '#' :: 'x' :: digits => (hexValue? (unsignedDigits digits)).bind charOf?
  | '#' :: digits =>
    let digits := unsignedDigits digits
    if !digits.isEmpty && digits.all Char.isDigit then charOf? (digitsValue 10 digits) else none
  | name =>
    ((namedCharacters.find? fun (text, _) => text.toList = name).map Prod.snd).bind charOf?

/-- Whether a character continues the name or number after an ampersand. -/
def continuesEntity (c : Char) : Bool := c != ';' && c != '&'

/-- Text with its named and numbered characters. The first argument bounds the length of the
text. -/
def decodeFrom : Nat → List Char → List Char
  | 0, s => s
  | _, [] => []
  | fuel + 1, '&' :: s =>
    match s.dropWhile continuesEntity with
    | ';' :: rest =>
      match namedChar? (s.takeWhile continuesEntity) with
      | some c => c :: decodeFrom fuel rest
      | none => '&' :: s.takeWhile continuesEntity ++ ';' :: decodeFrom fuel rest
    | _ => '&' :: decodeFrom fuel s
  | fuel + 1, c :: s => c :: decodeFrom fuel s

/-- Text with its named and numbered characters. -/
def decodeCharacters (s : List Char) : List Char := decodeFrom s.length s

/-! ### Lines -/

/-- The lines of a text, without what ends them. -/
def linesOf : List Char → List (List Char)
  | [] => [[]]
  | c :: s =>
    if isLineEnd c then [] :: linesOf s
    else
      match linesOf s with
      | [] => [[c]]
      | line :: lines => (c :: line) :: lines

/-- A line without the blanks at its end. -/
def trimLineEnd (line : List Char) : List Char := (line.reverse.dropWhile isGap).reverse

/-- The lines after the first, without their outer blanks, as far as they hold anything. The last
one keeps the blanks at its end. -/
def laterLines : List (List Char) → List (List Char)
  | [] => []
  | [last] => if last.all isGap then [] else [last.dropWhile isGap]
  | line :: lines =>
    let line := trimLineEnd (line.dropWhile isGap)
    if line.isEmpty then laterLines lines else line :: laterLines lines

/-- The lines that count. The first keeps the blanks at its start, and the only one keeps all. -/
def countedLines : List (List Char) → List (List Char)
  | [] => []
  | [only] => [only]
  | first :: lines =>
    let line := trimLineEnd first
    if line.isEmpty then laterLines lines else line :: laterLines lines

/-- The string that text between tags stands for, nothing if none of its lines count. -/
def markupText? (s : List Char) : Option String :=
  match countedLines (linesOf s) with
  | [] => none
  | lines => some (String.ofList ([' '].intercalate (lines.map decodeCharacters)))

/-! ### Tokens -/

/-- What follows a tag: the sign of a tag or of a value, or text. -/
inductive MarkupToken
  /-- The start of a tag. -/
  | tag
  /-- The start of a value. -/
  | value
  /-- Text. -/
  | text (raw : List Char)
  /-- A sign that has no place in text. -/
  | stray
  /-- The end. -/
  | eof

/-- Whether a character can stand in text between tags. -/
def isMarkupText (c : Char) : Bool := c != '<' && c != '{' && c != '>' && c != '}'

/-- What follows a tag, and the text after it. -/
def scanMarkup (s : List Char) : MarkupToken × List Char :=
  match s with
  | [] => (.eof, [])
  | '<' :: rest => (.tag, rest)
  | '{' :: rest => (.value, rest)
  | c :: _ =>
    if isMarkupText c then (.text (s.takeWhile isMarkupText), s.dropWhile isMarkupText)
    else (.stray, s)

/-- Whether a character continues a name in a tag. -/
def continuesMarkupName (c : Char) : Bool := continuesName c || c == '-'

/-- The name at the start of a text, and the text after it. -/
def markupName (s : List Char) : String × List Char :=
  (String.ofList (s.takeWhile continuesMarkupName), s.dropWhile continuesMarkupName)

/-- The text of an attribute after its opening quote. A backslash has no meaning in it. -/
def scanAttributeText (quote : Char) (s : List Char) : Scanned :=
  match s.dropWhile (· ≠ quote) with
  | [] => .bad "Unterminated string" []
  | _ :: rest =>
    let text := String.ofList (decodeCharacters (s.takeWhile (· ≠ quote)))
    .fine (.string (.ofText text)) rest

/-- The token that starts the value of an attribute. -/
def scanAttribute (s : List Char) : Scanned :=
  match s with
  | '"' :: t => scanAttributeText '"' t
  | '\'' :: t => scanAttributeText '\'' t
  | s => scan s

/-- Whether the name of a tag stands for an element by that name: it starts with a small letter or
holds a dash. -/
def isElementName (name : String) : Bool :=
  match name.toList with
  | [] => false
  | c :: s => ('a' ≤ c && c ≤ 'z') || s.contains '-'

end LivePreview.Script
