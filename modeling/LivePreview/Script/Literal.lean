import LivePreview.Script.Scan

/-!
# Written literals

How strings, templates and directives are written. Text that would end a script element of a page
is written with an escaped slash wherever it occurs.

## Main definitions

* `LivePreview.Script.stringText`: a string in double quotes.
* `LivePreview.Script.directiveText`: a directive in quotes that it does not hold.
* `LivePreview.Script.escapeScriptEnd`: text without the end of a script element.
-/

namespace LivePreview.Script

/-- The small letter of an ASCII letter. -/
def smallLetter (c : Char) : Char :=
  if 'A' ≤ c && c ≤ 'Z' then Char.ofNat (c.toNat + 32) else c

/-- Whether a text goes on with the name of the script element. -/
def startsWithScript (s : List Char) : Bool :=
  (s.take 6).map smallLetter == ['s', 'c', 'r', 'i', 'p', 't']

/-- Text in which the slash of the closing tag of a script element is escaped. -/
def escapeScriptEnd : List Char → List Char
  | [] => []
  | '<' :: '/' :: s =>
    if startsWithScript s then '<' :: '\\' :: '/' :: escapeScriptEnd s
    else '<' :: '/' :: escapeScriptEnd s
  | c :: s => c :: escapeScriptEnd s

/-- How a character of a string is written between double quotes. The second character is the one
that follows. -/
def escapedChar (c : Char) (next : Option Char) : List Char :=
  match c.toNat with
  | 0 => if next.any Char.isDigit then ['\\', 'x', '0', '0'] else ['\\', '0']
  | 7 => ['\\', 'x', '0', '7']
  | 8 => ['\\', 'b']
  | 10 => ['\\', 'n']
  | 11 => ['\\', 'v']
  | 12 => ['\\', 'f']
  | 13 => ['\\', 'r']
  | 0x1B => ['\\', 'x', '1', 'B']
  | 0x22 => ['\\', '"']
  | 0x5C => ['\\', '\\']
  | 0xA0 => ['\\', 'x', 'A', '0']
  | 0x2028 => ['\\', 'u', '2', '0', '2', '8']
  | 0x2029 => ['\\', 'u', '2', '0', '2', '9']
  | _ => [c]

/-- The characters of a string between double quotes. -/
def escapedChars : List Char → List Char
  | [] => []
  | c :: s => escapedChar c s.head? ++ escapedChars s

/-- The characters of a string with halves of surrogate pairs, between double quotes. -/
def escapedHalves : List Char → List Char
  | [] => []
  | c :: u :: v :: w :: x :: s =>
    if c = Char.ofNat 0xFFFD then
      (if [u, v, w, x] = ['f', 'f', 'f', 'd'] then [c] else ['\\', 'u', u, v, w, x]) ++
        escapedHalves s
    else escapedChar c (some u) ++ escapedHalves (u :: v :: w :: x :: s)
  | c :: s => escapedChar c s.head? ++ escapedHalves s

/-- A string in double quotes. -/
def stringText (value : StringValue) : String :=
  let s := value.text.toList
  let escaped := if value.holdsHalves then escapedHalves s else escapedChars s
  String.ofList ('"' :: escapeScriptEnd escaped ++ ['"'])

/-- Whether a text holds a double quote that is not escaped. -/
def holdsQuote : List Char → Bool
  | [] => false
  | '\\' :: _ :: s => holdsQuote s
  | c :: s => c == '"' || holdsQuote s

/-- A directive, in single quotes only if it holds a double one. -/
def directiveText (raw : String) : String :=
  let quote := if holdsQuote raw.toList then "'" else "\""
  quote ++ raw ++ quote

/-- Text of a template or a comment. -/
def verbatim (raw : String) : String := String.ofList (escapeScriptEnd raw.toList)

end LivePreview.Script
