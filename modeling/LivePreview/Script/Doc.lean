/-!
# Texts with lines

A text whose lines know how far they are indented. What should start a line may have to go on with
one: after the head of a statement, or after a comment. This is said where it becomes known, and
counts for the next start of a line, wherever in the text that is.

## Main definitions

* `LivePreview.Script.Doc`: a text with lines.
* `LivePreview.Script.Doc.toText`: the text as it is written.
-/

namespace LivePreview.Script

/-- A text with lines. -/
inductive Doc
  /-- Text. -/
  | text (s : String)
  /-- The start of a line, as many tabs as a number says. -/
  | margin (depth : Nat)
  /-- The start of a line, on a new one unless the text is at a start already. -/
  | fresh (depth : Nat)
  /-- What starts a line next goes on with this one after a space. -/
  | goOn
  /-- What starts a line next does not go on with this one. -/
  | stop
  /-- A space where the line should be gone on with. -/
  | settle
  /-- A text after another. -/
  | append (a b : Doc)

namespace Doc

instance : Coe String Doc := ⟨text⟩

instance : Append Doc := ⟨append⟩

/-! ### Writing -/

/-- What is written so far. -/
structure Page where
  /-- The text. -/
  text : String
  /-- Whether what starts a line next goes on with this one. -/
  goesOn : Bool

namespace Page

/-- The page with more text. -/
def put : Page → String → Page
  | ⟨text, goesOn⟩, s => ⟨text ++ s, goesOn⟩

/-- The page at the start of a line. -/
def indent (depth : Nat) : Page → Page
  | ⟨text, true⟩ => ⟨text ++ " ", false⟩
  | ⟨text, false⟩ => ⟨text ++ String.ofList (List.replicate depth '\t'), false⟩

/-- The last character. -/
def last? (p : Page) : Option Char := if p.text.isEmpty then none else some p.text.back

/-- The page at the start of a line of its own. -/
def freshLine (depth : Nat) (p : Page) : Page :=
  match p.last? with
  | none => p
  | some c =>
    if c = '\t' then p else if c = '\n' then p.indent depth else (p.put "\n").indent depth

end Page

/-- The page with a text after it. -/
def write : Doc → Page → Page
  | text s, p => p.put s
  | margin depth, p => p.indent depth
  | fresh depth, p => p.freshLine depth
  | goOn, p => { p with goesOn := true }
  | stop, p => { p with goesOn := false }
  | settle, p => if p.goesOn then { p.put " " with goesOn := false } else p
  | append a b, p => b.write (a.write p)

/-- The text as it is written. -/
def toText (d : Doc) : String := (d.write ⟨"", false⟩).text

/-- The text with more tabs before its lines. -/
def indented (more : Nat) : Doc → Doc
  | margin depth => margin (depth + more)
  | fresh depth => fresh (depth + more)
  | append a b => append (a.indented more) (b.indented more)
  | d => d

/-! ### Lists -/

/-- Texts one after the other. -/
def concat : List Doc → Doc
  | [] => ""
  | [d] => d
  | d :: l => d ++ concat l

/-- Texts with a separator between them. -/
def between (separator : Doc) : List Doc → Doc
  | [] => ""
  | [d] => d
  | d :: l => d ++ separator ++ between separator l

/-- Texts with commas between them. -/
def commas (l : List Doc) : Doc := between ", " l

/-- A text in parentheses, if they are needed. -/
def parens (needed : Bool) (d : Doc) : Doc := if needed then "(" ++ d ++ ")" else d

/-- Texts on lines of their own, between brackets. -/
def onLines (depth : Nat) (opening : String) (l : List Doc) (closing : String) : Doc :=
  opening ++ "\n" ++ margin (depth + 1) ++ between (",\n" ++ margin (depth + 1)) l ++ "\n" ++
    margin depth ++ closing

/-- Members in braces. More than one are on lines of their own. -/
def members (depth : Nat) : List Doc → Doc
  | [] => "\x7b\x7d"
  | [m] => "\x7b " ++ m ++ " \x7d"
  | l => onLines depth "\x7b" l "\x7d"

/-- Lines in braces. -/
def braced (depth : Nat) (isEmpty : Bool) (lines : Doc) : Doc :=
  if isEmpty then "\x7b\x7d" else "\x7b\n" ++ lines ++ margin depth ++ "\x7d"

end Doc

end LivePreview.Script
