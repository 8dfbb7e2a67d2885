import LivePreview.Script.Scan

/-!
# Grammars of modules

A script is divided into input elements with gaps between them, and it is a module if the elements
derive from the grammar of modules. Which element starts at a place hangs on what the grammar
expects there: a slash may start a regular expression, a closing brace may end a substitution in a
template, and a punctuator that starts with an angle bracket may be read in parts. A text can
therefore be divided in several ways, and is a module if one of them derives from the grammar. Of
the grammar itself it is only taken to be known that in a list of arguments it does not look at the
value of a string literal behind the first comma.

## Main definitions

* `LivePreview.Script.Lexes`: the input elements at the start of a text.
* `LivePreview.Script.Divides`: the ways to divide a text into input elements.
* `LivePreview.Script.Exchanged`: elements that are equal but for one string literal.
* `LivePreview.ModuleGrammar`: a grammar.
* `LivePreview.ModuleGrammar.Parses`: the texts that are modules.
-/

namespace LivePreview

namespace Script

/-! ### Input elements -/

/-- What an input element is read as. -/
inductive Lexeme
  /-- A token. -/
  | token (token : Token)
  /-- A regular expression. -/
  | regex (text : String)
  /-- A stretch of a template behind a substitution, and whether the template ends with it. -/
  | continuation (raw : String) (closed : Bool)
  deriving DecidableEq, Repr

/-- An input element. -/
structure Element where
  /-- Whether it starts on another line than the one before. -/
  onNewLine : Bool
  /-- Its characters. -/
  written : List Char
  /-- What it is read as. -/
  lexeme : Lexeme
  deriving DecidableEq, Repr

/-- The input elements at the start of a text, and the text behind them. -/
inductive Lexes : List Char → Lexeme → List Char → Prop
  /-- A token that nothing is wrong with. -/
  | plain {s rest : List Char} {token : Token} (h : scan s = .fine token rest) :
      Lexes s (.token token) rest
  /-- A punctuator that goes on behind a closing angle bracket. -/
  | joined {s rest : List Char} {mark : String} (h : markAfterAngle s = some (mark, rest)) :
      Lexes s (.token (.mark mark)) rest
  /-- An opening angle bracket alone. -/
  | split (s : List Char) : Lexes ('<' :: s) (.token (.mark "<")) s
  /-- A regular expression that nothing is wrong with. -/
  | regex {s rest : List Char} {text : String} (h : scanRegex s = some (text, rest, [])) :
      Lexes ('/' :: s) (.regex text) rest
  /-- The closing brace of a substitution with the stretch of the template behind it. -/
  | continuation {s rest : List Char} {raw : String} {closed : Bool}
      (h : scanTemplate s = .fine (.template raw closed) rest) :
      Lexes ('}' :: s) (.continuation raw closed) rest

/-- How many substitutions are open behind an element, by how many are open in front of it. Outside
of a substitution no template goes on. -/
def Lexeme.depthBehind? : Lexeme → Nat → Option Nat
  | .token (.template _ false), depth => some (depth + 1)
  | .continuation _ true, depth + 1 => some depth
  | .continuation _ false, depth + 1 => some (depth + 1)
  | .continuation _ _, 0 => none
  | _, depth => some depth

/-- The ways to divide a text into input elements, by what the gap before the first one already
holds, and by how many substitutions are open in front. At the end none is. -/
inductive Divides : Gap → Nat → List Char → List Element → Prop
  /-- Nothing but a gap. -/
  | done {g g' : Gap} {s : List Char} (hgap : gap false .blank g s = (g', [], false)) :
      Divides g 0 s []
  /-- A gap, an element and what follows. -/
  | cons {g g' : Gap} {depth depth' : Nat} {s written rest : List Char} {lexeme : Lexeme}
      {es : List Element} (hgap : gap false .blank g s = (g', written ++ rest, false))
      (hwritten : written ≠ []) (hlexes : Lexes (written ++ rest) lexeme rest)
      (hdepth : lexeme.depthBehind? depth = some depth')
      (hrest : Divides (.start false) depth' rest es) :
      Divides g depth s (⟨g'.onNewLine, written, lexeme⟩ :: es)

/-! ### Exchanging a literal -/

/-- Elements that are equal but for one string literal between a comma and a closing bracket, which
is written without a backslash on both sides. -/
inductive Exchanged : List Element → List Element → Prop
  /-- The literal is the second element. -/
  | here {comma bracket : Element} {onNewLine : Bool} {written written' : List Char}
      {value value' : StringValue} (es : List Element)
      (hcomma : comma.lexeme = .token (.mark ",")) (hbracket : bracket.lexeme = .token (.mark ")"))
      (hwritten : '\\' ∉ written) (hwritten' : '\\' ∉ written') :
      Exchanged (comma :: ⟨onNewLine, written, .token (.string value)⟩ :: bracket :: es)
        (comma :: ⟨onNewLine, written', .token (.string value')⟩ :: bracket :: es)
  /-- The literal is further behind. -/
  | there {es es' : List Element} (e : Element) (h : Exchanged es es') :
      Exchanged (e :: es) (e :: es')

end Script

open Script

/-- A grammar of modules. -/
structure ModuleGrammar where
  /-- Whether input elements derive from the grammar. -/
  IsModule : List Element → Prop
  /-- The value of a string literal between a comma and a closing bracket is not looked at. -/
  isModule_of_exchanged {es es' : List Element} (h : Exchanged es es') (hmodule : IsModule es) :
    IsModule es'

/-- A text without a first line that names what runs it. -/
def behindHashbang (text : String) : List Char :=
  match scanHashbang text.toList with
  | some (_, s) => s
  | none => text.toList

/-- The texts that are modules. -/
def ModuleGrammar.Parses (g : ModuleGrammar) (text : String) : Prop :=
  ∃ es, Divides (.start true) 0 (behindHashbang text) es ∧ g.IsModule es

end LivePreview
