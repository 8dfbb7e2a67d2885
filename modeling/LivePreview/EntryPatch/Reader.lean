import LivePreview.EntryPatch
import LivePreview.ModuleReader
import Mathlib.Data.List.Perm.Subperm

/-!
# Readers of entries

Whether a text is an entry, and which names it declares, is told by a reader. Of the grammar of
modules a reader is taken to know an import line, the few statements that a mount consists of, and
where these can be put: behind a module, and in place of an expression statement in it. Whether a
name is declared twice is not a matter of the grammar.

## Main definitions

* `LivePreview.EntryPatch.AreStatements`: the statements of a mount, with the names they declare.
* `LivePreview.EntryReader`: a reader.
-/

namespace LivePreview

namespace EntryPatch

/-! ### The statements of a mount -/

/-- The names in the statements of a mount. -/
def mountNames : List String :=
  ["App", "__vue_app__", "app", "appElement", "createApp", "document", "el", "mount",
    "querySelector", "unmount"]

/-- A name, or a member of what a text refers to. -/
inductive IsReference : String → Prop
  /-- A name. -/
  | name (name : String) (hname : name ∈ mountNames) : IsReference name
  /-- A member. -/
  | member {object : String} (hobject : IsReference object) (name : String)
      (hname : name ∈ mountNames) : IsReference (object ++ "." ++ name)

/-- A reference, a text in single quotes, or one of the given expressions. -/
inductive IsOperand (given : List String) : String → Prop
  /-- A reference. -/
  | reference {text : String} (htext : IsReference text) : IsOperand given text
  /-- A text in single quotes. -/
  | quoted {text : String} (htext : IsQuotable text) : IsOperand given ("'" ++ text ++ "'")
  /-- A given expression. -/
  | given {text : String} (htext : text ∈ given) : IsOperand given text

/-- A call of a reference. -/
inductive IsCall (given : List String) : String → Prop
  /-- A call without arguments. -/
  | bare {callee : String} (hcallee : IsReference callee) : IsCall given (callee ++ "()")
  /-- A call with an argument. -/
  | applied {callee argument : String} (hcallee : IsReference callee)
      (hargument : IsOperand given argument) : IsCall given (callee ++ "(" ++ argument ++ ")")

/-- A value or a test. -/
inductive IsExpression (given : List String) : String → Prop
  /-- An operand. -/
  | operand {text : String} (htext : IsOperand given text) : IsExpression given text
  /-- A call. -/
  | call {text : String} (htext : IsCall given text) : IsExpression given text
  /-- A reference whose type does not count. -/
  | untyped {text : String} (htext : IsReference text) : IsExpression given (text ++ " as any")
  /-- Two references that both have to hold. -/
  | both {first second : String} (hfirst : IsReference first) (hsecond : IsReference second) :
      IsExpression given (first ++ " && " ++ second)
  /-- Whether there is something of a name. -/
  | defined (name : String) (hname : name ∈ mountNames) :
      IsExpression given ("typeof " ++ name ++ " !== 'undefined'")

/-- Statements on lines with a margin, the first of which is in place already, with the names that
they declare outside of blocks. They end in a call or in a block. -/
inductive AreStatements (given : List String) :
    (margin text : String) → (names : List String) → Prop
  /-- A call. -/
  | call {margin text : String} (htext : IsCall given text) : AreStatements given margin text []
  /-- A block that is run if a test holds. -/
  | block {margin test body : String} {names : List String} (htest : IsExpression given test)
      (hbody : AreStatements given (margin ++ "  ") body names) :
      AreStatements given margin
        ("if (" ++ test ++ ") \x7b\n" ++ (margin ++ "  ") ++ body ++ "\n" ++ margin ++ "\x7d") []
  /-- A constant in front of further statements. -/
  | constant {margin value rest : String} {names : List String} (name : String)
      (hname : name ∈ mountNames) (hvalue : IsExpression given value)
      (hrest : AreStatements given margin rest names) :
      AreStatements given margin
        ("const " ++ name ++ " = " ++ value ++ "\n" ++ margin ++ rest) (name :: names)
  /-- Further statements. -/
  | append {margin first rest : String} {names more : List String}
      (hfirst : AreStatements given margin first names)
      (hrest : AreStatements given margin rest more) :
      AreStatements given margin (first ++ "\n" ++ margin ++ rest) (names ++ more)

/-- What an entry is as a module. -/
structure Reading where
  /-- Whether the first line names what runs the module. -/
  hashbang : Bool
  /-- The names that are imported, or declared with `const`, `let`, `class` and the like, outside of
  blocks and functions, each as often as that is done. -/
  names : List String
deriving DecidableEq, Repr

end EntryPatch

open EntryPatch

/-- A reader of entries. -/
structure EntryReader where
  /-- What a text is as a module, if it is one. -/
  read : String → Option Reading
  /-- Whether `statement` is an expression statement of its own in the module
  `before ++ statement ++ behind`, one item in a list of statements, which is that of the whole
  module if `top`, and each of the given texts is an operand there. -/
  Stands : (top : Bool) → (given : List String) → (before statement behind : String) → Prop
  /-- An import line in front of a module. -/
  read_importLine_append {text framework : String} {o : Reading} (h : read text = some o)
    (hhashbang : o.hashbang = false) (hframework : IsQuotable framework) :
    ∃ made, read ("import \x7b createApp \x7d from '" ++ framework ++ "'\n" ++ text) = some made ∧
      made.names.Subperm ("createApp" :: o.names)
  /-- Statements behind a module. -/
  read_append_statements {text statements : String} {names : List String} {o : Reading}
    (h : read text = some o) (hstatements : AreStatements [] "" statements names) :
    ∃ made, read (text ++ "\n" ++ statements) = some made ∧ made.names.Subperm (names ++ o.names)
  /-- Statements in place of an expression statement. -/
  read_statements {top : Bool} {given names : List String}
    {margin before statement behind statements : String} {o : Reading}
    (h : read (before ++ statement ++ behind) = some o)
    (hstands : Stands top given before statement behind)
    (hmargin : ∀ c ∈ margin.toList, Text.isBlank c = true)
    (hstatements : AreStatements given margin statements names) :
    ∃ made, read (before ++ statements ++ behind) = some made ∧
      made.names.Subperm ((if top then names else []) ++ o.names)
  /-- Another expression statement behind that place. -/
  stands_statements {top other : Bool} {given names more : List String}
    {margin before statement between next behind statements : String}
    (hstands : Stands top given before statement (between ++ next ++ behind))
    (hnext : Stands other more (before ++ statement ++ between) next behind)
    (hmargin : ∀ c ∈ margin.toList, Text.isBlank c = true)
    (hstatements : AreStatements given margin statements names) :
    Stands other more (before ++ statements ++ between) next behind

end LivePreview
