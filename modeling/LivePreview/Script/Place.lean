import LivePreview.Script.Operator

/-!
# Places of expressions and statements

What the surroundings of an expression or a statement say about how it is written: how tightly they
bind, what its text is the start of, and which operators would be taken for something else.

## Main definitions

* `LivePreview.Script.Place`: where an expression is written.
* `LivePreview.Script.Start`: where a statement is written.
-/

namespace LivePreview.Script

/-- What the text of an expression is the start of. -/
inductive Lead
  /-- Nothing that is mistaken for something else. -/
  | none
  /-- A statement. -/
  | statement
  /-- The value of an arrow function. -/
  | arrow
  /-- A default export. -/
  | defaultExport
  deriving DecidableEq, Repr

/-- What an expression is. -/
inductive Form
  /-- A value. -/
  | value
  /-- A pattern that gives names. -/
  | binding
  /-- A pattern that is assigned to. -/
  | target
  deriving DecidableEq, Repr

/-- What stands in parentheses because of what is around it. -/
structure Limits where
  /-- Whether a call does: it would be taken for a part of what makes a new object. -/
  inNew : Bool
  /-- Whether `in` does: it would be taken for a part of the head of a loop. -/
  inLoopStart : Bool
  deriving DecidableEq, Repr

namespace Limits

/-- Nothing stands in parentheses. -/
def none : Limits := ⟨false, false⟩

/-- The start of a loop. -/
def loopStart : Limits := ⟨false, true⟩

/-- What is called to make a new object. -/
def newObject : Limits := ⟨true, false⟩

/-- Calls do not stand in parentheses. -/
def withCalls (l : Limits) : Limits := { l with inNew := false }

end Limits

/-- Where an expression is written. -/
structure Place where
  /-- The number of tabs before its line. -/
  depth : Nat
  /-- How tightly its surroundings bind. -/
  level : Level
  /-- What it is the start of. -/
  lead : Lead
  /-- What its surroundings put in parentheses. -/
  limits : Limits
  /-- What it is. -/
  form : Form

namespace Place

/-- A place inside of brackets. -/
def inner (depth : Nat) (level : Level) : Place := ⟨depth, level, .none, .none, .value⟩

/-- The place of a pattern, or of an expression in brackets. -/
def part (depth : Nat) (form : Form) : Place := ⟨depth, Level.comma, .none, .none, form⟩

/-- The place of a pattern that gives names, with its default value. -/
def given (depth : Nat) (limits : Limits) : Place := ⟨depth, Level.comma, .none, limits, .binding⟩

/-- The place of an expression at the start of a statement. -/
def statement (depth : Nat) : Place := ⟨depth, Level.lowest, .statement, .none, .value⟩

/-- The place of an expression in the head of a loop. -/
def head (depth : Nat) (limits : Limits) (form : Form) : Place :=
  ⟨depth, Level.lowest, .none, limits, form⟩

/-- The place of the first part of an expression. -/
def first (p : Place) (level : Level) : Place := { p with level, form := .value }

/-- The place of a later part of an expression. -/
def later (p : Place) (level : Level) : Place := { p with level, lead := .none, form := .value }

/-- The place of the first part of an expression that can hold a call. -/
def test (p : Place) (level : Level) : Place := { p.first level with limits := p.limits.withCalls }

/-- The place of a later part of an expression that can hold a call. -/
def operand (p : Place) (level : Level) : Place :=
  { p.later level with limits := p.limits.withCalls }

/-- The place of what has a property. -/
def object (p : Place) : Place :=
  { p.first Level.after with limits := ⟨p.limits.inNew, false⟩ }

/-- The place of what is called. -/
def callee (p : Place) : Place := { p.first Level.after with limits := .none }

/-- The place inside of parentheses, if they are needed. -/
def inParens (p : Place) (needed : Bool) : Place := if needed then { p with lead := .none } else p

/-- The place inside of parentheses, if they are needed, where `in` is no part of a loop. -/
def inClosedParens (p : Place) (needed : Bool) : Place :=
  if needed then { p with lead := .none, limits := ⟨p.limits.inNew, false⟩ } else p

/-- Whether the text would be taken for a block. -/
def startsLikeBlock (p : Place) : Bool := p.lead == .statement || p.lead == .arrow

/-- Whether the text would be taken for a declaration. -/
def startsLikeDeclaration (p : Place) : Bool := p.lead == .statement || p.lead == .defaultExport

end Place

/-- Where a statement is written. -/
inductive Start
  /-- On a line of its own. -/
  | line
  /-- On a line of its own, as an exported declaration. -/
  | exported
  /-- After the head of a statement that holds nothing else. -/
  | body
  /-- After the head of a statement that goes on after it. -/
  | branch
  /-- After the word before the other one of two statements. -/
  | otherwise
  /-- In the head of a loop. -/
  | head
  /-- In the head of a loop, as what is assigned to. -/
  | target
  deriving DecidableEq, Repr

end LivePreview.Script
