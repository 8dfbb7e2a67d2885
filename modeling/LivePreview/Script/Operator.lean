/-!
# Operators

The levels at which expressions bind, from the loosest to the tightest. A written expression stands
in parentheses where its surroundings bind at its own level or more tightly.

## Main definitions

* `LivePreview.Script.Level`: the levels.
* `LivePreview.Script.levelOf?`: the level of an operator between its operands.
* `LivePreview.Script.isAssignment`: the operators that assign.
-/

namespace LivePreview.Script

/-- How tightly an expression binds. -/
abbrev Level := Nat

namespace Level

/-- Anything. -/
def lowest : Level := 0

/-- Expressions with commas between them. -/
def comma : Level := 1

/-- What a generator gives. -/
def yield : Level := 3

/-- An assignment or an arrow function. -/
def assign : Level := 4

/-- A choice. -/
def conditional : Level := 5

/-- A value or, if there is none, another. -/
def nullish : Level := 6

/-- One of two conditions. -/
def or : Level := 7

/-- Both of two conditions. -/
def and : Level := 8

/-- A comparison by order or kind. -/
def compare : Level := 13

/-- A power. -/
def power : Level := 17

/-- An operator before its operand. -/
def before : Level := 18

/-- An operator after its operand. -/
def after : Level := 19

/-- A new object. -/
def new : Level := 20

/-- A call. -/
def call : Level := 21

end Level

/-- The level of an operator between its operands. -/
def levelOf? (op : String) : Option Level :=
  match op with
  | "??" => some Level.nullish
  | "||" => some Level.or
  | "&&" => some Level.and
  | "|" => some 9
  | "^" => some 10
  | "&" => some 11
  | "==" => some 12
  | "!=" => some 12
  | "===" => some 12
  | "!==" => some 12
  | "<" => some Level.compare
  | ">" => some Level.compare
  | "<=" => some Level.compare
  | ">=" => some Level.compare
  | "in" => some Level.compare
  | "instanceof" => some Level.compare
  | "<<" => some 14
  | ">>" => some 14
  | ">>>" => some 14
  | "+" => some 15
  | "-" => some 15
  | "*" => some 16
  | "/" => some 16
  | "%" => some 16
  | "**" => some Level.power
  | _ => none

/-- Whether operators of a level are read from the right. -/
def fromRight (level : Level) : Bool := level == Level.power

/-- Whether an operator assigns. -/
def isAssignment (op : String) : Bool :=
  ["=", "+=", "-=", "*=", "/=", "%=", "**=", "<<=", ">>=", ">>>=", "&=", "|=", "^=", "&&=", "||=",
    "??="].contains op

/-- Whether an operator before its operand is a word. -/
def isWordOperator (op : String) : Bool := ["typeof", "void", "delete", "await"].contains op

end LivePreview.Script
