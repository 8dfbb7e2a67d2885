import LivePreview.Script.Cursor
import LivePreview.Script.Doc
import LivePreview.Script.Tree

/-!
# Rules of the grammar

The rules of the grammar refer to each other in circles. They are written against a grammar that is
given: a rule for each goal, and a bound for the lengths of lists. The grammar of some depth
is made of the rules against the grammar of the depth below, so every recursion ends.

## Main definitions

* `LivePreview.Script.Goal`: what the recursive rules read.
* `LivePreview.Script.Grammar`: a rule for each goal.
-/

namespace LivePreview.Script

/-- What a recursive rule reads. -/
inductive Goal
  /-- An expression without commas. In an arrow function a type may follow the parameters, but
  perhaps only where a colon follows the whole. -/
  | assignment (typedArrows : Bool)
  /-- An expression of operators that bind more tightly than a level. -/
  | binary (level : Nat)
  /-- An operand. -/
  | unary
  /-- An operand without operators. -/
  | operand
  /-- An operand without operators, properties and calls. -/
  | primary
  /-- A pattern that gives names. -/
  | pattern
  /-- A type. -/
  | type
  /-- A statement, which may be all that a larger statement holds. -/
  | statement (alone : Bool)
  /-- An element of markup, which may be inside of another. -/
  | markup (inside : Bool)
  deriving DecidableEq, Repr

namespace Goal

/-- What comes of a goal. A type leaves how it is written. -/
@[reducible] def Result : Goal → Type
  | type => Doc
  | statement _ => Stmt
  | _ => Expr

end Goal

/-- A rule for each goal. -/
structure Grammar where
  /-- A bound for the lengths of lists. -/
  width : Nat
  /-- The rules. -/
  rule : (goal : Goal) → Parser goal.Result

namespace Grammar

/-- An expression without commas. -/
def assignment (g : Grammar) : Parser Expr := g.rule (.assignment true)

/-- An operand. -/
def unary (g : Grammar) : Parser Expr := g.rule .unary

/-- A pattern that gives names. -/
def pattern (g : Grammar) : Parser Expr := g.rule .pattern

/-- A statement, which may be all that a larger statement holds. -/
def statement (g : Grammar) (alone : Bool) : Parser Stmt := g.rule (.statement alone)

/-- A type. -/
def type (g : Grammar) : Parser Doc := g.rule .type

/-- Elements of a list up to a closing bracket. -/
def list {α : Type} (g : Grammar) (close : String) (item : Parser α) : Parser (List α) :=
  Parser.separated g.width close item

/-- The surroundings in brackets. -/
def inBrackets (s : Setting) : Setting := { s with allowsIn := true, inDecorator := false }

/-- An expression without commas in which `in` is an operator. -/
def value (g : Grammar) : Parser Expr := Parser.within inBrackets g.assignment

/-- Expressions after the first, each after a comma. -/
def moreExpressions (g : Grammar) : Nat → Parser (List Expr)
  | 0 => return []
  | fuel + 1 => do
    if ← Parser.eat "," then
      let e ← g.assignment
      return e :: (← g.moreExpressions fuel)
    else return []

/-- An expression. -/
def expression (g : Grammar) : Parser Expr := do
  let first ← g.assignment
  match ← g.moreExpressions g.width with
  | [] => return first
  | more => return .sequence (first :: more)

/-- An expression in which `in` is an operator. -/
def anyExpression (g : Grammar) : Parser Expr := Parser.within inBrackets g.expression

/-- The key of a member: whether it is computed, and the key. -/
def memberKey (g : Grammar) : Parser (Bool × Expr) := do
  match ← Parser.token with
  | .string value => Parser.next; return (false, .string value)
  | .number value _ => Parser.next; return (false, .number value)
  | .bigint digits _ => Parser.next; return (false, .bigint digits)
  | .privateName text => Parser.next; return (false, .name ("#" ++ text))
  | .mark "[" =>
    Parser.next
    let key ← g.value
    Parser.expect "]"
    return (true, key)
  | _ => return (false, .name (← Parser.anyWord))

/-- Whether a key can start with a token. -/
def startsKey : Token → Bool
  | .word _ => true
  | .string _ => true
  | .number _ _ => true
  | .bigint _ _ => true
  | .privateName _ => true
  | .mark text => text = "["
  | _ => false

/-- Whether what follows a modifier can start with a token. -/
def followsModifier (t : Token) : Bool :=
  startsKey t || t.isMark "\x7b" || t.isMark "*" || t.isMark "..."

end Grammar

end LivePreview.Script
