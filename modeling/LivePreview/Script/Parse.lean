import LivePreview.Script.Grammar.Markup
import LivePreview.Script.Grammar.Program

/-!
# Reading a module

The rules of the grammar, tied together. Between two rules of one text a token is read, or one of a
few goals stands for another, so the depth of the recursion is bounded by the length of the text.

## Main definitions

* `LivePreview.Script.Grammar.ofDepth`: the grammar of some depth.
* `LivePreview.Script.Program.parse`: reads a module.
-/

namespace LivePreview.Script

namespace Grammar

/-- The rules against given ones. -/
def step (g : Grammar) : (goal : Goal) → Parser goal.Result
  | .assignment typedArrows => g.assignmentRule typedArrows
  | .binary level => g.binaryRule level
  | .unary => g.unaryRule
  | .operand => g.operandRule
  | .primary => g.primaryRule
  | .pattern => g.patternRule
  | .type => g.typeRule
  | .statement alone => g.statementRule alone
  | .markup inside => g.markupRule inside

/-- The rules for texts whose parts are nested no deeper than a number. -/
def ruleOfDepth (width : Nat) : Nat → (goal : Goal) → Parser goal.Result
  | 0, _ => Parser.unexpected
  | depth + 1, goal => step ⟨width, ruleOfDepth width depth⟩ goal

/-- The grammar for texts whose parts are nested no deeper than a number. -/
def ofDepth (width depth : Nat) : Grammar := ⟨width, ruleOfDepth width depth⟩

end Grammar

/-- Whether the file of a name may hold markup. -/
def allowsMarkup (fileName : String) : Bool :=
  [".jsx", ".tsx"].any fun ending => ending.toList.isSuffixOf fileName.toList

/-- The name of a file without its folders and its ending. A dot at the start of a name starts no
ending. -/
def titleOf (fileName : String) : String :=
  match ((fileName.splitOn "/").filter fun part => part ≠ "" && part ≠ ".").getLast? with
  | none => "unknown"
  | some ".." => "unknown"
  | some name =>
    match name.toList.reverse.dropWhile (· ≠ '.') with
    | _ :: stem => if stem.isEmpty then name else String.ofList stem.reverse
    | [] => name

namespace Program

/-- Reads a module. If that fails, all faults are told. -/
def parse (fileName source : String) : Except (List String) Program :=
  let setting : Setting :=
    { markup := allowsMarkup fileName, allowsIn := true, inFunction := false, inAsync := true,
      inGenerator := false, allowsTypeChoice := true, isAmbient := false, inDecorator := false }
  let (hashbang, text) : Option String × List Char := match scanHashbang source.toList with
    | some (line, text) => (some line, text)
    | none => (none, source.toList)
  let size := text.length + 2
  match (Grammar.ofDepth size (16 * size)).program (titleOf fileName) hashbang
      (Cursor.start setting text) with
  | .ok (program, _) => .ok program
  | .error refusal => .error refusal.messages

end Program

end LivePreview.Script
