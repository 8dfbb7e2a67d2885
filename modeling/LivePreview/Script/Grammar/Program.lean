import LivePreview.Script.Grammar.Statement

/-!
# Modules

The statements that a module consists of.

## Main definitions

* `LivePreview.Script.Grammar.program`: a module.
-/

namespace LivePreview.Script.Grammar

open LivePreview.Script.Parser

variable (g : Grammar)

/-- The statements of a module, with the comments at its end. As long as there are only directives,
a string is one. -/
def items : Nat → Bool → Parser (List Stmt)
  | 0, _ => return []
  | fuel + 1, directives => do
    let c ← get
    if c.token == .eof && c.tokenFaults.isEmpty then remarks
    else
      let s ← g.statement false
      match if directives then directive? c s else none with
      | some directive => return directive :: (← items fuel true)
      | none => return s :: (← items fuel false)

/-- A module after its first line, if that names what runs it. Members of objects that make sense in
patterns only are refused at the end. -/
def program (title : String) (hashbang : Option String) : Parser Program := do
  let body ← g.items g.width true
  let c ← get
  let faults := List.replicate c.openDefaults "Invalid assignment in object literal"
  faults.forM report
  if c.tokenFaults.isEmpty && c.faults.isEmpty && faults.isEmpty then
    return ⟨hashbang, title, c.factory, c.marked, body⟩
  else fun c => .error ⟨c.tokenFaults, c.faults, none, true, false⟩

end LivePreview.Script.Grammar
