import LivePreview.Script.Elision
import LivePreview.Script.Layout
import LivePreview.Script.Lowering

/-!
# Written modules

How a module is written: without the imports that it does not use, and lowered.

## Main definitions

* `LivePreview.Script.Program.text`: the text of a lowered module.
* `LivePreview.Script.Program.emit`: the text of a module, or why there is none.
-/

namespace LivePreview.Script.Program

/-- The text of a lowered module. -/
def text (p : Program) : String :=
  let first := p.hashbang.elim "" fun line => "#!" ++ line ++ "\n"
  (first ++ bodyLayout .none 0 p.body).toText

/-- The text of a module without what is left out, or why it cannot be written. -/
def emit (p : Program) : Except String String :=
  match p.withoutUnused.lower with
  | .ok lowered => .ok (if p.losesPart then lowered.stayingModule else lowered).text
  | .error faults => .error ("; ".intercalate faults)

end LivePreview.Script.Program
