/-!
# Redirecting import sources

The sources of a module's imports and re-exports are visited in the order of the text. A relative
source, one that starts with a dot, is handed to a visitor, which gives a replacement, leaves the
source as it is, or fails. After a failure nothing more is visited.

## Main definitions

* `LivePreview.Redirection`: the sources afterwards, how many were replaced, and the failure.
* `LivePreview.Redirection.run`: the visit of a list of sources.
-/

namespace LivePreview

/-- What became of a list of sources. -/
structure Redirection (ε : Type) where
  /-- The sources afterwards. -/
  sources : List String
  /-- How many of them were replaced. -/
  replaced : Nat
  /-- Why the visit stopped early. -/
  failure : Option ε

namespace Redirection

variable {σ ε : Type}

/-- Whether a source is relative. -/
def relative (source : String) : Bool := source.toList.head? == some '.'

/-- A source in front that stays as it is. -/
def keep (source : String) (r : Redirection ε) : Redirection ε :=
  { r with sources := source :: r.sources }

/-- A replaced source in front. -/
def replace (source : String) (r : Redirection ε) : Redirection ε :=
  { r with sources := source :: r.sources, replaced := r.replaced + 1 }

/-- Visits a list of sources. -/
def run (visit : String → StateM σ (Except ε (Option String))) :
    List String → StateM σ (Redirection ε)
  | [] => pure ⟨[], 0, none⟩
  | source :: rest => do
    if relative source then
      match ← visit source with
      | .error e => pure ⟨source :: rest, 0, some e⟩
      | .ok none => return keep source (← run visit rest)
      | .ok (some replacement) => return replace replacement (← run visit rest)
    else return keep source (← run visit rest)

end Redirection

end LivePreview
