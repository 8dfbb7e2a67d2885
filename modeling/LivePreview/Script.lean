import LivePreview.Engine
import LivePreview.Proofs.Script.References
import LivePreview.Script.Output
import LivePreview.Script.Parse

/-!
# The script engine

The engine of the modules of a preview: it reads TypeScript, with markup in files that allow it, and
writes it without types, with markup as calls and without imports that are not used.

## Main definitions

* `LivePreview.Script.engine`: the engine.

## Main results

* `LivePreview.Script.sources_engine`: the sources of a module are those that a visit of its tree
  collects.
-/

namespace LivePreview.Script

/-- The engine of the modules of a preview. -/
def engine : Engine where
  Module := Program
  parse fileName source :=
    match Program.parse fileName source with
    | .ok program => .ok program
    | .error faults => .error ("; ".intercalate faults)
  references := Program.references
  withSources := Program.withSources
  emit := Program.emit
  references_withSources {p l} h := by
    rw [← p.sources_eq_reached] at h
    exact Program.references_withSources h
  withSources_withSources {p l l'} h h' := by
    rw [← p.sources_eq_reached] at h h'
    exact Program.withSources_withSources h h'
  withSources_reached p := by rw [← p.sources_eq_reached, p.withSources_sources]

/-- A visit of the tree of a module collects its sources. -/
theorem sources_engine (p : Program) : engine.sources p = p.sources := p.sources_eq_reached.symm

end LivePreview.Script
