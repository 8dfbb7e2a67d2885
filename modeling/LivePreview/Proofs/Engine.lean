import LivePreview.Engine

/-!
# Modules with other names, and engines that write every module

A module with other names in its references is known by two things: the references have these
names, except for those that a visit passes over, and with the old names put back it is as it was.

Where the lowering and the printing of modules are taken to reject nothing that was read, an engine
is assumed to be accepting. Any engine can be made so: where it cannot write a module, the result
is blank.

## Main definitions

* `LivePreview.Engine.Redirects`: a module with other names in its references.
* `LivePreview.Engine.lenient`: an engine that writes every module.

## Main results

* `LivePreview.Engine.redirects_iff`: there is one module like that.
* `LivePreview.Engine.accepting_lenient`: it does.
* `LivePreview.Engine.emit_lenient`: it writes a module as before if that could be written.
-/

namespace LivePreview.Engine

open Reference (reached redirected)

/-- One module is another with other names in the references that a visit reaches: the references
that it passes over are as they were, and so is the rest of the module. -/
structure Redirects (engine : Engine) (name : String → String) (m written : engine.Module) :
    Prop where
  /-- The references have the other names. -/
  references_eq : engine.references written = redirected name (engine.references m)
  /-- With the old names put back the module is as it was. -/
  restored : engine.withSources written (engine.sources m) = m

/-- A module is known by the names in its references. -/
theorem redirects_iff {engine : Engine} {name : String → String} {m written : engine.Module} :
    engine.Redirects name m written ↔
      written = engine.withSources m ((engine.sources m).map name) := by
  have hlength : ((engine.sources m).map name).length = (reached (engine.references m)).length :=
    List.length_map name
  constructor
  · rintro ⟨hrefs, hrestored⟩
    have hsources : engine.sources written = (engine.sources m).map name := by
      rw [sources, hrefs, Reference.reached_redirected, sources]
    have hsame : (engine.sources m).length = (engine.sources written).length := by
      rw [hsources, List.length_map]
    calc written = engine.withSources written (engine.sources written) :=
          (engine.withSources_reached written).symm
      _ = engine.withSources (engine.withSources written (engine.sources m))
            (engine.sources written) := (engine.withSources_withSources hsame rfl).symm
      _ = engine.withSources m ((engine.sources m).map name) := by rw [hrestored, hsources]
  · rintro rfl
    refine ⟨?_, ?_⟩
    · rw [engine.references_withSources hlength, sources, Reference.refill_map_reached]
    · exact (engine.withSources_withSources hlength rfl).trans (engine.withSources_reached m)

/-- The engine, but with a blank text for each module that it cannot write. -/
def lenient (engine : Engine) : Engine :=
  { engine with
    emit := fun m =>
      .ok (match engine.emit m with
        | .ok code => code
        | .error _ => "") }

theorem accepting_lenient (engine : Engine) : engine.lenient.Accepting :=
  fun _ _ _ _ _ => ⟨_, rfl⟩

/-- Nothing changes where the engine writes. -/
theorem emit_lenient {engine : Engine} {m : engine.Module} {code : String}
    (h : engine.emit m = .ok code) : engine.lenient.emit m = .ok code := by
  simp only [lenient, h]

end LivePreview.Engine
