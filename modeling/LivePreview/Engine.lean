import LivePreview.Reference

/-!
# Module engines

The language work of a compilation is behind an engine: it reads the text of a module, lists its
imports and re-exports, and writes the module in its lowered form. The texts that name other modules
can be replaced where a visit reaches them, and this changes nothing else.

## Main definitions

* `LivePreview.Engine`: an engine.
* `LivePreview.Engine.sources`: what the imports and re-exports name that a visit reaches.
* `LivePreview.Engine.Accepting`: an engine that writes every module it reads.
-/

namespace LivePreview

open Reference (reached refill)

/-- An engine for modules. -/
structure Engine where
  /-- A module that was read. -/
  Module : Type
  /-- Reads the text of the file of that name, or tells what is wrong with it. -/
  parse : (fileName source : String) → Except String Module
  /-- The imports and re-exports of the module, wherever they stand, in the order of the text. -/
  references : Module → List Reference
  /-- The module with other names in the references that a visit reaches. -/
  withSources : Module → List String → Module
  /-- Writes the lowered module, or tells why it cannot be lowered. -/
  emit : Module → Except String String
  /-- The references have the names that they are given. -/
  references_withSources {m : Module} {l : List String}
    (h : l.length = (reached (references m)).length) :
    references (withSources m l) = refill (references m) l
  /-- The names given last are those that count. -/
  withSources_withSources {m : Module} {l l' : List String}
    (h : l.length = (reached (references m)).length)
    (h' : l'.length = (reached (references m)).length) :
    withSources (withSources m l) l' = withSources m l'
  /-- With its own names a module is as it was. -/
  withSources_reached (m : Module) : withSources m (reached (references m)) = m

namespace Engine

/-- What the imports and re-exports of a module name, in the order of the text. A visit passes over
those inside of declarations that are exported by name. -/
def sources (engine : Engine) (m : engine.Module) : List String := reached (engine.references m)

/-- The engine writes every module it reads, whatever its imports are replaced by. -/
def Accepting (engine : Engine) : Prop :=
  ∀ fileName source m sources, engine.parse fileName source = .ok m →
    ∃ code, engine.emit (engine.withSources m sources) = .ok code

end Engine

end LivePreview
