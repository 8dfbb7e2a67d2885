import LivePreview.Document
import LivePreview.Failure
import LivePreview.Fingerprint
import LivePreview.Guard

/-!
# Rendering

The renderer puts the documents of compiled artifacts on a surface, and blanks the surface on a
reset. An artifact that is showing already is not shown again unless that is forced.

## Main definitions

* `LivePreview.Surface`: something that shows a document or refuses it.
* `LivePreview.RecordingSurface`: a surface that keeps the documents it was given.
* `LivePreview.Artifact`: the code of a finished job.
* `LivePreview.Phase`: what a renderer is doing.
* `LivePreview.Renderer.update`, `LivePreview.Renderer.reset`: the two ways to change the surface.
-/

namespace LivePreview

/-- Something that shows one document at a time and may refuse it with a message. Refusing may
change its state too. -/
class Surface (σ : Type) where
  /-- Shows a document in place of the one before. -/
  present : σ → String → σ × Except String Unit

/-- A surface that keeps every document it shows, and refuses all of them while a message is
set. -/
structure RecordingSurface where
  /-- The documents shown, the latest first. -/
  shown : List String
  /-- The message with which documents are refused at present. -/
  refusal : Option String

namespace RecordingSurface

/-- A surface that shows nothing yet. -/
def blank : RecordingSurface := ⟨[], none⟩

instance : Surface RecordingSurface where
  present s html :=
    match s.refusal with
    | some message => (s, .error message)
    | none => ({ s with shown := html :: s.shown }, .ok ())

end RecordingSurface

/-- The code of a finished compile job. -/
structure Artifact where
  /-- The text of the module. -/
  code : String
  /-- The fingerprint of the text. -/
  fingerprint : Fingerprint
  /-- The number of the job's request. -/
  sequence : Nat
deriving DecidableEq, Repr

/-- The artifact of a code. -/
def Artifact.ofCode (code : String) (sequence : Nat) : Artifact :=
  ⟨code, Fingerprint.ofText code, sequence⟩

/-- How an update ended. -/
inductive Update where
  /-- The artifact is shown. -/
  | injected
  /-- There was nothing to do. -/
  | skipped
  /-- The surface refused the document. -/
  | failed (message : String)
deriving DecidableEq, Repr

/-- How a reset ended. -/
inductive Reset where
  /-- The surface is blank. -/
  | done
  /-- The reset is one too many. -/
  | loopDetected
  /-- The guard is cooling down. -/
  | suppressed
  /-- The surface refused the blank document. -/
  | failed (message : String)
deriving DecidableEq, Repr

/-- What a renderer is doing. -/
inductive Phase where
  /-- Nothing. -/
  | idle
  /-- A document is on its way to the surface. -/
  | updating
  /-- The blank document is on its way to the surface. -/
  | resetting
deriving DecidableEq, Repr

/-- The renderer of a surface. -/
structure Renderer (σ : Type) where
  /-- The surface. -/
  surface : σ
  /-- The settings that documents are built with. -/
  config : Config
  /-- The guard of resets. -/
  guard : Guard
  /-- What the renderer is doing. -/
  phase : Phase
  /-- The fingerprint of the artifact that is showing. -/
  lastInjected : Option Fingerprint

namespace Renderer

variable {σ : Type}

/-- The renderer of a surface at its start. -/
def ofConfig (surface : σ) (config : Config) : Renderer σ :=
  ⟨surface, config, Guard.ofConfig config.resetGuard, .idle, none⟩

/-- Puts the document of a code on the surface. -/
def inject [Surface σ] (r : Renderer σ) (artifact : Artifact) : Update × Renderer σ :=
  let r := { r with phase := .updating }
  match Surface.present r.surface (Document.build artifact.code r.config) with
  | (surface, .ok ()) =>
    (.injected,
      { r with surface := surface, phase := .idle, lastInjected := some artifact.fingerprint })
  | (surface, .error message) =>
    (.failed message, { r with surface := surface, phase := .idle, lastInjected := none })

/-- Shows an artifact, unless it is showing already and `force` is off. Nothing is shown during a
reset. -/
def update [Surface σ] (r : Renderer σ) (artifact : Option Artifact) (force : Bool) :
    Update × Renderer σ :=
  if r.phase = .resetting then (.skipped, r)
  else
    match artifact with
    | none => (.skipped, r)
    | some artifact =>
      if force = false ∧ r.lastInjected = some artifact.fingerprint then (.skipped, r)
      else r.inject artifact

/-- Puts the blank document on the surface. -/
def blank [Surface σ] (r : Renderer σ) : Reset × Renderer σ :=
  let r := { r with phase := .resetting }
  match Surface.present r.surface (Document.build "" r.config) with
  | (surface, .ok ()) => (.done, { r with surface := surface, phase := .idle, lastInjected := none })
  | (surface, .error message) =>
    (.failed message, { r with surface := surface, phase := .idle, lastInjected := none })

/-- Blanks the surface, unless the guard stops it. -/
def reset [Surface σ] (r : Renderer σ) (now : Nat) : Reset × Renderer σ :=
  match r.guard.check now with
  | (.tripped, g) => (.loopDetected, { r with guard := g })
  | (.suppressed, g) => (.suppressed, { r with guard := g })
  | (.allowed, g) => { r with guard := g : Renderer σ }.blank

/-- The guard's cooldown is over. -/
def endCooldown (r : Renderer σ) : Renderer σ := { r with guard := r.guard.endCooldown }

end Renderer

end LivePreview
