import LivePreview.Session.Effects

/-!
# Runs of a session

A run is a list of steps with their instants. A step is an operation of the session, the arrival of
a response, or a change that the compile unit or the surface undergoes on its own. The history of a
run lists all its effects with their instants.

## Main definitions

* `LivePreview.Operation`, `LivePreview.Step`: what happens to a session.
* `LivePreview.Session.after`, `LivePreview.Session.history`: the end and the history of a run.
* `LivePreview.History.lastShown`: the last document that the surface accepted.
* `LivePreview.History.standing`: the last request that no reset came after.
* `LivePreview.History.instants`: the instants of some kind of effect.
-/

namespace LivePreview

/-- What a session can be asked to do. -/
inductive Operation where
  /-- New files, without a compile attempt. -/
  | setFiles (files : FileSet)
  /-- New files, and a compile attempt after the delay. -/
  | filesChanged (files : FileSet)
  /-- A compile attempt after the delay. -/
  | requestCompile (force : Bool)
  /-- The timers that are due. -/
  | pollTimers
  /-- A compile attempt now. -/
  | compileNow (force : Bool)
  /-- The artifact again. -/
  | refresh
  /-- A blank surface, and a compile attempt. -/
  | reset
  /-- An empty error slot. -/
  | clearError

/-- What happens to a session. -/
inductive Step (δ σ : Type) where
  /-- The session is asked to do something. -/
  | operate (operation : Operation)
  /-- A response arrives. -/
  | deliver (response : Response)
  /-- The compile unit changes. -/
  | unit (unit : δ)
  /-- The surface changes. -/
  | surface (surface : σ)

/-- Effects with their instants, in the order in which they occurred. -/
abbrev History := List (Nat × Effect)

namespace History

/-- The document that the surface accepted last. -/
def lastShown (h : History) : Option String := (h.filterMap fun e => e.2.shown?).getLast?

/-- The requests that were handed over. -/
def requests (h : History) : List Request := h.filterMap fun e => e.2.request?

/-- The last request that was handed over, when it was `last` before the effect. A reset that passes
its guard, or trips it, leaves none. -/
def follow (last : Option Request) : Effect → Option Request
  | .request r _ => some r
  | .document _ _ => last
  | .blank _ _ => none
  | .resetLoop => none

/-- The last request that was handed over, unless a reset has passed or tripped its guard since. -/
def standing (h : History) : Option Request := h.foldl (fun last e => follow last e.2) none

/-- The instants of the effects of some kind. -/
def instants (kind : Effect → Bool) (h : History) : List Nat :=
  (h.filter fun e => kind e.2).map (·.1)

end History

namespace Session

variable {δ σ : Type} [CompileUnit δ] [Surface σ]

/-- The session after an operation. -/
def operate (s : Session δ σ) (now : Nat) : Operation → Session δ σ
  | .setFiles files => s.setFiles files
  | .filesChanged files => s.filesChanged files now
  | .requestCompile force => s.requestCompile force now
  | .pollTimers => s.pollTimers now
  | .compileNow force => s.compileNow force now
  | .refresh => s.refresh now
  | .reset => s.reset now
  | .clearError => s.clearError

/-- The effects of an operation. -/
def operationEffects (s : Session δ σ) (now : Nat) : Operation → List Effect
  | .pollTimers => s.timerEffects now
  | .compileNow force => s.compileEffects force now
  | .refresh => s.renderEffects true now
  | .reset => s.resetEffects now
  | _ => []

/-- The session after a step. -/
def step (s : Session δ σ) (now : Nat) : Step δ σ → Session δ σ
  | .operate operation => s.operate now operation
  | .deliver response => s.applyResult response now
  | .unit unit => { s with unit := unit }
  | .surface surface => { s with renderer := { s.renderer with surface := surface } }

/-- The effects of a step. -/
def effects (s : Session δ σ) (now : Nat) : Step δ σ → List Effect
  | .operate operation => s.operationEffects now operation
  | .deliver response => s.resultEffects response now
  | .unit _ => []
  | .surface _ => []

/-- The session after a run. -/
def after (s : Session δ σ) (steps : List (Nat × Step δ σ)) : Session δ σ :=
  steps.foldl (fun s e => s.step e.1 e.2) s

/-- The history of a run. -/
def history (s : Session δ σ) : List (Nat × Step δ σ) → History
  | [] => []
  | (now, step) :: rest => (s.effects now step).map (now, ·) ++ (s.step now step).history rest

theorem after_append (s : Session δ σ) (steps more : List (Nat × Step δ σ)) :
    s.after (steps ++ more) = (s.after steps).after more :=
  List.foldl_append

theorem history_append (s : Session δ σ) (steps more : List (Nat × Step δ σ)) :
    s.history (steps ++ more) = s.history steps ++ (s.after steps).history more := by
  induction steps generalizing s with
  | nil => rfl
  | cons first rest ih => simp [history, after, ih]

end Session

end LivePreview
