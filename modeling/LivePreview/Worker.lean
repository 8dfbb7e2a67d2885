import LivePreview.Session.Run
import LivePreview.Transformer

/-!
# Compile units behind queues

A worker compiles on its own. The session puts requests into its queue and never waits; whenever
the worker gets to it, it compiles the oldest request with its one transformer and puts the
response on the way back.

## Main definitions

* `LivePreview.Worker`: a worker with its two queues.
* `LivePreview.Worker.work`: the oldest request is compiled.
* `LivePreview.Worker.remove`: a response arrives.
* `LivePreview.Turn`: what happens to a session with a worker.
* `LivePreview.Session.turns`: the steps in which it happens.
-/

namespace LivePreview

/-- A compile unit behind two queues. -/
structure Worker (engine : Engine) where
  /-- What compiles the requests. -/
  transformer : Transformer
  /-- The requests that wait, the oldest first. -/
  requests : List Request
  /-- The responses on their way, the oldest first. -/
  responses : List Response

namespace Worker

variable {engine : Engine}

/-- A worker that has taken nothing. -/
def start (config : Config) (stamp : Nat) : Worker engine :=
  ⟨Transformer.ofConfig config stamp, [], []⟩

instance : CompileUnit (Worker engine) where
  ready _ := true
  dispatch w request := ({ w with requests := w.requests ++ [request] }, .ok ())

/-- Compiles the oldest request. -/
def work (w : Worker engine) : Worker engine :=
  match w.requests with
  | [] => w
  | request :: rest =>
    match w.transformer.handle engine request with
    | (response, t) => ⟨t, rest, w.responses ++ [response]⟩

/-- The worker without the response at an index, counted from the oldest one. -/
def remove (w : Worker engine) (i : Nat) : Worker engine :=
  { w with responses := w.responses.eraseIdx i }

end Worker

/-- What happens to a session with a worker. -/
inductive Turn where
  /-- The session is asked to do something. -/
  | operate (operation : Operation)
  /-- The worker compiles the oldest request. -/
  | work
  /-- The response at an index arrives, if there is one. -/
  | deliver (i : Nat)

namespace Session

variable {engine : Engine} {σ : Type} [Surface σ]

/-- The steps of what happens. -/
def turn (s : Session (Worker engine) σ) (now : Nat) : Turn → List (Nat × Step (Worker engine) σ)
  | .operate operation => [(now, .operate operation)]
  | .work => [(now, .unit s.unit.work)]
  | .deliver i =>
    match s.unit.responses[i]? with
    | none => []
    | some response => [(now, .unit (s.unit.remove i)), (now, .deliver response)]

/-- The steps of what happens at some instants. -/
def turns (s : Session (Worker engine) σ) :
    List (Nat × Turn) → List (Nat × Step (Worker engine) σ)
  | [] => []
  | (now, turn) :: rest => s.turn now turn ++ (s.after (s.turn now turn)).turns rest

theorem turns_append (s : Session (Worker engine) σ) (l more : List (Nat × Turn)) :
    s.turns (l ++ more) = s.turns l ++ (s.after (s.turns l)).turns more := by
  induction l generalizing s with
  | nil => rfl
  | cons first rest ih => simp [turns, ih, after_append]

end Session

end LivePreview
