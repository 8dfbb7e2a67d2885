import LivePreview.Session
import LivePreview.Transformer

/-!
# The host loop

The host drives a session from three sources: its own events, the responses of the compile unit,
and the session's timers. Time is simulated: nothing happens between the instants at which a source
has something, and a request is answered after a given delay.

What falls on the same instant is taken in a fixed order: responses first, then timers, then
events.

## Main definitions

* `LivePreview.Host.Event`: what the host can be told.
* `LivePreview.Host.DelayedUnit`: a compile unit that answers after a delay.
* `LivePreview.Host.run`: the whole loop, with a log of requests and documents.
-/

namespace LivePreview.Host

/-- What the host can be told. -/
inductive Event where
  /-- There are new files. -/
  | filesChanged (files : FileSet)
  /-- A compile attempt is wanted without an edit. -/
  | requestCompile (force : Bool)
  /-- The artifact is to be shown again. -/
  | refresh
  /-- The surface is to be blanked. -/
  | reset
  /-- The loop is to end. -/
  | shutdown

/-! ### The compile unit -/

/-- A compile unit that compiles each request at once and delivers the response later. -/
structure DelayedUnit (engine : Engine) where
  /-- What compiles the requests. -/
  transformer : Transformer
  /-- The delays of the next responses; without one a response comes at once. -/
  delays : List Nat
  /-- The present instant. -/
  now : Nat
  /-- The requests taken, the latest first. -/
  requests : List Request
  /-- The responses on their way with the instants of their arrival, in the order in which they
  arrive. -/
  inFlight : List (Nat × Response)

namespace DelayedUnit

variable {engine : Engine}

/-- A unit that has taken nothing. -/
def start (transformer : Transformer) (delays : List Nat) : DelayedUnit engine :=
  ⟨transformer, delays, 0, [], []⟩

/-- Responses on their way with one more, behind those that arrive no later. -/
def schedule (arrival : Nat) (response : Response) :
    List (Nat × Response) → List (Nat × Response)
  | [] => [(arrival, response)]
  | (other, r) :: rest =>
    if arrival < other then (arrival, response) :: (other, r) :: rest
    else (other, r) :: schedule arrival response rest

/-- Takes a request. -/
def take (u : DelayedUnit engine) (request : Request) : DelayedUnit engine :=
  match u.transformer.handle engine request with
  | (response, t) =>
    { u with
      transformer := t
      delays := u.delays.tail
      requests := request :: u.requests
      inFlight := schedule (u.now + u.delays.headD 0) response u.inFlight }

instance : CompileUnit (DelayedUnit engine) where
  ready _ := true
  dispatch u request := (u.take request, .ok ())

end DelayedUnit

/-! ### The loop -/

/-- An entry of the log. -/
inductive Note where
  /-- A request went to the compile unit. -/
  | request (sequence : Nat) (fingerprint : Fingerprint)
  /-- A document was shown. -/
  | document (html : String)

/-- A session on a delayed unit. -/
abbrev Run (engine : Engine) := Session (DelayedUnit engine) RecordingSurface

/-- The session and what happened so far, the latest first. -/
structure State (engine : Engine) where
  /-- The session. -/
  session : Run engine
  /-- The log with the instants. -/
  log : List (Nat × Note)

variable {engine : Engine}

/-- The newest of some items that were put in front of older ones, in the order in which they
came. -/
def newest {α : Type} (older newer : List α) : List α :=
  (newer.take (newer.length - older.length)).reverse

/-- Runs one operation of the session at an instant, and notes what it did. An operation shows its
document before it hands a request over. -/
def State.act (st : State engine) (now : Nat) (f : Run engine → Run engine) : State engine :=
  let before := st.session
  let after := f { before with unit := { before.unit with now := now } }
  let documents := newest before.renderer.surface.shown after.renderer.surface.shown
  let requests := newest before.unit.requests after.unit.requests
  let notes := documents.map (fun html => (now, Note.document html)) ++
    requests.map fun r => (now, Note.request r.sequence r.files.fingerprint)
  ⟨after, notes.reverse ++ st.log⟩

/-- Delivers the first response on its way. -/
def deliver (response : Response) (now : Nat) (s : Run engine) : Run engine :=
  { s with unit := { s.unit with inFlight := s.unit.inFlight.tail } : Run engine }.applyResult
    response now

/-- The next response or timer that is due at `limit` or before, and not before `now`. -/
def next (st : State engine) (now limit : Nat) : Option (State engine × Nat) :=
  let timer := st.session.nextDeadline.map (max now)
  match st.session.unit.inFlight.head?, timer with
  | some (arrival, response), some deadline =>
    if arrival ≤ deadline then
      if arrival ≤ limit then some (st.act arrival (deliver response arrival), arrival) else none
    else if deadline ≤ limit then
      some (st.act deadline (·.pollTimers deadline), deadline)
    else none
  | some (arrival, response), none =>
    if arrival ≤ limit then some (st.act arrival (deliver response arrival), arrival) else none
  | none, some deadline =>
    if deadline ≤ limit then some (st.act deadline (·.pollTimers deadline), deadline) else none
  | none, none => none

/-- Lets time pass up to `limit`, taking at most `fuel` responses and timers. -/
def passFrom : Nat → State engine → Nat → Nat → State engine
  | 0, st, _, _ => st
  | fuel + 1, st, now, limit =>
    match next st now limit with
    | none => st
    | some (st, now) => passFrom fuel st now limit

/-- A bound on the responses and timers that follow one another without an event. A response brings
nothing new, each of two cooldowns ends once, and a waiting attempt brings at most one response or
one cooldown. -/
def State.activity (st : State engine) : Nat := st.session.unit.inFlight.length + 6

/-- Lets time pass up to `limit`. -/
def pass (st : State engine) (now limit : Nat) : State engine :=
  passFrom st.activity st now limit

/-- What an event does to the session. -/
def handle (event : Event) (now : Nat) (s : Run engine) : Run engine :=
  match event with
  | .filesChanged files => s.filesChanged files now
  | .requestCompile force => s.requestCompile force now
  | .refresh => s.refresh now
  | .reset => s.reset now
  | .shutdown => s

/-- Takes the events, each a given time after the one before, and lets time pass in between. After
the last one `tail` more milliseconds pass. Nothing happens after a shutdown. -/
def loop (st : State engine) (now tail : Nat) : List (Nat × Event) → State engine
  | [] => pass st now (now + tail)
  | (after, event) :: rest =>
    let st := pass st now (now + after)
    match event with
    | .shutdown => st
    | event =>
      loop (st.act (now + after) (handle event (now + after))) (now + after) tail rest

/-- Runs the host from instant 0. -/
def run (config : Config) (stamp : Nat) (delays : List Nat) (events : List (Nat × Event))
    (tail : Nat) : State engine :=
  let unit := DelayedUnit.start (Transformer.ofConfig config stamp) delays
  let session := Session.start config unit RecordingSurface.blank NameMap.empty
  loop ⟨session, []⟩ 0 tail events

end LivePreview.Host
