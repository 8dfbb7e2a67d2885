import LivePreview.Proofs.Compile.Inlining
import LivePreview.Proofs.Session.Deliveries
import LivePreview.Proofs.Session.Stages

/-!
# Convergence of a session and its worker

A session and a worker run at their own pace. The scheduler passes over file sets that it has handed
over, the worker keeps compiled files, and the renderer passes over a code that is showing.
Nevertheless, once no request waits and no response is on the way, the surface shows what the last
request compiles to from scratch.

By then the number of each request is stale, so the last request is the last one applied. From that
moment on the session presents its code, until the next request or reset.

## Main definitions

* `LivePreview.Session.Settled`: the code of the last request is presented once it is applied.
* `LivePreview.Session.Attuned`: the memories, the numbers and the stages fit together.
* `LivePreview.Session.workOff`: the worker works off its queue, and all responses arrive.

## Main results

* `LivePreview.Session.Attuned.move`, `LivePreview.Session.Attuned.work`,
  `LivePreview.Session.Attuned.deliver`: whatever happens keeps a session attuned.
* `LivePreview.Session.quiet_workOff`: from any state, the worker and the responses can be waited
  for.
* `LivePreview.Session.presents_of_quiet`: a session without requests and responses on the way
  presents the code of the last request.
-/

namespace LivePreview

namespace Session

variable {engine : Engine} {σ : Type} {s t : Session (Worker engine) σ} {h : History} {now : Nat}
  {e : List Effect} {config unitConfig : Config} {stamp : Nat}

/-! ### Attuned sessions -/

/-- The codes that some requests compile to. -/
def codesOf (engine : Engine) (unitConfig : Config) (stamp : Nat) (all : List Request) :
    Set String :=
  {code | ∃ q ∈ all, (Transformer.answer engine unitConfig stamp q).outcome = .code code}

/-- If the last request is the last applied one and compiles to a code, that code is presented. -/
def Settled (config unitConfig : Config) (stamp : Nat) (h : History)
    (s : Session (Worker engine) σ) : Prop :=
  ∀ q code, h.standing = some q → s.lastApplied = some q.sequence →
    (Transformer.answer engine unitConfig stamp q).outcome = .code code →
      Presents config h s (Artifact.ofCode code q.sequence)

variable [Surface σ]

theorem Move.alters (hmove : Move none now s e t) (hall : ShowsAll s.renderer.surface) :
    Alters s e t := by
  cases hmove with
  | taken _ hunit => exact .taken (Prod.mk.inj hunit).1.symm rfl rfl
  | untaken _ hunit => exact nomatch (Prod.mk.inj hunit).2
  | kept hresponse => exact nomatch hresponse
  | shown ha =>
    cases ha with
    | slot ha => exact .shown ⟨rfl, rfl, rfl⟩ ha ha rfl
  | refused _ hsurface => exact nomatch (hall.of_present hsurface).1
  | failed hresponse => exact nomatch hresponse
  | blanked => exact .cleared ⟨rfl, rfl, rfl⟩ rfl fun _ => rfl
  | unblanked => exact .cleared ⟨rfl, rfl, rfl⟩ rfl fun _ => rfl
  | resetLoop => exact .cleared ⟨rfl, rfl, rfl⟩ rfl fun _ => rfl
  | _ => exact .quiet ⟨rfl, rfl, rfl⟩ rfl rfl

/-- A session and its worker work together, after a history whose requests are among some. -/
structure Attuned (config unitConfig : Config) (stamp : Nat) (all : List Request) (h : History)
    (s : Session (Worker engine) σ) : Prop where
  /-- The memories of the session fit together. -/
  coherent : Coherent config (codesOf engine unitConfig stamp all) h s
  /-- The surface shows everything. -/
  showsAll : ShowsAll s.renderer.surface
  /-- Requests and responses are numbered. -/
  numbered : Numbered h s
  /-- Each request is in one of the stages. -/
  served : Served unitConfig stamp (all.map Request.files) h s
  /-- The code of the last request is presented once it is applied. -/
  settled : Settled config unitConfig stamp h s

variable {all : List Request}

theorem Attuned.settled_alters (hs : Attuned config unitConfig stamp all h s)
    (he : Alters s e t) : Settled config unitConfig stamp (h ++ e.map (now, ·)) t := by
  intro q code hstanding hlast hcode
  cases he with
  | quiet hk hslot hremembered =>
    rw [List.map_nil, List.append_nil] at hstanding
    have hp := hs.settled q code hstanding (hk.lastApplied ▸ hlast) hcode
    exact ⟨hslot.trans hp.artifact, hremembered.trans hp.remembered, by simpa using hp.shown⟩
  | shown hk hbefore hslot hremembered =>
    have hsame : h.standing = some q := by
      simpa [History.standing_concat, History.follow] using hstanding
    have hp := hs.settled q code hsame (hk.lastApplied ▸ hlast) hcode
    obtain rfl := Option.some.inj (hbefore.symm.trans hp.artifact)
    refine ⟨hslot, hremembered, ?_⟩
    rw [← hs.coherent.settings]
    exact History.lastShown_concat rfl
  | taken _ _ hlast' =>
    -- No number as high as that of the new request has been applied.
    obtain rfl : ⟨s.nextSequence, s.files⟩ = q := by
      simpa [History.standing_concat, History.follow] using hstanding
    obtain ⟨q', hq', heq⟩ := hs.numbered.applied s.nextSequence (hlast'.symm.trans hlast)
    exact absurd heq (hs.numbered.below q' hq').ne
  | cleared _ _ hfollow => simp [History.standing_concat, hfollow] at hstanding

/-- What a session does when no response comes in keeps it attuned. -/
theorem Attuned.move (hs : Attuned config unitConfig stamp all h s)
    (hmove : Move none now s e t) :
    Attuned config unitConfig stamp all (h ++ e.map (now, ·)) t where
  coherent := hs.coherent.move (by simp) hmove
  showsAll := hmove.performs.showsAll hs.showsAll
  numbered := hs.numbered.alters (hmove.alters hs.showsAll)
  served := hs.served.alters (hmove.alters hs.showsAll)
  settled := hs.settled_alters (hmove.alters hs.showsAll)

/-- The work of the worker keeps a session attuned. -/
theorem Attuned.work (ha : engine.Accepting) (hkeyed : ∀ q ∈ all, FileSet.Keyed q.files)
    (hdist : Compile.Distinguished (all.map Request.files)) (hall : ∀ q ∈ h.requests, q ∈ all)
    (hs : Attuned config unitConfig stamp all h s) :
    Attuned config unitConfig stamp all h { s with unit := s.unit.work } where
  coherent := ⟨hs.coherent.phase, hs.coherent.settings, hs.coherent.showing, hs.coherent.slot⟩
  showsAll := hs.showsAll
  numbered := hs.numbered.frame rfl (fun _ => id) rfl hs.numbered.applied
  served := hs.served.work ha (by simpa using hkeyed) hdist
    fun q hq => List.mem_map_of_mem (hall q hq)
  settled q code hstanding hlast hcode :=
    have hp := hs.settled q code hstanding hlast hcode
    ⟨hp.artifact, hp.remembered, hp.shown⟩

/-- As long as the surface shows everything, a response leads to no request and no reset. -/
theorem requests_applyResult (hphase : s.renderer.phase = .idle)
    (hall : ShowsAll s.renderer.surface) (h : History) (r : Response) (now : Nat) :
    (h ++ (s.resultEffects r now).map (now, ·)).requests = h.requests ∧
      (h ++ (s.resultEffects r now).map (now, ·)).standing = h.standing := by
  rcases resultEffects_cases hphase hall r now with heffects | ⟨html, heffects⟩
  · simp [heffects]
  · simp [heffects, History.requests_concat, History.standing_concat, Effect.request?,
      History.follow]

/-- An answer that is applied is presented if it is the one to the last request. -/
theorem Settled.deliver
    (hcodes : Set.InjOn Fingerprint.ofText (codesOf engine unitConfig stamp all))
    (hs : Settled config unitConfig stamp h s) (hnumbered : Numbered h s)
    (hreceptive : Receptive config (codesOf engine unitConfig stamp all) h s) {q : Request}
    (hq : q ∈ h.requests) (hall : q ∈ all) (now : Nat) :
    Settled config unitConfig stamp
      (h ++ (s.resultEffects (Transformer.answer engine unitConfig stamp q) now).map (now, ·))
      (s.applyResult (Transformer.answer engine unitConfig stamp q) now) := by
  intro last code hstanding hlast hcode
  rw [(requests_applyResult hreceptive.phase hreceptive.showsAll h _ now).2] at hstanding
  rw [lastApplied_applyResult hreceptive.phase hreceptive.showsAll] at hlast
  cases hstale : s.stale (Transformer.answer engine unitConfig stamp q).sequence with
  | true =>
    rw [hstale, if_pos rfl] at hlast
    rw [Transformer.sequence_answer] at hstale
    simpa [applyResult, resultEffects, hstale] using hs last code hstanding hlast hcode
  | false =>
    -- The numbers of requests are different, so it is the answer to the last one.
    rw [hstale, if_neg (by simp)] at hlast
    obtain rfl : q = last := hnumbered.distinct q hq last (hnumbered.standing last hstanding).1
      (Option.some.inj hlast)
    have hanswer : Transformer.answer engine unitConfig stamp q = ⟨q.sequence, .code code⟩ := by
      rw [← hcode]
      rfl
    rw [hanswer] at hstale ⊢
    exact (hreceptive.presents hcodes hstale ⟨q, hall, hcode⟩ now).1

/-- The arrival of a response keeps a session attuned. -/
theorem Attuned.deliver
    (hcodes : Set.InjOn Fingerprint.ofText (codesOf engine unitConfig stamp all))
    (hall : ∀ q ∈ h.requests, q ∈ all) (hs : Attuned config unitConfig stamp all h s) {i : Nat}
    {r : Response} (hr : s.unit.responses[i]? = some r) (now : Nat) :
    let t : Session (Worker engine) σ := { s with unit := s.unit.remove i }
    Attuned config unitConfig stamp all (h ++ (t.resultEffects r now).map (now, ·))
      (t.applyResult r now) := by
  intro t
  obtain ⟨q, hq, rfl⟩ := hs.served.answers r (List.mem_of_getElem? hr)
  have hcoherent : Coherent config (codesOf engine unitConfig stamp all) h t :=
    ⟨hs.coherent.phase, hs.coherent.settings, hs.coherent.showing, hs.coherent.slot⟩
  have hreceptive : Receptive config (codesOf engine unitConfig stamp all) h t :=
    ⟨hcoherent.phase, hcoherent.settings, hs.showsAll, hcoherent.showing⟩
  have hnumbered : Numbered h t := hs.numbered.frame rfl (fun _ => id) rfl hs.numbered.applied
  have hsettled : Settled config unitConfig stamp h t := fun q code hstanding hlast hcode =>
    have hp := hs.settled q code hstanding hlast hcode
    ⟨hp.artifact, hp.remembered, hp.shown⟩
  obtain ⟨hunit, hnext, -⟩ := applyResult_frame hcoherent.phase hs.showsAll
    (Transformer.answer engine unitConfig stamp q) now
  obtain ⟨hrequests, hstanding⟩ := requests_applyResult hcoherent.phase hs.showsAll h
    (Transformer.answer engine unitConfig stamp q) now
  constructor
  · exact hcoherent.applyResult (fun text htext => ⟨q, hall q hq, htext⟩) now
  · exact (performs_applyResult t _ now).showsAll hs.showsAll
  · refine hnumbered.frame hrequests (fun _ => by rw [hstanding]; exact id) hnext fun n hn => ?_
    rw [lastApplied_applyResult hcoherent.phase hs.showsAll] at hn
    split at hn
    · exact hnumbered.applied n hn
    · exact ⟨q, hq, Option.some.inj hn⟩
  · exact hs.served.deliver hr hunit (fun _ => hreceptive.stale_applyResult) hrequests
  · exact hsettled.deliver hcodes hnumbered hreceptive hq (hall q hq) now

/-! ### Runs -/

theorem turn_deliver {i : Nat} {r : Response} (hr : s.unit.responses[i]? = some r) (now : Nat) :
    let t : Session (Worker engine) σ := { s with unit := s.unit.remove i }
    s.after (s.turn now (.deliver i)) = t.applyResult r now ∧
      s.history (s.turn now (.deliver i)) = (t.resultEffects r now).map (now, ·) := by
  simp [turn, hr, after, history, step, effects]

/-- Whatever happens to a session whose requests are among some keeps it attuned. -/
theorem Attuned.turn (ha : engine.Accepting) (hkeyed : ∀ q ∈ all, FileSet.Keyed q.files)
    (hdist : Compile.Distinguished (all.map Request.files))
    (hcodes : Set.InjOn Fingerprint.ofText (codesOf engine unitConfig stamp all))
    (hall : ∀ q ∈ h.requests, q ∈ all) (hs : Attuned config unitConfig stamp all h s)
    (now : Nat) (turn : Turn) :
    Attuned config unitConfig stamp all (h ++ s.history (s.turn now turn))
      (s.after (s.turn now turn)) := by
  cases turn with
  | operate operation =>
    have hmoves : Moves none now s _ _ := moves_operate s hs.coherent.phase operation
    simpa [Session.turn, history, after, effects, step] using
      hmoves.induct (P := Attuned config unitConfig stamp all) Attuned.move hs
  | work =>
    simpa [Session.turn, history, after, effects, step] using hs.work ha hkeyed hdist hall
  | deliver i =>
    cases hr : s.unit.responses[i]? with
    | none => simpa [Session.turn, hr, history, after] using hs
    | some r =>
      obtain ⟨hafter, hhistory⟩ := turn_deliver hr now
      rw [hafter, hhistory]
      exact hs.deliver hcodes hall hr now

/-- Whatever happens to a session keeps it attuned, if in the end its requests are among some. -/
theorem Attuned.turns (ha : engine.Accepting) (hkeyed : ∀ q ∈ all, FileSet.Keyed q.files)
    (hdist : Compile.Distinguished (all.map Request.files))
    (hcodes : Set.InjOn Fingerprint.ofText (codesOf engine unitConfig stamp all))
    (hs : Attuned config unitConfig stamp all h s) (l : List (Nat × Turn))
    (hall : ∀ q ∈ History.requests (h ++ s.history (s.turns l)), q ∈ all) :
    Attuned config unitConfig stamp all (h ++ s.history (s.turns l)) (s.after (s.turns l)) := by
  induction l generalizing h s with
  | nil => simpa [Session.turns, history, after] using hs
  | cons first rest ih =>
    have hfirst := hs.turn ha hkeyed hdist hcodes
      (fun q hq => hall q (History.mem_requests_append hq _)) first.1 first.2
    rw [Session.turns, after_append, history_append, ← List.append_assoc] at *
    exact ih hfirst hall

theorem attuned_start (unit : Worker engine) (hunit : unit = Worker.start unitConfig stamp)
    {surface : σ} (hsurface : ShowsAll surface) (files : FileSet) :
    Attuned config unitConfig stamp all [] (start config unit surface files) where
  coherent := coherent_start unit surface files
  showsAll := hsurface
  numbered := ⟨by simp [History.requests], by simp [History.requests],
    by simp [History.standing], by simp [start]⟩
  served := by
    subst hunit
    exact ⟨rfl, rfl, fun _ => Compile.soundCache_empty, by simp [start, Worker.start],
      by simp [start, Worker.start], by simp [History.requests]⟩
  settled := by simp [Settled, History.standing]

/-- Once nothing waits and nothing is on the way, the last request is the last one applied. -/
theorem Attuned.lastApplied_eq (hs : Attuned config unitConfig stamp all h s)
    (hrequests : s.unit.requests = []) (hresponses : s.unit.responses = []) {q : Request}
    (hstanding : h.standing = some q) : s.lastApplied = some q.sequence := by
  obtain ⟨hq, hnext⟩ := hs.numbered.standing q hstanding
  have hstale : s.stale q.sequence = true := by
    simpa [hrequests, hresponses] using hs.served.staged q hq
  obtain ⟨last, hlast, hle⟩ := stale_eq_true_iff.1 hstale
  obtain ⟨q', hq', rfl⟩ := hs.numbered.applied last hlast
  have hlt := hs.numbered.below q' hq'
  rw [hlast, show q'.sequence = q.sequence by omega]

/-! ### Quiet sessions -/

/-- The worker works off its queue, and then all responses arrive. -/
def workOff (s : Session (Worker engine) σ) (now : Nat) : List (Nat × Turn) :=
  List.replicate s.unit.requests.length (now, .work) ++
    List.replicate (s.unit.responses.length + s.unit.requests.length) (now, .deliver 0)

/-- A worker that works off its queue responds to all requests, one after another. -/
theorem after_works (s : Session (Worker engine) σ) (now : Nat) :
    ∃ unit : Worker engine, unit.requests = [] ∧
      unit.responses = s.unit.responses ++ s.unit.transformer.handleAll engine s.unit.requests ∧
      s.after (s.turns (List.replicate s.unit.requests.length (now, .work))) =
        { s with unit := unit } ∧
      s.history (s.turns (List.replicate s.unit.requests.length (now, .work))) = [] := by
  generalize hqueue : s.unit.requests = queue
  induction queue generalizing s with
  | nil => exact ⟨s.unit, hqueue, by simp [Transformer.handleAll], rfl, rfl⟩
  | cons q rest ih =>
    have hwork : s.unit.work = ⟨(s.unit.transformer.handle engine q).2, rest,
        s.unit.responses ++ [(s.unit.transformer.handle engine q).1]⟩ := by
      rw [Worker.work, hqueue]
    obtain ⟨unit, hrequests, hresponses, hafter, hhistory⟩ :=
      ih { s with unit := s.unit.work } (by rw [hwork])
    refine ⟨unit, hrequests, ?_, hafter, hhistory⟩
    rw [hresponses, hwork, Transformer.handleAll, List.append_assoc]
    rfl

/-- As long as the surface shows everything, responses that arrive leave the requests as they are,
and lead to no request and no reset. -/
theorem after_arrivals (hphase : s.renderer.phase = .idle) (hall : ShowsAll s.renderer.surface)
    (h : History) (now : Nat) :
    let arrivals := s.turns (List.replicate s.unit.responses.length (now, .deliver 0))
    (s.after arrivals).unit.requests = s.unit.requests ∧ (s.after arrivals).unit.responses = [] ∧
      (h ++ s.history arrivals).requests = h.requests ∧
      (h ++ s.history arrivals).standing = h.standing := by
  generalize hqueue : s.unit.responses = queue
  induction queue generalizing h s with
  | nil => simp [turns, after, history, hqueue]
  | cons r rest ih =>
    have hr : s.unit.responses[0]? = some r := by simp [hqueue]
    let t : Session (Worker engine) σ := { s with unit := s.unit.remove 0 }
    have hrest : t.unit.responses = rest := by simp [t, Worker.remove, hqueue]
    obtain ⟨hafter, hhistory⟩ := turn_deliver hr now
    obtain ⟨hunit, -, -⟩ := applyResult_frame (s := t) hphase hall r now
    obtain ⟨hrequests, hstanding⟩ := requests_applyResult (s := t) hphase hall h r now
    have hmoves : Moves (some r) now t _ _ := moves_applyResult t hphase r
    obtain ⟨hwaiting, hnone, hrequests', hstanding'⟩ :=
      ih (hmoves.phase hphase) ((performs_applyResult t r now).showsAll hall)
        (h ++ (t.resultEffects r now).map (now, ·)) (by rw [hunit, hrest])
    dsimp only
    rw [List.length_cons, List.replicate_succ, turns, after_append, history_append, hafter,
      hhistory, ← List.append_assoc]
    exact ⟨hwaiting.trans (by rw [hunit]; rfl), hnone, hrequests'.trans hrequests,
      hstanding'.trans hstanding⟩

/-- Once the worker has worked off its queue and all responses have arrived, nothing waits and
nothing is on the way. This takes no further request and no reset. -/
theorem quiet_workOff (hphase : s.renderer.phase = .idle) (hall : ShowsAll s.renderer.surface)
    (h : History) (now : Nat) :
    (s.after (s.turns (s.workOff now))).unit.requests = [] ∧
      (s.after (s.turns (s.workOff now))).unit.responses = [] ∧
      (h ++ s.history (s.turns (s.workOff now))).requests = h.requests ∧
      (h ++ s.history (s.turns (s.workOff now))).standing = h.standing := by
  obtain ⟨unit, hrequests, hresponses, hafter, hhistory⟩ := after_works s now
  have hlength : s.unit.responses.length + s.unit.requests.length = unit.responses.length := by
    rw [hresponses, List.length_append, Transformer.length_handleAll]
  rw [workOff, hlength, turns_append, after_append, history_append, hafter, hhistory,
    List.nil_append]
  obtain ⟨hwaiting, hquiet⟩ := after_arrivals (s := { s with unit := unit }) hphase hall h now
  exact ⟨hwaiting.trans hrequests, hquiet⟩

/-- Whatever is asked of a session, and whenever its worker compiles and its responses arrive, in
whatever order: if no request waits and no response is on the way, and no reset has passed or
tripped its guard since the last request, then the session presents the code that the files of the
last request compile to from scratch, if they do. What is shown, then, is the last document that the
surface was handed, for the run enacts its history. The surface has to show everything, the engine
to write whatever it reads, files have to be under their own names, and fingerprints have to tell
apart the codes, and the files of one name. -/
theorem presents_of_quiet (ha : engine.Accepting) (config unitConfig : Config) (stamp : Nat)
    {surface : σ} (hsurface : ShowsAll surface) (files : FileSet) (l : List (Nat × Turn))
    {before s : Session (Worker engine) σ} {h : History}
    (hbefore : before = start config (Worker.start unitConfig stamp) surface files)
    (hs : s = before.after (before.turns l)) (hh : h = before.history (before.turns l))
    (hkeyed : ∀ q ∈ h.requests, FileSet.Keyed q.files)
    (hdist : Compile.Distinguished (h.requests.map Request.files))
    (hcodes : Set.InjOn Fingerprint.ofText {code | ∃ q ∈ h.requests,
      ((Transformer.ofConfig unitConfig stamp).compile engine q.files).1 = .ok code})
    (hrequests : s.unit.requests = []) (hresponses : s.unit.responses = []) {request : Request}
    (hstanding : h.standing = some request) {code : String}
    (hcode : ((Transformer.ofConfig unitConfig stamp).compile engine request.files).1 = .ok code) :
    Enacts (Worker.start unitConfig stamp) surface (before.turns l) h s.unit s.renderer.surface ∧
      Presents config h s (Artifact.ofCode code request.sequence) := by
  have henacts := enacts_after before (before.turns l)
  rw [← hs, ← hh, hbefore] at henacts
  rw [hbefore]
  refine ⟨henacts, ?_⟩
  have hset : codesOf engine unitConfig stamp h.requests = {code | ∃ q ∈ h.requests,
      ((Transformer.ofConfig unitConfig stamp).compile engine q.files).1 = .ok code} := by
    simp only [codesOf, Transformer.outcome_answer]
  have hstart : Attuned config unitConfig stamp h.requests [] before := by
    rw [hbefore]
    exact attuned_start _ rfl hsurface files
  have hattuned : Attuned config unitConfig stamp h.requests h s := by
    have hturns := hstart.turns ha hkeyed hdist (hset ▸ hcodes) l
    rw [List.nil_append, ← hh, ← hs] at hturns
    exact hturns fun _ => id
  exact hattuned.settled request code hstanding
    (hattuned.lastApplied_eq hrequests hresponses hstanding) (Transformer.outcome_answer.2 hcode)

/-- An entry with a module that imports some name. -/
def namingFiles (name : String) : FileSet :=
  FileSet.ofFiles [⟨"main.ts", "import './a'\nimport 'createApp.mount.__vue_app__'\n", .script⟩,
    ⟨"a.ts", "import '" ++ name ++ "'\n", .script⟩]

/-- What the files compile to, when the module is inlined as some Base64 text. -/
def namingCode (inlined : String) : String :=
  "import \"data:application/javascript;base64," ++ inlined ++
    "\";\nimport \"createApp.mount.__vue_app__\";\n"

/-- What the files compile to from scratch. -/
theorem compile_namingFiles :
    ((Transformer.ofConfig Config.standard 0).compile Compile.bareEngine (namingFiles "x")).1 =
        .ok (namingCode "aW1wb3J0ICJ4IjsK") ∧
      ((Transformer.ofConfig Config.standard 0).compile Compile.bareEngine (namingFiles "y")).1 =
        .ok (namingCode "aW1wb3J0ICJ5IjsK") := by
  have hwithin (name : String) : ((Transformer.ofConfig Config.standard 0).compile
      Compile.bareEngine (namingFiles name)).1 = (Compile.compileWithin Compile.bareEngine
        ⟨Config.standard, namingFiles name, 0⟩ (fun cache => (.error .emptyOutput, cache))
        (namingFiles name).size Cache.empty).1 := by
    rw [Compile.compileWithin_eq_compile]
    rfl
  rw [hwithin, hwithin]
  exact ⟨by decide +kernel, by decide +kernel⟩

/-- A session at its start, with the standard settings. -/
def namingStart : Session (Worker Compile.bareEngine) FlakySurface :=
  start Config.standard (Worker.start Config.standard 0) FlakySurface.blank NameMap.empty

/-- Two requests, the second one before the worker gets to the first one. -/
def namingEdits : List (Nat × Turn) :=
  [(0, .operate (.filesChanged (namingFiles "x"))), (200, .operate .pollTimers),
    (250, .operate (.setFiles (namingFiles "y"))), (260, .operate (.compileNow false))]

/-- The session after the two requests. -/
def namingEdited : Session (Worker Compile.bareEngine) FlakySurface :=
  namingStart.after (namingStart.turns namingEdits)

/-- The two requests, both of which the worker compiles before the responses arrive. -/
def namingTurns : List (Nat × Turn) := namingEdits ++ namingEdited.workOff 300

/-- Of two requests that are compiled one after the other, the code of the second is presented in
the end. -/
theorem presents_of_quiet_naming :
    (namingStart.history (namingStart.turns namingTurns)).requests =
        [⟨1, namingFiles "x"⟩, ⟨2, namingFiles "y"⟩] ∧
      Presents Config.standard (namingStart.history (namingStart.turns namingTurns))
        (namingStart.after (namingStart.turns namingTurns))
        (Artifact.ofCode (namingCode "aW1wb3J0ICJ5IjsK") 2) := by
  have ha : Compile.bareEngine.Accepting := fun _ _ _ _ _ => ⟨_, rfl⟩
  have hphase : namingEdited.renderer.phase = .idle := by
    rw [namingEdited]
    exact phase_after (s := namingStart) rfl _
  have hedited : ShowsAll namingEdited.renderer.surface := showsAll_flaky (by decide +kernel)
  obtain ⟨hwaiting, harriving, hrequests, hstanding⟩ := quiet_workOff hphase hedited
    (namingStart.history (namingStart.turns namingEdits)) 300
  have hafter : namingEdited.after (namingEdited.turns (namingEdited.workOff 300)) =
      namingStart.after (namingStart.turns namingTurns) := by
    rw [namingTurns, turns_append, after_append, namingEdited]
  have hhistory : namingStart.history (namingStart.turns namingEdits) ++
      namingEdited.history (namingEdited.turns (namingEdited.workOff 300)) =
        namingStart.history (namingStart.turns namingTurns) := by
    rw [namingTurns, turns_append, history_append, namingEdited]
  rw [hafter] at hwaiting harriving
  rw [hhistory] at hrequests hstanding
  replace hrequests : (namingStart.history (namingStart.turns namingTurns)).requests =
      [⟨1, namingFiles "x"⟩, ⟨2, namingFiles "y"⟩] := hrequests.trans (by decide +kernel)
  replace hstanding : (namingStart.history (namingStart.turns namingTurns)).standing =
      some ⟨2, namingFiles "y"⟩ := hstanding.trans (by decide +kernel)
  have hdist : Compile.Distinguished [namingFiles "x", namingFiles "y"] := by decide +kernel
  have hapart : Fingerprint.ofText (namingCode "aW1wb3J0ICJ4IjsK") ≠
      Fingerprint.ofText (namingCode "aW1wb3J0ICJ5IjsK") := by decide +kernel
  obtain ⟨hx, hy⟩ := compile_namingFiles
  have hstart : namingStart = start Config.standard (Worker.start Config.standard 0)
    FlakySurface.blank NameMap.empty := rfl
  refine ⟨hrequests, (presents_of_quiet ha Config.standard Config.standard 0 (showsAll_flaky rfl)
    NameMap.empty namingTurns hstart rfl rfl ?_ ?_ ?_ hwaiting harriving hstanding hy).2⟩
  · rw [hrequests]
    simp [namingFiles, FileSet.keyed_ofFiles]
  · rw [hrequests]
    exact hdist
  · rw [hrequests]
    rintro c ⟨q, hq, hc⟩ c' ⟨q', hq', hc'⟩ heq
    rw [List.mem_cons, List.mem_singleton] at hq hq'
    rcases hq with rfl | rfl <;> rcases hq' with rfl | rfl
    · exact Except.ok.inj (hc.symm.trans hc')
    · obtain rfl := Except.ok.inj (hx.symm.trans hc)
      obtain rfl := Except.ok.inj (hy.symm.trans hc')
      exact absurd heq hapart
    · obtain rfl := Except.ok.inj (hy.symm.trans hc)
      obtain rfl := Except.ok.inj (hx.symm.trans hc')
      exact absurd heq.symm hapart
    · exact Except.ok.inj (hc.symm.trans hc')

end Session

end LivePreview
