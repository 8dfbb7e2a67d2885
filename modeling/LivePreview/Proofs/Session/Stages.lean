import LivePreview.Proofs.Transformer
import LivePreview.Worker

/-!
# The stages of requests

Requests wait in the queue of a worker, and responses in a queue of their own, in which they may
overtake each other. Each request goes through three stages: it waits, its response is on the way,
its number is stale. The response is what a transformer answers that has compiled nothing yet, since
the cache of the worker does not show.

A request that is handed over has a number above all others. So numbers tell requests apart, and the
last request that no reset came after has the highest one.

## Main definitions

* `LivePreview.Transformer.answer`: the response of a transformer that has compiled nothing yet.
* `LivePreview.Session.Alters`: what a session may do to its worker and its numbers.
* `LivePreview.Session.Numbered`: the numbers of requests and responses.
* `LivePreview.Session.Served`: the stages of requests.

## Main results

* `LivePreview.Transformer.handle_eq_answer`: a sound cache does not show.
* `LivePreview.Session.Numbered.alters`, `LivePreview.Session.Served.alters`: what a session does
  keeps numbers and stages.
* `LivePreview.Session.Served.work`, `LivePreview.Session.Served.deliver`: so does the worker, and
  so do responses that arrive.
-/

namespace LivePreview

/-! ### Answers -/

namespace Transformer

variable {engine : Engine} {seen : List FileSet} {t : Transformer} {request : Request}

/-- The response to a request of a transformer that has compiled nothing yet. -/
def answer (engine : Engine) (config : Config) (stamp : Nat) (request : Request) : Response :=
  ((ofConfig config stamp).handle engine request).1

/-- A transformer with a sound cache responds as one that has compiled nothing yet. -/
theorem handle_eq_answer (ha : engine.Accepting) (hkeyed : ∀ files ∈ seen, FileSet.Keyed files)
    (hdist : Compile.Distinguished seen) (hrequest : request.files ∈ seen)
    (hsound : Sound engine seen t) :
    (t.handle engine request).1 = answer engine t.config t.stamp request := by
  have hcached := (Compile.compile_eq_plain ha hkeyed hdist hrequest (hsound request.files)).1
  have hfresh : ((ofConfig t.config t.stamp).compile engine request.files).1 =
      Compile.plainCompile engine (t.job request.files) :=
    (Compile.compile_eq_plain ha hkeyed hdist hrequest Compile.soundCache_empty).1
  have hcompile : (t.compile engine request.files).1 =
      ((ofConfig t.config t.stamp).compile engine request.files).1 := hcached.trans hfresh.symm
  simp only [answer, handle, attempt]
  split
  · rfl
  · exact congrArg (fun result => Response.mk request.sequence
      (outcome t.config.inMemoryMarker result)) hcompile

/-- Each request gets one response. -/
theorem length_handleAll (t : Transformer) (requests : List Request) :
    (t.handleAll engine requests).length = requests.length := by
  induction requests generalizing t with
  | nil => rfl
  | cons request rest ih => simp [handleAll, ih]

/-- An answer carries the number of its request. -/
@[simp] theorem sequence_answer {config : Config} {stamp : Nat} :
    (answer engine config stamp request).sequence = request.sequence := rfl

/-- An answer holds a code if and only if the files compile to that code. -/
theorem outcome_answer {config : Config} {stamp : Nat} {code : String} :
    (answer engine config stamp request).outcome = .code code ↔
      ((ofConfig config stamp).compile engine request.files).1 = .ok code := by
  have houtcome (result : Except CompileError String) :
      outcome config.inMemoryMarker result = .code code ↔ result = .ok code := by
    cases result <;> simp [outcome]
  by_cases hempty : request.files.isEmpty
  · -- There is no entry in an empty set.
    have hentries : request.files.entries = [] := by simpa [NameMap.isEmpty] using hempty
    have hentry : Compile.entry? ((ofConfig config stamp).job request.files) = none := by
      simp [Compile.entry?, job, NameMap.get?, hentries, NameMap.find?]
    have hcompile : ((ofConfig config stamp).compile engine request.files).1 =
        .error (.entryMissing config.entryFile) := by
      simp only [compile, Compile.compile, hentry]
      rfl
    simp [answer, handle, attempt, hempty, outcome, hcompile]
  · simp only [answer, handle, attempt, hempty]
    exact houtcome _

end Transformer

/-! ### Requests of a history -/

namespace History

theorem requests_concat (h : History) (now : Nat) (e : Effect) :
    requests (h ++ [(now, e)]) = h.requests ++ e.request?.toList := by
  cases he : e.request? <;> simp [requests, List.filterMap_append, he]

theorem standing_concat (h : History) (now : Nat) (e : Effect) :
    standing (h ++ [(now, e)]) = follow h.standing e := by
  simp [standing]

/-- A request stays in the history. -/
theorem mem_requests_append {h : History} {q : Request} (hq : q ∈ h.requests) (more : History) :
    q ∈ requests (h ++ more) := by
  rw [requests, List.filterMap_append]
  exact List.mem_append_left _ hq

end History

namespace Session

variable {engine : Engine} {σ : Type} {s t : Session (Worker engine) σ}
  {h h' : History} {now : Nat} {e : List Effect} {config unitConfig : Config} {stamp : Nat}

/-! ### What a move does to a session with a worker -/

/-- The worker and the numbers are the same. -/
structure Keeps (s t : Session (Worker engine) σ) : Prop where
  /-- The worker is the same. -/
  unit : t.unit = s.unit
  /-- The number of the next request is the same. -/
  nextSequence : t.nextSequence = s.nextSequence
  /-- The number of the last applied response is the same. -/
  lastApplied : t.lastApplied = s.lastApplied

/-- What a move may do as long as the surface shows everything and no response comes in. -/
inductive Alters (s : Session (Worker engine) σ) : List Effect → Session (Worker engine) σ → Prop
  where
  /-- What is presented stays. -/
  | quiet {t : Session (Worker engine) σ} (h : Keeps s t) (hslot : t.artifact = s.artifact)
    (hremembered : t.renderer.lastInjected = s.renderer.lastInjected) : Alters s [] t
  /-- The artifact in the slot is shown. -/
  | shown {t : Session (Worker engine) σ} {a : Artifact} (h : Keeps s t)
    (hbefore : s.artifact = some a) (hslot : t.artifact = some a)
    (hremembered : t.renderer.lastInjected = some a.fingerprint) :
    Alters s [.document (Document.build a.code s.renderer.config) true] t
  /-- A request goes to the worker's queue. -/
  | taken {t : Session (Worker engine) σ}
    (hunit : t.unit = ⟨s.unit.transformer, s.unit.requests ++ [⟨s.nextSequence, s.files⟩],
      s.unit.responses⟩)
    (hnext : t.nextSequence = s.nextSequence + 1) (hlast : t.lastApplied = s.lastApplied) :
    Alters s [.request ⟨s.nextSequence, s.files⟩ true] t
  /-- A reset passes its guard, or trips it. -/
  | cleared {t : Session (Worker engine) σ} {effect : Effect} (h : Keeps s t)
    (hrequest : effect.request? = none) (hfollow : ∀ last, History.follow last effect = none) :
    Alters s [effect] t

/-! ### Numbers -/

/-- Requests have different numbers, below the next one. The last one that no reset came after has
the highest. The last applied number is that of a request. -/
structure Numbered (h : History) (s : Session (Worker engine) σ) : Prop where
  /-- All numbers are below the next one. -/
  below : ∀ q ∈ h.requests, q.sequence < s.nextSequence
  /-- Different requests have different numbers. -/
  distinct : ∀ q ∈ h.requests, ∀ q' ∈ h.requests, q.sequence = q'.sequence → q = q'
  /-- The last request that no reset came after has the highest number. -/
  standing : ∀ q, h.standing = some q → q ∈ h.requests ∧ s.nextSequence = q.sequence + 1
  /-- The last applied number is that of a request. -/
  applied : ∀ n, s.lastApplied = some n → ∃ q ∈ h.requests, q.sequence = n

theorem Numbered.frame (hs : Numbered h s) (hrequests : h'.requests = h.requests)
    (hstanding : ∀ q, h'.standing = some q → h.standing = some q)
    (hnext : t.nextSequence = s.nextSequence)
    (hlast : ∀ n, t.lastApplied = some n → ∃ q ∈ h.requests, q.sequence = n) :
    Numbered h' t where
  below := by rw [hrequests, hnext]; exact hs.below
  distinct := by rw [hrequests]; exact hs.distinct
  standing q hq := by rw [hrequests, hnext]; exact hs.standing q (hstanding q hq)
  applied := by rw [hrequests]; exact hlast

theorem Numbered.alters (hs : Numbered h s) (he : Alters s e t) :
    Numbered (h ++ e.map (now, ·)) t := by
  cases he with
  | quiet hk =>
    exact hs.frame (by simp) (by simp) hk.nextSequence (hk.lastApplied ▸ hs.applied)
  | shown hk =>
    exact hs.frame (by simp [History.requests_concat, Effect.request?])
      (by simp [History.standing_concat, History.follow]) hk.nextSequence
      (hk.lastApplied ▸ hs.applied)
  | cleared hk hrequest hfollow =>
    exact hs.frame (by simp [History.requests_concat, hrequest])
      (by simp [History.standing_concat, hfollow]) hk.nextSequence (hk.lastApplied ▸ hs.applied)
  | taken _ hnext hlast =>
    have hrequests : (h ++ [Effect.request ⟨s.nextSequence, s.files⟩ true].map (now, ·)).requests =
        h.requests ++ [⟨s.nextSequence, s.files⟩] := by
      simp [History.requests_concat, Effect.request?]
    constructor
    · intro q hq
      rw [hrequests, List.mem_append, List.mem_singleton] at hq
      rw [hnext]
      rcases hq with hq | rfl
      · exact Nat.lt_succ_of_lt (hs.below q hq)
      · exact Nat.lt_succ_self _
    · intro q hq q' hq' heq
      rw [hrequests, List.mem_append, List.mem_singleton] at hq hq'
      rcases hq with hq | rfl <;> rcases hq' with hq' | rfl
      · exact hs.distinct q hq q' hq' heq
      · exact absurd heq (hs.below q hq).ne
      · exact absurd heq (hs.below q' hq').ne'
      · rfl
    · intro q hq
      obtain rfl : ⟨s.nextSequence, s.files⟩ = q := by
        simpa [History.standing_concat, History.follow] using hq
      rw [hrequests]
      exact ⟨List.mem_append_right _ (List.mem_singleton_self _), hnext⟩
    · intro n hn
      obtain ⟨q, hq, rfl⟩ := hs.applied n (hlast ▸ hn)
      exact ⟨q, by rw [hrequests]; exact List.mem_append_left _ hq, rfl⟩

/-! ### Stages -/

/-- The worker compiles with some settings, and as if it had compiled nothing yet. Its queues hold
requests of the history, and answers to such requests. Each request waits, or its answer is on the
way, or its number is stale. -/
structure Served (unitConfig : Config) (stamp : Nat) (seen : List FileSet) (h : History)
    (s : Session (Worker engine) σ) : Prop where
  /-- The settings are the ones given. -/
  settings : s.unit.transformer.config = unitConfig
  /-- The clock shows the instant given. -/
  clock : s.unit.transformer.stamp = stamp
  /-- The cache holds what was compiled in some sets. -/
  sound : Transformer.Sound engine seen s.unit.transformer
  /-- What waits are requests of the history. -/
  waiting : ∀ q ∈ s.unit.requests, q ∈ h.requests
  /-- What is on the way are answers to requests of the history. -/
  answers : ∀ r ∈ s.unit.responses,
    ∃ q ∈ h.requests, r = Transformer.answer engine unitConfig stamp q
  /-- Each request is in one of the stages. -/
  staged : ∀ q ∈ h.requests, q ∈ s.unit.requests ∨
    Transformer.answer engine unitConfig stamp q ∈ s.unit.responses ∨ s.stale q.sequence = true

variable {seen : List FileSet}

theorem stale_congr (hlast : t.lastApplied = s.lastApplied) (n : Nat) : t.stale n = s.stale n := by
  simp only [stale, hlast]

theorem Served.frame (hs : Served unitConfig stamp seen h s) (hk : Keeps s t)
    (hrequests : h'.requests = h.requests) : Served unitConfig stamp seen h' t where
  settings := by rw [hk.unit]; exact hs.settings
  clock := by rw [hk.unit]; exact hs.clock
  sound := by rw [hk.unit]; exact hs.sound
  waiting := by rw [hk.unit, hrequests]; exact hs.waiting
  answers := by rw [hk.unit, hrequests]; exact hs.answers
  staged q hq := by
    rw [hk.unit, stale_congr hk.lastApplied]
    exact hs.staged q (hrequests ▸ hq)

theorem Served.alters (hs : Served unitConfig stamp seen h s) (he : Alters s e t) :
    Served unitConfig stamp seen (h ++ e.map (now, ·)) t := by
  cases he with
  | quiet hk => exact hs.frame hk (by simp)
  | shown hk => exact hs.frame hk (by simp [History.requests_concat, Effect.request?])
  | cleared hk hrequest => exact hs.frame hk (by simp [History.requests_concat, hrequest])
  | taken hunit _ hlast =>
    have hrequests : (h ++ [Effect.request ⟨s.nextSequence, s.files⟩ true].map (now, ·)).requests =
        h.requests ++ [⟨s.nextSequence, s.files⟩] := by
      simp [History.requests_concat, Effect.request?]
    constructor
    · rw [hunit]; exact hs.settings
    · rw [hunit]; exact hs.clock
    · rw [hunit]; exact hs.sound
    · intro q hq
      rw [hunit, List.mem_append] at hq
      rw [hrequests, List.mem_append]
      exact hq.imp_left (hs.waiting q)
    · intro r hr
      obtain ⟨q, hq, hanswer⟩ := hs.answers r (by simpa only [hunit] using hr)
      exact ⟨q, by rw [hrequests]; exact List.mem_append_left _ hq, hanswer⟩
    · intro q hq
      rw [hrequests, List.mem_append] at hq
      rw [hunit, stale_congr hlast]
      rcases hq with hq | hq
      · exact (hs.staged q hq).imp_left (List.mem_append_left _)
      · exact .inl (List.mem_append_right _ hq)

/-- The oldest request gets its answer. -/
theorem Served.work (ha : engine.Accepting) (hkeyed : ∀ files ∈ seen, FileSet.Keyed files)
    (hdist : Compile.Distinguished seen) (hseen : ∀ q ∈ h.requests, q.files ∈ seen)
    (hs : Served unitConfig stamp seen h s) :
    Served unitConfig stamp seen h { s with unit := s.unit.work } := by
  cases hqueue : s.unit.requests with
  | nil =>
    have hwork : s.unit.work = s.unit := by rw [Worker.work, hqueue]
    exact hs.frame ⟨hwork, rfl, rfl⟩ rfl
  | cons q rest =>
    have hq : q ∈ h.requests := hs.waiting q (hqueue ▸ List.mem_cons_self)
    obtain ⟨hconfig, hstamp, hsound⟩ :=
      Transformer.sound_run ha hkeyed hdist (.handle q) (hseen q hq) hs.sound
    have hanswer := Transformer.handle_eq_answer ha hkeyed hdist (hseen q hq) hs.sound
    rw [hs.settings, hs.clock] at hanswer
    have hwork : s.unit.work = ⟨(s.unit.transformer.handle engine q).2, rest,
        s.unit.responses ++ [Transformer.answer engine unitConfig stamp q]⟩ := by
      rw [Worker.work, hqueue, ← hanswer]
    constructor
    · rw [hwork]; exact hconfig.trans hs.settings
    · rw [hwork]; exact hstamp.trans hs.clock
    · rw [hwork]; exact hsound
    · intro q' hq'
      rw [hwork] at hq'
      exact hs.waiting q' (hqueue ▸ List.mem_cons_of_mem q hq')
    · intro r hr
      rw [hwork, List.mem_append, List.mem_singleton] at hr
      exact hr.elim (hs.answers r) fun hr => ⟨q, hq, hr⟩
    · intro q' hq'
      rw [hwork]
      rcases hs.staged q' hq' with hwaits | hanswered | hstale
      · rcases List.mem_cons.1 (hqueue ▸ hwaits) with rfl | hrest
        · exact .inr (.inl (List.mem_append_right _ (List.mem_singleton_self _)))
        · exact .inl hrest
      · exact .inr (.inl (List.mem_append_left _ hanswered))
      · exact .inr (.inr hstale)

/-- A response that arrives leaves its number stale. -/
theorem Served.deliver (hs : Served unitConfig stamp seen h s) {i : Nat} {r : Response}
    (hr : s.unit.responses[i]? = some r) (hunit : t.unit = s.unit.remove i)
    (hstale : ∀ n, t.stale n = true ↔ s.stale n = true ∨ n ≤ r.sequence)
    (hrequests : h'.requests = h.requests) : Served unitConfig stamp seen h' t where
  settings := by rw [hunit]; exact hs.settings
  clock := by rw [hunit]; exact hs.clock
  sound := by rw [hunit]; exact hs.sound
  waiting := by rw [hunit, hrequests]; exact hs.waiting
  answers r' hr' := by
    rw [hunit] at hr'
    rw [hrequests]
    exact hs.answers r' (List.mem_of_mem_eraseIdx hr')
  staged q hq := by
    rw [hunit, hstale]
    rcases hs.staged q (hrequests ▸ hq) with hwaits | hanswered | hold
    · exact .inl hwaits
    · obtain ⟨j, hj⟩ := List.mem_iff_getElem?.1 hanswered
      by_cases hij : j = i
      · -- This is the one that arrives.
        subst hij
        obtain rfl := Option.some.inj (hr.symm.trans hj)
        exact .inr (.inr (.inr (Nat.le_refl _)))
      · exact .inr (.inl (List.mem_eraseIdx_iff_getElem?.2 ⟨j, hij, hj⟩))
    · exact .inr (.inr (.inl hold))

end Session

end LivePreview
