import LivePreview.Cache.Calls

/-!
# Nested calls of the cache

A call is counted before its computation runs, and stores its entry afterwards. In between, nested
calls may do anything: they may fail, and they may store an entry under the very name of the call.
Still the cache is at any time what the journal of the run up to then leads to. So each call is
counted once, in the order of the calls. Beyond what the nested calls did, it does nothing to the
entries but store the one that it returns. And what is found afterwards under a name is what was
stored there last, if it is current.

## Main definitions

* `LivePreview.Cache.Leads`: a journal leads from one cache to another, call by call.

## Main results

* `LivePreview.Cache.leads_run`: the journal of a run leads to the cache that the run leaves.
* `LivePreview.Cache.nested_of_journal`: what a call is followed by that finds no entry.
* `LivePreview.Cache.get?_run_eq_some_iff`: what a run leaves under a name.
* `LivePreview.Cache.calls_accounted`: the calls of a run are atomic and accounted for.
-/

namespace LivePreview.Cache

variable {ε : Type} {cache : Cache} {query : Query} {entry : CacheEntry}

/-! ### Calls -/

/-- A call that finds a current entry returns it and is counted, whatever the computation. -/
theorem fetch_of_held (h : cache.held query = some entry)
    (compute : Cache → Except ε CacheEntry × Cache) :
    cache.fetch query compute = (.ok entry, cache.hit query.name) := by
  rw [held] at h
  rw [fetch, getOrCompute, h]

/-- A call that finds none is counted, has the entry computed, and stores it if there is one. -/
theorem fetch_of_not_held (h : cache.held query = none)
    (compute : Cache → Except ε CacheEntry × Cache) :
    let computed := compute (cache.miss query.name)
    cache.fetch query compute =
      (computed.1, replay computed.2 (storing query computed.1)) := by
  rw [held] at h
  simp only [fetch, getOrCompute, h]
  rcases compute (cache.miss query.name) with ⟨_ | entry, after⟩ <;> rfl

/-! ### Journals -/

/-- A split of two lists put together is a split of the first or of the second. -/
theorem append_eq_append_cons_iff {α : Type} {l r earlier later : List α} {a : α} :
    l ++ r = earlier ++ a :: later ↔
      (∃ between, l = earlier ++ a :: between ∧ later = between ++ r) ∨
      ∃ between, earlier = l ++ between ∧ r = between ++ a :: later := by
  constructor
  · intro h
    rcases List.append_eq_append_iff.1 h with hsecond | ⟨between, hl, hr⟩
    · exact .inr hsecond
    · cases between with
      | nil =>
        refine .inr ⟨[], ?_, hr.symm⟩
        simpa using hl.symm
      | cons first between =>
        obtain ⟨rfl, hlater⟩ := List.cons.inj hr
        exact .inl ⟨between, hl, hlater⟩
  · rintro (⟨between, rfl, rfl⟩ | ⟨between, rfl, rfl⟩) <;> simp

theorem replay_append (cache : Cache) (l r : List (Event ε)) :
    replay cache (l ++ r) = replay (replay cache l) r := List.foldl_append

/-- A journal leads from one cache to another, and each of its calls finds the cache as the events
before it left it. -/
structure Leads (cache : Cache) (journal : List (Event ε)) (after : Cache) : Prop where
  /-- Each call finds the cache as it was left. -/
  before : ∀ earlier call later, journal = earlier ++ .called call :: later →
    call.before = replay cache earlier
  /-- The cache that it leads to. -/
  after_eq : after = replay cache journal

variable {l r : List (Event ε)} {middle after : Cache}

theorem leads_nil (cache : Cache) : Leads cache ([] : List (Event ε)) cache where
  before earlier call later h := by simp at h
  after_eq := rfl

theorem Leads.trans (hl : Leads cache l middle) (hr : Leads middle r after) :
    Leads cache (l ++ r) after where
  before earlier call later h := by
    rcases append_eq_append_cons_iff.1 h with ⟨between, hfirst, -⟩ | ⟨between, rfl, hsecond⟩
    · exact hl.before earlier call between hfirst
    · rw [hr.before between call later hsecond, hl.after_eq, replay_append]
  after_eq := by rw [hr.after_eq, hl.after_eq, replay_append]

/-- A call that is made is counted. -/
theorem leads_called (cache : Cache) (query : Query) (compute : Plan ε) :
    Leads cache [.called ⟨query, compute, cache⟩]
      (if (cache.held query).isSome then cache.hit query.name else cache.miss query.name) where
  before earlier call later h := by
    rcases List.cons_eq_append_iff.1 h with ⟨rfl, hcall⟩ | ⟨earlier, -, hnil⟩
    · obtain ⟨hcall, -⟩ := List.cons.inj hcall
      cases hcall
      rfl
    · simp at hnil
  after_eq := rfl

/-- Nothing is called where an entry is stored. -/
theorem storing_ne (query : Query) (result : Except ε CacheEntry) {earlier later : List (Event ε)}
    {call : Call ε} : storing query result ≠ earlier ++ .called call :: later := by
  intro h
  have hmem : .called call ∈ storing query result := by simp [h]
  cases result <;> simp [storing] at hmem

/-- What a call stores. -/
theorem leads_storing (cache : Cache) (query : Query) (result : Except ε CacheEntry) :
    Leads cache (storing query result) (replay cache (storing query result)) where
  before _ _ _ h := absurd h (storing_ne _ _)
  after_eq := rfl

/-- The journal of a run leads to the cache that the run leaves. -/
theorem leads_run (plan : Plan ε) (cache : Cache) :
    Leads cache (plan.journal cache) (plan.run cache).2 := by
  induction plan generalizing cache with
  | done result => exact leads_nil cache
  | call query compute next hcompute hnext =>
    have hcalled := leads_called cache query compute
    rw [Plan.run, Plan.journal]
    cases h : cache.held query with
    | some entry =>
      rw [h] at hcalled
      rw [fetch_of_held h]
      exact hcalled.trans (hnext _ _)
    | none =>
      rw [h] at hcalled
      rw [fetch_of_not_held h]
      let computed := compute.run (cache.miss query.name)
      have hstored := leads_storing computed.2 query computed.1
      exact (hcalled.trans ((hcompute _).trans hstored)).trans (hnext _ _)

/-- What a call that finds no entry is followed by: the events of its computation, and the entry
that it stores. -/
theorem nested_of_journal (plan : Plan ε) {cache : Cache} {earlier later : List (Event ε)}
    {call : Call ε} (h : plan.journal cache = earlier ++ .called call :: later)
    (hnone : call.before.held call.query = none) :
    ∃ rest, later = call.compute.journal (call.before.miss call.query.name) ++
      storing call.query call.nested.1 ++ rest := by
  induction plan generalizing cache earlier later with
  | done result => simp [Plan.journal] at h
  | call query compute next hcompute hnext =>
    rw [Plan.journal] at h
    rcases append_eq_append_cons_iff.1 h with ⟨between, hwork, rfl⟩ | ⟨between, -, hrest⟩
    · rcases List.cons_eq_append_iff.1 hwork with ⟨-, hfirst⟩ | ⟨earlier', -, hwork⟩
      · -- It is the outermost call.
        obtain ⟨hcall, rfl⟩ := List.cons.inj hfirst
        obtain rfl := Event.called.inj hcall
        have hmiss : cache.held query = none := hnone
        rw [hmiss]
        exact ⟨_, rfl⟩
      · -- It is a call of the computation, for nothing is called where an entry is stored.
        split at hwork
        · simp at hwork
        · rcases append_eq_append_cons_iff.1 hwork with ⟨between', hinner, rfl⟩ | ⟨_, -, hstored⟩
          · obtain ⟨rest, rfl⟩ := hcompute hinner
            rw [List.append_assoc, List.append_assoc]
            exact ⟨_, rfl⟩
          · exact absurd hstored (storing_ne _ _)
    · exact hnext _ hrest

/-! ### What a journal tells -/

/-- The entries are those that were stored, in order. -/
theorem entries_replay (cache : Cache) (journal : List (Event ε)) :
    (replay cache journal).entries =
      cache.entries.insertAll (journal.filterMap Event.stored?) := by
  induction journal generalizing cache with
  | nil => rfl
  | cons event rest ih =>
    have hrest : replay cache (event :: rest) = replay (event.apply cache) rest := rfl
    rw [hrest, ih]
    cases event with
    | called call =>
      have hentries : (Event.apply cache (.called call)).entries = cache.entries := by
        rw [Event.apply]
        split <;> rfl
      rw [hentries]
      rfl
    | stored name entry => rfl

/-- Each call is counted once, in order. -/
theorem counts_replay (cache : Cache) (journal : List (Event ε)) :
    let calls := journal.filterMap Event.call?
    (replay cache journal).hits =
        cache.hits ++ (calls.filter (·.hits)).map (·.query.name) ∧
      (replay cache journal).misses =
        cache.misses ++ (calls.filter (!·.hits)).map (·.query.name) := by
  induction journal generalizing cache with
  | nil => simp [replay]
  | cons event rest ih =>
    have hrest : replay cache (event :: rest) = replay (event.apply cache) rest := rfl
    obtain ⟨hhits, hmisses⟩ := ih (event.apply cache)
    rw [hrest, hhits, hmisses]
    cases event with
    | called call =>
      cases h : call.hits <;> simp [Event.apply, Event.call?, hit, miss, h]
    | stored name entry => exact ⟨rfl, rfl⟩

/-- A run takes no name away. -/
theorem contains_run (plan : Plan ε) {name : String} (h : cache.entries.contains name = true) :
    (plan.run cache).2.entries.contains name = true := by
  rw [(leads_run plan cache).after_eq, entries_replay]
  exact NameMap.contains_insertAll h _

/-- What a run leaves under a name is what it stored last, or what was there if it stored
nothing. -/
theorem get?_run_eq_some_iff (plan : Plan ε) {name : String} :
    (plan.run cache).2.entries.get? name = some entry ↔
      LastStored (plan.journal cache) name entry ∨
      (∀ s ∈ (plan.journal cache).filterMap Event.stored?, s.1 ≠ name) ∧
        cache.entries.get? name = some entry := by
  rw [(leads_run plan cache).after_eq, entries_replay, NameMap.get?_insertAll_eq_some_iff]
  rfl

/-- The calls of a run are atomic and accounted for. Each of them finds the cache as the events
before it left it, and is counted once, in order, as a hit or as a miss. A hit returns the entry
that is held, whatever the computation, and changes no entry. A miss is followed by the calls of its
computation; it returns the failure and leaves the entries as these calls left them, or returns the
entry and leaves it under its name besides. No call takes a name away. Afterwards an entry is found
under a name if and only if it was stored last under that name and is current. -/
theorem calls_accounted (plan : Plan ε) (cache : Cache) :
    let after := (plan.run cache).2
    let journal := plan.journal cache
    let calls := journal.filterMap Event.call?
    (after.hits = cache.hits ++ (calls.filter (·.hits)).map (·.query.name) ∧
      after.misses = cache.misses ++ (calls.filter (!·.hits)).map (·.query.name)) ∧
    (∀ earlier call later, journal = earlier ++ .called call :: later →
      call.before = replay cache earlier ∧
      (∀ entry, call.before.held call.query = some entry →
        ∀ compute : Cache → Except ε CacheEntry × Cache,
          call.before.fetch call.query compute = (.ok entry, call.before.hit call.query.name)) ∧
      (call.before.held call.query = none →
        (∃ rest, later = call.compute.journal (call.before.miss call.query.name) ++
          storing call.query call.nested.1 ++ rest) ∧
        (∀ e, call.nested.1 = .error e →
          call.made.1 = .error e ∧ call.made.2.entries = call.nested.2.entries) ∧
        ∀ entry, call.nested.1 = .ok entry →
          call.made.1 = .ok entry ∧ ∀ name, call.made.2.entries.get? name =
            if call.query.name = name then some entry else call.nested.2.entries.get? name) ∧
      ∀ name, call.before.entries.contains name = true →
        call.made.2.entries.contains name = true) ∧
    ∀ name fingerprint current entry, after.lookup name fingerprint current = some entry ↔
      (LastStored journal name entry ∨ (∀ s ∈ journal.filterMap Event.stored?, s.1 ≠ name) ∧
        cache.entries.get? name = some entry) ∧
      entry.fingerprint = fingerprint ∧
      ∀ k fp, entry.dependencies.get? k = some fp → current k = fp := by
  intro after journal calls
  have hleads : Leads cache journal after := leads_run plan cache
  have hcounts := counts_replay cache journal
  rw [← hleads.after_eq] at hcounts
  refine ⟨hcounts, fun earlier call later hsplit =>
    ⟨hleads.before earlier call later hsplit, fun entry => fetch_of_held, fun hnone => ?_,
      fun name hname => contains_run (.call call.query call.compute .done) hname⟩, ?_⟩
  · have hmade : call.made =
        (call.nested.1, replay call.nested.2 (storing call.query call.nested.1)) :=
      fetch_of_not_held hnone call.compute.run
    rw [hmade]
    refine ⟨nested_of_journal plan hsplit hnone, fun e he => ?_, fun entry hentry => ?_⟩
    · rw [he]
      exact ⟨rfl, rfl⟩
    · rw [hentry]
      exact ⟨rfl, fun name => NameMap.get?_insert _ _ _ _⟩
  · intro name fingerprint current entry
    rw [lookup_eq_some_iff, get?_run_eq_some_iff]

/-- A query for which no other file is present. -/
def asking (name content : String) : Query := ⟨name, Fingerprint.ofText content, fun _ => none⟩

/-- An entry with no record. -/
def answer (content reference : String) : CacheEntry :=
  ⟨Fingerprint.ofText content, reference, NameMap.empty⟩

/-- The entry of `a` needs that of `b`, which stores one for `a` on its way and fails. The entry of
`a` is made nevertheless, and asked for again. -/
def tangled : Plan String :=
  .call (asking "a" "x")
    (.call (asking "b" "y")
      (.call (asking "a" "x") (.done (.ok (answer "x" "inner"))) fun _ => .done (.error "broken"))
      fun _ => .done (.ok (answer "x" "outer")))
    fun _ => .call (asking "a" "x") (.done (.error "unused")) .done

/-- The call that fails. -/
def failing : Call String where
  query := asking "b" "y"
  compute :=
    .call (asking "a" "x") (.done (.ok (answer "x" "inner"))) fun _ => .done (.error "broken")
  before := empty.miss "a"

/-- The failure leaves the entry that the innermost call stored; in the end the one of the outermost
call is found. -/
theorem calls_accounted_tangled :
    (tangled.run empty).2.misses = ["a", "b", "a"] ∧ (tangled.run empty).2.hits = ["a"] ∧
    failing.made.1 = .error "broken" ∧
    failing.made.2.entries.get? "a" = some (answer "x" "inner") ∧
    (tangled.run empty).2.lookup "a" (Fingerprint.ofText "x") (fun _ => none) =
      some (answer "x" "outer") := by
  obtain ⟨⟨hhits, hmisses⟩, hcalls, hlookup⟩ := calls_accounted tangled empty
  obtain ⟨-, -, hmiss, -⟩ := hcalls [.called ⟨asking "a" "x", _, empty⟩] failing _ rfl
  obtain ⟨herror, hentries⟩ := (hmiss rfl).2.1 "broken" rfl
  refine ⟨hmisses.trans (by decide +kernel), hhits.trans (by decide +kernel), herror, ?_, ?_⟩
  · rw [hentries]
    decide +kernel
  · refine (hlookup "a" _ _ _).2 ⟨.inl ?_, rfl, fun k fp h => nomatch h⟩
    exact ⟨[("a", answer "x" "inner")], [], by decide +kernel, nofun⟩

end LivePreview.Cache
