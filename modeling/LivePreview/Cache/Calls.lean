import LivePreview.Cache

/-!
# Nested calls of the cache

A computation that the cache asks for may ask the cache in turn, go on with what it gets, failures
included, and fail at any point. A plan is such a computation as a finite tree. Its journal tells
what happens to the cache while it runs: every call when it is made, and every entry when it is
stored. A call is thus told before what its computation does, and the entry that it stores after it.

## Main definitions

* `LivePreview.Cache.Query`, `LivePreview.Cache.Plan`: what a call asks for, and computations.
* `LivePreview.Cache.Plan.run`: runs a plan with the cache.
* `LivePreview.Cache.Call`, `LivePreview.Cache.Event`: a call that was made, and what happens.
* `LivePreview.Cache.Plan.journal`: the journal of a run.
* `LivePreview.Cache.replay`: the cache that a journal leads to.
* `LivePreview.Cache.LastStored`: what was stored last under a name.
-/

namespace LivePreview.Cache

/-- What a call asks for. -/
structure Query where
  /-- The name of the file. -/
  name : String
  /-- The fingerprint of the file. -/
  fingerprint : Fingerprint
  /-- The present fingerprints, with `none` for names that are absent. -/
  current : String → Option Fingerprint

/-- A computation with nested calls. -/
inductive Plan (ε : Type) where
  /-- It ends with an entry or a failure. -/
  | done (result : Except ε CacheEntry)
  /-- It makes a call, for which an entry is computed if none is current, and goes on with its
  result. -/
  | call (query : Query) (compute : Plan ε) (next : Except ε CacheEntry → Plan ε)

variable {ε : Type}

/-- Asks for the entry of a query. -/
def fetch (cache : Cache) (query : Query) (compute : Cache → Except ε CacheEntry × Cache) :
    Except ε CacheEntry × Cache :=
  cache.getOrCompute query.name query.fingerprint query.current compute

/-- The entry that a query finds, if it is current. -/
def held (cache : Cache) (query : Query) : Option CacheEntry :=
  cache.lookup query.name query.fingerprint query.current

/-- Runs a plan. -/
def Plan.run : Plan ε → Cache → Except ε CacheEntry × Cache
  | .done result, cache => (result, cache)
  | .call query compute next, cache =>
    let fetched := cache.fetch query compute.run
    (next fetched.1).run fetched.2

/-- A call that was made. -/
structure Call (ε : Type) where
  /-- What it asked for. -/
  query : Query
  /-- How its entry is computed if none is current. -/
  compute : Plan ε
  /-- The cache when it was made. -/
  before : Cache

namespace Call

/-- Whether it found a current entry. -/
def hits (c : Call ε) : Bool := (c.before.held c.query).isSome

/-- The run of its computation, with the cache that has the call counted. -/
def nested (c : Call ε) : Except ε CacheEntry × Cache :=
  c.compute.run (c.before.miss c.query.name)

/-- Its result, and the cache that it leaves. -/
def made (c : Call ε) : Except ε CacheEntry × Cache := c.before.fetch c.query c.compute.run

end Call

/-- What happens to the cache. -/
inductive Event (ε : Type) where
  /-- A call is made. -/
  | called (call : Call ε)
  /-- An entry is stored. -/
  | stored (name : String) (entry : CacheEntry)

namespace Event

/-- The call that is made. -/
def call? : Event ε → Option (Call ε)
  | called call => some call
  | stored _ _ => none

/-- The entry that is stored, with its name. -/
def stored? : Event ε → Option (String × CacheEntry)
  | called _ => none
  | stored name entry => some (name, entry)

/-- A call is counted, as a hit or as a miss; an entry is stored. -/
def apply (cache : Cache) : Event ε → Cache
  | called call =>
    if call.hits then cache.hit call.query.name else cache.miss call.query.name
  | stored name entry => cache.store name entry

end Event

/-- The cache that a journal leads to. -/
def replay (cache : Cache) (journal : List (Event ε)) : Cache := journal.foldl Event.apply cache

/-- An entry is the last one that was stored under a name. -/
def LastStored (journal : List (Event ε)) (name : String) (entry : CacheEntry) : Prop :=
  ∃ before since, journal.filterMap Event.stored? = before ++ (name, entry) :: since ∧
    ∀ s ∈ since, s.1 ≠ name

/-- The entry that a call stores. -/
def storing (query : Query) : Except ε CacheEntry → List (Event ε)
  | .ok entry => [.stored query.name entry]
  | .error _ => []

/-- The journal of a run. -/
def Plan.journal : Plan ε → Cache → List (Event ε)
  | .done _, _ => []
  | .call query compute next, cache =>
    let fetched := cache.fetch query compute.run
    let work :=
      match cache.held query with
      | some _ => []
      | none =>
        compute.journal (cache.miss query.name) ++
          storing query (compute.run (cache.miss query.name)).1
    .called ⟨query, compute, cache⟩ :: work ++ (next fetched.1).journal fetched.2

end LivePreview.Cache
