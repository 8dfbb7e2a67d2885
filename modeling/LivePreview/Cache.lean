import LivePreview.Resolve

/-!
# The transform cache

A compiled dependency is kept under its name, as the address that replaces its import, together
with the record of every name that its imports were resolved against. It is used again while its
own fingerprint and that whole record are current; a file that appears under a name recorded as
absent makes it stale too. A stale entry stays until it is replaced.

## Main definitions

* `LivePreview.Cache`: the entries, and the names hit and missed so far.
* `LivePreview.Cache.lookup`: the entry under a name, if it is current.
* `LivePreview.Cache.getOrCompute`: the current entry, or a new one.

## Main results

* `LivePreview.Cache.lookup_eq_some_iff`: which entry a lookup finds.
* `LivePreview.Cache.forall_store`: what stays true of all entries when one is stored.
-/

namespace LivePreview

/-- A compiled dependency. -/
structure CacheEntry where
  /-- The fingerprint of the file. -/
  fingerprint : Fingerprint
  /-- The address that replaces its import. -/
  reference : String
  /-- Every name that the imports were resolved against, through all levels. -/
  dependencies : Tried
deriving DecidableEq

/-- The entries, and the names looked up since they were last asked for. -/
structure Cache where
  /-- The compiled dependencies. -/
  entries : NameMap CacheEntry
  /-- The names found current, in order. -/
  hits : List String
  /-- The names that had to be computed, in order. -/
  misses : List String

namespace Cache

/-- The cache without entries. -/
def empty : Cache := ⟨NameMap.empty, [], []⟩

/-- Whether an entry is current for a file with the given fingerprint. -/
def fresh (entry : CacheEntry) (fingerprint : Fingerprint)
    (current : String → Option Fingerprint) : Bool :=
  entry.fingerprint = fingerprint &&
    entry.dependencies.entries.all fun (name, fp) => current name = fp

/-- The entry under a name, if it is current. -/
def lookup (cache : Cache) (name : String) (fingerprint : Fingerprint)
    (current : String → Option Fingerprint) : Option CacheEntry :=
  (cache.entries.get? name).filter fun entry => fresh entry fingerprint current

/-- An entry is found if it is the one under its name, has the fingerprint that is asked for, and
every name of its record has the fingerprint, or absence, that was recorded. -/
theorem lookup_eq_some_iff {cache : Cache} {name : String} {fingerprint : Fingerprint}
    {current : String → Option Fingerprint} {entry : CacheEntry} :
    cache.lookup name fingerprint current = some entry ↔
      cache.entries.get? name = some entry ∧ entry.fingerprint = fingerprint ∧
        ∀ k fp, entry.dependencies.get? k = some fp → current k = fp := by
  rw [lookup, Option.filter_eq_some_iff, fresh, Bool.and_eq_true, decide_eq_true_eq,
    List.all_eq_true]
  refine and_congr_right' (and_congr_right' ⟨fun h k fp hk => ?_, fun h d hd => ?_⟩)
  · exact of_decide_eq_true (h (k, fp) ((NameMap.get?_eq_some_iff _ _ _).1 hk))
  · exact decide_eq_true (h d.1 d.2 ((NameMap.get?_eq_some_iff _ _ _).2 hd))

/-- The cache with an entry under a name. -/
def store (cache : Cache) (name : String) (entry : CacheEntry) : Cache :=
  { cache with entries := cache.entries.insert name entry }

/-- What holds of all entries of a cache, and of the one that is stored, holds of all entries after
it is stored. -/
theorem forall_store {cache : Cache} {name : String} {entry : CacheEntry}
    {P : String → CacheEntry → Prop}
    (h : ∀ other entry', cache.entries.get? other = some entry' → P other entry')
    (hentry : P name entry) :
    ∀ other entry', (cache.store name entry).entries.get? other = some entry' → P other entry' := by
  intro other entry' hother
  rw [store, NameMap.get?_insert] at hother
  split at hother
  · rename_i heq
    exact heq ▸ Option.some.inj hother ▸ hentry
  · exact h other entry' hother

/-- The cache with one more hit. -/
def hit (cache : Cache) (name : String) : Cache := { cache with hits := cache.hits ++ [name] }

/-- The cache with one more miss. -/
def miss (cache : Cache) (name : String) : Cache :=
  { cache with misses := cache.misses ++ [name] }

/-- The current entry under a name; if there is none, `compute` makes one, which is stored. The
computation may use the cache itself. -/
def getOrCompute {ε : Type} (cache : Cache) (name : String) (fingerprint : Fingerprint)
    (current : String → Option Fingerprint) (compute : Cache → Except ε CacheEntry × Cache) :
    Except ε CacheEntry × Cache :=
  match cache.lookup name fingerprint current with
  | some entry => (.ok entry, cache.hit name)
  | none =>
    match compute (cache.miss name) with
    | (.ok entry, cache) => (.ok entry, cache.store name entry)
    | (.error e, cache) => (.error e, cache)

/-- The cache with its counts cleared. -/
def clearStats (cache : Cache) : Cache := { cache with hits := [], misses := [] }

end Cache

end LivePreview
