import LivePreview.Proofs.Compile.Inlining

/-!
# What is compiled again

A file is compiled again only if the cache does not hold a current entry of it. Within one job the
files do not change, and an entry stays current: it is replaced only after a miss of its own name,
which cannot come while it is current. So once a fetch has ended, what every later fetch of that
file gives is decided. It is the entry that the cache holds now, or a refusal, if the file is no
module. A second compilation of the same module therefore finds each of its imports decided, goes no
further down, and gives the same.

A miss is accounted for by an entry that is held since then, or by a compilation that has been
started and not ended. The latter is on the stack, where its name is not fetched again. So a file
that has a text is missed at most once in a job.

## Main definitions

* `LivePreview.Compile.held`: the entry that a cache holds of a file, if it is current.
* `LivePreview.Compile.Decided`: what every fetch of a file gives from now on.
* `LivePreview.Compile.Onward`: one cache comes from another, as far as decided files tell.
* `LivePreview.Compile.Accounted`: the misses of a job.

## Main results

* `LivePreview.Compile.onward_transform`: compilations leave decided files as they are.
* `LivePreview.Compile.accounted_transform`: compilations without a circle account for their misses.
* `LivePreview.Compile.transform_again`: a second compilation gives the same and misses what is
  refused.
-/

namespace LivePreview.Compile

open Redirection (run relative Visits)

/-- The entry that a cache holds of a file, if it is current. -/
def held (job : Job) (cache : Cache) (file : SourceFile) : Option CacheEntry :=
  cache.lookup file.name file.fingerprint job.files.current

/-- A file that is to be a module and is none is refused wherever it is compiled. -/
def Refused (engine : Engine) (job : Job) (file : SourceFile) : Prop :=
  wrapped? job file = none ∧
    ∃ message, engine.parse file.name (moduleText job file) = .error message

/-- What every fetch of a file gives from now on: the entry that the cache holds, or a refusal. -/
inductive Decided (engine : Engine) (job : Job) (cache : Cache) (file : SourceFile) :
    Option CacheEntry → Prop where
  /-- The cache holds an entry. -/
  | served {entry : CacheEntry} (h : held job cache file = some entry) :
    Decided engine job cache file (some entry)
  /-- The file is refused. -/
  | refused (h : held job cache file = none) (hrefused : Refused engine job file) :
    Decided engine job cache file none

/-- One cache comes from another in a job: files that were decided are decided in the same way, and
those that were held have not been missed. -/
structure Onward (engine : Engine) (job : Job) (cache cache' : Cache) : Prop where
  /-- What every fetch gives stays the same. -/
  decided : ∀ file ∈ job.files.values, ∀ r, Decided engine job cache file r →
    Decided engine job cache' file r
  /-- What is held is not missed. -/
  count : ∀ file ∈ job.files.values, ∀ entry, held job cache file = some entry →
    cache'.misses.count file.name = cache.misses.count file.name

variable {engine : Engine} {job : Job} {stack : List String} {file target : SourceFile}
  {importer source : String} {cache cache' cache'' : Cache} {tried tried' : Tried}
  {compiled : Compiled} {entry : CacheEntry} {r : Option CacheEntry}

/-! ### Entries that are held -/

/-- Only the entries count. -/
theorem held_congr (h : cache'.entries = cache.entries) :
    held job cache' file = held job cache file := by
  rw [held, held, Cache.lookup, Cache.lookup, h]

theorem held_store_of_ne {name : String} (h : name ≠ file.name) :
    held job (cache.store name entry) file = held job cache file := by
  rw [held, held, Cache.lookup, Cache.lookup, Cache.store, NameMap.get?_insert_of_ne _ h]

/-- An entry with the fingerprint of the file and a current record is held. -/
theorem held_of_current (hentry : cache.entries.get? file.name = some entry)
    (hfp : entry.fingerprint = file.fingerprint) (h : Current job.files entry.dependencies) :
    held job cache file = some entry :=
  Cache.lookup_eq_some_iff.2 ⟨hentry, hfp, fun k fp hk => (h k fp hk).symm⟩

/-- An entry with a current record is held once it is stored. -/
theorem held_store_self (h : Current job.files compiled.dependencies) :
    held job (cache.store file.name (entryOf file compiled)) file =
      some (entryOf file compiled) :=
  held_of_current (NameMap.get?_insert_self _ _ _) rfl h

/-! ### Decided files -/

theorem Decided.congr (h : Decided engine job cache file r)
    (hentries : cache'.entries = cache.entries) : Decided engine job cache' file r := by
  cases h with
  | served h => exact .served ((held_congr hentries).trans h)
  | refused h hrefused => exact .refused ((held_congr hentries).trans h) hrefused

theorem Decided.store_of_ne {name : String} (h : Decided engine job cache file r)
    (hne : name ≠ file.name) : Decided engine job (cache.store name entry) file r := by
  cases h with
  | served h => exact .served ((held_store_of_ne hne).trans h)
  | refused h hrefused => exact .refused ((held_store_of_ne hne).trans h) hrefused

theorem Onward.refl (engine : Engine) (job : Job) (cache : Cache) :
    Onward engine job cache cache :=
  ⟨fun _ _ _ h => h, fun _ _ _ _ => rfl⟩

theorem Onward.held (h : Onward engine job cache cache') (hmem : file ∈ job.files.values)
    (hheld : held job cache file = some entry) : Compile.held job cache' file = some entry := by
  cases h.decided file hmem _ (.served hheld) with
  | served hheld' => exact hheld'

theorem Onward.trans (h : Onward engine job cache cache') (h' : Onward engine job cache' cache'') :
    Onward engine job cache cache'' where
  decided file hmem r hr := h'.decided file hmem r (h.decided file hmem r hr)
  count file hmem entry hheld :=
    (h'.count file hmem entry (h.held hmem hheld)).trans (h.count file hmem entry hheld)

/-- A miss of a file that is not held leaves decided files as they are. -/
theorem onward_miss (hfiles : FileSet.Keyed job.files) (htarget : target ∈ job.files.values)
    (hl : held job cache target = none) : Onward engine job cache (cache.miss target.name) where
  decided _ _ _ h := h.congr rfl
  count file hmem entry hheld := by
    have hname : target.name ≠ file.name := by
      intro hname
      obtain rfl := eq_of_mem_values hfiles htarget hmem hname
      simp [hl] at hheld
    simp [Cache.miss, hname]

/-- So does storing the entry of a file that is not held and not refused. -/
theorem Onward.store (h : Onward engine job cache cache') (hfiles : FileSet.Keyed job.files)
    (htarget : target ∈ job.files.values) (hl : Compile.held job cache target = none)
    (hrefused : ¬ Refused engine job target) :
    Onward engine job cache (cache'.store target.name entry) where
  decided file hmem r hr := by
    refine (h.decided file hmem r hr).store_of_ne fun hname => ?_
    obtain rfl := eq_of_mem_values hfiles htarget hmem hname
    cases hr with
    | served hheld => simp [hl] at hheld
    | refused _ h => exact hrefused h
  count := h.count

/-- A file that is refused changes nothing but the misses. -/
theorem fetch_of_refused (stack : List String) (hheld : held job cache target = none)
    (h : Refused engine job target) :
    ∃ e, (∀ chain, e ≠ .circularImport chain) ∧
      fetch engine job stack target cache = (.error e, cache.miss target.name) := by
  obtain ⟨hw, message, hm⟩ := h
  refine ⟨_, refusal_ne_circular job.config.inMemoryMarker target.name message,
    fetch_of_miss_error hheld ?_⟩
  rw [compileTarget_of_module hw]
  exact transform_of_parse_error hm

/-- A fetch leaves decided files as they are, if the compilation of the file does. -/
theorem onward_fetch (hfiles : FileSet.Keyed job.files) (htarget : target ∈ job.files.values)
    (ih : ∀ cache, Onward engine job cache
      (transform engine job (stack ++ [target.name]) target cache).2) (cache : Cache) :
    Onward engine job cache (fetch engine job stack target cache).2 := by
  generalize hfetch : fetch engine job stack target cache = result
  cases fetch_ends hfetch with
  | served => exact ⟨fun _ _ _ h => h.congr rfl, fun _ _ _ _ => rfl⟩
  | wrapped hl hw =>
    refine (onward_miss hfiles htarget hl).store hfiles htarget hl fun ⟨hmodule, _⟩ => ?_
    cases hw.symm.trans hmodule
  | compiled hl hw hc =>
    have hcompile := ih (cache.miss target.name)
    rw [hc] at hcompile
    refine ((onward_miss hfiles htarget hl).trans hcompile).store hfiles htarget hl ?_
    rintro ⟨-, message, hm⟩
    cases hc.symm.trans (transform_of_parse_error hm)
  | failed hl hw hc =>
    have hcompile := ih (cache.miss target.name)
    rw [hc] at hcompile
    exact (onward_miss hfiles htarget hl).trans hcompile

/-- An import changes the cache by a fetch, if it changes it. -/
theorem cache_visitor_cases (engine : Engine) (job : Job) (stack : List String)
    (importer source : String) (s : Cache × Tried) :
    (visitor engine job stack importer source s).2.1 = s.1 ∨
      ∃ target, target? job importer source = some target ∧ target.name ∉ stack ∧
        (visitor engine job stack importer source s).2.1 =
          (fetch engine job stack target s.1).2 := by
  obtain ⟨cache, tried⟩ := s
  generalize hv : visitor engine job stack importer source (cache, tried) = result
  cases visitor_ends hv with
  | unresolved | closes => exact .inl rfl
  | replaced ht hnew hfetch => exact .inr ⟨_, ht, hnew, (congrArg Prod.snd hfetch).symm⟩
  | circular ht hnew hfetch => exact .inr ⟨_, ht, hnew, (congrArg Prod.snd hfetch).symm⟩
  | kept ht hnew hfetch => exact .inr ⟨_, ht, hnew, (congrArg Prod.snd hfetch).symm⟩

/-- The compilation of a module changes the cache by the visit of its imports. -/
theorem snd_transform :
    (transform engine job stack file cache).2 =
      match engine.parse file.name (moduleText job file) with
      | .error _ => cache
      | .ok m => (visited engine job stack file m cache).2.1 := by
  rw [transform_eq, withRetry_eq_plainRetry fun _ => transformModule_record_eq_plain]
  cases hm : engine.parse file.name (moduleText job file) with
  | error message => simp only [transformModule, hm]
  | ok m => simp only [transformModule_of_parse hm]

/-- Compilations leave decided files as they are. -/
theorem onward_transform (hfiles : FileSet.Keyed job.files) (stack : List String)
    (file : SourceFile) :
    ∀ cache, Onward engine job cache (transform engine job stack file cache).2 := by
  induction stack, file using stack_induction job.files with
  | step stack file ih =>
  intro cache
  rw [snd_transform]
  cases engine.parse file.name (moduleText job file) with
  | error message => exact .refl ..
  | ok m =>
    refine (Redirection.run_induct (visitor engine job stack file.name)
      (fun s : Cache × Tried => Onward engine job cache s.1) (fun _ => True) (fun _ => True)
      (fun source _ _ s hs => ⟨?_, fun _ => trivial, fun _ _ => trivial⟩)
      (s := (cache, NameMap.empty)) (.refl ..)).1
    rcases cache_visitor_cases engine job stack file.name source s with
      hsame | ⟨target, ht, hnew, hfetch⟩
    · rwa [hsame]
    · rw [hfetch]
      have hmem := mem_values_of_target? ht
      exact hs.trans (onward_fetch hfiles hmem (ih target hmem hnew) s.1)

theorem onward_visitor (hfiles : FileSet.Keyed job.files) (s : Cache × Tried) :
    Onward engine job s.1 (visitor engine job stack importer source s).2.1 := by
  rcases cache_visitor_cases engine job stack importer source s with
    hsame | ⟨target, ht, -, hfetch⟩
  · rw [hsame]
    exact .refl ..
  · rw [hfetch]
    exact onward_fetch hfiles (mem_values_of_target? ht) (onward_transform hfiles _ _) s.1

/-! ### Second compilations -/

/-- The record after an import of a decided file. -/
def extended (job : Job) (importer source : String) (tried : Tried) : Option CacheEntry → Tried
  | none => recorded job importer source tried
  | some entry => (recorded job importer source tried).union entry.dependencies

/-- A fetch without a circle decides its file. -/
theorem decided_of_fetch (ha : engine.Accepting) {result : Except CompileError CacheEntry}
    (h : fetch engine job stack target cache = (result, cache'))
    (hne : ∀ chain, result ≠ .error (.circularImport chain)) :
    Decided engine job cache' target result.toOption := by
  cases fetch_ends h with
  | served hl => exact .served hl
  | wrapped => exact .served (held_store_self (current_empty _))
  | compiled _ _ hc => exact .served (held_store_self (current_transform ha _ _ _ _ _ hc))
  | failed hl hw hc =>
    obtain ⟨message, hm, -, rfl⟩ :=
      parse_error_of_transform ha hc fun chain he => hne chain (congrArg Except.error he)
    exact .refused hl ⟨hw, message, hm⟩

/-- An import that does not fail decides its file, and its outcome is what was decided. -/
theorem decided_of_visitor (ha : engine.Accepting) (ht : target? job importer source = some target)
    {outcome : Option String}
    (h : visitor engine job stack importer source (cache, tried) = (.ok outcome, cache', tried')) :
    target.name ∉ stack ∧ ∃ r, Decided engine job cache' target r ∧
      outcome = r.map CacheEntry.reference ∧ tried' = extended job importer source tried r := by
  cases visitor_ends h with
  | unresolved ht' => cases ht.symm.trans ht'
  | replaced ht' hnew hfetch =>
    obtain rfl := Option.some.inj (ht.symm.trans ht')
    exact ⟨hnew, _, decided_of_fetch ha hfetch (by simp), rfl, rfl⟩
  | kept ht' hnew hfetch hne =>
    obtain rfl := Option.some.inj (ht.symm.trans ht')
    exact ⟨hnew, _, decided_of_fetch ha hfetch (by simpa using hne), rfl, rfl⟩

/-- An import of a decided file has the outcome that was decided, changes no entry and misses the
file at most if it is refused. -/
theorem visitor_of_decided (tried : Tried) (ht : target? job importer source = some target)
    (hnew : target.name ∉ stack) (h : Decided engine job cache target r) :
    ∃ cache', visitor engine job stack importer source (cache, tried) =
        (.ok (r.map CacheEntry.reference), cache', extended job importer source tried r) ∧
      cache'.entries = cache.entries ∧
      ∀ name ∈ cache'.misses, name ∈ cache.misses ∨
        name = target.name ∧ Refused engine job target := by
  cases h with
  | served h =>
    refine ⟨cache.hit target.name, ?_, rfl, fun name hname => .inl hname⟩
    rw [visitor_of_not_mem ht hnew, fetch_of_hit h]
    rfl
  | refused h hrefused =>
    obtain ⟨e, hne, hfetch⟩ := fetch_of_refused stack h hrefused
    refine ⟨cache.miss target.name, ?_, rfl, fun name hname => ?_⟩
    · rw [visitor_of_fetch_error ht hnew hfetch hne]
      rfl
    · rcases List.mem_append.1 hname with hname | hname
      · exact .inl hname
      · exact .inr ⟨List.mem_singleton.1 hname, hrefused⟩

/-- From the cache that a compilation left, the module is compiled to the same again. No entry
changes, and what is missed is refused. -/
theorem transform_again (ha : engine.Accepting) (hfiles : FileSet.Keyed job.files)
    (h : transform engine job stack file cache = (.ok compiled, cache'))
    (hentries : cache''.entries = cache'.entries) :
    (transform engine job stack file cache'').1 = .ok compiled ∧
      ∀ name ∈ (transform engine job stack file cache'').2.misses, name ∈ cache''.misses ∨
        ∃ target ∈ job.files.values, target.name = name ∧ Refused engine job target := by
  obtain ⟨m, hm, hf, he, hdeps, rfl⟩ := exists_visited_of_transform ha h
  -- The second visit runs beside the first one. What an import decides there is decided at its end.
  obtain ⟨hfst, -, hsnd, hmisses⟩ := Redirection.run_simulates
    (visitor engine job stack file.name) (visitor engine job stack file.name)
    (fun s t => t.1.entries = (visited engine job stack file m cache).2.1.entries ∧ t.2 = s.2 ∧
      ∀ name ∈ t.1.misses, name ∈ cache''.misses ∨
        ∃ target ∈ job.files.values, target.name = name ∧ Refused engine job target)
    (fun s => Onward engine job s.1 (visited engine job stack file m cache).2.1) (fun _ => False)
    (fun source _ s hs => (onward_visitor hfiles s).trans hs)
    (by
      rintro source - - ⟨first, _⟩ ⟨again, tried⟩ ⟨hagain, rfl, hmissed⟩ honward hok
      cases ht : target? job file.name source with
      | none =>
        rw [visitor_of_none ht, visitor_of_none ht]
        exact ⟨rfl, hagain, rfl, hmissed⟩
      | some target =>
        rcases hv : visitor engine job stack file.name source (first, tried) with
          ⟨e | outcome, first', tried'⟩
        · rw [hv] at hok
          exact (hok e rfl).elim
        · obtain ⟨hnew, r, hdecided, rfl, rfl⟩ := decided_of_visitor ha ht hv
          rw [hv] at honward
          have hlast := honward.decided target (mem_values_of_target? ht) r hdecided
          obtain ⟨again', hv', hagain', hmissed'⟩ :=
            visitor_of_decided tried ht hnew (hlast.congr hagain)
          rw [hv']
          refine ⟨rfl, hagain'.trans hagain, rfl, fun name hname => ?_⟩
          rcases hmissed' name hname with hname | ⟨rfl, hrefused⟩
          · exact hmissed name hname
          · exact .inr ⟨target, mem_values_of_target? ht, rfl, hrefused⟩)
    (l := engine.sources m) (s := (cache, NameMap.empty)) (t := (cache'', NameMap.empty))
    ⟨hentries, rfl, fun name hname => .inl hname⟩ (.refl ..) (by simp [hf])
  have hf' : (visited engine job stack file m cache'').1.failure = none := by
    rw [visited, hfst]
    exact hf
  have he' :
      engine.emit (engine.withSources m (visited engine job stack file m cache'').1.sources) =
        .ok compiled.code := by
    rw [visited, hfst]
    exact he
  rw [transform_of_emit hm hf' he']
  refine ⟨?_, hmisses⟩
  rw [visited, hsnd, ← hdeps]

/-! ### Misses -/

/-- A file has a text of its own. -/
def HasText (engine : Engine) (job : Job) (file : SourceFile) : Prop :=
  ∃ text, standalone engine job file = .ok text

/-- The misses and hits of a job, while the files with some names are being compiled. A file with a
text that was missed is one of those, or is held since. It was missed once. A file that was hit is
still held. -/
structure Accounted (engine : Engine) (job : Job) (started : List String) (cache : Cache) :
    Prop where
  /-- Nothing with a text is missed twice. -/
  once : ∀ file ∈ job.files.values, HasText engine job file →
    cache.misses.count file.name ≤ 1
  /-- What was missed is being compiled or held. -/
  missed : ∀ file ∈ job.files.values, HasText engine job file → file.name ∈ cache.misses →
    file.name ∈ started ∨ ∃ entry, held job cache file = some entry
  /-- What was hit is held. -/
  hit : ∀ file ∈ job.files.values, file.name ∈ cache.hits →
    ∃ entry, held job cache file = some entry

variable {started : List String}

theorem accounted_clearStats (engine : Engine) (job : Job) (cache : Cache) :
    Accounted engine job [] cache.clearStats where
  once := by simp [Cache.clearStats]
  missed := by simp [Cache.clearStats]
  hit := by simp [Cache.clearStats]

/-- A hit is held. -/
theorem Accounted.ofHit (h : Accounted engine job started cache)
    (hfiles : FileSet.Keyed job.files) (htarget : target ∈ job.files.values)
    (hheld : held job cache target = some entry) :
    Accounted engine job started (cache.hit target.name) where
  once := h.once
  missed := h.missed
  hit file hmem hname := by
    rcases List.mem_append.1 hname with hname | hname
    · exact h.hit file hmem hname
    · obtain rfl := eq_of_mem_values hfiles hmem htarget (List.mem_singleton.1 hname)
      exact ⟨entry, hheld⟩

/-- A file that is neither held nor being compiled was not missed before. -/
theorem Accounted.ofMiss (h : Accounted engine job started cache)
    (hfiles : FileSet.Keyed job.files) (htarget : target ∈ job.files.values)
    (hheld : held job cache target = none) (hnew : target.name ∉ started) :
    Accounted engine job (started ++ [target.name]) (cache.miss target.name) where
  once file hmem htext := by
    have hcount : (cache.miss target.name).misses.count file.name =
        cache.misses.count file.name + [target.name].count file.name := List.count_append
    rw [hcount]
    by_cases hname : target.name = file.name
    · obtain rfl := eq_of_mem_values hfiles htarget hmem hname
      have hzero : cache.misses.count target.name = 0 := by
        refine List.count_eq_zero.2 fun hmissed => ?_
        rcases h.missed target htarget htext hmissed with hstarted | ⟨entry, hentry⟩
        · exact hnew hstarted
        · simp [hheld] at hentry
      simp [hzero]
    · have hone := h.once file hmem htext
      simpa [hname] using hone
  missed file hmem htext hname := by
    rcases List.mem_append.1 hname with hname | hname
    · rcases h.missed file hmem htext hname with hstarted | hentry
      · exact .inl (List.mem_append_left _ hstarted)
      · exact .inr hentry
    · exact .inl (List.mem_append_right _ hname)
  hit := h.hit

/-- A file that was compiled is held. -/
theorem Accounted.ofStore (h : Accounted engine job (started ++ [target.name]) cache)
    (hfiles : FileSet.Keyed job.files) (htarget : target ∈ job.files.values)
    (hcurrent : Current job.files compiled.dependencies) :
    Accounted engine job started (cache.store target.name (entryOf target compiled)) := by
  have hheld {file : SourceFile} (hmem : file ∈ job.files.values)
      (hother : target.name ≠ file.name → ∃ entry, held job cache file = some entry) :
      ∃ entry, held job (cache.store target.name (entryOf target compiled)) file = some entry := by
    by_cases hname : target.name = file.name
    · obtain rfl := eq_of_mem_values hfiles htarget hmem hname
      exact ⟨_, held_store_self hcurrent⟩
    · obtain ⟨entry, hentry⟩ := hother hname
      exact ⟨entry, (held_store_of_ne hname).trans hentry⟩
  refine ⟨h.once, fun file hmem htext hname => ?_, fun file hmem hname => ?_⟩
  · rcases h.missed file hmem htext hname with hstarted | hentry
    · rcases List.mem_append.1 hstarted with hstarted | hstarted
      · exact .inl hstarted
      · refine .inr (hheld hmem fun hne => ?_)
        exact absurd (List.mem_singleton.1 hstarted).symm hne
    · exact .inr (hheld hmem fun _ => hentry)
  · exact hheld hmem fun _ => h.hit file hmem hname

/-- A file that turned out to have no text need not be accounted for. -/
theorem Accounted.ofRefusal (h : Accounted engine job (started ++ [target.name]) cache)
    (hfiles : FileSet.Keyed job.files) (htarget : target ∈ job.files.values)
    (htext : ¬ HasText engine job target) : Accounted engine job started cache where
  once := h.once
  missed file hmem htext' hname := by
    rcases h.missed file hmem htext' hname with hstarted | hentry
    · rcases List.mem_append.1 hstarted with hstarted | hstarted
      · exact .inl hstarted
      · obtain rfl := eq_of_mem_values hfiles hmem htarget (List.mem_singleton.1 hstarted)
        exact absurd htext' htext
    · exact .inr hentry
  hit := h.hit

/-- A fetch without a circle accounts for its miss, if the compilation of the file does. -/
theorem accounted_fetch (ha : engine.Accepting) (hfiles : FileSet.Keyed job.files)
    (htarget : target ∈ job.files.values)
    (ih : ∀ started cache, started ⊆ stack ++ [target.name] → Accounted engine job started cache →
      (∀ chain, (transform engine job (stack ++ [target.name]) target cache).1 ≠
        .error (.circularImport chain)) →
      Accounted engine job started (transform engine job (stack ++ [target.name]) target cache).2)
    (hstarted : started ⊆ stack) (hnew : target.name ∉ stack)
    (h : Accounted engine job started cache)
    (hne : ∀ chain, (fetch engine job stack target cache).1 ≠ .error (.circularImport chain)) :
    Accounted engine job started (fetch engine job stack target cache).2 := by
  have hmiss (hl : held job cache target = none) :
      Accounted engine job (started ++ [target.name]) (cache.miss target.name) :=
    h.ofMiss hfiles htarget hl fun hmem => hnew (hstarted hmem)
  have hstarted' : started ++ [target.name] ⊆ stack ++ [target.name] :=
    List.append_subset.2 ⟨fun name hname => List.mem_append_left _ (hstarted hname),
      List.subset_append_right _ _⟩
  generalize hfetch : fetch engine job stack target cache = result at hne ⊢
  cases fetch_ends hfetch with
  | served hl => exact h.ofHit hfiles htarget hl
  | wrapped hl => exact (hmiss hl).ofStore hfiles htarget (current_empty _)
  | compiled hl hw hc =>
    have hcompile := ih _ _ hstarted' (hmiss hl)
    rw [hc] at hcompile
    exact (hcompile (by simp)).ofStore hfiles htarget (current_transform ha _ _ _ _ _ hc)
  | failed hl hw hc =>
    have hcompile := ih _ _ hstarted' (hmiss hl)
    rw [hc] at hcompile
    obtain ⟨message, hm, -, -⟩ :=
      parse_error_of_transform ha hc fun chain he => hne chain (congrArg Except.error he)
    refine (hcompile (by simpa using hne)).ofRefusal hfiles htarget ?_
    rintro ⟨text, htext⟩
    rw [standalone_of_parse_error ha hfiles hw hm] at htext
    cases htext

/-- A compilation without a circle accounts for its misses. -/
theorem accounted_transform (ha : engine.Accepting) (hfiles : FileSet.Keyed job.files)
    (stack : List String) (file : SourceFile) :
    ∀ started cache, started ⊆ stack → Accounted engine job started cache →
      (∀ chain, (transform engine job stack file cache).1 ≠ .error (.circularImport chain)) →
      Accounted engine job started (transform engine job stack file cache).2 := by
  induction stack, file using stack_induction job.files with
  | step stack file ih =>
  intro started cache hstarted h hne
  rcases transform_cases ha job stack file cache with
    ⟨message, -, hr⟩ | ⟨m, -, ⟨chain, hr⟩ | ⟨code, hf, -, hr⟩⟩ <;> rw [hr] at hne ⊢
  · exact h
  · exact absurd rfl (hne chain)
  · refine (Redirection.visits_run hf).induct
      (I := fun s : Cache × Tried => Accounted engine job started s.1) ?_ h
    rintro source ⟨cache, tried⟩ outcome t hs hv
    have hfound {target : SourceFile} {result : Except CompileError CacheEntry} {cache' : Cache}
        (ht : target? job file.name source = some target) (hnew : target.name ∉ stack)
        (hfetch : fetch engine job stack target cache = (result, cache'))
        (hne : ∀ chain, result ≠ .error (.circularImport chain)) :
        Accounted engine job started cache' := by
      have hmem := mem_values_of_target? ht
      have haccounted := accounted_fetch ha hfiles hmem (ih target hmem hnew) hstarted hnew hs
      rw [hfetch] at haccounted
      exact haccounted hne
    cases visitor_ends hv with
    | unresolved => exact hs
    | replaced ht hnew hfetch => exact hfound ht hnew hfetch (by simp)
    | kept ht hnew hfetch hcircle => exact hfound ht hnew hfetch (by simpa using hcircle)

/-! ### Jobs -/

theorem onward_compile (hfiles : FileSet.Keyed job.files) (cache : Cache) :
    Onward engine job cache (compile engine job cache).2 := by
  cases hentry : entry? job with
  | none =>
    rw [compile, hentry]
    exact .refl ..
  | some file =>
    rw [compile_of_entry hentry]
    exact onward_transform hfiles _ _ cache

/-- A job with code has an entry, which was compiled to that code. -/
theorem exists_root_of_compile {code : String}
    (h : compile engine job cache = (.ok code, cache')) :
    ∃ file compiled, entry? job = some file ∧
      root engine job (patched job file) cache = (.ok compiled, cache') ∧
      entryCode (.ok compiled) = .ok code := by
  cases hentry : entry? job with
  | none =>
    rw [compile, hentry] at h
    cases h
  | some file =>
    rw [compile_of_entry hentry] at h
    rcases hroot : root engine job (patched job file) cache with ⟨e | compiled, cache''⟩ <;>
      rw [hroot] at h <;> obtain ⟨hcode, rfl⟩ := Prod.mk.inj h
    · cases hcode
    · exact ⟨file, compiled, rfl, hroot, hcode⟩

/-- A job with code accounts for its misses, and nothing is being compiled any more. -/
theorem accounted_compile (ha : engine.Accepting) (hfiles : FileSet.Keyed job.files) {code : String}
    (h : compile engine job cache.clearStats = (.ok code, cache')) :
    Accounted engine job [] cache' := by
  obtain ⟨file, compiled, -, hroot, -⟩ := exists_root_of_compile h
  have haccounted := accounted_transform ha hfiles [(patched job file).name] (patched job file) []
    cache.clearStats (List.nil_subset _) (accounted_clearStats engine job cache)
  rw [root] at hroot
  rw [hroot] at haccounted
  exact haccounted (by simp)

/-- From the cache that a job with code left, the job has the same code again, and what it misses
is refused. -/
theorem compile_again (ha : engine.Accepting) (hfiles : FileSet.Keyed job.files) {code : String}
    (h : compile engine job cache = (.ok code, cache'))
    (hentries : cache''.entries = cache'.entries) :
    (compile engine job cache'').1 = .ok code ∧
      ∀ name ∈ (compile engine job cache'').2.misses, name ∈ cache''.misses ∨
        ∃ target ∈ job.files.values, target.name = name ∧ Refused engine job target := by
  obtain ⟨file, compiled, hentry, hroot, hcode⟩ := exists_root_of_compile h
  obtain ⟨hresult, hmisses⟩ := transform_again ha hfiles hroot hentries
  rw [compile_of_entry hentry]
  exact ⟨(congrArg entryCode hresult).trans hcode, hmisses⟩

end LivePreview.Compile
