import LivePreview.Proofs.Compile.Depth
import LivePreview.Proofs.Engine
import LivePreview.Script

/-!
# What a compilation records

A compiled module carries the names that its imports were resolved against, through all levels.
The record is current: each name has the fingerprint it has in the file set, or is absent there.
The record is also sufficient: in any other set that holds the same files under the recorded names,
the module is compiled to the same text and with the same record, whatever else the set holds.

Both are shown along the compilation itself, from any cache. The second one runs two compilations
side by side. They have the same cache at each point, since an entry of the cache is current in
both sets or in none.

## Main definitions

* `LivePreview.Compile.Current`: a record is current.
* `LivePreview.Compile.Agree`: two sets hold the same files under recorded names.
* `LivePreview.Compile.SameIn`: a module is compiled to the same in another set.

## Main results

* `LivePreview.Compile.current_transform`: compilations record current fingerprints.
* `LivePreview.Compile.transform_congr`: the record decides a compilation.
* `LivePreview.Compile.transformFile_record`: both, for a file that is compiled as a root.
-/

namespace LivePreview.Compile

/-- Every recorded name has the recorded fingerprint in the set, or is absent as recorded. -/
def Current (files : FileSet) (tried : Tried) : Prop :=
  ∀ k fp, tried.get? k = some fp → fp = FileSet.current files k

/-- Two sets hold the same files under the names of a record. -/
def Agree (files files' : FileSet) (tried : Tried) : Prop :=
  ∀ k, tried.contains k = true → files'.get? k = files.get? k

/-- Two sets hold the same files under all names recorded in a cache. -/
def AgreeCache (files files' : FileSet) (cache : Cache) : Prop :=
  ∀ name entry, cache.entries.get? name = some entry → Agree files files' entry.dependencies

/-- In another set a module is compiled to the same text, with the same record and the same cache,
if that set agrees on what is recorded. -/
def SameIn (engine : Engine) (job : Job) (files' : FileSet) (stack : List String)
    (file : SourceFile) : Prop :=
  ∀ cache compiled cache', transform engine job stack file cache = (.ok compiled, cache') →
    Agree job.files files' compiled.dependencies → AgreeCache job.files files' cache →
      transform engine { job with files := files' } stack file cache = (.ok compiled, cache') ∧
        AgreeCache job.files files' cache'

variable {engine : Engine} {job : Job} {stack : List String} {file target : SourceFile}
  {importer source : String} {cache : Cache} {tried : Tried} {files' : FileSet}

/-! ### Records -/

theorem contains_recorded (k : String) :
    (recorded job importer source tried).contains k = true ↔
      k ∈ probes job importer source ∨ tried.contains k = true := by
  rw [NameMap.contains, get?_recorded]
  by_cases hk : k ∈ probes job importer source <;> simp [hk, NameMap.contains]

theorem contains_union (tried' : Tried) (k : String) :
    (tried.union tried').contains k = true ↔
      tried.contains k = true ∨ tried'.contains k = true := by
  rw [NameMap.contains, NameMap.get?_union, Option.isSome_or, Bool.or_eq_true, or_comm]
  rfl

theorem current_empty (files : FileSet) : Current files NameMap.empty := by
  intro k fp h
  simp at h

theorem Current.recorded (h : Current job.files tried) :
    Current job.files (recorded job importer source tried) := by
  intro k fp hk
  rw [get?_recorded] at hk
  split at hk
  · exact (Option.some.inj hk).symm
  · exact h k fp hk

theorem Current.union {files : FileSet} {tried' : Tried} (h : Current files tried)
    (h' : Current files tried') : Current files (tried.union tried') := by
  intro k fp hk
  rw [NameMap.get?_union, Option.or_eq_some_iff] at hk
  rcases hk with hk | ⟨-, hk⟩
  · exact h' k fp hk
  · exact h k fp hk

/-- The record of an entry that is found current is current. -/
theorem current_of_lookup {name : String} {fingerprint : Fingerprint} {entry : CacheEntry}
    {files : FileSet}
    (h : cache.lookup name fingerprint (FileSet.current files) = some entry) :
    cache.entries.get? name = some entry ∧ entry.fingerprint = fingerprint ∧
      Current files entry.dependencies := by
  obtain ⟨hentry, hfp, hrecord⟩ := Cache.lookup_eq_some_iff.1 h
  exact ⟨hentry, hfp, fun k fp hk => (hrecord k fp hk).symm⟩

/-! ### Fingerprints -/

/-- A fetched entry is current: it was found so, or it was compiled just now. -/
theorem current_fetch
    (ih : ∀ cache compiled cache',
      transform engine job (stack ++ [target.name]) target cache = (.ok compiled, cache') →
        Current job.files compiled.dependencies)
    {entry : CacheEntry} {cache' : Cache}
    (h : fetch engine job stack target cache = (.ok entry, cache')) :
    Current job.files entry.dependencies := by
  cases fetch_ends h with
  | served hl => exact (current_of_lookup hl).2.2
  | wrapped => exact current_empty _
  | compiled _ _ hc => exact ih _ _ _ hc

/-- Compilations record current fingerprints. -/
theorem current_transform (ha : engine.Accepting) (stack : List String) (file : SourceFile) :
    ∀ cache compiled cache', transform engine job stack file cache = (.ok compiled, cache') →
      Current job.files compiled.dependencies := by
  induction stack, file using stack_induction job.files with
  | step stack file ih =>
  intro cache compiled cache' h
  obtain ⟨m, -, -, -, hdeps, -⟩ := exists_visited_of_transform ha h
  rw [hdeps]
  refine (Redirection.run_induct (visitor engine job stack file.name)
    (fun s : Cache × Tried => Current job.files s.2) (fun _ => True) (fun _ => True)
    ?_ (s := (cache, NameMap.empty)) (current_empty _)).1
  rintro source - - ⟨cache, tried⟩ htried
  refine ⟨?_, fun _ => trivial, fun _ _ => trivial⟩
  generalize hv : visitor engine job stack file.name source (cache, tried) = result
  cases visitor_ends hv with
  | replaced ht hnew hfetch =>
    exact htried.recorded.union (current_fetch (ih _ (mem_values_of_target? ht) hnew) hfetch)
  | _ => exact htried.recorded

/-! ### Agreement -/

theorem Agree.of_recorded (h : Agree job.files files' (recorded job importer source tried)) :
    Agree job.files files' tried :=
  fun k hk => h k ((contains_recorded k).2 (.inr hk))

theorem Agree.of_probes (h : Agree job.files files' (recorded job importer source tried)) :
    ∀ k ∈ probes job importer source, files'.get? k = job.files.get? k :=
  fun k hk => h k ((contains_recorded k).2 (.inl hk))

/-- A record that is current in a set is current in all sets that agree on it. -/
theorem Agree.current {files : FileSet} (h : Agree files files' tried)
    (hcurrent : Current files tried) : Current files' tried := by
  intro k fp hk
  have hget : files'.get? k = files.get? k := h k (by rw [NameMap.contains, hk]; rfl)
  rw [FileSet.current, hget]
  exact hcurrent k fp hk

theorem agree_union_iff {files : FileSet} {tried' : Tried} :
    Agree files files' (tried.union tried') ↔
      Agree files files' tried ∧ Agree files files' tried' := by
  simp only [Agree, contains_union]
  exact ⟨fun h => ⟨fun k hk => h k (.inl hk), fun k hk => h k (.inr hk)⟩,
    fun h k hk => hk.elim (h.1 k) (h.2 k)⟩

/-- The names recorded before a visit are still recorded after it. -/
theorem Agree.of_visitor {s : Cache × Tried}
    (h : Agree job.files files' (visitor engine job stack importer source s).2.2) :
    Agree job.files files' s.2 := by
  obtain ⟨cache, tried⟩ := s
  generalize hv : visitor engine job stack importer source (cache, tried) = result at h
  cases visitor_ends hv with
  | replaced => exact (agree_union_iff.1 h).1.of_recorded
  | _ => exact h.of_recorded

theorem AgreeCache.store {files : FileSet} {name : String} {entry : CacheEntry}
    (h : AgreeCache files files' cache) (hentry : Agree files files' entry.dependencies) :
    AgreeCache files files' (cache.store name entry) :=
  Cache.forall_store (P := fun _ entry => Agree files files' entry.dependencies) h hentry

/-- Sets that agree on what is recorded in a cache find the same entries current. -/
theorem lookup_congr {files : FileSet} (h : AgreeCache files files' cache) (name : String)
    (fingerprint : Fingerprint) :
    cache.lookup name fingerprint (FileSet.current files') =
      cache.lookup name fingerprint (FileSet.current files) := by
  ext entry
  rw [Cache.lookup_eq_some_iff, Cache.lookup_eq_some_iff]
  refine and_congr_right fun hentry => and_congr_right' (forall₃_congr fun k fp hfp => ?_)
  have hk : entry.dependencies.contains k = true := by
    rw [NameMap.contains, hfp]
    rfl
  have hcurrent : FileSet.current files' k = FileSet.current files k :=
    congrArg (Option.map SourceFile.fingerprint) (h name entry hentry k hk)
  rw [hcurrent]

/-! ### Two compilations -/

/-- Two sets that agree on what is recorded give the same entry of a dependency, if there is no
circle. -/
theorem fetch_congr (ha : engine.Accepting)
    (ih : SameIn engine job files' (stack ++ [target.name]) target)
    {result : Except CompileError CacheEntry} {cache' : Cache}
    (h : fetch engine job stack target cache = (result, cache'))
    (hok : ∀ entry, result = .ok entry → Agree job.files files' entry.dependencies)
    (hne : ∀ chain, result ≠ .error (.circularImport chain))
    (hcache : AgreeCache job.files files' cache) :
    fetch engine { job with files := files' } stack target cache = (result, cache') ∧
      AgreeCache job.files files' cache' := by
  have hmiss : AgreeCache job.files files' (cache.miss target.name) := hcache
  let job' : Job := { job with files := files' }
  have hlookup {held : Option CacheEntry}
      (hl : cache.lookup target.name target.fingerprint job.files.current = held) :
      cache.lookup target.name target.fingerprint job'.files.current = held :=
    (lookup_congr hcache target.name target.fingerprint).trans hl
  cases fetch_ends h with
  | served hl => exact ⟨fetch_of_hit (hlookup hl), hcache⟩
  | wrapped hl hw =>
    exact ⟨fetch_of_miss (hlookup hl) (compileTarget_of_wrapped hw), hmiss.store (hok _ rfl)⟩
  | compiled hl hw hc =>
    have hw' : wrapped? job' target = none := hw
    obtain ⟨hc', hcache'⟩ := ih _ _ _ hc (hok _ rfl) hmiss
    refine ⟨fetch_of_miss (hlookup hl) ?_, hcache'.store (hok _ rfl)⟩
    rw [compileTarget_of_module hw']
    exact hc'
  | failed hl hw hc =>
    -- Without a circle the target is no module, so it is refused in both sets.
    have hw' : wrapped? job' target = none := hw
    obtain ⟨message, hm, rfl, rfl⟩ :=
      parse_error_of_transform ha hc fun chain he => hne chain (congrArg Except.error he)
    refine ⟨fetch_of_miss_error (hlookup hl) ?_, hmiss⟩
    rw [compileTarget_of_module hw']
    exact transform_of_parse_error hm

/-- Two sets that agree on what is recorded give the same outcome of an import, if there is no
circle. -/
theorem visitor_congr (ha : engine.Accepting)
    (ih : ∀ dep ∈ job.files.values, dep.name ∉ stack →
      SameIn engine job files' (stack ++ [dep.name]) dep)
    {s : Cache × Tried} (hcache : AgreeCache job.files files' s.1)
    (hagree : Agree job.files files' (visitor engine job stack importer source s).2.2)
    (hne : ∀ e, (visitor engine job stack importer source s).1 ≠ .error e) :
    visitor engine { job with files := files' } stack importer source s =
        visitor engine job stack importer source s ∧
      AgreeCache job.files files' (visitor engine job stack importer source s).2.1 := by
  obtain ⟨cache, tried⟩ := s
  have hfind (hrec : Agree job.files files' (recorded job importer source tried)) :
      target? { job with files := files' } importer source = target? job importer source ∧
        recorded { job with files := files' } importer source tried =
          recorded job importer source tried :=
    ⟨target?_congr hrec.of_probes, recorded_congr hrec.of_probes⟩
  generalize hv : visitor engine job stack importer source (cache, tried) = result at hagree hne ⊢
  cases visitor_ends hv with
  | unresolved ht =>
    obtain ⟨ht', hrec⟩ := hfind hagree
    rw [visitor_of_none (ht'.trans ht), hrec]
    exact ⟨rfl, hcache⟩
  | closes | circular => exact absurd rfl (hne _)
  | replaced ht hnew hfetch =>
    obtain ⟨hrec, hdeps⟩ := agree_union_iff.1 hagree
    obtain ⟨ht', hrec'⟩ := hfind hrec
    obtain ⟨hfetch', hcache'⟩ := fetch_congr ha (ih _ (mem_values_of_target? ht) hnew) hfetch
      (by simpa using hdeps) (by simp) hcache
    rw [visitor_of_not_mem (ht'.trans ht) hnew, hfetch', hrec']
    exact ⟨rfl, hcache'⟩
  | kept ht hnew hfetch hcircle =>
    obtain ⟨ht', hrec'⟩ := hfind hagree
    obtain ⟨hfetch', hcache'⟩ := fetch_congr ha (ih _ (mem_values_of_target? ht) hnew) hfetch
      (by simp) (by simpa using hcircle) hcache
    rw [visitor_of_fetch_error (ht'.trans ht) hnew hfetch' hcircle, hrec']
    exact ⟨rfl, hcache'⟩

/-- The record decides a compilation: in a set that agrees on it, the module is compiled to the
same text, with the same record and the same cache. -/
theorem transform_congr (ha : engine.Accepting) (files' : FileSet) (stack : List String)
    (file : SourceFile) : SameIn engine job files' stack file := by
  induction stack, file using stack_induction job.files with
  | step stack file ih =>
  intro cache compiled cache' h hagree hcache
  obtain ⟨m, hm, hf, he, hdeps, rfl⟩ := exists_visited_of_transform ha h
  rw [hdeps] at hagree
  obtain ⟨hfst, hsnd, hcache'⟩ := Redirection.run_simulates
    (visitor engine job stack file.name)
    (visitor engine { job with files := files' } stack file.name)
    (fun s t => t = s ∧ AgreeCache job.files files' s.1)
    (fun s => Agree job.files files' s.2) (fun _ => False)
    (fun source _ s => Agree.of_visitor)
    (by
      rintro source - - s _ ⟨rfl, hs⟩ hagree' hB
      obtain ⟨hv, hcache'⟩ := visitor_congr ha ih hs hagree' hB
      exact ⟨congrArg Prod.fst hv, congrArg Prod.snd hv, hcache'⟩)
    (s := (cache, NameMap.empty)) ⟨rfl, hcache⟩ hagree (by simp [hf])
  have hvisited : visited engine { job with files := files' } stack file m cache =
      visited engine job stack file m cache := Prod.ext hfst hsnd
  have hm' : engine.parse file.name (moduleText { job with files := files' } file) = .ok m := hm
  have hf' : (visited engine { job with files := files' } stack file m cache).1.failure = none := by
    rw [hvisited]
    exact hf
  have he' : engine.emit (engine.withSources m
      (visited engine { job with files := files' } stack file m cache).1.sources) =
        .ok compiled.code := by
    rw [hvisited]
    exact he
  rw [transform_of_emit hm' hf' he', hvisited, ← hdeps]
  exact ⟨rfl, hcache'⟩

/-! ### Files as roots -/

/-- The names recorded for a file that is compiled as a root, from an empty cache, are current, and
they are sufficient: in any other set with the same file, and with the same files under the
recorded names, it is compiled to the same text with the same record. -/
theorem transformFile_record {engine : Engine} (ha : engine.Accepting) {job : Job} {name : String}
    {compiled : Compiled} (h : (transformFile engine job name Cache.empty).1 = .ok compiled) :
    Current job.files compiled.dependencies ∧
      ∀ files' : FileSet, files'.get? name = job.files.get? name →
        Agree job.files files' compiled.dependencies →
          (transformFile engine { job with files := files' } name Cache.empty).1 =
            .ok compiled := by
  cases hfile : job.files.get? name with
  | none =>
    rw [transformFile, hfile] at h
    cases h
  | some file =>
    rcases hroot : transform engine job [file.name] file Cache.empty with ⟨result, cache'⟩
    obtain rfl : result = .ok compiled := by
      rw [transformFile, hfile] at h
      exact (congrArg Prod.fst hroot).symm.trans h
    refine ⟨current_transform ha _ _ _ _ _ hroot, fun files' hname hagree => ?_⟩
    have hempty : AgreeCache job.files files' Cache.empty := by
      intro other entry hother
      simp [Cache.empty] at hother
    have hroot' := (transform_congr ha files' _ _ _ _ _ hroot hagree hempty).1
    rw [transformFile, hname]
    exact congrArg Prod.fst hroot'

/-- A module that imports a second one, which imports data. -/
def chainJob : Job where
  config := Config.standard
  files := FileSet.ofFiles [
    ⟨"a.ts", "import './b'\n", .script⟩,
    ⟨"b.ts", "import './c.json'\n", .script⟩,
    ⟨"c.json", "1", .data⟩]
  stamp := 1

/-- A file that no import looks for may be added. -/
theorem transformFile_record_chain :
    ∃ compiled, (transformFile Script.engine.lenient chainJob "a.ts" Cache.empty).1 =
        .ok compiled ∧
      compiled.dependencies.contains "c.json" = true ∧
      Current chainJob.files compiled.dependencies ∧
      (transformFile Script.engine.lenient
        { chainJob with files := chainJob.files.put ⟨"z.ts", "", .script⟩ } "a.ts" Cache.empty).1 =
          .ok compiled := by
  have hrun : (transformFile Script.engine.lenient chainJob "a.ts" Cache.empty).1.toOption.any
      (fun compiled => compiled.dependencies.contains "c.json" &&
        !compiled.dependencies.contains "z.ts") = true := by
    have hfile : chainJob.files.get? "a.ts" = some ⟨"a.ts", "import './b'\n", .script⟩ := by
      decide +kernel
    rw [transformFile_eq_within (fun cache => (.error .emptyOutput, cache)) hfile]
    decide +kernel
  rcases h : (transformFile Script.engine.lenient chainJob "a.ts" Cache.empty).1 with e | compiled
  · rw [h] at hrun
    cases hrun
  · rw [h] at hrun
    obtain ⟨hc, hz⟩ : compiled.dependencies.contains "c.json" = true ∧
        compiled.dependencies.contains "z.ts" = false := by
      simpa [Except.toOption] using hrun
    obtain ⟨hcurrent, hsuffices⟩ := transformFile_record (Engine.accepting_lenient _) h
    refine ⟨compiled, rfl, hc, hcurrent, hsuffices _ ?_ fun k hk => ?_⟩
    · exact NameMap.get?_insert_of_ne _ (by decide) _
    · refine NameMap.get?_insert_of_ne _ ?_ _
      rintro rfl
      simp [hz] at hk

end LivePreview.Compile
