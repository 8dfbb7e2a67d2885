import LivePreview.Proofs.Compile.Transfer

/-!
# Cache transparency

A compilation that starts from a cache gives what it would give without one, as long as
fingerprints tell the files apart that were compiled into the cache, and leaves such a cache.

The cache holds entries of any of the sets seen so far, compiled below any stack with the same
root. An entry is only used if its record is current. Then the two sets agree on the record, and
what is left to see is that no module in progress is recorded. A recorded module in progress would
lead back to the file of the entry along the stack, whose names would all be recorded, and the
record would hold the file of the entry itself.

## Main definitions

* `LivePreview.Compile.Distinguished`: fingerprints tell the files of some sets apart.
* `LivePreview.Compile.SoundCache`: all entries of a cache were compiled in one of some sets.
* `LivePreview.Compile.Transparent`: a sound cache makes no difference to a module.

## Main results

* `LivePreview.Compile.transform_eq_plain`: a sound cache is transparent and stays sound.
* `LivePreview.Compile.compile_eq_plain`: so it is to a job.
-/

namespace LivePreview.Compile

open Relation (ReflTransGen)

/-- Files of some sets that have the same name and the same fingerprint are the same. -/
def Distinguished (seen : List FileSet) : Prop :=
  ∀ files ∈ seen, ∀ files' ∈ seen, ∀ file ∈ files.values, ∀ file' ∈ files'.values,
    file.name = file'.name → file.fingerprint = file'.fingerprint → file = file'

/-- All entries of a cache are those of files of some sets, which were compiled with the settings
of the job below a stack that holds the root. -/
def SoundCache (engine : Engine) (job : Job) (seen : List FileSet) (root : String)
    (cache : Cache) : Prop :=
  ∀ name entry, cache.entries.get? name = some entry →
    ∃ files ∈ seen, ∃ file stack compiled, files.get? name = some file ∧ root ∈ stack ∧
      plainTarget engine { job with files := files } stack file = .ok compiled ∧
        entry = entryOf file compiled

/-- A sound cache is transparent to the compilation of a module and stays sound. -/
def Transparent (engine : Engine) (job : Job) (seen : List FileSet) (root : SourceFile)
    (stack : List String) (file : SourceFile) : Prop :=
  ∀ cache, InProgress engine job root stack file →
    SoundCache engine job seen root.name cache →
      (transform engine job stack file cache).1 = plain engine job stack file ∧
        SoundCache engine job seen root.name (transform engine job stack file cache).2

instance (seen : List FileSet) : Decidable (Distinguished seen) :=
  inferInstanceAs (Decidable (∀ files ∈ seen, ∀ files' ∈ seen, ∀ file ∈ files.values,
    ∀ file' ∈ files'.values, file.name = file'.name → file.fingerprint = file'.fingerprint →
      file = file'))

variable {engine : Engine} {job : Job} {seen : List FileSet} {root file target : SourceFile}
  {stack : List String} {cache : Cache}

/-- In a keyed set every file is under its own name. -/
theorem get?_of_mem_values {files : FileSet} (hfiles : FileSet.Keyed files)
    (hmem : file ∈ files.values) : files.get? file.name = some file := by
  obtain ⟨⟨name, _⟩, hentry, rfl⟩ := List.mem_map.1 hmem
  have hget := (NameMap.get?_eq_some_iff files name _).2 hentry
  exact hfiles name _ hget ▸ hget

/-- Files of one keyed set are told apart by their names. -/
theorem eq_of_mem_values {files : FileSet} (hfiles : FileSet.Keyed files)
    (hmem : file ∈ files.values) (hmem' : target ∈ files.values)
    (hname : file.name = target.name) : file = target := by
  have hget := get?_of_mem_values hfiles hmem
  rw [hname] at hget
  exact Option.some.inj (hget.symm.trans (get?_of_mem_values hfiles hmem'))

theorem distinguished_singleton {files : FileSet} (hfiles : FileSet.Keyed files) :
    Distinguished [files] := by
  intro files₁ h₁ files₂ h₂ file hmem file' hmem' hname _
  obtain rfl := List.mem_singleton.1 h₁
  obtain rfl := List.mem_singleton.1 h₂
  exact eq_of_mem_values hfiles hmem hmem' hname

theorem soundCache_empty {name : String} : SoundCache engine job seen name Cache.empty := by
  intro other entry h
  simp [Cache.empty] at h

theorem SoundCache.store {name : String} (hcache : SoundCache engine job seen name cache)
    (hseen : job.files ∈ seen) (hget : job.files.get? file.name = some file)
    (hroot : name ∈ stack) {compiled : Compiled}
    (hc : plainTarget engine job stack file = .ok compiled) :
    SoundCache engine job seen name (cache.store file.name (entryOf file compiled)) :=
  Cache.forall_store hcache ⟨job.files, hseen, file, stack, compiled, hget, hroot, hc, rfl⟩

/-! ### Second attempts -/

/-- A second attempt that leaves the cache alone leaves nothing to the cache. -/
theorem withRetry_eq_plainRetry {marker : String}
    {first second : CacheM (Except CompileError Compiled)} {second' : Except CompileError Compiled}
    (h : ∀ cache, second cache = (second', cache)) :
    withRetry marker first second cache =
      (plainRetry marker (first cache).1 second', (first cache).2) := by
  rcases hf : first cache with ⟨e | compiled, cache'⟩
  · rw [withRetry_of_error hf, h]
    simp only [plainRetry]
    split
    · cases second' <;> rfl
    · rfl
  · rw [withRetry_of_ok hf]
    rfl

/-- The second attempt is the same with and without a cache. -/
theorem transformModule_record_eq_plain :
    transformModule engine job file (recordImport job file.name) cache =
      (plainModule engine job file (plainRecord job file.name), cache) := by
  cases hm : engine.parse file.name (moduleText job file) with
  | error message => simp only [transformModule, plainModule, hm]
  | ok m =>
    obtain ⟨hfst, hcache, hsnd⟩ := Redirection.run_simulates (recordImport job file.name)
      (plainRecord job file.name) (fun s t => s.1 = cache ∧ t = s.2) (fun _ => True)
      (fun _ => True) (fun _ _ _ _ => trivial)
      (by
        rintro source - - s _ ⟨rfl, rfl⟩ - -
        rw [recordImport, plainRecord]
        exact ⟨rfl, rfl, rfl⟩)
      (l := engine.sources m) (s := (cache, NameMap.empty)) (t := NameMap.empty) ⟨rfl, rfl⟩
      trivial (fun _ _ => trivial)
    rw [transformModule_of_parse hm, plainModule_of_parse hm, hcache, hfst, hsnd]

/-! ### Hits -/

/-- The record of a compiled file is current. -/
theorem current_plainTarget (ha : engine.Accepting) {compiled : Compiled}
    (hc : plainTarget engine job stack target = .ok compiled) :
    Current job.files compiled.dependencies := by
  rcases plainTarget_eq_ok_iff.1 hc with ⟨text, -, rfl⟩ | ⟨-, hplain⟩
  · exact current_empty _
  · obtain ⟨m, hwritten⟩ := exists_written_of_plain ha _ _ _ hplain
    exact hwritten.current

/-- Sets whose files are told apart agree on a record that is current in both. -/
theorem agree_of_current {files files' : FileSet} (hdist : Distinguished seen)
    (hseen : files ∈ seen) (hseen' : files' ∈ seen) (hfiles : FileSet.Keyed files)
    (hfiles' : FileSet.Keyed files') {tried : Tried} (h : Current files tried)
    (h' : Current files' tried) : Agree files files' tried := by
  intro k hk
  obtain ⟨fp, hfp⟩ := Option.isSome_iff_exists.1 hk
  have hcurrent : FileSet.current files k = FileSet.current files' k :=
    (h k fp hfp).symm.trans (h' k fp hfp)
  rw [FileSet.current, FileSet.current] at hcurrent
  cases hget : files.get? k with
  | none =>
    rw [hget] at hcurrent
    simpa using hcurrent.symm
  | some file =>
    rw [hget] at hcurrent
    obtain ⟨file', hget', hfile'⟩ := Option.map_eq_some_iff.1 hcurrent.symm
    have hname : file'.name = file.name := (hfiles' k file' hget').trans (hfiles k file hget).symm
    rw [hget', hdist files' hseen' files hseen file' (NameMap.mem_values_of_get? hget') file
      (NameMap.mem_values_of_get? hget) hname hfile']

section Recorded

variable (ha : engine.Accepting) {files : FileSet} (hfiles : FileSet.Keyed files)
  {compiled : Compiled}
  (hplain : plain engine { job with files := files } stack file = .ok compiled)
  (hroot : root.name ∈ stack) (hagree : Agree files job.files compiled.dependencies)

include ha hfiles hplain hroot hagree

/-- In sets that agree on the record of a module compiled below the root, what a recorded file
imports is recorded and is a file. -/
theorem recorded_of_imports {a b : String} (hab : Imports engine job root a b)
    (hrec : compiled.dependencies.contains a = true ∧ (files.get? a).isSome = true) :
    compiled.dependencies.contains b = true ∧ (files.get? b).isSome = true := by
  obtain ⟨hcontains, hget⟩ := hrec
  obtain ⟨found, next, hmodule, hnames, rfl⟩ := hab
  obtain ⟨m, hm, source, hsource, hrel, ht⟩ := names_iff.1 hnames
  -- The root is in progress, so it is not recorded as a file.
  have hne : a ≠ root.name := by
    rintro rfl
    have hnone : files.get? root.name = none :=
      absent_of_contains ha hfiles _ _ _ hplain _ hroot hcontains
    simp [hnone] at hget
  rw [module?_of_ne hne, hagree a hcontains, Option.filter_eq_some_iff] at hmodule
  obtain ⟨hfound, hmodule⟩ := hmodule
  have hrecorded : ∀ k ∈ probes { job with files := files } found.name source,
      compiled.dependencies.contains k = true := fun k hk =>
    contains_of_looksAt ha _ _ _ hplain a found hcontains hfound hmodule k
      ⟨m, hm, source, hsource, hrel, hk⟩
  have ht' : target? { job with files := files } found.name source = some next :=
    (target?_congr fun k hk => hagree k (hrecorded k hk)).symm.trans ht
  obtain ⟨hprobe, hnext⟩ := mem_probes_of_target? hfiles ht'
  exact ⟨hrecorded _ hprobe, Option.isSome_iff_exists.2 ⟨next, hnext⟩⟩

/-- And so is everything that a recorded file leads to. -/
theorem recorded_of_reflTransGen {a b : String} (hab : ReflTransGen (Imports engine job root) a b)
    (hrec : compiled.dependencies.contains a = true ∧ (files.get? a).isSome = true) :
    compiled.dependencies.contains b = true ∧ (files.get? b).isSome = true := by
  induction hab with
  | refl => exact hrec
  | tail _ hstep ih => exact recorded_of_imports ha hfiles hplain hroot hagree hstep ih

end Recorded

section Sound

variable (ha : engine.Accepting) (hkeyed : ∀ files ∈ seen, FileSet.Keyed files)
  (hdist : Distinguished seen) (hseen : job.files ∈ seen)

include ha hkeyed hdist hseen

/-- An entry that is found current is what the file is compiled to without a cache. -/
theorem plainTarget_of_hit (h : InProgress engine job root stack file)
    (hn : Names engine job file target)
    (hcache : SoundCache engine job seen root.name cache) {entry : CacheEntry}
    (hl : cache.lookup target.name target.fingerprint job.files.current = some entry) :
    ∃ compiled, plainTarget engine job stack target = .ok compiled ∧
      entry = entryOf target compiled := by
  obtain ⟨hentry, hfp, hcurrent⟩ := current_of_lookup hl
  obtain ⟨files, hfiles, file', stack', compiled, hget, hroot, hc, rfl⟩ := hcache _ _ hentry
  have hmem : target ∈ job.files.values := hn.mem_values
  obtain rfl : file' = target := hdist files hfiles _ hseen file' (NameMap.mem_values_of_get? hget)
    target hmem (hkeyed files hfiles _ _ hget) hfp
  have hagree : Agree files job.files compiled.dependencies :=
    agree_of_current hdist hfiles hseen (hkeyed files hfiles) (hkeyed _ hseen)
      (current_plainTarget ha hc) hcurrent
  -- Along the stack, a recorded file in progress would lead back to the target.
  have habsent : ∀ k ∈ stack, compiled.dependencies.contains k = true → files.get? k = none := by
    intro k hk hcontains
    by_contra hsome
    have hplain := plain_of_plainTarget hc hcontains
    have hpath : ReflTransGen (Imports engine job root) k file'.name :=
      (h.reflTransGen_top hk).tail (h.imports hn)
    obtain ⟨hrec, -⟩ := recorded_of_reflTransGen ha (hkeyed files hfiles) hplain
      (List.mem_append_left _ hroot) hagree hpath ⟨hcontains, Option.isSome_iff_ne_none.2 hsome⟩
    have hnone : files.get? file'.name = none :=
      absent_of_contains ha (hkeyed files hfiles) _ _ _ hplain _ (by simp) hrec
    simp [hnone] at hget
  have htransfer :
      plainTarget engine { { job with files := files } with files := job.files } stack file' =
        .ok compiled :=
    plainTarget_transfer ha (hkeyed files hfiles) hc habsent fun stack'' hplain habsent' =>
      plain_transfer ha (hkeyed files hfiles) job.files _ _ _ stack'' hplain hagree habsent'
  exact ⟨compiled, htransfer, rfl⟩

/-! ### Compilations -/

/-- Fetching a file from a sound cache gives what it is compiled to without a cache. -/
theorem fetch_eq_plain (h : InProgress engine job root stack file)
    (hn : Names engine job file target)
    (hnew : target.name ∉ stack)
    (ih : Transparent engine job seen root (stack ++ [target.name]) target)
    (hcache : SoundCache engine job seen root.name cache) :
    (fetch engine job stack target cache).1 =
        (plainTarget engine job stack target).map (entryOf target) ∧
      SoundCache engine job seen root.name (fetch engine job stack target cache).2 := by
  have hfiles : FileSet.Keyed job.files := hkeyed _ hseen
  have hmiss : SoundCache engine job seen root.name (cache.miss target.name) := hcache
  have hget := hn.get? hfiles
  have hmodule (hw : wrapped? job target = none) :
      (transform engine job (stack ++ [target.name]) target (cache.miss target.name)).1 =
          plainTarget engine job stack target ∧
        SoundCache engine job seen root.name
          (transform engine job (stack ++ [target.name]) target (cache.miss target.name)).2 := by
    rw [plainTarget_of_module hw]
    exact ih _ (h.push hfiles hn hnew (wrapped?_eq_none_iff.1 hw)) hmiss
  generalize hfetch : fetch engine job stack target cache = result
  cases fetch_ends hfetch with
  | served hl =>
    obtain ⟨compiled, hc, rfl⟩ := plainTarget_of_hit ha hkeyed hdist hseen h hn hcache hl
    rw [hc]
    exact ⟨rfl, hcache⟩
  | wrapped hl hw =>
    have hresult : plainTarget engine job stack target = .ok ⟨_, NameMap.empty⟩ :=
      plainTarget_of_wrapped hw
    rw [hresult]
    exact ⟨rfl, hmiss.store hseen hget h.root_mem hresult⟩
  | compiled hl hw hc =>
    obtain ⟨hresult, hcache'⟩ := hmodule hw
    rw [hc] at hresult hcache'
    rw [← hresult]
    exact ⟨rfl, hcache'.store hseen hget h.root_mem hresult.symm⟩
  | failed hl hw hc =>
    obtain ⟨hresult, hcache'⟩ := hmodule hw
    rw [hc] at hresult hcache'
    rw [← hresult]
    exact ⟨rfl, hcache'⟩

/-- Visiting an import with a sound cache is visiting it without a cache. -/
theorem visitor_eq_plain (h : InProgress engine job root stack file) {source : String}
    (hn : ∀ target, target? job file.name source = some target → Names engine job file target)
    (ih : ∀ dep ∈ job.files.values, dep.name ∉ stack →
      Transparent engine job seen root (stack ++ [dep.name]) dep)
    {s : Cache × Tried} (hcache : SoundCache engine job seen root.name s.1) :
    (plainVisitor engine job stack file.name source s.2).1 =
        (visitor engine job stack file.name source s).1 ∧
      SoundCache engine job seen root.name (visitor engine job stack file.name source s).2.1 ∧
      (plainVisitor engine job stack file.name source s.2).2 =
        (visitor engine job stack file.name source s).2.2 := by
  obtain ⟨cache, tried⟩ := s
  cases ht : target? job file.name source with
  | none =>
    rw [visitor_of_none ht, plainVisitor_of_none ht]
    exact ⟨rfl, hcache, rfl⟩
  | some target =>
    by_cases hmem : target.name ∈ stack
    · rw [visitor_of_mem ht hmem, plainVisitor_of_mem ht hmem]
      exact ⟨rfl, hcache, rfl⟩
    · obtain ⟨hresult, hcache'⟩ := fetch_eq_plain ha hkeyed hdist hseen h (hn target ht) hmem
        (ih target (hn target ht).mem_values hmem) hcache
      rw [visitor_of_not_mem ht hmem, plainVisitor_of_not_mem ht hmem]
      rcases hfetch : fetch engine job stack target cache with ⟨result, cache'⟩
      rw [hfetch] at hresult hcache'
      obtain rfl : result = _ := hresult
      rcases plainTarget engine job stack target with e | compiled
      · cases e <;> exact ⟨rfl, hcache', rfl⟩
      · exact ⟨rfl, hcache', rfl⟩

/-- A sound cache is transparent to a compilation and stays sound. -/
theorem transform_eq_plain (stack : List String) (file : SourceFile) :
    Transparent engine job seen root stack file := by
  induction stack, file using stack_induction job.files with
  | step stack file ih =>
  intro cache h hcache
  have hmodule :
      (transformModule engine job file (visitor engine job stack file.name) cache).1 =
          plainModule engine job file (plainVisitor engine job stack file.name) ∧
        SoundCache engine job seen root.name
          (transformModule engine job file (visitor engine job stack file.name) cache).2 := by
    cases hm : engine.parse file.name (moduleText job file) with
    | error message =>
      simp only [transformModule, plainModule, hm]
      exact ⟨trivial, hcache⟩
    | ok m =>
      obtain ⟨hfst, hcache', hsnd⟩ := Redirection.run_simulates
        (visitor engine job stack file.name) (plainVisitor engine job stack file.name)
        (fun s t => SoundCache engine job seen root.name s.1 ∧ t = s.2) (fun _ => True)
        (fun _ => True) (fun _ _ _ _ => trivial)
        (by
          rintro source hsource hrel s _ ⟨hs, rfl⟩ - -
          exact visitor_eq_plain ha hkeyed hdist hseen h
            (fun target ht => names_iff.2 ⟨m, hm, source, hsource, hrel, ht⟩) ih hs)
        (l := engine.sources m) (s := (cache, NameMap.empty)) (t := NameMap.empty)
        ⟨hcache, rfl⟩ trivial (fun _ _ => trivial)
      rw [transformModule_of_parse hm, plainModule_of_parse hm, hfst, hsnd]
      exact ⟨rfl, hcache'⟩
  obtain ⟨hfirst, hcache'⟩ := hmodule
  rw [transform_eq, plain_eq, withRetry_eq_plainRetry fun _ => transformModule_record_eq_plain,
    hfirst]
  exact ⟨rfl, hcache'⟩

/-! ### Jobs -/

/-- A sound cache is transparent to a job and stays sound. -/
theorem compile_eq_plain (hcache : SoundCache engine job seen job.config.entryFile cache) :
    (compile engine job cache).1 = plainCompile engine job ∧
      SoundCache engine job seen job.config.entryFile (compile engine job cache).2 := by
  cases hentry : entry? job with
  | none =>
    rw [compile, plainCompile, hentry]
    exact ⟨rfl, hcache⟩
  | some file =>
    have hname : (patched job file).name = job.config.entryFile :=
      name_patched (hkeyed _ hseen) hentry
    rw [← hname] at hcache
    obtain ⟨hresult, hcache'⟩ := transform_eq_plain ha hkeyed hdist hseen _ _ cache
      (.singleton engine job (patched job file)) hcache
    rw [compile_of_entry hentry, plainCompile, hentry, ← hname]
    exact ⟨congrArg entryCode hresult, hcache'⟩

end Sound

end LivePreview.Compile
