import LivePreview.Proofs.Compile.Misses

/-!
# What imports are replaced by

The label of a file decides what becomes of an import of it. A style sheet becomes a module that
puts it on the page, data becomes a module that exports it, and any other file the module that it is
compiled to, with its own imports replaced in the same way. A style sheet and a component carry a
stamp. What comes from the cache may carry that of an earlier job.

An entry of the cache was built for a file set that was seen before, from the names of its record.
If it is found current, the files under those names are the same now, so each of them has the label
that it had then. This is where the files have to be told apart by their fingerprints, labels
included.

An engine may refuse to write a module. It is assumed to do so whatever the imports of the module
are replaced by; otherwise the second attempt, which replaces none, could succeed where the first
one failed.

## Main definitions

* `LivePreview.Engine.Indifferent`: writing a module does not hang on what its imports name.
* `LivePreview.Compile.Inlines`: the imports of a module, and of what it imports, are replaced by
  what the labels of their files ask for.
* `LivePreview.Compile.Represents`: an address is what the label of a file asks for.
* `LivePreview.Compile.Faithful`: the entries of a cache represent their files.

## Main results

* `LivePreview.Compile.Inlines.transfer`: only the files under the names looked at count.
* `LivePreview.Compile.labelled_transform`: compilations replace imports by label and leave the
  cache faithful.
* `LivePreview.Compile.labelled_compile`: so do jobs.
-/

namespace LivePreview

/-- Whether the engine writes a module that it reads does not hang on what the imports of the module
are replaced by. -/
def Engine.Indifferent (engine : Engine) : Prop :=
  ∀ fileName text m, engine.parse fileName text = .ok m → ∀ l l' code,
    engine.emit (engine.withSources m l) = .ok code →
      ∃ code', engine.emit (engine.withSources m l') = .ok code'

/-- An engine that writes every module does. -/
theorem Engine.Accepting.indifferent {engine : Engine} (h : engine.Accepting) :
    engine.Indifferent :=
  fun fileName text m hm _ l' _ _ => h fileName text m l' hm

namespace Compile

open Redirection (run relative Visits)

/-! ### Imports by label -/

/-- A relative source of a module stands for a file or for none, and the names looked at to find
that out are of some kind. -/
structure Resolves (config : Config) (files : FileSet) (names : String → Prop)
    (importer source : String) (found : Option SourceFile) : Prop where
  /-- The source is relative. -/
  relative : Redirection.relative source = true
  /-- The names looked at are of that kind. -/
  names : ∀ k ∈ Resolve.probes files importer source config.resolveExtensions, names k
  /-- The source stands for that file. -/
  target : Resolve.target? files importer source config.resolveExtensions = found

/-- The engine cannot read a file as a module, or cannot write it. -/
def Fails (engine : Engine) (job : Job) (file : SourceFile) : Prop :=
  ∀ m, engine.parse file.name (moduleText job file) = .ok m →
    ∀ l code, engine.emit (engine.withSources m l) ≠ .ok code

/-- The sources of a module, and what they are replaced by. The names looked at, here and in the
modules that are imported, are of some kind. -/
inductive Inlines (engine : Engine) (config : Config) (stamps : List Nat) (files : FileSet)
    (names : String → Prop) : String → List String → List String → Prop where
  /-- There is no source. -/
  | nil {importer : String} : Inlines engine config stamps files names importer [] []
  /-- A source that is not relative stays as it is. -/
  | external {importer source : String} {rest out : List String}
    (h : Redirection.relative source = false)
    (hrest : Inlines engine config stamps files names importer rest out) :
    Inlines engine config stamps files names importer (source :: rest) (source :: out)
  /-- A source that stands for no file stays as it is. -/
  | unresolved {importer source : String} {rest out : List String}
    (h : Resolves config files names importer source none)
    (hrest : Inlines engine config stamps files names importer rest out) :
    Inlines engine config stamps files names importer (source :: rest) (source :: out)
  /-- A style sheet is replaced by its module, with the stamp of some job. -/
  | styles {importer source : String} {rest out : List String} {file : SourceFile} {stamp : Nat}
    (h : Resolves config files names importer source (some file))
    (hlabel : file.language = .styles) (hstamp : stamp ∈ stamps)
    (hrest : Inlines engine config stamps files names importer rest out) :
    Inlines engine config stamps files names importer (source :: rest)
      (Asset.reference (Asset.styleModule file stamp) :: out)
  /-- Data is replaced by its module. -/
  | data {importer source : String} {rest out : List String} {file : SourceFile}
    (h : Resolves config files names importer source (some file)) (hlabel : file.language = .data)
    (hrest : Inlines engine config stamps files names importer rest out) :
    Inlines engine config stamps files names importer (source :: rest)
      (Asset.reference (Asset.dataModule file) :: out)
  /-- Any other file is replaced by the module it is compiled to, with the stamp of some job. -/
  | module {importer source text : String} {rest out l : List String} {file : SourceFile}
    {stamp : Nat} {m : engine.Module} (h : Resolves config files names importer source (some file))
    (hlabel : isModule file = true) (hstamp : stamp ∈ stamps)
    (hm : engine.parse file.name (moduleText ⟨config, files, stamp⟩ file) = .ok m)
    (himports : Inlines engine config stamps files names file.name (engine.sources m) l)
    (he : engine.emit (engine.withSources m l) = .ok text)
    (hrest : Inlines engine config stamps files names importer rest out) :
    Inlines engine config stamps files names importer (source :: rest)
      (Asset.reference text :: out)
  /-- A file that is to be compiled, but cannot, leaves the source as it is. -/
  | failed {importer source : String} {rest out : List String} {file : SourceFile} {stamp : Nat}
    (h : Resolves config files names importer source (some file)) (hlabel : isModule file = true)
    (hstamp : stamp ∈ stamps) (hfails : Fails engine ⟨config, files, stamp⟩ file)
    (hrest : Inlines engine config stamps files names importer rest out) :
    Inlines engine config stamps files names importer (source :: rest) (source :: out)

/-- An address is what the label of a file asks for. -/
inductive Represents (engine : Engine) (config : Config) (stamps : List Nat) (files : FileSet)
    (names : String → Prop) (file : SourceFile) : String → Prop where
  /-- A style sheet. -/
  | styles {stamp : Nat} (hlabel : file.language = .styles) (hstamp : stamp ∈ stamps) :
    Represents engine config stamps files names file
      (Asset.reference (Asset.styleModule file stamp))
  /-- Data. -/
  | data (hlabel : file.language = .data) :
    Represents engine config stamps files names file (Asset.reference (Asset.dataModule file))
  /-- Any other file. -/
  | module {text : String} {l : List String} {stamp : Nat} {m : engine.Module}
    (hlabel : isModule file = true) (hstamp : stamp ∈ stamps)
    (hm : engine.parse file.name (moduleText ⟨config, files, stamp⟩ file) = .ok m)
    (himports : Inlines engine config stamps files names file.name (engine.sources m) l)
    (he : engine.emit (engine.withSources m l) = .ok text) :
    Represents engine config stamps files names file (Asset.reference text)

variable {engine : Engine} {config : Config} {stamps : List Nat} {files files' : FileSet}
  {names names' : String → Prop} {importer source reference : String} {l out : List String}
  {file target : SourceFile}

/-- A file is imported by what its label asks for. -/
theorem Inlines.cons (h : Resolves config files names importer source (some file))
    (hreference : Represents engine config stamps files names file reference)
    (hrest : Inlines engine config stamps files names importer l out) :
    Inlines engine config stamps files names importer (source :: l) (reference :: out) := by
  cases hreference with
  | styles hlabel hstamp => exact .styles h hlabel hstamp hrest
  | data hlabel => exact .data h hlabel hrest
  | module hlabel hstamp hm himports he => exact .module h hlabel hstamp hm himports he hrest

section Transfer

variable (hagree : ∀ k, names k → names' k ∧ files'.get? k = files.get? k)

include hagree

theorem Resolves.transfer {found : Option SourceFile}
    (h : Resolves config files names importer source found) :
    Resolves config files' names' importer source found := by
  have hsame : ∀ k ∈ Resolve.probes files importer source config.resolveExtensions,
      files'.get? k = files.get? k := fun k hk => (hagree k (h.names k hk)).2
  refine ⟨h.relative, fun k hk => ?_, (Resolve.target?_congr hsame).trans h.target⟩
  rw [Resolve.probes_congr hsame] at hk
  exact (hagree k (h.names k hk)).1

/-- In a set with the same files under the names looked at, the imports are replaced by the same. -/
theorem Inlines.transfer (h : Inlines engine config stamps files names importer l out) :
    Inlines engine config stamps files' names' importer l out := by
  induction h with
  | nil => exact .nil
  | external h _ ih => exact .external h ih
  | unresolved h _ ih => exact .unresolved (h.transfer hagree) ih
  | styles h hlabel hstamp _ ih => exact .styles (h.transfer hagree) hlabel hstamp ih
  | data h hlabel _ ih => exact .data (h.transfer hagree) hlabel ih
  | module h hlabel hstamp hm _ he _ ihimports ih =>
    exact .module (h.transfer hagree) hlabel hstamp hm ihimports he ih
  | failed h hlabel hstamp hfails _ ih =>
    exact .failed (h.transfer hagree) hlabel hstamp hfails ih

theorem Represents.transfer (h : Represents engine config stamps files names file reference) :
    Represents engine config stamps files' names' file reference := by
  cases h with
  | styles hlabel hstamp => exact .styles hlabel hstamp
  | data hlabel => exact .data hlabel
  | module hlabel hstamp hm himports he =>
    exact .module hlabel hstamp hm (himports.transfer hagree) he

end Transfer

/-- The names looked at may be more. -/
theorem Represents.mono (hnames : ∀ k, names k → names' k)
    (h : Represents engine config stamps files names file reference) :
    Represents engine config stamps files names' file reference :=
  h.transfer fun k hk => ⟨hnames k hk, rfl⟩

/-! ### Entries by label -/

/-- A name is in a record. -/
def InRecord (tried : Tried) (k : String) : Prop := tried.contains k = true

/-- The entries of a cache were built for files of some sets, at some stamps. Their records were
current there, and their addresses are what the labels of the files ask for, as the names of their
records tell. -/
def Faithful (engine : Engine) (config : Config) (stamps : List Nat) (seen : List FileSet)
    (cache : Cache) : Prop :=
  ∀ name entry, cache.entries.get? name = some entry →
    ∃ files ∈ seen, ∃ file, files.get? name = some file ∧ entry.fingerprint = file.fingerprint ∧
      Current files entry.dependencies ∧
      Represents engine config stamps files (InRecord entry.dependencies) file entry.reference

/-- A compiled module has a current record, and its imports are replaced by label. -/
structure Built (engine : Engine) (job : Job) (stamps : List Nat) (file : SourceFile)
    (compiled : Compiled) : Prop where
  /-- The record is current. -/
  current : Current job.files compiled.dependencies
  /-- The imports are replaced by label, and the module is written so. -/
  inlines : ∃ m l, engine.parse file.name (moduleText job file) = .ok m ∧
    Inlines engine job.config stamps job.files (InRecord compiled.dependencies) file.name
      (engine.sources m) l ∧
    engine.emit (engine.withSources m l) = .ok compiled.code

/-- A fetched entry has a current record, and its address is what the label of the file asks for. -/
structure Fetched (engine : Engine) (job : Job) (stamps : List Nat) (file : SourceFile)
    (entry : CacheEntry) : Prop where
  /-- The record is current. -/
  current : Current job.files entry.dependencies
  /-- The address is what the label asks for. -/
  represents : Represents engine job.config stamps job.files (InRecord entry.dependencies) file
    entry.reference

variable {job : Job} {stack : List String} {seen : List FileSet} {cache cache' : Cache}
  {tried : Tried} {entry : CacheEntry} {compiled : Compiled}

theorem faithful_empty : Faithful engine config stamps seen Cache.empty := by
  intro name entry h
  simp [Cache.empty] at h

/-- An entry that is held is what the label of the file asks for now. -/
theorem Faithful.fetched (h : Faithful engine job.config stamps seen cache)
    (hkeyed : ∀ files ∈ seen, FileSet.Keyed files) (hdist : Distinguished seen)
    (hseen : job.files ∈ seen) (htarget : target ∈ job.files.values)
    (hheld : held job cache target = some entry) : Fetched engine job stamps target entry := by
  obtain ⟨hentry, hfp, hcurrent⟩ := current_of_lookup hheld
  obtain ⟨files, hfiles, file, hget, hfp', hcurrent', hrepresents⟩ := h _ _ hentry
  obtain rfl : file = target := hdist files hfiles _ hseen file (NameMap.mem_values_of_get? hget)
    target htarget (hkeyed files hfiles _ _ hget) (hfp'.symm.trans hfp)
  have hagree : Agree files job.files entry.dependencies :=
    agree_of_current hdist hfiles hseen (hkeyed files hfiles) (hkeyed _ hseen) hcurrent' hcurrent
  exact ⟨hcurrent, hrepresents.transfer fun k hk => ⟨hk, hagree k hk⟩⟩

theorem Faithful.store (h : Faithful engine job.config stamps seen cache)
    (hseen : job.files ∈ seen) (hget : job.files.get? file.name = some file)
    (hfetched : Fetched engine job stamps file (entryOf file compiled)) :
    Faithful engine job.config stamps seen (cache.store file.name (entryOf file compiled)) :=
  Cache.forall_store h
    ⟨job.files, hseen, file, hget, rfl, hfetched.current, hfetched.represents⟩

/-- The text of a wrapped file is what its label asks for. -/
theorem fetched_of_wrapped {text : String} (hw : wrapped? job file = some text)
    (hstamp : job.stamp ∈ stamps) :
    Fetched engine job stamps file (entryOf file ⟨text, NameMap.empty⟩) := by
  refine ⟨current_empty _, ?_⟩
  rw [wrapped?] at hw
  split at hw
  · rename_i hlabel
    obtain rfl := Option.some.inj hw
    exact .styles hlabel hstamp
  · rename_i hlabel
    obtain rfl := Option.some.inj hw
    exact .data hlabel
  · cases hw

/-- The text of a compiled file is what its label asks for. -/
theorem Built.fetched (h : Built engine job stamps file compiled) (hw : wrapped? job file = none)
    (hstamp : job.stamp ∈ stamps) : Fetched engine job stamps file (entryOf file compiled) := by
  obtain ⟨m, l, hm, hinlines, he⟩ := h.inlines
  exact ⟨h.current, .module (wrapped?_eq_none_iff.1 hw) hstamp hm hinlines he⟩

/-! ### Compilations -/

/-- An attempt to compile a file that fails does not succeed, whatever its imports lead to. -/
theorem Fails.transformModule (h : Fails engine job file)
    (visit : String → StateM (Cache × Tried) (Except CompileError (Option String)))
    (cache : Cache) (compiled : Compiled) :
    (transformModule engine job file visit cache).1 ≠ .ok compiled := by
  cases hm : engine.parse file.name (moduleText job file) with
  | error message => simp [Compile.transformModule, hm]
  | ok m =>
    rw [transformModule_of_parse hm, finish]
    split
    · simp
    · split
      · rename_i code he
        exact absurd he (h m hm _ code)
      · simp

/-- A file that fails is not compiled. -/
theorem Fails.transform (h : Fails engine job file) (compiled : Compiled) :
    (transform engine job stack file cache).1 ≠ .ok compiled := by
  rw [transform_eq]
  rcases hfirst : Compile.transformModule engine job file (visitor engine job stack file.name) cache
    with ⟨e | first, cache'⟩
  · rw [withRetry_of_error hfirst]
    split
    · have hsecond := h.transformModule (recordImport job file.name) cache' compiled
      split <;> rename_i heq <;> rw [heq] at hsecond
      · exact hsecond
      · simp
    · simp
  · exact absurd (congrArg Prod.fst hfirst) (h.transformModule _ _ first)

/-- What a compilation keeps and gives: the cache stays faithful, a compiled module has its imports
replaced by label, and a failure without a circle is one of the file itself. -/
structure Labelled {α : Type} (engine : Engine) (job : Job) (stamps : List Nat)
    (seen : List FileSet) (file : SourceFile) (good : α → Prop)
    (result : Except CompileError α × Cache) : Prop where
  /-- The cache stays faithful. -/
  faithful : Faithful engine job.config stamps seen result.2
  /-- What is given is good. -/
  good : ∀ a, result.1 = .ok a → good a
  /-- A failure is a circle or one of the file. -/
  fails : ∀ e, result.1 = .error e →
    (∃ chain, e = .circularImport chain) ∨ Fails engine job file

/-- Only a file that is to be compiled can fail to be fetched. -/
theorem isModule_of_fetch_error {e : CompileError}
    (h : (fetch engine job stack target cache).1 = .error e) : isModule target = true := by
  generalize hfetch : fetch engine job stack target cache = result at h
  cases fetch_ends hfetch with
  | served | wrapped | compiled => cases h
  | failed _ hw => exact wrapped?_eq_none_iff.1 hw

/-- A visit goes on with a faithful cache and a current record. -/
structure Good (engine : Engine) (job : Job) (stamps : List Nat) (seen : List FileSet)
    (s : Cache × Tried) : Prop where
  /-- The cache is faithful. -/
  faithful : Faithful engine job.config stamps seen s.1
  /-- The record is current. -/
  current : Current job.files s.2

/-- What is recorded before an import is recorded after it. -/
def Extends (s t : Cache × Tried) : Prop := ∀ k, InRecord s.2 k → InRecord t.2 k

theorem inRecord_of_probe {k : String} (hk : k ∈ probes job importer source) :
    InRecord (recorded job importer source tried) k :=
  (contains_recorded k).2 (.inl hk)

/-- A relative source is resolved with the names looked at for it, if they are recorded. -/
theorem resolves_of_target? (tried : Tried) (hrel : Redirection.relative source = true)
    {found : Option SourceFile} (ht : target? job importer source = found)
    (hnames : ∀ k, InRecord (recorded job importer source tried) k → names k) :
    Resolves job.config job.files names importer source found := by
  refine ⟨hrel, fun k hk => hnames k (inRecord_of_probe ?_), ?_⟩
  · rw [probes]
    exact hk
  · rw [target?] at ht
    exact ht

section Run

variable (hkeyed : ∀ files ∈ seen, FileSet.Keyed files) (hdist : Distinguished seen)
  (hseen : job.files ∈ seen) (hstamp : job.stamp ∈ stamps)

include hkeyed hdist hseen hstamp

/-- A fetch gives what the label of the file asks for, if the compilation of the file does. -/
theorem labelled_fetch (htarget : target ∈ job.files.values)
    (ih : ∀ cache, Faithful engine job.config stamps seen cache →
      Labelled engine job stamps seen target (Built engine job stamps target)
        (transform engine job (stack ++ [target.name]) target cache))
    (h : Faithful engine job.config stamps seen cache) :
    Labelled engine job stamps seen target (Fetched engine job stamps target)
      (fetch engine job stack target cache) := by
  have hget := get?_of_mem_values (hkeyed _ hseen) htarget
  have hmiss : Faithful engine job.config stamps seen (cache.miss target.name) := h
  generalize hfetch : fetch engine job stack target cache = result
  cases fetch_ends hfetch with
  | served hl =>
    refine ⟨h, fun entry hentry => ?_, nofun⟩
    exact Except.ok.inj hentry ▸ h.fetched hkeyed hdist hseen htarget hl
  | @wrapped text hl hw =>
    have hfetched : Fetched engine job stamps target (entryOf target ⟨text, NameMap.empty⟩) :=
      fetched_of_wrapped hw hstamp
    refine ⟨hmiss.store hseen hget hfetched, fun entry hentry => ?_, nofun⟩
    exact Except.ok.inj hentry ▸ hfetched
  | compiled hl hw hc =>
    have hlabelled := ih _ hmiss
    rw [hc] at hlabelled
    have hfetched := (hlabelled.good _ rfl).fetched hw hstamp
    refine ⟨hlabelled.faithful.store hseen hget hfetched, fun entry hentry => ?_, nofun⟩
    exact Except.ok.inj hentry ▸ hfetched
  | failed hl hw hc =>
    have hlabelled := ih _ hmiss
    rw [hc] at hlabelled
    refine ⟨hlabelled.faithful, nofun, fun e he => ?_⟩
    exact hlabelled.fails e (congrArg Except.error (Except.error.inj he))

/-- An import leaves a faithful cache and a current record. If it does not fail, the source is
replaced by label. -/
theorem labelled_visitor (importer source : String)
    (ih : ∀ dep ∈ job.files.values, dep.name ∉ stack → ∀ cache,
      Faithful engine job.config stamps seen cache →
        Labelled engine job stamps seen dep (Built engine job stamps dep)
          (transform engine job (stack ++ [dep.name]) dep cache))
    {s : Cache × Tried} (hs : Good engine job stamps seen s) :
    Good engine job stamps seen (visitor engine job stack importer source s).2 ∧
      Extends s (visitor engine job stack importer source s).2 ∧
      (Redirection.relative source = true → ∀ outcome,
        (visitor engine job stack importer source s).1 = .ok outcome → ∀ names rest out,
          (∀ k, InRecord (visitor engine job stack importer source s).2.2 k → names k) →
            Inlines engine job.config stamps job.files names importer rest out →
              Inlines engine job.config stamps job.files names importer (source :: rest)
                (outcome.getD source :: out)) := by
  obtain ⟨cache, tried⟩ := s
  have hrecorded : Current job.files (recorded job importer source tried) := hs.current.recorded
  have hextends (cache' : Cache) :
      Extends (cache, tried) (cache', recorded job importer source tried) :=
    fun k hk => (contains_recorded k).2 (.inr hk)
  have hfound {target : SourceFile} (ht : target? job importer source = some target)
      (hnew : target.name ∉ stack) :
      Labelled engine job stamps seen target (Fetched engine job stamps target)
        (fetch engine job stack target cache) :=
    labelled_fetch hkeyed hdist hseen hstamp (mem_values_of_target? ht)
      (ih target (mem_values_of_target? ht) hnew) hs.faithful
  generalize hv : visitor engine job stack importer source (cache, tried) = result
  cases visitor_ends hv with
  | unresolved ht =>
    refine ⟨⟨hs.faithful, hrecorded⟩, hextends cache, ?_⟩
    intro hrel outcome ho names rest out hnames
    obtain rfl := Except.ok.inj ho
    exact .unresolved (resolves_of_target? tried hrel ht hnames)
  | closes => exact ⟨⟨hs.faithful, hrecorded⟩, hextends cache, fun _ _ ho => by cases ho⟩
  | @replaced target entry cache' ht hnew hfetch =>
    have hlabelled := hfound ht hnew
    rw [hfetch] at hlabelled
    have hfetched := hlabelled.good entry rfl
    refine ⟨⟨hlabelled.faithful, hrecorded.union hfetched.current⟩,
      fun k hk => (contains_union _ k).2 (.inl (hextends cache k hk)),
      fun hrel outcome ho names rest out hnames hrest => ?_⟩
    obtain rfl := Except.ok.inj ho
    refine hrest.cons (resolves_of_target? tried hrel ht fun k hk => hnames k ?_)
      (hfetched.represents.mono fun k hk => hnames k ?_)
    · exact (contains_union _ k).2 (.inl hk)
    · exact (contains_union _ k).2 (.inr hk)
  | circular ht hnew hfetch =>
    have hlabelled := hfound ht hnew
    rw [hfetch] at hlabelled
    exact ⟨⟨hlabelled.faithful, hrecorded⟩, hextends _, fun _ _ ho => by cases ho⟩
  | kept ht hnew hfetch hne =>
    have hlabelled := hfound ht hnew
    rw [hfetch] at hlabelled
    refine ⟨⟨hlabelled.faithful, hrecorded⟩, hextends _,
      fun hrel outcome ho names rest out hnames => ?_⟩
    obtain rfl := Except.ok.inj ho
    exact .failed (resolves_of_target? tried hrel ht hnames)
      (isModule_of_fetch_error (congrArg Prod.fst hfetch)) hstamp
      ((hlabelled.fails _ rfl).resolve_left fun ⟨chain, he⟩ => hne chain he)

/-- The visit of the imports of a module without failure replaces them by label. -/
theorem inlines_of_visits
    (ih : ∀ dep ∈ job.files.values, dep.name ∉ stack → ∀ cache,
      Faithful engine job.config stamps seen cache →
        Labelled engine job stamps seen dep (Built engine job stamps dep)
          (transform engine job (stack ++ [dep.name]) dep cache))
    {s t : Cache × Tried} (h : Visits (visitor engine job stack importer) l s out t)
    (hs : Good engine job stamps seen s) :
    Extends s t ∧ Inlines engine job.config stamps job.files (InRecord t.2) importer l out := by
  induction h with
  | nil => exact ⟨fun _ hk => hk, .nil⟩
  | keep hrel _ ihrest =>
    obtain ⟨hextends, hinlines⟩ := ihrest hs
    exact ⟨hextends, .external hrel hinlines⟩
  | @step source rest out s t' t outcome hrel hv _ ihrest =>
    have hvisitor := labelled_visitor hkeyed hdist hseen hstamp importer source ih hs
    rw [hv] at hvisitor
    obtain ⟨hgood, hfirst, hreplaced⟩ := hvisitor
    obtain ⟨hextends, hinlines⟩ := ihrest hgood
    exact ⟨fun k hk => hextends k (hfirst k hk), hreplaced hrel outcome rfl _ _ _ hextends hinlines⟩

/-- Compilations replace imports by label and leave the cache faithful. -/
theorem labelled_transform (hi : engine.Indifferent) (stack : List String) (file : SourceFile) :
    ∀ cache, Faithful engine job.config stamps seen cache →
      Labelled engine job stamps seen file (Built engine job stamps file)
        (transform engine job stack file cache) := by
  induction stack, file using stack_induction job.files with
  | step stack file ih =>
  intro cache h
  cases hm : engine.parse file.name (moduleText job file) with
  | error message =>
    have hfails : Fails engine job file := fun m hm' => by simp [hm] at hm'
    rw [transform_of_parse_error hm]
    exact ⟨h, nofun, fun _ _ => .inr hfails⟩
  | ok m =>
    have hgood : Good engine job stamps seen (cache, NameMap.empty) := ⟨h, current_empty _⟩
    have hvisited : Good engine job stamps seen (visited engine job stack file m cache).2 :=
      (Redirection.run_induct (visitor engine job stack file.name) (Good engine job stamps seen)
        (fun _ => True) (fun _ => True)
        (fun source _ _ s hs => ⟨(labelled_visitor hkeyed hdist hseen hstamp _ source ih hs).1,
          fun _ => trivial, fun _ _ => trivial⟩) hgood).1
    cases hf : (visited engine job stack file m cache).1.failure with
    | some e =>
      obtain ⟨chain, rfl⟩ := circular_of_visited hf
      rw [transform_of_circular hm hf]
      exact ⟨hvisited.faithful, nofun, fun e he => .inl ⟨chain, (Except.error.inj he).symm⟩⟩
    | none =>
      cases he : engine.emit
        (engine.withSources m (visited engine job stack file m cache).1.sources) with
      | ok code =>
        have hinlines := (inlines_of_visits hkeyed hdist hseen hstamp ih
          (Redirection.visits_run hf) hgood).2
        rw [transform_of_emit hm hf he]
        refine ⟨hvisited.faithful, fun compiled hcompiled => ?_, nofun⟩
        obtain rfl := Except.ok.inj hcompiled
        exact ⟨hvisited.current, m, _, hm, hinlines, he⟩
      | error message =>
        have hfails : Fails engine job file := by
          intro m' hm' l code hcode
          obtain rfl := Except.ok.inj (hm.symm.trans hm')
          obtain ⟨code', hcode'⟩ := hi _ _ m hm l
            (visited engine job stack file m cache).1.sources code hcode
          rw [he] at hcode'
          cases hcode'
        refine ⟨?_, fun compiled hcompiled => ?_, fun _ _ => .inr hfails⟩
        · rw [(transform_of_emit_error hm hf he).1]
          exact hvisited.faithful
        · exact absurd hcompiled (hfails.transform compiled)

/-- A job replaces imports by label and leaves the cache faithful. -/
theorem labelled_compile (hi : engine.Indifferent)
    (h : Faithful engine job.config stamps seen cache) :
    Faithful engine job.config stamps seen (compile engine job cache).2 ∧
      ∀ code, (compile engine job cache).1 = .ok code → ∃ file m l, entry? job = some file ∧
        engine.parse (patched job file).name (moduleText job (patched job file)) = .ok m ∧
        Inlines engine job.config stamps job.files (fun _ => True) (patched job file).name
          (engine.sources m) l ∧
        engine.emit (engine.withSources m l) = .ok code := by
  cases hentry : entry? job with
  | none =>
    rw [compile, hentry]
    refine ⟨h, fun code hcode => ?_⟩
    cases hcode
  | some file =>
    have hroot := labelled_transform hkeyed hdist hseen hstamp hi
      [(patched job file).name] (patched job file) cache h
    rw [compile_of_entry hentry]
    refine ⟨hroot.faithful, fun code hcode => ?_⟩
    rcases hr : root engine job (patched job file) cache with ⟨e | compiled, cache'⟩ <;>
      rw [hr] at hcode
    · cases hcode
    · obtain rfl : compiled.code = code := by
        rw [entryCode] at hcode
        split at hcode
        · cases hcode
        · exact Except.ok.inj hcode
      obtain ⟨m, l, hm, hinlines, he⟩ := (hroot.good compiled (congrArg Prod.fst hr)).inlines
      exact ⟨file, m, l, rfl, hm, hinlines.transfer fun k _ => ⟨trivial, rfl⟩, he⟩

end Run

end Compile

end LivePreview
