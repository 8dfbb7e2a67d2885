import LivePreview.Proofs.Compile.Depth
import LivePreview.Proofs.Compile.ImportGraph
import LivePreview.Script

/-!
# Circles of imports

A compilation from an empty cache fails with a circle if and only if the entry leads to a cycle of
the import graph, whatever else goes wrong on the way: a module that is no module or cannot be
written is given up, but only after all that it imports has been visited.

The search is depth first over the stack of modules in progress. What is in the cache was compiled
in the same job, so all paths from it end, and a hit may skip what is below it.

## Main definitions

* `LivePreview.Compile.SettledCache`: all paths from the names in a cache end.
* `LivePreview.Compile.Searched`, `LivePreview.Compile.Searches`: what is known of a name after it
  was compiled.

## Main results

* `LivePreview.Compile.searched_transform`: what a compilation finds out about its module.
* `LivePreview.Compile.compile_circular_iff`: circles are found exactly, and compilations end.
* `LivePreview.Compile.compile_self_reference`: a re-export that is passed over closes no circle.
-/

namespace LivePreview.Compile

open Relation (ReflTransGen TransGen)

/-- All paths of the import graph from the names in a cache end. -/
def SettledCache (engine : Engine) (job : Job) (root : SourceFile) (cache : Cache) : Prop :=
  ∀ name entry, cache.entries.get? name = some entry → Settled engine job root name

/-- What is known of a name after it was compiled with the given result: a circle is one that the
root leads to, and without a circle all paths from the name end. -/
structure Searched {α : Type} (engine : Engine) (job : Job) (root : SourceFile) (name : String)
    (result : Except CompileError α × Cache) : Prop where
  /-- All paths from the names in the cache end. -/
  settledCache : SettledCache engine job root result.2
  /-- A circle is one of the import graph. -/
  isCircle : ∀ chain, result.1 = .error (.circularImport chain) → IsCircle engine job root chain
  /-- Without a circle all paths from the name end. -/
  settled : (∀ chain, result.1 ≠ .error (.circularImport chain)) → Settled engine job root name

/-- A compilation finds out about its module, from any cache of settled names. -/
def Searches (engine : Engine) (job : Job) (root : SourceFile) (stack : List String)
    (file : SourceFile) : Prop :=
  ∀ cache, InProgress engine job root stack file → SettledCache engine job root cache →
    Searched engine job root file.name (transform engine job stack file cache)

variable {engine : Engine} {job : Job} {root file target : SourceFile} {stack : List String}
  {cache : Cache}

theorem settledCache_empty : SettledCache engine job root Cache.empty := by
  intro name entry h
  simp [Cache.empty] at h

theorem SettledCache.store {name : String} {entry : CacheEntry}
    (h : SettledCache engine job root cache) (hname : Settled engine job root name) :
    SettledCache engine job root (cache.store name entry) :=
  Cache.forall_store (P := fun name _ => Settled engine job root name) h hname

/-- A style sheet and data import nothing. -/
theorem settled_of_wrapped (hfiles : FileSet.Keyed job.files)
    (h : InProgress engine job root stack file) (hn : Names engine job file target)
    (hnew : target.name ∉ stack) {text : String} (hw : wrapped? job target = some text) :
    Settled engine job root target.name := by
  have hmodule := h.module?_eq hnew
  rw [hn.get? hfiles] at hmodule
  have hasset : ¬ isModule target = true := by
    intro hmodule'
    have hnone : wrapped? job target = none := wrapped?_eq_none_iff.2 hmodule'
    simp [hnone] at hw
  exact .of_module?_eq_none (by simp [hmodule, hasset])

/-- What fetching a dependency finds out about it: the paths from a name in the cache end. -/
theorem searched_fetch (hfiles : FileSet.Keyed job.files)
    (h : InProgress engine job root stack file) (hn : Names engine job file target)
    (hnew : target.name ∉ stack)
    (ih : Searches engine job root (stack ++ [target.name]) target)
    (hcache : SettledCache engine job root cache) :
    Searched engine job root target.name (fetch engine job stack target cache) := by
  have hmiss : SettledCache engine job root (cache.miss target.name) := hcache
  generalize hfetch : fetch engine job stack target cache = result
  cases fetch_ends hfetch with
  | served hl =>
    obtain ⟨hget, -⟩ := Cache.lookup_eq_some_iff.1 hl
    exact ⟨hcache, by simp, fun _ => hcache _ _ hget⟩
  | wrapped hl hw =>
    have hsettled := settled_of_wrapped hfiles h hn hnew hw
    exact ⟨hmiss.store hsettled, by simp, fun _ => hsettled⟩
  | compiled hl hw hc =>
    have hsearched := ih _ (h.push hfiles hn hnew (wrapped?_eq_none_iff.1 hw)) hmiss
    rw [hc] at hsearched
    have hsettled := hsearched.settled (by simp)
    exact ⟨hsearched.settledCache.store hsettled, by simp, fun _ => hsettled⟩
  | failed hl hw hc =>
    have hsearched := ih _ (h.push hfiles hn hnew (wrapped?_eq_none_iff.1 hw)) hmiss
    rw [hc] at hsearched
    exact ⟨hsearched.settledCache, by simpa using hsearched.isCircle,
      by simpa using hsearched.settled⟩

/-- What visiting an import of a module in progress finds out: what it stands for is settled, or
there is a circle. -/
theorem searched_visitor (hfiles : FileSet.Keyed job.files)
    (h : InProgress engine job root stack file) {source : String}
    (hn : ∀ target, target? job file.name source = some target → Names engine job file target)
    (ih : ∀ dep ∈ job.files.values, dep.name ∉ stack →
      Searches engine job root (stack ++ [dep.name]) dep)
    {s : Cache × Tried} (hcache : SettledCache engine job root s.1) :
    SettledCache engine job root (visitor engine job stack file.name source s).2.1 ∧
      ((∃ outcome, (visitor engine job stack file.name source s).1 = .ok outcome) →
        ∀ target, target? job file.name source = some target →
          Settled engine job root target.name) ∧
      ∀ e, (visitor engine job stack file.name source s).1 = .error e →
        ∃ chain, e = .circularImport chain ∧ IsCircle engine job root chain := by
  obtain ⟨cache, tried⟩ := s
  have hfound {target : SourceFile} (ht : target? job file.name source = some target)
      (hnew : target.name ∉ stack) :
      Searched engine job root target.name (fetch engine job stack target cache) :=
    searched_fetch hfiles h (hn target ht) hnew (ih target (hn target ht).mem_values hnew) hcache
  generalize hv : visitor engine job stack file.name source (cache, tried) = result
  cases visitor_ends hv with
  | unresolved ht => exact ⟨hcache, by simp [ht], by simp⟩
  | closes ht hmem =>
    refine ⟨hcache, by simp, fun e he => ⟨_, (Except.error.inj he).symm, ?_⟩⟩
    exact h.isCircle (hn _ ht) hmem
  | replaced ht hnew hfetch =>
    have hsearched := hfound ht hnew
    rw [hfetch] at hsearched
    refine ⟨hsearched.settledCache, fun _ t htarget => ?_, by simp⟩
    rw [ht] at htarget
    exact Option.some.inj htarget ▸ hsearched.settled (by simp)
  | circular ht hnew hfetch =>
    have hsearched := hfound ht hnew
    rw [hfetch] at hsearched
    exact ⟨hsearched.settledCache, by simp,
      fun e he => ⟨_, (Except.error.inj he).symm, hsearched.isCircle _ rfl⟩⟩
  | kept ht hnew hfetch hne =>
    have hsearched := hfound ht hnew
    rw [hfetch] at hsearched
    refine ⟨hsearched.settledCache, fun _ t htarget => ?_, by simp⟩
    rw [ht] at htarget
    exact Option.some.inj htarget ▸ hsearched.settled (by simpa using hne)

/-- What a compilation finds out about its module. -/
theorem searched_transform (hfiles : FileSet.Keyed job.files) (stack : List String)
    (file : SourceFile) : Searches engine job root stack file := by
  induction stack, file using stack_induction job.files with
  | step stack file ih =>
  intro cache h hcache
  cases hm : engine.parse file.name (moduleText job file) with
  | error message =>
    -- A file that is no module names nothing.
    rw [transform_of_parse_error hm]
    refine ⟨hcache, fun chain hc => absurd (Except.error.inj hc) (refusal_ne_circular _ _ _ _),
      fun _ => .of_names h.atTop ?_⟩
    rintro target ⟨m, hm', -⟩
    simp [hm] at hm'
  | ok m =>
    obtain ⟨hcache', hsettled, hcircle⟩ := Redirection.run_induct
      (visitor engine job stack file.name)
      (fun s : Cache × Tried => SettledCache engine job root s.1)
      (fun source => ∀ target, target? job file.name source = some target →
        Settled engine job root target.name)
      (fun e => ∃ chain, e = .circularImport chain ∧ IsCircle engine job root chain)
      (fun source hsource hrel s => searched_visitor hfiles h
        (fun target ht => names_iff.2 ⟨m, hm, source, hsource, hrel, ht⟩) ih)
      (s := (cache, NameMap.empty)) hcache
    cases hf : (visited engine job stack file m cache).1.failure with
    | some e =>
      obtain ⟨chain, rfl, hchain⟩ := hcircle e hf
      rw [transform_of_circular hm hf]
      exact ⟨hcache', fun chain' hc => by simp_all, fun hne => absurd rfl (hne chain)⟩
    | none =>
      -- All that the module names was visited, so it is settled however it ends.
      have hfile : Settled engine job root file.name := by
        refine .of_names h.atTop fun target hn => ?_
        obtain ⟨m', hm', source, hsource, hrel, ht⟩ := names_iff.1 hn
        obtain rfl : m = m' := Except.ok.inj (hm.symm.trans hm')
        exact hsettled hf source hsource hrel target ht
      cases he : engine.emit
          (engine.withSources m (visited engine job stack file m cache).1.sources) with
      | ok code =>
        rw [transform_of_emit hm hf he]
        exact ⟨hcache', by simp, fun _ => hfile⟩
      | error message =>
        obtain ⟨hsnd, hne⟩ := transform_of_emit_error hm hf he
        exact ⟨hsnd ▸ hcache', fun chain hc => absurd hc (hne chain), fun _ => hfile⟩

/-! ### Jobs -/

theorem entryCode_eq_circular_iff {result : Except CompileError Compiled} {chain : List String} :
    entryCode result = .error (.circularImport chain) ↔
      result = .error (.circularImport chain) := by
  rcases result with e | compiled
  · simp [entryCode]
  · rw [entryCode]
    split <;> simp

/-- From an empty cache, a compilation finds out about the entry of its job. -/
theorem searched_entry (hfiles : FileSet.Keyed job.files) (hentry : entry? job = some file) :
    Searched engine job (patched job file) job.config.entryFile
      (Compile.compile engine job Cache.empty) := by
  have hname : (patched job file).name = job.config.entryFile := name_patched hfiles hentry
  have hsearched : Searched engine job (patched job file) (patched job file).name
      (transform engine job [(patched job file).name] (patched job file) Cache.empty) :=
    searched_transform hfiles _ _ _ (.singleton engine job (patched job file)) settledCache_empty
  rw [hname] at hsearched
  have hcircular (chain : List String) :
      (Compile.compile engine job Cache.empty).1 = .error (.circularImport chain) ↔
        (transform engine job [job.config.entryFile] (patched job file) Cache.empty).1 =
          .error (.circularImport chain) := by
    rw [compile_of_entry hentry, Compile.root, hname]
    exact entryCode_eq_circular_iff
  constructor
  case settledCache =>
    rw [compile_of_entry hentry, Compile.root, hname]
    exact hsearched.settledCache
  case isCircle => exact fun chain hchain => hsearched.isCircle chain ((hcircular chain).1 hchain)
  case settled =>
    exact fun hne => hsearched.settled fun chain hchain => hne chain ((hcircular chain).2 hchain)

/-- The compilation of a job of a keyed set ends, with modules nested no deeper than there are
files. From an empty cache it fails with a circle if and only if the entry leads to a cycle of the
graph of imports, and the circle it reports is one of that graph. The edges are those of all
declared imports and re-exports but the ones inside of declarations that are exported by name; if
there are none of these, the cycles are those of all declared edges. -/
theorem compile_circular_iff (engine : Engine) {job : Job} (hfiles : FileSet.Keyed job.files)
    {file : SourceFile} (hentry : entry? job = some file) :
    (∀ bottom, compileWithin engine job bottom job.files.size Cache.empty =
      compile engine job Cache.empty) ∧
    ((∃ chain, (compile engine job Cache.empty).1 = .error (.circularImport chain)) ↔
      LeadsToCycle (Imports engine job (patched job file)) job.config.entryFile) ∧
    (∀ chain, (compile engine job Cache.empty).1 = .error (.circularImport chain) →
      IsCircle engine job (patched job file) chain) ∧
    ((∀ importer imported,
        ReflTransGen (Declared engine job (patched job file)) job.config.entryFile importer →
        Declared engine job (patched job file) importer imported →
          Imports engine job (patched job file) importer imported) →
      ((∃ chain, (compile engine job Cache.empty).1 = .error (.circularImport chain)) ↔
        LeadsToCycle (Declared engine job (patched job file)) job.config.entryFile)) := by
  have hsearched : Searched engine job (patched job file) job.config.entryFile
      (compile engine job Cache.empty) := searched_entry hfiles hentry
  have hiff : (∃ chain, (compile engine job Cache.empty).1 = .error (.circularImport chain)) ↔
      LeadsToCycle (Imports engine job (patched job file)) job.config.entryFile := by
    constructor
    · rintro ⟨chain, hchain⟩
      rw [← name_patched hfiles hentry]
      exact (hsearched.isCircle chain hchain).leadsToCycle
    · intro hcycle
      by_contra hnone
      exact (hsearched.settled fun chain hchain => hnone ⟨chain, hchain⟩).not_leadsToCycle hcycle
  exact ⟨fun bottom => by rw [compileWithin_eq_compile], hiff, hsearched.isCircle,
    fun hall => hiff.trans (leadsToCycle_iff_declared hall)⟩

/-- An entry that mounts its application itself, and imports one of two modules that import each
other. -/
def ringJob : Job where
  config := Config.standard
  files := FileSet.ofFiles [
    ⟨"main.ts", "import App from './a'\nif (!el.__vue_app__) createApp(App).mount('#app')\n",
      .script⟩,
    ⟨"a.ts", "import './b'\n", .script⟩,
    ⟨"b.ts", "import './a'\n", .script⟩]
  stamp := 1

/-- The circle of two modules that import each other is found. -/
theorem compile_circular_ring :
    FileSet.Keyed ringJob.files ∧ ∃ file, entry? ringJob = some file ∧
      (compile Script.engine ringJob Cache.empty).1 =
        .error (.circularImport ["a.ts", "b.ts", "a.ts"]) ∧
      IsCircle Script.engine ringJob (patched ringJob file) ["a.ts", "b.ts", "a.ts"] ∧
      LeadsToCycle (Imports Script.engine ringJob (patched ringJob file))
        ringJob.config.entryFile := by
  have hfiles : FileSet.Keyed ringJob.files := FileSet.keyed_ofFiles _
  obtain ⟨file, hentry⟩ : ∃ file, entry? ringJob = some file :=
    Option.isSome_iff_exists.1 (by decide +kernel)
  obtain ⟨hends, hiff, hcircle, -⟩ := compile_circular_iff Script.engine hfiles hentry
  have hchain : (compile Script.engine ringJob Cache.empty).1 =
      .error (.circularImport ["a.ts", "b.ts", "a.ts"]) := by
    rw [← hends fun cache => (.error .emptyOutput, cache)]
    decide +kernel
  exact ⟨hfiles, file, hentry, hchain, hcircle _ hchain, hiff.1 ⟨_, hchain⟩⟩

/-- An entry that re-exports from itself, in a space of names that is exported. -/
def selfJob : Job where
  config := Config.standard
  files := FileSet.ofFiles [
    ⟨"main.ts", "import 'createApp.mount.__vue_app__'\n" ++
      "export namespace N \x7b export * from './main' \x7d", .script⟩]
  stamp := 1

/-- A re-export in a space of names that is exported makes the entry lead to itself, but closes no
circle. -/
theorem compile_self_reference :
    FileSet.Keyed selfJob.files ∧ ∃ file, entry? selfJob = some file ∧
      LeadsToCycle (Declared Script.engine selfJob (patched selfJob file))
        selfJob.config.entryFile ∧
      ∀ chain, (compile Script.engine selfJob Cache.empty).1 ≠ .error (.circularImport chain) := by
  have hfiles : FileSet.Keyed selfJob.files := FileSet.keyed_ofFiles _
  obtain ⟨file, m, hentry, hm, hrefs⟩ : ∃ file m, entry? selfJob = some file ∧ _ ∧
      Script.engine.references m = [⟨"createApp.mount.__vue_app__", false⟩, ⟨"./main", true⟩] :=
    exists_entry_references (by decide +kernel)
  have hroot : (patched selfJob file).name = "main.ts" := name_patched hfiles hentry
  obtain ⟨target, htarget, hname⟩ : ∃ target,
      target? selfJob "main.ts" "./main" = some target ∧ target.name = "main.ts" :=
    Option.map_eq_some_iff.1 (by decide +kernel)
  have hedge : Declared Script.engine selfJob (patched selfJob file) "main.ts" "main.ts" := by
    refine ⟨patched selfJob file, target, hroot ▸ module?_root, ⟨m, hm, ⟨"./main", true⟩, ?_⟩,
      hname⟩
    rw [hrefs, hroot]
    exact ⟨by simp, by decide, htarget⟩
  have hsettled : Settled Script.engine selfJob (patched selfJob file) "main.ts" := by
    rw [← hroot]
    refine .of_names module?_root fun target' hn => ?_
    obtain ⟨m', hm', r, hr, hinside, hrel, -⟩ := hn
    obtain rfl := Except.ok.inj (hm.symm.trans hm')
    rw [hrefs, List.mem_cons, List.mem_singleton] at hr
    rcases hr with rfl | rfl
    · exact absurd hrel (by decide)
    · cases hinside
  refine ⟨hfiles, file, hentry, ⟨_, .refl, .single hedge⟩, fun chain hchain => ?_⟩
  refine hsettled.not_leadsToCycle ?_
  rw [← hroot]
  exact ((searched_entry hfiles hentry).isCircle chain hchain).leadsToCycle

end LivePreview.Compile
