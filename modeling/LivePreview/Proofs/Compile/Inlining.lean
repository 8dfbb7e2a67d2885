import LivePreview.Proofs.Compile.Transparency

/-!
# Inlined modules

A compiled entry carries everything it imports. Each file has a text of its own: style sheets and
data are wrapped, and any other file is compiled as the root of a job. A relative import becomes
the address of the text of its file, if there is such a file and it has a text, and stays as it is
otherwise. The entry is written with all its imports replaced so, and so is every module that it
leads to, at any depth. The exception are imports and re-exports inside of declarations that are
exported by name: they are passed over, and stay as they are whatever they stand for.

A module is compiled for its importers below the modules in progress, and from the cache if it was
compiled before. Neither shows in its text: a compilation that succeeds has no circles, so that the
module is compiled to the same as a root.

## Main definitions

* `LivePreview.Compile.standalone`: the text of a file.
* `LivePreview.Compile.inlined`: what an import becomes.
* `LivePreview.Compile.Inlined`: a text is that of a module with its imports inlined.
* `LivePreview.Compile.InlinedThroughout`: those that are passed over are inlined too.

## Main results

* `LivePreview.Compile.compile_inlined`: the entry and all modules it leads to are inlined.
* `LivePreview.Compile.compile_exported_space`: a re-export that is passed over stays as it is.
-/

namespace LivePreview.Compile

open Relation (ReflTransGen TransGen)
open Redirection (redirect relative)

/-- The text of a file: style sheets and data are wrapped, other files are compiled as a root. -/
def standalone (engine : Engine) (job : Job) (file : SourceFile) : Except CompileError String :=
  match wrapped? job file with
  | some text => .ok text
  | none => (root engine job file Cache.empty).1.map Compiled.code

/-- What an import of a module becomes: a relative import that stands for a file which has a text
becomes the address of that text, and any other import stays as it is. -/
def inlined (engine : Engine) (job : Job) (importer source : String) : String :=
  if relative source then
    match target? job importer source with
    | none => source
    | some file =>
      match standalone engine job file with
      | .ok text => Asset.reference text
      | .error _ => source
  else source

/-- A text is what the module of a file is written as with its imports and re-exports inlined, except
for those inside of declarations that are exported by name, and nothing else changed. -/
def Inlined (engine : Engine) (job : Job) (file : SourceFile) (text : String) : Prop :=
  ∃ m written, engine.parse file.name (moduleText job file) = .ok m ∧
    engine.Redirects (inlined engine job file.name) m written ∧ engine.emit written = .ok text

/-- A text is what the module of a file is written as with all its imports and re-exports inlined,
wherever they stand. -/
def InlinedThroughout (engine : Engine) (job : Job) (file : SourceFile) (text : String) : Prop :=
  ∃ m written, engine.parse file.name (moduleText job file) = .ok m ∧
    engine.references written = (engine.references m).map (fun r =>
      { r with source := inlined engine job file.name r.source }) ∧
    engine.emit written = .ok text

variable {engine : Engine} {job : Job} {root file target : SourceFile} {stack : List String}
  {source : String} {compiled : Compiled}

theorem inlined_iff {text : String} : Inlined engine job file text ↔
    ∃ m, engine.parse file.name (moduleText job file) = .ok m ∧
      engine.emit (engine.withSources m ((engine.sources m).map (inlined engine job file.name))) =
        .ok text := by
  simp only [Inlined, Engine.redirects_iff]
  constructor
  · rintro ⟨m, _, hm, rfl, hemit⟩
    exact ⟨m, hm, hemit⟩
  · rintro ⟨m, hm, hemit⟩
    exact ⟨m, _, hm, rfl, hemit⟩

/-! ### Roots -/

/-- From an empty cache a root is compiled as without a cache. -/
theorem root_eq_plain (ha : engine.Accepting) (hfiles : FileSet.Keyed job.files) :
    (Compile.root engine job file Cache.empty).1 = plain engine job [file.name] file :=
  (transform_eq_plain ha (by simpa using hfiles) (distinguished_singleton hfiles)
    (List.mem_singleton_self job.files) [file.name] file Cache.empty
    (.singleton engine job file) soundCache_empty).1

theorem standalone_eq_plainTarget (ha : engine.Accepting) (hfiles : FileSet.Keyed job.files) :
    standalone engine job file = (plainTarget engine job [] file).map Compiled.code := by
  rw [standalone]
  cases hw : wrapped? job file with
  | some text =>
    rw [plainTarget_of_wrapped hw]
    rfl
  | none =>
    rw [plainTarget_of_module hw]
    exact congrArg (Except.map Compiled.code) (root_eq_plain ha hfiles)

/-- The text of an imported file is that of the file as a root. -/
theorem standalone_of_plainTarget (ha : engine.Accepting) (hfiles : FileSet.Keyed job.files)
    (hc : plainTarget engine job stack target = .ok compiled) :
    standalone engine job target = .ok compiled.code := by
  have hroot : plainTarget engine { job with files := job.files } [] target = .ok compiled :=
    plainTarget_transfer ha hfiles hc (by simp) fun stack' hplain habsent =>
      plain_transfer ha hfiles job.files _ _ _ stack' hplain (fun _ _ => rfl) habsent
  rw [standalone_eq_plainTarget ha hfiles, hroot]
  rfl

/-- A file that is refused has no text. -/
theorem standalone_of_parse_error (ha : engine.Accepting) (hfiles : FileSet.Keyed job.files)
    (hw : wrapped? job target = none) {message : String}
    (hm : engine.parse target.name (moduleText job target) = .error message) :
    standalone engine job target =
      .error (refusal job.config.inMemoryMarker target.name message) := by
  rw [standalone_eq_plainTarget ha hfiles, plainTarget_of_module hw, plain_of_parse_error hm]
  rfl

/-! ### Modules -/

/-- The imports of a compiled module are redirected to the texts of their files. -/
theorem Written.redirect_eq_inlined (ha : engine.Accepting) (hfiles : FileSet.Keyed job.files)
    {m : engine.Module} (h : Written engine job stack file m compiled)
    (hsource : source ∈ engine.sources m) :
    redirect (outcome engine job stack file.name) source =
      inlined engine job file.name source := by
  rw [redirect, inlined]
  cases hrel : relative source with
  | false => rfl
  | true =>
    rw [outcome]
    cases ht : target? job file.name source with
    | none => rfl
    | some target =>
      obtain ⟨hnew, ⟨c, hc⟩ | ⟨hw, message, hm⟩⟩ := h.compiled_or_refused ha hsource hrel ht
      · simp only [hnew, if_false, hc, standalone_of_plainTarget ha hfiles hc, if_true,
          replacement, Option.getD_some]
      · have hplain : plainTarget engine job stack target =
            .error (refusal job.config.inMemoryMarker target.name message) := by
          rw [plainTarget_of_module hw, plain_of_parse_error hm]
        simp only [hnew, if_false, hplain, standalone_of_parse_error ha hfiles hw hm, if_true]
        cases hr : refusal job.config.inMemoryMarker target.name message with
        | circularImport chain => exact absurd hr (refusal_ne_circular _ _ _ _)
        | _ => rfl

/-- A compiled module is inlined. -/
theorem Written.inlined (ha : engine.Accepting) (hfiles : FileSet.Keyed job.files)
    {m : engine.Module} (h : Written engine job stack file m compiled) :
    Inlined engine job file compiled.code := by
  refine inlined_iff.2 ⟨m, h.parse, ?_⟩
  rw [← List.map_congr_left fun source hsource => h.redirect_eq_inlined ha hfiles hsource]
  exact h.emit

/-! ### The modules of a job -/

/-- What a module compiled below the root names is new to its stack, and it is compiled from there
or refused. -/
theorem Names.compiled_or_refused (ha : engine.Accepting) (hfiles : FileSet.Keyed job.files)
    (hn : Names engine job file target) (hplain : plain engine job stack file = .ok compiled)
    (hroot : root.name ∈ stack) {dep : SourceFile}
    (hdep : module? job root target.name = some dep) :
    wrapped? job dep = none ∧
      ((∃ c, plainTarget engine job stack dep = .ok c) ∨
        ∃ message, engine.parse dep.name (moduleText job dep) = .error message) := by
  obtain ⟨m, hw⟩ := exists_written_of_plain ha _ _ _ hplain
  have hget := hn.get? hfiles
  obtain ⟨m', hm', source, hsource, hrel, ht⟩ := names_iff.1 hn
  obtain rfl : m = m' := Except.ok.inj (hw.parse.symm.trans hm')
  obtain ⟨hnew, hcompiled⟩ := hw.compiled_or_refused ha hsource hrel ht
  have hne : target.name ≠ root.name := fun heq => hnew (heq.symm ▸ hroot)
  rw [module?_of_ne hne, hget, Option.filter_eq_some_iff] at hdep
  obtain ⟨heq, hmodule⟩ := hdep
  obtain rfl := Option.some.inj heq
  exact ⟨wrapped?_eq_none_iff.2 hmodule, hcompiled.imp_right And.right⟩

/-- Every module that a compiled root leads to was compiled below the root or refused. -/
theorem exists_plain_of_reflTransGen (ha : engine.Accepting) (hfiles : FileSet.Keyed job.files)
    (hplain : plain engine job [root.name] root = .ok compiled) {name : String}
    (h : ReflTransGen (Imports engine job root) root.name name) {dep : SourceFile}
    (hdep : module? job root name = some dep) :
    ∃ stack, root.name ∈ stack ∧ ((∃ c, plain engine job stack dep = .ok c) ∨
      ∃ message, engine.parse dep.name (moduleText job dep) = .error message) := by
  induction h generalizing dep with
  | refl =>
    obtain rfl : root = dep := Option.some.inj (module?_root.symm.trans hdep)
    exact ⟨[root.name], List.mem_singleton_self _, .inl ⟨compiled, hplain⟩⟩
  | tail _ hstep ih =>
    obtain ⟨importer, target, himporter, hn, rfl⟩ := hstep
    obtain ⟨stack, hroot, ⟨c, hc⟩ | ⟨message, hm⟩⟩ := ih himporter
    · obtain ⟨hw, hcompiled⟩ := hn.compiled_or_refused ha hfiles hc hroot hdep
      refine ⟨stack ++ [dep.name], List.mem_append_left _ hroot, hcompiled.imp_left ?_⟩
      exact fun ⟨c', hc'⟩ => ⟨c', (plainTarget_of_module hw).symm.trans hc'⟩
    · obtain ⟨m, hm', -⟩ := hn
      simp [hm] at hm'

/-- The texts of the modules that a compiled root leads to are inlined, and they have one if they
are modules. -/
theorem standalone_eq_ok_iff (ha : engine.Accepting) (hfiles : FileSet.Keyed job.files)
    (hplain : plain engine job [root.name] root = .ok compiled) {name : String}
    (h : TransGen (Imports engine job root) root.name name) {dep : SourceFile}
    (hdep : module? job root name = some dep) (text : String) :
    standalone engine job dep = .ok text ↔ Inlined engine job dep text := by
  obtain ⟨_, hreach, importer, target, himporter, hn, rfl⟩ := TransGen.tail'_iff.1 h
  obtain ⟨stack, hroot, ⟨c, hc⟩ | ⟨message, hm⟩⟩ :=
    exists_plain_of_reflTransGen ha hfiles hplain hreach himporter
  · obtain ⟨hw, ⟨c', hc'⟩ | ⟨message, hm⟩⟩ :=
      hn.compiled_or_refused ha hfiles hc hroot hdep
    · have hplain' := (plainTarget_of_module hw).symm.trans hc'
      obtain ⟨m, hwritten⟩ := exists_written_of_plain ha _ _ _ hplain'
      obtain ⟨m', hm', hemit⟩ := inlined_iff.1 (hwritten.inlined ha hfiles)
      rw [standalone_of_plainTarget ha hfiles hc', Except.ok.injEq, inlined_iff]
      constructor
      · rintro rfl
        exact ⟨m', hm', hemit⟩
      · rintro ⟨m'', hm'', hemit''⟩
        obtain rfl : m' = m'' := Except.ok.inj (hm'.symm.trans hm'')
        exact Except.ok.inj (hemit.symm.trans hemit'')
    · rw [standalone_of_parse_error ha hfiles hw hm]
      simp [Inlined, hm]
  · obtain ⟨m, hm', -⟩ := hn
    simp [hm] at hm'

/-! ### Jobs -/

/-- A job of a keyed set that is compiled from an empty cache is inlined completely: its text is
that of the patched entry with all its imports inlined, and so is the text of each module that the
entry leads to, which has one if and only if it is a module. -/
theorem compile_inlined {engine : Engine} (ha : engine.Accepting) {job : Job}
    (hfiles : FileSet.Keyed job.files) {code : String}
    (h : (compile engine job Cache.empty).1 = .ok code) :
    ∃ file, entry? job = some file ∧ Inlined engine job (patched job file) code ∧
      ∀ name dep, TransGen (Imports engine job (patched job file)) job.config.entryFile name →
        module? job (patched job file) name = some dep → ∀ text,
          standalone engine job dep = .ok text ↔ Inlined engine job dep text := by
  cases hentry : entry? job with
  | none =>
    rw [compile, hentry] at h
    cases h
  | some file =>
    have hname : (patched job file).name = job.config.entryFile := name_patched hfiles hentry
    rw [compile_of_entry hentry] at h
    rw [root_eq_plain ha hfiles] at h
    rcases hplain : plain engine job [(patched job file).name] (patched job file) with
      e | compiled
    · rw [hplain] at h
      cases h
    · obtain rfl : compiled.code = code := by
        rw [hplain, entryCode] at h
        split at h
        · cases h
        · exact Except.ok.inj h
      obtain ⟨m, hwritten⟩ := exists_written_of_plain ha _ _ _ hplain
      refine ⟨file, rfl, hwritten.inlined ha hfiles, fun name dep hreach hdep text => ?_⟩
      exact standalone_eq_ok_iff ha hfiles hplain (hname ▸ hreach) hdep text

/-- An engine for modules that are made of imports without names. -/
def bareEngine : Engine :=
  { Script.engine with
    emit := fun program =>
      .ok (String.join (program.references.map fun r => "import \"" ++ r.source ++ "\";\n")) }

/-- An entry that imports a module, which imports data and a file that is missing. -/
def bareJob : Job where
  config := Config.standard
  files := FileSet.ofFiles [
    ⟨"main.ts", "import './a'\nimport 'createApp.mount.__vue_app__'\n", .script⟩,
    ⟨"a.ts", "import './c.json'\nimport './gone'\n", .script⟩,
    ⟨"c.json", "1", .data⟩]
  stamp := 1

/-- The engine writes every module. -/
theorem accepting_bareEngine : bareEngine.Accepting := fun _ _ _ _ _ => ⟨_, rfl⟩

theorem isOk_compile_bare : (compile bareEngine bareJob Cache.empty).1.isOk = true := by
  rw [← compileWithin_eq_compile fun cache => (.error .emptyOutput, cache)]
  decide +kernel

/-- A job of modules that are made of imports is inlined completely. -/
theorem compile_inlined_bare :
    bareEngine.Accepting ∧ FileSet.Keyed bareJob.files ∧
      ∃ code file, (compile bareEngine bareJob Cache.empty).1 = .ok code ∧
        entry? bareJob = some file ∧ Inlined bareEngine bareJob (patched bareJob file) code ∧
        ∀ name dep, TransGen (Imports bareEngine bareJob (patched bareJob file))
            bareJob.config.entryFile name →
          module? bareJob (patched bareJob file) name = some dep → ∀ text,
            standalone bareEngine bareJob dep = .ok text ↔ Inlined bareEngine bareJob dep text := by
  have hfiles : FileSet.Keyed bareJob.files := FileSet.keyed_ofFiles _
  have hisOk := isOk_compile_bare
  rcases h : (compile bareEngine bareJob Cache.empty).1 with e | code
  · rw [h] at hisOk
    cases hisOk
  · obtain ⟨file, hentry, hinlined, hdeps⟩ := compile_inlined accepting_bareEngine hfiles h
    exact ⟨accepting_bareEngine, hfiles, code, file, rfl, hentry, hinlined, hdeps⟩

/-- An entry that re-exports data, in a space of names that is exported. -/
def spaceJob : Job where
  config := Config.standard
  files := FileSet.ofFiles [
    ⟨"main.ts", "import 'createApp.mount.__vue_app__'\n" ++
      "export namespace N \x7b export * from './c.json' \x7d", .script⟩,
    ⟨"c.json", "1", .data⟩]
  stamp := 1

/-- A re-export in a space of names that is exported stays as it is, although it stands for a file
that has a text. -/
theorem compile_exported_space :
    bareEngine.Accepting ∧ FileSet.Keyed spaceJob.files ∧
      ∃ file code target text, entry? spaceJob = some file ∧
        (compile bareEngine spaceJob Cache.empty).1 = .ok code ∧
        target? spaceJob (patched spaceJob file).name "./c.json" = some target ∧
        standalone bareEngine spaceJob target = .ok text ∧
        code = "import \"createApp.mount.__vue_app__\";\nimport \"./c.json\";\n" ∧
        ¬ InlinedThroughout bareEngine spaceJob (patched spaceJob file) code := by
  have hfiles : FileSet.Keyed spaceJob.files := FileSet.keyed_ofFiles _
  obtain ⟨file, m, hentry, hm, hrefs⟩ : ∃ file m, entry? spaceJob = some file ∧ _ ∧
      bareEngine.references m = [⟨"createApp.mount.__vue_app__", false⟩, ⟨"./c.json", true⟩] :=
    exists_entry_references (by decide +kernel)
  have hname : (patched spaceJob file).name = "main.ts" := name_patched hfiles hentry
  have hcode : (compile bareEngine spaceJob Cache.empty).1 =
      .ok "import \"createApp.mount.__vue_app__\";\nimport \"./c.json\";\n" := by
    rw [← compileWithin_eq_compile fun cache => (.error .emptyOutput, cache)]
    decide +kernel
  have htarget : target? spaceJob "main.ts" "./c.json" = some ⟨"c.json", "1", .data⟩ := by
    decide +kernel
  have hinlined : (List.map (fun r : Reference => "import \"" ++ r.source ++ "\";\n")
      [⟨"createApp.mount.__vue_app__", false⟩,
        ⟨inlined bareEngine spaceJob "main.ts" "./c.json", true⟩]).foldl (· ++ ·) "" ≠
      "import \"createApp.mount.__vue_app__\";\nimport \"./c.json\";\n" := by
    decide +kernel
  refine ⟨accepting_bareEngine, hfiles, file, _, _, _, hentry, hcode, hname ▸ htarget, rfl, rfl, ?_⟩
  rintro ⟨m', written, hm', hwritten, hemit⟩
  obtain rfl := Except.ok.inj (hm.symm.trans hm')
  have hkept : inlined bareEngine spaceJob "main.ts" "createApp.mount.__vue_app__" =
      "createApp.mount.__vue_app__" := by
    rw [inlined]
    rfl
  rw [hrefs, hname, List.map_cons, List.map_singleton, hkept] at hwritten
  have htext : String.join ((bareEngine.references written).map fun r =>
      "import \"" ++ r.source ++ "\";\n") = _ := Except.ok.inj hemit
  rw [hwritten] at htext
  exact hinlined htext

end LivePreview.Compile
