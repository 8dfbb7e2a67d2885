import LivePreview.ModuleReader
import LivePreview.Proofs.Component.Desugar
import LivePreview.Proofs.FactoryImport
import LivePreview.Proofs.FactoryImport.Lines
import LivePreview.Script.Parse
import Mathlib.Data.List.Nodup

/-!
# The factory in the modules that import it

Whether an import of the factory is missing is told from the text of a script. Where the text tells
it rightly, the names that elements and fragments are lowered to are bound once in the module that
the script becomes, by an import from the framework unless the script has them from elsewhere.

## Main definitions

* `LivePreview.Outline.Tells`: the text of a module tells whether a name is imported.
* `LivePreview.Outline.BindsOnce`: a name is bound by one import.
* `LivePreview.ModuleReader.Admits`: a script of a component that becomes a module.

## Main results

* `LivePreview.ModuleReader.bindsOnce_addMissing`: scripts with markup.
* `LivePreview.ModuleReader.bindsOnce_desugar`: components.
* `LivePreview.default_beside_names_imported_twice`: a text that does not tell.
-/

namespace LivePreview

open Component FactoryImport
open Text (FirstAt)

/-! ### Specifiers -/

namespace Script

/-- The names that the import specifiers of a statement bind, each with the module it is from. -/
def Stmt.specifiers : Stmt → List (String × String)
  | .importFrom _ names source _ => names.map fun name => (name.inner, source.text)
  | .commented _ s => s.specifiers
  | _ => []

/-- The names that the import specifiers of a module bind. -/
def Program.specifiers (p : Program) : List (String × String) := p.body.flatMap Stmt.specifiers

end Script

/-! ### Outlines -/

variable {o made : Outline} {text framework name line : String} {names : List String}

namespace Outline

/-- The text of a module tells whether a name is imported: an import clause for the framework names
it if and only if it is. It is imported once at most, and not declared in another way. -/
structure Tells (o : Outline) (text framework name : String) : Prop where
  /-- The name is not declared in another way. -/
  not_mem_declares : name ∉ o.declares
  /-- The name is imported once at most. -/
  length_origins_le : (o.origins name).length ≤ 1
  /-- The text has a clause for the name if that is imported. -/
  clause_iff : (∃ front rest, text.toList = front ++ rest ∧ Imports framework name rest) ↔
    o.origins name ≠ []

/-- A name is bound by one import specifier of a module that was made of another one. It comes from
the framework unless it came from elsewhere before. -/
def BindsOnce (made o : Outline) (framework name : String) : Prop :=
  ∃ origin, made.origins name = [origin] ∧
    ((∀ m ∈ o.origins name, m = framework) → origin = framework)

theorem BindsOnce.congr (h : BindsOnce made o framework name) {made' : Outline}
    (himports : made'.imports = made.imports) : BindsOnce made' o framework name := by
  rwa [BindsOnce, origins, himports]

/-- The module with more imports, all from the framework. -/
def importing (o : Outline) (framework : String) (names : List String) : Outline :=
  { o with imports := names.map (·, framework) ++ o.imports }

theorem importing_nil (o : Outline) (framework : String) : o.importing framework [] = o := rfl

theorem origins_importing (o : Outline) (framework : String) (names : List String)
    (name : String) : (o.importing framework names).origins name =
      (names.filter (· == name)).map (fun _ => framework) ++ o.origins name := by
  simp [importing, origins, List.filter_map, Function.comp_def]

theorem Tells.importsName_iff (h : o.Tells text framework name) (hname : IsWordName name) :
    importsName text framework name = true ↔ o.origins name ≠ [] := by
  rw [FactoryImport.importsName_iff hname, h.clause_iff]

/-- What the text does not tell of is not imported. -/
theorem Tells.origins_eq_nil (h : o.Tells text framework name) (hname : IsWordName name)
    (hmissing : importsName text framework name = false) : o.origins name = [] := by
  by_contra hne
  rw [(h.importsName_iff hname).2 hne] at hmissing
  cases hmissing

theorem tells_of_importsName (hname : IsWordName name) (hdeclares : name ∉ o.declares)
    (hlength : (o.origins name).length ≤ 1)
    (h : importsName text framework name = true ↔ o.origins name ≠ []) :
    o.Tells text framework name :=
  ⟨hdeclares, hlength, (FactoryImport.importsName_iff hname).symm.trans h⟩

/-- The name is bound once if it is among those that are imported where the text does not tell it
so. -/
theorem Tells.bindsOnce_importing (h : o.Tells text framework name) (hname : IsWordName name)
    (hnodup : names.Nodup) (hmem : name ∈ names ↔ importsName text framework name = false) :
    BindsOnce (o.importing framework names) o framework name := by
  rw [BindsOnce, origins_importing]
  cases himports : importsName text framework name with
  | true =>
    have hnot : name ∉ names := by simp [hmem, himports]
    have hnames : names.filter (· == name) = [] :=
      List.filter_eq_nil_iff.2 fun n hn heq => hnot (beq_iff_eq.1 heq ▸ hn)
    have horigins := (h.importsName_iff hname).1 himports
    obtain ⟨origin, horigin⟩ : ∃ origin, o.origins name = [origin] :=
      List.length_eq_one_iff.1 (le_antisymm h.length_origins_le
        (List.length_pos_iff.2 horigins))
    rw [hnames, horigin]
    exact ⟨origin, rfl, fun helse => helse origin List.mem_cons_self⟩
  | false =>
    have hnames : names.filter (· == name) = [name] := by
      rw [List.filter_beq, List.count_eq_one_of_mem hnodup (hmem.2 himports)]
      rfl
    rw [hnames, h.origins_eq_nil hname himports]
    exact ⟨framework, rfl, fun _ => rfl⟩

end Outline

namespace ModuleReader

open Outline

variable (reader : ModuleReader)

theorem isWordName_of_mem (h : name ∈ [factoryName, fragmentName]) : IsWordName name := by
  rcases List.mem_pair.1 h with rfl | rfl
  · exact isWordName_factoryName
  · exact isWordName_fragmentName

/-- A module with the imports in front that its text does not tell of. -/
theorem read_importing (hread : reader.read text = some o) (hhashbang : o.hashbang = false)
    (hframework : IsQuotable framework) (hsublist : names.Sublist [factoryName, fragmentName])
    (hempty : names ≠ []) {source : String}
    (htells : ∀ name ∈ names, o.Tells source framework name ∧
      importsName source framework name = false) :
    reader.read (importLine framework names ++ text) = some (o.importing framework names) := by
  refine reader.read_importLine_append hread hhashbang hframework hsublist hempty
    fun name hname => ?_
  obtain ⟨h, hmissing⟩ := htells name hname
  exact ⟨h.origins_eq_nil (isWordName_of_mem (hsublist.subset hname)) hmissing,
    h.not_mem_declares⟩

/-- The names are bound once in a script with the missing imports. -/
theorem bindsOnce_addMissing (hframework : IsQuotable framework) {source : String}
    (hread : reader.read source = some o) (hhashbang : o.hashbang = false)
    (htells : ∀ name ∈ [factoryName, fragmentName], o.Tells source framework name) :
    ∃ made, reader.read (addMissing source framework) = some made ∧
      ∀ name ∈ [factoryName, fragmentName], BindsOnce made o framework name := by
  let missing := [factoryName, fragmentName].filter fun name =>
    !importsName source framework name
  have hsublist : missing.Sublist [factoryName, fragmentName] := List.filter_sublist
  have hmem {name : String} (hname : name ∈ [factoryName, fragmentName]) :
      name ∈ missing ↔ importsName source framework name = false := by
    simp only [missing, List.mem_filter, hname, true_and, Bool.not_eq_true']
  refine ⟨o.importing framework missing, ?_, fun name hname =>
    (htells name hname).bindsOnce_importing (isWordName_of_mem hname)
      (hsublist.nodup (by decide)) (hmem hname)⟩
  change reader.read
    (if missing.isEmpty then source else importLine framework missing ++ source) = _
  split
  · rename_i hempty
    rw [List.isEmpty_iff.1 hempty, importing_nil, hread]
  · rename_i hempty
    exact reader.read_importing hread hhashbang hframework hsublist (by simpa using hempty)
      fun name hname => ⟨htells name (hsublist.subset hname),
        (hmem (hsublist.subset hname)).1 hname⟩

/-! ### Components -/

/-- A script of a component that its module is made of without damage. The script is a module, and
its text tells whether that imports the factory. A setup script has no default export of its own;
in a plain script the first opening of a default export is that of an object. -/
structure Admits (script : Option Component.Script) (framework : String) (o : Outline) : Prop where
  /-- The script is a module. -/
  read_body : reader.read (script.elim "" Script.body) = some o
  /-- Its first line is not the name of what runs it. -/
  hashbang : o.hashbang = false
  /-- The text tells whether the factory is imported. -/
  tells : o.Tells (script.elim "" Script.body) framework factoryName
  /-- A setup script has no default export. -/
  exportsDefault : ∀ s ∈ script, s.setup = true → o.exportsDefault = false
  /-- The first opening of a default export in a plain script is what it looks like. -/
  opensDefault : ∀ s ∈ script, s.setup = false → ∀ before behind,
    FirstAt exportOpening.toList before behind s.body.toList →
      reader.OpensDefault (String.ofList before ++ exportOpening) (String.ofList behind)

variable {reader} {script : Option Component.Script} {code : String}

/-- A module behind the import line that a script needs, on a new line. -/
theorem read_line_append (hread : reader.read text = some o) (hhashbang : o.hashbang = false)
    (hframework : IsQuotable framework) {body : String}
    (htells : o.Tells body framework factoryName) (hline : IsImportFor framework body line) :
    ∃ made, reader.read ("\n" ++ (line ++ text)) = some made ∧
      made.exportsDefault = o.exportsDefault ∧ BindsOnce made o framework factoryName := by
  rcases hline with ⟨himports, rfl⟩ | ⟨hmissing, rfl⟩
  · refine ⟨o.importing framework [], ?_, rfl, htells.bindsOnce_importing isWordName_factoryName
      List.nodup_nil (by simp [himports])⟩
    rw [String.empty_append]
    exact reader.read_lineBreak_append hread hhashbang
  · refine ⟨o.importing framework [factoryName], ?_, rfl, htells.bindsOnce_importing
      isWordName_factoryName (List.nodup_singleton _) (by simp [hmissing])⟩
    have htold : ∀ name ∈ [factoryName], o.Tells body framework name ∧
        importsName body framework name = false := by
      simpa using ⟨htells, hmissing⟩
    refine reader.read_lineBreak_append ?_ hhashbang
    rw [← importLine_factoryName]
    exact reader.read_importing hread hhashbang hframework (by decide) (by decide) htold

/-- The module text around a script is a module that binds the factory once. -/
theorem Admits.bindsOnce (h : reader.Admits script framework o) (hframework : IsQuotable framework)
    {template : String} (hwraps : Wraps framework (renderCall template) script code) :
    ∃ made, reader.read code = some made ∧ BindsOnce made o framework factoryName := by
  cases hwraps with
  | bare hscript =>
    have hbody : script.elim "" Script.body = "" := by
      cases script with
      | none => rfl
      | some s => exact hscript s rfl
    obtain ⟨made, hmade, hdefault, hbinds⟩ := read_line_append (hbody ▸ h.read_body) h.hashbang
      hframework (hbody ▸ h.tells) (.inr ⟨rfl, rfl⟩)
    have hblank : o.exportsDefault = false := by
      have hread : reader.read "" = some o := hbody ▸ h.read_body
      obtain rfl : Outline.blank = o := Option.some.inj (reader.read_empty.symm.trans hread)
      rfl
    obtain ⟨made', hmade', himports⟩ := reader.read_append_export hmade (hdefault.trans hblank)
      (renderMember_mem template)
    refine ⟨made', ?_, hbinds.congr himports⟩
    simpa [String.append_assoc] using hmade'
  | @setup body line hbody hline =>
    obtain ⟨made, hmade, hdefault, hbinds⟩ := read_line_append h.read_body h.hashbang hframework
      h.tells hline
    obtain ⟨made', hmade', himports⟩ := reader.read_append_export
      (reader.read_append_lineBreak hmade) (hdefault.trans (h.exportsDefault _ rfl rfl))
      (setupMember_mem template)
    refine ⟨made', ?_, hbinds.congr himports⟩
    have hbreaks : "\n\n" = "\n" ++ "\n" := rfl
    have hclosing : "\n  \x7d\n\x7d\n" = "\n  \x7d" ++ "\n\x7d\n" := rfl
    rw [hbreaks, hclosing]
    simpa only [String.append_assoc, Option.elim_some] using hmade'
  | @plain body line before behind hbody hline hfirst =>
    have hopens := h.opensDefault _ rfl rfl before behind hfirst
    have hparts : body = String.ofList before ++ exportOpening ++ String.ofList behind := by
      rw [← String.toList_inj, hfirst.1]
      simp
    have hread : reader.read (String.ofList before ++ exportOpening ++ String.ofList behind) =
        some o := hparts ▸ h.read_body
    obtain ⟨made, hmade, -, hbinds⟩ := read_line_append
      (reader.read_member_append template hread hopens) h.hashbang hframework h.tells hline
    refine ⟨made, ?_, hbinds⟩
    simpa only [String.append_assoc] using reader.read_append_lineBreak hmade
  | closed hbody hline hnone =>
    obtain ⟨made, hmade, -, hbinds⟩ := read_line_append h.read_body h.hashbang hframework h.tells
      hline
    refine ⟨made, ?_, hbinds⟩
    simpa [String.append_assoc] using reader.read_append_lineBreak hmade

/-- The factory is bound once in the module of a component. -/
theorem bindsOnce_desugar (hframework : IsQuotable framework) {fileName source : String}
    (hfileName : (blocks source).style.getD "" ≠ "" → IsQuotable fileName) (stamp : Nat)
    (h : reader.Admits (blocks source).script framework o) :
    ∃ made, reader.read (desugar fileName source framework stamp) = some made ∧
      BindsOnce made o framework factoryName := by
  obtain ⟨made, hmade, hbinds⟩ := h.bindsOnce hframework
    (wraps_scriptModule _ _ (renderCall ((blocks source).template.getD "")))
  rw [desugar]
  split
  · exact ⟨made, by rwa [String.append_empty], hbinds⟩
  · rename_i hstyle
    obtain ⟨made', hmade', himports⟩ := reader.read_append_style _ stamp hmade (hfileName hstyle)
    exact ⟨made', hmade', hbinds.congr himports⟩

/-- The names that elements and fragments are lowered to are bound once in a script with the missing
imports, and the factory is in the module of a component, where the text tells what is imported. -/
theorem factory_bound_once (reader : ModuleReader) {framework : String}
    (hframework : IsQuotable framework) :
    (∀ source o, reader.read source = some o → o.hashbang = false →
      (∀ name ∈ [factoryName, fragmentName], o.Tells source framework name) →
        ∃ made, reader.read (addMissing source framework) = some made ∧
          ∀ name ∈ [factoryName, fragmentName], BindsOnce made o framework name) ∧
    ∀ fileName source stamp o, ((blocks source).style.getD "" ≠ "" → IsQuotable fileName) →
      reader.Admits (blocks source).script framework o →
        ∃ made, reader.read (desugar fileName source framework stamp) = some made ∧
          BindsOnce made o framework factoryName :=
  ⟨fun _ _ hread hhashbang htells =>
      reader.bindsOnce_addMissing hframework hread hhashbang htells,
    fun _ _ stamp _ hfileName h => bindsOnce_desugar hframework hfileName stamp h⟩

/-- A script that imports the factory, and a setup script that does not, both with the framework
`vue`. By lines their imports are read as the grammar of scripts has them. -/
theorem factory_bound_once_vue :
    let source := "import \x7b h \x7d from 'vue'\nrender(<a/>)\n"
    let o : Outline := ⟨false, [("h", "vue")], [], false⟩
    let component := "<template><b/></template><script setup>import \x7b ref \x7d from 'vue'\n" ++
      "ref(1)</script><style>b\x7b\x7d</style>"
    let body := "import \x7b ref \x7d from 'vue'\nref(1)"
    let o' : Outline := ⟨false, [("ref", "vue")], [], false⟩
    (byLines.read source = some o ∧
      (Script.Program.parse "A.jsx" source).toOption.map Script.Program.specifiers =
        some o.imports ∧
      (∃ made, byLines.read (addMissing source "vue") = some made ∧
        ∀ name ∈ [factoryName, fragmentName], BindsOnce made o "vue" name) ∧
      (Script.Program.parse "A.jsx" (addMissing source "vue")).toOption.map
          Script.Program.specifiers =
        (byLines.read (addMissing source "vue")).map Outline.imports) ∧
    (blocks component).script = some ⟨body, true⟩ ∧
      (Script.Program.parse "A.ts" body).toOption.map Script.Program.specifiers =
        some o'.imports ∧
      ∃ made, byLines.read (desugar "A.vue" component "vue" 1) = some made ∧
        BindsOnce made o' "vue" factoryName := by
  intro source o component body o'
  have hread : byLines.read source = some o := by decide +kernel
  have hscript : (blocks component).script = some ⟨body, true⟩ := by decide +kernel
  have htells : ∀ name ∈ [factoryName, fragmentName], o.Tells source "vue" name := by
    intro name hname
    rcases List.mem_pair.1 hname with rfl | rfl <;>
      exact tells_of_importsName (isWordName_of_mem hname) (by decide) (by decide)
        (by decide +kernel)
  have hadmits : byLines.Admits (blocks component).script "vue" o' := by
    rw [hscript]
    refine ⟨by decide +kernel, rfl, tells_of_importsName isWordName_factoryName (by decide)
      (by decide) (by decide +kernel), fun s hs hsetup => rfl, fun s hs hplain => ?_⟩
    obtain rfl := Option.some.inj hs
    cases hplain
  have hframework : IsQuotable "vue" := by decide
  have hfileName : IsQuotable "A.vue" := by decide
  obtain ⟨hmarkup, hcomponents⟩ := factory_bound_once byLines hframework
  exact ⟨⟨hread, by decide +kernel, hmarkup source o hread rfl htells, by decide +kernel⟩, hscript,
    by decide +kernel, hcomponents "A.vue" component 1 o' (fun _ => hfileName) hadmits⟩

end ModuleReader

/-- Behind a default import the names in braces are not found in the text: a script that imports the
factory imports it twice afterwards. -/
theorem default_beside_names_imported_twice :
    let source := "import Vue, \x7b h \x7d from 'vue'\n"
    (Script.Program.parse "A.jsx" source).toOption.map Script.Program.specifiers =
        some [("Vue", "vue"), ("h", "vue")] ∧
      (Script.Program.parse "A.jsx" (addMissing source "vue")).toOption.map
          Script.Program.specifiers =
        some [("h", "vue"), ("Fragment", "vue"), ("Vue", "vue"), ("h", "vue")] := by
  decide +kernel

end LivePreview
