import LivePreview.Proofs.Component.Template
import LivePreview.Proofs.Text.Search

/-!
# The text of a component in its module

The module of a component is its script with a few texts around it or inserted once. The template
and the style stand in it as the interiors of templates, which are read back as they are but for
the way in which line breaks are written.

## Main definitions

* `LivePreview.Component.Wraps`: a module text around a script.
* `LivePreview.Component.Appends`: the statement for a style.

## Main results

* `LivePreview.Component.desugar_keeps`: a component's module has these parts.
-/

namespace LivePreview.Component

open FactoryImport (factoryName importsName importLine)
open Text (FirstAt)

/-- The expression that renders a template with an interior. -/
def rendering (interior : String) : String :=
  "h('div', \x7b\n      innerHTML: `" ++ interior ++ "`\n    \x7d)"

/-- The line that imports the factory. -/
def factoryLine (framework : String) : String :=
  "import \x7b h \x7d from '" ++ framework ++ "'\n"

/-- The import line in front of a script, which is empty if the script imports the factory. -/
def IsImportFor (framework body line : String) : Prop :=
  (importsName body framework factoryName = true ∧ line = "") ∨
    (importsName body framework factoryName = false ∧ line = factoryLine framework)

/-- The module text of a script around an expression. -/
inductive Wraps (framework call : String) : Option Script → String → Prop
  /-- Without a script, or with an empty one, there is a default export that renders. -/
  | bare {script : Option Script} (hscript : ∀ s ∈ script, s.body = "") :
      Wraps framework call script
        ("\n" ++ factoryLine framework ++ "\n" ++ exportOpening ++ renderMember call ++
          "\n\x7d\n")
  /-- A setup script has an export behind it. -/
  | setup {body line : String} (hbody : body ≠ "") (hline : IsImportFor framework body line) :
      Wraps framework call (some ⟨body, true⟩)
        ("\n" ++ line ++ body ++ "\n\n" ++ exportOpening ++ "\n  setup() \x7b\n    return () => " ++
          call ++ "\n  \x7d\n\x7d\n")
  /-- A plain script gets a member behind the first opening of a default export. -/
  | plain {body line : String} {before behind : List Char} (hbody : body ≠ "")
      (hline : IsImportFor framework body line)
      (hfirst : FirstAt exportOpening.toList before behind body.toList) :
      Wraps framework call (some ⟨body, false⟩)
        ("\n" ++ line ++ String.ofList before ++ exportOpening ++ renderMember call ++ "," ++
          String.ofList behind ++ "\n")
  /-- A plain script without such an opening is left alone. -/
  | closed {body line : String} (hbody : body ≠ "") (hline : IsImportFor framework body line)
      (hnone : ¬exportOpening.toList <:+: body.toList) :
      Wraps framework call (some ⟨body, false⟩) ("\n" ++ line ++ body ++ "\n")

/-- What is appended for a style: nothing if it is empty, and else one statement. -/
inductive Appends (fileName : String) (stamp : Nat) : String → String → Prop
  /-- There is no style. -/
  | nothing : Appends fileName stamp "" ""
  /-- The style is the text of an element. -/
  | statement {style interior : String} (hstyle : style ≠ "")
      (hinterior : IsTemplateOf interior style) :
      Appends fileName stamp style
        ("\n;(() => \x7b\n  const style = document.createElement('style')\n" ++
          "  style.textContent = `" ++ interior ++ "`\n" ++
          "  style.setAttribute('data-preview-component', '" ++ fileName ++ "-" ++
          toString stamp ++ "')\n  document.head.appendChild(style)\n\x7d)()\n")

variable {framework call body : String}

/-! ### Parts -/

theorem importLine_factoryName (framework : String) :
    importLine framework [factoryName] = factoryLine framework := by
  rw [importLine, String.intercalate_singleton, factoryName]
  change _ = "import \x7b h \x7d from '" ++ framework ++ "'\n"
  simp

theorem isImportFor_factoryImport (body framework : String) :
    IsImportFor framework body (factoryImport body framework) := by
  rw [IsImportFor, factoryImport, importLine_factoryName]
  cases importsName body framework factoryName <;> simp

/-- A member is inserted behind the first opening of a default export. -/
theorem wraps_plain (hbody : body ≠ "") :
    Wraps framework call (some ⟨body, false⟩)
      ("\n" ++ factoryImport body framework ++
        (String.ofList (Text.replaceFirst exportOpening.toList
          (exportOpening ++ renderMember call ++ ",").toList body.toList) ++ "\n")) := by
  rw [Text.replaceFirst]
  cases hcut : Text.cutAt exportOpening.toList body.toList with
  | none =>
    have h : Wraps framework call _ _ :=
      .closed hbody (isImportFor_factoryImport body framework) (Text.cutAt_eq_none_iff.1 hcut)
    simpa [String.append_assoc] using h
  | some parts =>
    have h : Wraps framework call _ _ :=
      .plain hbody (isImportFor_factoryImport body framework) (Text.cutAt_eq_some_iff.1 hcut)
    simpa [String.append_assoc] using h

theorem wraps_scriptModule (script : Option Script) (framework call : String) :
    Wraps framework call script (scriptModule script framework call) := by
  rw [scriptModule]
  split
  · rename_i hfilter
    have h : Wraps framework call script _ := .bare fun s hs => by
      subst hs
      by_contra hbody
      simp [hbody] at hfilter
    rw [importLine_factoryName]
    simpa [String.append_assoc] using h
  · rename_i s hfilter
    obtain ⟨rfl, hkept⟩ := Option.filter_eq_some_iff.1 hfilter
    obtain ⟨body, setup⟩ := s
    have hbody : body ≠ "" := by simpa using hkept
    cases setup with
    | true =>
      have h : Wraps framework call _ _ :=
        .setup hbody (isImportFor_factoryImport body framework)
      simpa [String.append_assoc] using h
    | false => exact wraps_plain hbody

theorem appends_style (fileName style : String) (stamp : Nat) :
    Appends fileName stamp style
      (if style = "" then "" else styleStatement fileName style stamp) := by
  split
  · subst style
    exact .nothing
  · exact .statement ‹_› (isTemplateOf_escapeTemplate style)

/-- The module of a component is made of its script, of an expression that renders its template,
and of a statement for its style. -/
theorem desugar_keeps (fileName source framework : String) (stamp : Nat) :
    ∃ markup code appended, IsTemplateOf markup ((blocks source).template.getD "") ∧
      Wraps framework (rendering markup) (blocks source).script code ∧
      Appends fileName stamp ((blocks source).style.getD "") appended ∧
      desugar fileName source framework stamp = code ++ appended :=
  ⟨_, _, _, isTemplateOf_escapeTemplate _, wraps_scriptModule .., appends_style .., rfl⟩

/-- A carriage return before a line feed is no part of what the template stands for that is read
at the inner markup. -/
theorem carriage_return_dropped :
    let source := "<template>a\r\nb</template>"
    let written := (desugar "A.vue" source "vue" 0).toList
    (blocks source).template = some "a\r\nb" ∧
      ((Text.cutAt "innerHTML: ".toList written).map fun cut =>
        (LivePreview.Script.scan cut.2).token) = some (.template "a\nb" true) ∧
      LivePreview.Script.templateValue? "a\nb" = some "a\nb" := by
  decide +kernel

end LivePreview.Component
