import LivePreview.Proofs.Component.Template
import LivePreview.Proofs.Script.Brackets
import LivePreview.Proofs.Script.Divisions
import LivePreview.Proofs.Script.Quotes
import LivePreview.Script.Parse
import LivePreview.SourceFile

/-!
# File names in the modules of components

The module of a component holds the name of its file in one string literal, that of the statement
for its style, and nowhere else. The line of this literal is divided into input elements in one way
only, and so are the lines of two names that stand for themselves between quotes: the divisions are
equal but for the value of the literal. What stands in front of the line is not balanced in any way,
so a comment or a template that is open there must not end in the name either.

## Main definitions

* `LivePreview.Component.styleLabel`: the text of the literal.
* `LivePreview.Component.literalOf`: the literal as an input element.
* `LivePreview.Component.IsInert`: names that end nothing that is open in front of them.

## Main results

* `LivePreview.Component.exists_exchanged_of_divides`: divisions with one name and with another one.
* `LivePreview.Component.fileName_decides_nothing`: such names do not decide whether a module can
  be read.
* `LivePreview.Component.quote_in_fileName`, `LivePreview.Component.open_script_ended_by_fileName`:
  other names do.
-/

namespace LivePreview.Component

open LivePreview.Script

variable {label label' fileName fileName' : String} {g : Gap} {depth stamp : Nat} {es : List Element}

/-! ### The line of the literal -/

/-- The lines of a style statement behind the one that names the element. -/
def appending : String := "\n  document.head.appendChild(style)\n\x7d)()\n"

/-- The line that names a style element, and the lines behind it. -/
def naming (label : String) : String :=
  "  style.setAttribute('data-preview-component', '" ++ label ++ "'" ++ (")" ++ appending)

/-- The literal of the line that names a style element. -/
def literalOf (label : String) : Element :=
  ⟨false, '\'' :: label.toList ++ ['\''], .token (.string (.ofText label))⟩

/-- The input elements of the line that names a style element. -/
def namingElements (onNewLine : Bool) (label : String) : List Element :=
  [⟨onNewLine, "style".toList, .token (.word "style")⟩,
    ⟨false, ['.'], .token (.mark ".")⟩,
    ⟨false, "setAttribute".toList, .token (.word "setAttribute")⟩,
    ⟨false, ['('], .token (.mark "(")⟩,
    ⟨false, "'data-preview-component'".toList,
      .token (.string (.ofText "data-preview-component"))⟩,
    ⟨false, [','], .token (.mark ",")⟩,
    literalOf label,
    ⟨false, [')'], .token (.mark ")")⟩]

theorem readsAs_naming (g : Gap) (h : StandsForItself label.toList) :
    ReadsAs g (naming label).toList (namingElements g.onNewLine label) appending.toList := by
  have hliteral : label.toList ++ '\'' :: ')' :: appending.toList =
      label.toList ++ ['\''] ++ ')' :: appending.toList := by simp
  unfold naming namingElements literalOf
  simp only [String.toList_append, String.reduceToList, List.cons_append, List.nil_append,
    List.append_assoc]
  -- Eight tokens from left to right; the seventh one is the literal.
  refine .cons (by rfl) (by decide) (by rfl) (fun _ => by rfl) ?_
  refine .cons (by rfl) (by decide) (by rfl) (fun _ => by rfl) ?_
  refine .cons (by rfl) (by decide) (by rfl) (fun _ => by rfl) ?_
  refine .cons (by rfl) (by decide) (by rfl) (fun _ => by rfl) ?_
  refine .cons (by rfl) (by decide) (by rfl) (fun _ => by rfl) ?_
  refine .cons (by rfl) (by decide) (by rfl) (fun _ => by rfl) ?_
  rw [hliteral]
  refine .cons (by rfl) (by decide) ?_ (fun _ => by rfl) ?_
  · rw [List.cons_append, ← hliteral, scan_quoted_of_standsForItself h, String.ofList_toList]
  · exact .cons (by rfl) (by decide) (by rfl) (fun _ => by rfl) (.nil _)

theorem literalOf_mem_namingElements (onNewLine : Bool) :
    literalOf label ∈ namingElements onNewLine label := by
  simp [namingElements]

theorem backslash_notMem_written (h : StandsForItself label.toList) :
    '\\' ∉ '\'' :: label.toList ++ ['\''] := by
  have hslash : '\\' ∉ label.toList := fun hc => h _ hc (by decide)
  simp [hslash]

/-- The two lists are equal but for the literal. -/
theorem exchanged_namingElements (onNewLine : Bool) (h : StandsForItself label.toList)
    (h' : StandsForItself label'.toList) : Exchanged (namingElements onNewLine label ++ es)
      (namingElements onNewLine label' ++ es) :=
  .there _ <| .there _ <| .there _ <| .there _ <| .there _ <|
    .here _ rfl rfl (backslash_notMem_written h) (backslash_notMem_written h')

/-! ### Divisions with one label and with another one -/

/-- A text that means nothing in a line, whatever is open in front of the line. -/
structure IsInert (s : List Char) : Prop where
  /-- It stands for itself between single quotes. -/
  standsForItself : StandsForItself s
  /-- It ends no template. -/
  backtick_notMem : '`' ∉ s
  /-- It ends no comment. -/
  not_closes : ¬['*', '/'] <:+: s

theorem backtick_notMem_naming (h : IsInert label.toList) : '`' ∉ (naming label).toList := by
  unfold naming appending
  simp only [String.toList_append, String.reduceToList, List.mem_append, not_or]
  exact ⟨⟨⟨by decide, h.backtick_notMem⟩, by decide⟩, by decide, by decide⟩

theorem not_closes_naming (h : IsInert label.toList) : ¬['*', '/'] <:+: (naming label).toList := by
  unfold naming appending
  simp only [String.toList_append, String.reduceToList, List.append_assoc]
  rw [Text.infix_append_iff (Text.apart_of_notMem (by decide)),
    Text.infix_append_iff (Text.apart_of_head? rfl (by decide))]
  simp only [not_or]
  exact ⟨by decide, h.not_closes, by decide⟩

/-- A division with one label holds its literal, and there is one with another label that is equal
but for the literal. -/
theorem exists_exchanged_of_divides {u : List Char} (hu : Ticked u) (hlabel : IsInert label.toList)
    (hlabel' : IsInert label'.toList)
    (h : Divides g depth (u ++ '\n' :: (naming label).toList) es) : literalOf label ∈ es ∧
      ∃ es', Divides g depth (u ++ '\n' :: (naming label').toList) es' ∧ Exchanged es es' := by
  obtain ⟨g', front, behind, rfl, hbehind, hswap⟩ :=
    h.line hu (backtick_notMem_naming hlabel) (not_closes_naming hlabel)
  obtain ⟨es, rfl, hes⟩ := (readsAs_naming g' hlabel.standsForItself).divides_iff.1 hbehind
  refine ⟨List.mem_append_right front (List.mem_append_left es (literalOf_mem_namingElements _)),
    front ++ (namingElements g'.onNewLine label' ++ es), hswap _ _ ?_, ?_⟩
  · exact (readsAs_naming g' hlabel'.standsForItself).divides_iff.2 ⟨es, rfl, hes⟩
  · exact (exchanged_namingElements _ hlabel.standsForItself
      hlabel'.standsForItself).append_left front

/-! ### The label of a file -/

/-- The value of the attribute that names a style element. -/
def styleLabel (fileName : String) (stamp : Nat) : String := fileName ++ "-" ++ toString stamp

theorem toList_styleLabel (fileName : String) (stamp : Nat) :
    (styleLabel fileName stamp).toList = fileName.toList ++ ('-' :: Nat.toDigits 10 stamp) := by
  simp [styleLabel]

/-- The dash and the stamp hold no character with a meaning of its own. -/
theorem notMem_stamp {c : Char} (hc : c ≠ '-') (hdigit : c.isDigit = false) (stamp : Nat) :
    c ∉ '-' :: Nat.toDigits 10 stamp := by
  rw [List.mem_cons, not_or]
  refine ⟨hc, fun h => ?_⟩
  rw [Nat.isDigit_of_mem_toDigits (by decide) (by decide) h] at hdigit
  cases hdigit

theorem standsForItself_styleLabel_iff :
    StandsForItself (styleLabel fileName stamp).toList ↔ StandsForItself fileName.toList := by
  rw [toList_styleLabel]
  refine ⟨fun h c hc => h c (List.mem_append_left _ hc), fun h c hc hmeaning => ?_⟩
  have hdigit : ∀ c ∈ ['\'', '\\', '\n', '\r'], c ≠ '-' ∧ c.isDigit = false := by simp
  rcases List.mem_append.1 hc with hc | hc
  · exact h c hc hmeaning
  · exact notMem_stamp (hdigit c hmeaning).1 (hdigit c hmeaning).2 stamp hc

theorem IsInert.styleLabel (h : IsInert fileName.toList) (stamp : Nat) :
    IsInert (styleLabel fileName stamp).toList where
  standsForItself := standsForItself_styleLabel_iff.2 h.standsForItself
  backtick_notMem := by
    rw [toList_styleLabel, List.mem_append, not_or]
    exact ⟨h.backtick_notMem, notMem_stamp (by decide) (by decide) stamp⟩
  not_closes := by
    rw [toList_styleLabel, Text.infix_append_iff (Text.apart_of_head? rfl (by decide)), not_or]
    exact ⟨h.not_closes, fun hcloses =>
      notMem_stamp (by decide) (by decide) stamp (hcloses.subset List.mem_cons_self)⟩

/-! ### The module of a component -/

/-- The statement for a style up to the backtick behind the style. -/
def opening (style : String) : String :=
  "\n;(() => \x7b\n  const style = document.createElement('style')\n" ++
    "  style.textContent = `" ++ escapeTemplate style ++ "`"

theorem getLast?_opening (style : String) : (opening style).toList.getLast? = some '`' := by
  unfold opening
  rw [String.toList_append, List.getLast?_append]
  rfl

theorem styleStatement_eq (fileName style : String) (stamp : Nat) :
    styleStatement fileName style stamp =
      opening style ++ ("\n" ++ naming (styleLabel fileName stamp)) := by
  have htick : "`\n" = "`" ++ "\n" := by decide
  have hbracket : "')\n  document.head.appendChild(style)\n\x7d)()\n" =
      "'" ++ (")" ++ appending) := by decide +kernel
  unfold styleStatement opening naming styleLabel
  rw [htick, hbracket]
  simp only [String.append_assoc]

theorem head?_scriptModule (script : Option Script) (framework call : String) :
    (scriptModule script framework call).toList.head? = some '\n' := by
  unfold scriptModule
  split <;> simp [String.toList_append]

/-- The module of a component with a style holds the file name behind a line break, in the line that
names the style element. -/
theorem exists_desugar_eq {source : String} (framework : String) (stamp : Nat)
    (hstyle : (blocks source).style.getD "" ≠ "") : ∃ before : String,
      Ticked before.toList ∧ before.toList.head? = some '\n' ∧
      ∀ fileName, desugar fileName source framework stamp =
        before ++ ("\n" ++ naming (styleLabel fileName stamp)) := by
  refine ⟨scriptModule (blocks source).script framework
    (renderCall ((blocks source).template.getD "")) ++ opening ((blocks source).style.getD ""),
    ?_, ?_, fun fileName => ?_⟩
  · intro c hc
    rw [String.toList_append, List.getLast?_append, getLast?_opening, Option.some_or] at hc
    exact (Option.some.inj hc).symm
  · rw [String.toList_append, List.head?_append, head?_scriptModule, Option.some_or]
  · unfold desugar
    simp only [if_neg hstyle, styleStatement_eq, String.append_assoc]

theorem behindHashbang_of_head? {text : String} (h : text.toList.head? = some '\n') :
    behindHashbang text = text.toList := by
  obtain ⟨s, hs⟩ := List.head?_eq_some_iff.1 h
  rw [behindHashbang, hs]
  rfl

/-! ### The characters of a module, piece by piece -/

theorem toList_styleStatement (fileName style : String) (stamp : Nat) :
    (styleStatement fileName style stamp).toList =
      "\n;(() => \x7b\n  const style = document.createElement('style')\n".toList ++
        "  style.textContent = `".toList ++ (escapeTemplate style).toList ++ "`\n".toList ++
        "  style.setAttribute('data-preview-component', '".toList ++ fileName.toList ++
        "-".toList ++ (toString stamp).toList ++
        "')\n  document.head.appendChild(style)\n\x7d)()\n".toList := by
  unfold styleStatement
  simp only [String.toList_append]

theorem toList_scriptModule_none (framework call : String) :
    (scriptModule none framework call).toList =
      "\n".toList ++ (FactoryImport.importLine framework [FactoryImport.factoryName]).toList ++
        "\n".toList ++ exportOpening.toList ++ (renderMember call).toList ++
        "\n\x7d\n".toList := by
  unfold scriptModule
  simp only [Option.filter_none, String.toList_append]

theorem toList_scriptModule_plain {body : String} (hbody : body ≠ "") (framework call : String) :
    (scriptModule (some ⟨body, false⟩) framework call).toList =
      "\n".toList ++ (factoryImport body framework).toList ++
        Text.replaceFirst exportOpening.toList (exportOpening ++ renderMember call ++ ",").toList
          body.toList ++ "\n".toList := by
  unfold scriptModule
  rw [Option.filter_some, if_pos (by simpa using hbody)]
  simp only [Bool.false_eq_true, if_false, String.toList_append, String.toList_ofList,
    List.append_assoc]

theorem toList_desugar {source style : String} {script : Option Component.Script}
    (hblocks : blocks source = ⟨none, script, some style⟩) (hstyle : style ≠ "")
    (fileName framework : String) (stamp : Nat) :
    (desugar fileName source framework stamp).toList =
      (scriptModule script framework (renderCall "")).toList ++
        (styleStatement fileName style stamp).toList := by
  unfold desugar
  simp only [hblocks, Option.getD_some, Option.getD_none, if_neg hstyle, String.toList_append]

theorem blocks_style : blocks "<style>p</style>" = ⟨none, none, some "p"⟩ := by decide +kernel

/-! ### Validity -/

/-- The file name is put into the module of a component at most once, between single quotes in the
statement for its style. There it is read back as it is, with a dash and the stamp behind it,
exactly if it stands for itself. A name that moreover can end neither a template nor a comment is
read there in every way to divide the module into input elements, and does not decide whether it is
a module, whatever the content, the framework and the stamp are. -/
theorem fileName_decides_nothing (source framework : String) (stamp : Nat) :
    ((blocks source).style.getD "" = "" → ∀ fileName fileName',
      desugar fileName source framework stamp = desugar fileName' source framework stamp) ∧
    ((blocks source).style.getD "" ≠ "" → ∃ before behind : String, ∀ fileName,
      desugar fileName source framework stamp =
        before ++ "  style.setAttribute('data-preview-component', '" ++
          styleLabel fileName stamp ++ "'" ++ behind ∧
      (scan ('\'' :: ((styleLabel fileName stamp).toList ++ '\'' :: behind.toList)) =
        .fine (.string (.ofText (styleLabel fileName stamp))) behind.toList ↔
          StandsForItself fileName.toList) ∧
      (IsInert fileName.toList → ∀ es,
        Divides (.start true) 0 (desugar fileName source framework stamp).toList es →
          literalOf (styleLabel fileName stamp) ∈ es)) ∧
    ∀ (grammar : ModuleGrammar) (fileName fileName' : String), IsInert fileName.toList →
      IsInert fileName'.toList →
        (grammar.Parses (desugar fileName source framework stamp) ↔
          grammar.Parses (desugar fileName' source framework stamp)) := by
  by_cases hstyle : (blocks source).style.getD "" = ""
  · have heq : ∀ fileName fileName',
        desugar fileName source framework stamp = desugar fileName' source framework stamp := by
      intro fileName fileName'
      unfold desugar
      simp only [if_pos hstyle]
    exact ⟨fun _ => heq, fun h => absurd hstyle h, fun grammar fileName fileName' _ _ => by
      rw [heq fileName fileName']⟩
  obtain ⟨before, hticked, hhead, hdesugar⟩ := exists_desugar_eq framework stamp hstyle
  have htoList (fileName : String) : (desugar fileName source framework stamp).toList =
      before.toList ++ '\n' :: (naming (styleLabel fileName stamp)).toList := by
    rw [hdesugar]
    simp
  have hbehind (fileName : String) : behindHashbang (desugar fileName source framework stamp) =
      before.toList ++ '\n' :: (naming (styleLabel fileName stamp)).toList := by
    rw [behindHashbang_of_head?, htoList]
    rw [htoList, List.head?_append, hhead, Option.some_or]
  refine ⟨fun h => absurd h hstyle, fun _ => ⟨before ++ "\n", ")" ++ appending,
    fun fileName => ⟨?_, ?_, fun hinert es h => ?_⟩⟩, fun grammar fileName fileName' h h' => ?_⟩
  · rw [hdesugar]
    unfold naming
    simp only [String.append_assoc]
  · have hlabel : StandsForItself (styleLabel fileName stamp).toList ↔
        StandsForItself fileName.toList := standsForItself_styleLabel_iff
    rw [← hlabel, ← scan_quoted_iff, String.ofList_toList]
  · rw [htoList] at h
    exact (exists_exchanged_of_divides hticked (hinert.styleLabel stamp) (hinert.styleLabel stamp)
      h).1
  · have hparses {fileName fileName' : String} (h : IsInert fileName.toList)
        (h' : IsInert fileName'.toList)
        (hparses : grammar.Parses (desugar fileName source framework stamp)) :
        grammar.Parses (desugar fileName' source framework stamp) := by
      obtain ⟨es, hes, hmodule⟩ := hparses
      rw [hbehind] at hes
      obtain ⟨-, es', hes', hexchanged⟩ :=
        exists_exchanged_of_divides hticked (h.styleLabel stamp) (h'.styleLabel stamp) hes
      exact ⟨es', (hbehind fileName').symm ▸ hes', grammar.isModule_of_exchanged hexchanged hmodule⟩
    exact ⟨hparses h h', hparses h' h⟩

theorem fileName_decides_nothing_brackets :
    IsInert "a.vue".toList ∧ IsInert "b.vue".toList ∧
      bracketGrammar.Parses (desugar "a.vue" "<style>p</style>" "vue" 1) ∧
      bracketGrammar.Parses (desugar "b.vue" "<style>p</style>" "vue" 1) := by
  have ha : IsInert "a.vue".toList := ⟨by decide +kernel, by decide +kernel, by decide +kernel⟩
  have hb : IsInert "b.vue".toList := ⟨by decide +kernel, by decide +kernel, by decide +kernel⟩
  have hparses : bracketGrammar.Parses (desugar "a.vue" "<style>p</style>" "vue" 1) := by
    have hmodule : ((tokens? 100 (.start true)
        (behindHashbang (desugar "a.vue" "<style>p</style>" "vue" 1))).bind
          (·.foldlM bracketStep [])) = some [] := by
      rw [behindHashbang, toList_desugar blocks_style (by decide), toList_scriptModule_none,
        toList_styleStatement]
      decide +kernel
    obtain ⟨es, hes, hmodule⟩ := Option.bind_eq_some_iff.1 hmodule
    exact ⟨es, divides_of_tokens? hes, hmodule⟩
  exact ⟨ha, hb, hparses,
    ((fileName_decides_nothing "<style>p</style>" "vue" 1).2.2 bracketGrammar _ _ ha hb).1 hparses⟩

/-- A quote in the name of a source file ends the literal too soon. The module of the same content
under a name without the quote can be read. -/
theorem quote_in_fileName :
    (SourceFile.ofText? "its.vue" "<style>p</style>").isSome = true ∧
    (SourceFile.ofText? "it's.vue" "<style>p</style>").isSome = true ∧
    (Program.parse "its.vue" (desugar "its.vue" "<style>p</style>" "vue" 1)).isOk = true ∧
    (Program.parse "it's.vue" (desugar "it's.vue" "<style>p</style>" "vue" 1)).isOk = false := by
  refine ⟨by decide +kernel, by decide +kernel, ?_, ?_⟩
  · rw [Program.parse, toList_desugar blocks_style (by decide), toList_scriptModule_none,
      toList_styleStatement]
    decide +kernel
  · rw [Program.parse, toList_desugar blocks_style (by decide), toList_scriptModule_none,
      toList_styleStatement]
    decide +kernel

/-- A script that leaves a comment or a template open makes a module under a name that ends it, and
none under another name. -/
theorem open_script_ended_by_fileName :
    (Program.parse "a.vue" (desugar "*/;//.vue" "<script>(()=>\x7b/*</script><style>p</style>"
      "vue" 1)).isOk = true ∧
    (Program.parse "a.vue" (desugar "a.vue" "<script>(()=>\x7b/*</script><style>p</style>"
      "vue" 1)).isOk = false ∧
    (Program.parse "a.vue" (desugar "`//.vue" "<script>x=`</script><style>;(()=>\x7b</style>"
      "vue" 1)).isOk = true ∧
    (Program.parse "a.vue" (desugar "a.vue" "<script>x=`</script><style>;(()=>\x7b</style>"
      "vue" 1)).isOk = false := by
  have hcomment : blocks "<script>(()=>\x7b/*</script><style>p</style>" =
    ⟨none, some ⟨"(()=>\x7b/*", false⟩, some "p"⟩ := by decide +kernel
  have htemplate : blocks "<script>x=`</script><style>;(()=>\x7b</style>" =
    ⟨none, some ⟨"x=`", false⟩, some ";(()=>\x7b"⟩ := by decide +kernel
  refine ⟨?_, ?_, ?_, ?_⟩
  · rw [Program.parse, toList_desugar hcomment (by decide), toList_scriptModule_plain (by decide),
      toList_styleStatement]
    decide +kernel
  · rw [Program.parse, toList_desugar hcomment (by decide), toList_scriptModule_plain (by decide),
      toList_styleStatement]
    decide +kernel
  · rw [Program.parse, toList_desugar htemplate (by decide), toList_scriptModule_plain (by decide),
      toList_styleStatement]
    decide +kernel
  · rw [Program.parse, toList_desugar htemplate (by decide), toList_scriptModule_plain (by decide),
      toList_styleStatement]
    decide +kernel

end LivePreview.Component
