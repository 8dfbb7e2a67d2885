import LivePreview.ModuleReader
import LivePreview.Proofs.Text.Search
import Mathlib.Data.List.Sublists

/-!
# Modules read by lines

A reader of modules whose imports stand in front of everything else, each on a line of its own, with
the names in braces and the module in single quotes. Besides these lines it looks at the first line,
and for lines that open a default export. That is enough to know of the grammar of modules what
readers are taken to know.

## Main definitions

* `LivePreview.ModuleReader.byLines`: the reader.
-/

namespace LivePreview.ModuleReader

open Component FactoryImport

/-- The lines of a text. -/
def linesOf (text : String) : List (List Char) := text.toList.splitOn '\n'

/-- What a line imports, if it is an import. -/
def importsOnLine? (line : List Char) : Option (List (String × String)) := do
  let rest ← "import \x7b ".toList.isPrefixOf? line
  let (names, source) ← Text.cutAt " \x7d from '".toList rest
  if source.getLast? = some '\'' then
    return (names.splitOn ',').map fun name =>
      (String.ofList (name.dropWhile (· == ' ')), String.ofList source.dropLast)
  else none

/-- What the lines import in front of the first one that is neither an import nor empty. -/
def leadingImports : List (List Char) → List (String × String)
  | [] => []
  | line :: lines =>
    if line = [] then leadingImports lines
    else match importsOnLine? line with
      | some names => names ++ leadingImports lines
      | none => []

/-- What lines are as a module. -/
def outlineOfLines (lines : List (List Char)) : Outline :=
  ⟨lines.head?.any ("#!".toList.isPrefixOf ·), leadingImports lines, [],
    lines.contains exportOpening.toList⟩

variable {text framework : String} {names : List String} {line : List Char}
  {lines more : List (List Char)}

/-! ### Lines -/

theorem linesOf_append_lineBreak (front rest : String) :
    linesOf (front ++ ("\n" ++ rest)) = linesOf front ++ linesOf rest := by
  have hchars : (front ++ ("\n" ++ rest)).toList = front.toList ++ '\n' :: rest.toList := by simp
  rw [linesOf, hchars, List.splitOn_append_cons_self, linesOf, linesOf]

theorem linesOf_ne_nil (text : String) : linesOf text ≠ [] := List.splitOn_ne_nil _ _

theorem linesOf_lineBreak_append (text : String) : linesOf ("\n" ++ text) = [] :: linesOf text := by
  rw [← String.empty_append (s := "\n" ++ text), linesOf_append_lineBreak]
  rfl

/-- A line that is no import ends the imports. -/
theorem leadingImports_append_cons (hempty : line ≠ []) (hline : importsOnLine? line = none) :
    (lines : List (List Char)) → leadingImports (lines ++ line :: more) = leadingImports lines
  | [] => by simp [leadingImports, hempty, hline]
  | first :: lines => by
      rw [List.cons_append, leadingImports, leadingImports,
        leadingImports_append_cons hempty hline lines]

/-- An empty line behind the others imports nothing. -/
theorem leadingImports_append_empty :
    (lines : List (List Char)) → leadingImports (lines ++ [[]]) = leadingImports lines
  | [] => rfl
  | first :: lines => by
      rw [List.cons_append, leadingImports, leadingImports, leadingImports_append_empty lines]

theorem head?_append_of_ne_nil (h : lines ≠ []) : (lines ++ more).head? = lines.head? := by
  cases lines with
  | nil => exact absurd rfl h
  | cons line lines => rfl

/-- Behind the opening of a default export nothing counts. -/
theorem outlineOfLines_append_opening (lines more : List (List Char)) :
    outlineOfLines (lines ++ exportOpening.toList :: more) =
      outlineOfLines (lines ++ [exportOpening.toList]) := by
  have hhead : (lines ++ exportOpening.toList :: more).head? =
      (lines ++ [exportOpening.toList]).head? := by
    cases lines <;> rfl
  have himports (more : List (List Char)) :
      leadingImports (lines ++ exportOpening.toList :: more) = leadingImports lines :=
    leadingImports_append_cons (by decide) (by decide +kernel) lines
  rw [outlineOfLines, outlineOfLines, hhead, himports, himports]
  simp

/-- An empty line in front does not count, unless the first line named what runs the module. -/
theorem outlineOfLines_cons_nil (h : (outlineOfLines lines).hashbang = false) :
    outlineOfLines ([] :: lines) = outlineOfLines lines := by
  have hhashbang : lines.head?.any ("#!".toList.isPrefixOf ·) = false := h
  rw [outlineOfLines, outlineOfLines, hhashbang, leadingImports, if_pos rfl]
  rfl

/-- An empty line behind the others does not count. -/
theorem outlineOfLines_append_nil (h : lines ≠ []) :
    outlineOfLines (lines ++ [[]]) = outlineOfLines lines := by
  have hopening : (lines ++ [[]]).contains exportOpening.toList =
      lines.contains exportOpening.toList := by
    rw [List.contains_append]
    exact Bool.or_false _
  rw [outlineOfLines, outlineOfLines, head?_append_of_ne_nil h, leadingImports_append_empty,
    hopening]

/-! ### Import lines -/

/-- The line that imports names. -/
def importChars (framework : String) (names : List String) : List Char :=
  "import \x7b ".toList ++ ((", ".intercalate names).toList ++
    (" \x7d from '".toList ++ (framework.toList ++ ['\''])))

theorem importChars_eq (framework : String) (names : List String) :
    importChars framework names = "import \x7b ".toList ++ ((", ".intercalate names).toList ++
      (" \x7d from '".toList ++ (framework.toList ++ ['\'']))) := rfl

/-- What a line imports, by the list of its names. -/
theorem importsOnLine?_eq_some (framework : String) {list : List Char} {names : List String}
    (hcut : ∀ rest, Text.cutAt " \x7d from '".toList (list ++ (" \x7d from '".toList ++ rest)) =
      some (list, rest))
    (hnames : (list.splitOn ',').map (fun name => String.ofList (name.dropWhile (· == ' '))) =
      names) :
    importsOnLine? ("import \x7b ".toList ++ (list ++ (" \x7d from '".toList ++
      (framework.toList ++ ['\''])))) = some (names.map (·, framework)) := by
  rw [importsOnLine?, List.isPrefixOf?_eq_some_iff_append_eq.2 rfl]
  simp only [Option.bind_eq_bind, Option.bind_some, hcut]
  simp [← hnames, Function.comp_def]

/-- The names that an import line can have. -/
theorem mem_of_sublist (h : names.Sublist [factoryName, fragmentName]) (hempty : names ≠ []) :
    names = [factoryName] ∨ names = [fragmentName] ∨ names = [factoryName, fragmentName] := by
  have hmem : names ∈ [[], [fragmentName], [factoryName], [factoryName, fragmentName]] :=
    List.mem_sublists'.2 h
  simp only [List.mem_cons, List.not_mem_nil, or_false, hempty, false_or] at hmem
  tauto

theorem importsOnLine?_importChars (framework : String)
    (h : names.Sublist [factoryName, fragmentName]) (hempty : names ≠ []) :
    importsOnLine? (importChars framework names) = some (names.map (·, framework)) := by
  rcases mem_of_sublist h hempty with rfl | rfl | rfl
  · exact importsOnLine?_eq_some framework (fun _ => rfl) (by decide +kernel)
  · exact importsOnLine?_eq_some framework (fun _ => rfl) (by decide +kernel)
  · exact importsOnLine?_eq_some framework (fun _ => rfl) (by decide +kernel)

theorem linesOf_importLine_append (hframework : IsQuotable framework)
    (h : names.Sublist [factoryName, fragmentName]) (hempty : names ≠ []) (text : String) :
    linesOf (importLine framework names ++ text) = importChars framework names :: linesOf text := by
  have hline : '\n' ∉ importChars framework names := by
    have hnames : '\n' ∉ (", ".intercalate names).toList := by
      rcases mem_of_sublist h hempty with rfl | rfl | rfl <;> decide +kernel
    have hbreak : '\n' ∉ framework.toList := fun hmem =>
      absurd (hframework _ hmem).2.2 (by decide)
    simp only [importChars_eq, List.mem_append, not_or]
    exact ⟨by decide, hnames, by decide, hbreak, by decide⟩
  have hchars : importLine framework names ++ text =
      String.ofList (importChars framework names) ++ ("\n" ++ text) := by
    rw [← String.toList_inj]
    simp [importLine, importChars_eq]
  rw [hchars, linesOf_append_lineBreak, linesOf, String.toList_ofList,
    List.splitOn_eq_singleton hline, List.singleton_append]

theorem outlineOfLines_importChars_cons (framework : String)
    (h : names.Sublist [factoryName, fragmentName]) (hempty : names ≠ [])
    (hhashbang : (outlineOfLines lines).hashbang = false) :
    outlineOfLines (importChars framework names :: lines) =
      { outlineOfLines lines with
        imports := names.map (·, framework) ++ (outlineOfLines lines).imports } := by
  have hhead : (importChars framework names :: lines).head?.any ("#!".toList.isPrefixOf ·) =
      (outlineOfLines lines).hashbang := hhashbang ▸ rfl
  have himports : leadingImports (importChars framework names :: lines) =
      names.map (·, framework) ++ leadingImports lines := by
    have hline : importChars framework names ≠ [] := by simp [importChars_eq]
    rw [leadingImports, if_neg hline, importsOnLine?_importChars framework h hempty]
  have hopening : (importChars framework names :: lines).contains exportOpening.toList =
      lines.contains exportOpening.toList := rfl
  rw [outlineOfLines, hhead, himports, hopening]
  rfl

/-! ### Further statements -/

/-- Behind a line that is no import nothing is imported. -/
theorem imports_append_line {line : String} (hbreak : '\n' ∉ line.toList)
    (hempty : line.toList ≠ []) (hline : importsOnLine? line.toList = none) (text more : String) :
    (outlineOfLines (linesOf (text ++ ("\n" ++ (line ++ ("\n" ++ more)))))).imports =
      (outlineOfLines (linesOf text)).imports := by
  have hlines : linesOf line = [line.toList] := List.splitOn_eq_singleton hbreak
  rw [linesOf_append_lineBreak, linesOf_append_lineBreak, hlines]
  exact leadingImports_append_cons hempty hline _

theorem exists_member_eq {template member : String} (h : member ∈ renderingMembers template) :
    ∃ more, member = "\n" ++ more := by
  rcases List.mem_pair.1 h with rfl | rfl
  · refine ⟨"  render() \x7b\n    return " ++ renderCall template ++ "\n  \x7d", ?_⟩
    change "\n  render() \x7b\n    return " ++ renderCall template ++ "\n  \x7d" = _
    rw [← String.append_assoc, ← String.append_assoc]
    rfl
  · refine ⟨"  setup() \x7b\n    return () => " ++ renderCall template ++ "\n  \x7d", ?_⟩
    rw [← String.append_assoc, ← String.append_assoc]
    rfl

theorem exists_styleStatement_eq (fileName style : String) (stamp : Nat) :
    ∃ more, styleStatement fileName style stamp = "\n" ++ (";(() => \x7b" ++ ("\n" ++ more)) := by
  have hopening : "\n;(() => \x7b\n  const style = document.createElement('style')\n" =
      "\n" ++ (";(() => \x7b" ++
        ("\n" ++ "  const style = document.createElement('style')\n")) := rfl
  delta styleStatement
  rw [hopening]
  simp only [String.append_assoc]
  exact ⟨_, rfl⟩

/-! ### The reader -/

/-- The reader. -/
def byLines : ModuleReader where
  read text := some (outlineOfLines (linesOf text))
  OpensDefault front rest := (∃ lines, linesOf front = lines ++ [exportOpening.toList]) ∧
    (rest = "" ∨ ∃ more, rest = "\n" ++ more)
  read_empty := by decide +kernel
  read_lineBreak_append h hhashbang := by
    obtain rfl := Option.some.inj h
    rw [linesOf_lineBreak_append, outlineOfLines_cons_nil hhashbang]
  read_append_lineBreak {text o} h := by
    obtain rfl := Option.some.inj h
    rw [← String.append_empty (s := "\n"), linesOf_append_lineBreak]
    exact congrArg some (outlineOfLines_append_nil (linesOf_ne_nil text))
  read_importLine_append h hhashbang hframework hsublist hempty _ := by
    obtain rfl := Option.some.inj h
    rw [linesOf_importLine_append hframework hsublist hempty,
      outlineOfLines_importChars_cons _ hsublist hempty hhashbang]
  read_append_export {text template member o} h hdefault hmember := by
    obtain rfl := Option.some.inj h
    obtain ⟨more, rfl⟩ := exists_member_eq hmember
    refine ⟨_, rfl, ?_⟩
    have hparts : text ++ ("\n" ++ exportOpening ++ ("\n" ++ more) ++ "\n\x7d\n") =
        text ++ ("\n" ++ (exportOpening ++ ("\n" ++ (more ++ "\n\x7d\n")))) := by
      simp only [String.append_assoc]
    rw [hparts]
    exact imports_append_line (by decide) (by decide) (by decide +kernel) text _
  read_member_append {front rest} template o h hopens := by
    obtain rfl := Option.some.inj h
    obtain ⟨⟨lines, hfront⟩, hrest⟩ := hopens
    obtain ⟨more, hmember⟩ := exists_member_eq (renderMember_mem template)
    have hadded : linesOf (front ++ (renderMember (renderCall template) ++ "," ++ rest)) =
        lines ++ exportOpening.toList :: linesOf (more ++ ("," ++ rest)) := by
      rw [hmember, String.append_assoc, String.append_assoc, linesOf_append_lineBreak, hfront,
        List.append_assoc, List.singleton_append]
    have hbefore : ∃ behind, linesOf (front ++ rest) = lines ++ exportOpening.toList :: behind := by
      rcases hrest with rfl | ⟨more, rfl⟩
      · exact ⟨[], by rw [String.append_empty, hfront]⟩
      · exact ⟨linesOf more, by
          rw [linesOf_append_lineBreak, hfront, List.append_assoc, List.singleton_append]⟩
    obtain ⟨behind, hbehind⟩ := hbefore
    rw [hadded, hbehind, outlineOfLines_append_opening, ← outlineOfLines_append_opening _ behind]
  read_append_style {text fileName} style stamp o h _ := by
    obtain rfl := Option.some.inj h
    obtain ⟨more, hstyle⟩ := exists_styleStatement_eq fileName style stamp
    refine ⟨_, rfl, ?_⟩
    rw [hstyle]
    exact imports_append_line (by decide) (by decide) (by decide +kernel) text _

end LivePreview.ModuleReader
