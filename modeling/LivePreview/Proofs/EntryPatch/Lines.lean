import LivePreview.EntryPatch.Reader
import LivePreview.Proofs.FactoryImport.Lines

/-!
# Entries read by lines

A reader of entries that looks for names at the start of lines: those of an import in braces, and
that of a constant. A line on which nothing else is written than a statement may be replaced.

## Main definitions

* `LivePreview.EntryReader.byLines`: the reader.
-/

namespace LivePreview.EntryReader

open EntryPatch ModuleReader

/-- The names that a line declares. -/
def namesOnLine (line : List Char) : List String :=
  match "const ".toList.isPrefixOf? line with
  | some rest => [String.ofList (rest.takeWhile (· ≠ ' '))]
  | none => ((importsOnLine? line).getD []).map Prod.fst

/-- The names that the lines of a text declare. -/
def namesOf (text : String) : List String := (linesOf text).flatMap namesOnLine

variable {given names : List String} {margin text : String}

/-! ### Texts without line breaks -/

theorem notMem_of_mem_mountNames {name : String} (h : name ∈ mountNames) :
    '\n' ∉ name.toList ∧ ' ' ∉ name.toList := by
  revert name
  decide

theorem notMem_of_isReference (h : IsReference text) : '\n' ∉ text.toList := by
  induction h with
  | name name hname => exact (notMem_of_mem_mountNames hname).1
  | member _ name hname ih => simp [ih, (notMem_of_mem_mountNames hname).1]

theorem notMem_of_isOperand (hgiven : ∀ text ∈ given, '\n' ∉ text.toList)
    (h : IsOperand given text) : '\n' ∉ text.toList := by
  cases h with
  | reference htext => exact notMem_of_isReference htext
  | quoted htext =>
    have hbreak (hmem) : False := absurd (htext '\n' hmem).2.2 (by decide)
    simpa using hbreak
  | given htext => exact hgiven _ htext

theorem notMem_of_isCall (hgiven : ∀ text ∈ given, '\n' ∉ text.toList)
    (h : IsCall given text) : '\n' ∉ text.toList := by
  cases h with
  | bare hcallee => simpa using notMem_of_isReference hcallee
  | applied hcallee hargument =>
    simp [notMem_of_isReference hcallee, notMem_of_isOperand hgiven hargument]

theorem notMem_of_isExpression (hgiven : ∀ text ∈ given, '\n' ∉ text.toList)
    (h : IsExpression given text) : '\n' ∉ text.toList := by
  cases h with
  | operand htext => exact notMem_of_isOperand hgiven htext
  | call htext => exact notMem_of_isCall hgiven htext
  | untyped htext => simpa using notMem_of_isReference htext
  | both hfirst hsecond => simp [notMem_of_isReference hfirst, notMem_of_isReference hsecond]
  | defined name hname => simpa using (notMem_of_mem_mountNames hname).1

/-! ### Names by lines -/

theorem namesOf_append_lineBreak (front rest : String) :
    namesOf (front ++ ("\n" ++ rest)) = namesOf front ++ namesOf rest := by
  rw [namesOf, linesOf_append_lineBreak, List.flatMap_append]
  rfl

theorem namesOf_of_notMem (h : '\n' ∉ text.toList) : namesOf text = namesOnLine text.toList := by
  rw [namesOf, linesOf, List.splitOn_eq_singleton h, List.flatMap_singleton]

theorem namesOnLine_eq_nil {line : List Char} (hconst : ¬"const ".toList <+: line)
    (himport : ¬"import \x7b ".toList <+: line) : namesOnLine line = [] := by
  rw [namesOnLine, Text.isPrefixOf?_eq_none_iff.2 hconst, importsOnLine?,
    Text.isPrefixOf?_eq_none_iff.2 himport]
  rfl

/-- A line that starts with a blank declares nothing. -/
theorem namesOnLine_cons {c : Char} (h : Text.isBlank c = true) (line : List Char) :
    namesOnLine (c :: line) = [] := by
  refine namesOnLine_eq_nil (fun hconst => ?_) fun himport => ?_
  · obtain rfl : 'c' = c := (List.cons_prefix_cons.1 hconst).1
    exact absurd h (by decide)
  · obtain rfl : 'i' = c := (List.cons_prefix_cons.1 himport).1
    exact absurd h (by decide)

theorem namesOf_singleton_append_sublist {c : Char} (h : Text.isBlank c = true) (text : String) :
    (namesOf (String.singleton c ++ text)).Sublist (namesOf text) := by
  by_cases hc : c = '\n'
  · have htext : String.singleton c ++ text = "" ++ ("\n" ++ text) := by
      rw [hc, String.empty_append]
      rfl
    have hnil : namesOf "" = [] := rfl
    rw [htext, namesOf_append_lineBreak, hnil, List.nil_append]
  · by_cases hbreak : '\n' ∈ text.toList
    · obtain ⟨line, rest, htext, hline⟩ := List.eq_append_cons_of_mem hbreak
      have htext : text = String.ofList line ++ ("\n" ++ String.ofList rest) := by
        rw [← String.toList_inj, htext]
        simp
      have hnone : namesOf (String.singleton c ++ String.ofList line) = [] := by
        rw [namesOf_of_notMem (by simpa [Ne.symm hc] using hline)]
        simpa using namesOnLine_cons h line
      rw [htext, ← String.append_assoc, namesOf_append_lineBreak, namesOf_append_lineBreak, hnone]
      exact List.sublist_append_right _ _
    · rw [namesOf_of_notMem (by simpa [Ne.symm hc] using hbreak)]
      simp [namesOnLine_cons h]

/-- Behind blanks a text declares no more than without them. -/
theorem namesOf_blanks_append_sublist {blanks : String}
    (h : ∀ c ∈ blanks.toList, Text.isBlank c = true) (text : String) :
    (namesOf (blanks ++ text)).Sublist (namesOf text) := by
  rw [← String.ofList_toList (s := blanks)]
  generalize blanks.toList = l at h
  induction l with
  | nil => simp
  | cons c l ih =>
    have hcons : String.ofList (c :: l) ++ text =
        String.singleton c ++ (String.ofList l ++ text) := by
      rw [← String.toList_inj]
      simp
    rw [hcons]
    exact (namesOf_singleton_append_sublist (h c List.mem_cons_self) _).trans
      (ih fun d hd => h d (List.mem_cons_of_mem c hd))

/-! ### Names of statements -/

theorem exists_name_append (h : IsReference text) :
    ∃ name ∈ mountNames, ∃ rest, text = name ++ rest := by
  induction h with
  | name name hname => exact ⟨name, hname, "", by simp⟩
  | member _ name _ ih =>
    obtain ⟨first, hfirst, rest, rfl⟩ := ih
    exact ⟨first, hfirst, rest ++ "." ++ name, by simp only [String.append_assoc]⟩

theorem namesOnLine_of_isReference (h : IsReference text) (rest : String) :
    namesOnLine (text ++ rest).toList = [] := by
  obtain ⟨name, hname, more, rfl⟩ := exists_name_append h
  simp only [mountNames, List.mem_cons, List.not_mem_nil, or_false] at hname
  refine namesOnLine_eq_nil ?_ ?_ <;>
    rcases hname with rfl | rfl | rfl | rfl | rfl | rfl | rfl | rfl | rfl | rfl <;> simp

theorem namesOf_of_isCall (hgiven : ∀ text ∈ given, '\n' ∉ text.toList) (h : IsCall given text) :
    namesOf text = [] := by
  rw [namesOf_of_notMem (notMem_of_isCall hgiven h)]
  cases h with
  | bare hcallee => exact namesOnLine_of_isReference hcallee _
  | applied hcallee _ =>
    rw [String.append_assoc, String.append_assoc]
    exact namesOnLine_of_isReference hcallee _

/-- A margin that is more than the start of a line. -/
def Indents (margin : String) : Prop :=
  ∃ left, margin = left ++ " " ∧ ∀ c ∈ left.toList, Text.isBlank c = true

theorem indents_append (h : ∀ c ∈ margin.toList, Text.isBlank c = true) :
    Indents (margin ++ "  ") := by
  have htwo : ("  " : String) = " " ++ " " := rfl
  refine ⟨margin ++ " ", by rw [htwo, String.append_assoc], fun c hc => ?_⟩
  rw [String.toList_append] at hc
  rcases List.mem_append.1 hc with hc | hc
  · exact h c hc
  · exact List.mem_singleton.1 hc ▸ by decide

theorem Indents.isBlank (h : Indents margin) : ∀ c ∈ margin.toList, Text.isBlank c = true := by
  obtain ⟨left, rfl, hleft⟩ := h
  intro c hc
  rw [String.toList_append] at hc
  rcases List.mem_append.1 hc with hc | hc
  · exact hleft c hc
  · exact List.mem_singleton.1 hc ▸ by decide

theorem Indents.namesOf_append (h : Indents margin) (htext : namesOf (" " ++ text) = []) :
    namesOf (margin ++ text) = [] := by
  obtain ⟨left, rfl, hleft⟩ := h
  rw [String.append_assoc]
  exact List.sublist_nil.1 (htext ▸ namesOf_blanks_append_sublist hleft _)

theorem namesOf_blank_append (h : '\n' ∉ text.toList) : namesOf (" " ++ text) = [] := by
  rw [namesOf_of_notMem (by simpa using h), String.toList_append]
  exact namesOnLine_cons (by decide) _

/-- A block declares what the lines in it declare. -/
theorem namesOf_block {front test body : String}
    (hfront : namesOf (front ++ ("if (" ++ test ++ ") \x7b")) = [])
    (hmargin : ∀ c ∈ margin.toList, Text.isBlank c = true) :
    namesOf (front ++ ("if (" ++ test ++ ") \x7b\n" ++ (margin ++ "  ") ++ body ++ "\n" ++
      margin ++ "\x7d")) = namesOf (margin ++ "  " ++ body) := by
  have hbreak : ") \x7b\n" = ") \x7b" ++ "\n" := rfl
  have hclosing : namesOf (margin ++ "\x7d") = [] :=
    List.sublist_nil.1 (namesOf_blanks_append_sublist hmargin "\x7d")
  have htext : front ++ ("if (" ++ test ++ ") \x7b\n" ++ (margin ++ "  ") ++ body ++ "\n" ++
      margin ++ "\x7d") = front ++ ("if (" ++ test ++ ") \x7b") ++
        ("\n" ++ (margin ++ "  " ++ body ++ ("\n" ++ (margin ++ "\x7d")))) := by
    rw [hbreak]
    simp only [String.append_assoc]
  rw [htext, namesOf_append_lineBreak, namesOf_append_lineBreak, hfront, hclosing, List.nil_append,
    List.append_nil]

/-- On lines that are indented nothing is declared. -/
theorem namesOf_blank_append_statements (hgiven : ∀ text ∈ given, '\n' ∉ text.toList)
    (h : AreStatements given margin text names) :
    Indents margin → namesOf (" " ++ text) = [] := by
  induction h with
  | call htext => exact fun _ => namesOf_blank_append (notMem_of_isCall hgiven htext)
  | block htest _ ih =>
    intro hmargin
    have hbody := indents_append hmargin.isBlank
    rw [namesOf_block (namesOf_blank_append ?_) hmargin.isBlank]
    · exact hbody.namesOf_append (ih hbody)
    · simpa using notMem_of_isExpression hgiven htest
  | constant name hname hvalue _ ih =>
    intro hmargin
    rw [String.append_assoc, String.append_assoc, ← String.append_assoc, namesOf_append_lineBreak,
      hmargin.namesOf_append (ih hmargin), List.append_nil]
    refine namesOf_blank_append ?_
    simp [(notMem_of_mem_mountNames hname).1, notMem_of_isExpression hgiven hvalue]
  | append _ _ ihfirst ihrest =>
    intro hmargin
    rw [String.append_assoc, String.append_assoc, ← String.append_assoc, namesOf_append_lineBreak,
      ihfirst hmargin, hmargin.namesOf_append (ihrest hmargin)]
    rfl

theorem namesOf_constant {name value : String} (hgiven : ∀ text ∈ given, '\n' ∉ text.toList)
    (hname : name ∈ mountNames) (hvalue : IsExpression given value) :
    namesOf ("const " ++ name ++ " = " ++ value) = [name] := by
  obtain ⟨hbreak, hblank⟩ := notMem_of_mem_mountNames hname
  rw [namesOf_of_notMem (by simp [hbreak, notMem_of_isExpression hgiven hvalue])]
  have hline : ("const " ++ name ++ " = " ++ value).toList =
      "const ".toList ++ (name.toList ++ ' ' :: ("= " ++ value).toList) := by
    simp
  have hname : (name.toList ++ ' ' :: ("= " ++ value).toList).takeWhile (· ≠ ' ') = name.toList :=
    Text.takeWhile_append_cons (fun c hc => decide_eq_true fun h => hblank (h ▸ hc)) (by decide)
  rw [hline, namesOnLine, List.isPrefixOf?_eq_some_iff_append_eq.2 rfl]
  simp only [hname, String.ofList_toList]

/-- Lines declare no more names than the statements on them. -/
theorem namesOf_sublist (hgiven : ∀ text ∈ given, '\n' ∉ text.toList)
    (h : AreStatements given margin text names) :
    (∀ c ∈ margin.toList, Text.isBlank c = true) → (namesOf text).Sublist names := by
  induction h with
  | call htext => exact fun _ => by rw [namesOf_of_isCall hgiven htext]
  | @block _ test _ _ htest hbody _ =>
    intro hmargin
    have hindents := indents_append hmargin
    have hfront : namesOf ("" ++ ("if (" ++ test ++ ") \x7b")) = [] := by
      rw [String.empty_append,
        namesOf_of_notMem (by simpa using notMem_of_isExpression hgiven htest)]
      exact namesOnLine_eq_nil (by simp) (by simp)
    have hblock := (namesOf_block hfront hmargin).trans (hindents.namesOf_append
      (namesOf_blank_append_statements hgiven hbody hindents))
    rw [String.empty_append] at hblock
    rw [hblock]
  | constant name hname hvalue _ ih =>
    intro hmargin
    rw [String.append_assoc, String.append_assoc, namesOf_append_lineBreak,
      namesOf_constant hgiven hname hvalue]
    exact ((namesOf_blanks_append_sublist hmargin _).trans (ih hmargin)).cons_cons name
  | append _ _ ihfirst ihrest =>
    intro hmargin
    rw [String.append_assoc, String.append_assoc, namesOf_append_lineBreak]
    exact (ihfirst hmargin).append
      ((namesOf_blanks_append_sublist hmargin _).trans (ihrest hmargin))

/-! ### The reader -/

/-- Whether a line starts behind a text. -/
def EndsLine (front : String) : Prop := ∀ c ∈ front.toList.getLast?, c = '\n'

/-- Whether a line ends in front of a text. -/
def StartsLine (behind : String) : Prop := ∀ c ∈ behind.toList.head?, c = '\n'

theorem EndsLine.eq_empty_or {front : String} (h : EndsLine front) :
    front = "" ∨ ∃ lines, front = lines ++ "\n" := by
  rcases List.eq_nil_or_concat' front.toList with hnil | ⟨lines, c, hlines⟩
  · exact .inl (String.toList_eq_nil_iff.1 hnil)
  · obtain rfl := h c (by rw [hlines, List.getLast?_concat]; rfl)
    exact .inr ⟨String.ofList lines, by rw [← String.toList_inj, hlines]; simp⟩

theorem StartsLine.eq_empty_or {behind : String} (h : StartsLine behind) :
    behind = "" ∨ ∃ lines, behind = "\n" ++ lines := by
  cases hlines : behind.toList with
  | nil => exact .inl (String.toList_eq_nil_iff.1 hlines)
  | cons c lines =>
    obtain rfl := h c (by rw [hlines]; rfl)
    exact .inr ⟨String.ofList lines, by rw [← String.toList_inj, hlines]; simp⟩

/-- What is declared around a line, or around lines in its place. -/
theorem exists_namesOf_eq {before behind : String} (hbefore : EndsLine before)
    (hbehind : StartsLine behind) : ∃ front rest, ∀ text,
      namesOf (before ++ text ++ behind) = front ++ namesOf text ++ rest := by
  have hfront : ∃ front, ∀ text, namesOf (before ++ text) = front ++ namesOf text := by
    rcases hbefore.eq_empty_or with rfl | ⟨lines, rfl⟩
    · exact ⟨[], fun text => by rw [String.empty_append, List.nil_append]⟩
    · exact ⟨namesOf lines, fun text => by rw [String.append_assoc, namesOf_append_lineBreak]⟩
  have hrest : ∃ rest, ∀ text, namesOf (text ++ behind) = namesOf text ++ rest := by
    rcases hbehind.eq_empty_or with rfl | ⟨lines, rfl⟩
    · exact ⟨[], fun text => by rw [String.append_empty, List.append_nil]⟩
    · exact ⟨namesOf lines, fun text => namesOf_append_lineBreak text lines⟩
  obtain ⟨front, hfront⟩ := hfront
  obtain ⟨rest, hrest⟩ := hrest
  exact ⟨front, rest, fun text => by rw [hrest, hfront]⟩

theorem namesOf_importLine_append {framework : String} (hframework : IsQuotable framework)
    (text : String) : namesOf ("import \x7b createApp \x7d from '" ++ framework ++ "'\n" ++ text) =
      "createApp" :: namesOf text := by
  have hbreak : "'\n" = "'" ++ "\n" := rfl
  have hnone : '\n' ∉ framework.toList := fun hmem => absurd (hframework _ hmem).2.2 (by decide)
  have hline : ("import \x7b createApp \x7d from '" ++ framework ++ "'").toList =
      "import \x7b ".toList ++ ("createApp".toList ++ (" \x7d from '".toList ++
        (framework.toList ++ ['\'']))) := by
    simp
  have himports : importsOnLine? ("import \x7b ".toList ++ ("createApp".toList ++
      (" \x7d from '".toList ++ (framework.toList ++ ['\''])))) = some [("createApp", framework)] :=
    @importsOnLine?_eq_some framework "createApp".toList ["createApp"] (fun _ => rfl)
      (by decide +kernel)
  have hconst {rest : List Char} : "const ".toList.isPrefixOf? ("import \x7b ".toList ++ rest) =
      none := rfl
  rw [hbreak, ← String.append_assoc, String.append_assoc, namesOf_append_lineBreak,
    namesOf_of_notMem (by simpa using hnone), hline, namesOnLine, hconst, himports]
  rfl

/-- The reader. -/
def byLines : EntryReader where
  read text := some ⟨(linesOf text).head?.any ("#!".toList.isPrefixOf ·), namesOf text⟩
  Stands top given before statement behind := top = true ∧ EndsLine before ∧ StartsLine behind ∧
    statement ≠ "" ∧ '\n' ∉ statement.toList ∧ ∀ text ∈ given, '\n' ∉ text.toList
  read_importLine_append {text framework o} h hhashbang hframework := by
    obtain rfl := Option.some.inj h
    refine ⟨_, rfl, ?_⟩
    rw [namesOf_importLine_append hframework]
  read_append_statements h hstatements := by
    obtain rfl := Option.some.inj h
    refine ⟨_, rfl, ?_⟩
    rw [String.append_assoc, namesOf_append_lineBreak]
    refine (List.perm_append_comm.subperm).trans ?_
    exact ((namesOf_sublist (by simp) hstatements (by simp)).append_right _).subperm
  read_statements h hstands hmargin hstatements := by
    obtain rfl := Option.some.inj h
    obtain ⟨rfl, hbefore, hbehind, -, -, hgiven⟩ := hstands
    obtain ⟨front, rest, hnames⟩ := exists_namesOf_eq hbefore hbehind
    refine ⟨_, rfl, ?_⟩
    rw [hnames, hnames, if_pos rfl]
    have haround (more : List String) : (front ++ rest).Sublist (front ++ more ++ rest) :=
      (List.sublist_append_left front more).append_right rest
    rw [List.append_assoc front]
    refine (List.perm_append_comm_assoc _ _ _).subperm.trans ?_
    exact ((namesOf_sublist hgiven hstatements hmargin).append (haround _)).subperm
  stands_statements := by
    rintro top other given names more margin before statement between next behind statements
      ⟨-, -, hbehind, -⟩ ⟨rfl, hbefore, hnext, hne, hbreak, hmore⟩ - -
    refine ⟨rfl, ?_, hnext, hne, hbreak, hmore⟩
    have hbetween : between.toList ≠ [] := by
      intro hnil
      obtain ⟨c, rest, hchars⟩ := List.exists_cons_of_ne_nil (String.toList_eq_nil_iff.not.2 hne)
      obtain rfl := hbehind c (by simp [hnil, hchars])
      exact hbreak (hchars ▸ List.mem_cons_self)
    rw [EndsLine, String.toList_append, List.getLast?_append_of_ne_nil _ hbetween] at hbefore ⊢
    exact hbefore

theorem map_names_read (text : String) :
    (byLines.read text).map Reading.names = some (namesOf text) := rfl

end LivePreview.EntryReader
