import LivePreview.Config
import LivePreview.Proofs.EntryPatch
import LivePreview.Proofs.EntryPatch.Lines
import LivePreview.Proofs.Text.Places
import LivePreview.Script.Names
import LivePreview.Script.Parse

/-!
# Patched entries as modules

The patch of an entry puts an import line in front, statements behind, or statements in place of
mount calls. Where these can stand, the patched entry is a module, and it declares no name twice
that the entry did not. Mount calls are expanded from left to right; at each call the text is a
module again, in which the calls to come stand as they did.

They cannot stand in place of a mount call whose value is used, and they declare names once more if
the entry has them already.

## Main definitions

* `LivePreview.EntryPatch.Expands`: an expansion, one character or mount call after the other.
* `LivePreview.EntryReader.StandIn`: the mount calls of a text are statements of their own.
* `LivePreview.EntryReader.Admits`: an entry in which what the patch adds can stand.

## Main results

* `LivePreview.EntryPatch.MountCall.exists_expand_eq`: an expansion as statements.
* `LivePreview.EntryReader.exists_read_of_expands`: an expanded module is one.
* `LivePreview.EntryReader.exists_read_patch`: a patched entry is a module.
* `LivePreview.EntryReader.kept_mount_broken`: an entry whose patch is none.
-/

namespace LivePreview

namespace EntryPatch

variable {call : MountCall} {s behind : List Char}

/-! ### What is added -/

/-- The names that the expansion of a mount call declares. -/
def expansionNames : List String := ["appElement", "el", "app"]

section Texts

variable {given : List String} {margin : String}

theorem isReference_member (object name : String) (hobject : object ∈ mountNames)
    (hname : name ∈ mountNames) : IsReference (object ++ "." ++ name) :=
  .member (.name object hobject) name hname

theorem isReference_mounted : IsReference ("el" ++ "." ++ "__vue_app__") :=
  isReference_member _ _ (by decide) (by decide)

/-- The block that unmounts the application before. -/
theorem areStatements_unmount {test : String} (htest : IsExpression given test) :
    AreStatements given margin ("if (" ++ test ++ ") \x7b\n" ++ (margin ++ "  ") ++
      ("el" ++ "." ++ "__vue_app__" ++ "." ++ "unmount" ++ "()") ++ "\n" ++ margin ++ "\x7d") [] :=
  .block htest (.call (.bare (.member isReference_mounted _ (by decide))))

/-- The statements that create the application and mount it. -/
theorem areStatements_mount {creation selector : String} (hcreation : IsExpression given creation)
    (hselector : IsOperand given selector) :
    AreStatements given margin ("const " ++ "app" ++ " = " ++ creation ++ "\n" ++ margin ++
      ("app" ++ "." ++ "mount" ++ "(" ++ selector ++ ")")) ["app"] :=
  .constant "app" (by decide) hcreation
    (.call (.applied (isReference_member _ _ (by decide) (by decide)) hselector))

/-- Statements behind that which looks for the element. -/
theorem AreStatements.withElement {selector rest : String} {names : List String}
    (h : AreStatements given margin rest names) (hselector : IsOperand given selector) :
    AreStatements given margin ("const " ++ "appElement" ++ " = " ++
      ("document" ++ "." ++ "querySelector" ++ "(" ++ selector ++ ")") ++ "\n" ++ margin ++ rest)
      ("appElement" :: names) :=
  .constant "appElement" (by decide)
    (.call (.applied (isReference_member _ _ (by decide) (by decide)) hselector)) h

/-- Statements behind that which names the element with what is mounted on it. -/
theorem AreStatements.withMounted {rest : String} {names : List String}
    (h : AreStatements given margin rest names) :
    AreStatements given margin ("const " ++ "el" ++ " = " ++ ("appElement" ++ " as any") ++ "\n" ++
      margin ++ rest) ("el" :: names) :=
  .constant "el" (by decide) (.untyped (.name _ (by decide))) h

end Texts

set_option maxRecDepth 4000 in
/-- The mount that is added is statements that declare the element. -/
theorem exists_guardedMount_eq {mountId : String} (h : IsQuotable mountId) :
    ∃ statements, guardedMount mountId = "\n" ++ statements ∧
      AreStatements [] "" statements ["appElement"] := by
  have hselector : IsQuotable ("#" ++ mountId) := by
    intro c hc
    rw [String.toList_append, List.mem_append] at hc
    rcases hc with hc | hc
    · obtain rfl : c = '#' := by simpa using hc
      decide
    · exact h c hc
  have hquoted : IsOperand [] ("'" ++ ("#" ++ mountId) ++ "'") := .quoted hselector
  have hcreation : IsExpression [] ("createApp" ++ "(" ++ "App" ++ ")") :=
    .call (.applied (.name _ (by decide)) (.reference (.name _ (by decide))))
  have hmounted : IsExpression [] ("el" ++ "." ++ "__vue_app__") :=
    .operand (.reference isReference_mounted)
  have hbody : AreStatements [] ("" ++ "  ") _ _ := ((areStatements_unmount hmounted).append
    (.block (.defined "App" (by decide)) (areStatements_mount hcreation hquoted))).withMounted
  have hstatements : AreStatements [] "" _ [] :=
    .block (.operand (.reference (.name "appElement" (by decide)))) hbody
  refine ⟨_, ?_, hstatements.withElement hquoted⟩
  rw [← String.toList_inj]
  delta guardedMount
  simp only [String.append_assoc]
  rfl

set_option maxRecDepth 4000 in
/-- An expanded mount call is statements behind its blanks. -/
theorem MountCall.exists_expand_eq (call : MountCall) :
    ∃ statements, call.expand = call.indent ++ statements ∧
      AreStatements [call.creation, "'" ++ call.selector ++ "'"] call.indent statements
        expansionNames := by
  have hquoted : IsOperand [call.creation, "'" ++ call.selector ++ "'"]
      ("'" ++ call.selector ++ "'") := .given (by simp)
  have hcreation : IsExpression [call.creation, "'" ++ call.selector ++ "'"] call.creation :=
    .operand (.given (by simp))
  refine ⟨_, ?_, ((AreStatements.append (areStatements_unmount (.both (.name "el" (by decide))
    isReference_mounted)) (areStatements_mount hcreation hquoted)).withMounted).withElement
      hquoted⟩
  rw [MountCall.expand]
  simp only [String.intercalate_cons_cons, String.intercalate_singleton, String.append_assoc]
  rw [← String.toList_inj]
  rfl

/-! ### Mount calls in a text -/

theorem Starts.isBlank_indent (h : Starts call s behind) :
    ∀ c ∈ call.indent.toList, Text.isBlank c = true := by
  obtain ⟨indent, _, _, _, -, hindent, -, -, -, rfl⟩ := h
  simpa using hindent

/-- A mount call behind its blanks, by its statement and what is behind that. -/
def StartsAt (call : MountCall) (statement behind : String) : Prop :=
  Starts call (call.indent ++ statement ++ behind).toList behind.toList

theorem StartsAt.length_lt {statement behind : String} (h : StartsAt call statement behind) :
    behind.length < (call.indent ++ statement ++ behind).length := by
  obtain ⟨text, hne, htext⟩ := Starts.exists_statement h
  have hlength := congrArg List.length htext
  have := List.length_pos_iff.2 hne
  simp only [String.length_toList, List.length_append, String.length_append] at hlength ⊢
  omega

/-- A mount call in a text, by its statement and what is in front of and behind that. -/
def MountsAt (call : MountCall) (before statement behind : String) : Prop :=
  ∃ front, before = front ++ call.indent ∧ StartsAt call statement behind

theorem MountsAt.append {before statement behind : String}
    (h : MountsAt call before statement behind) (text : String) :
    MountsAt call (text ++ before) statement behind := by
  obtain ⟨front, rfl, hstarts⟩ := h
  exact ⟨text ++ front, String.append_assoc.symm, hstarts⟩

/-! ### Expansion from left to right -/

/-- A text with its mount calls expanded, one character or call after the other. -/
inductive Expands : String → String → Prop
  /-- Nothing is left. -/
  | nil : Expands "" ""
  /-- A character that stays. -/
  | char {text made : String} (c : Char) (h : Expands text made) :
      Expands (String.singleton c ++ text) (String.singleton c ++ made)
  /-- A mount call. -/
  | call {call : MountCall} {statement behind made : String}
      (hstarts : StartsAt call statement behind) (h : Expands behind made) :
      Expands (call.indent ++ statement ++ behind) (call.expand ++ made)

theorem expandFrom_eq_drop : (pending : Nat) → (s : List Char) →
    expandFrom pending s = expandFrom 0 (s.drop pending)
  | 0, _ => rfl
  | pending + 1, [] => rfl
  | pending + 1, c :: s => by rw [expandFrom, List.drop_succ_cons, expandFrom_eq_drop pending s]

theorem expands_expandFrom (s : List Char) :
    Expands (String.ofList s) (String.ofList (expandFrom 0 s)) := by
  match s with
  | [] => exact .nil
  | c :: s =>
    rw [expandFrom_zero_cons]
    cases hcall : mountCall? (c :: s) with
    | none =>
      have hcons (s : List Char) : String.ofList (c :: s) =
          String.singleton c ++ String.ofList s := by
        rw [← String.toList_inj]
        simp
      rw [Option.elim_none, hcons, hcons]
      exact .char c (expands_expandFrom s)
    | some found =>
      obtain ⟨call, behind⟩ := found
      have hstarts := mountCall?_eq_some_iff.1 hcall
      obtain ⟨statement, hne, hs⟩ := hstarts.exists_statement
      have hlength : behind.length < s.length + 1 := by
        have hlength : s.length + 1 = _ := congrArg List.length hs
        have hpos := List.length_pos_iff.2 hne
        simp only [List.length_append] at hlength
        omega
      have hdrop : s.drop (s.length - behind.length) = behind := by
        have hsuffix : behind <:+ c :: s := ⟨_, hs.symm⟩
        rcases List.suffix_cons_iff.1 hsuffix with rfl | hsuffix
        · exact absurd hlength (Nat.lt_irrefl _)
        · exact (List.suffix_iff_eq_drop.1 hsuffix).symm
      have htext : String.ofList (c :: s) =
          call.indent ++ String.ofList statement ++ String.ofList behind := by
        rw [hs, String.ofList_append, String.ofList_append, String.ofList_toList]
      have hat : StartsAt call (String.ofList statement) (String.ofList behind) := by
        rwa [StartsAt, ← htext, String.toList_ofList, String.toList_ofList]
      rw [Option.elim_some, String.ofList_append, String.ofList_toList, htext, expandFrom_eq_drop,
        hdrop]
      exact .call hat (expands_expandFrom behind)
termination_by s.length

/-! ### What the patch reads and leaves -/

/-- What is on one line is not found across the line break behind the import line. -/
theorem holds_withImport_vue {phrase : String} (code : String) (hbreak : '\n' ∉ phrase.toList)
    (hline : Text.holds "import \x7b createApp \x7d from 'vue'\n" phrase = false) :
    Text.holds (withImport code "vue") phrase = Text.holds code phrase := by
  rw [withImport]
  split
  · rfl
  · have hjoint : Text.Apart phrase.toList "import \x7b createApp \x7d from 'vue'\n".toList
        code.toList := Text.apart_of_getLast? rfl hbreak
    have hline : ¬phrase.toList <:+: "import \x7b createApp \x7d from 'vue'\n".toList := by
      rw [← Text.holds_iff, hline]
      decide
    rw [Bool.eq_iff_iff, Text.holds_iff, Text.holds_iff, String.toList_append]
    exact (Text.infix_append_iff hjoint).trans (or_iff_right hline)

/-- Mount calls that do not look at the application before are expanded. -/
theorem withMount_of_holds {code : String} (hmount : Text.holds code ".mount" = true)
    (hmention : Text.holds code "__vue_app__" = false) (mountId : String) :
    withMount code mountId = expandMounts code := by
  rw [withMount, if_neg (by rw [hmount]; decide), if_neg (by rw [hmention]; decide)]

/-- The patch of an entry with such calls. -/
theorem toList_patch {code framework mountId : String}
    (hcreate : Text.holds code "createApp" = true) (hmount : Text.holds code ".mount" = true)
    (hmention : Text.holds code "__vue_app__" = false) :
    (patch code framework mountId).toList = mountPattern.replaceAll expansion code.toList := by
  rw [patch, withImport, if_pos hcreate, withMount_of_holds hmount hmention,
    expandMounts_eq_replaceAll, String.toList_ofList]

end EntryPatch

namespace EntryReader

open EntryPatch ModuleReader

variable (reader : EntryReader) {call : MountCall} {last : Option String}
  {done statement behind text rest : String} {o : Reading}

/-! ### Expansion in a module -/

/-- Every mount call of `rest`, which follows `done`, stands on its own, the one with `last` behind
it in the list of statements of the whole module. -/
def StandIn (last : Option String) (done rest : String) : Prop :=
  ∀ call before statement behind, rest = before ++ statement ++ behind →
    MountsAt call before statement behind →
      reader.Stands (decide (last = some behind)) [call.creation, "'" ++ call.selector ++ "'"]
        (done ++ before) statement behind

variable {reader}

theorem StandIn.stands (h : reader.StandIn last done (call.indent ++ statement ++ behind))
    (hstarts : StartsAt call statement behind) :
    reader.Stands (decide (last = some behind)) [call.creation, "'" ++ call.selector ++ "'"]
      (done ++ call.indent) statement behind :=
  h _ _ _ _ rfl ⟨"", String.empty_append.symm, hstarts⟩

/-- What is in front stays. -/
theorem StandIn.of_append (h : reader.StandIn last done (text ++ rest)) :
    reader.StandIn last (done ++ text) rest := by
  rintro call before statement behind rfl hmounts
  have hdone : done ++ text ++ before = done ++ (text ++ before) := String.append_assoc
  rw [hdone]
  exact h _ _ _ _ (by simp only [String.append_assoc]) (hmounts.append text)

/-- The calls behind one that is expanded. -/
theorem StandIn.expand (h : reader.StandIn last done (call.indent ++ statement ++ behind))
    (hstarts : StartsAt call statement behind) :
    reader.StandIn last (done ++ call.expand) behind := by
  obtain ⟨statements, hexpand, hstatements⟩ := call.exists_expand_eq
  have hstands := h.stands hstarts
  rintro next before other more rfl hmounts
  have hnext := h.of_append next before other more rfl hmounts
  have hbefore : done ++ (call.indent ++ statement) = done ++ call.indent ++ statement :=
    String.append_assoc.symm
  have hafter : done ++ (call.indent ++ statements) = done ++ call.indent ++ statements :=
    String.append_assoc.symm
  rw [hbefore] at hnext
  rw [hexpand, hafter]
  exact reader.stands_statements hstands hnext (Starts.isBlank_indent hstarts) hstatements

/-- One call that is expanded. -/
theorem StandIn.exists_read_expand
    (h : reader.StandIn last done (call.indent ++ statement ++ behind))
    (hstarts : StartsAt call statement behind)
    (hread : reader.read (done ++ (call.indent ++ statement ++ behind)) = some o) :
    ∃ made, reader.read (done ++ call.expand ++ behind) = some made ∧
      made.names.Subperm ((if last = some behind then expansionNames else []) ++ o.names) := by
  obtain ⟨statements, hexpand, hstatements⟩ := call.exists_expand_eq
  have hread : reader.read (done ++ call.indent ++ statement ++ behind) = some o := by
    simpa only [String.append_assoc] using hread
  obtain ⟨made, hmade, hnames⟩ := reader.read_statements hread (h.stands hstarts)
    (Starts.isBlank_indent hstarts) hstatements
  refine ⟨made, ?_, by simpa using hnames⟩
  rw [hexpand, ← String.append_assoc]
  exact hmade

/-- The names that are declared by the call with `last` behind it, if it is still to come. -/
def comingNames (last : Option String) (rest : String) : List String :=
  if last.any (·.length < rest.length) then expansionNames else []

theorem comingNames_sublist (h : text.length ≤ rest.length) :
    (comingNames last text).Sublist (comingNames last rest) := by
  rw [comingNames, comingNames]
  split
  · rename_i hlast
    obtain ⟨behind, rfl, hlength⟩ := (Option.any_eq_true _ _).1 hlast
    have hlength : behind.length < rest.length := (of_decide_eq_true hlength).trans_le h
    have hlast : (some behind).any (·.length < rest.length) = true := decide_eq_true hlength
    rw [if_pos hlast]
  · exact List.nil_sublist _

/-- The call with `last` behind it is to come once. -/
theorem names_append_comingNames_sublist (last : Option String)
    (h : behind.length < rest.length) :
    ((if last = some behind then expansionNames else []) ++ comingNames last behind).Sublist
      (comingNames last rest) := by
  split
  · rename_i hlast
    subst hlast
    simp [comingNames, h]
  · exact comingNames_sublist h.le

/-- A module is one at each step of the expansion, and declares no names but those of calls. -/
theorem exists_read_of_expands {made : String} (hexpands : Expands rest made) :
    ∀ {done : String} {o : Reading}, reader.read (done ++ rest) = some o →
      reader.StandIn last done rest → ∃ o', reader.read (done ++ made) = some o' ∧
        o'.names.Subperm (comingNames last rest ++ o.names) := by
  induction hexpands with
  | nil => exact fun hread _ => ⟨_, hread, (List.sublist_append_right _ _).subperm⟩
  | char c _ ih =>
    intro done o hread h
    rw [← String.append_assoc] at hread
    obtain ⟨o', hmade, hnames⟩ := ih hread h.of_append
    refine ⟨o', by rwa [← String.append_assoc], hnames.trans ?_⟩
    refine ((comingNames_sublist ?_).append_right _).subperm
    simp
  | call hstarts _ ih =>
    intro done o hread h
    obtain ⟨next, hnext, hadded⟩ := h.exists_read_expand hstarts hread
    obtain ⟨o', hmade, hnames⟩ := ih hnext (h.expand hstarts)
    refine ⟨o', by rwa [← String.append_assoc], ?_⟩
    have hcoming := names_append_comingNames_sublist last hstarts.length_lt
    -- What this call declares and what is still to come was to come in front of it.
    refine hnames.trans (((List.subperm_append_left _).2 hadded).trans ?_)
    refine (List.perm_append_comm_assoc _ _ _).subperm.trans ?_
    rw [← List.append_assoc]
    exact (hcoming.append_right _).subperm

/-! ### Names that are declared twice -/

/-- Names that are new and declared once do not add to those that are declared twice. -/
theorem two_le_count_of_subperm {names added made : List String}
    (hmade : made.Subperm (added ++ names)) (hnodup : added.Nodup)
    (hfresh : ∀ name ∈ added, name ∉ names) {name : String} (h : 2 ≤ made.count name) :
    2 ≤ names.count name := by
  have hcount := h.trans (hmade.count_le name)
  rw [List.count_append] at hcount
  by_cases hname : name ∈ added
  · have hzero := List.count_eq_zero.2 (hfresh name hname)
    have hone := List.nodup_iff_count.1 hnodup name
    omega
  · rwa [List.count_eq_zero.2 hname, Nat.zero_add] at hcount

/-! ### The patch -/

variable (reader) in
/-- What an entry has to be like for its patch to keep it a module. -/
structure Admits (code : String) (o : Reading) : Prop where
  /-- An entry without `createApp` can have a line in front and does not import or declare that
  name, in whatever way it is written. -/
  imports : Text.holds code "createApp" = false → o.hashbang = false ∧ "createApp" ∉ o.names
  /-- An entry without a mount does not declare the name of the element. -/
  appends : Text.holds code ".mount" = false → "appElement" ∉ o.names
  /-- The mount calls of an entry that does not look at the application before are statements of
  their own, at most one of them outside of blocks and functions, and then the entry does not
  declare the names that are used for it. -/
  expands : Text.holds code ".mount" = true → Text.holds code "__vue_app__" = false →
    ∃ last : Option String, (last.isSome = true → ∀ name ∈ expansionNames, name ∉ o.names) ∧
      reader.StandIn last "" code

/-- Without a call of `createApp` there is no mount call. -/
theorem standIn_of_not_holds {code : String} (h : Text.holds code "createApp(" = false) :
    reader.StandIn none "" code := by
  rintro call before statement behind rfl ⟨front, rfl, hstarts⟩
  obtain ⟨indent, arguments, selector, rest, hs, -⟩ := hstarts
  have hcall : "createApp(".toList <:+: (call.indent ++ statement ++ behind).toList :=
    hs ▸ ⟨indent, arguments ++ (").mount(".toList ++ rest), by simp⟩
  have hholds : Text.holds (front ++ (call.indent ++ statement ++ behind)) "createApp(" = true :=
    Text.holds_append_right (Text.holds_iff.2 hcall) front
  simp only [String.append_assoc] at h hholds
  rw [h] at hholds
  cases hholds

/-- The names of an entry with its import line. -/
theorem exists_read_withImport {code : String} (hread : reader.read code = some o)
    (h : Text.holds code "createApp" = false → o.hashbang = false ∧ "createApp" ∉ o.names) :
    ∃ made, reader.read (withImport code "vue") = some made ∧
      (∀ name, name ≠ "createApp" → name ∉ o.names → name ∉ made.names) ∧
      ∀ name, 2 ≤ made.names.count name → 2 ≤ o.names.count name := by
  rw [withImport]
  split
  · exact ⟨o, hread, fun _ _ h => h, fun _ h => h⟩
  · rename_i hcreate
    obtain ⟨hhashbang, hfresh⟩ := h (Bool.not_eq_true _ ▸ hcreate)
    have hframework : IsQuotable "vue" := by decide
    obtain ⟨made, hmade, hnames⟩ := reader.read_importLine_append hread hhashbang hframework
    refine ⟨made, hmade, fun name hne hname hmem => ?_, fun name => ?_⟩
    · exact (List.mem_cons.1 (hnames.subset hmem)).elim hne hname
    · have hnames : made.names.Subperm (["createApp"] ++ o.names) := hnames
      exact two_le_count_of_subperm hnames (by decide) (by simpa using hfresh)

/-- The names of an entry with its mount. -/
theorem exists_read_withMount {code mountId : String} (hread : reader.read code = some o)
    (hmountId : IsQuotable mountId)
    (happends : Text.holds code ".mount" = false → "appElement" ∉ o.names)
    (hexpands : Text.holds code ".mount" = true → Text.holds code "__vue_app__" = false →
      ∃ last : Option String, (last.isSome = true → ∀ name ∈ expansionNames, name ∉ o.names) ∧
        reader.StandIn last "" code) :
    ∃ made, reader.read (withMount code mountId) = some made ∧
      ∀ name, 2 ≤ made.names.count name → 2 ≤ o.names.count name := by
  cases hmount : Text.holds code ".mount" with
  | false =>
    obtain ⟨statements, hguarded, hstatements⟩ := exists_guardedMount_eq hmountId
    obtain ⟨made, hmade, hnames⟩ := reader.read_append_statements hread hstatements
    refine ⟨made, ?_, fun name => two_le_count_of_subperm hnames (by decide)
      (by simpa using happends hmount)⟩
    rw [withMount, if_pos hmount, hguarded, ← String.append_assoc]
    exact hmade
  | true =>
    cases hmention : Text.holds code "__vue_app__" with
    | true =>
      refine ⟨o, ?_, fun _ h => h⟩
      rwa [withMount, if_neg (by rw [hmount]; decide), if_pos hmention]
    | false =>
      obtain ⟨last, hfresh, hstand⟩ := hexpands hmount hmention
      have hexpanded := expands_expandFrom code.toList
      rw [String.ofList_toList] at hexpanded
      have hread : reader.read ("" ++ code) = some o := by rwa [String.empty_append]
      obtain ⟨made, hmade, hnames⟩ := exists_read_of_expands hexpanded hread hstand
      refine ⟨made, ?_, fun name => two_le_count_of_subperm hnames ?_ fun name hname => ?_⟩
      · rw [String.empty_append] at hmade
        rw [withMount_of_holds hmount hmention]
        exact hmade
      · rw [comingNames]
        split <;> decide
      · rw [comingNames] at hname
        split at hname
        · rename_i hlast
          exact hfresh (Option.isSome_of_any hlast) name hname
        · exact absurd hname (List.not_mem_nil)

/-- The mount calls of an entry stand in it with its import line as they did before. -/
theorem Admits.exists_standIn {code : String} (h : reader.Admits code o)
    (hmount : Text.holds (withImport code "vue") ".mount" = true)
    (hmention : Text.holds (withImport code "vue") "__vue_app__" = false) :
    ∃ last : Option String, (last.isSome = true → ∀ name ∈ expansionNames, name ∉ o.names) ∧
      reader.StandIn last "" (withImport code "vue") := by
  cases hcreate : Text.holds code "createApp" with
  | true =>
    rw [withImport, if_pos hcreate] at hmount hmention ⊢
    exact h.expands hmount hmention
  | false =>
    have hcall : Text.holds code "createApp(" = false := by
      refine Bool.eq_false_iff.2 fun hcall => ?_
      have hname : "createApp".toList <:+: "createApp(".toList := ⟨[], ['('], rfl⟩
      rw [Text.holds_iff.2 (hname.trans (Text.holds_iff.1 hcall))] at hcreate
      cases hcreate
    refine ⟨none, by simp, standIn_of_not_holds ?_⟩
    rw [holds_withImport_vue code (by decide) (by decide +kernel), hcall]

/-- The patch of an entry that is a module is one, and declares no name twice that the entry did
not, for every reader that follows the grammar. -/
theorem exists_read_patch (reader : EntryReader) {code mountId : String} {o : Reading}
    (hread : reader.read code = some o) (hmountId : IsQuotable mountId)
    (h : reader.Admits code o) :
    ∃ made, reader.read (patch code Config.standard.frameworkModule mountId) = some made ∧
      ∀ name, 2 ≤ made.names.count name → 2 ≤ o.names.count name := by
  obtain ⟨imported, himported, hfresh, hcount⟩ := exists_read_withImport hread h.imports
  have hmounts : Text.holds (withImport code "vue") ".mount" = Text.holds code ".mount" :=
    holds_withImport_vue code (by decide) (by decide +kernel)
  have hother : ∀ name ∈ expansionNames, name ≠ "createApp" := by decide
  obtain ⟨made, hmade, hmadeCount⟩ := exists_read_withMount himported hmountId
    (fun hmount => hfresh _ (by decide) (h.appends (hmounts ▸ hmount)))
    (fun hmount hmention => by
      obtain ⟨last, hnames, hstand⟩ := h.exists_standIn hmount hmention
      refine ⟨last, fun hlast name hname => ?_, hstand⟩
      exact hfresh name (hother name hname) (hnames hlast name hname))
  exact ⟨made, hmade, fun name hname => hcount name (hmadeCount name hname)⟩

/-- The names that a module imports, or declares for the whole of it. -/
def declaredNames (p : Script.Program) : List String :=
  p.body.flatMap fun s => s.imported ++ s.lexical

/-- An entry that mounts its application on a line of its own. By lines its names are read as the
grammar of scripts has them. -/
theorem exists_read_patch_line :
    let code := "import \x7b createApp \x7d from 'vue'\ncreateApp(App).mount('#app')\n"
    let o : Reading := ⟨false, ["createApp"]⟩
    let patched := patch code Config.standard.frameworkModule "app"
    byLines.read code = some o ∧
      (Script.Program.parse "main.ts" code).toOption.map declaredNames = some o.names ∧
      byLines.Admits code o ∧
      (∃ made, byLines.read patched = some made ∧
        ∀ name, 2 ≤ made.names.count name → 2 ≤ o.names.count name) ∧
      (Script.Program.parse "main.ts" patched).toOption.map declaredNames =
        (byLines.read patched).map Reading.names := by
  intro code o patched
  have hread : byLines.read code = some o := by decide +kernel
  have hmountId : IsQuotable "app" := by decide
  have hcreate : Text.holds code "createApp" = true := by decide +kernel
  have hmount : Text.holds code ".mount" = true := by decide +kernel
  have hmention : Text.holds code "__vue_app__" = false := by decide +kernel
  have hfound : ∀ s ∈ code.toList.tails, ∀ found ∈ mountCall? s, found.2 = ['\n'] ∧
      s.drop found.1.indent.toList.length = "createApp(App).mount('#app')\n".toList ∧
      found.1.creation = "createApp(App)" ∧ found.1.selector = "#app" := by
    decide +kernel
  have hstand : byLines.StandIn (some "\n") "" code := by
    rintro call before statement behind hcode ⟨front, rfl, hstarts⟩
    have hchars : code.toList =
        front.toList ++ (call.indent ++ statement ++ behind).toList := by
      rw [hcode]
      simp
    obtain ⟨hbehind, hstatement, hcreation, hselector⟩ :=
      hfound _ ((List.mem_tails _ _).2 ⟨front.toList, hchars.symm⟩) _
        (mountCall?_eq_some_iff.2 hstarts)
    obtain rfl : behind = "\n" := String.toList_inj.1 hbehind
    have hline : statement = "createApp(App).mount('#app')" := by
      have hbreak : "createApp(App).mount('#app')\n" = "createApp(App).mount('#app')" ++ "\n" := rfl
      rw [String.append_assoc, String.toList_append, List.drop_left, String.toList_inj,
        hbreak] at hstatement
      exact (String.append_left_inj _).1 hstatement
    subst hline
    have hfront : front ++ call.indent = "import \x7b createApp \x7d from 'vue'\n" := by
      have hsplit : code = "import \x7b createApp \x7d from 'vue'\n" ++
          "createApp(App).mount('#app')" ++ "\n" := rfl
      rw [hsplit] at hcode
      exact ((String.append_left_inj _).1 ((String.append_left_inj _).1 hcode)).symm
    rw [hfront, hcreation, hselector]
    exact ⟨by decide, by simp [EndsLine], by simp [StartsLine], by decide, by decide, by decide⟩
  have hadmits : byLines.Admits code o :=
    ⟨fun h => absurd h (by rw [hcreate]; decide), fun h => absurd h (by rw [hmount]; decide),
      fun _ _ => ⟨some "\n", fun _ => by decide, hstand⟩⟩
  have hkept := exists_read_patch byLines hread hmountId hadmits
  have hdeclared : (Script.Program.parse "main.ts" code).toOption.map declaredNames =
      some o.names := by
    decide +kernel
  refine ⟨hread, hdeclared, hadmits, hkept, ?_⟩
  rw [map_names_read, Script.Program.parse, namesOf, linesOf, toList_patch hcreate hmount hmention]
  decide +kernel

/-- In place of an expression the statements that a mount call is expanded to are no module: an
entry that keeps what it mounts. -/
theorem kept_mount_broken :
    let code := "const vm = createApp(App).mount('#app')\n"
    (Script.Program.parse "main.ts" code).toOption.isSome = true ∧
      (Script.Program.parse "main.ts"
        (patch code Config.standard.frameworkModule Config.standard.mountId)).toOption = none := by
  intro code
  have hcreate : Text.holds code "createApp" = true := by decide +kernel
  have hmount : Text.holds code ".mount" = true := by decide +kernel
  have hmention : Text.holds code "__vue_app__" = false := by decide +kernel
  refine ⟨by decide +kernel, ?_⟩
  rw [Script.Program.parse, toList_patch hcreate hmount hmention]
  decide +kernel

end EntryReader

end LivePreview
