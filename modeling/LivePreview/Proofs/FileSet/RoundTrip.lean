import LivePreview.Proofs.FileSet.Folder

/-!
# File sets handed over again

However a file set came about, by whole hand-overs and by putting single files into it, every file
is under its own name, which is not blank. So the value that such a set is written as is accepted,
and gives the set back.

## Main definitions

* `LivePreview.FileSet.WellNamed`: every file is under its own name, which is not blank.
* `LivePreview.FileSet.Reachable`: the sets that the operations on file sets lead to.

## Main results

* `LivePreview.FileSet.WellNamed.put`, `LivePreview.FileSet.Reachable.wellNamed`: one operation, and
  any number of them, leaves a set well named.
* `LivePreview.FileSet.ofJson_toJson`: a well named set is read back from the value that it is
  written as.
* `LivePreview.FileSet.handed_over_again`: both for all sets that the operations lead to.
-/

namespace LivePreview.FileSet

variable {name content : String} {file : SourceFile} {files made : FileSet}

/-- Every file is under its own name, which is not blank. -/
def WellNamed (files : FileSet) : Prop :=
  ∀ name file, files.get? name = some file → file.name = name ∧ Text.isBlankText name = false

/-! ### What operations keep -/

theorem wellNamed_empty : WellNamed NameMap.empty := by
  intro name file h
  simp at h

theorem WellNamed.put (h : WellNamed files) (hname : Text.isBlankText file.name = false) :
    WellNamed (files.put file) := by
  intro name other hother
  rw [FileSet.put, NameMap.get?_insert] at hother
  split at hother
  · rename_i heq
    obtain rfl := Option.some.inj hother
    exact ⟨heq, heq ▸ hname⟩
  · exact h name other hother

theorem not_blank_of_newFile (h : newFile name content = .ok file) :
    Text.isBlankText file.name = false := by
  cases hname : Text.isBlankText name with
  | true => cases (newFile_of_blank hname content).symm.trans h
  | false =>
    obtain rfl := Except.ok.inj ((newFile_of_not_blank hname content).symm.trans h)
    exact hname

theorem wellNamed_of_ofJson {json : Json} (h : ofJson json = .ok files) : WellNamed files := by
  cases json with
  | object members =>
    intro name file hfile
    have hrel := rel_get?_ofJson h name
    rw [hfile] at hrel
    generalize (NameMap.ofList members).get? name = value? at hrel
    cases hrel with
    | some haccepts =>
      obtain ⟨hblank, text, language?, -, rfl⟩ := haccepts
      exact ⟨rfl, hblank⟩
  | _ => cases h

theorem wellNamed_of_ofText {text : String} (h : ofText text = .ok files) : WellNamed files := by
  rw [ofText] at h
  split at h
  · exact wellNamed_of_ofJson h
  · cases h

theorem wellNamed_of_collect {item : List String → Except Fault SourceFile}
    {l : List (List String)} (hfiles : WellNamed files)
    (hitem : ∀ path file, item path = .ok file → Text.isBlankText file.name = false)
    (h : collect item files l = .ok made) : WellNamed made := by
  induction l generalizing files with
  | nil =>
    obtain rfl := Except.ok.inj h
    exact hfiles
  | cons path rest ih =>
    cases hfile : item path with
    | error fault => cases (collect_cons_of_error hfile files rest).symm.trans h
    | ok file =>
      rw [collect_cons_of_ok hfile] at h
      exact ih (hfiles.put (hitem path file hfile)) h

theorem not_blank_of_fileOf {tree : FileTree} {folder path : List String}
    (h : fileOf tree folder path = .ok file) : Text.isBlankText file.name = false := by
  simp only [fileOf, fileAt, pure_bind] at h
  cases htext : readText (folder ++ path) tree with
  | error fault => cases htext ▸ h
  | ok text =>
    rw [htext] at h
    exact not_blank_of_newFile h

theorem wellNamed_of_ofFolder {path : List String} {tree : FileTree}
    (h : ofFolder path tree = .ok files) : WellNamed files := by
  cases hnode : tree.locate path with
  | ok node =>
    rw [ofFolder_eq_collect hnode] at h
    exact wellNamed_of_collect wellNamed_empty (fun _ _ => not_blank_of_fileOf) h
  | error fault =>
    rw [ofFolder, gather, hnode] at h
    obtain rfl := Except.ok.inj h
    exact wellNamed_empty

/-- The sets that the operations on file sets lead to: the empty one, one that is handed over as a
whole, and one with a further file, which may be labelled with any language. -/
inductive Reachable : FileSet → Prop
  | empty : Reachable NameMap.empty
  | ofJson {json : Json} {files : FileSet} (h : ofJson json = .ok files) : Reachable files
  | ofText {text : String} {files : FileSet} (h : ofText text = .ok files) : Reachable files
  | ofFolder {path : List String} {tree : FileTree} {files : FileSet}
      (h : ofFolder path tree = .ok files) : Reachable files
  | withFile {files : FileSet} {name content : String} {file : SourceFile} (h : Reachable files)
      (hfile : newFile name content = .ok file) : Reachable (files.put file)
  | insert {files : FileSet} {name content : String} {file : SourceFile} (h : Reachable files)
      (hfile : newFile name content = .ok file) (language : Language) :
      Reachable (files.put { file with language := language })

theorem Reachable.wellNamed (h : Reachable files) : WellNamed files := by
  induction h with
  | empty => exact wellNamed_empty
  | ofJson h => exact wellNamed_of_ofJson h
  | ofText h => exact wellNamed_of_ofText h
  | ofFolder h => exact wellNamed_of_ofFolder h
  | withFile _ hfile ih => exact ih.put (not_blank_of_newFile hfile)
  | @insert _ name content file _ hfile language ih =>
    have hname := not_blank_of_newFile hfile
    exact ih.put hname

/-! ### Reading a written set -/

/-- The members of the record that a file is written as. -/
theorem lastMember?_fileJson (file : SourceFile) : ∃ members, fileJson file = .object members ∧
    lastMember? "name" members = some (.string file.name) ∧
    lastMember? "content" members = some (.string file.content) ∧
    lastMember? "language" members = some (.string file.language.tag) := by
  refine ⟨_, rfl, ?_, ?_, ?_⟩ <;>
    simp [lastMember?, NameMap.ofList, NameMap.insertAll, NameMap.get?_insert]

/-- The entry that a file is written as is accepted, and describes the file. -/
theorem accepts_fileJson (hname : Text.isBlankText file.name = false) :
    Accepts file.name (fileJson file) file := by
  obtain ⟨members, hmembers, hown, hcontent, hlanguage⟩ := lastMember?_fileJson file
  have hrecord : NamedBy file.name members := fun value hvalue =>
    (Option.some.inj (hown.symm.trans hvalue)).symm
  have hlabel : (lastMember? "language" members).bind taggedLanguage? = some file.language := by
    rw [hlanguage]
    exact Language.ofTag?_tag file.language
  rw [hmembers]
  refine ⟨hname, file.content, _, .record hrecord (.content hcontent), ?_⟩
  rw [hlabel, Option.getD_some]

/-- A well named set is read back from the value that it is written as. -/
theorem ofJson_toJson (h : WellNamed files) : ofJson (toJson files) = .ok files := by
  refine ofJson_object_eq_ok_iff.2 fun key => ?_
  have hvalue : (NameMap.ofList (files.entries.map fun e => (e.1, fileJson e.2))).get? key =
      (files.get? key).map fileJson := NameMap.get?_ofList_map files fileJson key
  rw [hvalue]
  cases hfile : files.get? key with
  | none => exact .none
  | some file =>
    obtain ⟨rfl, hname⟩ := h key file hfile
    exact .some (accepts_fileJson hname)

/-- In every set that the operations lead to, each file is under its own name, which is not blank,
and the value that the set is written as gives it back, with the same fingerprint. So one hand-over
brings a value into a form that later ones leave as it is. -/
theorem handed_over_again :
    (∀ files, Reachable files →
      (∀ name file, files.get? name = some file →
        file.name = name ∧ Text.isBlankText name = false) ∧
      ∃ again, ofJson (toJson files) = .ok again ∧ again = files ∧
        fingerprint again = fingerprint files) ∧
    ∀ json files, ofJson json = .ok files →
      ∃ again, ofJson (toJson files) = .ok again ∧ toJson again = toJson files := by
  refine ⟨fun files h => ⟨h.wellNamed, files, ofJson_toJson h.wellNamed, rfl, rfl⟩, ?_⟩
  intro json files h
  exact ⟨files, ofJson_toJson (wellNamed_of_ofJson h), rfl⟩

/-- An object with entries of all three shapes, and the set that it gives with one file replaced and
labelled as something else. -/
theorem handed_over_again_mixed :
    let json : Json := .object [("main.ts", .string "import './App.vue'"),
      ("App.vue", .object [("value", .string "<b/>"), ("language", .string "vue")]),
      ("a.css", .object [("name", .string "a.css"), ("content", .string ""),
        ("language", .object [("script", .null)])])]
    let files := ofFiles [⟨"App.vue", "<b/>", .component⟩, ⟨"a.css", "", .script⟩,
      ⟨"main.ts", "import './App.vue'", .script⟩]
    let replaced := files.put ⟨"main.ts", "1", .data⟩
    ofJson json = .ok files ∧
      (∃ again, ofJson (toJson files) = .ok again ∧ toJson again = toJson files) ∧
      newFile "main.ts" "1" = .ok ⟨"main.ts", "1", .script⟩ ∧
      ∃ again, ofJson (toJson replaced) = .ok again ∧ again = replaced ∧
        fingerprint again = fingerprint replaced := by
  intro json files replaced
  have hfiles : ofJson json = .ok files := rfl
  have hfile : newFile "main.ts" "1" = .ok ⟨"main.ts", "1", .script⟩ := rfl
  have hreplaced : Reachable replaced := .insert (.ofJson hfiles) hfile .data
  exact ⟨hfiles, handed_over_again.2 json files hfiles, hfile,
    (handed_over_again.1 replaced hreplaced).2⟩

end LivePreview.FileSet
