import LivePreview.FileSet.Ingest
import LivePreview.Proofs.NameMap
import Mathlib.Data.Option.Basic

/-!
# What a handed over file set has to look like

An entry is checked by itself: its shape, the name that it gives itself, its content, and at last
its key. It is accepted if all checks pass, and refused with the fault of the first one that fails.
An object of entries is accepted if all entries are. Else it is refused for the first entry, in the
order of the bytes of the keys, that is not accepted, whatever the others are.

## Main definitions

* `LivePreview.FileSet.Gives`: the text and the language tag that an entry gives.
* `LivePreview.FileSet.Accepts`: the file of an accepted entry.
* `LivePreview.FileSet.Refuses`: the first check of an entry that fails.

## Main results

* `LivePreview.FileSet.entry_eq_ok_iff`, `LivePreview.FileSet.entry_eq_error_iff`: which entries are
  accepted, and why others are not.
* `LivePreview.FileSet.ofEntries_eq_error_iff`: the first refused entry decides.
* `LivePreview.FileSet.ofJson_eq_ok_iff`: the files of an accepted object.
* `LivePreview.FileSet.ofJson_by_grammar`: exactly the objects of the grammar are accepted.
-/

namespace LivePreview.FileSet

variable {key text : String} {members : List (String × Json)} {value : Json} {file : SourceFile}
  {fault : Fault} {files made : FileSet} {l : List (String × Json)}

/-! ### The grammar of entries -/

/-- A record that names itself repeats its key. -/
def NamedBy (key : String) (members : List (String × Json)) : Prop :=
  ∀ value, lastMember? "name" members = some value → value = .string key

/-- What a record has for its content: the member `content`, and only without one the member
`value`. -/
inductive HasContent (members : List (String × Json)) : Json → Prop
  | content {value : Json} (h : lastMember? "content" members = some value) :
      HasContent members value
  | value {value : Json} (hcontent : lastMember? "content" members = none)
      (h : lastMember? "value" members = some value) : HasContent members value

/-- The text that the entry of a key gives, and the language that its tag names, if there is one
that is known. -/
inductive Gives (key : String) : Json → String → Option Language → Prop
  | plain (text : String) : Gives key (.string text) text none
  | record {members : List (String × Json)} {text : String} (hname : NamedBy key members)
      (htext : HasContent members (.string text)) :
      Gives key (.object members) text ((lastMember? "language" members).bind taggedLanguage?)

/-- The file of an accepted entry. Without a known tag it is in the language of its name. -/
def Accepts (key : String) (value : Json) (file : SourceFile) : Prop :=
  Text.isBlankText key = false ∧ ∃ text language?, Gives key value text language? ∧
    file = ⟨key, text, language?.getD (Language.ofFileName key)⟩

/-- The fault of the first check of an entry that fails. The checks are that of the shape, of the
name of a record, of its content, and of the key. -/
inductive Refuses (key : String) : Json → Fault → Prop
  | shape {value : Json} (htext : ∀ text, value ≠ .string text)
      (hrecord : ∀ members, value ≠ .object members) :
      Refuses key value (.invalidEntry key "expected a string or a file record")
  | nameKind {members : List (String × Json)} {value : Json}
      (h : lastMember? "name" members = some value) (htext : ∀ name, value ≠ .string name) :
      Refuses key (.object members) (.invalidEntry key "name is not a string")
  | otherName {members : List (String × Json)} {name : String}
      (h : lastMember? "name" members = some (.string name)) (hne : name ≠ key) :
      Refuses key (.object members) (.nameMismatch key name)
  | noContent {members : List (String × Json)} (hname : NamedBy key members)
      (h : ∀ value, ¬ HasContent members value) :
      Refuses key (.object members) (.invalidEntry key "missing content")
  | contentKind {members : List (String × Json)} {value : Json} (hname : NamedBy key members)
      (h : HasContent members value) (htext : ∀ text, value ≠ .string text) :
      Refuses key (.object members) (.invalidEntry key "content is not a string")
  | blankKey {value : Json} {text : String} {language? : Option Language}
      (h : Gives key value text language?) (hkey : Text.isBlankText key = true) :
      Refuses key value .emptyName

/-! ### The checks -/

theorem newFile_of_blank (h : Text.isBlankText key = true) (content : String) :
    newFile key content = .error .emptyName := by
  simp [newFile, SourceFile.ofText?, h]

theorem newFile_of_not_blank (h : Text.isBlankText key = false) (content : String) :
    newFile key content = .ok ⟨key, content, Language.ofFileName key⟩ := by
  simp [newFile, SourceFile.ofText?, h]

theorem checkName_of_namedBy (h : NamedBy key members) : checkName key members = .ok () := by
  rw [checkName]
  cases hname : lastMember? "name" members with
  | none => rfl
  | some value =>
    obtain rfl := h value hname
    exact if_pos rfl

theorem recordContent_of_hasContent (h : HasContent members (.string text)) :
    recordContent key members = .ok text := by
  cases h with
  | content h => rw [recordContent, h, Option.some_or]
  | value hcontent h => rw [recordContent, hcontent, h, Option.none_or]

/-- The entry of a record whose name and content pass their checks. -/
theorem entry_record {language? : Option Language} (hname : NamedBy key members)
    (htext : HasContent members (.string text))
    (hlanguage : (lastMember? "language" members).bind taggedLanguage? = language?) :
    entry key (.object members) = (newFile key text).map fun file =>
      { file with language := language?.getD file.language } := by
  rw [entry, checkName_of_namedBy hname, recordContent_of_hasContent htext, hlanguage]
  simp only [bind, Except.bind]
  cases newFile key text with
  | error fault => rfl
  | ok file => cases language? <;> rfl

theorem entry_of_accepts (h : Accepts key value file) : entry key value = .ok file := by
  obtain ⟨hkey, text, language?, hgives, rfl⟩ := h
  cases hgives with
  | plain => exact newFile_of_not_blank hkey text
  | record hname htext => rw [entry_record hname htext rfl, newFile_of_not_blank hkey, Except.map]

theorem entry_of_refuses (h : Refuses key value fault) : entry key value = .error fault := by
  cases h with
  | shape htext hrecord =>
    cases value with
    | string text => exact absurd rfl (htext text)
    | object members => exact absurd rfl (hrecord members)
    | _ => rfl
  | @nameKind members value h htext =>
    have hcheck : checkName key members = .error (.invalidEntry key "name is not a string") := by
      rw [checkName, h]
      cases value with
      | string name => exact absurd rfl (htext name)
      | _ => rfl
    rw [entry, hcheck]
    rfl
  | @otherName members name h hne =>
    have hcheck : checkName key members = .error (.nameMismatch key name) := by
      rw [checkName, h]
      exact if_neg hne
    rw [entry, hcheck]
    rfl
  | @noContent members hname h =>
    have hcontent : lastMember? "content" members = none :=
      Option.eq_none_iff_forall_ne_some.2 fun value hvalue => h value (.content hvalue)
    have hvalue : lastMember? "value" members = none :=
      Option.eq_none_iff_forall_ne_some.2 fun value hvalue => h value (.value hcontent hvalue)
    rw [entry, checkName_of_namedBy hname, recordContent, hcontent, hvalue]
    rfl
  | @contentKind members value hname h htext =>
    have hcontent : recordContent key members =
        .error (.invalidEntry key "content is not a string") := by
      have hvalue : (lastMember? "content" members).or (lastMember? "value" members) =
          some value := by
        cases h with
        | content h => rw [h, Option.some_or]
        | value hcontent h => rw [hcontent, h, Option.none_or]
      rw [recordContent, hvalue]
      cases value with
      | string text => exact absurd rfl (htext text)
      | _ => rfl
    rw [entry, checkName_of_namedBy hname, hcontent]
    rfl
  | @blankKey value text language? hgives hkey =>
    cases hgives with
    | plain => exact newFile_of_blank hkey text
    | record hname htext => rw [entry_record hname htext rfl, newFile_of_blank hkey, Except.map]

/-- What gives a text is accepted or has a blank key. -/
theorem Gives.accepts_or_refuses {language? : Option Language}
    (h : Gives key value text language?) :
    (∃ file, Accepts key value file) ∨ ∃ fault, Refuses key value fault := by
  cases hkey : Text.isBlankText key with
  | false => exact .inl ⟨_, hkey, text, language?, h, rfl⟩
  | true => exact .inr ⟨_, .blankKey h hkey⟩

theorem accepts_or_refuses (key : String) (value : Json) :
    (∃ file, Accepts key value file) ∨ ∃ fault, Refuses key value fault := by
  cases value with
  | string text => exact (Gives.plain text).accepts_or_refuses
  | object members =>
    by_cases hname : NamedBy key members
    · by_cases hcontent : ∃ value, HasContent members value
      · obtain ⟨value, hvalue⟩ := hcontent
        by_cases htext : ∃ text, value = .string text
        · obtain ⟨text, rfl⟩ := htext
          exact (Gives.record hname hvalue).accepts_or_refuses
        · exact .inr ⟨_, .contentKind hname hvalue fun text h => htext ⟨text, h⟩⟩
      · exact .inr ⟨_, .noContent hname fun value h => hcontent ⟨value, h⟩⟩
    · simp only [NamedBy, not_forall] at hname
      obtain ⟨value, hvalue, hne⟩ := hname
      by_cases htext : ∃ name, value = .string name
      · obtain ⟨name, rfl⟩ := htext
        exact .inr ⟨_, .otherName hvalue fun h => hne (h ▸ rfl)⟩
      · exact .inr ⟨_, .nameKind hvalue fun name h => htext ⟨name, h⟩⟩
  | _ => exact .inr ⟨_, .shape (fun _ => nofun) fun _ => nofun⟩

theorem entry_eq_ok_iff : entry key value = .ok file ↔ Accepts key value file := by
  refine ⟨fun h => ?_, entry_of_accepts⟩
  rcases accepts_or_refuses key value with ⟨made, hmade⟩ | ⟨fault, hfault⟩
  · obtain rfl := Except.ok.inj ((entry_of_accepts hmade).symm.trans h)
    exact hmade
  · cases (entry_of_refuses hfault).symm.trans h

theorem entry_eq_error_iff : entry key value = .error fault ↔ Refuses key value fault := by
  refine ⟨fun h => ?_, entry_of_refuses⟩
  rcases accepts_or_refuses key value with ⟨file, hfile⟩ | ⟨found, hfound⟩
  · cases (entry_of_accepts hfile).symm.trans h
  · obtain rfl := Except.error.inj ((entry_of_refuses hfound).symm.trans h)
    exact hfound

/-! ### Objects of entries -/

theorem ofEntries_cons_of_error (h : entry key value = .error fault) (files : FileSet)
    (rest : List (String × Json)) :
    ofEntries files ((key, value) :: rest) = .error fault := by
  rw [ofEntries, h]
  rfl

theorem ofEntries_cons_of_ok (h : entry key value = .ok file) (files : FileSet)
    (rest : List (String × Json)) :
    ofEntries files ((key, value) :: rest) = ofEntries (files.put file) rest := by
  rw [ofEntries, h]
  rfl

/-- The first entry that is refused decides. -/
theorem ofEntries_eq_error_iff : ofEntries files l = .error fault ↔
    ∃ before key value since, l = before ++ (key, value) :: since ∧ Refuses key value fault ∧
      ∀ e ∈ before, ∃ file, Accepts e.1 e.2 file := by
  induction l generalizing files with
  | nil => simp [ofEntries]
  | cons first rest ih =>
    obtain ⟨key, value⟩ := first
    rcases accepts_or_refuses key value with ⟨file, hfile⟩ | ⟨found, hfound⟩
    · rw [ofEntries_cons_of_ok (entry_of_accepts hfile), ih]
      constructor
      · rintro ⟨before, key', value', since, rfl, hfault, hbefore⟩
        exact ⟨(key, value) :: before, key', value', since, rfl, hfault,
          List.forall_mem_cons.2 ⟨⟨file, hfile⟩, hbefore⟩⟩
      · rintro ⟨before, key', value', since, heq, hfault, hbefore⟩
        rcases List.cons_eq_append_iff.1 heq with ⟨rfl, hfirst⟩ | ⟨before, rfl, rfl⟩
        · obtain ⟨⟨rfl, rfl⟩, -⟩ := List.cons.inj hfirst
          cases (entry_of_accepts hfile).symm.trans (entry_of_refuses hfault)
        · exact ⟨before, key', value', since, rfl, hfault, (List.forall_mem_cons.1 hbefore).2⟩
    · rw [ofEntries_cons_of_error (entry_of_refuses hfound)]
      constructor
      · rintro h
        obtain rfl := Except.error.inj h
        exact ⟨[], key, value, rest, rfl, hfound, by simp⟩
      · rintro ⟨before, key', value', since, heq, hfault, hbefore⟩
        rcases List.cons_eq_append_iff.1 heq with ⟨rfl, hfirst⟩ | ⟨before, rfl, -⟩
        · obtain ⟨⟨rfl, rfl⟩, -⟩ := List.cons.inj hfirst
          rw [Except.error.inj ((entry_of_refuses hfound).symm.trans (entry_of_refuses hfault))]
        · obtain ⟨file, hfile⟩ := hbefore (key, value) List.mem_cons_self
          cases (entry_of_accepts hfile).symm.trans (entry_of_refuses hfound)

/-- Accepted entries are put into the set under their keys, and what else is in it stays. -/
theorem get?_of_ofEntries (hascending : l.Pairwise fun a b => a.1 < b.1)
    (h : ofEntries files l = .ok made) (name : String) :
    (NameMap.find? name l = none → made.get? name = files.get? name) ∧
      ∀ value, NameMap.find? name l = some value →
        ∃ file, Accepts name value file ∧ made.get? name = some file := by
  induction l generalizing files with
  | nil =>
    obtain rfl := Except.ok.inj h
    exact ⟨fun _ => rfl, fun value hvalue => by simp [NameMap.find?] at hvalue⟩
  | cons first rest ih =>
    obtain ⟨key, value⟩ := first
    obtain ⟨hkey, hrest⟩ := List.pairwise_cons.1 hascending
    rcases accepts_or_refuses key value with ⟨file, hfile⟩ | ⟨found, hfound⟩
    · rw [ofEntries_cons_of_ok (entry_of_accepts hfile)] at h
      obtain ⟨hnone, hsome⟩ := ih hrest h
      obtain ⟨-, text, language?, -, rfl⟩ := id hfile
      rw [put, NameMap.get?_insert] at hnone
      rw [NameMap.find?]
      split
      · rename_i heq
        subst heq
        rw [if_pos rfl] at hnone
        have hnot : NameMap.find? key rest = none := NameMap.find?_eq_none_of_forall_lt hkey
        refine ⟨fun hkey => absurd hkey (Option.some_ne_none value), fun value' hvalue => ?_⟩
        obtain rfl := Option.some.inj hvalue
        exact ⟨_, hfile, hnone hnot⟩
      · rename_i hne
        rw [if_neg hne] at hnone
        exact ⟨hnone, hsome⟩
    · cases (ofEntries_cons_of_error (entry_of_refuses hfound) files rest).symm.trans h

theorem Accepts.unique {other : SourceFile} (h : Accepts key value file)
    (hother : Accepts key value other) : file = other :=
  Except.ok.inj ((entry_of_accepts h).symm.trans (entry_of_accepts hother))

theorem not_refuses_of_accepts (h : Accepts key value file) : ¬ Refuses key value fault :=
  fun hfault => nomatch (entry_of_accepts h).symm.trans (entry_of_refuses hfault)

/-- What is no object is refused as that. -/
theorem ofJson_of_not_object {json : Json} (h : ∀ members, json ≠ .object members) :
    ofJson json = .error (.invalidEntry "<root>" "expected an object of files") := by
  cases json with
  | object members => exact absurd rfl (h members)
  | _ => rfl

/-- An object is refused for the first of its keys whose entry is. -/
theorem ofJson_object_eq_error_iff : ofJson (.object members) = .error fault ↔
    ∃ key value, (NameMap.ofList members).get? key = some value ∧ Refuses key value fault ∧
      ∀ key' value', (NameMap.ofList members).get? key' = some value' → key' < key →
        ∃ file, Accepts key' value' file := by
  rw [ofJson, ofEntries_eq_error_iff]
  have hascending := (NameMap.ofList members).ascending
  simp only [NameMap.get?_eq_some_iff]
  constructor
  · rintro ⟨before, key, value, since, heq, hfault, hbefore⟩
    rw [heq] at hascending ⊢
    obtain ⟨-, hsince, -⟩ := List.pairwise_append.1 hascending
    refine ⟨key, value, by simp, hfault, fun key' value' hmem hlt => ?_⟩
    rcases List.mem_append.1 hmem with hmem | hmem
    · exact hbefore (key', value') hmem
    · rcases List.mem_cons.1 hmem with hfirst | hmem
      · obtain ⟨rfl, -⟩ := Prod.mk.inj hfirst
        exact absurd hlt (String.lt_irrefl key')
      · exact absurd hlt (String.lt_asymm ((List.pairwise_cons.1 hsince).1 _ hmem))
  · rintro ⟨key, value, hmem, hfault, hbefore⟩
    obtain ⟨before, since, heq⟩ := List.append_of_mem hmem
    refine ⟨before, key, value, since, heq, hfault, fun e he => ?_⟩
    rw [heq] at hascending hbefore
    exact hbefore e.1 e.2 (List.mem_append_left _ he)
      ((List.pairwise_append.1 hascending).2.2 e he (key, value) List.mem_cons_self)

/-- An entry describes one file only. -/
theorem rel_accepts_unique {value? : Option Json} {file? other? : Option SourceFile}
    (h : Option.Rel (Accepts key) value? file?) (hother : Option.Rel (Accepts key) value? other?) :
    file? = other? := by
  cases h with
  | none =>
    cases hother
    rfl
  | some hfile =>
    cases hother with
    | some hfile' => rw [hfile.unique hfile']

/-- The files of an accepted object. -/
theorem rel_get?_ofJson (h : ofJson (.object members) = .ok made) (key : String) :
    Option.Rel (Accepts key) ((NameMap.ofList members).get? key) (made.get? key) := by
  obtain ⟨hnone, hsome⟩ := get?_of_ofEntries (NameMap.ofList members).ascending h key
  cases hvalue : (NameMap.ofList members).get? key with
  | none =>
    rw [hnone hvalue, NameMap.get?_empty]
    exact .none
  | some value =>
    obtain ⟨file, hfile, hmade⟩ := hsome value hvalue
    rw [hmade]
    exact .some hfile

/-- An object is accepted if all of its entries are. -/
theorem exists_ofJson_object_iff : (∃ files, ofJson (.object members) = .ok files) ↔
    ∀ key value, (NameMap.ofList members).get? key = some value →
      ∃ file, Accepts key value file := by
  constructor
  · rintro ⟨files, hfiles⟩ key value hvalue
    have hkey := rel_get?_ofJson hfiles key
    rw [hvalue] at hkey
    generalize files.get? key = file? at hkey
    cases hkey with
    | some hfile => exact ⟨_, hfile⟩
  · intro h
    cases hmade : ofJson (.object members) with
    | ok files => exact ⟨files, rfl⟩
    | error fault =>
      obtain ⟨key, value, hvalue, hfault, -⟩ := ofJson_object_eq_error_iff.1 hmade
      obtain ⟨file, hfile⟩ := h key value hvalue
      exact absurd hfault (not_refuses_of_accepts hfile)

/-- An accepted object has the files of its entries under the same keys. -/
theorem ofJson_object_eq_ok_iff : ofJson (.object members) = .ok files ↔
    ∀ key, Option.Rel (Accepts key) ((NameMap.ofList members).get? key) (files.get? key) := by
  refine ⟨rel_get?_ofJson, fun h => ?_⟩
  obtain ⟨made, hmade⟩ : ∃ made, ofJson (.object members) = .ok made :=
    exists_ofJson_object_iff.2 fun key value hvalue => by
      have hkey := h key
      rw [hvalue] at hkey
      generalize files.get? key = file? at hkey
      cases hkey with
      | some hfile => exact ⟨_, hfile⟩
  rw [hmade, NameMap.ext_get? fun key => rel_accepts_unique (rel_get?_ofJson hmade key) (h key)]

/-- A value is accepted exactly if it is an object each of whose entries is accepted, and then the
set has exactly the keys of the object with the files that the entries describe. What is no object
is refused as that. Any other object is refused for the first key, in the order of the bytes, whose
entry is not accepted, with the fault of the first check of that entry that fails. -/
theorem ofJson_by_grammar (json : Json) :
    (∀ files, ofJson json = .ok files ↔ ∃ members, json = .object members ∧
      ∀ key, Option.Rel (Accepts key) ((NameMap.ofList members).get? key) (files.get? key)) ∧
    ((∃ files, ofJson json = .ok files) ↔ ∃ members, json = .object members ∧
      ∀ key value, (NameMap.ofList members).get? key = some value →
        ∃ file, Accepts key value file) ∧
    ∀ fault, ofJson json = .error fault ↔
      (∀ members, json ≠ .object members) ∧
        fault = .invalidEntry "<root>" "expected an object of files" ∨
      ∃ members key value, json = .object members ∧
        (NameMap.ofList members).get? key = some value ∧ Refuses key value fault ∧
        ∀ key' value', (NameMap.ofList members).get? key' = some value' →
          List.Lex (· < ·) (NameMap.bytes key') (NameMap.bytes key) →
            ∃ file, Accepts key' value' file := by
  simp only [← NameMap.lt_iff_bytes]
  by_cases h : ∃ members, json = .object members
  · obtain ⟨members, rfl⟩ := h
    refine ⟨fun files => ?_, ?_, fun fault => ?_⟩
    · rw [ofJson_object_eq_ok_iff]
      simp
    · rw [exists_ofJson_object_iff]
      simp
    · rw [ofJson_object_eq_error_iff]
      simp
  · have hrecord := not_exists.1 h
    rw [ofJson_of_not_object hrecord]
    refine ⟨fun files => iff_of_false nofun ?_, iff_of_false nofun ?_, fun fault => ?_⟩
    · exact fun ⟨members, hmembers, _⟩ => hrecord members hmembers
    · exact fun ⟨members, hmembers, _⟩ => hrecord members hmembers
    · rw [Except.error.injEq]
      constructor
      · exact fun hfault => .inl ⟨hrecord, hfault.symm⟩
      · rintro (⟨-, rfl⟩ | ⟨members, _, _, hmembers, -⟩)
        · rfl
        · exact absurd hmembers (hrecord members)

/-- The key that comes first decides, not the entry that does. -/
example : ofJson (.object [("b.ts", .null), ("a.ts", .object [("value", .null)])]) =
    .error (.invalidEntry "a.ts" "content is not a string") := rfl

end LivePreview.FileSet
