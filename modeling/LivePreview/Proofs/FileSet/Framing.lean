import LivePreview.FileSet
import LivePreview.Proofs.Fingerprint
import LivePreview.Proofs.Text.Search

/-!
# The text that a file set is fingerprinted by

The fingerprint of a file set is that of one text, in which the names, languages and contents of the
files stand one after another, a NUL behind each. As long as no name and no content holds a NUL, the
text can be taken apart again: each field ends at the next NUL, and every file has three of them. So
the text belongs to one file set only, and where different sets have the same fingerprint, it is the
hash that gives two texts the same value.

## Main definitions

* `LivePreview.FileSet.framing`: the text.
* `LivePreview.FileSet.NulFree`: no name and no content holds a NUL.

## Main results

* `LivePreview.FileSet.join_frame_inj`: the text belongs to one list of files only.
* `LivePreview.FileSet.framing_unambiguous`: the text belongs to one file set only.
-/

namespace LivePreview

open Text (append_cons_inj_of_notMem)

theorem Language.tag_inj {l l' : Language} (h : l.tag = l'.tag) : l = l' := by
  have hsome : some l = some l' := by rw [← ofTag?_tag l, ← ofTag?_tag l', h]
  exact Option.some.inj hsome

/-- A tag can be followed by a NUL. -/
theorem Language.nul_notMem_tag (l : Language) : '\x00' ∉ l.tag.toList := by
  cases l <;> decide

namespace FileSet

/-- The text that a file set is fingerprinted by. -/
def framing (files : FileSet) : String := String.join (files.values.flatMap frame)

/-- No name and no content of a file holds a NUL. -/
def NulFree (files : FileSet) : Prop :=
  ∀ file ∈ files.values, '\x00' ∉ file.name.toList ∧ '\x00' ∉ file.content.toList

theorem fingerprint_eq_ofText_framing (files : FileSet) :
    files.fingerprint = .ofText files.framing :=
  Fingerprint.ofParts_eq_ofText _

/-! ### Lists of files -/

/-- The fields of the first file, each with its NUL, and the text of the other files. -/
theorem toList_join_frame_cons (file : SourceFile) (l : List SourceFile) :
    (String.join ((file :: l).flatMap frame)).toList =
      file.name.toList ++ '\x00' :: (file.language.tag.toList ++
        '\x00' :: (file.content.toList ++ '\x00' :: (String.join (l.flatMap frame)).toList)) := by
  have hparts : (file :: l).flatMap frame = frame file ++ l.flatMap frame := List.flatMap_cons
  rw [hparts, frame]
  simp [String.join_cons]

/-- The text belongs to one list of files only. -/
theorem join_frame_inj {l l' : List SourceFile}
    (hl : ∀ file ∈ l, '\x00' ∉ file.name.toList ∧ '\x00' ∉ file.content.toList)
    (hl' : ∀ file ∈ l', '\x00' ∉ file.name.toList ∧ '\x00' ∉ file.content.toList)
    (h : String.join (l.flatMap frame) = String.join (l'.flatMap frame)) : l = l' := by
  replace h := congrArg String.toList h
  induction l generalizing l' with
  | nil =>
    cases l' with
    | nil => rfl
    | cons file' l' =>
      rw [toList_join_frame_cons] at h
      simp at h
  | cons file l ih =>
    cases l' with
    | nil =>
      rw [toList_join_frame_cons] at h
      simp at h
    | cons file' l' =>
      rw [toList_join_frame_cons, toList_join_frame_cons] at h
      obtain ⟨⟨hname, hcontent⟩, hrest⟩ := List.forall_mem_cons.1 hl
      obtain ⟨⟨hname', hcontent'⟩, hrest'⟩ := List.forall_mem_cons.1 hl'
      -- Each field is what stands before the next NUL.
      obtain ⟨hnames, h⟩ := append_cons_inj_of_notMem hname hname' h
      obtain ⟨htags, h⟩ := append_cons_inj_of_notMem file.language.nul_notMem_tag
        file'.language.nul_notMem_tag h
      obtain ⟨hcontents, h⟩ := append_cons_inj_of_notMem hcontent hcontent' h
      have hfile : file = file' := by
        cases file
        cases file'
        rw [SourceFile.mk.injEq]
        exact ⟨String.toList_inj.1 hnames, String.toList_inj.1 hcontents,
          Language.tag_inj (String.toList_inj.1 htags)⟩
      rw [hfile, ih hrest hrest' h]

/-! ### File sets -/

/-- Where every file is under its own name, the files tell the entries. -/
theorem Keyed.entries_eq {files : FileSet} (h : files.Keyed) :
    files.entries = files.values.map fun file => (file.name, file) := by
  have hentry : ∀ e ∈ files.entries, (e.2.name, e.2) = e := fun e he =>
    Prod.ext (h e.1 e.2 ((NameMap.get?_eq_some_iff files e.1 e.2).2 he)) rfl
  rw [NameMap.values, List.map_map]
  exact ((List.map_congr_left hentry).trans (List.map_id _)).symm

theorem Keyed.eq_of_values {files files' : FileSet} (h : files.Keyed) (h' : files'.Keyed)
    (hvalues : files.values = files'.values) : files = files' := by
  have hentries : files.entries = files'.entries := by rw [h.entries_eq, h'.entries_eq, hvalues]
  cases files
  cases files'
  cases hentries
  rfl

/-- The fingerprint of a file set is that of its text. Of two file sets in which every file is under
its own name and no name and no content holds a NUL, the texts are the same exactly if the sets have
the same files, in name, language and content. So if different ones have the same fingerprint, their
texts are different ones with the same hash. -/
theorem framing_unambiguous :
    (∀ files : FileSet, files.fingerprint = .ofText files.framing) ∧
    ∀ files files' : FileSet, files.Keyed → files'.Keyed → files.NulFree → files'.NulFree →
      (files.framing = files'.framing ↔ files = files') ∧
      (files ≠ files' → files.fingerprint = files'.fingerprint →
        files.framing ≠ files'.framing ∧
          Fingerprint.ofText files.framing = Fingerprint.ofText files'.framing) := by
  refine ⟨fingerprint_eq_ofText_framing, fun files files' hkeyed hkeyed' hfree hfree' => ?_⟩
  have heq : files.framing = files'.framing ↔ files = files' :=
    ⟨fun h => hkeyed.eq_of_values hkeyed' (join_frame_inj hfree hfree' h), congrArg framing⟩
  refine ⟨heq, fun hne hsame => ⟨mt heq.1 hne, ?_⟩⟩
  rw [← fingerprint_eq_ofText_framing, ← fingerprint_eq_ofText_framing, hsame]

/-- Two contents with the same hash give their sets the same fingerprint, by different texts. -/
theorem framing_unambiguous_collision :
    let files : FileSet := ofFiles [⟨"a.ts", "Aa", .script⟩, ⟨"b", "", .other⟩]
    let files' : FileSet := ofFiles [⟨"a.ts", "BB", .script⟩, ⟨"b", "", .other⟩]
    (files.Keyed ∧ files'.Keyed ∧ files.NulFree ∧ files'.NulFree) ∧
      files ≠ files' ∧ files.fingerprint = files'.fingerprint ∧
      files.framing ≠ files'.framing ∧
        Fingerprint.ofText files.framing = Fingerprint.ofText files'.framing := by
  intro files files'
  have hkeyed : files.Keyed := keyed_ofFiles _
  have hkeyed' : files'.Keyed := keyed_ofFiles _
  have hfree : files.NulFree := by
    rw [NulFree]
    decide
  have hfree' : files'.NulFree := by
    rw [NulFree]
    decide
  have hne : files ≠ files' := by decide
  have hsame : files.fingerprint = files'.fingerprint := by decide +kernel
  exact ⟨⟨hkeyed, hkeyed', hfree, hfree'⟩, hne, hsame,
    (framing_unambiguous.2 files files' hkeyed hkeyed' hfree hfree').2 hne hsame⟩

end FileSet

end LivePreview
