import LivePreview.FileSet.Folder
import LivePreview.Proofs.FileSet.Grammar
import LivePreview.Proofs.FileTree
import LivePreview.Proofs.Resolve.Paths
import LivePreview.Proofs.Text.Utf8

/-!
# What is taken over from a folder

The files below a folder that are not hidden are taken over, each under its path from there, if all
of them are text and none has a blank path. Else the first one in the order of the walk that is not
decides. Hidden files are not read, and what is in them does not matter.

## Main definitions

* `LivePreview.FileSet.Shown`: the files below a folder that are not hidden.
* `LivePreview.FileSet.Takes`, `LivePreview.FileSet.Stops`: the file that a path and its bytes give,
  and why there is none.
* `LivePreview.FileSet.Precedes`: the order in which a walk meets paths.
* `LivePreview.FileSet.noting`: a reader that notes what it is asked for.

## Main results

* `LivePreview.FileSet.exists_ofFolder_iff`: which folders are taken over.
* `LivePreview.FileSet.get?_ofFolder`: the files that are taken over.
* `LivePreview.FileSet.ofFolder_eq_error_iff`: the first file that gives none decides.
* `LivePreview.FileSet.exists_run_ofPaths`: what is read.
* `LivePreview.FileSet.folder_taken_over`: all of it for the folders of a file system.
-/

namespace LivePreview.FileSet

variable {tree : FileTree} {folder path : List String} {bytes : ByteArray} {text : String}
  {file : SourceFile} {files made : FileSet} {fault : Fault} {l : List (List String)}

/-! ### One file -/

/-- The bytes of a file below a folder whose path from there is not hidden. -/
structure Shown (tree : FileTree) (folder path : List String) (bytes : ByteArray) : Prop where
  /-- The file is at the path. -/
  located : tree.locate (folder ++ path) = .ok (.file bytes)
  /-- No segment of the path starts with a dot. -/
  visible : ∀ segment ∈ path, segment.toList.head? ≠ some '.'

/-- The file that a path and its bytes give: the text that the bytes are the UTF-8 of, under the
joined path, in the language of its extension. -/
inductive Takes (path : List String) (bytes : ByteArray) : SourceFile → Prop
  | mk {text : String} (hbytes : text.toUTF8 = bytes)
      (hname : Text.isBlankText ("/".intercalate path) = false) :
      Takes path bytes ⟨"/".intercalate path, text, Language.ofFileName ("/".intercalate path)⟩

/-- Why a path and its bytes give no file: the bytes are not UTF-8, or the joined path is blank. -/
inductive Stops (folder path : List String) (bytes : ByteArray) : Fault → Prop
  | encoding (h : ∀ text : String, text.toUTF8 ≠ bytes) :
      Stops folder path bytes (@Fault.read (folder ++ path) .invalidData)
  | blank {text : String} (hbytes : text.toUTF8 = bytes)
      (hname : Text.isBlankText ("/".intercalate path) = true) :
      Stops folder path bytes .emptyName

theorem hidden_eq_false_iff :
    hidden path = false ↔ ∀ segment ∈ path, segment.toList.head? ≠ some '.' := by
  simp [hidden]

theorem decodeText_toUTF8 (text : String) : decodeText text.toUTF8 = .ok text := by
  rw [decodeText, Text.fromUTF8?_eq_some_iff.2 rfl]

theorem decodeText_of_forall_ne (h : ∀ text : String, text.toUTF8 ≠ bytes) :
    decodeText bytes = .error .invalidData := by
  have hnone : String.fromUTF8? bytes = none :=
    Option.eq_none_iff_forall_ne_some.2 fun text htext => h text (Text.fromUTF8?_eq_some_iff.1 htext)
  rw [decodeText, hnone]

/-- The file at a path of a tree. -/
def fileOf (tree : FileTree) (folder path : List String) : Except Fault SourceFile :=
  Id.run (fileAt (fun file => return readText file tree) folder path)

theorem fileOf_eq (h : tree.locate (folder ++ path) = .ok (.file bytes)) :
    fileOf tree folder path = match decodeText bytes with
      | .ok text => newFile ("/".intercalate path) text
      | .error reason => .error (@Fault.read (folder ++ path) reason) := by
  have hread : readText (folder ++ path) tree = decodeText bytes := by
    rw [readText, h]
  rw [← hread]
  simp only [fileOf, fileAt, pure_bind]
  cases readText (folder ++ path) tree <;> rfl

theorem fileOf_of_takes (h : tree.locate (folder ++ path) = .ok (.file bytes))
    (htakes : Takes path bytes file) : fileOf tree folder path = .ok file := by
  obtain ⟨rfl, hname⟩ := htakes
  rw [fileOf_eq h, decodeText_toUTF8]
  exact newFile_of_not_blank hname _

theorem fileOf_of_stops (h : tree.locate (folder ++ path) = .ok (.file bytes))
    (hstops : Stops folder path bytes fault) : fileOf tree folder path = .error fault := by
  rw [fileOf_eq h]
  cases hstops with
  | encoding hbytes => rw [decodeText_of_forall_ne hbytes]
  | blank hbytes hname =>
    subst hbytes
    rw [decodeText_toUTF8]
    exact newFile_of_blank hname _

theorem takes_or_stops (folder path : List String) (bytes : ByteArray) :
    (∃ file, Takes path bytes file) ∨ ∃ fault, Stops folder path bytes fault := by
  by_cases hbytes : ∃ text : String, text.toUTF8 = bytes
  · obtain ⟨text, htext⟩ := hbytes
    cases hname : Text.isBlankText ("/".intercalate path) with
    | false => exact .inl ⟨_, .mk htext hname⟩
    | true => exact .inr ⟨_, .blank htext hname⟩
  · exact .inr ⟨_, .encoding (not_exists.1 hbytes)⟩

theorem fileOf_eq_ok_iff (h : tree.locate (folder ++ path) = .ok (.file bytes)) :
    fileOf tree folder path = .ok file ↔ Takes path bytes file := by
  refine ⟨fun hfile => ?_, fileOf_of_takes h⟩
  rcases takes_or_stops folder path bytes with ⟨other, hother⟩ | ⟨fault, hfault⟩
  · obtain rfl := Except.ok.inj ((fileOf_of_takes h hother).symm.trans hfile)
    exact hother
  · cases (fileOf_of_stops h hfault).symm.trans hfile

theorem fileOf_eq_error_iff (h : tree.locate (folder ++ path) = .ok (.file bytes)) :
    fileOf tree folder path = .error fault ↔ Stops folder path bytes fault := by
  refine ⟨fun hfile => ?_, fileOf_of_stops h⟩
  rcases takes_or_stops folder path bytes with ⟨other, hother⟩ | ⟨found, hfound⟩
  · cases (fileOf_of_takes h hother).symm.trans hfile
  · obtain rfl := Except.error.inj ((fileOf_of_stops h hfound).symm.trans hfile)
    exact hfound

/-! ### Many files -/

/-- The set with the files at some paths, the first path without one deciding. -/
def collect (item : List String → Except Fault SourceFile) (files : FileSet) :
    List (List String) → Except Fault FileSet
  | [] => .ok files
  | path :: rest =>
    match item path with
    | .ok file => collect item (files.put file) rest
    | .error fault => .error fault

variable {item : List String → Except Fault SourceFile}

theorem collect_cons_of_ok (h : item path = .ok file) (files : FileSet) (l : List (List String)) :
    collect item files (path :: l) = collect item (files.put file) l := by
  rw [collect, h]

theorem collect_cons_of_error (h : item path = .error fault) (files : FileSet)
    (l : List (List String)) : collect item files (path :: l) = .error fault := by
  rw [collect, h]

/-- The files at some paths, as far as there are any. -/
def taken (item : List String → Except Fault SourceFile) (l : List (List String)) :
    List SourceFile :=
  l.filterMap fun path => (item path).toOption

theorem collect_eq_ok_iff : collect item files l = .ok made ↔
    (∀ path ∈ l, ∃ file, item path = .ok file) ∧ made = (taken item l).foldl put files := by
  induction l generalizing files with
  | nil => simp [collect, taken, eq_comm]
  | cons path l ih =>
    cases h : item path with
    | ok file =>
      rw [collect_cons_of_ok h, ih, List.forall_mem_cons]
      simp [h, taken, Except.toOption]
    | error fault =>
      rw [collect_cons_of_error h]
      simp [h]

theorem collect_eq_error_iff : collect item files l = .error fault ↔
    ∃ before path since, l = before ++ path :: since ∧ item path = .error fault ∧
      ∀ p ∈ before, ∃ file, item p = .ok file := by
  induction l generalizing files with
  | nil => simp [collect]
  | cons path l ih =>
    cases h : item path with
    | ok file =>
      rw [collect_cons_of_ok h, ih]
      constructor
      · rintro ⟨before, path', since, rfl, hfault, hbefore⟩
        exact ⟨path :: before, path', since, rfl, hfault,
          List.forall_mem_cons.2 ⟨⟨file, h⟩, hbefore⟩⟩
      · rintro ⟨before, path', since, heq, hfault, hbefore⟩
        rcases List.cons_eq_append_iff.1 heq with ⟨rfl, hfirst⟩ | ⟨before, rfl, rfl⟩
        · obtain ⟨rfl, -⟩ := List.cons.inj hfirst
          cases h.symm.trans hfault
        · exact ⟨before, path', since, rfl, hfault, (List.forall_mem_cons.1 hbefore).2⟩
    | error found =>
      rw [collect_cons_of_error h]
      constructor
      · intro hfault
        obtain rfl := Except.error.inj hfault
        exact ⟨[], path, l, rfl, h, by simp⟩
      · rintro ⟨before, path', since, heq, hfault, hbefore⟩
        rcases List.cons_eq_append_iff.1 heq with ⟨rfl, hfirst⟩ | ⟨before, rfl, -⟩
        · obtain ⟨rfl, -⟩ := List.cons.inj hfirst
          rw [Except.error.inj (h.symm.trans hfault)]
        · obtain ⟨file, hfile⟩ := hbefore path List.mem_cons_self
          cases h.symm.trans hfile

theorem run_ofPaths (tree : FileTree) (folder : List String) (files : FileSet)
    (l : List (List String)) :
    Id.run (ofPaths (fun file => return readText file tree) folder files l) =
      collect (fileOf tree folder) files (l.filter fun path => !hidden path) := by
  induction l generalizing files with
  | nil => rfl
  | cons path l ih =>
    rw [ofPaths]
    cases hhidden : hidden path with
    | true =>
      rw [if_pos rfl, List.filter_cons_of_neg (by simp [hhidden]), ih]
    | false =>
      rw [if_neg Bool.false_ne_true, List.filter_cons_of_pos (by simp [hhidden]), Id.run_bind]
      cases hfile : fileOf tree folder path with
      | ok file =>
        rw [collect_cons_of_ok hfile, ← ih]
        rw [fileOf] at hfile
        rw [hfile]
      | error fault =>
        rw [collect_cons_of_error hfile]
        rw [fileOf] at hfile
        rw [hfile]
        rfl

/-! ### The files of a folder -/

/-- The paths from a folder to its files, except for hidden ones. -/
def shownPaths (node : FileTree) : List (List String) := node.walk.filter fun path => !hidden path

theorem ofFolder_eq_collect {node : FileTree} (h : tree.locate folder = .ok node) :
    ofFolder folder tree =
      collect (fileOf tree folder) NameMap.empty (shownPaths node) := by
  rw [ofFolder, gather, h, shownPaths, ← run_ofPaths]

section Folder

variable {node : FileTree}

theorem mem_shownPaths_iff (hnode : node.WellFormed) (h : tree.locate folder = .ok node) :
    path ∈ shownPaths node ↔ ∃ bytes, Shown tree folder path bytes := by
  rw [shownPaths, List.mem_filter, FileTree.mem_walk_iff hnode, Bool.not_eq_true',
    hidden_eq_false_iff]
  constructor
  · rintro ⟨⟨bytes, hbytes⟩, hvisible⟩
    exact ⟨bytes, (FileTree.locate_append h path).trans hbytes, hvisible⟩
  · rintro ⟨bytes, hbytes, hvisible⟩
    exact ⟨⟨bytes, (FileTree.locate_append h path).symm.trans hbytes⟩, hvisible⟩

theorem pairwise_shownPaths (hnode : node.WellFormed) :
    (shownPaths node).Pairwise (List.Lex (· < ·)) :=
  (FileTree.pairwise_walk hnode).filter _

/-- Files below a folder have different names. -/
theorem Shown.path_inj {other : List String} {bytes' : ByteArray} (htree : tree.WellFormed)
    {children : List (String × FileTree)} (hfolder : tree.locate folder = .ok (.folder children))
    (h : Shown tree folder path bytes) (hother : Shown tree folder other bytes')
    (heq : "/".intercalate path = "/".intercalate other) : path = other := by
  have hsegments {p : List String} {b : ByteArray} (hp : Shown tree folder p b) :
      p ≠ [] ∧ ∀ segment ∈ p, '/' ∉ segment.toList := by
    constructor
    · rintro rfl
      have hfile := hp.located
      rw [List.append_nil, hfolder] at hfile
      cases hfile
    · intro segment hsegment
      exact ((htree.locate hp.located).2 segment (List.mem_append_right folder hsegment)).2
  obtain ⟨hne, hslash⟩ := hsegments h
  obtain ⟨hne', hslash'⟩ := hsegments hother
  rw [← Resolve.segments_intercalate hne hslash, heq, Resolve.segments_intercalate hne' hslash']

theorem get?_foldl_put {l : List SourceFile} {name : String}
    (h : l.Pairwise fun a b => a.name ≠ b.name) : (l.foldl put files).get? name = some file ↔
      file ∈ l ∧ file.name = name ∨
        (∀ other ∈ l, other.name ≠ name) ∧ files.get? name = some file := by
  induction l generalizing files with
  | nil => simp
  | cons first l ih =>
    obtain ⟨hfirst, hrest⟩ := List.pairwise_cons.1 h
    rw [List.foldl_cons, ih hrest, put, NameMap.get?_insert, List.forall_mem_cons, List.mem_cons]
    by_cases hname : first.name = name
    · subst hname
      have hnone : ∀ other ∈ l, other.name ≠ first.name := fun other hother =>
        (hfirst other hother).symm
      simp only [if_pos, Option.some.injEq]
      constructor
      · rintro (⟨hmem, heq⟩ | ⟨-, rfl⟩)
        · exact absurd heq (hnone file hmem)
        · exact .inl ⟨.inl rfl, rfl⟩
      · rintro (⟨rfl | hmem, heq⟩ | ⟨⟨hne, -⟩, -⟩)
        · exact .inr ⟨hnone, rfl⟩
        · exact absurd heq (hnone file hmem)
        · exact absurd rfl hne
    · rw [if_neg hname]
      constructor
      · rintro (⟨hmem, heq⟩ | ⟨hnone, hfile⟩)
        · exact .inl ⟨.inr hmem, heq⟩
        · exact .inr ⟨⟨hname, hnone⟩, hfile⟩
      · rintro (⟨rfl | hmem, heq⟩ | ⟨⟨-, hnone⟩, hfile⟩)
        · exact absurd heq hname
        · exact .inl ⟨hmem, heq⟩
        · exact .inr ⟨hnone, hfile⟩

/-- A folder is taken over if each of its files gives one. -/
theorem exists_ofFolder_iff (htree : tree.WellFormed)
    (hfolder : tree.locate folder = .ok node) : (∃ files, ofFolder folder tree = .ok files) ↔
      ∀ path bytes, Shown tree folder path bytes → ∃ file, Takes path bytes file := by
  have hnode := (htree.locate hfolder).1
  rw [ofFolder_eq_collect hfolder]
  simp only [collect_eq_ok_iff, exists_and_left, exists_eq, and_true,
    mem_shownPaths_iff hnode hfolder]
  constructor
  · intro h path bytes hshown
    obtain ⟨file, hfile⟩ := h path ⟨bytes, hshown⟩
    exact ⟨file, (fileOf_eq_ok_iff hshown.located).1 hfile⟩
  · rintro h path ⟨bytes, hshown⟩
    obtain ⟨file, hfile⟩ := h path bytes hshown
    exact ⟨file, fileOf_of_takes hshown.located hfile⟩

theorem Takes.name_eq (h : Takes path bytes file) : file.name = "/".intercalate path := by
  cases h
  rfl

theorem exists_takes_iff : (∃ file, Takes path bytes file) ↔
    (∃ text : String, text.toUTF8 = bytes) ∧ Text.isBlankText ("/".intercalate path) = false := by
  constructor
  · rintro ⟨_, hbytes, hname⟩
    exact ⟨⟨_, hbytes⟩, hname⟩
  · rintro ⟨⟨text, hbytes⟩, hname⟩
    exact ⟨_, .mk hbytes hname⟩

theorem toOption_fileOf (hshown : Shown tree folder path bytes) :
    (fileOf tree folder path).toOption = some file ↔ Takes path bytes file := by
  rw [← fileOf_eq_ok_iff hshown.located]
  cases fileOf tree folder path with
  | ok other => simp [Except.toOption]
  | error fault => simp [Except.toOption]

theorem mem_taken_iff (hnode : node.WellFormed) (hfolder : tree.locate folder = .ok node) :
    file ∈ taken (fileOf tree folder) (shownPaths node) ↔
      ∃ path bytes, Shown tree folder path bytes ∧ Takes path bytes file := by
  simp only [taken, List.mem_filterMap, mem_shownPaths_iff hnode hfolder]
  constructor
  · rintro ⟨path, ⟨bytes, hshown⟩, hfile⟩
    exact ⟨path, bytes, hshown, (toOption_fileOf hshown).1 hfile⟩
  · rintro ⟨path, bytes, hshown, hfile⟩
    exact ⟨path, ⟨bytes, hshown⟩, (toOption_fileOf hshown).2 hfile⟩

/-- The files of an accepted folder are those that its files give, each under its own path. -/
theorem get?_ofFolder {children : List (String × FileTree)} (htree : tree.WellFormed)
    (hfolder : tree.locate folder = .ok (.folder children)) (h : ofFolder folder tree = .ok made)
    (name : String) : made.get? name = some file ↔
      ∃ path bytes, Shown tree folder path bytes ∧ name = "/".intercalate path ∧
        Takes path bytes file := by
  have hnode := (htree.locate hfolder).1
  have hmem {p : List String} :
      p ∈ shownPaths (.folder children) ↔ ∃ bytes, Shown tree folder p bytes :=
    mem_shownPaths_iff hnode hfolder
  have hnames : (taken (fileOf tree folder) (shownPaths (.folder children))).Pairwise
      fun a b => a.name ≠ b.name := by
    refine List.pairwise_filterMap.2 ((pairwise_shownPaths hnode).imp_of_mem ?_)
    intro p q hp hq hlex a ha b hb heq
    obtain ⟨bytes, hshown⟩ := hmem.1 hp
    obtain ⟨bytes', hshown'⟩ := hmem.1 hq
    have hpath := ((toOption_fileOf hshown).1 ha).name_eq
    have hpath' := ((toOption_fileOf hshown').1 hb).name_eq
    obtain rfl := hshown.path_inj htree hfolder hshown' (by rw [← hpath, ← hpath', heq])
    exact List.lex_irrefl String.lt_irrefl _ hlex
  rw [ofFolder_eq_collect hfolder] at h
  obtain ⟨-, rfl⟩ := collect_eq_ok_iff.1 h
  rw [get?_foldl_put hnames, mem_taken_iff hnode hfolder]
  constructor
  · rintro (⟨⟨path, bytes, hshown, htakes⟩, rfl⟩ | ⟨-, hnone⟩)
    · exact ⟨path, bytes, hshown, htakes.name_eq, htakes⟩
    · simp at hnone
  · rintro ⟨path, bytes, hshown, rfl, htakes⟩
    exact .inl ⟨⟨path, bytes, hshown, htakes⟩, htakes.name_eq⟩

/-! ### The first refused file -/

/-- The order in which a walk meets paths: at the first segment in which they differ, the one with
the lower bytes comes first. -/
def Precedes (p q : List String) : Prop :=
  List.Lex (fun a b => List.Lex (· < ·) (NameMap.bytes a) (NameMap.bytes b)) p q

theorem precedes_iff {p q : List String} : Precedes p q ↔ List.Lex (· < ·) p q := by
  simp only [Precedes, ← NameMap.lt_iff_bytes]

theorem Precedes.irrefl (p : List String) : ¬ Precedes p p := fun h =>
  List.lex_irrefl String.lt_irrefl p (precedes_iff.1 h)

theorem Precedes.asymm {p q : List String} (h : Precedes p q) : ¬ Precedes q p := fun hback =>
  List.lex_irrefl String.lt_irrefl p
    (List.lex_trans String.lt_trans (precedes_iff.1 h) (precedes_iff.1 hback))

theorem ofFolder_eq_error_iff (htree : tree.WellFormed) (hfolder : tree.locate folder = .ok node) :
    ofFolder folder tree = .error fault ↔
      ∃ path bytes, Shown tree folder path bytes ∧ Stops folder path bytes fault ∧
        ∀ path' bytes', Shown tree folder path' bytes' → Precedes path' path →
          ∃ file, Takes path' bytes' file := by
  have hnode := (htree.locate hfolder).1
  have hmem {p : List String} : p ∈ shownPaths node ↔ ∃ bytes, Shown tree folder p bytes :=
    mem_shownPaths_iff hnode hfolder
  have hsorted : (shownPaths node).Pairwise Precedes :=
    (pairwise_shownPaths hnode).imp precedes_iff.2
  rw [ofFolder_eq_collect hfolder, collect_eq_error_iff]
  constructor
  · rintro ⟨before, path, since, heq, hfault, hbefore⟩
    rw [heq] at hmem hsorted
    obtain ⟨bytes, hshown⟩ := hmem.1 (List.mem_append_right before List.mem_cons_self)
    refine ⟨path, bytes, hshown, (fileOf_eq_error_iff hshown.located).1 hfault, ?_⟩
    intro path' bytes' hshown' hprecedes
    rcases List.mem_append.1 (hmem.2 ⟨bytes', hshown'⟩) with hpath' | hpath'
    · obtain ⟨file, hfile⟩ := hbefore path' hpath'
      exact ⟨file, (fileOf_eq_ok_iff hshown'.located).1 hfile⟩
    · have hsince := List.pairwise_cons.1 (List.pairwise_append.1 hsorted).2.1
      rcases List.mem_cons.1 hpath' with rfl | hpath'
      · exact absurd hprecedes (Precedes.irrefl path')
      · exact absurd hprecedes (hsince.1 path' hpath').asymm
  · rintro ⟨path, bytes, hshown, hstops, hbefore⟩
    obtain ⟨before, since, heq⟩ := List.append_of_mem (hmem.2 ⟨bytes, hshown⟩)
    refine ⟨before, path, since, heq, fileOf_of_stops hshown.located hstops, fun p hp => ?_⟩
    rw [heq] at hmem hsorted
    obtain ⟨bytes', hshown'⟩ := hmem.1 (List.mem_append_left _ hp)
    have hprecedes := (List.pairwise_append.1 hsorted).2.2 p hp path List.mem_cons_self
    obtain ⟨file, hfile⟩ := hbefore p bytes' hshown' hprecedes
    exact ⟨file, fileOf_of_takes hshown'.located hfile⟩

/-! ### What is read -/

/-- A reader of the files of a tree that notes the paths it is asked for. -/
def noting (tree : FileTree) (path : List String) :
    StateM (List (List String)) (Except ReadFault String) := do
  modify (· ++ [path])
  return readText path tree

theorem run_fileAt_noting (log : List (List String)) : (fileAt (noting tree) folder path).run log =
    (fileOf tree folder path, log ++ [folder ++ path]) := by
  have hread : (noting tree (folder ++ path)).run log =
    (readText (folder ++ path) tree, log ++ [folder ++ path]) := rfl
  rw [fileAt, StateT.run_bind, hread]
  simp only [fileOf, fileAt, pure_bind]
  cases readText (folder ++ path) tree <;> rfl

/-- No hidden file is read. What is read are the other files in the order of the walk, the last one
being the first that gives no file, if there is one. -/
theorem exists_run_ofPaths (files : FileSet) (log : List (List String)) :
    ∃ asked : List (List String), (ofPaths (noting tree) folder files l).run log =
        (collect (fileOf tree folder) files (l.filter fun path => !hidden path),
          log ++ asked.map (folder ++ ·)) ∧
      asked <+: l.filter fun path => !hidden path := by
  induction l generalizing files log with
  | nil => exact ⟨[], by rw [List.map_nil, List.append_nil]; rfl, List.nil_prefix⟩
  | cons path l ih =>
    rw [ofPaths]
    cases hhidden : hidden path with
    | true =>
      rw [if_pos rfl, List.filter_cons_of_neg (by simp [hhidden])]
      exact ih files log
    | false =>
      rw [if_neg Bool.false_ne_true, List.filter_cons_of_pos (by simp [hhidden]), StateT.run_bind,
        run_fileAt_noting]
      cases hfile : fileOf tree folder path with
      | ok file =>
        obtain ⟨asked, hrun, hbefore⟩ := ih (files.put file) (log ++ [folder ++ path])
        refine ⟨path :: asked, ?_, List.prefix_cons_inj path |>.2 hbefore⟩
        rw [collect_cons_of_ok hfile]
        refine hrun.trans ?_
        simp
      | error fault =>
        refine ⟨[path], ?_, List.prefix_cons_inj path |>.2 List.nil_prefix⟩
        rw [collect_cons_of_error hfile]
        rfl

end Folder

/-! ### Folders of a file system -/

section Trees

variable {children : List (String × FileTree)}

/-- Trees with the same files below a folder, hidden ones apart, give the same. -/
theorem ofFolder_congr {other : FileTree} {children' : List (String × FileTree)}
    (htree : tree.WellFormed) (hfolder : tree.locate folder = .ok (.folder children))
    (hother : other.WellFormed) (hfolder' : other.locate folder = .ok (.folder children'))
    (h : ∀ path bytes, Shown other folder path bytes ↔ Shown tree folder path bytes) :
    ofFolder folder other = ofFolder folder tree := by
  cases hmade : ofFolder folder tree with
  | error fault =>
    rw [ofFolder_eq_error_iff htree hfolder] at hmade
    rw [ofFolder_eq_error_iff hother hfolder']
    simpa only [h] using hmade
  | ok made =>
    obtain ⟨made', hmade'⟩ : ∃ files, ofFolder folder other = .ok files := by
      rw [exists_ofFolder_iff hother hfolder']
      simpa only [h] using (exists_ofFolder_iff htree hfolder).1 ⟨made, hmade⟩
    rw [hmade']
    refine congrArg Except.ok (NameMap.ext_get? fun name => Option.ext fun file => ?_)
    rw [get?_ofFolder hother hfolder' hmade', get?_ofFolder htree hfolder hmade]
    simp only [h]

/-- No hidden file of a folder is read. -/
theorem exists_run_gather (htree : tree.WellFormed)
    (hfolder : tree.locate folder = .ok (.folder children)) :
    ∃ asked, (gather (noting tree) folder tree).run [] = (ofFolder folder tree, asked) ∧
      ∀ p ∈ asked, ∃ path bytes, p = folder ++ path ∧ Shown tree folder path bytes := by
  obtain ⟨asked, hrun, hbefore⟩ := @exists_run_ofPaths tree folder
    (FileTree.walk (.folder children)) NameMap.empty []
  refine ⟨asked.map (folder ++ ·), ?_, fun p hp => ?_⟩
  · rw [gather, hfolder, ofFolder_eq_collect hfolder, shownPaths]
    exact hrun
  · obtain ⟨path, hpath, rfl⟩ := List.mem_map.1 hp
    obtain ⟨bytes, hshown⟩ :=
      (mem_shownPaths_iff (htree.locate hfolder).1 hfolder).1 (hbefore.subset hpath)
    exact ⟨path, bytes, rfl, hshown⟩

end Trees

/-- Take a folder of a tree, and call its files those below it whose path from there has no segment
that starts with a dot. The folder is taken over exactly if each of its files is UTF-8 and has a
path that is not blank, and then the set has exactly the files of the folder, each under its joined
path, with its text and in the language of its extension; different files have different joined
paths. Else the first file in the order of the walk that gives none decides, be it for its bytes or
for its path. Only files of the folder are read, and trees in which the folder has the same files
give the same. -/
theorem folder_taken_over {tree : FileTree} {folder : List String}
    {children : List (String × FileTree)} (htree : tree.WellFormed)
    (hfolder : tree.locate folder = .ok (.folder children)) :
    ((∃ files, ofFolder folder tree = .ok files) ↔
      ∀ path bytes, Shown tree folder path bytes →
        (∃ text : String, text.toUTF8 = bytes) ∧
          Text.isBlankText ("/".intercalate path) = false) ∧
    (∀ files, ofFolder folder tree = .ok files → ∀ name file, files.get? name = some file ↔
      ∃ path bytes, Shown tree folder path bytes ∧ name = "/".intercalate path ∧
        Takes path bytes file) ∧
    (∀ path path' bytes bytes', Shown tree folder path bytes → Shown tree folder path' bytes' →
      "/".intercalate path = "/".intercalate path' → path = path') ∧
    (∀ fault, ofFolder folder tree = .error fault ↔
      ∃ path bytes, Shown tree folder path bytes ∧ Stops folder path bytes fault ∧
        ∀ path' bytes', Shown tree folder path' bytes' → Precedes path' path →
          ∃ file, Takes path' bytes' file) ∧
    (∃ asked, (gather (noting tree) folder tree).run [] = (ofFolder folder tree, asked) ∧
      ∀ p ∈ asked, ∃ path bytes, p = folder ++ path ∧ Shown tree folder path bytes) ∧
    ∀ other : FileTree, other.WellFormed → ∀ children',
      other.locate folder = .ok (.folder children') →
      (∀ path bytes, Shown other folder path bytes ↔ Shown tree folder path bytes) →
        ofFolder folder other = ofFolder folder tree := by
  refine ⟨?_, fun files hfiles name file => get?_ofFolder htree hfolder hfiles name,
    fun path path' bytes bytes' h h' => h.path_inj htree hfolder h',
    fun fault => ofFolder_eq_error_iff htree hfolder, exists_run_gather htree hfolder,
    fun other hother children' hfolder' => ofFolder_congr htree hfolder hother hfolder'⟩
  simp only [exists_ofFolder_iff htree hfolder, exists_takes_iff]

/-- A folder with a hidden file that is not UTF-8 and a link. -/
theorem folder_taken_over_hidden :
    let children : List (String × FileTree) :=
      [(".git", .folder [("HEAD", .file ⟨#[0xff]⟩)]), ("a", .folder [("b.ts", .file ⟨#[0x31]⟩)]),
        ("c", .special)]
    let tree : FileTree := .folder [("src", .folder children)]
    tree.WellFormed ∧ tree.locate ["src"] = .ok (.folder children) ∧
      ∃ asked, (gather (noting tree) ["src"] tree).run [] = (ofFolder ["src"] tree, asked) ∧
        ∀ p ∈ asked, ∃ path bytes, p = ["src"] ++ path ∧ Shown tree ["src"] path bytes := by
  intro children tree
  have htree : tree.WellFormed := by
    refine .folder (by simp) (by simp [FileTree.IsSegment]) ?_
    simp only [List.forall_mem_singleton]
    refine .folder (by decide) (by simp [children, FileTree.IsSegment]) ?_
    simp only [children, List.forall_mem_cons]
    exact ⟨.folder (by simp) (by simp [FileTree.IsSegment]) (by simpa using .file _),
      .folder (by simp) (by simp [FileTree.IsSegment]) (by simpa using .file _), .special, by simp⟩
  have hfolder : tree.locate ["src"] = .ok (.folder children) := rfl
  exact ⟨htree, hfolder, (folder_taken_over htree hfolder).2.2.2.2.1⟩

end LivePreview.FileSet
