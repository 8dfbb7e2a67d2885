import LivePreview.NameMap
import LivePreview.SourceFile

/-!
# File sets

A file set maps names to source files. Every constructor of a file set files a record under the
name that the record carries (`LivePreview.FileSet.Keyed`); only a set taken over from a message
may file a record under a foreign name.

## Main definitions

* `LivePreview.FileSet`: a file set.
* `LivePreview.FileSet.put`, `LivePreview.FileSet.ofFiles`: a set with one more file, and the set of
  a list of files.
* `LivePreview.FileSet.fingerprint`: the fingerprint of all names, languages and contents.
* `LivePreview.FileSet.Keyed`: every file is under its own name.

## Main results

* `LivePreview.FileSet.keyed_put`, `LivePreview.FileSet.keyed_ofFiles`: putting a file keeps a set
  keyed, so the set of a list of files is.
-/

namespace LivePreview

/-- A file set: source files under names. -/
abbrev FileSet := NameMap SourceFile

namespace FileSet

/-- The set with the file under its own name, and the file it replaces. -/
def put (files : FileSet) (file : SourceFile) : FileSet :=
  files.insert file.name file

/-- The set of a list of files, in which a later file replaces an earlier one of the same name. -/
def ofFiles (l : List SourceFile) : FileSet := l.foldl put NameMap.empty

/-- What the fingerprint of a file reads: name, language and content, each followed by NUL. -/
def frame (file : SourceFile) : List String :=
  [file.name, "\x00", file.language.tag, "\x00", file.content, "\x00"]

/-- The fingerprint of a set: its files' names, languages and contents, in the order of the
names. -/
def fingerprint (files : FileSet) : Fingerprint :=
  Fingerprint.ofParts (files.values.flatMap frame)

/-- The present fingerprint of the file under a name, if there is one. -/
def current (files : FileSet) (name : String) : Option Fingerprint :=
  (files.get? name).map SourceFile.fingerprint

/-- Every file is under its own name. -/
def Keyed (files : FileSet) : Prop :=
  ∀ name file, files.get? name = some file → file.name = name

theorem keyed_empty : Keyed NameMap.empty := by
  intro name file h
  simp at h

theorem keyed_put {files : FileSet} (h : Keyed files) (file : SourceFile) :
    Keyed (files.put file) := by
  intro name other ho
  rw [put, NameMap.get?_insert] at ho
  split at ho
  · simp_all
  · exact h name other ho

theorem keyed_ofFiles (l : List SourceFile) : Keyed (ofFiles l) :=
  List.foldlRecOn l put keyed_empty fun _ h file _ => keyed_put h file

end FileSet

end LivePreview
