import LivePreview.FileSet

/-!
# Resolving relative imports

A relative specifier is joined onto the folder of the importing file, and then taken as a bare name
without its leading `./` and `../`. A path without an extension is also tried with each of the
known extensions. The first name of a file in the set wins, and every name that was looked at is
recorded with its fingerprint, or as absent.

## Main definitions

* `LivePreview.Resolve.join?`: a specifier joined onto a folder.
* `LivePreview.Resolve.candidates`: the names a specifier may stand for.
* `LivePreview.Tried`: the record of names looked at.
* `LivePreview.Resolve.find`: the first candidate that is a file.
-/

namespace LivePreview

/-- The names that imports were resolved against, each with the fingerprint it had then, or as
absent. -/
abbrev Tried := NameMap (Option Fingerprint)

namespace Resolve

/-- The segments of a path between its slashes; a path has at least one. -/
def segmentsOf : List Char → List (List Char)
  | [] => [[]]
  | c :: s =>
    if c = '/' then [] :: segmentsOf s
    else
      match segmentsOf s with
      | [] => [[c]]
      | segment :: rest => (c :: segment) :: rest

/-- The segments of a path between its slashes. -/
def segments (path : String) : List String :=
  (segmentsOf path.toList).map String.ofList

/-- The path of segments that follow a folder: empty segments and `.` stay, `..` climbs. The folder
is given from its last segment up. Climbing above the root leads nowhere. -/
def walk : List String → List String → Option (List String)
  | folder, [] => some folder.reverse
  | folder, segment :: rest =>
    if segment = "" ∨ segment = "." then walk folder rest
    else if segment = ".." then
      match folder with
      | [] => none
      | _ :: up => walk up rest
    else walk (segment :: folder) rest

/-- A specifier joined onto the folder of the importer. -/
def join? (importer specifier : String) : Option String :=
  (walk (segments importer).dropLast.reverse (segments specifier)).map "/".intercalate

/-- A path without its leading `./` and `../`. -/
def stripClimbs : List Char → List Char
  | '.' :: '/' :: s => stripClimbs s
  | '.' :: '.' :: '/' :: s => stripClimbs s
  | s => s

/-- A path, and with each extension if it has none. -/
def withExtensions (extensions : List String) (path : String) : List String :=
  path :: if (extension? path).isNone then extensions.map (path ++ "." ++ ·) else []

/-- A list without later repetitions. -/
def distinct (seen : List String) : List String → List String
  | [] => []
  | a :: rest => if a ∈ seen then distinct seen rest else a :: distinct (a :: seen) rest

/-- The names a specifier may stand for, in the order in which they are tried. -/
def candidates (importer specifier : String) (extensions : List String) : List String :=
  let stripped := String.ofList (stripClimbs specifier.toList)
  distinct [] (((join? importer specifier).toList ++ [stripped]).flatMap
    (withExtensions extensions))

/-- The first of some names that is a file, and the record with the names looked at. -/
def firstFile (files : FileSet) : List String → Tried → Option SourceFile × Tried
  | [], tried => (none, tried)
  | name :: rest, tried =>
    match files.get? name with
    | some file => (some file, tried.insert name (some file.fingerprint))
    | none => firstFile files rest (tried.insert name none)

/-- The file a specifier stands for, and the record with the names looked at. -/
def find (files : FileSet) (importer specifier : String) (extensions : List String)
    (tried : Tried) : Option SourceFile × Tried :=
  firstFile files (candidates importer specifier extensions) tried

theorem mem_values_of_firstFile {files : FileSet} {file : SourceFile} :
    {names : List String} → {tried : Tried} → (firstFile files names tried).1 = some file →
      file ∈ files.values
  | [], _, h => by simp [firstFile] at h
  | name :: rest, tried, h => by
      rw [firstFile] at h
      split at h
      · rename_i found hf
        simp only [Option.some.injEq] at h
        exact h ▸ NameMap.mem_values_of_get? hf
      · exact mem_values_of_firstFile h

/-- A specifier stands for a file of the set. -/
theorem mem_values_of_find {files : FileSet} {importer specifier : String}
    {extensions : List String} {tried : Tried} {file : SourceFile}
    (h : (find files importer specifier extensions tried).1 = some file) : file ∈ files.values :=
  mem_values_of_firstFile h

end Resolve

end LivePreview
