import LivePreview.FileSet.Ingest
import LivePreview.FileTree

/-!
# File sets from folders

The files below a folder form a file set, each named by its path from the folder. A path with a
segment that starts with a dot is hidden: it is not read and influences nothing. The first file
that cannot be taken over decides the outcome.

A tree tells which files there are; what is in them is asked from a reader, one file after another.

## Main definitions

* `LivePreview.FileSet.decodeText`: the text of a file's bytes.
* `LivePreview.FileSet.readText`: the text of the file at a path.
* `LivePreview.FileSet.gather`: the file set of a tree whose files are read by a given reader.
* `LivePreview.FileSet.ofFolder`: the file set of a tree.
-/

namespace LivePreview.FileSet

/-- The text of a file's bytes, which must be UTF-8. -/
def decodeText (bytes : ByteArray) : Except ReadFault String :=
  match String.fromUTF8? bytes with
  | some text => .ok text
  | none => .error .invalidData

/-- The text of the file at a path. -/
def readText (path : List String) (tree : FileTree) : Except ReadFault String :=
  match tree.locate path with
  | .ok (.file bytes) => decodeText bytes
  | .ok (.folder _) => .error .isAFolder
  | .ok .special => .error .notFound
  | .error .missing => .error .notFound
  | .error .throughFile => .error .notAFolder

/-- Whether some segment of a path starts with a dot. -/
def hidden (path : List String) : Bool :=
  path.any fun segment => segment.toList.head? == some '.'

section Gather

variable {m : Type → Type} [Monad m] (read : List String → m (Except ReadFault String))

/-- The file at a path from a folder. `read` gives the text at a path. -/
def fileAt (folder path : List String) : m (Except Fault SourceFile) := do
  match ← read (folder ++ path) with
  | .error fault => return .error (@Fault.read (folder ++ path) fault)
  | .ok content => return newFile ("/".intercalate path) content

/-- The set with the files at some paths from a folder that are not hidden. -/
def ofPaths (folder : List String) (files : FileSet) :
    List (List String) → m (Except Fault FileSet)
  | [] => return .ok files
  | path :: rest =>
    if hidden path then ofPaths folder files rest
    else do
      match ← fileAt read folder path with
      | .error fault => return .error fault
      | .ok file => ofPaths folder (files.put file) rest

/-- The file set of what a path of a tree leads to, whose files are read by `read`. A path that
leads nowhere gives the empty set. -/
def gather (path : List String) (tree : FileTree) : m (Except Fault FileSet) :=
  match tree.locate path with
  | .ok node => ofPaths read path NameMap.empty node.walk
  | .error _ => return .ok NameMap.empty

end Gather

/-- The file set of what a path of a tree leads to. -/
def ofFolder (path : List String) (tree : FileTree) : Except Fault FileSet :=
  Id.run (gather (fun file => return readText file tree) path tree)

end LivePreview.FileSet
