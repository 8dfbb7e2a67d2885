import LivePreview.NameMap

/-!
# Folders of files

A file tree is a folder, a file with its bytes, or something special such as a link. A folder lists
its children in ascending order of their names, and a walk meets the files depth first in that
order.

## Main definitions

* `LivePreview.FileTree`: what a path may lead to.
* `LivePreview.FileTree.locate`: what a path leads to.
* `LivePreview.FileTree.walk`: the paths of the files of a tree.
-/

namespace LivePreview

/-- A file, a folder, or neither. -/
inductive FileTree where
  /-- A file with its bytes. -/
  | file (bytes : ByteArray)
  /-- A folder with its children, in ascending order of their names. -/
  | folder (children : List (String × FileTree))
  /-- Neither of them, such as a link, a pipe or a device. -/
  | special

namespace FileTree

instance : Inhabited FileTree := ⟨.folder []⟩

/-- The folder without children. -/
def empty : FileTree := .folder []

/-- The tree with `node` at the path, whose missing folders are made. What is in the way gives way
to a folder. -/
def plant (node : FileTree) : List String → FileTree → FileTree
  | [], _ => node
  | segment :: path, .folder children =>
    let child := (NameMap.find? segment children).getD empty
    .folder (NameMap.place segment (plant node path child) children)
  | segment :: path, _ => .folder [(segment, plant node path empty)]

/-- Why a path leads nowhere. -/
inductive Dead where
  /-- There is nothing of that name. -/
  | missing
  /-- The path goes on behind a file. -/
  | throughFile
deriving DecidableEq, Repr

/-- What a path leads to. -/
def locate : List String → FileTree → Except Dead FileTree
  | [], node => .ok node
  | segment :: path, .folder children =>
    match NameMap.find? segment children with
    | some child => locate path child
    | none => .error .missing
  | _ :: _, _ => .error .throughFile

mutual

/-- The paths from a tree to its files, depth first. What is neither a file nor a folder is passed
over. -/
def walk : FileTree → List (List String)
  | .file _ => [[]]
  | .folder children => walkAll children
  | .special => []

/-- The paths to the files below the children of a folder. -/
def walkAll : List (String × FileTree) → List (List String)
  | [] => []
  | (segment, child) :: rest => (walk child).map (segment :: ·) ++ walkAll rest

end

end FileTree

end LivePreview
