import LivePreview.FileSet
import LivePreview.Json.Reader

/-!
# File sets from JSON values

A file set is handed over as an object of entries. An entry is the plain text of a file, or a
record with a `content` (or, without one, a `value`), an optional `name` that must repeat the key,
and an optional `language` tag that wins over the extension if it is known.

## Main definitions

* `LivePreview.FileSet.Fault`: why a hand-over is refused.
* `LivePreview.FileSet.entry`: the file of one entry.
* `LivePreview.FileSet.ofJson`, `ofText`: the file set of a value or of a JSON text.
* `LivePreview.FileSet.toJson`: the value of a file set.
-/

namespace LivePreview.FileSet

/-- Why the file system gives no text for a path. -/
inductive ReadFault where
  /-- There is nothing at the path. -/
  | notFound
  /-- The bytes are not UTF-8. -/
  | invalidData
  /-- The path leads to a folder. -/
  | isAFolder
  /-- The path leads through a file. -/
  | notAFolder
deriving DecidableEq, Repr

/-- Why a file set is refused. -/
inductive Fault where
  /-- A file has a blank name. -/
  | emptyName
  /-- A record names another file than its key does. -/
  | nameMismatch (key name : String)
  /-- An entry has none of the known shapes. -/
  | invalidEntry (key reason : String)
  /-- The text is not JSON. -/
  | json (fault : Json.Fault)
  /-- The file at a path could not be read. -/
  | read {path : List String} (fault : ReadFault)
deriving DecidableEq, Repr

/-- The text shown for a refused file set; a fault of the text or the file system has none of its
own. -/
def Fault.message? : Fault → Option String
  | .emptyName => some "file name must not be empty"
  | .nameMismatch key name => some ("file record " ++ key ++ " names itself " ++ name)
  | .invalidEntry key reason => some ("file record " ++ key ++ " is malformed: " ++ reason)
  | .json _ => none
  | .read _ => none

/-- The file of a name and a content; a blank name is refused. -/
def newFile (name content : String) : Except Fault SourceFile :=
  match SourceFile.ofText? name content with
  | some file => .ok file
  | none => .error .emptyName

/-- The language that a record's tag asks for: the tag as a string, or as the only key of an object
with the value `null`. -/
def taggedLanguage? : Json → Option Language
  | .string tag => Language.ofTag? tag
  | .object members =>
    match (NameMap.ofList members).entries with
    | [(tag, .null)] => Language.ofTag? tag
    | _ => none
  | _ => none

/-- The last member of that key. -/
def lastMember? (key : String) (members : List (String × Json)) : Option Json :=
  (NameMap.ofList members).get? key

/-- The content of a record: its `content`, or its `value` if it has no `content`. -/
def recordContent (key : String) (members : List (String × Json)) : Except Fault String :=
  match (lastMember? "content" members).or (lastMember? "value" members) with
  | none => .error (.invalidEntry key "missing content")
  | some (.string content) => .ok content
  | some _ => .error (.invalidEntry key "content is not a string")

/-- Checks that a record which names itself repeats its key. -/
def checkName (key : String) (members : List (String × Json)) : Except Fault Unit :=
  match lastMember? "name" members with
  | none => .ok ()
  | some (.string name) => if name = key then .ok () else .error (.nameMismatch key name)
  | some _ => .error (.invalidEntry key "name is not a string")

/-- The file of one entry. -/
def entry (key : String) : Json → Except Fault SourceFile
  | .string content => newFile key content
  | .object members => do
    checkName key members
    let file ← newFile key (← recordContent key members)
    match (lastMember? "language" members).bind taggedLanguage? with
    | some language => .ok { file with language := language }
    | none => .ok file
  | _ => .error (.invalidEntry key "expected a string or a file record")

/-- The set of a list of entries, the first refused one deciding. -/
def ofEntries (files : FileSet) : List (String × Json) → Except Fault FileSet
  | [] => .ok files
  | (key, value) :: rest => do
    let file ← entry key value
    ofEntries (files.put file) rest

/-- The file set of a JSON value, its entries taken in the order of their names. -/
def ofJson : Json → Except Fault FileSet
  | .object members => ofEntries NameMap.empty (NameMap.ofList members).entries
  | _ => .error (.invalidEntry "<root>" "expected an object of files")

/-- The file set of a JSON text. -/
def ofText (text : String) : Except Fault FileSet :=
  match Json.parse text with
  | .ok value => ofJson value
  | .error fault => .error (.json fault)

/-! ### The value of a file set -/

/-- A file as a record. -/
def fileJson (file : SourceFile) : Json :=
  .object [("name", .string file.name), ("content", .string file.content),
    ("language", .string file.language.tag)]

/-- A file set as an object of records. -/
def toJson (files : FileSet) : Json :=
  .object (files.entries.map fun (key, file) => (key, fileJson file))

end LivePreview.FileSet
