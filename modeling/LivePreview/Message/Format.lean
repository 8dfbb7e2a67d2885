import LivePreview.FileSet.Ingest
import LivePreview.Message

/-!
# Messages as JSON text

A request is an object, or an array, of `sequence` and `files`. Its files are filed under the keys
of the text, whatever names they carry. A response is an object of `sequence` and either `code` or
`error`; a `code` that is no single string does not count, and then `error` decides.

## Main definitions

* `LivePreview.Request.ofText`, `LivePreview.Request.toJson`.
* `LivePreview.Response.ofText`, `LivePreview.Response.toJson`.
-/

namespace LivePreview

open Json (Reader)
open Json.Reader

/-! ### Files -/

namespace SourceFile

/-- The fields of a file read so far. -/
structure Draft where
  /-- The field `name`. -/
  name : Option String
  /-- The field `content`. -/
  content : Option String
  /-- The field `language`. -/
  language : Option Language

/-- Reads one field behind its key. -/
def field (d : Draft) (key : String) : Reader Draft := do
  if key = "name" then return { d with name := ← once d.name text }
  else if key = "content" then return { d with content := ← once d.content text }
  else if key = "language" then
    return { d with language := ← once d.language (choice Language.ofTag?) }
  else
    ignored
    return d

/-- Reads a file, all three fields of which must be there. -/
def reader : Reader SourceFile :=
  record
    (do
      let d ← members field ⟨none, none, none⟩
      return ⟨← required d.name, ← required d.content, ← required d.language⟩)
    (do
      let name ← required (← nextItem true text)
      let content ← required (← nextItem false text)
      let language ← required (← nextItem false (choice Language.ofTag?))
      return ⟨name, content, language⟩)

end SourceFile

/-! ### Requests -/

namespace Request

/-- The fields of a request read so far. -/
structure Draft where
  /-- The field `sequence`. -/
  sequence : Option Nat
  /-- The field `files`. -/
  files : Option FileSet

/-- Reads files under keys. -/
def filesReader : Reader FileSet := return NameMap.ofList (← map SourceFile.reader)

/-- Reads one field behind its key. -/
def field (d : Draft) (key : String) : Reader Draft := do
  if key = "sequence" then return { d with sequence := ← once d.sequence (natBelow UInt64.size) }
  else if key = "files" then return { d with files := ← once d.files filesReader }
  else
    ignored
    return d

/-- Reads a request. -/
def reader : Reader Request :=
  record
    (do
      let d ← members field ⟨none, none⟩
      return ⟨← required d.sequence, ← required d.files⟩)
    (do
      let sequence ← required (← nextItem true (natBelow UInt64.size))
      let files ← required (← nextItem false filesReader)
      return ⟨sequence, files⟩)

/-- The request of a JSON text. -/
def ofText (s : String) : Except Json.Fault Request := whole reader s

/-- The value of a request. -/
def toJson (r : Request) : Json :=
  .object [("sequence", .ofNat r.sequence), ("files", FileSet.toJson r.files)]

end Request

/-! ### Responses -/

namespace Response

/-- What is read of a response: its number and its other members. -/
structure Draft where
  /-- The field `sequence`. -/
  sequence : Option Nat
  /-- All other members, in the order of the text. -/
  others : List (String × Json)

/-- Reads one member behind its key. -/
def field (d : Draft) (key : String) : Reader Draft := do
  if key = "sequence" then return { d with sequence := ← once d.sequence (natBelow UInt64.size) }
  else
    colon
    let value ← value (depthLimit - 1)
    return { d with others := d.others ++ [(key, value)] }

/-- The string under a key that comes exactly once. -/
def soleString? (key : String) (members : List (String × Json)) : Option String :=
  match members.filter (·.1 = key) with
  | [(_, .string s)] => some s
  | _ => none

/-- The outcome that the other members tell. -/
def outcome? (members : List (String × Json)) : Option Outcome :=
  (soleString? "code" members).map .code |>.or ((soleString? "error" members).map .error)

/-- Reads a response. -/
def reader : Reader Response := do
  match ← ahead with
  | '\x7b' :: s =>
    set s
    let d ← members field ⟨none, []⟩
    return ⟨← required d.sequence, ← required (outcome? d.others)⟩
  | _ => mismatch

/-- The response of a JSON text. -/
def ofText (s : String) : Except Json.Fault Response := whole reader s

/-- The value of a response. -/
def toJson (r : Response) : Json :=
  match r.outcome with
  | .code text => .object [("sequence", .ofNat r.sequence), ("code", .string text)]
  | .error message => .object [("sequence", .ofNat r.sequence), ("error", .string message)]

end Response

end LivePreview
