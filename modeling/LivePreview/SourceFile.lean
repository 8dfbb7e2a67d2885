import LivePreview.Fingerprint
import LivePreview.Text.Blank

/-!
# Source files

A source file has a name, a content and a language. The language is derived from the extension of
the name, unless the one who hands the file over names another.

## Main definitions

* `LivePreview.Language`: how a file takes part in a compilation.
* `LivePreview.extension?`: the extension of a file name.
* `LivePreview.SourceFile`: a source file.
* `LivePreview.SourceFile.ofText?`: the file of a name and a content.

## Main results

* `LivePreview.Language.ofTag?_tag`: a tag names its language.
-/

namespace LivePreview

/-- How a file takes part in a compilation. -/
inductive Language where
  /-- A component with template, script and style blocks. -/
  | component
  /-- A script module. -/
  | script
  /-- A style sheet. -/
  | styles
  /-- A data literal. -/
  | data
  /-- Anything else. -/
  | other
deriving DecidableEq, Repr

/-- The extension of a file name, without its dot: what follows the last dot of the last path
segment, if that is not empty. -/
def extension? (name : String) : Option String :=
  let base := (name.toList.reverse.takeWhile (· ≠ '/'))
  let ext := base.takeWhile (· ≠ '.')
  if ext.length < base.length ∧ ext ≠ [] then some (String.ofList ext.reverse) else none

namespace Language

/-- The tag that stands for a language in stored files. -/
def tag : Language → String
  | component => "markup-component"
  | script => "script"
  | styles => "styles"
  | data => "data"
  | other => "other"

/-- The language a tag stands for. -/
def ofTag? (tag : String) : Option Language :=
  if tag = "markup-component" then some component
  else if tag = "script" then some script
  else if tag = "styles" then some styles
  else if tag = "data" then some data
  else if tag = "other" then some other
  else none

theorem ofTag?_tag (l : Language) : ofTag? l.tag = some l := by
  cases l <;> decide

/-- The language of a file name. -/
def ofFileName (name : String) : Language :=
  match extension? name with
  | none => other
  | some ext =>
    if ext = "vue" then component
    else if ext ∈ ["js", "jsx", "ts", "tsx", "mjs", "mts"] then script
    else if ext ∈ ["css", "scss"] then styles
    else if ext = "json" then data
    else other

end Language

/-- A source file. -/
structure SourceFile where
  /-- The path of the file, its segments separated by slashes. -/
  name : String
  /-- The text of the file. -/
  content : String
  /-- How the file takes part in a compilation. -/
  language : Language
deriving DecidableEq, Repr

namespace SourceFile

/-- The file of a name and a content, in the language of the name. A blank name names no file. -/
def ofText? (name content : String) : Option SourceFile :=
  if Text.isBlankText name then none
  else some ⟨name, content, Language.ofFileName name⟩

/-- The fingerprint of the content. -/
def fingerprint (file : SourceFile) : Fingerprint := Fingerprint.ofText file.content

theorem name_of_ofText? {name content : String} {file : SourceFile}
    (h : ofText? name content = some file) : file.name = name := by
  rw [ofText?] at h
  split at h
  · simp at h
  · simp only [Option.some.injEq] at h
    rw [← h]

end SourceFile

end LivePreview
