import LivePreview.Base64
import LivePreview.SourceFile

/-!
# Asset modules and inline references

Data files and style sheets are wrapped into small modules as they are. The text of a module is
carried inside an import as a `data:` address, so that it can be imported without a request.

## Main definitions

* `LivePreview.Asset.dataModule`, `LivePreview.Asset.styleModule`: the modules of such files.
* `LivePreview.Asset.reference`: the address of a module text.
* `LivePreview.Asset.referenced?`: the module text of an address.
-/

namespace LivePreview.Asset

/-- The module that exports the value of a data file. -/
def dataModule (file : SourceFile) : String := "export default " ++ file.content

/-- The module that puts a style sheet into the head of the document. The sheet is embedded as it
is. -/
def styleModule (file : SourceFile) (stamp : Nat) : String :=
  "\n(() => \x7b\n" ++
  "    const stylesheet = document.createElement('style')\n" ++
  "    stylesheet.setAttribute('id', 'style_" ++ toString stamp ++ "_" ++ file.name ++ "')\n" ++
  "    document.head.appendChild(stylesheet)\n" ++
  "    const styles = document.createTextNode(String.raw`" ++ file.content ++ "`)\n" ++
  "    stylesheet.innerHTML = ''\n" ++
  "    stylesheet.appendChild(styles)\n" ++
  "\x7d)()\n"

/-- What every address of a module starts with. -/
def referenceHead : String := "data:application/javascript;base64,"

/-- The address of a module text. -/
def reference (code : String) : String :=
  referenceHead ++ String.ofList (Base64.encode code.toUTF8.toList)

/-- The module text of an address, if `reference` writes it. -/
def referenced? (address : String) : Option String := do
  let payload ← referenceHead.toList.isPrefixOf? address.toList
  let bytes ← Base64.decode? payload
  String.fromUTF8? ⟨bytes.toArray⟩

end LivePreview.Asset
