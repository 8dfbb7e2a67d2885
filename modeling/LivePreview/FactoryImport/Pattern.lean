import LivePreview.FactoryImport
import LivePreview.Text.Pattern

/-!
# The pattern of imports

The pattern that tells whether a script imports a name from a module. In the usual notation it is
`import\s*\{[^}]*\bname\b[^}]*\}\s*from\s*['"]module['"]`, where the name and the module stand for
themselves.

## Main definitions

* `LivePreview.FactoryImport.importPattern`: the pattern.
-/

namespace LivePreview.FactoryImport

open Text (Pattern)

/-- A single or double quote. -/
def quotePattern : Pattern := .one fun c => c == '\'' || c == '"'

/-- The word `from` and a module in quotes. -/
def fromPattern (framework : String) : Pattern := .inOrder
  [.many Text.isBlank, .exactly "from".toList, .many Text.isBlank, quotePattern,
    .exactly framework.toList, quotePattern]

/-- An import of a name in braces from a module. -/
def importPattern (framework name : String) : Pattern := .inOrder
  [.exactly "import".toList, .many Text.isBlank, .exactly ['\x7b'],
    .many (· != '\x7d'), .wordEdge, .exactly name.toList, .wordEdge, .many (· != '\x7d'),
    .exactly ['\x7d'], fromPattern framework]

end LivePreview.FactoryImport
