import LivePreview.Config
import LivePreview.Json
import LivePreview.Text.Search

/-!
# The preview document

The HTML document that shows a preview: an import map for bare module names, a base style, the
mount element, and one module script that installs error handlers and then runs the compiled code.
Errors that mention the in-memory marker are swallowed by the handlers, all others are shown.

## Main definitions

* `LivePreview.Document.build`: the document around a script; without a script it is blank.
* `LivePreview.Document.neutralize`: a script text that cannot close its element.
-/

namespace LivePreview.Document

/-- The lines of a text, each ended by a line break. -/
def block (lines : List String) : String :=
  String.join (lines.map (· ++ "\n"))

/-- The head of the document up to its import map. -/
def opening : String := block
  ["<!DOCTYPE html>",
   "<html>",
   "  <head>",
   "    <meta charset=\"UTF-8\">",
   "    <meta name=\"viewport\" content=\"width=device-width, initial-scale=1.0\">"]

/-- The style rules of every document. -/
def baseStyle : String := block
  ["      body \x7b margin: 0; \x7d",
   "      #app \x7b height: 100%; width: 100%; \x7d",
   "      .error \x7b",
   "        color: red;",
   "        padding: 10px;",
   "        margin: 10px;",
   "        border: 1px solid #ffcccc;",
   "        border-radius: 4px;",
   "      \x7d"]

/-- The style rule of a mount element with another id than `app`. -/
def mountStyle (mountId : String) : String :=
  if mountId = "app" then ""
  else "      #" ++ mountId ++ " \x7b height: 100%; width: 100%; \x7d\n"

/-- The error handlers, with the marker as a string literal. -/
def handlers (marker : String) : String := block
  ["      window.onerror = function(msg, url, line, col, error) \x7b",
   "        const errorDiv = document.createElement('div');",
   "        errorDiv.className = 'error';",
   "        errorDiv.textContent = `$\x7bmsg\x7d\\nLine: $\x7bline\x7d\\nColumn: $\x7bcol\x7d`;",
   "        document.body.appendChild(errorDiv);",
   "        return false;",
   "      \x7d;",
   "",
   "      window.addEventListener('error', (event) => \x7b",
   "        if (event.message && event.message.includes(" ++ marker ++ ")) \x7b",
   "          event.preventDefault();",
   "          return true;",
   "        \x7d",
   "      \x7d);",
   "",
   "      window.addEventListener('unhandledrejection', (event) => \x7b",
   "        const reason = event.reason?.toString() || '';",
   "        if (reason.includes(" ++ marker ++ ")) \x7b",
   "          event.preventDefault();",
   "          return true;",
   "        \x7d",
   "      \x7d);"]

/-- The import map of the settings as JSON text. -/
def importMap (config : Config) : String :=
  Json.pretty (.object
    [("imports", .object (config.importMap.entries.map fun (name, url) => (name, .string url)))])

/-- The script with every `</script` broken up, so that it cannot close the script element. -/
def neutralize (script : String) : String :=
  String.ofList (Text.replaceAll "</script".toList "<\\/script".toList script.toList)

/-- One character of an attribute value in double quotes. -/
def escapeAttributeChar (c : Char) : List Char :=
  if c = '&' then "&amp;".toList
  else if c = '"' then "&quot;".toList
  else if c = '<' then "&lt;".toList
  else if c = '>' then "&gt;".toList
  else [c]

/-- A text as an attribute value in double quotes. -/
def escapeAttribute (value : String) : String :=
  String.ofList (value.toList.flatMap escapeAttributeChar)

/-- The compiled code as it stands in the module script; nothing for an empty script. -/
def body (script : String) : String :=
  if script = "" then "" else "\n" ++ neutralize script ++ "\n"

/-- The document around a script. -/
def build (script : String) (config : Config) : String :=
  opening ++
  "    <script type=\"importmap\">\n" ++ importMap config ++ "\n    </script>\n" ++
  "    <style>\n" ++ baseStyle ++ mountStyle config.mountId ++ "    </style>\n" ++
  "  </head>\n  <body>\n" ++
  "    <div id=\"" ++ escapeAttribute config.mountId ++ "\"></div>\n" ++
  "    <script type=\"module\">\n" ++ handlers (Json.quote config.inMemoryMarker) ++
  body script ++
  "    </script>\n  </body>\n</html>\n"

end LivePreview.Document
