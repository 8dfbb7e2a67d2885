import LivePreview.Text.Blank
import LivePreview.Text.Search

/-!
# Patching the entry module

The same document may run the entry module again, so an entry that mounts its application must
unmount the one before. An entry that never mounts gets a mount at its end, one that mounts without
looking at the one before gets its mount calls expanded, and one without `createApp` gets its
import.

## Main definitions

* `LivePreview.EntryPatch.mountCall?`: a mount call at the start of a text.
* `LivePreview.EntryPatch.expandMounts`: every mount call expanded.
* `LivePreview.EntryPatch.patch`: the patched entry.
-/

namespace LivePreview.EntryPatch

/-- A call `createApp(…).mount('#…')` with the blanks in front of it. -/
structure MountCall where
  /-- The blanks in front. -/
  indent : String
  /-- The call of `createApp`. -/
  creation : String
  /-- The selector, which starts with `#`. -/
  selector : String
deriving DecidableEq, Repr

/-- A single or double quote. -/
def isQuote (c : Char) : Bool := c == '\'' || c == '"'

/-- A selector in quotes and a closing parenthesis at the start of a text, with what follows. The
selector is `#` and at least one character that is no quote. -/
def quotedSelector? (s : List Char) : Option (List Char × List Char) :=
  match s with
  | opening :: '#' :: rest =>
    let id := rest.takeWhile fun c => !isQuote c
    match rest.drop id.length with
    | _ :: ')' :: behind =>
      if isQuote opening && !id.isEmpty then some ('#' :: id, behind) else none
    | _ => none
  | _ => none

/-- A mount call at the start of a text, with what follows it. The arguments of `createApp` reach to
the first closing parenthesis and are not empty. -/
@[irreducible]
def mountCall? (s : List Char) : Option (MountCall × List Char) :=
  let indent := s.takeWhile Text.isBlank
  match "createApp(".toList.isPrefixOf? (s.drop indent.length) with
  | none => none
  | some rest =>
    let arguments := rest.takeWhile (· ≠ ')')
    match ").mount(".toList.isPrefixOf? (rest.drop arguments.length) with
    | none => none
    | some behind =>
      match quotedSelector? behind with
      | none => none
      | some (selector, behind) =>
        if arguments.isEmpty then none
        else
          some
            (⟨String.ofList indent, "createApp(" ++ String.ofList arguments ++ ")",
              String.ofList selector⟩, behind)

/-- A mount call as statements that unmount the application before. -/
def MountCall.expand (m : MountCall) : String :=
  "\n".intercalate
    [m.indent ++ "const appElement = document.querySelector('" ++ m.selector ++ "')",
     m.indent ++ "const el = appElement as any",
     m.indent ++ "if (el && el.__vue_app__) \x7b",
     m.indent ++ "  el.__vue_app__.unmount()",
     m.indent ++ "\x7d",
     m.indent ++ "const app = " ++ m.creation,
     m.indent ++ "app.mount('" ++ m.selector ++ "')"]

/-- A text with its mount calls expanded from left to right, where the next `pending` characters
belong to the call expanded last. -/
def expandFrom : Nat → List Char → List Char
  | _, [] => []
  | pending + 1, _ :: s => expandFrom pending s
  | 0, c :: s =>
    match mountCall? (c :: s) with
    | some (call, behind) => call.expand.toList ++ expandFrom (s.length - behind.length) s
    | none => c :: expandFrom 0 s

/-- A text with every mount call expanded. -/
def expandMounts (code : String) : String :=
  String.ofList (expandFrom 0 code.toList)

/-- The statements that mount the application `App` on an element, if there is one. -/
def guardedMount (mountId : String) : String :=
  "\nconst appElement = document.querySelector('#" ++ mountId ++ "')\n" ++
  "if (appElement) \x7b\n" ++
  "  const el = appElement as any\n" ++
  "  if (el.__vue_app__) \x7b\n" ++
  "    el.__vue_app__.unmount()\n" ++
  "  \x7d\n" ++
  "  if (typeof App !== 'undefined') \x7b\n" ++
  "    const app = createApp(App)\n" ++
  "    app.mount('#" ++ mountId ++ "')\n" ++
  "  \x7d\n" ++
  "\x7d"

/-- The entry with an import of `createApp`, if it does not mention that name. -/
def withImport (code framework : String) : String :=
  if Text.holds code "createApp" then code
  else "import \x7b createApp \x7d from '" ++ framework ++ "'\n" ++ code

/-- The entry with a mount that unmounts the application before. -/
def withMount (code mountId : String) : String :=
  if Text.holds code ".mount" = false then code ++ guardedMount mountId
  else if Text.holds code "__vue_app__" then code
  else expandMounts code

/-- The patched entry. -/
def patch (code framework mountId : String) : String :=
  withMount (withImport code framework) mountId

end LivePreview.EntryPatch
