import LivePreview.Config
import LivePreview.Json.Reader

/-!
# Settings as JSON text

Settings are an object of named fields, or an array of the fields in their order. A missing field
takes its default, an unknown one is passed over, and one that comes twice is refused.

## Main definitions

* `LivePreview.Config.Fault`: why a text holds no settings.
* `LivePreview.Config.ofText`: the settings of a JSON text.
* `LivePreview.Config.toJson`: the value of settings.
-/

namespace LivePreview

open Json (Reader)
open Json.Reader

/-! ### Guard limits -/

namespace GuardConfig

/-- The fields of guard limits read so far. -/
structure Draft where
  /-- The field `windowMs`. -/
  window : Option Nat
  /-- The field `threshold`. -/
  threshold : Option Nat
  /-- The field `cooldownMs`. -/
  cooldown : Option Nat

/-- Reads one field behind its key. -/
def field (p : Draft) (key : String) : Reader Draft := do
  if key = "windowMs" then return { p with window := ← once p.window (natBelow UInt64.size) }
  else if key = "threshold" then
    return { p with threshold := ← once p.threshold (natBelow UInt32.size) }
  else if key = "cooldownMs" then
    return { p with cooldown := ← once p.cooldown (natBelow UInt64.size) }
  else
    ignored
    return p

/-- Reads guard limits, all three fields of which must be there. -/
def reader : Reader GuardConfig :=
  record
    (do
      let p ← members field ⟨none, none, none⟩
      return ⟨← required p.window, ← required p.threshold, ← required p.cooldown⟩)
    (do
      let window ← required (← nextItem true (natBelow UInt64.size))
      let threshold ← required (← nextItem false (natBelow UInt32.size))
      let cooldown ← required (← nextItem false (natBelow UInt64.size))
      return ⟨window, threshold, cooldown⟩)

/-- The guard limits of a JSON text. -/
def ofText (s : String) : Except Json.Fault GuardConfig := whole reader s

/-- The value of guard limits. -/
def toJson (g : GuardConfig) : Json :=
  .object [("windowMs", .ofNat g.window), ("threshold", .ofNat g.threshold),
    ("cooldownMs", .ofNat g.cooldown)]

end GuardConfig

/-! ### Settings -/

namespace Config

/-- Why a text holds no settings. -/
inductive Fault where
  /-- The text is not the JSON of settings. -/
  | json (fault : Json.Fault)
  /-- The settings are refused. -/
  | invalid (reason : Invalid)
deriving DecidableEq, Repr

/-- The fields of settings read so far. -/
structure Draft where
  /-- The field `entryFile`. -/
  entryFile : Option String
  /-- The field `frameworkModule`. -/
  frameworkModule : Option String
  /-- The field `importMap`. -/
  importMap : Option (NameMap String)
  /-- The field `mountId`. -/
  mountId : Option String
  /-- The field `debounceMs`. -/
  debounce : Option Nat
  /-- The field `compileGuard`. -/
  compileGuard : Option GuardConfig
  /-- The field `resetGuard`. -/
  resetGuard : Option GuardConfig
  /-- The field `resolveExtensions`. -/
  resolveExtensions : Option (List String)
  /-- The field `inMemoryMarker`. -/
  inMemoryMarker : Option String

/-- No field read yet. -/
def Draft.none : Draft :=
  ⟨.none, .none, .none, .none, .none, .none, .none, .none, .none⟩

/-- The settings of the fields, each missing one at its default. -/
def Draft.complete (p : Draft) : Config where
  entryFile := p.entryFile.getD standard.entryFile
  frameworkModule := p.frameworkModule.getD standard.frameworkModule
  importMap := p.importMap.getD standard.importMap
  mountId := p.mountId.getD standard.mountId
  debounce := p.debounce.getD standard.debounce
  compileGuard := p.compileGuard.getD standard.compileGuard
  resetGuard := p.resetGuard.getD standard.resetGuard
  resolveExtensions := p.resolveExtensions.getD standard.resolveExtensions
  inMemoryMarker := p.inMemoryMarker.getD standard.inMemoryMarker

/-- Reads an object of strings. -/
def addresses : Reader (NameMap String) := return NameMap.ofList (← map text)

/-- Reads one field behind its key. -/
def field (p : Draft) (key : String) : Reader Draft := do
  if key = "entryFile" then return { p with entryFile := ← once p.entryFile text }
  else if key = "frameworkModule" then
    return { p with frameworkModule := ← once p.frameworkModule text }
  else if key = "importMap" then return { p with importMap := ← once p.importMap addresses }
  else if key = "mountId" then return { p with mountId := ← once p.mountId text }
  else if key = "debounceMs" then
    return { p with debounce := ← once p.debounce (natBelow UInt64.size) }
  else if key = "compileGuard" then
    return { p with compileGuard := ← once p.compileGuard GuardConfig.reader }
  else if key = "resetGuard" then
    return { p with resetGuard := ← once p.resetGuard GuardConfig.reader }
  else if key = "resolveExtensions" then
    return { p with resolveExtensions := ← once p.resolveExtensions (list text) }
  else if key = "inMemoryMarker" then
    return { p with inMemoryMarker := ← once p.inMemoryMarker text }
  else
    ignored
    return p

/-- Reads the fields of settings that are written as an array. Once the array ends, every further
field is missing. -/
def itemFields : Reader Draft := do
  let entryFile ← nextItem true text
  let frameworkModule ← nextItem false text
  let importMap ← nextItem false addresses
  let mountId ← nextItem false text
  let debounce ← nextItem false (natBelow UInt64.size)
  let compileGuard ← nextItem false GuardConfig.reader
  let resetGuard ← nextItem false GuardConfig.reader
  let resolveExtensions ← nextItem false (list text)
  let inMemoryMarker ← nextItem false text
  return { entryFile, frameworkModule, importMap, mountId, debounce, compileGuard, resetGuard,
           resolveExtensions, inMemoryMarker }

/-- Reads settings. -/
def reader : Reader Config :=
  record
    (do return (← members field Draft.none).complete)
    (do return (← itemFields).complete)

/-- The settings of a JSON text. -/
def ofText (s : String) : Except Fault Config :=
  match whole reader s with
  | .error fault => .error (.json fault)
  | .ok config =>
    match config.validate with
    | .error reason => .error (.invalid reason)
    | .ok () => .ok config

/-- The value of settings. -/
def toJson (c : Config) : Json :=
  .object
    [("entryFile", .string c.entryFile),
     ("frameworkModule", .string c.frameworkModule),
     ("importMap", .object (c.importMap.entries.map fun (key, url) => (key, .string url))),
     ("mountId", .string c.mountId),
     ("debounceMs", .ofNat c.debounce),
     ("compileGuard", c.compileGuard.toJson),
     ("resetGuard", c.resetGuard.toJson),
     ("resolveExtensions", .array (c.resolveExtensions.map .string)),
     ("inMemoryMarker", .string c.inMemoryMarker)]

end Config

end LivePreview
