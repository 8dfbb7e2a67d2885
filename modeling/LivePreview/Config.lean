import LivePreview.NameMap
import LivePreview.Text.Blank

/-!
# Preview configuration

The settings of a preview, each with a default, so that nothing has to be configured. Durations are
in milliseconds.

## Main definitions

* `LivePreview.GuardConfig`: the limits of a burst guard.
* `LivePreview.Config`: the settings of a preview; `Config.standard` holds the defaults.
* `LivePreview.Config.validate`: refuses settings that nothing can work with.
-/

namespace LivePreview

/-- The limits of a burst guard. -/
structure GuardConfig where
  /-- Attempts closer together than this belong to one burst. -/
  window : Nat
  /-- The most attempts of one burst. -/
  threshold : Nat
  /-- How long everything is suppressed after a burst that was too long. -/
  cooldown : Nat
deriving DecidableEq, Repr

/-- The settings of a preview. -/
structure Config where
  /-- The name of the entry module. -/
  entryFile : String
  /-- The module that provides `h`, `createApp` and the like. -/
  frameworkModule : String
  /-- The addresses of bare module names inside the preview document. -/
  importMap : NameMap String
  /-- The id of the element that the application is mounted on. -/
  mountId : String
  /-- How long an edit waits for further edits. -/
  debounce : Nat
  /-- The limits of compile attempts. -/
  compileGuard : GuardConfig
  /-- The limits of surface resets. -/
  resetGuard : GuardConfig
  /-- The extensions tried, in order, for an import without one. -/
  resolveExtensions : List String
  /-- The text that marks names of the editor's in-memory models. -/
  inMemoryMarker : String
deriving DecidableEq

namespace Config

/-- The settings used where none are given. -/
def standard : Config where
  entryFile := "main.ts"
  frameworkModule := "vue"
  importMap := NameMap.empty.insert "vue" "https://unpkg.com/vue@3.5.1/dist/vue.esm-browser.prod.js"
  mountId := "app"
  debounce := 200
  compileGuard := ⟨1000, 10, 2000⟩
  resetGuard := ⟨3000, 2, 5000⟩
  resolveExtensions := ["ts", "tsx", "js", "jsx", "vue"]
  inMemoryMarker := "inmemory://model"

instance : Inhabited Config := ⟨standard⟩

/-- Why settings are refused. -/
inductive Invalid where
  /-- The entry file has a blank name. -/
  | blankEntryFile
  /-- The mount element has a blank id. -/
  | blankMountId
  /-- The compile guard lets no attempt through. -/
  | closedCompileGuard
  /-- The reset guard lets no attempt through. -/
  | closedResetGuard
deriving DecidableEq, Repr

/-- The text shown for refused settings. -/
def Invalid.message : Invalid → String
  | blankEntryFile => "invalid config: entryFile must not be empty"
  | blankMountId => "invalid config: mountId must not be empty"
  | closedCompileGuard => "invalid config: compileGuard.threshold must be at least 1"
  | closedResetGuard => "invalid config: resetGuard.threshold must be at least 1"

/-- Refuses blank names and guards that let nothing through; the first reason counts. -/
def validate (config : Config) : Except Invalid Unit :=
  if Text.isBlankText config.entryFile then .error .blankEntryFile
  else if Text.isBlankText config.mountId then .error .blankMountId
  else if config.compileGuard.threshold = 0 then .error .closedCompileGuard
  else if config.resetGuard.threshold = 0 then .error .closedResetGuard
  else .ok ()

end Config

end LivePreview
