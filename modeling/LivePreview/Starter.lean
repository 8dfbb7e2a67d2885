import LivePreview.FileSet

/-!
# The starter project

The project shown before anything is edited: an entry, a root component, global styles and the map
of import addresses.

## Main definitions

* `LivePreview.Starter.files`: the files of the project.
-/

namespace LivePreview.Starter

/-- Lines joined by line breaks. -/
def lines (l : List String) : String := "\n".intercalate l

/-- The addresses of the framework and its router. -/
def importMap : String := lines
  ["\x7b",
   "  \"imports\": \x7b",
   "    \"vue\": \"https://unpkg.com/vue@3/dist/vue.esm-browser.prod.js\",",
   "    \"vue-router\": \"https://unpkg.com/vue-router@4/dist/vue-router.esm-browser.js\"",
   "  \x7d",
   "\x7d"]

/-- The entry module. -/
def entryModule : String := lines
  ["import \x7b createApp \x7d from 'vue'",
   "import App from './App.vue'",
   "import './App.css'",
   "",
   "const appContainer = document.querySelector('#app')",
   "",
   "// Unmount the app left over from the previous run",
   "if (appContainer && appContainer.__vue_app__) \x7b",
   "  appContainer.__vue_app__.unmount()",
   "\x7d",
   "",
   "const app = createApp(App)",
   "app.mount('#app')",
   ""]

/-- The root component. -/
def rootComponent : String := lines
  ["<template>",
   "  <div class=\"app\">",
   "    <img src=\"https://vuejs.org/images/logo.png\" class=\"logo\" alt=\"Vue logo\" />",
   "    <h1>Vue Playground</h1>",
   "    <p>Edit <code>App.vue</code> to get started</p>",
   "  </div>",
   "</template>",
   "",
   "<script setup>",
   "// component logic",
   "</script>",
   "",
   "<style>",
   ".app \x7b",
   "  text-align: center;",
   "  padding: 2rem;",
   "\x7d",
   "",
   ".logo \x7b",
   "  height: 6em;",
   "  padding: 1.5em;",
   "\x7d",
   "",
   "h1 \x7b",
   "  font-size: 2.5em;",
   "  line-height: 1.1;",
   "\x7d",
   "</style>",
   ""]

/-- The global styles. -/
def styles : String := lines
  ["body \x7b",
   "  margin: 0;",
   "  font-family: Inter, system-ui, Avenir, Helvetica, Arial, sans-serif;",
   "  color: #213547;",
   "  background-color: #ffffff;",
   "\x7d",
   "",
   "#app \x7b",
   "  max-width: 1280px;",
   "  margin: 0 auto;",
   "  padding: 2rem;",
   "\x7d",
   ""]

/-- The files of the starter project. -/
def files : FileSet :=
  [("main.ts", entryModule), ("App.vue", rootComponent), ("App.css", styles),
    ("import-map.json", importMap)].foldl
    (fun files (name, content) => files.put ⟨name, content, Language.ofFileName name⟩)
    NameMap.empty

end LivePreview.Starter
