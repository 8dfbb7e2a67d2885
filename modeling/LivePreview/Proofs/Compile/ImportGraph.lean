import LivePreview.Proofs.Compile.Steps
import Mathlib.Data.List.Chain
import Mathlib.Logic.Relation

/-!
# The import graph of a job

The modules of a job form a graph on names. There is an edge from a module to each file that one
of its relative imports and re-exports stands for, unless a declaration that is exported by name
holds it: a visit passes over those. The root of the job is compiled as a module whatever its
language is, and with the text it is given as; a style sheet or data file that is imported, and a
file that is no module, have no edges.

The stack of a compilation is a path of this graph from the root to the module in progress, in
which no name comes twice. An import of a name on the stack closes a circle.

## Main definitions

* `LivePreview.Compile.module?`: the file that is compiled as a module under a name.
* `LivePreview.Compile.Names`, `LivePreview.Compile.Imports`: the edges of the graph.
* `LivePreview.Compile.Declares`, `LivePreview.Compile.Declared`: the edges together with those that
  are passed over.
* `LivePreview.Compile.entryReferences?`: the imports and re-exports of the entry.
* `LivePreview.Compile.LeadsToCycle`: edges lead from a name to a cycle.
* `LivePreview.Compile.InProgress`: a stack and the module at its top.
* `LivePreview.Compile.IsCircle`: a circle that the root of the job leads to.
* `LivePreview.Compile.Settled`: all paths from a name end.

## Main results

* `LivePreview.Compile.InProgress.isCircle`: an import of a name on the stack closes a circle.
* `LivePreview.Compile.IsCircle.leadsToCycle`: a circle is a cycle that the root leads to.
* `LivePreview.Compile.leadsToCycle_iff_declared`: if nothing is passed over, all declared edges
  lead to a cycle where those of the graph do.
* `LivePreview.Compile.Settled.not_leadsToCycle`: no settled name leads to a cycle.
-/

namespace LivePreview.Compile

open Relation (ReflTransGen TransGen)
open Redirection (relative)

/-! ### Edges -/

/-- Whether a file is compiled as a module where it is imported. Style sheets and data files are
wrapped as they are. -/
def isModule (file : SourceFile) : Bool :=
  file.language != .styles && file.language != .data

/-- The file that is compiled as a module under a name: the root under its own name, and else the
file of the set, if it is compiled as a module. -/
def module? (job : Job) (root : SourceFile) (name : String) : Option SourceFile :=
  if name = root.name then some root else (job.files.get? name).filter isModule

/-- A relative import or re-export of the module of `file` stands for `target`. -/
def Declares (engine : Engine) (job : Job) (file target : SourceFile) : Prop :=
  ∃ m, engine.parse file.name (moduleText job file) = .ok m ∧
    ∃ r ∈ engine.references m, relative r.source = true ∧
      target? job file.name r.source = some target

/-- A relative import or re-export of the module of `file` that no declaration exported by name
holds stands for `target`. -/
def Names (engine : Engine) (job : Job) (file target : SourceFile) : Prop :=
  ∃ m, engine.parse file.name (moduleText job file) = .ok m ∧
    ∃ r ∈ engine.references m, r.inside = false ∧ relative r.source = true ∧
      target? job file.name r.source = some target

/-- The edges that all relative imports and re-exports make in a job with a root. -/
def Declared (engine : Engine) (job : Job) (root : SourceFile) (importer imported : String) :
    Prop :=
  ∃ file target, module? job root importer = some file ∧ Declares engine job file target ∧
    target.name = imported

/-- The edges of the import graph of a job with a root. -/
def Imports (engine : Engine) (job : Job) (root : SourceFile) (importer imported : String) : Prop :=
  ∃ file target, module? job root importer = some file ∧ Names engine job file target ∧
    target.name = imported

/-- Edges lead from a name to a cycle. -/
def LeadsToCycle (edges : String → String → Prop) (name : String) : Prop :=
  ∃ a, ReflTransGen edges name a ∧ TransGen edges a a

/-- All paths of the import graph from a name end. -/
def Settled (engine : Engine) (job : Job) (root : SourceFile) (name : String) : Prop :=
  Acc (fun imported importer => Imports engine job root importer imported) name

variable {engine : Engine} {job : Job} {root file target : SourceFile} {stack : List String}

theorem wrapped?_eq_none_iff : wrapped? job file = none ↔ isModule file = true := by
  rw [wrapped?, isModule]
  cases file.language <;> simp

@[simp] theorem module?_root : module? job root root.name = some root := by simp [module?]

theorem module?_of_ne {name : String} (h : name ≠ root.name) :
    module? job root name = (job.files.get? name).filter isModule := by simp [module?, h]

/-- What a module names is what the sources stand for that a visit of it reaches. -/
theorem names_iff : Names engine job file target ↔
    ∃ m, engine.parse file.name (moduleText job file) = .ok m ∧
      ∃ source ∈ engine.sources m, relative source = true ∧
        target? job file.name source = some target := by
  simp only [Names, Engine.sources, Reference.mem_reached_iff]
  constructor
  · rintro ⟨m, hm, r, hr, hinside, hrel, ht⟩
    exact ⟨m, hm, r.source, ⟨r, hr, hinside, rfl⟩, hrel, ht⟩
  · rintro ⟨m, hm, _, ⟨r, hr, hinside, rfl⟩, hrel, ht⟩
    exact ⟨m, hm, r, hr, hinside, hrel, ht⟩

theorem Imports.declared {importer imported : String}
    (h : Imports engine job root importer imported) :
    Declared engine job root importer imported := by
  obtain ⟨file, target, hfile, ⟨m, hm, r, hr, -, hrel, ht⟩, hname⟩ := h
  exact ⟨file, target, hfile, ⟨m, hm, r, hr, hrel, ht⟩, hname⟩

theorem Names.mem_values (h : Names engine job file target) : target ∈ job.files.values := by
  obtain ⟨m, -, r, -, -, -, ht⟩ := h
  exact mem_values_of_target? ht

/-- What a module names is in a keyed set under its own name. -/
theorem Names.get? (hfiles : FileSet.Keyed job.files) (h : Names engine job file target) :
    job.files.get? target.name = some target := by
  obtain ⟨m, -, r, -, -, -, ht⟩ := h
  exact (mem_probes_of_target? hfiles ht).2

/-- A name is settled if everything it imports is. -/
theorem Settled.of_imports {name : String}
    (h : ∀ imported, Imports engine job root name imported → Settled engine job root imported) :
    Settled engine job root name :=
  Acc.intro name h

/-- The module of a file is settled if everything it names is. -/
theorem Settled.of_names (hmodule : module? job root file.name = some file)
    (h : ∀ target, Names engine job file target → Settled engine job root target.name) :
    Settled engine job root file.name := by
  refine Settled.of_imports ?_
  rintro imported ⟨file', target, hfile', hnames, rfl⟩
  obtain rfl : file = file' := Option.some.inj (hmodule.symm.trans hfile')
  exact h target hnames

/-- A name without a module is settled. -/
theorem Settled.of_module?_eq_none {name : String} (h : module? job root name = none) :
    Settled engine job root name := by
  refine Settled.of_imports ?_
  rintro imported ⟨file, target, hfile, -⟩
  simp [h] at hfile

theorem Settled.of_reflTransGen {a b : String} (h : Settled engine job root a)
    (hab : ReflTransGen (Imports engine job root) a b) : Settled engine job root b := by
  induction hab with
  | refl => exact h
  | tail _ hstep ih => exact ih.inv hstep

theorem Settled.not_transGen {name : String} (h : Settled engine job root name) :
    ¬ TransGen (Imports engine job root) name name := by
  induction h with
  | intro a _ ih =>
    intro hcycle
    obtain ⟨b, hab, hba⟩ := Relation.TransGen.head'_iff.1 hcycle
    exact ih b hab (Relation.TransGen.tail' hba hab)

/-- No settled name leads to a cycle. -/
theorem Settled.not_leadsToCycle {name : String} (h : Settled engine job root name) :
    ¬ LeadsToCycle (Imports engine job root) name := by
  rintro ⟨a, ha, hcycle⟩
  exact (h.of_reflTransGen ha).not_transGen hcycle

/-- The imports and re-exports of the entry of a job, if it has one that is a module. -/
def entryReferences? (engine : Engine) (job : Job) : Option (List Reference) :=
  match entry? job with
  | none => none
  | some file =>
    match engine.parse (patched job file).name (moduleText job (patched job file)) with
    | .error _ => none
    | .ok m => some (engine.references m)

theorem exists_entry_references {refs : List Reference}
    (h : entryReferences? engine job = some refs) :
    ∃ file m, entry? job = some file ∧
      engine.parse (patched job file).name (moduleText job (patched job file)) = .ok m ∧
      engine.references m = refs := by
  rw [entryReferences?] at h
  split at h
  · cases h
  · rename_i file hentry
    split at h
    · cases h
    · rename_i m hm
      exact ⟨file, m, hentry, hm, Option.some.inj h⟩

/-! ### Modules in progress -/

/-- A stack is a path of the import graph from the root to the module in progress at its top, in
which no name comes twice. -/
structure InProgress (engine : Engine) (job : Job) (root : SourceFile) (stack : List String)
    (file : SourceFile) : Prop where
  /-- No name comes twice. -/
  nodup : stack.Nodup
  /-- The path starts at the root. -/
  head : stack.head? = some root.name
  /-- The path ends at the module. -/
  last : stack.getLast? = some file.name
  /-- Each name imports the next one. -/
  chain : stack.IsChain (Imports engine job root)
  /-- The module is the one under its name. -/
  atTop : module? job root file.name = some file

namespace InProgress

/-- At the start of a job the root is in progress. -/
theorem singleton (engine : Engine) (job : Job) (root : SourceFile) :
    InProgress engine job root [root.name] root where
  nodup := by simp
  head := rfl
  last := rfl
  chain := .singleton _
  atTop := module?_root

variable (h : InProgress engine job root stack file)

include h in
theorem root_mem : root.name ∈ stack := List.mem_of_head? h.head

include h in
theorem imports (hn : Names engine job file target) :
    Imports engine job root file.name target.name :=
  ⟨file, target, h.atTop, hn, rfl⟩

include h in
/-- A file that is not on the stack is compiled as it is in the set. -/
theorem module?_eq {name : String} (hnew : name ∉ stack) :
    module? job root name = (job.files.get? name).filter isModule :=
  module?_of_ne fun e => hnew (e ▸ h.root_mem)

include h in
/-- A module named by the one in progress may enter the stack. -/
theorem push (hfiles : FileSet.Keyed job.files) (hn : Names engine job file target)
    (hnew : target.name ∉ stack) (hmodule : isModule target = true) :
    InProgress engine job root (stack ++ [target.name]) target where
  nodup := by
    rw [List.nodup_append]
    exact ⟨h.nodup, by simp, by rintro a ha b hb rfl; simp_all⟩
  head := by simp [List.head?_append, h.head]
  last := by simp
  chain := by
    refine h.chain.append (.singleton _) fun a ha b hb => ?_
    obtain rfl : file.name = a := by simpa [h.last] using ha
    obtain rfl : target.name = b := by simpa using hb
    exact h.imports hn
  atTop := by rw [h.module?_eq hnew, hn.get? hfiles]; simp [hmodule]

include h in
/-- The root leads to all names on the stack. -/
theorem reflTransGen_of_mem {name : String} (hmem : name ∈ stack) :
    ReflTransGen (Imports engine job root) root.name name := by
  refine h.chain.induction _ stack (fun a b hab ha => ha.tail hab) (fun hne => ?_) name hmem
  have hhead : stack.head hne = root.name := by
    simpa [List.head?_eq_some_head hne] using h.head
  exact hhead ▸ .refl

include h in
/-- All names on the stack lead to its top. -/
theorem reflTransGen_top {name : String} (hmem : name ∈ stack) :
    ReflTransGen (Imports engine job root) name file.name := by
  refine h.chain.backwards_induction (ReflTransGen (Imports engine job root) · file.name) stack
    (fun a b hab hb => .head hab hb) (fun hne => ?_) name hmem
  have hlast : stack.getLast hne = file.name := by
    simpa [List.getLast?_eq_some_getLast hne] using h.last
  exact hlast ▸ .refl

end InProgress

/-! ### Circles -/

/-- A circle of imports: at least two names, the first of which is also the last, and the others
are pairwise distinct. Each name imports the next one, and the root of the job leads to the
first. -/
structure IsCircle (engine : Engine) (job : Job) (root : SourceFile) (chain : List String) :
    Prop where
  /-- There are at least two names. -/
  two_le_length : 2 ≤ chain.length
  /-- The circle is closed. -/
  head?_eq_getLast? : chain.head? = chain.getLast?
  /-- No name but the first one comes twice. -/
  nodup_dropLast : chain.dropLast.Nodup
  /-- Each name imports the next one. -/
  isChain : chain.IsChain (Imports engine job root)
  /-- The root leads to the circle. -/
  reflTransGen_head : ∀ name ∈ chain.head?, ReflTransGen (Imports engine job root) root.name name

/-- The circle that closes at a name is the part of the stack from there on, and that name. -/
theorem circle_append_cons {front back : List String} {name : String} (hfront : name ∉ front) :
    circle (front ++ name :: back) name = name :: back ++ [name] := by
  have hdrop : (front ++ name :: back).dropWhile (· ≠ name) = name :: back := by
    rw [List.dropWhile_append_of_pos fun a ha => by simpa using fun e : a = name => hfront (e ▸ ha)]
    simp
  rw [circle, hdrop]

/-- An import of a name on the stack closes a circle. -/
theorem InProgress.isCircle (h : InProgress engine job root stack file)
    (hn : Names engine job file target) (hmem : target.name ∈ stack) :
    IsCircle engine job root (circle stack target.name) := by
  obtain ⟨front, back, hstack, hfront⟩ := List.eq_append_cons_of_mem hmem
  rw [hstack, circle_append_cons hfront]
  have hlast : (target.name :: back).getLast? = some file.name := by
    have := h.last
    rwa [hstack, List.getLast?_append_of_ne_nil _ (by simp)] at this
  refine ⟨by simp, by rw [List.getLast?_concat]; rfl, ?_, ?_, ?_⟩
  · have := hstack ▸ h.nodup
    rw [List.dropLast_concat]
    exact (List.nodup_append.1 this).2.1
  · refine (hstack ▸ h.chain).right_of_append.append (.singleton _) fun a ha b hb => ?_
    obtain rfl : file.name = a := by simpa [hlast] using ha
    obtain rfl : target.name = b := by simpa using hb
    exact h.imports hn
  · rintro name hname
    obtain rfl : target.name = name := by simpa using hname
    exact h.reflTransGen_of_mem hmem

/-- A circle is a cycle that the root leads to. -/
theorem IsCircle.leadsToCycle {chain : List String} (h : IsCircle engine job root chain) :
    LeadsToCycle (Imports engine job root) root.name := by
  match chain, h with
  | [], h => exact absurd h.two_le_length (by simp)
  | [_], h => exact absurd h.two_le_length (by simp)
  | a :: b :: rest, h =>
    have hab : Imports engine job root a b := h.isChain.rel
    have hlast : (b :: rest).getLast (by simp) = a := by
      have := h.head?_eq_getLast?
      rw [List.head?_cons, List.getLast?_cons_cons,
        List.getLast?_eq_some_getLast (by simp)] at this
      exact (Option.some.inj this).symm
    have hba : ReflTransGen (Imports engine job root) b a :=
      List.relationReflTransGen_of_exists_isChain_cons rest h.isChain.tail hlast
    exact ⟨a, h.reflTransGen_head a rfl, .head' hab hba⟩

/-- If nothing is passed over in what a name leads to, all declared edges lead to a cycle if and
only if the edges of the graph do. -/
theorem leadsToCycle_iff_declared {name : String}
    (h : ∀ a b, ReflTransGen (Declared engine job root) name a →
      Declared engine job root a b → Imports engine job root a b) :
    LeadsToCycle (Imports engine job root) name ↔ LeadsToCycle (Declared engine job root) name := by
  constructor
  · rintro ⟨a, ha, hcycle⟩
    exact ⟨a, ReflTransGen.mono (fun _ _ => Imports.declared) _ _ ha,
      TransGen.mono (fun _ _ => Imports.declared) _ _ hcycle⟩
  · rintro ⟨a, ha, hcycle⟩
    have hreach {b : String} (hb : ReflTransGen (Declared engine job root) name b) :
        ReflTransGen (Imports engine job root) name b := by
      induction hb with
      | refl => exact .refl
      | tail hb hstep ih => exact ih.tail (h _ _ hb hstep)
    have hpath {b : String} (hb : TransGen (Declared engine job root) a b) :
        TransGen (Imports engine job root) a b := by
      induction hb with
      | single hstep => exact .single (h _ _ ha hstep)
      | tail hb hstep ih => exact ih.tail (h _ _ (ha.trans hb.to_reflTransGen) hstep)
    exact ⟨a, hreach ha, hpath hcycle⟩

end LivePreview.Compile
