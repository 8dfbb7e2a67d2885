import LivePreview.FileTree
import Mathlib.Data.List.Basic

/-!
# The files of a tree

A walk through a tree meets exactly the files that some path leads to, in the order of their paths:
at the first segment in which two paths differ, the lower name comes first.

## Main definitions

* `LivePreview.FileTree.IsSegment`: the names that files and folders may have.
* `LivePreview.FileTree.WellFormed`: the trees that a file system may hold.

## Main results

* `LivePreview.FileTree.locate_append`: a path is followed in two parts.
* `LivePreview.FileTree.mem_walk_iff`: a walk meets the files that paths lead to.
* `LivePreview.FileTree.pairwise_walk`: a walk is in the order of the paths.
-/

namespace LivePreview.FileTree

variable {node tree : FileTree} {children : List (String × FileTree)} {segment : String}
  {path : List String}

/-! ### Trees of a file system -/

/-- A name that is not empty and holds no slash. -/
def IsSegment (name : String) : Prop := name ≠ "" ∧ '/' ∉ name.toList

/-- The names in each folder ascend, so that no two are the same, and all of them are names that a
file or a folder may have. -/
inductive WellFormed : FileTree → Prop
  | file (bytes : ByteArray) : WellFormed (.file bytes)
  | special : WellFormed .special
  | folder {children : List (String × FileTree)}
      (hnames : children.Pairwise fun a b => a.1 < b.1) (hsegments : ∀ e ∈ children, IsSegment e.1)
      (h : ∀ e ∈ children, WellFormed e.2) : WellFormed (.folder children)

/-! ### Paths -/

theorem locate_folder_cons (segment : String) (path : List String)
    (children : List (String × FileTree)) : locate (segment :: path) (.folder children) =
      match NameMap.find? segment children with
      | some child => locate path child
      | none => .error .missing :=
  rfl

/-- What is behind the first segment of a path is in a child of the folder. -/
theorem exists_child_of_locate (h : tree.locate (segment :: path) = .ok node) :
    ∃ children child, tree = .folder children ∧ NameMap.find? segment children = some child ∧
      child.locate path = .ok node := by
  cases tree with
  | file bytes => simp [locate] at h
  | special => simp [locate] at h
  | folder children =>
    rw [locate_folder_cons] at h
    cases hchild : NameMap.find? segment children with
    | none => simp [hchild] at h
    | some child => exact ⟨children, child, rfl, hchild, by simpa [hchild] using h⟩

/-- A path is followed in two parts. -/
theorem locate_append (h : tree.locate path = .ok node) (rest : List String) :
    tree.locate (path ++ rest) = node.locate rest := by
  induction path generalizing tree with
  | nil =>
    obtain rfl := Except.ok.inj h
    rfl
  | cons segment path ih =>
    obtain ⟨children, child, rfl, hchild, hnode⟩ := exists_child_of_locate h
    rw [List.cons_append, locate_folder_cons, hchild]
    exact ih hnode

theorem WellFormed.locate (htree : WellFormed tree) (h : tree.locate path = .ok node) :
    WellFormed node ∧ ∀ segment ∈ path, IsSegment segment := by
  induction path generalizing tree with
  | nil =>
    obtain rfl := Except.ok.inj h
    exact ⟨htree, by simp⟩
  | cons segment path ih =>
    obtain ⟨children, child, rfl, hchild, hnode⟩ := exists_child_of_locate h
    cases htree with
    | folder hnames hsegments hchildren =>
      have hmem := NameMap.mem_of_find?_eq_some hchild
      obtain ⟨hwell, hpath⟩ := ih (hchildren _ hmem) hnode
      exact ⟨hwell, List.forall_mem_cons.2 ⟨hsegments _ hmem, hpath⟩⟩

/-! ### Walks -/

theorem mem_walkAll_iff : path ∈ walkAll children ↔
    ∃ segment child rest, (segment, child) ∈ children ∧ rest ∈ child.walk ∧
      path = segment :: rest := by
  induction children with
  | nil => simp [walkAll]
  | cons first children ih =>
    obtain ⟨name, child⟩ := first
    rw [walkAll, List.mem_append, ih, List.mem_map]
    constructor
    · rintro (⟨rest, hrest, rfl⟩ | ⟨segment, other, rest, hmem, hrest, rfl⟩)
      · exact ⟨name, child, rest, List.mem_cons_self, hrest, rfl⟩
      · exact ⟨segment, other, rest, List.mem_cons_of_mem _ hmem, hrest, rfl⟩
    · rintro ⟨segment, other, rest, hmem, hrest, rfl⟩
      rcases List.mem_cons.1 hmem with heq | hmem
      · obtain ⟨rfl, rfl⟩ := Prod.mk.inj heq
        exact .inl ⟨rest, hrest, rfl⟩
      · exact .inr ⟨segment, other, rest, hmem, hrest, rfl⟩

/-- A walk meets the files that paths lead to. -/
theorem mem_walk_iff (htree : WellFormed tree) :
    path ∈ tree.walk ↔ ∃ bytes, tree.locate path = .ok (.file bytes) := by
  induction htree generalizing path with
  | file bytes =>
    cases path with
    | nil => simp [walk, locate]
    | cons segment path => simp [walk, locate]
  | special =>
    cases path with
    | nil => simp [walk, locate]
    | cons segment path => simp [walk, locate]
  | folder hnames hsegments hchildren ih =>
    rw [walk, mem_walkAll_iff]
    constructor
    · rintro ⟨segment, child, rest, hmem, hrest, rfl⟩
      rw [locate_folder_cons, NameMap.find?_eq_some_of_mem hnames hmem]
      exact (ih _ hmem).1 hrest
    · rintro ⟨bytes, hbytes⟩
      cases path with
      | nil => simp [locate] at hbytes
      | cons segment path =>
        obtain ⟨_, child, heq, hchild, hfile⟩ := exists_child_of_locate hbytes
        obtain rfl := FileTree.folder.inj heq
        have hmem := NameMap.mem_of_find?_eq_some hchild
        exact ⟨segment, child, path, hmem, (ih _ hmem).2 ⟨bytes, hfile⟩, rfl⟩

theorem pairwise_walkAll (hnames : children.Pairwise fun a b => a.1 < b.1)
    (h : ∀ e ∈ children, e.2.walk.Pairwise (List.Lex (· < ·))) :
    (walkAll children).Pairwise (List.Lex (· < ·)) := by
  induction children with
  | nil => simp [walkAll]
  | cons first children ih =>
    obtain ⟨name, child⟩ := first
    obtain ⟨hname, hrest⟩ := List.pairwise_cons.1 hnames
    obtain ⟨hfirst, hchildren⟩ := List.forall_mem_cons.1 h
    rw [walkAll, List.pairwise_append]
    refine ⟨List.pairwise_map.2 (hfirst.imp .cons), ih hrest hchildren, ?_⟩
    intro p hp q hq
    obtain ⟨rest, -, rfl⟩ := List.mem_map.1 hp
    obtain ⟨segment, other, rest', hmem, -, rfl⟩ := mem_walkAll_iff.1 hq
    exact .rel (hname _ hmem)

/-- A walk is in the order of the paths. -/
theorem pairwise_walk (htree : WellFormed tree) : tree.walk.Pairwise (List.Lex (· < ·)) := by
  induction htree with
  | file bytes => simp [walk]
  | special => simp [walk]
  | folder hnames hsegments hchildren ih =>
    rw [walk]
    exact pairwise_walkAll hnames ih

end LivePreview.FileTree
