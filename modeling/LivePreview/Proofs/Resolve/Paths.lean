import LivePreview.Proofs.Resolve.Candidates

/-!
# Relative paths

A path is a list of segments between slashes. A specifier is walked segment by segment from the
folder of the importer: an ordinary segment goes down, `..` goes up, an empty segment and `.` stay.
The walk fails where more segments have led up than the folder and the segments before them led
down. Each file can be named from each importer: climb out of any number of folders that the two do
not share, and perhaps of more, and go down to the file.

## Main definitions

* `LivePreview.Resolve.Ordinary`, `LivePreview.Resolve.Normal`: segments that lead down, and names
  made of them.
* `LivePreview.Resolve.relativePath`: the specifier that leads from a folder to a file.

## Main results

* `LivePreview.Resolve.segments_intercalate`, `LivePreview.Resolve.intercalate_segments`: paths and
  lists of segments.
* `LivePreview.Resolve.walk_eq_none_iff`: where a walk fails.
* `LivePreview.Resolve.join?_relativePath`: a relative path leads to its target.
* `LivePreview.Resolve.reachable_by_relativePath`: every file is found by its relative path.
-/

namespace LivePreview.Resolve

/-! ### Segments -/

theorem segmentsOf_eq_splitOn : (path : List Char) → segmentsOf path = path.splitOn '/'
  | [] => rfl
  | c :: path => by
      rw [segmentsOf, segmentsOf_eq_splitOn path, List.splitOn_cons_eq_if_modifyHead]
      by_cases h : c = '/'
      · simp [h]
      · rw [if_neg h, if_neg (by simpa using h)]
        cases hsplit : path.splitOn '/' with
        | nil => exact absurd hsplit (List.splitOn_ne_nil _ _)
        | cons segment rest => rfl

/-- The segments of a path give it back. -/
theorem intercalate_segments (path : String) : "/".intercalate (segments path) = path := by
  rw [← String.toList_inj, String.toList_intercalate, segments, List.map_map]
  have hmap : String.toList ∘ String.ofList = id := funext fun _ => String.toList_ofList
  rw [hmap, List.map_id, segmentsOf_eq_splitOn]
  exact List.intercalate_splitOn '/'

/-- Segments without slashes are those of the path made of them. -/
theorem segments_intercalate {l : List String} (hne : l ≠ [])
    (h : ∀ segment ∈ l, '/' ∉ segment.toList) : segments ("/".intercalate l) = l := by
  have hsplit : (['/'].intercalate (l.map String.toList)).splitOn '/' = l.map String.toList :=
    List.splitOn_intercalate '/' (by simpa using h) (by simpa using hne)
  rw [segments, segmentsOf_eq_splitOn, String.toList_intercalate]
  have hslash : "/".toList = ['/'] := rfl
  rw [hslash, hsplit, List.map_map]
  have hmap : String.ofList ∘ String.toList = id := funext fun _ => String.ofList_toList
  rw [hmap, List.map_id]

theorem slash_not_mem_of_mem_segmentsOf : {path segment : List Char} → segment ∈ segmentsOf path →
    '/' ∉ segment
  | [], segment, h => by
      obtain rfl := List.mem_singleton.1 h
      simp
  | c :: path, segment, h => by
      rw [segmentsOf] at h
      split at h
      · rcases List.mem_cons.1 h with rfl | h
        · simp
        · exact slash_not_mem_of_mem_segmentsOf h
      · rename_i hc
        split at h
        · obtain rfl := List.mem_singleton.1 h
          simpa using Ne.symm hc
        · rename_i first rest hpath
          have hrest (s : List Char) (hs : s ∈ first :: rest) : '/' ∉ s :=
            slash_not_mem_of_mem_segmentsOf (hpath ▸ hs)
          rcases List.mem_cons.1 h with rfl | h
          · simpa [Ne.symm hc] using hrest first List.mem_cons_self
          · exact hrest segment (List.mem_cons_of_mem _ h)

theorem slash_not_mem_of_mem_segments {path segment : String} (h : segment ∈ segments path) :
    '/' ∉ segment.toList := by
  obtain ⟨s, hs, rfl⟩ := List.mem_map.1 h
  simpa using slash_not_mem_of_mem_segmentsOf hs

theorem segments_append_slash (path rest : String) :
    segments (path ++ "/" ++ rest) = segments path ++ segments rest := by
  have hchars : (path ++ "/" ++ rest).toList = path.toList ++ '/' :: rest.toList := by simp
  rw [segments, hchars, segmentsOf_eq_splitOn, List.splitOn_append_cons_self, List.map_append,
    ← segmentsOf_eq_splitOn, ← segmentsOf_eq_splitOn, ← segments, ← segments]

theorem segments_climbs (rest : String) : (n : Nat) →
    segments (String.join (List.replicate n "../") ++ rest) =
      List.replicate n ".." ++ segments rest
  | 0 => by simp
  | n + 1 => by
      have hclimb : String.join (List.replicate (n + 1) "../") ++ rest =
          ".." ++ "/" ++ (String.join (List.replicate n "../") ++ rest) := by
        rw [List.replicate_succ, String.join_cons, String.append_assoc]
        rfl
      rw [hclimb, segments_append_slash, segments_climbs rest n]
      rfl

/-! ### Walks -/

/-- A segment that leads down. -/
def Ordinary (segment : String) : Prop := segment ≠ "" ∧ segment ≠ "." ∧ segment ≠ ".."

instance : DecidablePred Ordinary := fun segment =>
  inferInstanceAs (Decidable (segment ≠ "" ∧ segment ≠ "." ∧ segment ≠ ".."))

/-- A name whose segments all lead down. -/
def Normal (name : String) : Prop := ∀ segment ∈ segments name, Ordinary segment

instance : DecidablePred Normal := fun name =>
  inferInstanceAs (Decidable (∀ segment ∈ segments name, Ordinary segment))

/-- The segments of the folder of a file. -/
def folder (name : String) : List String := (segments name).dropLast

section Walk

variable {up : List String} {segment : String} {rest : List String}

theorem walk_cons_of_ordinary (h : Ordinary segment) :
    walk up (segment :: rest) = walk (segment :: up) rest := by
  rw [walk.eq_def]
  simp [h.1, h.2.1, h.2.2]

theorem walk_cons_of_stay (h : segment = "" ∨ segment = ".") :
    walk up (segment :: rest) = walk up rest := by
  rw [walk.eq_def]
  simp [h]

theorem walk_climb_nil : walk [] (".." :: rest) = none := rfl

theorem walk_climb_cons {last : String} : walk (last :: up) (".." :: rest) = walk up rest := rfl

/-- A segment leads down, stays or climbs. -/
theorem ordinary_or (segment : String) :
    Ordinary segment ∨ (segment = "" ∨ segment = ".") ∨ segment = ".." := by
  by_cases hstay : segment = "" ∨ segment = "."
  · exact .inr (.inl hstay)
  · by_cases hclimb : segment = ".."
    · exact .inr (.inr hclimb)
    · exact .inl ⟨fun h => hstay (.inl h), fun h => hstay (.inr h), hclimb⟩

theorem walk_of_forall_ordinary : {up l : List String} → (∀ s ∈ l, Ordinary s) →
    walk up l = some (up.reverse ++ l)
  | up, [], _ => by simp [walk]
  | up, segment :: rest, h => by
      obtain ⟨hsegment, hrest⟩ := List.forall_mem_cons.1 h
      rw [walk_cons_of_ordinary hsegment, walk_of_forall_ordinary hrest]
      simp

/-- Climbs that stay below the root take away the last folders. -/
theorem walk_climbs : {n : Nat} → {up : List String} → n ≤ up.length →
    walk up (List.replicate n ".." ++ rest) = walk (up.drop n) rest
  | 0, _, _ => rfl
  | n + 1, _ :: _, h => walk_climbs (n := n) (Nat.le_of_succ_le_succ h)

/-- What holds of the folders of a start and of the segments that lead down holds of all folders
that a walk leads to. -/
theorem forall_of_walk {P : String → Prop} : {up l path : List String} →
    walk up l = some path → (∀ s ∈ up, P s) → (∀ s ∈ l, Ordinary s → P s) → ∀ s ∈ path, P s
  | up, [], path, h, hup, _ => by
      rw [walk, Option.some.injEq] at h
      simpa [← h] using hup
  | up, segment :: rest, path, h, hup, hl => by
      obtain ⟨hsegment, hrest⟩ := List.forall_mem_cons.1 hl
      rcases ordinary_or segment with hdown | hstay | rfl
      · rw [walk_cons_of_ordinary hdown] at h
        exact forall_of_walk h (List.forall_mem_cons.2 ⟨hsegment hdown, hup⟩) hrest
      · rw [walk_cons_of_stay hstay] at h
        exact forall_of_walk h hup hrest
      · cases up with
        | nil => cases h
        | cons last up =>
          rw [walk_climb_cons] at h
          exact forall_of_walk h (List.forall_mem_cons.1 hup).2 hrest

/-- The segments of a walk climb above its start if in some part of them more have climbed than the
folders of the start and the segments of the part that led down. -/
def Climbs (depth : Nat) (l : List String) : Prop :=
  ∃ part, part <+: l ∧ depth + part.countP (Ordinary ·) < part.count ".."

theorem not_climbs_nil (depth : Nat) : ¬ Climbs depth [] := by
  rintro ⟨part, hpart, hlt⟩
  obtain rfl := List.prefix_nil.1 hpart
  simp at hlt

/-- A part that climbs above the start has a first segment. -/
theorem climbs_cons_iff {depth : Nat} : Climbs depth (segment :: rest) ↔
    ∃ part, part <+: rest ∧
      depth + (segment :: part).countP (Ordinary ·) < (segment :: part).count ".." := by
  constructor
  · rintro ⟨part, hpart, hlt⟩
    cases part with
    | nil => simp at hlt
    | cons first part =>
      obtain ⟨rfl, hrest⟩ := List.cons_prefix_cons.1 hpart
      exact ⟨part, hrest, hlt⟩
  · rintro ⟨part, hpart, hlt⟩
    exact ⟨segment :: part, (List.prefix_cons_inj segment).2 hpart, hlt⟩

/-- A walk fails if and only if it climbs above its start. -/
theorem walk_eq_none_iff : {up l : List String} → walk up l = none ↔ Climbs up.length l
  | up, [] => by simp [walk, not_climbs_nil]
  | up, segment :: rest => by
      rw [climbs_cons_iff]
      rcases ordinary_or segment with hdown | hstay | rfl
      · rw [walk_cons_of_ordinary hdown, walk_eq_none_iff, Climbs]
        refine exists_congr fun part => and_congr_right fun _ => ?_
        rw [List.countP_cons_of_pos (by simpa using hdown), List.count_cons_of_ne hdown.2.2,
          List.length_cons]
        omega
      · have hcount : segment ≠ ".." := by rcases hstay with rfl | rfl <;> decide
        have hflat : ¬ Ordinary segment := fun h => hstay.elim h.1 h.2.1
        rw [walk_cons_of_stay hstay, walk_eq_none_iff, Climbs]
        refine exists_congr fun part => and_congr_right fun _ => ?_
        rw [List.countP_cons_of_neg (by simpa using hflat), List.count_cons_of_ne hcount]
      · have hflat : ¬ Ordinary ".." := fun h => h.2.2 rfl
        cases up with
        | nil =>
          -- At the root the first climb already leads nowhere.
          simp only [walk_climb_nil, true_iff]
          exact ⟨[], List.nil_prefix, by simp [hflat]⟩
        | cons last up =>
          rw [walk_climb_cons, walk_eq_none_iff, Climbs]
          refine exists_congr fun part => and_congr_right fun _ => ?_
          rw [List.countP_cons_of_neg (by simpa using hflat), List.count_cons_self,
            List.length_cons]
          omega

end Walk

/-! ### Joined paths -/

/-- A joined path is empty, or all its segments lead down. -/
theorem eq_empty_or_normal_of_join? {importer specifier path : String} (himporter : Normal importer)
    (h : join? importer specifier = some path) : path = "" ∨ Normal path := by
  obtain ⟨l, hwalk, rfl⟩ := Option.map_eq_some_iff.1 h
  have hl : ∀ s ∈ l, Ordinary s ∧ '/' ∉ s.toList := by
    refine forall_of_walk hwalk (fun s hs => ?_) fun s hs hdown =>
      ⟨hdown, slash_not_mem_of_mem_segments hs⟩
    have hfolder : s ∈ segments importer := List.dropLast_subset _ (List.mem_reverse.1 hs)
    exact ⟨himporter s hfolder, slash_not_mem_of_mem_segments hfolder⟩
  by_cases hne : l = []
  · exact .inl (by rw [hne, String.intercalate_nil])
  · refine .inr fun s hs => (hl s ?_).1
    rwa [segments_intercalate hne fun s hs => (hl s hs).2] at hs

theorem join?_eq_none_iff {importer specifier : String} :
    join? importer specifier = none ↔ Climbs (folder importer).length (segments specifier) := by
  rw [join?, Option.map_eq_none_iff, walk_eq_none_iff, List.length_reverse, folder]

/-! ### Relative paths -/

/-- How many segments two paths have in common at their start. -/
def commonDepth : List String → List String → Nat
  | a :: l, b :: l' => if a = b then commonDepth l l' + 1 else 0
  | _, _ => 0

/-- The specifier that climbs from a folder until `k` segments of it are left, and goes down to a
target that shares these. -/
def relativePath (base target : List String) (k : Nat) : String :=
  (if base.length = k then "./" else String.join (List.replicate (base.length - k) "../")) ++
    "/".intercalate (target.drop k)

theorem take_eq_of_le_commonDepth : {base target : List String} → {k : Nat} →
    k ≤ commonDepth base target → k ≤ base.length ∧ base.take k = target.take k
  | _, _, 0, _ => by simp
  | [], _, _ + 1, h => by simp [commonDepth] at h
  | _ :: _, [], _ + 1, h => by simp [commonDepth] at h
  | a :: base, b :: target, k + 1, h => by
      rw [commonDepth] at h
      split at h
      · rename_i hab
        obtain ⟨hlength, htake⟩ := take_eq_of_le_commonDepth (Nat.le_of_succ_le_succ h)
        exact ⟨Nat.succ_le_succ hlength, by
          rw [List.take_succ_cons, List.take_succ_cons, hab, htake]⟩
      · simp at h

/-- Going down some segments from a folder leads into them. -/
theorem walk_down {up l : List String} (h : ∀ s ∈ l, Ordinary s ∧ '/' ∉ s.toList) :
    walk up (segments ("/".intercalate l)) = some (up.reverse ++ l) := by
  by_cases hne : l = []
  · subst hne
    have hempty : segments ("/".intercalate []) = [""] := rfl
    rw [hempty, walk_cons_of_stay (.inl rfl), walk, List.append_nil]
  · rw [segments_intercalate hne fun s hs => (h s hs).2,
      walk_of_forall_ordinary fun s hs => (h s hs).1]

/-- A relative path leads to its target. -/
theorem join?_relativePath {importer target : String} (htarget : Normal target) {k : Nat}
    (hk : k ≤ commonDepth (folder importer) (segments target)) :
    join? importer (relativePath (folder importer) (segments target) k) = some target := by
  obtain ⟨hlength, htake⟩ := take_eq_of_le_commonDepth hk
  have hdown (up : List String) :
      walk up (segments ("/".intercalate ((segments target).drop k))) =
        some (up.reverse ++ (segments target).drop k) :=
    walk_down fun s hs =>
      ⟨htarget s (List.mem_of_mem_drop hs), slash_not_mem_of_mem_segments (List.mem_of_mem_drop hs)⟩
  have hwalk : walk (folder importer).reverse
      (segments (relativePath (folder importer) (segments target) k)) =
        some (segments target) := by
    rw [relativePath]
    split
    · rename_i hlevel
      have hstay : "./" ++ "/".intercalate ((segments target).drop k) =
          "." ++ "/" ++ "/".intercalate ((segments target).drop k) := rfl
      have hdot : segments "." = ["."] := rfl
      rw [hstay, segments_append_slash, hdot, List.singleton_append,
        walk_cons_of_stay (.inr rfl), hdown, List.reverse_reverse]
      have hshared : folder importer = (segments target).take k := by
        rw [← htake, ← hlevel, List.take_length]
      rw [hshared, List.take_append_drop]
    · rw [segments_climbs, walk_climbs (by simp), hdown, List.drop_reverse, List.reverse_reverse,
        Nat.sub_sub_self hlength, htake, List.take_append_drop]
  rw [join?, ← folder, hwalk, Option.map_some, intercalate_segments]

/-- A file under the joined path of a specifier is found: no candidate comes before that path. -/
theorem fst_find_of_join? {files : FileSet} {importer specifier path : String}
    {extensions : List String} {tried : Tried} {file : SourceFile}
    (hjoin : join? importer specifier = some path) (hfile : files.get? path = some file) :
    (find files importer specifier extensions tried).1 = some file := by
  rw [fst_find, target?_eq_findSome?, candidates, hjoin]
  simp [withExtensions, distinct, hfile]

/-- Every file is found by its relative paths from every importer, and a specifier is joined unless
it climbs above the root. -/
theorem reachable_by_relativePath {importer : String} (himporter : Normal importer) :
    (∀ (files : FileSet) (target : String) (file : SourceFile), Normal target →
        files.get? target = some file → ∀ k ≤ commonDepth (folder importer) (segments target),
          ∀ extensions tried,
            (find files importer (relativePath (folder importer) (segments target) k) extensions
              tried).1 = some file) ∧
      ∀ specifier,
        (join? importer specifier = none ↔
          Climbs (folder importer).length (segments specifier)) ∧
        ∀ path, join? importer specifier = some path → path = "" ∨ Normal path :=
  ⟨fun _ _ _ htarget hfile _ hk _ _ => fst_find_of_join? (join?_relativePath htarget hk) hfile,
    fun _ => ⟨join?_eq_none_iff, fun _ => eq_empty_or_normal_of_join? himporter⟩⟩

/-- From a component two folders deep, the script beside it is found through the root as well. -/
theorem reachable_by_relativePath_card :
    relativePath (folder "src/parts/Card.vue") (segments "src/utils.ts") 0 =
        "../../src/utils.ts" ∧
      (find (FileSet.ofFiles [⟨"src/utils.ts", "", .script⟩, ⟨"utils.ts", "", .script⟩])
        "src/parts/Card.vue" "../../src/utils.ts" ["ts"] NameMap.empty).1 =
          some ⟨"src/utils.ts", "", .script⟩ ∧
      join? "src/parts/Card.vue" "../../../utils.ts" = none := by
  have himporter : Normal "src/parts/Card.vue" := by decide +kernel
  have htarget : Normal "src/utils.ts" := by decide +kernel
  have hpath : relativePath (folder "src/parts/Card.vue") (segments "src/utils.ts") 0 =
      "../../src/utils.ts" := by decide +kernel
  obtain ⟨hfind, hjoin⟩ := reachable_by_relativePath himporter
  refine ⟨hpath, ?_, (hjoin _).1.2 ⟨["..", "..", ".."], by decide +kernel, by decide⟩⟩
  have hfile : (FileSet.ofFiles [⟨"src/utils.ts", "", .script⟩, ⟨"utils.ts", "", .script⟩]).get?
      "src/utils.ts" = some ⟨"src/utils.ts", "", .script⟩ := by decide +kernel
  exact hpath ▸ hfind _ _ _ htarget hfile 0 (Nat.zero_le _) ["ts"] NameMap.empty

end LivePreview.Resolve
