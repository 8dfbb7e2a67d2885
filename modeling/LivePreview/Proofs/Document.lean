import LivePreview.Document
import LivePreview.Proofs.Text.Places
import Mathlib.Tactic.SplitIfs

/-!
# Script elements of the preview document

A browser closes a script element at the first `</script`, in whatever case its letters are written.
The document has its own two closing tags. What it is made of adds further ones exactly where it has
them itself: literals and attribute values are written without new ones, and of the script only
those in lower case are broken up.

## Main definitions

* `LivePreview.Document.Closes`: a text that closes a script element.
* `LivePreview.Document.closings`: the places where a text does so.
* `LivePreview.Document.front`, `middle`, `back`: the document around its own closing tags.

## Main results

* `LivePreview.Document.closes_quote_iff`: literals close what their texts close.
* `LivePreview.Document.closes_neutralize_iff`: what is left in a script.
* `LivePreview.Document.closings_build`: the script elements of a document are closed by its own
  tags alone, exactly if nothing that it is made of closes them.
-/

namespace LivePreview.Document

open Text (infix_append_iff)

/-- What closes a script element, written in lower case. -/
def closingTag : List Char := ['<', '/', 's', 'c', 'r', 'i', 'p', 't']

/-- Whether a script element with this text is closed by it, in whatever case the tag is written. -/
def Closes (text : String) : Prop := closingTag <:+: text.toList.map Char.toLower

theorem closingTag_prefix_cons_iff {c : Char} {s : List Char} :
    closingTag <+: c :: s ↔ '<' = c ∧ closingTag.tail <+: s := List.cons_prefix_cons

instance (text : String) : Decidable (Closes text) :=
  decidable_of_iff (Text.occursIn closingTag (text.toList.map Char.toLower) = true)
    Text.occursIn_iff

/-- The places where a text closes a script element. -/
def closings (text : String) : List Nat := Text.places closingTag (text.toList.map Char.toLower)

theorem closings_eq_nil_iff {text : String} : closings text = [] ↔ ¬Closes text :=
  Text.places_eq_nil_iff (by decide)

theorem toLower_cases (c : Char) : c.toLower = c ∨
    (65 ≤ c.toNat ∧ c.toNat ≤ 90 ∧ c.toLower.toNat = c.toNat + 32) := by
  delta Char.toLower
  split
  · rename_i h
    have hlower : 65 ≤ c.toNat := UInt32.le_iff_toNat_le.1 h.1
    have hupper : c.toNat ≤ 90 := UInt32.le_iff_toNat_le.1 h.2
    refine .inr ⟨hlower, hupper, ?_⟩
    change (c.val + 32).toNat = c.val.toNat + 32
    rw [UInt32.toNat_add]
    exact Nat.mod_eq_of_lt (show c.toNat + 32 < _ by omega)
  · exact .inl rfl

/-- No letter becomes an opening bracket. -/
theorem toLower_eq_bracket_iff {c : Char} : c.toLower = '<' ↔ c = '<' := by
  rcases toLower_cases c with h | ⟨hlower, -, h⟩
  · rw [h]
  · refine iff_of_false (fun hc => ?_) fun hc => absurd (hc ▸ hlower) (by decide)
    have h : 60 = c.toNat + 32 := (congrArg Char.toNat hc).symm.trans h
    omega

/-- A text without an opening bracket closes nothing. -/
theorem not_closes_of_notMem {text : String} (h : '<' ∉ text.toList) : ¬Closes text := by
  intro hcloses
  obtain ⟨c, hc, hbracket⟩ := List.mem_map.1 (hcloses.subset (a := '<') (by decide))
  exact h (toLower_eq_bracket_iff.1 hbracket ▸ hc)

theorem not_closes_ofList {s : List Char}
    (h : Text.occursIn closingTag (s.map Char.toLower) = false) : ¬Closes (String.ofList s) := by
  rw [Closes, String.toList_ofList, ← Text.occursIn_iff, h]
  decide

/-! ### Texts that are put together -/

section Fences

variable {l r : String} {f : List Char}

/-- Whether a text closes nothing and neither starts nor ends with a character of a closing tag. -/
def isFence (f : List Char) : Bool :=
  !Text.occursIn closingTag (f.map Char.toLower) &&
    f.head?.any (fun c => !closingTag.contains c.toLower) &&
    f.getLast?.any fun c => !closingTag.contains c.toLower

theorem isFence_iff : isFence f = true ↔ ¬closingTag <:+: f.map Char.toLower ∧
    (∃ c, f.head? = some c ∧ c.toLower ∉ closingTag) ∧
    ∃ c, f.getLast? = some c ∧ c.toLower ∉ closingTag := by
  simp only [isFence, Bool.and_eq_true, Bool.not_eq_true', ← Bool.not_eq_true, Text.occursIn_iff,
    Option.any_eq_true, List.contains_iff_mem, and_assoc]

theorem closes_fence_append (h : isFence f = true) :
    Closes (String.ofList f ++ r) ↔ Closes r := by
  obtain ⟨hcloses, -, c, hlast, hc⟩ := isFence_iff.1 h
  have hlast : (f.map Char.toLower).getLast? = some c.toLower := by
    rw [List.getLast?_map, hlast, Option.map_some]
  rw [Closes, String.toList_append, String.toList_ofList, List.map_append,
    infix_append_iff (Text.apart_of_getLast? hlast hc)]
  exact or_iff_right hcloses

theorem closes_append_fence_append (h : isFence f = true) :
    Closes (l ++ (String.ofList f ++ r)) ↔ Closes l ∨ Closes r := by
  obtain ⟨-, ⟨c, hhead, hc⟩, -⟩ := isFence_iff.1 h
  have hhead : ((String.ofList f ++ r).toList.map Char.toLower).head? = some c.toLower := by
    rw [String.toList_append, String.toList_ofList, List.head?_map, List.head?_append, hhead]
    rfl
  rw [Closes, String.toList_append, List.map_append, infix_append_iff
    (Text.apart_of_head? hhead fun h => hc (List.mem_of_mem_tail h))]
  exact or_congr_right (closes_fence_append h)

theorem closes_append_fence (h : isFence f = true) :
    Closes (l ++ String.ofList f) ↔ Closes l := by
  rw [← String.append_empty (s := String.ofList f), closes_append_fence_append h]
  exact or_iff_left (by decide)

/-- Lines close what one of them closes. -/
theorem closes_block_append_iff : {lines : List String} →
    (Closes (block lines ++ r) ↔ (∃ line ∈ lines, Closes line) ∨ Closes r)
  | [] => by simp [block]
  | line :: lines => by
      have hblock : block (line :: lines) ++ r = line ++ ("\n" ++ (block lines ++ r)) := by
        simp [block, String.append_assoc]
      rw [hblock, closes_append_fence_append (by decide), closes_block_append_iff,
        List.exists_mem_cons_iff, or_assoc]

/-- Lines that close nothing in front of a text. -/
theorem closes_block_append_of_forall {lines : List String} (h : ∀ line ∈ lines, ¬Closes line) :
    Closes (block lines ++ r) ↔ Closes r := by
  rw [closes_block_append_iff]
  exact or_iff_right fun ⟨line, hline, hcloses⟩ => h line hline hcloses

theorem closes_block_iff {lines : List String} :
    Closes (block lines) ↔ ∃ line ∈ lines, Closes line := by
  rw [← String.append_empty (s := block lines), closes_block_append_iff]
  exact or_iff_left (by decide)

/-- Parts with a separator between them close what one of them closes. -/
theorem closes_intercalate_iff (h : isFence f = true) : {parts : List String} →
    (Closes ((String.ofList f).intercalate parts) ↔ ∃ part ∈ parts, Closes part)
  | [] => by simp [show ¬Closes "" by decide]
  | [part] => by simp
  | first :: second :: parts => by
      rw [String.intercalate_cons_cons, String.append_assoc, closes_append_fence_append h,
        closes_intercalate_iff h, List.exists_mem_cons_iff (a := first)]

end Fences

/-! ### Literals and attribute values -/

/-- A character stands for itself in a literal, or it is none of a closing tag and is written with
a backslash. -/
theorem escapeChar_cases (c : Char) : Json.escapeChar c = [c] ∨ c.toLower ∉ closingTag ∧
    ∃ more, Json.escapeChar c = '\\' :: more ∧ '<' ∉ more.map Char.toLower := by
  have hdigit : ∀ n < 16, (Json.hexDigit n).toLower ≠ '<' := by decide
  generalize hescaped : Json.escapeChar c = escaped
  rw [Json.escapeChar] at hescaped
  iterate 7
    split at hescaped
    · rename_i hc
      exact .inr ⟨by subst hc; decide, _, hescaped.symm, by decide⟩
  split at hescaped
  · -- A control character is none of the letters.
    have hc : c.toLower = c := (toLower_cases c).resolve_right fun h => by omega
    have htag : ∀ d ∈ closingTag, 32 ≤ d.toNat := by simp [closingTag]
    refine .inr ⟨fun h => ?_, _, hescaped.symm, fun h => ?_⟩
    · have := htag c (hc ▸ h)
      omega
    · simp only [List.map_cons, List.map_nil, List.mem_cons, List.not_mem_nil, or_false] at h
      have hhigh := hdigit (c.toNat / 16) (by omega)
      have hlow := hdigit (c.toNat % 16) (by omega)
      simp [hhigh.symm, hlow.symm] at h
  · exact .inl hescaped.symm

theorem keeps_escapeChar : Text.Keeps '<' closingTag.tail Char.toLower
    fun c => (Json.escapeChar c).map Char.toLower := by
  intro c
  dsimp only
  rcases escapeChar_cases c with h | ⟨hc, more, h, hmore⟩
  · exact .inl (by rw [h]; rfl)
  · rw [h]
    exact .inr ⟨hc, fun h => hmore (List.mem_of_ne_of_mem (by decide) h), _, _, rfl, by decide⟩

/-- A literal closes what its text closes. -/
theorem closes_quote_iff {text : String} : Closes (Json.quote text) ↔ Closes text := by
  have hquote : (Json.quote text).toList.map Char.toLower =
      ['"'] ++ (text.toList.flatMap (fun c => (Json.escapeChar c).map Char.toLower) ++ ['"']) := by
    simp [Json.quote, List.map_flatMap]
  rw [Closes, hquote, infix_append_iff (Text.apart_of_getLast? rfl (by decide)),
    infix_append_iff (Text.apart_of_head? rfl (by decide)),
    or_iff_right (by decide), or_iff_left (by decide)]
  exact Text.infix_flatMap_iff keeps_escapeChar

/-- An attribute value closes nothing. -/
theorem not_closes_escapeAttribute (value : String) : ¬Closes (escapeAttribute value) := by
  refine not_closes_of_notMem fun hmem => ?_
  rw [escapeAttribute, String.toList_ofList, List.mem_flatMap] at hmem
  obtain ⟨c, -, hc⟩ := hmem
  rw [escapeAttributeChar] at hc
  split_ifs at hc with hand hquote hopen hclose
  case neg => exact hopen (List.mem_singleton.1 hc).symm
  all_goals exact absurd hc (by decide)

/-! ### The import map -/

theorem isFence_append_blanks {f : List Char} (h : isFence f = true) (margin : Nat) :
    isFence (f ++ List.replicate margin ' ') = true := by
  obtain ⟨hcloses, ⟨first, hfirst, hhead⟩, last, hlast, hend⟩ := isFence_iff.1 h
  refine isFence_iff.2 ⟨?_, ⟨first, ?_, hhead⟩, ?_⟩
  · rw [List.map_append, infix_append_iff
      (Text.apart_of_getLast? (by rw [List.getLast?_map, hlast, Option.map_some]) hend)]
    refine not_or.2 ⟨hcloses, fun h => ?_⟩
    have hmem : '<' ∈ (List.replicate margin ' ').map Char.toLower := h.subset (by decide)
    rw [List.map_replicate] at hmem
    exact absurd (List.eq_of_mem_replicate hmem) (by decide)
  · rw [List.head?_append, hfirst, Option.some_or]
  · cases margin with
    | zero => exact ⟨last, by simpa using hlast, hend⟩
    | succ margin =>
      refine ⟨' ', ?_, by decide⟩
      rw [List.replicate_succ', ← List.append_assoc, List.getLast?_concat]

theorem closes_bracketed_iff {depth : Nat} {parts : List String} :
    Closes (Json.bracketed "\x7b" "\x7d" depth parts) ↔ ∃ part ∈ parts, Closes part := by
  rw [Json.bracketed]
  split
  · rename_i h
    obtain rfl := List.isEmpty_iff.1 h
    exact iff_of_false (by decide) (by simp)
  · have hline (depth : Nat) : Json.lineStart depth =
        String.ofList (['\n'] ++ List.replicate (2 * depth) ' ') := rfl
    have hseparator : "," ++ Json.lineStart (depth + 1) =
        String.ofList ([',', '\n'] ++ List.replicate (2 * (depth + 1)) ' ') := by
      rw [hline, ← String.toList_inj]
      simp
    rw [hseparator, hline, hline]
    simp only [String.append_assoc]
    rw [closes_fence_append (by decide), closes_fence_append (isFence_append_blanks (by decide) _),
      closes_append_fence_append (isFence_append_blanks (by decide) _),
      closes_intercalate_iff (isFence_append_blanks (by decide) _)]
    exact or_iff_left (by decide)

theorem closes_member_iff {key value : String} :
    Closes (Json.quote key ++ ": " ++ value) ↔ Closes key ∨ Closes value := by
  rw [String.append_assoc, closes_append_fence_append (by decide), closes_quote_iff]

theorem prettyMembers_map {depth : Nat} : (entries : List (String × String)) →
    Json.prettyMembers depth (entries.map fun (name, url) => (name, .string url)) =
      entries.map fun (name, url) => Json.quote name ++ ": " ++ Json.quote url
  | [] => rfl
  | (name, url) :: entries => by
      rw [List.map_cons, Json.prettyMembers, prettyMembers_map entries, Json.prettyAt]
      rfl

/-- The import map closes what a name or an address in it closes. -/
theorem closes_importMap_iff {config : Config} : Closes (importMap config) ↔
    ∃ name url, config.importMap.get? name = some url ∧ (Closes name ∨ Closes url) := by
  rw [importMap, Json.pretty, Json.prettyAt, Json.prettyMembers, Json.prettyMembers, Json.prettyAt,
    prettyMembers_map, closes_bracketed_iff, List.exists_mem_cons_iff, or_iff_left (by simp),
    closes_member_iff, or_iff_right (by decide), closes_bracketed_iff]
  simp only [NameMap.get?_eq_some_iff, List.mem_map, Prod.exists]
  constructor
  · rintro ⟨_, ⟨name, url, hentry, rfl⟩, hcloses⟩
    rw [closes_member_iff, closes_quote_iff] at hcloses
    exact ⟨name, url, hentry, hcloses⟩
  · rintro ⟨name, url, hentry, hcloses⟩
    refine ⟨_, ⟨name, url, hentry, rfl⟩, ?_⟩
    rwa [closes_member_iff, closes_quote_iff]

/-! ### The script -/

/-- Whether a script closes its element with a tag that is not all in lower case. -/
def ClosesInCapitals (s : List Char) : Prop :=
  ∃ rest, rest <:+ s ∧ closingTag <+: rest.map Char.toLower ∧ ¬closingTag <+: rest

theorem closesInCapitals_cons_iff {c : Char} {s : List Char} : ClosesInCapitals (c :: s) ↔
    (closingTag <+: (c :: s).map Char.toLower ∧ ¬closingTag <+: c :: s) ∨ ClosesInCapitals s := by
  simp only [ClosesInCapitals, List.suffix_cons_iff, or_and_right, exists_or, exists_eq_left]

theorem closesInCapitals_append_iff {s : List Char} : {part : List Char} → '<' ∉ part →
    (ClosesInCapitals (part ++ s) ↔ ClosesInCapitals s)
  | [], _ => Iff.rfl
  | c :: part, h => by
      obtain ⟨hc, hpart⟩ := not_or.1 (List.mem_cons.not.1 h)
      rw [List.cons_append, closesInCapitals_cons_iff, closesInCapitals_append_iff hpart]
      refine or_iff_right fun h => hc ?_
      exact (toLower_eq_bracket_iff.1 (List.cons_prefix_cons.1 h.1).1.symm).symm

/-- A tag in lower case, broken up. -/
def brokenTag : List Char := ['<', '\\', '/', 's', 'c', 'r', 'i', 'p', 't']

theorem prefix_replaceFrom_iff : {part : List Char} → '<' ∉ part → {s : List Char} →
    (part <+: (Text.replaceFrom closingTag brokenTag 0 s).map Char.toLower ↔
      part <+: s.map Char.toLower)
  | [], _, _ => by simp
  | _ :: _, _, [] => by simp [Text.replaceFrom]
  | a :: part, hpart, c :: s => by
      obtain ⟨hbracket, hpart⟩ := not_or.1 (List.mem_cons.not.1 hpart)
      rw [Text.replaceFrom]
      split
      · rename_i hclosing
        obtain ⟨rfl, -⟩ := List.cons_prefix_cons.1 (List.isPrefixOf_iff_prefix.1 hclosing)
        exact iff_of_false (fun h => hbracket (List.cons_prefix_cons.1 h).1.symm)
          fun h => hbracket (List.cons_prefix_cons.1 h).1.symm
      · rw [List.map_cons, List.map_cons, List.cons_prefix_cons, List.cons_prefix_cons,
          prefix_replaceFrom_iff hpart]

/-- Of the tags in a script, those in lower case are broken up and the others are left. -/
theorem infix_replaceFrom_iff : (pending : Nat) → (s : List Char) →
    (closingTag <:+: (Text.replaceFrom closingTag brokenTag pending s).map Char.toLower ↔
      ClosesInCapitals (s.drop pending))
  | _, [] => by simp [Text.replaceFrom, ClosesInCapitals, closingTag]
  | pending + 1, c :: s => by
      rw [Text.replaceFrom, List.drop_succ_cons, infix_replaceFrom_iff pending s]
  | 0, c :: s => by
      rw [Text.replaceFrom, List.drop_zero]
      split
      · rename_i hclosing
        obtain ⟨rest, hrest⟩ := List.isPrefixOf_iff_prefix.1 hclosing
        obtain ⟨rfl, rfl⟩ := List.cons.inj hrest
        have hbroken : brokenTag.map Char.toLower = ['<', '\\'] ++ closingTag.tail := rfl
        have htail {rest : List Char} : Text.Apart closingTag closingTag.tail rest :=
          Text.apart_of_notMem (by decide)
        rw [List.map_append, hbroken, List.append_assoc,
          infix_append_iff (Text.apart_of_getLast? rfl (by decide)), or_iff_right (by decide),
          infix_append_iff htail, or_iff_right (by decide), infix_replaceFrom_iff]
        have hdrop : (closingTag.tail ++ rest).drop (closingTag.length - 1) = rest := rfl
        have hleft : ClosesInCapitals (closingTag.tail ++ rest) ↔ ClosesInCapitals rest :=
          closesInCapitals_append_iff (by decide)
        exact (congrArg ClosesInCapitals hdrop).to_iff.trans (hleft.symm.trans
          (closesInCapitals_cons_iff.trans (or_iff_right fun h => h.2 ⟨rest, hrest⟩)).symm)
      · rename_i hclosing
        have hclosing : ¬closingTag <+: c :: s := fun h =>
          hclosing (List.isPrefixOf_iff_prefix.2 h)
        rw [closesInCapitals_cons_iff, and_iff_left hclosing, List.map_cons, List.map_cons,
          List.infix_cons_iff, infix_replaceFrom_iff 0 s, closingTag_prefix_cons_iff,
          closingTag_prefix_cons_iff, prefix_replaceFrom_iff (by decide), List.drop_zero]

/-- What a script closes in the document. -/
theorem closes_neutralize_iff {script : String} :
    Closes (neutralize script) ↔ ClosesInCapitals script.toList := by
  have hclosing : "</script".toList = closingTag := rfl
  have hbroken : "<\\/script".toList = brokenTag := rfl
  rw [Closes, neutralize, String.toList_ofList, hclosing, hbroken]
  exact infix_replaceFrom_iff 0 script.toList

/-! ### The document -/

/-- The document up to the closing tag of its import map. -/
def front (config : Config) : String :=
  opening ++ ("    <script type=\"importmap\">\n" ++ (importMap config ++ "\n    "))

/-- The document from the closing tag of its import map to that of its module script. -/
def middle (script : String) (config : Config) : String :=
  ">\n" ++ ("    <style>\n" ++ (baseStyle ++ (mountStyle config.mountId ++ ("    </style>\n" ++
    ("  </head>\n  <body>\n" ++ ("    <div id=\"" ++ (escapeAttribute config.mountId ++
      ("\"></div>\n" ++ ("    <script type=\"module\">\n" ++
        (handlers (Json.quote config.inMemoryMarker) ++ (body script ++ "    ")))))))))))

/-- The document behind the closing tag of its module script. -/
def back : String := ">\n  </body>\n</html>\n"

theorem build_eq (script : String) (config : Config) : build script config =
    front config ++ ("</script" ++ (middle script config ++ ("</script" ++ back))) := by
  have hmap : "\n    </script>\n" = "\n    " ++ ("</script" ++ ">\n") := by decide
  have hscript : "    </script>\n  </body>\n</html>\n" = "    " ++ ("</script" ++ back) := by
    decide
  delta build front middle
  simp only [hmap, hscript, String.append_assoc]

theorem closes_opening_append {r : String} : Closes (opening ++ r) ↔ Closes r := by
  rw [opening]
  refine closes_block_append_of_forall ?_
  simp only [List.forall_mem_cons, List.not_mem_nil, false_imp_iff, implies_true, and_true]
  and_intros <;> exact not_closes_ofList (by decide)

theorem closes_baseStyle_append {r : String} : Closes (baseStyle ++ r) ↔ Closes r := by
  rw [baseStyle]
  refine closes_block_append_of_forall ?_
  simp only [List.forall_mem_cons, List.not_mem_nil, false_imp_iff, implies_true, and_true]
  and_intros <;> exact not_closes_ofList (by decide)

/-- The style rule closes what the id closes. -/
theorem closes_mountStyle_iff {mountId : String} :
    Closes (mountStyle mountId) ↔ Closes mountId := by
  rw [mountStyle]
  split
  · rename_i h
    exact h ▸ iff_of_false (by decide) (by decide)
  · rw [String.append_assoc, closes_fence_append (by decide), closes_append_fence (by decide)]

/-- The handlers close what the marker closes. -/
theorem closes_handlers_iff {marker : String} :
    Closes (handlers (Json.quote marker)) ↔ Closes marker := by
  rw [handlers, closes_block_iff]
  constructor
  · refine fun h => by_contra fun hmarker => absurd h ?_
    simp only [List.exists_mem_cons_iff, List.not_mem_nil, false_and, exists_false, or_false,
      not_or]
    and_intros
    all_goals first
      | rwa [String.append_assoc, closes_fence_append (by decide),
          closes_append_fence (by decide), closes_quote_iff]
      | exact not_closes_ofList (by decide)
  · intro hmarker
    refine ⟨_, List.mem_of_getElem? (i := 9) rfl, ?_⟩
    rwa [String.append_assoc, closes_fence_append (by decide), closes_append_fence (by decide),
      closes_quote_iff]

theorem closes_body_iff {script : String} :
    Closes (body script) ↔ ClosesInCapitals script.toList := by
  rw [← closes_neutralize_iff, body]
  split
  · rename_i h
    subst h
    exact iff_of_false (by decide) (by decide)
  · rw [String.append_assoc, closes_fence_append (by decide), closes_append_fence (by decide)]

theorem closes_front_iff {config : Config} : Closes (front config) ↔
    ∃ name url, config.importMap.get? name = some url ∧ (Closes name ∨ Closes url) := by
  rw [front, closes_opening_append, closes_fence_append (by decide),
    closes_append_fence (by decide), closes_importMap_iff]

theorem closes_middle_iff {script : String} {config : Config} : Closes (middle script config) ↔
    Closes config.mountId ∨ Closes config.inMemoryMarker ∨ ClosesInCapitals script.toList := by
  rw [middle, closes_fence_append (by decide), closes_fence_append (by decide),
    closes_baseStyle_append, closes_append_fence_append (by decide),
    closes_fence_append (by decide), closes_fence_append (by decide),
    closes_append_fence_append (by decide), or_iff_right (not_closes_escapeAttribute _),
    closes_fence_append (by decide), handlers, closes_block_append_iff, ← closes_block_iff,
    ← handlers, closes_append_fence (by decide), closes_mountStyle_iff, closes_handlers_iff,
    closes_body_iff]

/-- A tag between two texts is a place of its own. -/
theorem closings_append_tag {l r : String} (h : r.toList.head? = some '>') :
    closings (l ++ ("</script" ++ r)) =
      closings l ++ l.length :: (closings r).map (l.length + 8 + ·) := by
  have hlower : "</script".toList.map Char.toLower = closingTag := rfl
  have hown : Text.places closingTag closingTag = [0] := by decide
  have hhead : (r.toList.map Char.toLower).head? = some '>' := by
    rw [List.head?_map, h]
    rfl
  simp only [closings, String.toList_append, List.map_append, hlower]
  rw [Text.places_append (Text.apart_of_head? rfl (by decide)),
    Text.places_append (Text.apart_of_head? hhead (by decide)), hown]
  simp [closingTag, Nat.add_assoc, String.length_toList]

theorem closings_build_eq (script : String) (config : Config) :
    closings (build script config) = closings (front config) ++
      (front config).length :: (closings (middle script config) ++
        [(middle script config).length]).map ((front config).length + 8 + ·) := by
  have hmiddle {rest : String} : (middle script config ++ rest).toList.head? = some '>' := by
    rw [middle, String.append_assoc, String.toList_append]
    rfl
  have hback : closings back = [] := closings_eq_nil_iff.2 (by decide)
  rw [build_eq, closings_append_tag hmiddle, closings_append_tag rfl, hback, List.map_nil]

theorem length_closings_build (script : String) (config : Config) :
    (closings (build script config)).length =
      (closings (front config)).length + (closings (middle script config)).length + 2 := by
  rw [closings_build_eq]
  simp only [List.length_append, List.length_cons, List.length_map, List.length_nil]
  omega

/-- The document is closed by the tags of its import map and of its module script alone, exactly if
no name and no address of the import map closes a script element, nor the marker, nor the id of the
mount element, and the script does so in lower case only. -/
theorem closings_build (script : String) (config : Config) :
    build script config =
        front config ++ ("</script" ++ (middle script config ++ ("</script" ++ back))) ∧
      (closings (build script config) =
          [(front config).length, (front config).length + 8 + (middle script config).length] ↔
        ¬ClosesInCapitals script.toList ∧
        (∀ name url, config.importMap.get? name = some url → ¬Closes name ∧ ¬Closes url) ∧
        ¬Closes config.inMemoryMarker ∧ ¬Closes config.mountId) := by
  have honly : closings (build script config) =
      [(front config).length, (front config).length + 8 + (middle script config).length] ↔
        closings (front config) = [] ∧ closings (middle script config) = [] := by
    constructor
    · intro h
      have hlength := (length_closings_build script config).symm.trans (congrArg List.length h)
      simp only [List.length_cons, List.length_nil] at hlength
      exact ⟨List.eq_nil_of_length_eq_zero (by omega), List.eq_nil_of_length_eq_zero (by omega)⟩
    · rintro ⟨hfront, hmiddle⟩
      rw [closings_build_eq, hfront, hmiddle]
      rfl
  refine ⟨build_eq script config, honly.trans ?_⟩
  rw [closings_eq_nil_iff, closings_eq_nil_iff, closes_front_iff, closes_middle_iff]
  simp only [not_exists, not_and, not_or]
  exact ⟨fun ⟨hmap, hid, hmarker, hscript⟩ => ⟨hscript, hmap, hmarker, hid⟩,
    fun ⟨hscript, hmap, hmarker, hid⟩ => ⟨hmap, hid, hmarker, hscript⟩⟩

/-- A tag in capitals is left in the document, beside its own two. -/
theorem ClosesInCapitals.lt_length_closings {script : String}
    (h : ClosesInCapitals script.toList) (config : Config) :
    2 < (closings (build script config)).length := by
  have hmiddle : closings (middle script config) ≠ [] :=
    closings_eq_nil_iff.not.2 (not_not.2 (closes_middle_iff.2 (.inr (.inr h))))
  have hlength := List.length_pos_iff.2 hmiddle
  rw [length_closings_build]
  omega

/-- With valid settings, a script that is one string makes a document with a third closing tag. -/
theorem capital_tag_left : Config.standard.validate = .ok () ∧
    2 < (closings (build "const s = '</SCRIPT>'" Config.standard)).length :=
  ⟨rfl, ClosesInCapitals.lt_length_closings
    ⟨"</SCRIPT>'".toList, ⟨"const s = '".toList, by decide⟩, by decide, by decide⟩ _⟩

end LivePreview.Document
