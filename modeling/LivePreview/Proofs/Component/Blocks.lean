import LivePreview.Component.Patterns
import LivePreview.Proofs.Component.Positions
import LivePreview.Proofs.Text.Pattern

/-!
# Blocks by pattern and by scan

The pattern of a block is matched leftmost first, with a long run for the attributes and a short one
for the interior, so a failed match would have it go back and try again. None of these attempts ever
finds anything: the blocks that the patterns find are those of the scan, and both are described by
positions in the source text.

## Main results

* `LivePreview.Component.search_blockPattern`: the pattern of a block finds what the positions
  describe.
* `LivePreview.Component.search_setupPattern`: the pattern of the word `setup`.
* `LivePreview.Component.blocks_by_position`: the blocks of a source text.
-/

namespace LivePreview.Component

open Text (Pattern Spot)

section Words

variable {tag : String} {word word' s : List Char}

theorem dropFolded?_append : (word : List Char) → (s : List Char) →
    Text.dropFolded? (word ++ word') s = (Text.dropFolded? word s).bind (Text.dropFolded? word')
  | [], _ => rfl
  | _ :: _, [] => rfl
  | letter :: word, c :: s => by
      simp only [List.cons_append, Text.dropFolded?]
      split
      · exact dropFolded?_append word s
      · rfl

theorem isSome_dropFolded?_cons {sign : Char} (hsign : sign.isLower = false) :
    (Text.dropFolded? (sign :: word) s).isSome ↔
      ∃ rest, s = sign :: rest ∧ (Text.dropFolded? word rest).isSome := by
  cases s with
  | nil => simp [Text.dropFolded?]
  | cons c s =>
    simp only [Text.dropFolded?, Pattern.foldsTo_eq_beq hsign]
    split <;> simp_all

/-- The pattern of a closing tag matches at closing tags. -/
theorem isSome_dropFolded?_closing :
    (Text.dropFolded? ('<' :: '/' :: (tag.toList ++ ['>'])) s).isSome ↔ Closes tag s := by
  simp only [isSome_dropFolded?_cons (show '<'.isLower = false from rfl),
    isSome_dropFolded?_cons (show '/'.isLower = false from rfl)]
  constructor
  · rintro ⟨_, rfl, rest, rfl, h⟩
    rw [dropFolded?_append] at h
    cases hdrop : Text.dropFolded? tag.toList rest with
    | none => simp [hdrop] at h
    | some behind =>
      rw [hdrop, Option.bind_some, isSome_dropFolded?_cons rfl] at h
      obtain ⟨behind, rfl, -⟩ := h
      obtain ⟨name, rfl, hname⟩ := dropFolded?_eq_some_iff.1 hdrop
      exact ⟨name, behind, rfl, hname⟩
  · rintro ⟨name, rest, rfl, hname⟩
    refine ⟨_, rfl, _, rfl, ?_⟩
    rw [dropFolded?_append, hname.dropFolded?]
    rfl

/-- The pattern of an opening tag matches at opening tags. -/
theorem opens_iff_atWordEdge (htag : IsTag tag) (spot : Spot) :
    ((Text.dropFolded? ('<' :: tag.toList) spot.rest).isSome ∧
      (spot.advance (tag.length + 1)).atWordEdge = true) ↔ Opens tag spot.rest := by
  -- The last character of the name is a word character, so there is an edge where no word goes on.
  have hedge : ∀ name rest, spot.rest = '<' :: (name ++ rest) → Spells tag.toList name →
      (spot.advance (tag.length + 1)).atWordEdge = Text.wordEnds rest := by
    intro name rest hrest hname
    have hlength : name.length = tag.length := by rw [hname.length_eq, String.length_toList]
    have hbefore : Text.wordEnds (spot.advance (tag.length + 1)).before = false := by
      rw [Spot.advance, hrest, List.take_succ_cons, ← hlength, List.take_left, List.reverse_cons]
      cases hback : name.reverse with
      | nil =>
        rw [List.reverse_eq_nil_iff.1 hback, List.length_nil, ← String.length_toList] at hlength
        simpa [List.length_eq_zero_iff.1 hlength.symm] using htag.1
      | cons c back =>
        have hc : c ∈ name := List.mem_reverse.1 (hback ▸ List.mem_cons_self)
        exact congrArg (!·) (hname.isWord htag hc)
    have hbehind : (spot.advance (tag.length + 1)).rest = rest := by
      rw [Spot.rest_advance, hrest, List.drop_succ_cons, ← hlength, List.drop_left]
    rw [Spot.atWordEdge, hbefore, hbehind, Bool.false_bne]
  rw [isSome_dropFolded?_cons rfl]
  constructor
  · rintro ⟨⟨text, htext, h⟩, hword⟩
    obtain ⟨rest, hdrop⟩ := Option.isSome_iff_exists.1 h
    obtain ⟨name, rfl, hname⟩ := dropFolded?_eq_some_iff.1 hdrop
    exact ⟨name, rest, htext, hname, hedge name rest htext hname ▸ hword⟩
  · rintro ⟨name, rest, htext, hname, hends⟩
    refine ⟨⟨_, htext, ?_⟩, (hedge name rest htext hname).trans hends⟩
    rw [hname.dropFolded?, Option.isSome_some]

end Words

section Blocks

variable {tag : String} {run : Pattern} {spot behind : Spot} {s : List Char}
  {keep : List Char → List (List Char)}

/-- A captured short run before a closing tag is the text before the first one. -/
theorem match?_interior :
    (Pattern.seq (.group (.few fun _ => true))
      (.folded ('<' :: '/' :: (tag.toList ++ ['>'])))).match? spot = some behind ↔
    ∃ k, IsLeast {k | Closes tag (spot.rest.drop k)} k ∧
      behind = ((spot.advance k).capture [spot.rest.take k]).advance
        ('<' :: '/' :: (tag.toList ++ ['>'])).length := by
  simp only [Pattern.match?_seq_few, Pattern.match?_folded, Pattern.match?_folded_eq_none_iff,
    isSome_dropFolded?_closing, Spot.rest_capture, Spot.rest_advance]
  constructor
  · rintro ⟨k, -, ⟨hk, rfl⟩, hleast⟩
    exact ⟨k, ⟨hk, fun m hm => Nat.le_of_not_lt fun hlt => hleast m hlt hm⟩, rfl⟩
  · rintro ⟨k, ⟨hk, hleast⟩, rfl⟩
    exact ⟨k, hk.le_length, ⟨hk, rfl⟩, fun m hlt hm => Nat.not_le_of_lt hlt (hleast hm)⟩

/-- The pattern of a block matches at opening tags with an end and a closing tag. -/
theorem match?_blockPattern (htag : IsTag tag)
    (hrun : Pattern.UpTo '>' keep run) {p : Nat} (texts : List (List Char)) :
    (∃ behind, (blockPattern tag run).match? ((Spot.ofText s).advance p) = some behind ∧
      behind.captured = texts) ↔
    ∃ q r, Encloses tag s p q r ∧
      texts = keep (attributesBetween tag s p q) ++ [textBetween s q r] := by
  have hopens := opens_iff_atWordEdge htag ((Spot.ofText s).advance p)
  have hname : p + tag.length + 1 = p + 1 + tag.length := Nat.add_right_comm ..
  simp only [Spot.rest_advance, Spot.rest_ofText] at hopens
  simp only [blockPattern, Pattern.match?_seq_folded, Pattern.match?_seq_wordEdge,
    hrun.match?_seq (show '>'.isLower = false from rfl), match?_interior, Spot.rest_advance,
    Spot.rest_capture, Spot.rest_ofText, List.drop_drop, List.length_cons, String.length_toList,
    encloses_iff htag, ← Nat.add_assoc, hname]
  constructor
  · rintro ⟨_, ⟨hdrop, hedge, j, hj, k, hk, rfl⟩, rfl⟩
    refine ⟨_, _, ⟨hopens.1 ⟨hdrop, hedge⟩, j, k, hj, hk, rfl, rfl⟩, ?_⟩
    rw [attributesBetween_add, textBetween_add]
    rfl
  · rintro ⟨_, _, ⟨h, j, k, hj, hk, rfl, rfl⟩, rfl⟩
    obtain ⟨hdrop, hedge⟩ := hopens.2 h
    refine ⟨_, ⟨hdrop, hedge, j, hj, k, hk, rfl⟩, ?_⟩
    rw [attributesBetween_add, textBetween_add]
    rfl

/-- The pattern of a block finds the block of the first opening tag. -/
theorem search_blockPattern (htag : IsTag tag)
    (hrun : Pattern.UpTo '>' keep run) (texts : List (List Char)) :
    (∃ behind, (blockPattern tag run).search s = some behind ∧ behind.captured = texts) ↔
    ∃ p q r, Delimits tag s p q r ∧
      texts = keep (attributesBetween tag s p q) ++ [textBetween s q r] := by
  simp only [Pattern.search_eq_some_iff]
  constructor
  · rintro ⟨behind, ⟨p, -, hp, hnone⟩, htexts⟩
    obtain ⟨q, r, h, htexts⟩ := (match?_blockPattern htag hrun _).1 ⟨behind, hp, htexts⟩
    refine ⟨p, q, r, delimits_iff.2 ⟨h, fun p' q' r' h' => ?_⟩, htexts⟩
    by_contra hlt
    obtain ⟨behind', hp', -⟩ := (match?_blockPattern htag hrun _).2 ⟨q', r', h', rfl⟩
    simp [hnone p' (Nat.lt_of_not_le hlt)] at hp'
  · rintro ⟨p, q, r, h, htexts⟩
    obtain ⟨behind, hp, htexts⟩ :=
      (match?_blockPattern htag hrun _).2 ⟨q, r, h.toEncloses, htexts⟩
    refine ⟨behind, ⟨p, h.opens.le_length, hp, fun m hlt => ?_⟩, htexts⟩
    refine Option.eq_none_iff_forall_ne_some.2 fun behind' hm => ?_
    obtain ⟨_, _, h', -⟩ := (match?_blockPattern htag hrun _).1 ⟨behind', hm, rfl⟩
    exact Nat.not_le_of_lt hlt (h.first m h'.opens)

end Blocks

section Setup

variable {spot : Spot} {s : List Char}

/-- The pattern behind the word `setup`. -/
theorem isSome_match?_afterSetup :
    ((Pattern.either (.one Text.isBlank) (.either (.folded ['=']) .stop)).match? spot).isSome ↔
      spot.rest = [] ∨ ∃ c rest, spot.rest = c :: rest ∧ (Text.isBlank c = true ∨ c = '=') := by
  rw [Pattern.match?, Pattern.ways, Pattern.ways, Pattern.ways, Pattern.ways_folded]
  cases hs : spot.rest with
  | nil => simp [Pattern.ways, Text.dropFolded?, hs]
  | cons c s =>
    have heq := Pattern.foldsTo_eq_beq (show '='.isLower = false from rfl)
    cases hc : Text.isBlank c <;> by_cases hc' : c = '=' <;>
      simp [Pattern.ways, Text.dropFolded?, hs, heq, hc, hc']

/-- The pattern from the word `setup` on. -/
theorem isSome_match?_fromSetup :
    ((Pattern.seq (.folded "setup".toList) (.either (.one Text.isBlank)
      (.either (.folded ['=']) .stop))).match? spot).isSome ↔ startsWithSetup spot.rest = true := by
  rw [startsWithSetup_iff, Option.isSome_iff_exists]
  simp only [Pattern.match?_seq_folded, exists_and_left, ← Option.isSome_iff_exists,
    isSome_match?_afterSetup, Spot.rest_advance]
  constructor
  · rintro ⟨h, hback⟩
    obtain ⟨back, hdrop⟩ := Option.isSome_iff_exists.1 h
    obtain ⟨word, hs, hword⟩ := dropFolded?_eq_some_iff.1 hdrop
    exact ⟨word, back, hs, hword, rest_eq_of_dropFolded? hdrop ▸ hback⟩
  · rintro ⟨word, back, hs, hword, hback⟩
    rw [hs, ← hword.length_eq, List.drop_left, hword.dropFolded?]
    exact ⟨rfl, hback⟩

/-- The pattern of the word `setup` at a spot. -/
theorem isSome_match?_setupPattern : (setupPattern.match? spot).isSome ↔
    (spot.before = [] ∧ startsWithSetup spot.rest = true) ∨
      ∃ c rest, spot.rest = c :: rest ∧ Text.isBlank c = true ∧ startsWithSetup rest = true := by
  rw [setupPattern, Pattern.match?_seq, List.findSome?_isSome_iff, Pattern.ways, Pattern.ways,
    Pattern.ways]
  simp only [List.mem_append, or_and_right, exists_or, isSome_match?_fromSetup]
  refine or_congr ?_ ?_
  · cases spot.before <;> simp
  · cases hs : spot.rest with
    | nil => simp
    | cons c rest => cases hc : Text.isBlank c <;> simp [hc, hs]

/-- The pattern of the word `setup` finds it where the scan does. -/
theorem search_setupPattern : (setupPattern.search s).isSome ↔ NamesSetup s := by
  rw [← hasSetup_iff, hasSetup, Bool.or_eq_true, setupBehindBlank_iff, Pattern.search,
    List.findSome?_isSome_iff]
  simp only [isSome_match?_setupPattern, List.mem_range, Nat.lt_succ_iff, Spot.rest_advance,
    Spot.rest_ofText]
  constructor
  · rintro ⟨n, hn, ⟨hbefore, h⟩ | ⟨c, rest, hs, hc, h⟩⟩
    · have hstart : s.take n = [] := by simpa [Spot.advance, Spot.ofText] using hbefore
      rw [← List.nil_append (s.drop n), ← hstart, List.take_append_drop] at h
      exact .inl h
    · exact .inr ⟨s.take n, c, rest, by rw [← hs, List.take_append_drop], hc, h⟩
  · rintro (h | ⟨start, c, rest, rfl, hc, h⟩)
    · exact ⟨0, Nat.zero_le _, .inl ⟨rfl, h⟩⟩
    · exact ⟨start.length, by simp, .inr ⟨c, rest, List.drop_left, hc, h⟩⟩

end Setup

/-! ### Components -/

section Components

variable {tag : String} {s : List Char} {body : String} {script : Script}

theorem matchedBody_eq_some_iff (htag : IsTag tag) : matchedBody tag s = some body ↔
    ∃ p q r, Delimits tag s p q r ∧ body = trimmed (textBetween s q r) := by
  have hsearch := search_blockPattern htag (s := s) (Pattern.upTo_many '>')
  simp only [matchedBody, Option.bind_eq_bind, Option.pure_def, Option.bind_eq_some_iff,
    Option.some.injEq]
  constructor
  · rintro ⟨found, hfound, text, htext, rfl⟩
    obtain ⟨p, q, r, h, htexts⟩ := (hsearch _).1 ⟨found, hfound, rfl⟩
    rw [htexts] at htext
    exact ⟨p, q, r, h, congrArg trimmed (Option.some.inj htext).symm⟩
  · rintro ⟨p, q, r, h, rfl⟩
    obtain ⟨found, hfound, htexts⟩ := (hsearch _).2 ⟨p, q, r, h, rfl⟩
    exact ⟨found, hfound, _, by rw [htexts]; rfl, rfl⟩

theorem map_blockOf?_eq_some_iff {α : Type} (htag : IsTag tag) (f : List Char × List Char → α)
    {a : α} : (blockOf? tag s).map f = some a ↔
      ∃ p q r, Delimits tag s p q r ∧ a = f (attributesBetween tag s p q, textBetween s q r) := by
  simp only [Option.map_eq_some_iff, Prod.exists, blockOf?_eq_some_iff htag]
  constructor
  · rintro ⟨_, _, ⟨p, q, r, h, rfl, rfl⟩, rfl⟩
    exact ⟨p, q, r, h, rfl⟩
  · rintro ⟨p, q, r, h, rfl⟩
    exact ⟨_, _, ⟨p, q, r, h, rfl, rfl⟩, rfl⟩

theorem map_interior_eq_some_iff (htag : IsTag tag) : (blockOf? tag s).map interior = some body ↔
    ∃ p q r, Delimits tag s p q r ∧ body = trimmed (textBetween s q r) :=
  map_blockOf?_eq_some_iff htag interior

theorem script_eq_iff {flag : Bool} {P : Prop} (hflag : flag = true ↔ P) :
    script = ⟨body, flag⟩ ↔ script.body = body ∧ (script.setup = true ↔ P) := by
  rw [← hflag, ← Bool.eq_iff_iff]
  cases script
  simp only [Script.mk.injEq]

theorem matchedScript_eq_some_iff : matchedScript s = some script ↔
    ∃ p q r, Delimits "script" s p q r ∧ script.body = trimmed (textBetween s q r) ∧
      (script.setup = true ↔ NamesSetup (attributesBetween "script" s p q)) := by
  have hsearch := search_blockPattern isTag_script (s := s) (Pattern.upTo_group_many '>')
  simp only [matchedScript, Option.bind_eq_bind, Option.pure_def, Option.bind_eq_some_iff,
    Option.some.injEq, ← script_eq_iff search_setupPattern]
  constructor
  · rintro ⟨found, hfound, rfl⟩
    obtain ⟨p, q, r, h, htexts⟩ := (hsearch _).1 ⟨found, hfound, rfl⟩
    exact ⟨p, q, r, h, by rw [htexts]; rfl⟩
  · rintro ⟨p, q, r, h, rfl⟩
    obtain ⟨found, hfound, htexts⟩ := (hsearch _).2 ⟨p, q, r, h, rfl⟩
    exact ⟨found, hfound, by rw [htexts]; rfl⟩

theorem blocks_script_eq_some_iff {source : String} : (blocks source).script = some script ↔
    ∃ p q r, Delimits "script" source.toList p q r ∧
      script.body = trimmed (textBetween source.toList q r) ∧
      (script.setup = true ↔ NamesSetup (attributesBetween "script" source.toList p q)) := by
  simp only [blocks, map_blockOf?_eq_some_iff isTag_script, ← script_eq_iff hasSetup_iff]
  rfl

/-- The blocks of a component are found alike by their patterns and by the scan, and they are those
of the first opening tags. -/
theorem blocks_by_position (source : String) : matched source = blocks source ∧
    (∀ body, (blocks source).template = some body ↔ ∃ p q r,
      Delimits "template" source.toList p q r ∧ body = trimmed (textBetween source.toList q r)) ∧
    (∀ script, (blocks source).script = some script ↔ ∃ p q r,
      Delimits "script" source.toList p q r ∧
        script.body = trimmed (textBetween source.toList q r) ∧
        (script.setup = true ↔ NamesSetup (attributesBetween "script" source.toList p q))) ∧
    ∀ body, (blocks source).style = some body ↔ ∃ p q r,
      Delimits "style" source.toList p q r ∧ body = trimmed (textBetween source.toList q r) := by
  refine ⟨?_, fun _ => map_interior_eq_some_iff isTag_template, fun _ => blocks_script_eq_some_iff,
    fun _ => map_interior_eq_some_iff isTag_style⟩
  have hbody : ∀ tag, IsTag tag →
      matchedBody tag source.toList = (blockOf? tag source.toList).map interior := fun tag htag =>
    Option.ext fun body => by rw [matchedBody_eq_some_iff htag, map_interior_eq_some_iff htag]
  have hscript : matchedScript source.toList = (blocks source).script :=
    Option.ext fun script => by rw [matchedScript_eq_some_iff, blocks_script_eq_some_iff]
  rw [matched, hbody "template" isTag_template, hbody "style" isTag_style, hscript]
  rfl

end Components

end LivePreview.Component
