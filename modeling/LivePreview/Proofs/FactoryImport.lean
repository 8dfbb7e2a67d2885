import LivePreview.FactoryImport.Pattern
import LivePreview.Proofs.Text.Matches
import LivePreview.Proofs.Text.Search

/-!
# Imports of the element factory, by pattern and by scan

A script imports a name by a clause in braces in which the name stands alone. The scan finds such a
clause wherever it starts, and so does the pattern, which has to try where in the braces the name
might be. An import line put in front of a script is such a clause for each of its names, and it
leaves those of the script as they are.

## Main definitions

* `LivePreview.FactoryImport.StandsAlone`: a word in a text that no other word character touches.
* `LivePreview.FactoryImport.Imports`: an import clause at the start of a text.

## Main results

* `LivePreview.FactoryImport.importsName_iff`: what the scan finds.
* `LivePreview.FactoryImport.isSome_search_importPattern`: the pattern finds the same.
* `LivePreview.FactoryImport.addMissing_addMissing`: missing imports are added once.
-/

namespace LivePreview.FactoryImport

open Text (Pattern)

variable {framework name : String} {word s : List Char}

/-! ### Words -/

/-- A word stands in a text so that no word character touches it. -/
def StandsAlone (word text : List Char) : Prop :=
  ∃ front back, text = front ++ (word ++ back) ∧
    (∀ c ∈ front.getLast?, Text.isWord c = false) ∧ ∀ c ∈ back.head?, Text.isWord c = false

/-- A name of word characters. -/
def IsWordName (name : String) : Prop :=
  name.toList.isEmpty = false ∧ name.toList.all Text.isWord = true

theorem isWordName_factoryName : IsWordName factoryName := ⟨rfl, by decide +kernel⟩

theorem isWordName_fragmentName : IsWordName fragmentName := ⟨rfl, by decide +kernel⟩

theorem wordEnds_iff : Text.wordEnds s = true ↔ ∀ c ∈ s.head?, Text.isWord c = false := by
  cases s <;> simp [Text.wordEnds]

/-- The scan for a word, where `inside` tells whether a word character stands just before. -/
theorem standsAlone_iff (hword : word ≠ []) : {s : List Char} → {inside : Bool} →
    (Text.standsAlone word inside s = true ↔ ∃ front back, s = front ++ (word ++ back) ∧
      (front.getLast?.map Text.isWord).getD inside = false ∧
      ∀ c ∈ back.head?, Text.isWord c = false)
  | [], inside => by simp [Text.standsAlone, hword]
  | c :: s, inside => by
      rw [Text.standsAlone, Bool.or_eq_true, Bool.and_eq_true, standsAlone_iff hword]
      constructor
      · rintro (⟨hinside, hhere⟩ | ⟨front, back, rfl, hfront, hback⟩)
        · split at hhere
          · rename_i back hback
            exact ⟨[], back, (List.isPrefixOf?_eq_some_iff_append_eq.1 hback).symm,
              by simpa using hinside, wordEnds_iff.1 hhere⟩
          · cases hhere
        · refine ⟨c :: front, back, rfl, ?_, hback⟩
          rw [List.getLast?_cons]
          cases hlast : front.getLast? <;> simpa [hlast] using hfront
      · rintro ⟨_ | ⟨d, front⟩, back, hs, hfront, hback⟩
        · rw [List.nil_append] at hs
          rw [List.isPrefixOf?_eq_some_iff_append_eq.2 hs.symm]
          exact .inl ⟨by simpa using hfront, wordEnds_iff.2 hback⟩
        · obtain ⟨rfl, rfl⟩ := List.cons.inj hs
          refine .inr ⟨front, back, rfl, ?_, hback⟩
          rw [List.getLast?_cons] at hfront
          cases hlast : front.getLast? <;> simpa [hlast] using hfront

theorem standsAlone_false_iff (hword : word ≠ []) :
    Text.standsAlone word false s = true ↔ StandsAlone word s := by
  rw [standsAlone_iff hword]
  refine exists_congr fun front => exists_congr fun back => and_congr_right fun _ =>
    and_congr_left fun _ => ?_
  cases front.getLast? <;> simp

/-! ### Clauses -/

/-- The end of a clause: `from` and the framework in quotes. -/
def FromFramework (framework : String) (s : List Char) : Prop :=
  ∃ gap gap' opening closing behind,
    s = gap ++ ("from".toList ++ (gap' ++ opening :: (framework.toList ++ closing :: behind))) ∧
    (∀ c ∈ gap, Text.isBlank c = true) ∧ (∀ c ∈ gap', Text.isBlank c = true) ∧
    (opening = '\'' ∨ opening = '"') ∧ (closing = '\'' ∨ closing = '"')

/-- An import clause at the start of a text: braces in which a name stands alone, and the
framework. -/
def Imports (framework name : String) (s : List Char) : Prop :=
  ∃ gap names behind, s = "import".toList ++ (gap ++ '\x7b' :: (names ++ '\x7d' :: behind)) ∧
    (∀ c ∈ gap, Text.isBlank c = true) ∧ '\x7d' ∉ names ∧ StandsAlone name.toList names ∧
    FromFramework framework behind

theorem fromFramework_iff : fromFramework framework s = true ↔ FromFramework framework s := by
  constructor
  · intro h
    unfold fromFramework at h
    split at h
    · cases h
    · rename_i rest hrest
      obtain ⟨gap, rfl, hgap, -⟩ := Text.dropWhile_eq_iff.1
        (List.isPrefixOf?_eq_some_iff_append_eq.1 hrest).symm
      split at h
      · cases h
      · rename_i opening quoted hquoted
        obtain ⟨gap', rfl, hgap', -⟩ := Text.dropWhile_eq_iff.1 hquoted
        obtain ⟨hopening, hclosed⟩ := Bool.and_eq_true_iff.1 h
        split at hclosed
        · rename_i closing behind hframework
          rw [← List.isPrefixOf?_eq_some_iff_append_eq.1 hframework]
          exact ⟨gap, gap', opening, closing, behind, rfl, hgap, hgap', by simpa using hopening,
            by simpa using hclosed⟩
        · cases hclosed
  · rintro ⟨gap, gap', opening, closing, behind, rfl, hgap, hgap', hopening, hclosing⟩
    have hquote : Text.isBlank opening = false := by rcases hopening with rfl | rfl <;> rfl
    have hfrom : (gap ++ ("from".toList ++
        (gap' ++ opening :: (framework.toList ++ closing :: behind)))).dropWhile Text.isBlank =
        "from".toList ++ (gap' ++ opening :: (framework.toList ++ closing :: behind)) :=
      Text.dropWhile_eq_iff.2 ⟨gap, rfl, hgap, fun c hc => by
        obtain rfl : 'f' = c := Option.some.inj hc
        rfl⟩
    have hquoted : (gap' ++ opening :: (framework.toList ++ closing :: behind)).dropWhile
        Text.isBlank = opening :: (framework.toList ++ closing :: behind) :=
      Text.dropWhile_eq_iff.2 ⟨gap', rfl, hgap', fun c hc => by
        obtain rfl : opening = c := Option.some.inj hc
        exact hquote⟩
    rw [fromFramework, hfrom, List.isPrefixOf?_eq_some_iff_append_eq.2 rfl]
    simp only [hquoted, List.isPrefixOf?_eq_some_iff_append_eq.2 rfl]
    rcases hopening with rfl | rfl <;> rcases hclosing with rfl | rfl <;> rfl

theorem importsNameHere_iff (hname : name.toList ≠ []) :
    importsNameHere framework name s = true ↔ Imports framework name s := by
  constructor
  · intro h
    unfold importsNameHere at h
    split at h
    · cases h
    · rename_i rest hrest
      split at h
      · rename_i braces hbraces
        obtain ⟨gap, rfl, hgap, -⟩ := Text.dropWhile_eq_iff.1 hbraces
        dsimp only at h
        split at h
        · cases h
        · rename_i closing behind hdrop
          obtain ⟨hs, hnames, hclosing⟩ := Text.run_iff.1 ⟨rfl, hdrop⟩
          obtain rfl : closing = '\x7d' := by simpa using hclosing
          obtain ⟨halone, hfrom⟩ := Bool.and_eq_true_iff.1 h
          rw [← List.isPrefixOf?_eq_some_iff_append_eq.1 hrest]
          refine ⟨gap, _, behind, congrArg _ (congrArg _ (congrArg _ hs)), hgap, fun hmem => ?_,
            (standsAlone_false_iff hname).1 halone, fromFramework_iff.1 hfrom⟩
          simpa using hnames _ hmem
      · cases h
  · rintro ⟨gap, names, behind, rfl, hgap, hclosed, halone, hfrom⟩
    have hbraces : (gap ++ '\x7b' :: (names ++ '\x7d' :: behind)).dropWhile Text.isBlank =
        '\x7b' :: (names ++ '\x7d' :: behind) :=
      Text.dropWhile_eq_iff.2 ⟨gap, rfl, hgap, fun c hc => by
        obtain rfl : '\x7b' = c := Option.some.inj hc
        rfl⟩
    have hnames : (names ++ '\x7d' :: behind).takeWhile (· ≠ '\x7d') = names :=
      Text.takeWhile_append_cons (fun c hc => by
        have hne : c ≠ '\x7d' := fun h => hclosed (h ▸ hc)
        simpa using hne) rfl
    rw [importsNameHere, List.isPrefixOf?_eq_some_iff_append_eq.2 rfl]
    simp only [hbraces, hnames, List.drop_left]
    rw [(standsAlone_false_iff hname).2 halone, fromFramework_iff.2 hfrom]
    rfl

theorem importsNameIn_iff (hname : name.toList ≠ []) : {s : List Char} →
    (importsNameIn framework name s = true ↔
      ∃ front rest, s = front ++ rest ∧ Imports framework name rest)
  | [] => by
      simp only [importsNameIn, Bool.false_eq_true, false_iff]
      rintro ⟨front, rest, hs, gap, names, behind, rfl, -⟩
      simp at hs
  | c :: s => by
      rw [importsNameIn, Bool.or_eq_true, importsNameHere_iff hname, importsNameIn_iff hname]
      constructor
      · rintro (h | ⟨front, rest, rfl, h⟩)
        · exact ⟨[], c :: s, rfl, h⟩
        · exact ⟨c :: front, rest, rfl, h⟩
      · rintro ⟨_ | ⟨d, front⟩, rest, hs, h⟩
        · rw [List.nil_append] at hs
          exact .inl (hs ▸ h)
        · exact .inr ⟨front, rest, (List.cons.inj hs).2, h⟩

/-- A script imports a name if an import clause for it starts somewhere. -/
theorem importsName_iff (hname : IsWordName name) {script : String} :
    importsName script framework name = true ↔
      ∃ front rest, script.toList = front ++ rest ∧ Imports framework name rest :=
  importsNameIn_iff (by simpa using hname.1)

/-! ### The pattern -/

theorem wordEnds_append_cons {c : Char} (hc : Text.isWord c = false) (front rest : List Char) :
    Text.wordEnds (front ++ c :: rest) = Text.wordEnds front := by
  cases front <;> simp [Text.wordEnds, hc]

theorem wordEnds_append_of_isWord (hempty : word ≠ []) (hword : ∀ c ∈ word, Text.isWord c = true)
    (rest : List Char) : Text.wordEnds (word ++ rest) = false := by
  cases word with
  | nil => exact absurd rfl hempty
  | cons c word => simp [Text.wordEnds, hword c List.mem_cons_self]

/-- The word edge between an opening brace and a name. -/
theorem atWordEdge_before_name (hname : IsWordName name) {front before behind : List Char}
    {texts : List (List Char)} :
    Text.Spot.atWordEdge ⟨front.reverse ++ '\x7b' :: before, name.toList ++ behind, texts⟩ = true ↔
      ∀ c ∈ front.getLast?, Text.isWord c = false := by
  rw [Text.Spot.atWordEdge, wordEnds_append_cons rfl, wordEnds_append_of_isWord
    (by simpa using hname.1) (List.all_eq_true.1 hname.2), ← List.head?_reverse, ← wordEnds_iff]
  cases Text.wordEnds front.reverse <;> simp

/-- The word edge between a name and a closing brace. -/
theorem atWordEdge_behind_name (hname : IsWordName name) {back before behind : List Char}
    {texts : List (List Char)} :
    Text.Spot.atWordEdge ⟨name.toList.reverse ++ before, back ++ '\x7d' :: behind, texts⟩ = true ↔
      ∀ c ∈ back.head?, Text.isWord c = false := by
  have hword : ∀ c ∈ name.toList, Text.isWord c = true := List.all_eq_true.1 hname.2
  rw [Text.Spot.atWordEdge, wordEnds_append_cons rfl, wordEnds_append_of_isWord
    (by simpa using hname.1) (by simpa using hword), ← wordEnds_iff]
  cases Text.wordEnds back <;> simp

theorem reads_quotePattern :
    Pattern.Reads quotePattern fun text => ∃ c, (c = '\'' ∨ c = '"') ∧ text = [c] :=
  Pattern.reads_one.congr fun text => by simp

/-- The pattern of the end of a clause matches there. -/
theorem exists_mem_ways_fromPattern {before : List Char} {texts : List (List Char)} :
    (∃ spot, spot ∈ (fromPattern framework).ways ⟨before, s, texts⟩) ↔
      FromFramework framework s := by
  simp only [fromPattern, Pattern.inOrder, Pattern.reads_many.mem_ways_seq,
    (Pattern.reads_exactly _).mem_ways_seq, reads_quotePattern.mem_ways_seq,
    Pattern.mem_ways_empty]
  constructor
  · rintro ⟨_, gap, _, rfl, hgap, _, _, rfl, rfl, gap', _, rfl, hgap', _, _, rfl,
      ⟨opening, hopening, rfl⟩, _, _, rfl, rfl, _, behind, rfl, ⟨closing, hclosing, rfl⟩, rfl⟩
    exact ⟨gap, gap', opening, closing, behind, rfl, hgap, hgap', hopening, hclosing⟩
  · rintro ⟨gap, gap', opening, closing, behind, rfl, hgap, hgap', hopening, hclosing⟩
    exact ⟨_, gap, _, rfl, hgap, _, _, rfl, rfl, gap', _, rfl, hgap', [opening], _, rfl,
      ⟨opening, hopening, rfl⟩, _, _, rfl, rfl, [closing], behind, rfl, ⟨closing, hclosing, rfl⟩,
      rfl⟩

/-- The pattern matches where an import clause starts. -/
theorem exists_mem_ways_importPattern (hname : IsWordName name) {before : List Char}
    {texts : List (List Char)} :
    (∃ spot, spot ∈ (importPattern framework name).ways ⟨before, s, texts⟩) ↔
      Imports framework name s := by
  simp only [importPattern, Pattern.inOrder, Pattern.reads_many.mem_ways_seq,
    (Pattern.reads_exactly _).mem_ways_seq, Pattern.mem_ways_wordEdge_seq,
    Pattern.mem_ways_seq_empty]
  constructor
  · rintro ⟨spot, _, _, rfl, rfl, gap, _, rfl, hgap, _, _, rfl, rfl, front, _, rfl, hfront, hedge,
      _, _, rfl, rfl, hedge', back, _, rfl, hback, _, behind, rfl, rfl, hspot⟩
    have hclosed : '\x7d' ∉ front ++ (name.toList ++ back) := fun hmem => by
      rcases List.mem_append.1 hmem with hmem | hmem
      · exact absurd (hfront _ hmem) (by decide)
      rcases List.mem_append.1 hmem with hmem | hmem
      · exact absurd (List.all_eq_true.1 hname.2 _ hmem) (by decide +kernel)
      · exact absurd (hback _ hmem) (by decide)
    exact ⟨gap, front ++ (name.toList ++ back), behind, by simp, hgap, hclosed,
      ⟨front, back, rfl, (atWordEdge_before_name hname).1 hedge,
        (atWordEdge_behind_name hname).1 hedge'⟩, exists_mem_ways_fromPattern.1 ⟨spot, hspot⟩⟩
  · rintro ⟨gap, _, behind, rfl, hgap, hclosed, ⟨front, back, rfl, hfront, hback⟩, hfrom⟩
    have hnames : ∀ c ∈ front ++ (name.toList ++ back), (c != '\x7d') = true := fun c hc =>
      bne_iff_ne.2 fun h => hclosed (h ▸ hc)
    obtain ⟨hfront', hback'⟩ := List.forall_mem_append.1 hnames
    obtain ⟨spot, hspot⟩ := exists_mem_ways_fromPattern.2 hfrom
    rw [List.append_assoc front, List.append_assoc name.toList]
    exact ⟨spot, _, _, rfl, rfl, gap, _, rfl, hgap, ['\x7b'], _, rfl, rfl, front, _, rfl, hfront',
      (atWordEdge_before_name hname).2 hfront, _, _, rfl, rfl,
      (atWordEdge_behind_name hname).2 hback, back, _, rfl, (List.forall_mem_append.1 hback').2,
      ['\x7d'], behind, rfl, rfl, hspot⟩

/-- The pattern is found in the scripts that import the name, as the scan tells them. -/
theorem isSome_search_importPattern (hname : IsWordName name) {script : String} :
    ((importPattern framework name).search script.toList).isSome ↔
      importsName script framework name = true := by
  rw [Pattern.isSome_search_iff, importsName_iff hname]
  constructor
  · rintro ⟨front, rest, spot, hs, hspot⟩
    exact ⟨front, rest, hs, (exists_mem_ways_importPattern hname).1 ⟨spot, hspot⟩⟩
  · rintro ⟨front, rest, hs, himports⟩
    obtain ⟨spot, hspot⟩ := (exists_mem_ways_importPattern hname).2 himports
    exact ⟨front, rest, spot, hs, hspot⟩

/-! ### Missing imports -/

/-- A text in front of a script leaves its imports as they are. -/
theorem importsName_append (hname : IsWordName name) {script : String}
    (h : importsName script framework name = true) (text : String) :
    importsName (text ++ script) framework name = true := by
  obtain ⟨front, rest, hs, himports⟩ := (importsName_iff hname).1 h
  exact (importsName_iff hname).2 ⟨text.toList ++ front, rest, by simp [hs], himports⟩

/-- An import line in front of a script imports the names that stand alone in its list. -/
theorem importsName_importLine (hname : IsWordName name) {names : List String}
    (hclosed : '\x7d' ∉ (", ".intercalate names).toList)
    (halone : Text.standsAlone name.toList false
      (' ' :: ((", ".intercalate names).toList ++ [' '])) = true) (framework script : String) :
    importsName (importLine framework names ++ script) framework name = true := by
  have hblank : ∀ c ∈ [' '], Text.isBlank c = true := fun c hc => by
    rw [List.mem_singleton.1 hc]
    rfl
  refine (importsName_iff hname).2 ⟨[], (importLine framework names ++ script).toList,
    (List.nil_append _).symm, [' '], ' ' :: ((", ".intercalate names).toList ++ [' ']), _, ?_,
    hblank, ?_,
    (standsAlone_false_iff (by simpa using hname.1)).1 halone, [' '], [' '], '\'', '\'',
    '\n' :: script.toList, rfl, hblank, hblank, .inl rfl, .inl rfl⟩
  · simp only [importLine, String.toList_append, List.append_assoc, List.cons_append]
    rfl
  · simpa using hclosed

/-- A script with the missing imports, by what it imports. -/
theorem addMissing_eq (script framework : String) : addMissing script framework =
    match importsName script framework factoryName, importsName script framework fragmentName with
    | true, true => script
    | false, true => importLine framework [factoryName] ++ script
    | true, false => importLine framework [fragmentName] ++ script
    | false, false => importLine framework [factoryName, fragmentName] ++ script := by
  rw [addMissing, List.filter_cons, List.filter_cons, List.filter_nil]
  cases importsName script framework factoryName <;>
    cases importsName script framework fragmentName <;> rfl

theorem importsName_addMissing (script framework : String) :
    importsName (addMissing script framework) framework factoryName = true ∧
      importsName (addMissing script framework) framework fragmentName = true := by
  rw [addMissing_eq]
  cases hfactory : importsName script framework factoryName <;>
    cases hfragment : importsName script framework fragmentName
  · exact ⟨importsName_importLine isWordName_factoryName (by decide +kernel) (by decide +kernel) ..,
      importsName_importLine isWordName_fragmentName (by decide +kernel) (by decide +kernel) ..⟩
  · exact ⟨importsName_importLine isWordName_factoryName (by decide +kernel) (by decide +kernel) ..,
      importsName_append isWordName_fragmentName hfragment _⟩
  · exact ⟨importsName_append isWordName_factoryName hfactory _,
      importsName_importLine isWordName_fragmentName (by decide +kernel) (by decide +kernel) ..⟩
  · exact ⟨hfactory, hfragment⟩

/-- The missing imports are put in front of a script, once. The result has an import clause of each
name, as the pattern finds them. -/
theorem addMissing_addMissing (script framework : String) :
    addMissing (addMissing script framework) framework = addMissing script framework ∧
      script.toList <:+ (addMissing script framework).toList ∧
      (importsName (addMissing script framework) framework factoryName = true ∧
        ((importPattern framework factoryName).search (addMissing script framework).toList).isSome) ∧
      importsName (addMissing script framework) framework fragmentName = true ∧
        ((importPattern framework fragmentName).search
          (addMissing script framework).toList).isSome := by
  obtain ⟨hfactory, hfragment⟩ := importsName_addMissing script framework
  refine ⟨?_, ?_, ⟨hfactory, (isSome_search_importPattern isWordName_factoryName).2 hfactory⟩,
    hfragment, (isSome_search_importPattern isWordName_fragmentName).2 hfragment⟩
  · rw [addMissing_eq (addMissing script framework), hfactory, hfragment]
  · rw [addMissing_eq]
    split <;> simp

end LivePreview.FactoryImport
