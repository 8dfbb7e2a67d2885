import LivePreview.Proofs.Component.Template

/-!
# Escaped texts, character by character

Inside of a template a backslash makes the next character stand for itself, a backtick ends the
template, and a dollar sign with an opening brace behind it starts a substitution. Read in this way,
what an escaped text is put in front of is read as if it stood alone, with the text in front of its
value. Escaping one kind of character after another gives the same as escaping all of them at once,
as long as backslashes come first.

## Main definitions

* `LivePreview.Component.readTemplate`: what is read up to the end of a template.

## Main results

* `LivePreview.Component.readTemplate_escape_append`: an escaped text in front of something.
* `LivePreview.Component.replaceAll_replaceAll_replaceAll`: three replacements are one.
* `LivePreview.Component.escape_faithful`: an escaped text stands for the text.
-/

namespace LivePreview.Component

/-! ### Reading a template -/

/-- What the reading of a template ends at. -/
inductive TemplateEnd
  /-- A backtick. -/
  | backtick
  /-- The opening of a substitution. -/
  | substitution
  /-- The end of the text. -/
  | endOfText
  deriving DecidableEq, Repr

/-- What is read of a template. -/
structure TemplateReading where
  /-- What the characters up to the end stand for. -/
  value : List Char
  /-- What the reading ends at. -/
  ending : TemplateEnd
  /-- The text behind that. -/
  rest : List Char
  deriving DecidableEq, Repr

/-- A reading with characters in front of its value. -/
def TemplateReading.behind (s : List Char) (r : TemplateReading) : TemplateReading :=
  { r with value := s ++ r.value }

/-- What is read of a template from behind its opening backtick. -/
def readTemplate : List Char → TemplateReading
  | [] => ⟨[], .endOfText, []⟩
  | ['\\'] => ⟨[], .endOfText, []⟩
  | '\\' :: c :: s => (readTemplate s).behind [c]
  | '$' :: '{' :: s => ⟨[], .substitution, s⟩
  | c :: s => if c = '`' then ⟨[], .backtick, s⟩ else (readTemplate s).behind [c]

theorem TemplateReading.behind_cons (c : Char) (s : List Char) (r : TemplateReading) :
    r.behind (c :: s) = (r.behind s).behind [c] := rfl

/-- An escaped text adds the text to what is read behind it, whatever that is. -/
theorem readTemplate_escape_append (rest : List Char) : (s : List Char) →
    readTemplate (s.flatMap escapeTemplateChar ++ rest) = (readTemplate rest).behind s
  | [] => rfl
  | c :: s => by
      rw [List.flatMap_cons, List.append_assoc, TemplateReading.behind_cons,
        ← readTemplate_escape_append rest s]
      rcases escapeTemplateChar_cases c with ⟨hc, -⟩ | ⟨hc, hslash, htick, hdollar⟩
      · rw [hc, List.cons_append, List.singleton_append, readTemplate]
      · rw [hc, List.singleton_append, readTemplate, if_neg htick]
        · exact fun h => absurd h hslash
        · exact fun _ _ h => absurd h hslash
        · exact fun _ h => absurd h hdollar

theorem toList_escapeTemplate (text : String) :
    (escapeTemplate text).toList = text.toList.flatMap escapeTemplateChar :=
  String.toList_ofList

/-- An escaped text on its own. -/
theorem readTemplate_escape (text : String) :
    readTemplate (escapeTemplate text).toList = ⟨text.toList, .endOfText, []⟩ := by
  have hescape := readTemplate_escape_append [] text.toList
  rw [List.append_nil, ← toList_escapeTemplate] at hescape
  rw [hescape, readTemplate, TemplateReading.behind, List.append_nil]

theorem escapeTemplate_injective : Function.Injective escapeTemplate := by
  intro text text' h
  have hread := readTemplate_escape text
  rw [h, readTemplate_escape text', TemplateReading.mk.injEq] at hread
  exact String.toList_inj.1 hread.1.symm

/-! ### Replacements -/

/-- Where a phrase is a single character, each of its occurrences is replaced on its own. -/
theorem replaceAll_singleton (old : Char) (new : List Char) : (s : List Char) →
    Text.replaceAll [old] new s = Text.replaceChar old new s
  | [] => rfl
  | c :: s => by
      have ih := replaceAll_singleton old new s
      rw [Text.replaceAll, Text.replaceChar] at ih ⊢
      rw [Text.replaceFrom, List.flatMap_cons, List.length_singleton, ih]
      by_cases hc : c = old
      · subst hc
        simp
      · simp [hc, Ne.symm hc]

/-- The characters that are escaped can be replaced kind by kind. -/
theorem replaceAll_replaceAll_replaceAll (s : List Char) :
    Text.replaceAll ['$'] ['\\', '$'] (Text.replaceAll ['`'] ['\\', '`']
      (Text.replaceAll ['\\'] ['\\', '\\'] s)) = s.flatMap escapeTemplateChar := by
  have hchar (c : Char) : ((if c = '\\' then ['\\', '\\'] else [c]).flatMap fun c =>
      (if c = '`' then ['\\', '`'] else [c]).flatMap fun c =>
        if c = '$' then ['\\', '$'] else [c]) = escapeTemplateChar c := by
    rcases escapeTemplateChar_cases c with ⟨hc, rfl | rfl | rfl⟩ | ⟨hc, hslash, htick, hdollar⟩
    · exact hc.symm
    · exact hc.symm
    · exact hc.symm
    · simp [hc, hslash, htick, hdollar]
  simp only [replaceAll_singleton, Text.replaceChar, List.flatMap_assoc, hchar]

/-- Read as the interior of a template, an escaped text neither ends the template nor opens a
substitution, and stands for the text: with a backtick behind it the reading ends at that backtick,
whatever follows, and without one at the end of the text. So different texts are escaped in different
ways. Replacing backslashes, then backticks, then dollar signs gives the same as escaping character
by character. -/
theorem escape_faithful :
    (∀ (text : String) (rest : List Char),
      readTemplate ((escapeTemplate text).toList ++ '`' :: rest) =
        ⟨text.toList, .backtick, rest⟩) ∧
    (∀ text : String, readTemplate (escapeTemplate text).toList =
      ⟨text.toList, .endOfText, []⟩) ∧
    Function.Injective escapeTemplate ∧
    ∀ text : String, Text.replaceAll ['$'] ['\\', '$'] (Text.replaceAll ['`'] ['\\', '`']
      (Text.replaceAll ['\\'] ['\\', '\\'] text.toList)) =
        text.toList.flatMap escapeTemplateChar ∧
      (escapeTemplate text).toList = text.toList.flatMap escapeTemplateChar := by
  refine ⟨fun text rest => ?_, readTemplate_escape, escapeTemplate_injective,
    fun text => ⟨replaceAll_replaceAll_replaceAll _, toList_escapeTemplate text⟩⟩
  rw [toList_escapeTemplate, readTemplate_escape_append, readTemplate, if_pos rfl]
  · simp [TemplateReading.behind]
  · simp
  · simp
  · simp

end LivePreview.Component
