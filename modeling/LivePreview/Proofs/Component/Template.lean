import LivePreview.Component.Desugar
import LivePreview.Script.Scan

/-!
# Templates of escaped texts

An escaped text between backticks is one token of a script, a template without substitutions, and
what its escapes stand for is the text. As in every template, a line break of the text counts as a
single character, however it is written.

## Main definitions

* `LivePreview.Component.IsTemplateOf`: the interior of a template that stands for a text.

## Main results

* `LivePreview.Component.isTemplateOf_escapeTemplate`: an escaped text is such an interior.
-/

namespace LivePreview.Component

open LivePreview.Script

/-- A text in which every line break is a single character. -/
def plainBreaks (text : String) : String := String.ofList (withPlainBreaks text.toList)

/-- The interior of a template that stands for a text. Whatever follows the closing backtick, the
template that a script goes on with ends there, and has no substitution. Taken as they are written,
its characters stand for the text; what the script gets is the text with plain line breaks. -/
structure IsTemplateOf (interior text : String) : Prop where
  /-- The token that is read. -/
  scan_eq : ∀ rest, scan ('`' :: (interior.toList ++ '`' :: rest)) =
    .fine (.template (plainBreaks interior) true) rest
  /-- What the interior stands for as it is written. -/
  templateValue?_interior : templateValue? interior = some text
  /-- What the token stands for. -/
  templateValue?_token : templateValue? (plainBreaks interior) = some (plainBreaks text)

variable {c : Char} {s rest : List Char}

/-! ### Escaped characters -/

/-- A character is escaped, or it means nothing in a template. -/
theorem escapeTemplateChar_cases (c : Char) :
    (escapeTemplateChar c = ['\\', c] ∧ (c = '\\' ∨ c = '`' ∨ c = '$')) ∨
      (escapeTemplateChar c = [c] ∧ c ≠ '\\' ∧ c ≠ '`' ∧ c ≠ '$') := by
  rw [escapeTemplateChar]
  split
  · exact .inl ⟨rfl, by assumption⟩
  · rename_i h
    exact .inr ⟨rfl, by simpa only [not_or] using h⟩

/-- The template ends behind the escaped text. -/
theorem templateStretch_escape : (s r : List Char) →
    templateStretch r (s.flatMap escapeTemplateChar ++ '`' :: rest) =
      some (r.reverse ++ s.flatMap escapeTemplateChar, true, rest)
  | [], r => by
      rw [List.flatMap_nil, List.nil_append, List.append_nil, templateStretch] <;> simp
  | c :: s, r => by
      rw [List.flatMap_cons, List.append_assoc]
      rcases escapeTemplateChar_cases c with ⟨hc, -⟩ | ⟨hc, hslash, htick, hdollar⟩
      · rw [hc, List.cons_append, List.singleton_append, templateStretch,
          templateStretch_escape s]
        simp
      · rw [hc, List.singleton_append, templateStretch, if_neg htick, templateStretch_escape s]
        · simp
        · simp [hslash]
        · simp [hdollar]

/-! ### Values -/

theorem escape?_special (hc : c = '\\' ∨ c = '`' ∨ c = '$') :
    escape? true c s = some ([.char c], s) := by
  rcases hc with rfl | rfl | rfl <;> rfl

theorem unescape?_nil (fuel : Nat) : unescape? true fuel [] = some [] := by
  cases fuel <;> rfl

/-- What an escaped text stands for. -/
theorem unescape?_escape : (s : List Char) → {fuel : Nat} →
    (s.flatMap escapeTemplateChar).length ≤ fuel →
    unescape? true fuel (s.flatMap escapeTemplateChar) = some (s.map .char)
  | [], fuel, _ => unescape?_nil fuel
  | c :: s, 0, hfuel => by
      rw [List.flatMap_cons, List.length_append] at hfuel
      rcases escapeTemplateChar_cases c with ⟨hc, -⟩ | ⟨hc, -⟩ <;> simp [hc] at hfuel
  | c :: s, fuel + 1, hfuel => by
      rw [List.flatMap_cons, List.length_append] at hfuel
      rw [List.flatMap_cons]
      rcases escapeTemplateChar_cases c with ⟨hc, hspecial⟩ | ⟨hc, hslash, -, -⟩
      · have hrest : (s.flatMap escapeTemplateChar).length ≤ fuel := by
          rw [hc, List.length_cons] at hfuel
          omega
        rw [hc, List.cons_append, List.singleton_append, unescape?, escape?_special hspecial]
        simp only [Option.bind_eq_bind, Option.bind_some, unescape?_escape s hrest]
        rfl
      · have hrest : (s.flatMap escapeTemplateChar).length ≤ fuel := by
          rw [hc, List.length_singleton] at hfuel
          omega
        rw [hc, List.singleton_append, unescape?]
        · simp only [Option.bind_eq_bind, Option.bind_some, unescape?_escape s hrest]
          rfl
        · simp [hslash]

theorem templateValue?_escapeTemplate (text : String) :
    templateValue? (escapeTemplate text) = some text := by
  rw [templateValue?, escapeTemplate, String.toList_ofList, unescape?_escape _ (by simp),
    Option.map_some, StringValue.ofUnits_char]
  simp [StringValue.ofText]

/-! ### Line breaks -/

/-- An escaped text starts with the character it stands for, or with a backslash. -/
theorem head?_escape (h : s.head? ≠ some '\n') :
    (s.flatMap escapeTemplateChar).head? ≠ some '\n' := by
  cases s with
  | nil => simp
  | cons c s =>
    rw [List.flatMap_cons]
    rcases escapeTemplateChar_cases c with ⟨hc, -⟩ | ⟨hc, -⟩
    · simp [hc]
    · simpa [hc] using h

theorem withPlainBreaks_cons (h : c = '\r' → s.head? ≠ some '\n') :
    withPlainBreaks (c :: s) = (if c = '\r' then '\n' else c) :: withPlainBreaks s := by
  rw [withPlainBreaks]
  rintro s' hc rfl
  exact h hc rfl

/-- Line breaks are not escaped. -/
theorem withPlainBreaks_escape (s : List Char) :
    withPlainBreaks (s.flatMap escapeTemplateChar) =
      (withPlainBreaks s).flatMap escapeTemplateChar := by
  fun_induction withPlainBreaks s with
  | case1 => rfl
  | case2 s ih =>
    change withPlainBreaks ('\r' :: '\n' :: s.flatMap escapeTemplateChar) = _
    rw [withPlainBreaks, ih]
    rfl
  | case3 c s hbreak ih =>
    have hhead : c = '\r' → (s.flatMap escapeTemplateChar).head? ≠ some '\n' := fun hc =>
      head?_escape fun hs => by
        obtain ⟨s', rfl⟩ := List.head?_eq_some_iff.1 hs
        exact hbreak s' hc rfl
    rw [List.flatMap_cons, List.flatMap_cons, ← ih]
    rcases escapeTemplateChar_cases c with ⟨hc, hspecial⟩ | ⟨hc, hplain⟩
    · have hreturn : c ≠ '\r' := by rcases hspecial with rfl | rfl | rfl <;> decide
      rw [if_neg hreturn, hc, List.cons_append, List.singleton_append,
        withPlainBreaks_cons (by simp), withPlainBreaks_cons hhead, if_neg hreturn]
      rfl
    · rw [hc, List.singleton_append, withPlainBreaks_cons hhead]
      split
      · rfl
      · rw [hc, List.singleton_append]

theorem plainBreaks_escapeTemplate (text : String) :
    plainBreaks (escapeTemplate text) = escapeTemplate (plainBreaks text) := by
  simp only [plainBreaks, escapeTemplate, String.toList_ofList, withPlainBreaks_escape]

/-- An escaped text stands for the text. -/
theorem isTemplateOf_escapeTemplate (text : String) : IsTemplateOf (escapeTemplate text) text where
  scan_eq rest := by
    rw [scan_backtick, scanTemplate, escapeTemplate, String.toList_ofList, templateStretch_escape,
      plainBreaks, String.toList_ofList]
    rfl
  templateValue?_interior := templateValue?_escapeTemplate text
  templateValue?_token := by
    rw [plainBreaks_escapeTemplate, templateValue?_escapeTemplate]

end LivePreview.Component
