import LivePreview.Json.Reader
import Mathlib.Data.List.Basic

/-!
# Literals of strings and numbers

The literal that a text is written as gives the text back, and so does the literal of a natural
number, provided that no further digit, fraction or exponent follows it.

## Main definitions

* `LivePreview.Json.Delimited`: what may follow a value.

## Main results

* `LivePreview.Json.Reader.stringFrom_flatMap_escapeChar`: strings.
* `LivePreview.Json.Reader.number_toDigits`: numbers.
-/

namespace LivePreview.Json

/-- What may follow a value in a text without blanks: nothing, a comma or a closing bracket. -/
def Delimited (rest : List Char) : Prop :=
  ∀ c ∈ rest.head?, c = ',' ∨ c = ']' ∨ c = '\x7d'

theorem delimited_nil : Delimited [] := by simp [Delimited]

theorem delimited_cons {c : Char} (h : c = ',' ∨ c = ']' ∨ c = '\x7d') (rest : List Char) :
    Delimited (c :: rest) := by
  simpa [Delimited] using h

namespace Reader

variable {c : Char} {s rest digits text : List Char} {k m n : Nat}

/-! ### Strings -/

theorem hexValue?_hexDigit : ∀ n < 16, hexValue? (hexDigit n) = some n := by decide

theorem hex4_hexDigit (hm : m < 16) (hn : n < 16) (s : List Char) :
    hex4 ('0' :: '0' :: hexDigit m :: hexDigit n :: s) = .ok (m * 16 + n) := by
  have hzero : hexValue? '0' = some 0 := by decide
  simp [hex4, hzero, hexValue?_hexDigit m hm, hexValue?_hexDigit n hn]

/-- A character is written as itself, or as an escape that stands for it. -/
theorem escapeChar_cases (c : Char) :
    escapeChar c = [c] ∧ c ≠ '"' ∧ c ≠ '\\' ∧ ¬ c.toNat < 0x20 ∨
      ∃ e, escapeChar c = '\\' :: e ∧ ∀ s, escape true (e ++ s) = .ok (c, e.length) := by
  by_cases hshort : c ∈ ['"', '\\', '\n', '\r', '\t', '\x08', '\x0c']
  · simp only [List.mem_cons, List.not_mem_nil, or_false] at hshort
    rcases hshort with rfl | rfl | rfl | rfl | rfl | rfl | rfl <;>
      exact .inr ⟨_, rfl, fun _ => rfl⟩
  · simp only [List.mem_cons, List.not_mem_nil, or_false, not_or] at hshort
    by_cases hcontrol : c.toNat < 0x20
    · refine .inr ⟨['u', '0', '0', hexDigit (c.toNat / 16), hexDigit (c.toNat % 16)], ?_, ?_⟩
      · simp [escapeChar, hshort, hcontrol]
      · intro s
        have hhex := hex4_hexDigit (by omega : c.toNat / 16 < 16) (by omega : c.toNat % 16 < 16) s
        rw [Nat.div_add_mod'] at hhex
        have hlow : ¬ (0xDC00 ≤ c.toNat ∧ c.toNat ≤ 0xDFFF) := by omega
        have hhigh : c.toNat < 0xD800 ∨ 0xDBFF < c.toNat := by omega
        simp [escape, unicodeEscape, hhex, hlow, hhigh, bind, Except.bind]
    · exact .inl ⟨by simp [escapeChar, hshort, hcontrol], hshort.1, hshort.2.1, hcontrol⟩

theorem stringFrom_append_length (exact : Bool) (e s : List Char) :
    stringFrom exact e.length (e ++ s) = stringFrom exact 0 s := by
  induction e with
  | nil => rfl
  | cons c e ih => exact ih

theorem stringFrom_escapeChar (h : stringFrom true 0 s = .ok (text, rest)) :
    stringFrom true 0 (escapeChar c ++ s) = .ok (c :: text, rest) := by
  rcases escapeChar_cases c with ⟨hplain, hquote, hback, hcontrol⟩ | ⟨e, he, hescape⟩
  · rw [hplain, List.singleton_append, stringFrom, if_neg hquote, if_neg hback, if_neg hcontrol, h]
    rfl
  · rw [he, List.cons_append, stringFrom, if_neg (by decide), if_pos rfl, hescape]
    change (stringFrom true e.length (e ++ s) >>= _) = _
    rw [stringFrom_append_length, h]
    rfl

/-- The literal that a text is written as gives the text back. -/
theorem stringFrom_flatMap_escapeChar (text rest : List Char) :
    stringFrom true 0 (text.flatMap escapeChar ++ '"' :: rest) = .ok (text, rest) := by
  induction text with
  | nil => rfl
  | cons c text ih =>
    rw [List.flatMap_cons, List.append_assoc]
    exact stringFrom_escapeChar ih

/-! ### Numbers -/

/-- The decimal digits of a number start with a zero only if the number is zero. -/
theorem head?_toDigits_ne (h : 0 < n) : (Nat.toDigits 10 n).head? ≠ some '0' := by
  induction n using Nat.strongRecOn with
  | ind n ih =>
    by_cases hn : n < 10
    · rw [Nat.toDigits_of_lt_base hn]
      have hdigit : ∀ m < 10, 0 < m → m.digitChar ≠ '0' := by decide
      simpa using hdigit n hn h
    · rw [Nat.toDigits_of_base_le (by decide) (by omega),
        List.head?_append_of_ne_nil _ Nat.toDigits_ne_nil]
      exact ih (n / 10) (by omega) (by omega)

theorem toDigits_ne_zero_cons (n : Nat) : Nat.toDigits 10 n ≠ '0' :: c :: s := by
  intro heq
  rcases Nat.eq_zero_or_pos n with rfl | hn
  · simp [Nat.toDigits_of_lt_base] at heq
  · exact head?_toDigits_ne hn (by rw [heq]; rfl)

theorem le_ofDigitChars : k ≤ Nat.ofDigitChars 10 digits k := by
  induction digits generalizing k with
  | nil => exact Nat.le_refl k
  | cons c digits ih =>
    rw [Nat.ofDigitChars_cons]
    exact Nat.le_trans (by omega) ih

/-- No digit is left over of a number that fits. -/
theorem significandFrom_of_lt (h : Nat.ofDigitChars 10 digits k < UInt64.size) :
    significandFrom k digits = (Nat.ofDigitChars 10 digits k, 0) := by
  induction digits generalizing k with
  | nil => rfl
  | cons c digits ih =>
    rw [Nat.ofDigitChars_cons] at h ⊢
    have hnext : k * 10 + (c.toNat - 48) < UInt64.size := by
      refine Nat.lt_of_le_of_lt ?_ h
      rw [Nat.mul_comm k 10]
      exact le_ofDigitChars
    rw [significandFrom]
    simp only [hnext, if_true]
    rw [Nat.mul_comm k 10]
    exact ih h

theorem isDigit_of_mem_toDigits (h : c ∈ Nat.toDigits 10 n) : c.isDigit = true :=
  Nat.isDigit_of_mem_toDigits (by decide) (by decide) h

/-- A number ends where the text around it goes on. -/
theorem digitsOf_append (h : Delimited rest) (hdigits : ∀ c ∈ digits, c.isDigit = true) :
    digitsOf (digits ++ rest) = digits := by
  rw [digitsOf, List.takeWhile_append_of_pos hdigits]
  cases rest with
  | nil => simp
  | cons c rest =>
    have hc : c.isDigit = false := by
      rcases h c rfl with rfl | rfl | rfl <;> decide
    simp [hc]

theorem numberOf_toDigits (h : n < UInt64.size) :
    numberOf false (Nat.toDigits 10 n) none none = .ok (.integer n) := by
  have hvalue : Nat.ofDigitChars 10 (Nat.toDigits 10 n) 0 = n := Nat.ofDigitChars_ten_toDigits
  have hread := significandFrom_of_lt (k := 0) (hvalue.symm ▸ h)
  rw [hvalue] at hread
  simp [numberOf, hread]

theorem numberTail_of_delimited (h : Delimited rest) {value : Number}
    (hvalue : numberOf false digits none none = .ok value) :
    numberTail false digits none rest = .ok (value, rest) := by
  cases rest with
  | nil => rw [numberTail, hvalue]; rfl
  | cons c rest =>
    have hc : ¬ (c = 'e' ∨ c = 'E') := by
      rcases h c rfl with rfl | rfl | rfl <;> decide
    rw [numberTail, if_neg hc, hvalue]
    rfl

/-- The literal that a number is written as gives the number back. -/
theorem number_toDigits (hn : n < UInt64.size) (h : Delimited rest) :
    number.run (Nat.toDigits 10 n ++ rest) = .ok (.integer n, rest) := by
  have hdigits : digitsOf (Nat.toDigits 10 n ++ rest) = Nat.toDigits 10 n :=
    digitsOf_append h fun _ => isDigit_of_mem_toDigits
  have hunsigned : number.run (Nat.toDigits 10 n ++ rest) =
      unsignedNumber false (Nat.toDigits 10 n ++ rest) := by
    obtain ⟨c, more, hmore⟩ := List.exists_cons_of_ne_nil (@Nat.toDigits_ne_nil n 10)
    have hc : c ≠ '-' := by
      rintro rfl
      have hminus : '-' ∈ Nat.toDigits 10 n := by simp [hmore]
      exact absurd (isDigit_of_mem_toDigits hminus) (by decide)
    rw [hmore, List.cons_append, StateT.run, number]
    rintro _ heq
    exact hc (List.cons.inj heq).1
  rw [hunsigned, unsignedNumber, hdigits]
  split
  · exact absurd ‹_› Nat.toDigits_ne_nil
  · exact absurd ‹_› (toDigits_ne_zero_cons n)
  · -- Neither a fraction nor an exponent follows.
    rw [List.drop_left]
    split
    · rcases h '.' rfl with hdot | hdot | hdot <;> cases hdot
    · exact numberTail_of_delimited h (numberOf_toDigits hn)

end Reader

end LivePreview.Json
