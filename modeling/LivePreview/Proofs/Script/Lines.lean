import LivePreview.ModuleGrammar
import LivePreview.Proofs.Text.Places

/-!
# Input elements in front of a line break

Of the elements of a script only templates go on behind a line break, if no escape stands in front
of it. What is read in a text up to such a line break does therefore not hang on what follows,
unless a template or a comment is open there.

## Main definitions

* `LivePreview.Script.Ticked`: a text that no escape stands at the end of.
* `LivePreview.Script.GapLine`, `LivePreview.Script.ScansLine`, `LivePreview.Script.ElementLine`:
  how a gap, a token and an element go on that start in front of a line break.

## Main results

* `LivePreview.Script.gapLine`: a gap that starts in front of a line break.
* `LivePreview.Script.scan_line`: a token that starts in front of a line break.
* `LivePreview.Script.Lexes.line`: an element that starts in front of a line break.
-/

namespace LivePreview.Script

variable {u v : List Char} {p : Char → Bool} {c : Char}

/-- A text that ends in a backtick, if it is not empty. -/
def Ticked (u : List Char) : Prop := ∀ c ∈ u.getLast?, c = '`'

theorem Ticked.of_suffix (hu : Ticked u) (hv : v <:+ u) : Ticked v := by
  obtain ⟨front, rfl⟩ := hv
  intro c hc
  refine hu c ?_
  rw [List.getLast?_append, Option.mem_def.1 hc, Option.some_or]
  rfl

theorem Ticked.tail (hu : Ticked (c :: u)) : Ticked u := hu.of_suffix (List.suffix_cons c u)

theorem Ticked.ne_nil (hu : Ticked (c :: u)) (hc : c ≠ '`') : u ≠ [] := by
  rintro rfl
  exact hc (hu c rfl)

/-! ### Runs -/

theorem dropWhile_line (hp : p '\n' = false) (u Y : List Char) :
    (u ++ '\n' :: Y).dropWhile p = u.dropWhile p ++ '\n' :: Y := by
  rw [List.dropWhile_append]
  split
  · rename_i hempty
    rw [List.isEmpty_iff.1 hempty, List.dropWhile_cons_of_neg (by simp [hp]), List.nil_append]
  · rfl

theorem takeWhile_line (hp : p '\n' = false) (u Y : List Char) :
    (u ++ '\n' :: Y).takeWhile p = u.takeWhile p := by
  rw [List.takeWhile_append]
  split
  · rename_i hall
    rw [List.takeWhile_cons_of_neg (by simp [hp]), List.append_nil]
    exact (List.takeWhile_prefix p).eq_of_length hall |>.symm
  · rfl

theorem continuesName_lineBreak : continuesName '\n' = false := by decide +kernel

theorem startsName_lineBreak : startsName '\n' = false := by decide +kernel

/-! ### Gaps -/

/-- How a gap goes on that starts in front of the line break behind a text. -/
inductive GapLine (afterOpening : Bool) (u : List Char)
    (read : List Char → Gap × List Char × Bool) : Prop
  /-- It ends in front of the line break. -/
  | ends {v : List Char} (g : Gap) (hne : v ≠ []) (hsuffix : v <:+ u)
      (h : ∀ Y, read Y = (g, v ++ '\n' :: Y, false))
  /-- The line break is between comments, or ends one. -/
  | passes (g : Gap) (h : ∀ Y, read Y = gap afterOpening .blank g Y)
  /-- The line break is inside of a comment. -/
  | encloses (g : Gap) (r : List Char) (h : ∀ Y, read Y = gap afterOpening (.block r) g Y)

namespace GapLine

variable {afterOpening : Bool} {read read' : List Char → Gap × List Char × Bool}

theorem mono (hread : GapLine afterOpening v read) (hsuffix : v <:+ u)
    (h : ∀ Y, read' Y = read Y) : GapLine afterOpening u read' := by
  cases hread with
  | ends g hne hv hends => exact .ends g hne (hv.trans hsuffix) fun Y => (h Y).trans (hends Y)
  | passes g hpasses => exact .passes g fun Y => (h Y).trans (hpasses Y)
  | encloses g r hencloses => exact .encloses g r fun Y => (h Y).trans (hencloses Y)

end GapLine

/-- A sign behind the start of a text stands in front of the line break behind it. -/
theorem exists_eq_cons_of_line {d : Char} {s Y : List Char} (h : u ++ '\n' :: Y = d :: s)
    (hd : d ≠ '\n') : ∃ v, u = d :: v := by
  cases u with
  | nil => exact absurd (List.cons.inj h).1.symm hd
  | cons e v => exact ⟨v, by rw [(List.cons.inj h).1]⟩

/-- What is read of a gap at a character that starts no comment. -/
theorem gap_blank_line {s Y : List Char} (afterOpening : Bool) (g : Gap)
    (hline : ∀ s', c = '/' → s = '/' :: s' → False)
    (hblock : ∀ s', c = '/' → s = '*' :: s' → False) :
    gap afterOpening .blank g (c :: s ++ '\n' :: Y) =
      if isLineEnd c then gap afterOpening .blank g.lineBreak (s ++ '\n' :: Y)
      else if isGap c then gap afterOpening .blank g (s ++ '\n' :: Y)
      else (g, c :: s ++ '\n' :: Y, false) := by
  rw [List.cons_append, gap]
  · intro s' hc hs
    obtain ⟨v, rfl⟩ := exists_eq_cons_of_line hs (by decide)
    exact hline v hc rfl
  · intro s' hc hs
    obtain ⟨v, rfl⟩ := exists_eq_cons_of_line hs (by decide)
    exact hblock v hc rfl

theorem gapLine (afterOpening : Bool) (mode : GapMode) (g : Gap) (u : List Char) :
    GapLine afterOpening u fun Y => gap afterOpening mode g (u ++ '\n' :: Y) := by
  fun_induction gap afterOpening mode g u with
  | case1 g s ih => exact ih.mono (List.suffix_append ['/', '/'] s) fun Y => rfl
  | case2 g s ih => exact ih.mono (List.suffix_append ['/', '*'] s) fun Y => rfl
  | case3 g c s hline hblock hbreak ih =>
    exact ih.mono (List.suffix_cons c s) fun Y => by
      rw [gap_blank_line _ _ hline hblock, if_pos hbreak]
  | case4 g c s hline hblock hbreak hgap ih =>
    exact ih.mono (List.suffix_cons c s) fun Y => by
      rw [gap_blank_line _ _ hline hblock, if_neg hbreak, if_pos hgap]
  | case5 g c s hline hblock hbreak hgap =>
    exact .ends g (List.cons_ne_nil c s) List.suffix_rfl fun Y => by
      rw [gap_blank_line _ _ hline hblock, if_neg hbreak, if_neg hgap]
  | case6 g => exact .passes g.lineBreak fun Y => rfl
  | case7 r g c s hbreak ih =>
    exact ih.mono (List.suffix_cons c s) fun Y => by rw [List.cons_append, gap, if_pos hbreak]
  | case8 r g c s hbreak ih =>
    exact ih.mono (List.suffix_cons c s) fun Y => by rw [List.cons_append, gap, if_neg hbreak]
  | case9 r g => exact .passes _ fun Y => rfl
  | case10 r g s ih => exact ih.mono (List.suffix_append ['*', '/'] s) fun Y => rfl
  | case11 r g c s hclose ih =>
    refine ih.mono (List.suffix_cons c s) fun Y => ?_
    rw [List.cons_append, gap]
    intro s' hc hs
    obtain ⟨v, rfl⟩ := exists_eq_cons_of_line hs (by decide)
    exact hclose v hc rfl
  | case12 r g => exact .encloses g ('\n' :: r) fun Y => rfl

/-! ### Names -/

theorem hexValue?_eq_none {s : List Char} (h : '\n' ∈ s) : hexValue? s = none := by
  have hfold : ∀ (n : Nat), (s.foldlM (fun n c => (hexDigit? c).map fun d => 16 * n + d) n) =
      none := by
    induction s with
    | nil => simp at h
    | cons c s ih =>
      intro n
      rw [List.foldlM_cons]
      rcases List.mem_cons.1 h with rfl | h
      · rfl
      · cases hexDigit? c with
        | none => rfl
        | some d => exact ih h _
  rw [hexValue?, hfold]
  split <;> rfl

theorem hexDigits?_line (count : Nat) (u Y : List Char) :
    hexDigits? count (u ++ '\n' :: Y) = if count ≤ u.length then hexDigits? count u else none := by
  split
  · rename_i h
    rw [hexDigits?, hexDigits?, List.take_append_of_le_length h]
  · rename_i h
    rw [hexDigits?, hexValue?_eq_none, ite_self]
    rw [List.take_append, List.take_cons (by omega)]
    simp

/-- What is read at the start of a text, and where, if a line break follows that nothing goes on
behind. -/
inductive ReadsLine {α : Type} (u : List Char) (read : List Char → Option (α × List Char)) : Prop
  /-- It ends in front of the line break. -/
  | ends {v : List Char} (a : α) (hsuffix : v <:+ u) (h : ∀ Y, read Y = some (a, v ++ '\n' :: Y))
  /-- Nothing can be read. -/
  | fails (h : ∀ Y, read Y = none)

theorem ReadsLine.mono {α : Type} {read read' : List Char → Option (α × List Char)}
    (hread : ReadsLine v read) (hsuffix : v <:+ u) (h : ∀ Y, read' Y = read Y) :
    ReadsLine u read' := by
  cases hread with
  | ends a hv hends => exact .ends a (hv.trans hsuffix) fun Y => (h Y).trans (hends Y)
  | fails hfails => exact .fails fun Y => (h Y).trans (hfails Y)

theorem ReadsLine.map {α β : Type} {read : List Char → Option (α × List Char)}
    (hread : ReadsLine u read) (f : α → β) :
    ReadsLine u fun Y => (read Y).map fun (a, rest) => (f a, rest) := by
  cases hread with
  | ends a hv hends => exact .ends (f a) hv fun Y => by rw [hends, Option.map_some]
  | fails hfails => exact .fails fun Y => by rw [hfails, Option.map_none]

/-- What is read does not hang on the text, only on whether it is there. -/
theorem ReadsLine.of_option {α : Type} {read : List Char → Option (α × List Char)} (a? : Option α)
    (hsuffix : v <:+ u) (h : ∀ Y, read Y = a?.map (·, v ++ '\n' :: Y)) : ReadsLine u read := by
  cases a? with
  | none => exact .fails h
  | some a => exact .ends a hsuffix h

theorem codeEscape?_brace_line (s : List Char) :
    ReadsLine s fun Y => codeEscape? ('{' :: (s ++ '\n' :: Y)) := by
  by_cases hbrace : '}' ∈ s
  · obtain ⟨digits, rest, rfl, hdigits⟩ := List.eq_append_cons_of_mem hbrace
    have hrun : ∀ c ∈ digits, (decide (c ≠ '}')) = true := fun c hc =>
      decide_eq_true (ne_of_mem_of_not_mem hc hdigits)
    refine .of_option ((hexValue? digits).filter (· ≤ 0x10FFFF))
      (List.suffix_append_of_suffix (List.suffix_cons '}' rest)) fun Y => ?_
    rw [codeEscape?, List.append_assoc, List.cons_append, Text.takeWhile_append_cons hrun (by simp),
      List.dropWhile_append_of_pos hrun, List.dropWhile_cons_of_neg (by simp)]
    cases hexValue? digits with
    | none => rfl
    | some n =>
      simp only [Option.filter_some, decide_eq_true_eq]
      split <;> rfl
  · refine .fails fun Y => ?_
    rw [codeEscape?, hexValue?_eq_none]
    rw [List.takeWhile_append_of_pos fun c hc => decide_eq_true (ne_of_mem_of_not_mem hc hbrace)]
    simp

/-- The number of an escape is in front of the line break, or there is none. -/
theorem codeEscape?_line (u : List Char) :
    ReadsLine u fun Y => codeEscape? (u ++ '\n' :: Y) := by
  by_cases hbrace : u.head? = some '{'
  · obtain ⟨s, rfl⟩ := List.head?_eq_some_iff.1 hbrace
    exact (codeEscape?_brace_line s).mono (List.suffix_cons '{' s) fun Y => rfl
  · have heq (Y : List Char) : codeEscape? (u ++ '\n' :: Y) =
        (hexDigits? 4 (u ++ '\n' :: Y)).map fun n => (n, (u ++ '\n' :: Y).drop 4) := by
      rw [codeEscape?]
      intro s hs
      obtain ⟨t, rfl⟩ := exists_eq_cons_of_line hs (by decide)
      exact hbrace rfl
    refine .of_option (v := u.drop 4) (if 4 ≤ u.length then hexDigits? 4 u else none)
      (List.drop_suffix 4 u) fun Y => ?_
    rw [heq, hexDigits?_line]
    split
    · rename_i h
      rw [List.drop_append_of_le_length h]
    · rfl

/-- A name with escapes ends in front of the line break, however long the text may be. -/
theorem escapedName?_line {admits : Char → Bool} (hadmits : admits '\n' = false) (u : List Char)
    (fuel : List Char → Nat) (hfuel : ∀ Y, u.length < fuel Y) :
    ReadsLine u fun Y => escapedName? (fuel Y) admits (u ++ '\n' :: Y) := by
  obtain ⟨less, hless⟩ : ∃ less : List Char → Nat, ∀ Y, fuel Y = less Y + 1 :=
    ⟨fun Y => fuel Y - 1, fun Y => (Nat.sub_add_cancel (Nat.zero_lt_of_lt (hfuel Y))).symm⟩
  simp only [hless, Nat.lt_succ_iff] at hfuel ⊢
  by_cases hescape : ∃ s, u = '\\' :: 'u' :: s
  · obtain ⟨s, rfl⟩ := hescape
    simp only [List.cons_append, escapedName?]
    cases codeEscape?_line s with
    | fails hfails =>
      refine .fails fun Y => ?_
      simp only [hfails, Option.bind_eq_bind, Option.bind_none]
    | @ends v n hv hends =>
      have hlength : v.length < ('\\' :: 'u' :: s).length :=
        lt_of_le_of_lt hv.length_le (Nat.lt_add_of_pos_right (Nat.zero_lt_succ 1))
      simp only [hends, Option.bind_eq_bind, Option.bind_some]
      by_cases hn : admits (Char.ofNat n) = true
      · have ih := escapedName?_line continuesName_lineBreak v less fun Y =>
          lt_of_lt_of_le hlength (hfuel Y)
        refine (ih.map (Char.ofNat n :: ·)).mono (hv.trans (List.suffix_append ['\\', 'u'] s))
          fun Y => ?_
        rw [if_pos hn]
        cases escapedName? (less Y) continuesName (v ++ '\n' :: Y) <;> rfl
      · exact .fails fun Y => if_neg hn
  · cases u with
    | nil =>
      refine .ends [] List.suffix_rfl fun Y => ?_
      rw [List.nil_append, escapedName?, hadmits]
      · simp
      · simp
    | cons c s =>
      have heq (Y : List Char) : escapedName? (less Y + 1) admits (c :: s ++ '\n' :: Y) =
          if admits c then
            (escapedName? (less Y) continuesName (s ++ '\n' :: Y)).map fun r => (c :: r.1, r.2)
          else if c = '\\' then none else some ([], c :: s ++ '\n' :: Y) := by
        rw [List.cons_append, escapedName?]
        · cases escapedName? (less Y) continuesName (s ++ '\n' :: Y) <;> rfl
        · intro t hc ht
          obtain ⟨t, rfl⟩ := exists_eq_cons_of_line ht (by decide)
          exact hescape ⟨t, by rw [hc]⟩
      by_cases hc : admits c = true
      · have ih := escapedName?_line continuesName_lineBreak s less fun Y =>
          lt_of_lt_of_le (by simp) (hfuel Y)
        refine (ih.map (c :: ·)).mono (List.suffix_cons c s) fun Y => ?_
        rw [heq, if_pos hc]
      · refine .of_option (if c = '\\' then none else some []) List.suffix_rfl fun Y => ?_
        rw [heq, if_neg hc]
        split <;> rfl
termination_by u.length

/-! ### Tokens -/

/-- The token at the start of a text, if a line break follows that it does not go on behind. -/
inductive ScansLine (u : List Char) (read : List Char → Scanned) : Prop
  /-- It ends in front of the line break. -/
  | ends {v : List Char} (token : Token) (faults : List String) (hsuffix : v <:+ u)
      (h : ∀ Y, read Y = ⟨token, v ++ '\n' :: Y, faults⟩)
  /-- Something is wrong with it. -/
  | faulty (h : ∀ Y, (read Y).faults ≠ [])

theorem ScansLine.mono {read read' : List Char → Scanned} (hread : ScansLine v read)
    (hsuffix : v <:+ u) (h : ∀ Y, read' Y = read Y) : ScansLine u read' := by
  cases hread with
  | ends token faults hv hends =>
    exact .ends token faults (hv.trans hsuffix) fun Y => (h Y).trans (hends Y)
  | faulty hfaulty => exact .faulty fun Y => h Y ▸ hfaulty Y

theorem scanName_line (token : String → Token) (u : List Char) :
    ScansLine u fun Y => scanName token (u ++ '\n' :: Y) := by
  simp only [scanName, dropWhile_line continuesName_lineBreak,
    takeWhile_line continuesName_lineBreak]
  cases hrest : u.dropWhile continuesName with
  | nil => exact .ends _ _ List.nil_suffix fun Y => if_neg (by simp)
  | cons c v =>
    have hsuffix : c :: v <:+ u := hrest ▸ List.dropWhile_suffix _
    simp only [List.cons_append, List.head?_cons, Option.some_inj, List.drop_one, List.tail_cons]
    by_cases hc : c = '\\'
    · simp only [if_pos hc]
      cases escapedName?_line startsName_lineBreak u (fun Y => (u ++ '\n' :: Y).length)
          fun Y => by simp with
      | ends name hv hends => exact .ends _ _ hv fun Y => by rw [hends]; rfl
      | fails hfails =>
        exact .faulty fun Y => by rw [hfails]; exact List.cons_ne_nil _ _
    · exact .ends _ _ hsuffix fun Y => if_neg hc

/-! ### Numbers -/

theorem head?_line (u Y : List Char) : (u ++ '\n' :: Y).head? = some (u.headD '\n') := by
  cases u <;> rfl

theorem strayCharacter_line (u Y : List Char) :
    strayCharacter (u ++ '\n' :: Y) = strayCharacter [u.headD '\n'] := by
  cases u <;> rfl

/-- The digits at the start of a text, if a line break follows. -/
inductive DigitsLine (u : List Char) (read : List Char → Digits) : Prop
  /-- They end in front of it. -/
  | ends {v : List Char} (digits : List Char) (faults : List String) (hsuffix : v <:+ u)
      (h : ∀ Y, read Y = ⟨digits, v ++ '\n' :: Y, faults⟩)

theorem moreDigits_line (hp : p '\n' = false) (hseparator : p '_' = false) (u : List Char) :
    DigitsLine u fun Y => moreDigits p (u ++ '\n' :: Y) := by
  fun_induction moreDigits p u with
  | case1 =>
    refine .ends [] [] List.suffix_rfl fun Y => ?_
    rw [List.nil_append, moreDigits, if_neg (by simp [hp]), if_neg (by decide)]
    exact fun d t hd => absurd hd (by decide)
  | case2 c s hc more ih =>
    obtain ⟨digits, faults, hv, heq⟩ := ih
    refine .ends (c :: digits) faults (hv.trans (List.suffix_append ['_', c] s)) fun Y => ?_
    rw [List.cons_append, List.cons_append, moreDigits, if_pos hc, heq]
  | case3 c s hc =>
    refine .ends [] [strayCharacter [c]] (List.suffix_cons '_' (c :: s)) fun Y => ?_
    rw [List.cons_append, List.cons_append, moreDigits, if_neg hc]
    rfl
  | case4 c s hsep hc more ih =>
    obtain ⟨digits, faults, hv, heq⟩ := ih
    refine .ends (c :: digits) faults (hv.trans (List.suffix_cons c s)) fun Y => ?_
    rw [List.cons_append, moreDigits, if_pos hc, heq]
    rintro d t rfl
    rw [hseparator] at hc
    cases hc
  | case5 s hsep hc =>
    obtain rfl : s = [] := by
      cases s with
      | nil => rfl
      | cons e t => exact (hsep e t rfl rfl).elim
    refine .ends [] [strayCharacter ['\n']] List.nil_suffix fun Y => ?_
    rw [List.cons_append, List.nil_append, moreDigits, if_neg (by simp [hp])]
    rfl
  | case6 c s hsep hc hne =>
    refine .ends [] [] List.suffix_rfl fun Y => ?_
    rw [List.cons_append, moreDigits, if_neg hc, if_neg hne]
    exact fun d t hd => absurd hd hne

theorem someDigits_line (hp : p '\n' = false) (hseparator : p '_' = false) (u : List Char) :
    DigitsLine u fun Y => someDigits p (u ++ '\n' :: Y) := by
  simp only [someDigits, head?_line, strayCharacter_line]
  split
  · exact moreDigits_line hp hseparator u
  · exact .ends [] _ List.suffix_rfl fun Y => rfl

theorem checkedNumber_line (token : Token) (faults : List String) (hv : v <:+ u) :
    ScansLine u fun Y => checkedNumber token (v ++ '\n' :: Y) faults := by
  simp only [checkedNumber, head?_line, dropWhile_line continuesName_lineBreak]
  split
  · exact .ends _ _ ((List.dropWhile_suffix _).trans hv) fun Y => rfl
  · exact .ends _ _ hv fun Y => rfl

theorem scanInBase_line (base : Nat) (style : String) (u : List Char) :
    ScansLine u fun Y => scanInBase base style (u ++ '\n' :: Y) := by
  obtain @⟨v, digits, faults, hv, heq⟩ :=
    someDigits_line (p := fun c => (hexDigit? c).any (· < base)) rfl rfl u
  simp only [scanInBase, heq]
  cases faults with
  | cons message faults => exact .ends _ _ hv fun Y => rfl
  | nil =>
    by_cases hn : ∃ t, v = 'n' :: t
    · obtain ⟨t, rfl⟩ := hn
      exact checkedNumber_line _ _ ((List.suffix_cons 'n' t).trans hv)
    · refine (checkedNumber_line (.number (integerValue base digits) style) [] hv).mono
        List.suffix_rfl fun Y => ?_
      split
      · rename_i h
        cases h
      · rename_i t _ h
        obtain ⟨t, rfl⟩ := exists_eq_cons_of_line h (by decide)
        exact absurd ⟨t, rfl⟩ hn
      · rfl

/-- The exponent at the start of a text, if a line break follows. -/
inductive ExponentLine (u : List Char)
    (read : List Char → Option (Bool × Nat) × List Char × List String) : Prop
  /-- It ends in front of it. -/
  | ends {v : List Char} (exponent : Option (Bool × Nat)) (faults : List String)
      (hsuffix : v <:+ u) (h : ∀ Y, read Y = (exponent, v ++ '\n' :: Y, faults))

theorem scanExponent_line (u : List Char) :
    ExponentLine u fun Y => scanExponent (u ++ '\n' :: Y) := by
  have hdigits := someDigits_line (p := Char.isDigit) (by decide) (by decide)
  cases u with
  | nil => exact .ends none [] List.suffix_rfl fun Y => rfl
  | cons c t =>
    by_cases hc : (c = 'e' || c = 'E') = true
    swap
    · exact .ends none [] List.suffix_rfl fun Y => if_neg hc
    by_cases hminus : ∃ s, t = '-' :: s
    · obtain ⟨s, rfl⟩ := hminus
      obtain @⟨v, digits, faults, hv, heq⟩ := hdigits s
      refine .ends (some (true, digitsValue 10 digits)) faults
        (hv.trans (List.suffix_append [c, '-'] s)) fun Y => ?_
      rw [List.cons_append, List.cons_append, scanExponent, if_pos hc]
      simp only [heq]
    by_cases hplus : ∃ s, t = '+' :: s
    · obtain ⟨s, rfl⟩ := hplus
      obtain @⟨v, digits, faults, hv, heq⟩ := hdigits s
      refine .ends (some (false, digitsValue 10 digits)) faults
        (hv.trans (List.suffix_append [c, '+'] s)) fun Y => ?_
      rw [List.cons_append, List.cons_append, scanExponent, if_pos hc]
      simp only [heq]
    · obtain @⟨v, digits, faults, hv, heq⟩ := hdigits t
      refine .ends (some (false, digitsValue 10 digits)) faults
        (hv.trans (List.suffix_cons c t)) fun Y => ?_
      rw [List.cons_append, scanExponent, if_pos hc]
      · simp only [heq]
      · intro s hs
        obtain ⟨s, rfl⟩ := exists_eq_cons_of_line hs (by decide)
        exact hminus ⟨s, rfl⟩
      · intro s hs
        obtain ⟨s, rfl⟩ := exists_eq_cons_of_line hs (by decide)
        exact hplus ⟨s, rfl⟩

theorem scanFraction_line (whole : Digits) (hasPoint : Bool) (hv : v <:+ u) :
    ScansLine u fun Y => scanFraction whole hasPoint (v ++ '\n' :: Y) := by
  have hfraction : DigitsLine v fun Y =>
      if hasPoint && (v ++ '\n' :: Y).head?.any Char.isDigit then
        moreDigits Char.isDigit (v ++ '\n' :: Y)
      else ⟨[], v ++ '\n' :: Y, []⟩ := by
    simp only [head?_line]
    split
    · exact moreDigits_line (by decide) (by decide) v
    · exact .ends [] [] List.suffix_rfl fun Y => rfl
  obtain @⟨w, digits, faults, hw, heq⟩ := hfraction
  obtain @⟨x, exponent, faults', hx, hexponent⟩ := scanExponent_line w
  simp only [scanFraction, heq, hexponent]
  exact checkedNumber_line _ _ (hx.trans (hw.trans hv))

theorem scanDecimal_line (u : List Char) :
    ScansLine u fun Y => scanDecimal (u ++ '\n' :: Y) := by
  have hwhole : DigitsLine u fun Y =>
      if (u ++ '\n' :: Y).head? = some '.' then ⟨[], u ++ '\n' :: Y, []⟩
      else moreDigits Char.isDigit (u ++ '\n' :: Y) := by
    simp only [head?_line]
    split
    · exact .ends [] [] List.suffix_rfl fun Y => rfl
    · exact moreDigits_line (by decide) (by decide) u
  obtain @⟨v, digits, faults, hv, heq⟩ := hwhole
  simp only [scanDecimal, heq]
  by_cases hn : ∃ t, v = 'n' :: t
  · obtain ⟨t, rfl⟩ := hn
    exact checkedNumber_line _ _ ((List.suffix_cons 'n' t).trans hv)
  by_cases hpoint : ∃ t, v = '.' :: t
  · obtain ⟨t, rfl⟩ := hpoint
    exact (scanFraction_line ⟨digits, [], faults⟩ true ((List.suffix_cons '.' t).trans hv)).mono
      List.suffix_rfl fun Y => rfl
  · refine (scanFraction_line ⟨digits, [], faults⟩ false hv).mono List.suffix_rfl fun Y => ?_
    split
    · rename_i h
      obtain ⟨t, rfl⟩ := exists_eq_cons_of_line h (by decide)
      exact absurd ⟨t, rfl⟩ hn
    · rename_i h
      obtain ⟨t, rfl⟩ := exists_eq_cons_of_line h (by decide)
      exact absurd ⟨t, rfl⟩ hpoint
    · rfl

theorem scanAfterZero_line (u : List Char) :
    ScansLine u fun Y => scanAfterZero (u ++ '\n' :: Y) := by
  have hdigit : Char.isDigit '\n' = false := by decide
  simp only [scanAfterZero, takeWhile_line hdigit, dropWhile_line hdigit]
  split
  · exact checkedNumber_line _ _ (List.dropWhile_suffix _)
  obtain ⟨v, hv⟩ : ∃ v, u.dropWhile Char.isDigit = v := ⟨_, rfl⟩
  have hsuffix : v <:+ u := hv ▸ List.dropWhile_suffix _
  rw [hv]
  by_cases hpoint : ∃ t, v = '.' :: t
  · obtain ⟨t, rfl⟩ := hpoint
    exact (scanFraction_line ⟨u.takeWhile Char.isDigit, [], []⟩ true
      ((List.suffix_cons '.' t).trans hsuffix)).mono List.suffix_rfl fun Y => rfl
  by_cases hexponent : ∃ t, v = 'e' :: t
  · obtain ⟨t, rfl⟩ := hexponent
    exact (scanFraction_line ⟨u.takeWhile Char.isDigit, [], []⟩ false hsuffix).mono
      List.suffix_rfl fun Y => rfl
  · refine (checkedNumber_line (.number (integerValue 10 ('0' :: u.takeWhile Char.isDigit)) "decimal")
      [] hsuffix).mono List.suffix_rfl fun Y => ?_
    split
    · rename_i h
      obtain ⟨t, rfl⟩ := exists_eq_cons_of_line h (by decide)
      exact absurd ⟨t, rfl⟩ hpoint
    · rename_i h
      obtain ⟨t, rfl⟩ := exists_eq_cons_of_line h (by decide)
      exact absurd ⟨t, rfl⟩ hexponent
    · rfl

theorem scanNumber_line (u : List Char) :
    ScansLine u fun Y => scanNumber (u ++ '\n' :: Y) := by
  by_cases hzero : ∃ c t, u = '0' :: c :: t
  · obtain ⟨c, t, rfl⟩ := hzero
    have ht : t <:+ '0' :: c :: t := List.suffix_append ['0', c] t
    have hc : c :: t <:+ '0' :: c :: t := List.suffix_cons '0' (c :: t)
    simp only [List.cons_append, scanNumber]
    split_ifs
    · exact (scanInBase_line 16 "hex" t).mono ht fun Y => rfl
    · exact (scanInBase_line 8 "octal" t).mono ht fun Y => rfl
    · exact (scanInBase_line 2 "binary" t).mono ht fun Y => rfl
    · exact (scanAfterZero_line (c :: t)).mono hc fun Y => rfl
    · exact (checkedNumber_line _ _ hc).mono List.suffix_rfl fun Y => rfl
    · exact (scanDecimal_line ('0' :: c :: t)).mono List.suffix_rfl fun Y => rfl
  · refine (scanDecimal_line u).mono List.suffix_rfl fun Y => ?_
    cases u with
    | nil => rfl
    | cons c t =>
      cases t with
      | nil =>
        by_cases hc : c = '0'
        · subst hc
          rfl
        · rw [List.cons_append, List.nil_append, scanNumber]
          exact fun d s h => absurd (List.cons.inj h).1 hc
      | cons d t =>
        rw [List.cons_append, List.cons_append, scanNumber]
        intro e s h
        obtain ⟨rfl, -⟩ := List.cons.inj h
        exact hzero ⟨d, t, rfl⟩

/-! ### Punctuators -/

/-- A phrase without line breaks is found in front of the line break. -/
theorem isPrefixOf_line {m : List Char} (hm : '\n' ∉ m) (u Y : List Char) :
    m.isPrefixOf (u ++ '\n' :: Y) = m.isPrefixOf u := by
  induction m generalizing u with
  | nil => simp
  | cons c m ih =>
    rw [List.mem_cons, not_or] at hm
    cases u with
    | nil => simp [List.isPrefixOf, Ne.symm hm.1]
    | cons d u => simp only [List.cons_append, List.isPrefixOf, ih hm.2]

theorem firstMark_line (marks : List (List Char)) (hmarks : ∀ m ∈ marks, '\n' ∉ m)
    (u : List Char) : ReadsLine u fun Y => firstMark marks (u ++ '\n' :: Y) := by
  induction marks with
  | nil => exact .fails fun Y => rfl
  | cons m marks ih =>
    have heq (Y : List Char) : firstMark (m :: marks) (u ++ '\n' :: Y) =
        if m.isPrefixOf u then some (String.ofList m, (u ++ '\n' :: Y).drop m.length)
        else firstMark marks (u ++ '\n' :: Y) := by
      rw [firstMark, List.find?_cons, isPrefixOf_line (hmarks m List.mem_cons_self)]
      cases m.isPrefixOf u <;> rfl
    by_cases hm : m.isPrefixOf u = true
    · have hlength := (List.isPrefixOf_iff_prefix.1 hm).length_le
      refine .ends (String.ofList m) (List.drop_suffix m.length u) fun Y => ?_
      rw [heq, if_pos hm, List.drop_append_of_le_length hlength]
    · exact (ih fun m' hm' => hmarks m' (List.mem_cons_of_mem m hm')).mono List.suffix_rfl
        fun Y => by rw [heq, if_neg hm]

theorem scanMark_line (hu : u ≠ []) : ScansLine u fun Y => scanMark (u ++ '\n' :: Y) := by
  obtain ⟨c, t, rfl⟩ := List.exists_cons_of_ne_nil hu
  have ht : t <:+ c :: t := List.suffix_cons c t
  cases firstMark_line longMarks (by decide) (c :: t) with
  | ends m hv h =>
    simp only [scanMark, h, head?_line]
    split
    · exact .ends _ [] ht fun Y => rfl
    · exact .ends _ [] hv fun Y => rfl
  | fails h =>
    simp only [scanMark, h]
    by_cases hc : shortMarks.contains c = true
    · exact .ends (.mark (String.ofList [c])) [] ht fun Y => if_pos hc
    · exact .ends (.fault (strayCharacter [c])) [strayCharacter [c]] ht fun Y => if_neg hc

/-! ### Strings, templates and regular expressions -/

/-- No text like this ends in a backslash. -/
theorem Ticked.ne_backslash {s : List Char} (hu : Ticked (c :: s))
    (h : ∀ d t, c = '\\' → s = d :: t → False) : c ≠ '\\' := by
  rintro rfl
  obtain ⟨d, t, rfl⟩ := List.exists_cons_of_ne_nil (hu.ne_nil (by decide))
  exact h d t rfl rfl

theorem untilQuote_line {quote : Char} (hquote : quote ≠ '\n') (r : List Char) (hu : Ticked u) :
    ReadsLine u fun Y => untilQuote quote r (u ++ '\n' :: Y) := by
  fun_induction untilQuote quote r u with
  | case1 r =>
    refine .fails fun Y => ?_
    rw [List.nil_append, untilQuote, if_neg hquote.symm, if_pos (by decide)] <;> simp
  | case2 r s ih =>
    have hs : s <:+ '\\' :: '\r' :: '\n' :: s := List.suffix_append ['\\', '\r', '\n'] s
    exact (ih (hu.of_suffix hs)).mono hs fun Y => rfl
  | case3 r c s hbreak ih =>
    have hs : s <:+ '\\' :: c :: s := List.suffix_append ['\\', c] s
    refine (ih (hu.of_suffix hs)).mono hs fun Y => ?_
    rw [List.cons_append, List.cons_append, untilQuote]
    rintro t rfl ht
    obtain ⟨d, s, rfl⟩ := List.exists_cons_of_ne_nil (hu.tail.ne_nil (by decide))
    obtain ⟨rfl, -⟩ := List.cons.inj ht
    exact hbreak s rfl rfl
  | case4 r s _ hslash =>
    have hne := hu.ne_backslash hslash
    refine .ends r.reverse (List.suffix_cons quote s) fun Y => ?_
    rw [List.cons_append, untilQuote, if_pos rfl] <;> simp [hne]
  | case5 r c s _ hslash hc hend =>
    have hne := hu.ne_backslash hslash
    refine .fails fun Y => ?_
    rw [List.cons_append, untilQuote, if_neg hc, if_pos hend] <;> simp [hne]
  | case6 r c s _ hslash hc hend ih =>
    have hne := hu.ne_backslash hslash
    refine (ih hu.tail).mono (List.suffix_cons c s) fun Y => ?_
    rw [List.cons_append, untilQuote, if_neg hc, if_neg hend] <;> simp [hne]

theorem scanString_line {quote : Char} (hquote : quote ≠ '\n') (hu : Ticked u) :
    ScansLine u fun Y => scanString quote (u ++ '\n' :: Y) := by
  cases untilQuote_line hquote [] hu with
  | fails hfails => exact .faulty fun Y => by rw [scanString, hfails]; exact List.cons_ne_nil _ _
  | ends raw hv hends =>
    simp only [scanString, hends]
    cases unescape? false raw.length raw with
    | none => exact .ends _ _ hv fun Y => rfl
    | some units => exact .ends _ [] hv fun Y => rfl

theorem regexBody_line (inClass : Bool) (r : List Char) (hu : Ticked u) :
    ReadsLine u fun Y => regexBody inClass r (u ++ '\n' :: Y) := by
  fun_induction regexBody inClass r u with
  | case1 inClass r =>
    exact .fails fun Y => by rw [List.nil_append, regexBody, if_pos (by decide)]; simp
  | case2 inClass r c s hend => exact .fails fun Y => if_pos hend
  | case3 inClass r c s hend ih =>
    have hs : s <:+ '\\' :: c :: s := List.suffix_append ['\\', c] s
    exact (ih (hu.of_suffix hs)).mono hs fun Y => if_neg hend
  | case4 inClass r c s hslash hend =>
    have hne := hu.ne_backslash hslash
    exact .fails fun Y => by rw [List.cons_append, regexBody, if_pos hend]; simp [hne]
  | case5 inClass r c s hslash hend hclose =>
    have hne := hu.ne_backslash hslash
    refine .ends r.reverse (List.suffix_cons c s) fun Y => ?_
    rw [List.cons_append, regexBody, if_neg hend, if_pos hclose]
    simp [hne]
  | case6 inClass r c s hslash hend hclose ih =>
    have hne := hu.ne_backslash hslash
    refine (ih hu.tail).mono (List.suffix_cons c s) fun Y => ?_
    rw [List.cons_append, regexBody, if_neg hend, if_neg hclose]
    simp [hne]

/-- How a stretch of a template goes on that starts in front of a line break. -/
inductive StretchLine (u : List Char)
    (read : List Char → Option (List Char × Bool × List Char)) : Prop
  /-- It ends in front of it. -/
  | ends {v : List Char} (raw : List Char) (closed : Bool) (hsuffix : v <:+ u)
      (h : ∀ Y, read Y = some (raw, closed, v ++ '\n' :: Y))
  /-- The line break belongs to it. -/
  | crosses (r : List Char) (h : ∀ Y, read Y = templateStretch r Y)

theorem StretchLine.mono {read read' : List Char → Option (List Char × Bool × List Char)}
    (hread : StretchLine v read) (hsuffix : v <:+ u) (h : ∀ Y, read' Y = read Y) :
    StretchLine u read' := by
  cases hread with
  | ends raw closed hv hends =>
    exact .ends raw closed (hv.trans hsuffix) fun Y => (h Y).trans (hends Y)
  | crosses r hcrosses => exact .crosses r fun Y => (h Y).trans (hcrosses Y)

theorem templateStretch_line (r : List Char) (hu : Ticked u) :
    StretchLine u fun Y => templateStretch r (u ++ '\n' :: Y) := by
  fun_induction templateStretch r u with
  | case1 r => exact .crosses ('\n' :: r) fun Y => by rw [List.nil_append, templateStretch] <;> simp
  | case2 r c s ih =>
    have hs : s <:+ '\\' :: c :: s := List.suffix_append ['\\', c] s
    exact (ih (hu.of_suffix hs)).mono hs fun Y => rfl
  | case3 r s => exact .ends r.reverse false (List.suffix_append ['$', '{'] s) fun Y => rfl
  | case4 r s => exact .ends r.reverse true (List.suffix_cons '`' s) fun Y => rfl
  | case5 r c s hslash hsubstitution htick ih =>
    have hne := hu.ne_backslash hslash
    refine (ih hu.tail).mono (List.suffix_cons c s) fun Y => ?_
    rw [List.cons_append, templateStretch, if_neg htick]
    · simp [hne]
    · intro t hc ht
      obtain ⟨t, rfl⟩ := exists_eq_cons_of_line ht (by decide)
      exact hsubstitution t hc rfl

/-! ### Elements -/

theorem scan_line (hu : Ticked (c :: u)) (hc : c ≠ '`') :
    ScansLine (c :: u) fun Y => scan (c :: u ++ '\n' :: Y) := by
  have hsuffix : u <:+ c :: u := List.suffix_cons c u
  obtain ⟨d, t, rfl⟩ := List.exists_cons_of_ne_nil (hu.ne_nil hc)
  simp only [List.cons_append, scan, List.head?_cons, List.drop_one, List.tail_cons]
  split_ifs with hname hnumber hquote
  · exact (scanName_line _ (c :: d :: t)).mono List.suffix_rfl fun Y => rfl
  · exact (scanNumber_line (c :: d :: t)).mono List.suffix_rfl fun Y => rfl
  · have hne : c ≠ '\n' := by
      rintro rfl
      cases hquote
    exact (scanString_line hne hu.tail).mono hsuffix fun Y => rfl
  · exact (scanName_line _ (d :: t)).mono hsuffix fun Y => rfl
  · exact .ends (.fault (strayCharacter [d])) [strayCharacter [d]]
      ((List.suffix_cons d t).trans hsuffix) fun Y => rfl
  · exact (scanMark_line (List.cons_ne_nil c (d :: t))).mono List.suffix_rfl fun Y => rfl

/-- Whether an element is a stretch of a template, and then whether the template ends with it. -/
def Lexeme.closes? : Lexeme → Option Bool
  | .token (.template _ closed) => some closed
  | .continuation _ closed => some closed
  | _ => none

/-- How an element goes on that starts in front of a line break. -/
inductive ElementLine (u Y : List Char) (lexeme : Lexeme) (rest : List Char)
    (read : List Char → List Char → Prop) : Prop
  /-- It ends in front of it, whatever follows. -/
  | ends {v : List Char} (hsuffix : v <:+ u) (hrest : rest = v ++ '\n' :: Y)
      (h : ∀ Y', read Y' (v ++ '\n' :: Y'))
  /-- The line break belongs to a template. -/
  | crosses {raw : List Char} {closed : Bool} (r : List Char)
      (h : templateStretch r Y = some (raw, closed, rest)) (hcloses : lexeme.closes? = some closed)

theorem exists_template_of_scanTemplate {s rest : List Char} {token : Token}
    (h : scanTemplate s = .fine token rest) : ∃ text closed, token = .template text closed := by
  rw [scanTemplate] at h
  cases hstretch : templateStretch [] s with
  | none => simp [hstretch, Scanned.bad, Scanned.fine] at h
  | some stretch =>
    simp only [hstretch, Scanned.fine, Scanned.mk.injEq] at h
    exact ⟨_, _, h.1.symm⟩

theorem scanTemplate_line {Y rest : List Char} {lexeme : Lexeme} {text : String} {closed : Bool}
    (hu : Ticked u) (hcloses : lexeme.closes? = some closed)
    (h : scanTemplate (u ++ '\n' :: Y) = .fine (.template text closed) rest) :
    ElementLine u Y lexeme rest fun Y' rest' =>
      scanTemplate (u ++ '\n' :: Y') = .fine (.template text closed) rest' := by
  cases templateStretch_line [] hu with
  | ends raw closed' hv hends =>
    simp only [scanTemplate, hends, Scanned.fine, Scanned.mk.injEq, Token.template.injEq] at h ⊢
    exact .ends hv h.2.1.symm fun Y' => ⟨h.1, rfl, trivial⟩
  | crosses r hcrosses =>
    rw [scanTemplate, hcrosses] at h
    cases hstretch : templateStretch r Y with
    | none =>
      rw [hstretch] at h
      simp [Scanned.bad, Scanned.fine] at h
    | some stretch =>
      obtain ⟨raw, closed', rest'⟩ := stretch
      simp only [hstretch, Scanned.fine, Scanned.mk.injEq, Token.template.injEq] at h
      obtain ⟨⟨-, rfl⟩, rfl, -⟩ := h
      exact .crosses r hstretch hcloses

theorem scanRegex_line (hu : Ticked u) {Y rest : List Char} {text : String} {lexeme : Lexeme}
    (h : scanRegex (u ++ '\n' :: Y) = some (text, rest, [])) :
    ElementLine u Y lexeme rest fun Y' rest' =>
      scanRegex (u ++ '\n' :: Y') = some (text, rest', []) := by
  have hflags : continuesFlags '\n' = false := by decide
  cases regexBody_line false [] hu with
  | fails hfails =>
    rw [scanRegex, hfails] at h
    cases h
  | ends body hv hends =>
    simp only [scanRegex, hends, Option.map_some, Option.some_inj, Prod.mk.injEq,
      takeWhile_line hflags, dropWhile_line hflags] at h ⊢
    exact .ends ((List.dropWhile_suffix _).trans hv) h.2.1.symm fun Y' => ⟨h.1, rfl, h.2.2⟩

theorem ElementLine.mono {Y rest : List Char} {lexeme : Lexeme}
    {read read' : List Char → List Char → Prop} (hread : ElementLine v Y lexeme rest read)
    (hsuffix : v <:+ u) (h : ∀ Y' rest', read Y' rest' → read' Y' rest') :
    ElementLine u Y lexeme rest read' := by
  cases hread with
  | ends hv hrest hends => exact .ends (hv.trans hsuffix) hrest fun Y' => h _ _ (hends Y')
  | crosses r hstretch hcloses => exact .crosses r hstretch hcloses

/-- An element that starts in front of a line break ends there, or the line break belongs to a
template. -/
theorem Lexes.line (hu : Ticked (c :: u)) {Y rest : List Char} {lexeme : Lexeme}
    (h : Lexes (c :: u ++ '\n' :: Y) lexeme rest) :
    ElementLine (c :: u) Y lexeme rest fun Y' rest' =>
      Lexes (c :: u ++ '\n' :: Y') lexeme rest' := by
  have hsuffix : u <:+ c :: u := List.suffix_cons c u
  generalize hs : c :: u ++ '\n' :: Y = s at h
  cases h with
  | plain h =>
    subst hs
    by_cases hc : c = '`'
    · subst hc
      rw [List.cons_append, scan_backtick] at h
      obtain ⟨text, closed, rfl⟩ := exists_template_of_scanTemplate h
      exact (scanTemplate_line hu.tail rfl h).mono hsuffix fun Y' rest' h' =>
        .plain ((scan_backtick _).trans h')
    cases scan_line hu hc with
    | faulty hfaulty => exact absurd (congrArg Scanned.faults h) (hfaulty Y)
    | ends token' faults hv hends =>
      rw [hends, Scanned.fine, Scanned.mk.injEq] at h
      obtain ⟨rfl, hrest, rfl⟩ := h
      exact .ends hv hrest.symm fun Y' => .plain (hends Y')
  | joined h =>
    subst hs
    cases firstMark_line angleMarks (by decide) (c :: u) with
    | fails hfails =>
      rw [markAfterAngle, hfails] at h
      cases h
    | ends m hv hends =>
      rw [markAfterAngle, hends, Option.some_inj, Prod.mk.injEq] at h
      obtain ⟨rfl, hrest⟩ := h
      exact .ends hv hrest.symm fun Y' => .joined (hends Y')
  | split s =>
    obtain ⟨rfl, rfl⟩ := List.cons.inj hs
    exact .ends hsuffix rfl fun Y' => .split _
  | regex h =>
    obtain ⟨rfl, rfl⟩ := List.cons.inj hs
    exact (scanRegex_line hu.tail h).mono hsuffix fun Y' rest' => .regex
  | continuation h =>
    obtain ⟨rfl, rfl⟩ := List.cons.inj hs
    exact (scanTemplate_line hu.tail rfl h).mono hsuffix fun Y' rest' => .continuation

end LivePreview.Script
