import LivePreview.Proofs.Script.Lines

/-!
# Texts between single quotes

A text between single quotes is read back as it is exactly if no quote, backslash or line break is
in it. A quote ends the literal too soon, a line break does not let it end, and behind a backslash
several characters stand for at most one.

## Main definitions

* `LivePreview.Script.StandsForItself`: a text without such characters.

## Main results

* `LivePreview.Script.scan_quoted_iff`: such texts are those that are read back.
-/

namespace LivePreview.Script

/-- A text that stands for itself between single quotes. -/
def StandsForItself (s : List Char) : Prop := ∀ c ∈ s, c ∉ ['\'', '\\', '\n', '\r']

instance (s : List Char) : Decidable (StandsForItself s) := List.decidableBAll _ s

variable {s t rest raw : List Char} {c quote : Char} {inTemplate : Bool}

/-! ### The end of a literal -/

theorem untilQuote_append {r : List Char} (h : untilQuote quote r s = some (raw, rest)) :
    r.reverse ++ s = raw ++ quote :: rest := by
  fun_induction untilQuote quote r s with
  | case1 => cases h
  | case2 r s ih => simpa using ih h
  | case3 r c s _ ih => simpa using ih h
  | case4 r s =>
    cases h
    rfl
  | case5 => cases h
  | case6 r c s _ _ _ _ ih => simpa using ih h

theorem untilQuote_length {r : List Char} (h : untilQuote quote r s = some (raw, rest)) :
    rest.length < s.length := by
  fun_induction untilQuote quote r s with
  | case1 => cases h
  | case2 r s ih => exact Nat.lt_add_right 3 (ih h)
  | case3 r c s _ ih => exact Nat.lt_add_right 2 (ih h)
  | case4 r s =>
    cases h
    exact Nat.lt_succ_self _
  | case5 => cases h
  | case6 r c s _ _ _ _ ih => exact Nat.lt_add_right 1 (ih h)

theorem untilQuote_cons_append (hc : c ∉ ['\'', '\\', '\n', '\r']) (r t : List Char) :
    untilQuote '\'' r (c :: t) = untilQuote '\'' (c :: r) t := by
  simp only [List.mem_cons, List.not_mem_nil, or_false, not_or] at hc
  obtain ⟨hquote, hslash, hfeed, hreturn⟩ := hc
  rw [untilQuote, if_neg hquote, if_neg (by simp [hfeed, hreturn])]
  · exact fun _ h => absurd h hslash
  · exact fun _ _ h => absurd h hslash

theorem untilQuote_append_of_standsForItself : {s : List Char} → StandsForItself s →
    (r t : List Char) → untilQuote '\'' r (s ++ t) = untilQuote '\'' (s.reverse ++ r) t
  | [], _, _, _ => rfl
  | c :: s, hs, r, t => by
      rw [List.cons_append, untilQuote_cons_append (hs c List.mem_cons_self),
        untilQuote_append_of_standsForItself (fun d hd => hs d (List.mem_cons_of_mem c hd)),
        List.reverse_cons, List.append_assoc, List.singleton_append]

/-! ### What escapes stand for -/

theorem codeEscape?_suffix {n : Nat} (h : codeEscape? s = some (n, rest)) : rest <:+ s := by
  unfold codeEscape? at h
  split at h
  · rename_i t
    have hsuffix : t.dropWhile (· ≠ '}') <:+ '{' :: t :=
      (List.dropWhile_suffix _).trans (List.suffix_cons '{' t)
    split at h
    · rename_i hdrop
      rw [hdrop] at hsuffix
      split at h
      · cases h
        exact (List.suffix_cons '}' rest).trans hsuffix
      · cases h
    · cases h
  · obtain ⟨m, -, hm⟩ := Option.map_eq_some_iff.1 h
    cases hm
    exact List.drop_suffix 4 s

theorem unicodeEscape?_suffix {unit : StringUnit} (h : unicodeEscape? s = some (unit, rest)) :
    rest <:+ s := by
  unfold unicodeEscape? at h
  obtain ⟨⟨n, behind⟩, hcode, h⟩ := Option.bind_eq_some_iff.1 h
  have hbehind := codeEscape?_suffix hcode
  dsimp only at h
  split at h
  · cases h
    exact hbehind
  · rename_i t _
    have ht : t.drop 4 <:+ s := ((List.drop_suffix 4 t).trans
      (List.suffix_append ['\\', 'u'] t)).trans hbehind
    split at h
    · obtain ⟨low, -, h⟩ := Option.bind_eq_some_iff.1 h
      split at h
      · cases h
        exact ht
      · cases h
        exact hbehind
    · cases h
      exact hbehind
  · cases h
    exact hbehind

/-- An escape stands for at most one part of a string. -/
theorem escape?_length {units : List StringUnit} (h : escape? inTemplate c s = some (units, rest)) :
    units.length ≤ 1 ∧ rest <:+ s := by
  unfold escape? at h
  split at h
  · obtain ⟨n, -, hn⟩ := Option.map_eq_some_iff.1 h
    cases hn
    exact ⟨Nat.le_refl 1, List.drop_suffix 2 s⟩
  · obtain ⟨⟨unit, behind⟩, hunit, hn⟩ := Option.map_eq_some_iff.1 h
    cases hn
    exact ⟨Nat.le_refl 1, unicodeEscape?_suffix hunit⟩
  · cases h
    refine ⟨Nat.zero_le 1, ?_⟩
    split
    · exact List.drop_suffix 1 s
    · exact List.suffix_rfl
  · split_ifs at h
    · cases h
      exact ⟨Nat.zero_le 1, List.suffix_rfl⟩
    · cases h
      exact ⟨Nat.le_refl 1, List.suffix_rfl⟩
    · cases h
      exact ⟨Nat.le_refl 1, List.suffix_rfl⟩
    · cases h
      exact ⟨Nat.le_refl 1, List.drop_suffix _ s⟩
    · cases h
      exact ⟨Nat.le_refl 1, List.suffix_rfl⟩

/-- There are no more parts than characters. -/
theorem unescape?_length {fuel : Nat} {units : List StringUnit}
    (h : unescape? inTemplate fuel s = some units) : units.length ≤ s.length := by
  fun_induction unescape? inTemplate fuel s generalizing units with
  | case1 s =>
    cases h
    exact Nat.zero_le _
  | case2 =>
    cases h
    exact Nat.le_refl 0
  | case3 fuel c s ih =>
    obtain ⟨⟨first, rest⟩, hescape, h⟩ := Option.bind_eq_some_iff.1 h
    obtain ⟨more, hmore, h⟩ := Option.bind_eq_some_iff.1 h
    cases h
    obtain ⟨hfirst, hrest⟩ := escape?_length hescape
    have hlength := Nat.le_trans (ih rest hmore) hrest.length_le
    simp only [List.length_append, List.length_cons]
    omega
  | case4 fuel c s _ ih =>
    obtain ⟨more, hmore, h⟩ := Option.bind_eq_some_iff.1 h
    cases h
    exact Nat.succ_le_succ (ih hmore)

/-- Fewer, if an escape is among them. -/
theorem unescape?_length_lt {fuel : Nat} {units : List StringUnit}
    (h : unescape? inTemplate (fuel + 1) ('\\' :: c :: s) = some units) :
    units.length < ('\\' :: c :: s).length := by
  obtain ⟨⟨first, rest⟩, hescape, h⟩ := Option.bind_eq_some_iff.1 h
  obtain ⟨more, hmore, h⟩ := Option.bind_eq_some_iff.1 h
  cases h
  obtain ⟨hfirst, hrest⟩ := escape?_length hescape
  have hlength := Nat.le_trans (unescape?_length hmore) hrest.length_le
  simp only [List.length_append, List.length_cons]
  omega

/-- Characters without a backslash stand for themselves. -/
theorem unescape?_append (inTemplate : Bool) : {s : List Char} → '\\' ∉ s → (fuel : Nat) →
    (t : List Char) →
    unescape? inTemplate (s.length + fuel) (s ++ t) =
      (unescape? inTemplate fuel t).map (s.map .char ++ ·)
  | [], _, fuel, t => by simp
  | c :: s, hs, fuel, t => by
      rw [List.mem_cons, not_or] at hs
      rw [List.length_cons, Nat.add_right_comm, List.cons_append, unescape?,
        unescape?_append inTemplate hs.2 fuel t]
      · cases unescape? inTemplate fuel t <;> rfl
      · exact fun _ _ h => absurd h.symm hs.1

theorem length_of_mapM_char? {units : List StringUnit} (h : units.mapM StringValue.char? = some s) :
    units.length = s.length := by
  induction units generalizing s with
  | nil =>
    cases h
    rfl
  | cons unit units ih =>
    rw [List.mapM_cons] at h
    obtain ⟨c, -, h⟩ := Option.bind_eq_some_iff.1 h
    obtain ⟨more, hmore, h⟩ := Option.bind_eq_some_iff.1 h
    cases h
    rw [List.length_cons, List.length_cons, ih hmore]

theorem length_of_ofUnits {units : List StringUnit}
    (h : StringValue.ofUnits units = .ofText (String.ofList s)) : units.length = s.length := by
  unfold StringValue.ofUnits at h
  split at h
  · rename_i chars hchars
    rw [StringValue.ofText, StringValue.ofText, StringValue.mk.injEq, String.ofList_inj] at h
    exact h.1 ▸ length_of_mapM_char? hchars
  · rw [StringValue.ofText, StringValue.mk.injEq] at h
    cases h.2

/-! ### Literals -/

theorem scan_quote (s : List Char) : scan ('\'' :: s) = scanString '\'' s := by
  rw [scan, if_neg (by decide +kernel), if_neg (by simp), if_pos (by decide)]

/-- A literal whose value is a text, without anything wrong with it. -/
theorem scanString_eq_iff {text : List Char} :
    scanString quote s = .fine (.string (.ofText (String.ofList text))) rest ↔
      ∃ raw units, untilQuote quote [] s = some (raw, rest) ∧
        unescape? false raw.length raw = some units ∧
        StringValue.ofUnits units = .ofText (String.ofList text) := by
  rw [scanString]
  constructor
  · intro h
    split at h
    · cases h
    · rename_i raw rest' huntil
      split at h
      · rename_i units hunits
        rw [Scanned.fine, Scanned.fine, Scanned.mk.injEq, Token.string.injEq] at h
        obtain ⟨hvalue, rfl, -⟩ := h
        exact ⟨raw, units, huntil, hunits, hvalue⟩
      · rw [Scanned.fine, Scanned.mk.injEq] at h
        cases h.2.2
  · rintro ⟨raw, units, huntil, hunits, hvalue⟩
    rw [huntil]
    simp only [hunits, hvalue]

theorem scan_quoted_of_standsForItself (h : StandsForItself s) :
    scan ('\'' :: (s ++ '\'' :: rest)) = .fine (.string (.ofText (String.ofList s))) rest := by
  have hslash : '\\' ∉ s := fun hs => h _ hs (by decide)
  have hunescape := unescape?_append false hslash 0 []
  rw [Nat.add_zero, List.append_nil] at hunescape
  rw [scan_quote, scanString_eq_iff]
  refine ⟨s, s.map .char, ?_, ?_, StringValue.ofUnits_char s⟩
  · rw [untilQuote_append_of_standsForItself h, List.append_nil, untilQuote, if_pos rfl,
      List.reverse_reverse] <;> simp
  · rw [hunescape]
    simp [unescape?]

/-- The first of the characters that do not stand for themselves. -/
theorem exists_of_not_standsForItself (h : ¬StandsForItself s) : ∃ front c behind,
    s = front ++ c :: behind ∧ StandsForItself front ∧ c ∈ ['\'', '\\', '\n', '\r'] := by
  induction s with
  | nil => exact absurd (fun c hc => absurd hc List.not_mem_nil) h
  | cons c s ih =>
    by_cases hc : c ∈ ['\'', '\\', '\n', '\r']
    · exact ⟨[], c, s, rfl, fun c hc => absurd hc List.not_mem_nil, hc⟩
    · obtain ⟨front, d, behind, rfl, hfront, hd⟩ := ih fun hs => h fun d hd => by
        rcases List.mem_cons.1 hd with rfl | hd
        · exact hc
        · exact hs d hd
      refine ⟨c :: front, d, behind, rfl, fun e he => ?_, hd⟩
      rcases List.mem_cons.1 he with rfl | he
      · exact hc
      · exact hfront e he

/-- A text between single quotes is read back as it is exactly if it stands for itself. -/
theorem scan_quoted_iff :
    scan ('\'' :: (s ++ '\'' :: rest)) = .fine (.string (.ofText (String.ofList s))) rest ↔
      StandsForItself s := by
  refine ⟨fun h => by_contra fun hs => ?_, scan_quoted_of_standsForItself⟩
  obtain ⟨front, c, behind, rfl, hfront, hc⟩ := exists_of_not_standsForItself hs
  rw [scan_quote, scanString_eq_iff] at h
  obtain ⟨raw, units, huntil, hunits, hvalue⟩ := h
  obtain rfl : front ++ c :: behind = raw :=
    List.append_cancel_right (untilQuote_append huntil)
  rw [List.append_assoc, untilQuote_append_of_standsForItself hfront, List.cons_append] at huntil
  simp only [List.mem_cons, List.not_mem_nil, or_false] at hc
  rcases hc with rfl | rfl | rfl | rfl
  · rw [untilQuote, if_pos rfl, Option.some_inj, Prod.mk.injEq] at huntil
    · have hlength := congrArg List.length huntil.2
      simp only [List.length_append, List.length_cons] at hlength
      omega
    · simp
    · simp
  · cases behind with
    | nil =>
      -- The backslash makes the closing quote a part of the literal.
      rw [List.nil_append, untilQuote] at huntil
      · exact Nat.lt_irrefl _ (untilQuote_length huntil)
      · simp
    | cons d behind =>
      -- The escape leaves fewer parts than the text has characters.
      have hslash : '\\' ∉ front := fun h => hfront _ h (by decide)
      rw [List.length_append, unescape?_append false hslash] at hunits
      obtain ⟨more, hmore, rfl⟩ := Option.map_eq_some_iff.1 hunits
      have hlength := length_of_ofUnits hvalue
      have hless := unescape?_length_lt hmore
      simp only [List.length_append, List.length_map] at hlength
      omega
  · rw [untilQuote, if_neg (by decide), if_pos (by decide)] at huntil
    · cases huntil
    · simp
    · simp
  · rw [untilQuote, if_neg (by decide), if_pos (by decide)] at huntil
    · cases huntil
    · simp
    · simp

end LivePreview.Script
