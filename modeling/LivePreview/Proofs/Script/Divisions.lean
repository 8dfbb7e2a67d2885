import LivePreview.Proofs.Script.Lines

/-!
# Divisions of a script at a line break

A script is divided up to a line break in ways that do not hang on what follows, as long as what
follows neither closes a comment nor ends a template that is open there. Tokens whose first sign can
be read in one way only are the same in all of them.

## Main definitions

* `LivePreview.Script.ReadsAs`: tokens that are the only elements at their places.

## Main results

* `LivePreview.Script.Divides.backtick_mem`: an open template has to end.
* `LivePreview.Script.Divides.line`: a division is one in front of the line break and one behind it.
* `LivePreview.Script.ReadsAs.divides_iff`: every division starts with such tokens.
-/

namespace LivePreview.Script

variable {g : Gap} {depth depth' : Nat} {s rest : List Char} {lexeme : Lexeme} {es : List Element}

/-! ### What is left behind an element -/

theorem gap_suffix (afterOpening : Bool) (mode : GapMode) (g : Gap) (s : List Char) :
    (gap afterOpening mode g s).2.1 <:+ s := by
  fun_induction gap afterOpening mode g s with
  | case1 g s ih => exact ih.trans (List.suffix_append ['/', '/'] s)
  | case2 g s ih => exact ih.trans (List.suffix_append ['/', '*'] s)
  | case10 r g s ih => exact ih.trans (List.suffix_append ['*', '/'] s)
  | case3 g c s _ _ _ ih | case4 g c s _ _ _ _ ih | case7 r g c s _ ih | case8 r g c s _ ih
  | case11 r g c s _ ih => exact ih.trans (List.suffix_cons c s)
  | case5 | case6 | case9 | case12 => exact List.suffix_rfl

/-- A comment stays open without its closing sign. -/
theorem gap_block_open (afterOpening : Bool) (g : Gap) : (r : List Char) → {s : List Char} →
    ¬['*', '/'] <:+: s → (gap afterOpening (.block r) g s).2.2 = true
  | _, [], _ => rfl
  | r, c :: s, h => by
      rw [gap]
      · exact gap_block_open afterOpening g (c :: r) fun hs =>
          h (hs.trans (List.suffix_cons c s).isInfix)
      · rintro t rfl rfl
        exact h ⟨[], t, rfl⟩

/-- A template ends with a backtick. -/
theorem templateStretch_suffix {r raw : List Char} {closed : Bool}
    (h : templateStretch r s = some (raw, closed, rest)) :
    rest <:+ s ∧ (closed = true → '`' ∈ s) := by
  fun_induction templateStretch r s with
  | case1 => cases h
  | case2 r c s ih =>
    have hs : s <:+ '\\' :: c :: s := List.suffix_append ['\\', c] s
    exact ⟨(ih h).1.trans hs, fun hclosed => hs.subset ((ih h).2 hclosed)⟩
  | case3 r s =>
    cases h
    exact ⟨List.suffix_append ['$', '{'] rest, fun hclosed => by cases hclosed⟩
  | case4 r s =>
    cases h
    exact ⟨List.suffix_cons '`' rest, fun _ => List.mem_cons_self⟩
  | case5 r c s _ _ _ ih =>
    exact ⟨(ih h).1.trans (List.suffix_cons c s), fun hclosed =>
      List.mem_cons_of_mem c ((ih h).2 hclosed)⟩

/-- A template that does not end with an element is open behind it. -/
theorem pos_of_closes? (hcloses : lexeme.closes? = some false)
    (hdepth : lexeme.depthBehind? depth = some depth') : 0 < depth' := by
  cases lexeme with
  | regex text => cases hcloses
  | continuation raw closed =>
    cases hcloses
    cases depth with
    | zero => cases hdepth
    | succ depth =>
      cases hdepth
      exact Nat.zero_lt_succ depth
  | token token =>
    cases token with
    | template raw closed =>
      cases hcloses
      cases hdepth
      exact Nat.zero_lt_succ depth
    | _ => cases hcloses

/-- What is open is closed at the end of a template. -/
theorem exists_continuation_of_depthBehind? (hpos : 0 < depth)
    (hdepth : lexeme.depthBehind? depth = some 0) : ∃ raw, lexeme = .continuation raw true := by
  obtain ⟨depth, rfl⟩ := Nat.exists_eq_succ_of_ne_zero hpos.ne'
  cases lexeme with
  | regex text => cases hdepth
  | continuation raw closed =>
    cases closed with
    | true => exact ⟨raw, rfl⟩
    | false => cases hdepth
  | token token =>
    cases token with
    | template raw closed => cases closed <;> cases hdepth
    | _ => cases hdepth

/-- An open template has to end. -/
theorem Divides.backtick_mem (h : Divides g depth s es) (hpos : 0 < depth) : '`' ∈ s := by
  induction h with
  | done => exact absurd hpos (lt_irrefl 0)
  | @cons g g' depth depth' s written rest lexeme es hgap hwritten hlexes hdepth hrest ih =>
    have hsuffix : written ++ rest <:+ s := by
      have hsuffix := gap_suffix false .blank g s
      rwa [hgap] at hsuffix
    refine hsuffix.subset ?_
    rcases Nat.eq_zero_or_pos depth' with rfl | hpos'
    · obtain ⟨raw, rfl⟩ := exists_continuation_of_depthBehind? hpos hdepth
      generalize written ++ rest = t at hlexes
      cases hlexes with
      | @continuation t _ _ _ h =>
        rw [scanTemplate] at h
        cases hstretch : templateStretch [] t with
        | none => simp [hstretch, Scanned.bad, Scanned.fine] at h
        | some stretch =>
          obtain ⟨raw', closed, rest'⟩ := stretch
          simp only [hstretch, Scanned.fine, Scanned.mk.injEq, Token.template.injEq] at h
          exact List.mem_cons_of_mem _ ((templateStretch_suffix hstretch).2 h.1.2)
    · exact List.mem_append_right written (ih hpos')

theorem Divides.depth_eq_zero (h : Divides g depth s es) (hbacktick : '`' ∉ s) : depth = 0 :=
  Nat.eq_zero_of_not_pos fun hpos => hbacktick (h.backtick_mem hpos)

/-! ### The line break -/

/-- What is divided hangs on the gap in front only by what that leaves. -/
theorem Divides.of_gap_eq {g' : Gap} {s' : List Char} (h : Divides g depth s es)
    (hgap : gap false .blank g' s' = gap false .blank g s) : Divides g' depth s' es := by
  cases h with
  | done hdone => exact .done (hgap.trans hdone)
  | cons hcons hwritten hlexes hdepth hrest =>
    exact .cons (hgap.trans hcons) hwritten hlexes hdepth hrest

/-- A division of a text with a line break behind a backtick is one in front of the line break and
one behind it, which can be exchanged for one of any other text. -/
theorem Divides.line {u Y : List Char} (hu : Ticked u) (hbacktick : '`' ∉ Y)
    (hcomment : ¬['*', '/'] <:+: Y) (h : Divides g depth (u ++ '\n' :: Y) es) :
    ∃ g' front behind, es = front ++ behind ∧ Divides g' 0 Y behind ∧
      ∀ Y' behind', Divides g' 0 Y' behind' →
        Divides g depth (u ++ '\n' :: Y') (front ++ behind') := by
  generalize hs : u ++ '\n' :: Y = s at h
  induction h generalizing u with
  | @done g g' s hgap =>
    subst hs
    cases gapLine false .blank g u with
    | ends g'' hne hv hends =>
      rw [hends] at hgap
      simp at hgap
    | passes g'' hpasses =>
      exact ⟨g'', [], [], rfl, .done (hpasses Y ▸ hgap), fun Y' behind' h =>
        h.of_gap_eq (hpasses Y')⟩
    | encloses g'' r hencloses =>
      have hopen := gap_block_open false g'' r hcomment
      rw [← hencloses, hgap] at hopen
      cases hopen
  | @cons g g' depth depth' s written rest lexeme es hgap hwritten hlexes hdepth hrest ih =>
    subst hs
    cases gapLine false .blank g u with
    | @ends v g'' hne hv hends =>
      rw [hends, Prod.mk.injEq, Prod.mk.injEq] at hgap
      obtain ⟨rfl, heq, -⟩ := hgap
      obtain ⟨c, v, rfl⟩ := List.exists_cons_of_ne_nil hne
      rw [← heq] at hlexes
      cases hlexes.line (hu.of_suffix hv) with
      | @ends v' hv' hrest' hends' =>
        subst hrest'
        obtain ⟨w, hw⟩ := hv'
        obtain rfl : w = written := by
          rw [← hw, List.append_assoc] at heq
          exact List.append_cancel_right heq
        have hsuffix : v' <:+ u := (hw ▸ List.suffix_append w v').trans hv
        obtain ⟨g', front, behind, rfl, hbehind, hswap⟩ := ih (hu.of_suffix hsuffix) rfl
        refine ⟨g', _ :: front, behind, rfl, hbehind, fun Y' behind' h => ?_⟩
        have heq' : w ++ (v' ++ '\n' :: Y') = c :: v ++ '\n' :: Y' := by
          rw [← List.append_assoc, hw]
        exact .cons (by rw [hends, heq']) hwritten (heq' ▸ hends' Y') hdepth (hswap Y' behind' h)
      | @crosses raw closed r hstretch hcloses =>
        -- Nothing behind the line break ends the template that is open there.
        obtain ⟨hsuffix, hclosed⟩ := templateStretch_suffix hstretch
        obtain rfl : closed = false :=
          Bool.eq_false_iff.2 fun hclose => hbacktick (hclosed hclose)
        exact absurd (hsuffix.subset (hrest.backtick_mem (pos_of_closes? hcloses hdepth))) hbacktick
    | passes g'' hpasses =>
      have hbehind : Divides g'' depth Y _ :=
        .cons (hpasses Y ▸ hgap) hwritten hlexes hdepth hrest
      obtain rfl := hbehind.depth_eq_zero hbacktick
      exact ⟨g'', [], _, rfl, hbehind, fun Y' behind' h => h.of_gap_eq (hpasses Y')⟩
    | encloses g'' r hencloses =>
      have hopen := gap_block_open false g'' r hcomment
      rw [← hencloses, hgap] at hopen
      cases hopen

/-! ### Elements that are the only ones at their places -/

variable {token : Token}

/-- Where a text starts with none of the signs that can be read in several ways, only its token
is there. -/
theorem lexes_iff_of_scan {c : Char} (hc : c ∉ ['<', '>', '/', '}'])
    (hscan : scan (c :: s) = .fine token rest) {rest' : List Char} :
    Lexes (c :: s) lexeme rest' ↔ lexeme = .token token ∧ rest' = rest := by
  constructor
  · intro h
    generalize ht : c :: s = t at h hscan
    cases h with
    | plain h =>
      rw [hscan, Scanned.fine, Scanned.fine, Scanned.mk.injEq] at h
      exact ⟨congrArg Lexeme.token h.1.symm, h.2.1.symm⟩
    | joined h =>
      obtain ⟨m, hm, -⟩ := Option.map_eq_some_iff.1 h
      have hprefix := List.find?_some hm
      have hangle : ∀ m ∈ angleMarks, m.head? = some '>' := by decide
      obtain ⟨more, rfl⟩ := List.head?_eq_some_iff.1 (hangle m (List.mem_of_find?_eq_some hm))
      rw [List.isPrefixOf_iff_prefix, ← ht, List.cons_prefix_cons] at hprefix
      rw [← hprefix.1] at hc
      simp at hc
    | split | regex | continuation =>
      cases ht
      simp at hc
  · rintro ⟨rfl, rfl⟩
    exact .plain hscan

/-- Tokens that are the only elements at their places, from the start of a text on, with at most
blanks between them. -/
inductive ReadsAs : Gap → List Char → List Element → List Char → Prop
  /-- No element. -/
  | nil (s : List Char) : ReadsAs (.start false) s [] s
  /-- A token and what follows. -/
  | cons {g : Gap} {c : Char} {s written rest behind : List Char} {token : Token}
      {es : List Element} (hgap : gap false .blank g s = (g, c :: written ++ rest, false))
      (hc : c ∉ ['<', '>', '/', '}']) (hscan : scan (c :: written ++ rest) = .fine token rest)
      (hdepth : ∀ depth, (Lexeme.token token).depthBehind? depth = some depth)
      (hrest : ReadsAs (.start false) rest es behind) :
      ReadsAs g s (⟨g.onNewLine, c :: written, .token token⟩ :: es) behind

/-- Every division of a text starts with such tokens. -/
theorem ReadsAs.divides_iff {behind : List Char} {front es : List Element}
    (h : ReadsAs g s front behind) : Divides g depth s es ↔
      ∃ es', es = front ++ es' ∧ Divides (.start false) depth behind es' := by
  induction h generalizing es with
  | nil s => simp
  | @cons g c s written rest behind token front hgap hc hscan hdepth hrest ih =>
    constructor
    · intro h
      cases h with
      | done hdone =>
        rw [hgap] at hdone
        simp at hdone
      | @cons _ g' _ depth' _ written' rest' lexeme es hgap' hwritten hlexes hdepth' hrest' =>
        rw [hgap, Prod.mk.injEq, Prod.mk.injEq] at hgap'
        obtain ⟨rfl, heq, -⟩ := hgap'
        rw [← heq] at hlexes
        obtain ⟨rfl, rfl⟩ := (lexes_iff_of_scan hc hscan).1 hlexes
        obtain rfl := List.append_cancel_right heq
        rw [hdepth, Option.some_inj] at hdepth'
        subst hdepth'
        obtain ⟨es', rfl, hbehind⟩ := ih.1 hrest'
        exact ⟨es', rfl, hbehind⟩
    · rintro ⟨es', rfl, hbehind⟩
      exact .cons hgap (List.cons_ne_nil c written) (.plain hscan) (hdepth depth)
        (ih.2 ⟨es', rfl, hbehind⟩)

/-! ### Exchanged literals -/

theorem Exchanged.append_left {es es' : List Element} (h : Exchanged es es') :
    (front : List Element) → Exchanged (front ++ es) (front ++ es')
  | [] => h
  | e :: front => .there e (h.append_left front)

end LivePreview.Script
