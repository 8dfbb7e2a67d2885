import LivePreview.EntryPatch.Pattern
import LivePreview.Proofs.Text.Matches
import LivePreview.Proofs.Text.Search

/-!
# Patched entries

An entry that was patched is not patched again. The first patch leaves a text that names
`createApp` and mounts, and a second one would only expand mount calls. If the first expanded some,
or added a mount of its own, the text looks at the application before; if there was none to expand,
there still is none.

## Main definitions

* `LivePreview.EntryPatch.Starts`: a mount call at the start of a text.

## Main results

* `LivePreview.EntryPatch.mountCall?_eq_some_iff`, `LivePreview.EntryPatch.mem_ways_mountPattern`:
  the scan and the pattern of mount calls find the same.
* `LivePreview.EntryPatch.expandMounts_eq_replaceAll`: all matches of the pattern are expanded.
* `LivePreview.EntryPatch.patch_patch`: a patched entry is not patched again, and handles the
  application before.
-/

namespace LivePreview.EntryPatch

open Text (Pattern)

variable {call : MountCall} {s before behind : List Char}

/-! ### Mount calls -/

/-- A selector in quotes and a closing parenthesis, with what follows. -/
def Selects (selector s behind : List Char) : Prop :=
  ∃ opening id closing, s = opening :: '#' :: (id ++ closing :: ')' :: behind) ∧
    selector = '#' :: id ∧ isQuote opening = true ∧ id ≠ [] ∧
    (∀ c ∈ id, isQuote c = false) ∧ isQuote closing = true

/-- A mount call at the start of a text, with what follows it. -/
def Starts (call : MountCall) (s behind : List Char) : Prop :=
  ∃ indent arguments selector rest,
    s = indent ++ ("createApp(".toList ++ (arguments ++ (").mount(".toList ++ rest))) ∧
    (∀ c ∈ indent, Text.isBlank c = true) ∧ arguments ≠ [] ∧ ')' ∉ arguments ∧
    Selects selector rest behind ∧
    call = ⟨String.ofList indent, "createApp(" ++ String.ofList arguments ++ ")",
      String.ofList selector⟩

/-- A mount call is a statement behind its blanks. -/
theorem Starts.exists_statement (h : Starts call s behind) : ∃ statement : List Char,
    statement ≠ [] ∧ s = call.indent.toList ++ statement ++ behind := by
  obtain ⟨indent, arguments, _, _, rfl, -, -, -, ⟨opening, id, closing, rfl, -⟩, rfl⟩ := h
  exact ⟨"createApp(".toList ++ (arguments ++ (").mount(".toList ++
    (opening :: '#' :: (id ++ [closing, ')'])))), by simp, by simp⟩

theorem Starts.isSuffix (h : Starts call s behind) : ∃ text, s = text ++ behind := by
  obtain ⟨statement, -, hs⟩ := h.exists_statement
  exact ⟨_, hs⟩

theorem quotedSelector?_eq_some_iff {selector : List Char} :
    quotedSelector? s = some (selector, behind) ↔ Selects selector s behind := by
  constructor
  · intro h
    unfold quotedSelector? at h
    split at h
    · rename_i opening rest
      dsimp only at h
      split at h
      · rename_i closing behind hdrop
        split at h
        · rename_i hcond
          obtain ⟨hopening, hid⟩ := Bool.and_eq_true_iff.1 hcond
          obtain ⟨hselector, hbehind⟩ := Prod.mk.inj (Option.some.inj h)
          obtain ⟨hrest, hquotes, hclosing⟩ := Text.run_iff.1 ⟨rfl, hdrop⟩
          refine ⟨opening, _, closing, ?_, hselector.symm, hopening, by simpa using hid,
            fun c hc => by simpa using hquotes c hc, by simpa using hclosing⟩
          rw [← hbehind, ← hrest]
        · cases h
      · cases h
    · cases h
  · rintro ⟨opening, id, closing, rfl, rfl, hopening, hid, hquotes, hclosing⟩
    have hid' : (id ++ closing :: ')' :: behind).takeWhile (fun c => !isQuote c) = id :=
      Text.takeWhile_append_cons (fun c hc => by rw [hquotes c hc]; rfl) (by rw [hclosing]; rfl)
    simp only [quotedSelector?, hid', List.drop_left, hopening, Bool.true_and]
    rw [if_pos (by simpa using hid)]

theorem mountCall?_eq_some_iff : mountCall? s = some (call, behind) ↔ Starts call s behind := by
  constructor
  · intro h
    simp only [mountCall?] at h
    split at h
    · cases h
    · rename_i rest hcreate
      split at h
      · cases h
      · rename_i quoted hmount
        split at h
        · cases h
        · rename_i selector rest' hselector
          split at h
          · cases h
          · rename_i hempty
            obtain ⟨rfl, rfl⟩ := Prod.mk.inj (Option.some.inj h)
            obtain ⟨hs, hindent, -⟩ := Text.run_iff.1
              ⟨rfl, (List.isPrefixOf?_eq_some_iff_append_eq.1 hcreate).symm⟩
            obtain ⟨hrest, harguments, -⟩ := Text.run_iff.1
              ⟨rfl, (List.isPrefixOf?_eq_some_iff_append_eq.1 hmount).symm⟩
            refine ⟨_, _, selector, quoted, ?_, hindent, by simpa using hempty, fun hmem => ?_,
              quotedSelector?_eq_some_iff.1 hselector, rfl⟩
            · rw [← hrest]
              exact hs
            · simpa using harguments _ hmem
  · rintro ⟨indent, arguments, selector, rest, rfl, hindent, hempty, hclosed, hselects, rfl⟩
    obtain ⟨rest', hcreate⟩ : ∃ rest', "createApp(".toList ++
        (arguments ++ (").mount(".toList ++ rest)) = 'c' :: rest' := ⟨_, rfl⟩
    have htake : (indent ++ 'c' :: rest').takeWhile Text.isBlank = indent :=
      Text.takeWhile_append_cons hindent rfl
    have harguments : (arguments ++ ')' :: (".mount(".toList ++ rest)).takeWhile (· ≠ ')') =
        arguments := Text.takeWhile_append_cons (fun c hc => by
          have hne : c ≠ ')' := fun h => hclosed (h ▸ hc)
          simpa using hne) rfl
    have hmount : ").mount(".toList ++ rest = ')' :: (".mount(".toList ++ rest) := rfl
    rw [mountCall?]
    simp only [hcreate, htake, List.drop_left]
    rw [← hcreate, List.isPrefixOf?_eq_some_iff_append_eq.2 rfl]
    simp only [hmount, harguments, List.drop_left]
    rw [← hmount, List.isPrefixOf?_eq_some_iff_append_eq.2 rfl]
    simp only [quotedSelector?_eq_some_iff.2 hselects]
    rw [if_neg (by simpa using hempty)]

/-! ### The pattern -/

/-- The parts of a mount call that its pattern captures. -/
def MountCall.parts (call : MountCall) : List (List Char) :=
  [call.indent.toList, call.creation.toList, call.selector.toList]

theorem expansion_parts (call : MountCall) : expansion call.parts = call.expand.toList := by
  simp [expansion, MountCall.parts]

theorem reads_creationPattern : Pattern.Reads creationPattern fun text => ∃ arguments,
    text = "createApp(".toList ++ (arguments ++ [')']) ∧ arguments ≠ [] ∧ ')' ∉ arguments := by
  refine ((Pattern.reads_exactly _).seq (Pattern.reads_several.seq
    ((Pattern.reads_exactly _).seq Pattern.reads_empty))).congr fun text => ?_
  constructor
  · rintro ⟨_, _, rfl, rfl, arguments, _, rfl, ⟨hempty, hclosed⟩, _, _, rfl, rfl, rfl⟩
    exact ⟨arguments, rfl, hempty, fun h => absurd (hclosed _ h) (by decide)⟩
  · rintro ⟨arguments, rfl, hempty, hclosed⟩
    refine ⟨_, _, rfl, rfl, arguments, _, rfl, ⟨hempty, fun c hc => ?_⟩, [')'], [], rfl, rfl, rfl⟩
    exact bne_iff_ne.2 fun h => hclosed (h ▸ hc)

theorem reads_selectorPattern : Pattern.Reads selectorPattern fun text => ∃ id,
    text = '#' :: id ∧ id ≠ [] ∧ ∀ c ∈ id, isQuote c = false := by
  refine ((Pattern.reads_exactly _).seq (Pattern.reads_several.seq
    Pattern.reads_empty)).congr fun text => ?_
  constructor
  · rintro ⟨_, _, rfl, rfl, id, _, rfl, ⟨hempty, hquotes⟩, rfl⟩
    exact ⟨id, by simp, hempty, fun c hc => by simpa using hquotes c hc⟩
  · rintro ⟨id, rfl, hempty, hquotes⟩
    exact ⟨['#'], id, rfl, rfl, id, [], by simp, ⟨hempty, fun c hc => by simp [hquotes c hc]⟩, rfl⟩

/-- The pattern of mount calls matches where mount calls start. -/
theorem mem_ways_mountPattern {texts : List (List Char)} {spot : Text.Spot} :
    spot ∈ mountPattern.ways ⟨before, s, texts⟩ ↔ ∃ call text rest, s = text ++ rest ∧
      Starts call s rest ∧ spot = ⟨text.reverse ++ before, rest, texts ++ call.parts⟩ := by
  simp only [mountPattern, Pattern.inOrder, Pattern.reads_many.mem_ways_group,
    reads_creationPattern.mem_ways_group, reads_selectorPattern.mem_ways_group,
    Pattern.reads_one.mem_ways_seq, (Pattern.reads_exactly _).mem_ways_seq,
    Pattern.mem_ways_empty]
  constructor
  · rintro ⟨indent, _, rfl, hindent, _, _, rfl, ⟨arguments, rfl, hempty, hclosed⟩, _, _, rfl, rfl,
      _, _, rfl, ⟨opening, hopening, rfl⟩, _, _, rfl, ⟨id, rfl, hid, hquotes⟩, _, _, rfl,
      ⟨closing, hclosing, rfl⟩, _, rest, rfl, rfl, rfl⟩
    refine ⟨⟨String.ofList indent, "createApp(" ++ String.ofList arguments ++ ")",
      String.ofList ('#' :: id)⟩, indent ++ ("createApp(".toList ++ (arguments ++ [')'])) ++
      ".mount(".toList ++ [opening] ++ ('#' :: id) ++ [closing] ++ [')'], rest, by simp,
      ⟨indent, arguments, '#' :: id, opening :: '#' :: (id ++ closing :: ')' :: rest), by simp,
        hindent, hempty, hclosed, ⟨opening, id, closing, rfl, rfl, hopening, hid, hquotes,
        hclosing⟩, rfl⟩, by simp [MountCall.parts]⟩
  · rintro ⟨_, text, rest, rfl, ⟨indent, arguments, _, _, hs, hindent, hempty, hclosed,
      ⟨opening, id, closing, rfl, rfl, hopening, hid, hquotes, hclosing⟩, rfl⟩, rfl⟩
    obtain rfl : text = indent ++ ("createApp(".toList ++ (arguments ++ [')'])) ++
        ".mount(".toList ++ [opening] ++ ('#' :: id) ++ [closing] ++ [')'] :=
      List.append_cancel_right (hs.trans (by simp))
    refine ⟨indent, _, by simp only [List.append_assoc], hindent, _, _, rfl,
      ⟨arguments, rfl, hempty, hclosed⟩, _, _, rfl, rfl, [opening], _, rfl,
      ⟨opening, hopening, rfl⟩, '#' :: id, _, rfl, ⟨id, rfl, hid, hquotes⟩, [closing], _, rfl,
      ⟨closing, hclosing, rfl⟩, [')'], rest, rfl, rfl, by simp [MountCall.parts]⟩

/-- The pattern of mount calls matches in one way only. -/
theorem match?_mountPattern {texts : List (List Char)} {spot : Text.Spot} :
    mountPattern.match? ⟨before, s, texts⟩ = some spot ↔ ∃ call text rest, s = text ++ rest ∧
      mountCall? s = some (call, rest) ∧
      spot = ⟨text.reverse ++ before, rest, texts ++ call.parts⟩ := by
  have honly : ∀ first ∈ mountPattern.ways ⟨before, s, texts⟩,
      ∀ second ∈ mountPattern.ways ⟨before, s, texts⟩, first = second := by
    simp only [mem_ways_mountPattern, ← mountCall?_eq_some_iff]
    rintro _ ⟨call, text, rest, hs, hcall, rfl⟩ _ ⟨call', text', rest', hs', hcall', rfl⟩
    obtain ⟨rfl, rfl⟩ := Prod.mk.inj (Option.some.inj (hcall.symm.trans hcall'))
    rw [List.append_cancel_right (hs.symm.trans hs')]
  simp only [Pattern.match?_eq_some_iff_mem honly, mem_ways_mountPattern, mountCall?_eq_some_iff]

/-- A text in which the pattern is not found holds no mount call. -/
theorem search_mountPattern_eq_none_iff : mountPattern.search s = none ↔
    ∀ front rest, s = front ++ rest → mountCall? rest = none := by
  rw [← Option.not_isSome_iff_eq_none, Pattern.isSome_search_iff]
  simp only [mem_ways_mountPattern, ← mountCall?_eq_some_iff, not_exists, not_and]
  constructor
  · intro h front rest hs
    refine Option.eq_none_iff_forall_ne_some.2 fun ⟨call, behind⟩ hcall => ?_
    obtain ⟨text, rfl⟩ := (mountCall?_eq_some_iff.1 hcall).isSuffix
    exact h front _ _ hs call text behind rfl hcall rfl
  · rintro h front rest _ hs call text behind - hcall -
    simp [h front rest hs] at hcall

/-! ### Expansion -/

theorem expandFrom_nil : (pending : Nat) → expandFrom pending [] = []
  | 0 => rfl
  | _ + 1 => rfl

theorem expandFrom_zero_cons {c : Char} : expandFrom 0 (c :: s) =
    (mountCall? (c :: s)).elim (c :: expandFrom 0 s) fun found =>
      found.1.expand.toList ++ expandFrom (s.length - found.2.length) s := by
  rw [expandFrom]
  cases mountCall? (c :: s) <;> rfl

/-- The mount calls that are expanded are the matches of the pattern. -/
theorem expandFrom_eq_replaceFrom : (s before : List Char) → (pending : Nat) →
    expandFrom pending s = mountPattern.replaceFrom expansion pending before s
  | [], _, pending => by rw [expandFrom_nil, Pattern.replaceFrom]
  | c :: s, before, pending + 1 => by
      rw [Pattern.replaceFrom]
      exact expandFrom_eq_replaceFrom s _ pending
  | c :: s, before, 0 => by
      rw [expandFrom_zero_cons, Pattern.replaceFrom]
      cases hcall : mountCall? (c :: s) with
      | none =>
        have hmatch : mountPattern.match? ⟨before, c :: s, []⟩ = none :=
          Option.eq_none_iff_forall_ne_some.2 fun spot hspot => by
            obtain ⟨_, _, _, -, h, -⟩ := match?_mountPattern.1 hspot
            exact absurd (hcall.symm.trans h) (by simp)
        rw [hmatch, Option.elim_none, expandFrom_eq_replaceFrom s (c :: before) 0]
      | some found =>
        obtain ⟨call, behind⟩ := found
        obtain ⟨text, htext⟩ := (mountCall?_eq_some_iff.1 hcall).isSuffix
        have hmatch : mountPattern.match? ⟨before, c :: s, []⟩ =
            some ⟨text.reverse ++ before, behind, [] ++ call.parts⟩ :=
          match?_mountPattern.2 ⟨call, text, behind, htext, hcall, rfl⟩
        rw [hmatch, Option.elim_some]
        exact congrArg₂ (· ++ ·) (expansion_parts call).symm
          (expandFrom_eq_replaceFrom s (c :: before) _)

theorem expandMounts_eq_replaceAll (code : String) : expandMounts code =
    String.ofList (mountPattern.replaceAll expansion code.toList) :=
  congrArg String.ofList (expandFrom_eq_replaceFrom code.toList [] 0)

/-- Nothing is expanded, or the expansion of a mount call is part of the text afterwards. -/
theorem expandFrom_cases : (s : List Char) →
    (expandFrom 0 s = s ∧ ∀ front rest, s = front ++ rest → mountCall? rest = none) ∨
      ∃ call text behind, Starts call text behind ∧ call.expand.toList <:+: expandFrom 0 s
  | [] => by
      refine .inl ⟨rfl, fun front rest h => ?_⟩
      rw [(List.append_eq_nil_iff.1 h.symm).2, mountCall?]
      rfl
  | c :: s => by
      rw [expandFrom_zero_cons]
      cases hcall : mountCall? (c :: s) with
      | some found =>
        exact .inr ⟨found.1, c :: s, found.2, mountCall?_eq_some_iff.1 hcall,
          (List.prefix_append ..).isInfix⟩
      | none =>
        rw [Option.elim_none]
        rcases expandFrom_cases s with ⟨hs, hnone⟩ | ⟨call, text, behind, hstarts, hinfix⟩
        · refine .inl ⟨congrArg (c :: ·) hs, fun front rest h => ?_⟩
          cases front with
          | nil =>
            rw [← List.nil_append rest, ← h]
            exact hcall
          | cons d front => exact hnone front rest (List.cons.inj h).2
        · exact .inr ⟨call, text, behind, hstarts, List.infix_cons hinfix⟩

/-- Nothing is expanded where the pattern is not found, and else the text has an expansion of a
mount call. -/
theorem expandMounts_cases (code : String) :
    (expandMounts code = code ∧ mountPattern.search code.toList = none) ∨
      ∃ call text behind, Starts call text behind ∧
        call.expand.toList <:+: (expandMounts code).toList := by
  rw [search_mountPattern_eq_none_iff, expandMounts, String.toList_ofList]
  refine (expandFrom_cases code.toList).imp_left fun ⟨hcode, hnone⟩ => ⟨?_, hnone⟩
  rw [hcode, String.ofList_toList]

/-! ### What a patched entry holds -/

/-- The expansion of a mount call creates the application, mounts it, and unmounts the one
before. -/
theorem Starts.holds_expand (h : Starts call s behind) :
    Text.holds call.expand "createApp" = true ∧ Text.holds call.expand ".mount" = true ∧
      Text.holds call.expand "el.__vue_app__.unmount()" = true := by
  obtain ⟨indent, arguments, selector, -, -, -, -, -, -, rfl⟩ := h
  refine ⟨Text.holds_intercalate ?_ (List.mem_of_getElem? (i := 5) rfl),
    Text.holds_intercalate ?_ (List.mem_of_getElem? (i := 6) rfl),
    Text.holds_intercalate ?_ (List.mem_of_getElem? (i := 3) rfl)⟩
  · exact Text.holds_append_right (Text.holds_append_left (Text.holds_append_left rfl _) _) _
  · exact Text.holds_append_left (Text.holds_append_left (Text.holds_append_right rfl _) _) _
  · exact Text.holds_append_right rfl _

theorem holds_guardedMount (mountId : String) :
    Text.holds (guardedMount mountId) ".mount" = true ∧
      Text.holds (guardedMount mountId) "el.__vue_app__.unmount()" = true := by
  constructor
  · iterate 4 refine Text.holds_append_left ?_ _
    exact Text.holds_append_right rfl _
  · iterate 8 refine Text.holds_append_left ?_ _
    exact Text.holds_append_right rfl _

/-- What unmounts the application before, mentions it. -/
theorem mentions_of_unmounts {text : String}
    (h : Text.holds text "el.__vue_app__.unmount()" = true) :
    Text.holds text "__vue_app__" = true :=
  Text.holds_iff.2 (List.IsInfix.trans ⟨"el.".toList, ".unmount()".toList, rfl⟩
    (Text.holds_iff.1 h))

theorem holds_withImport (code framework : String) :
    Text.holds (withImport code framework) "createApp" = true := by
  rw [withImport]
  split
  · assumption
  · exact Text.holds_append_left (Text.holds_append_left (Text.holds_append_left rfl _) _) _

/-- What becomes of an entry that names `createApp`: it mounts, and it mentions the application
before unless nothing was found to expand. -/
theorem withMount_cases {code : String} (h : Text.holds code "createApp" = true)
    (mountId : String) :
    let mounted := withMount code mountId
    Text.holds mounted "createApp" = true ∧ Text.holds mounted ".mount" = true ∧
      ((Text.holds mounted "__vue_app__" = true ∧ (Text.holds code "__vue_app__" = true ∨
          Text.holds mounted "el.__vue_app__.unmount()" = true)) ∨
        (mounted = code ∧ expandMounts code = code ∧ Text.holds code ".mount" = true ∧
          mountPattern.search code.toList = none)) := by
  cases hmount : Text.holds code ".mount" with
  | false =>
    obtain ⟨hmounts, hunmounts⟩ := holds_guardedMount mountId
    have hunmounts := Text.holds_append_right hunmounts code
    simp only [withMount, hmount, if_true]
    exact ⟨Text.holds_append_left h _, Text.holds_append_right hmounts _,
      .inl ⟨mentions_of_unmounts hunmounts, .inr hunmounts⟩⟩
  | true =>
    cases hmention : Text.holds code "__vue_app__" with
    | true =>
      simp only [withMount, hmount, hmention, if_true, Bool.true_eq_false, if_false]
      exact ⟨h, trivial, .inl ⟨trivial, .inl trivial⟩⟩
    | false =>
      simp only [withMount, hmount, hmention, Bool.true_eq_false, Bool.false_eq_true, if_false]
      rcases expandMounts_cases code with ⟨hcode, hnone⟩ | ⟨call, _, _, hstarts, hinfix⟩
      · rw [hcode]
        exact ⟨h, hmount, .inr ⟨rfl, rfl, trivial, hnone⟩⟩
      · obtain ⟨hcreates, hmounts, hunmounts⟩ := hstarts.holds_expand
        have hunmounts := Text.holds_of_infix hunmounts hinfix
        exact ⟨Text.holds_of_infix hcreates hinfix, Text.holds_of_infix hmounts hinfix,
          .inl ⟨mentions_of_unmounts hunmounts, .inr hunmounts⟩⟩

/-- A patched entry is not patched again. It names `createApp` and mounts, and it handles the
application before, by a mention in the text with its import line or by unmounting it, unless that
text has a mount but no mount call that the pattern finds. -/
theorem patch_patch (code framework mountId : String) :
    patch (patch code framework mountId) framework mountId = patch code framework mountId ∧
      let imported := withImport code framework
      let patched := patch code framework mountId
      Text.holds patched "createApp" = true ∧ Text.holds patched ".mount" = true ∧
      ((Text.holds patched "__vue_app__" = true ∧ (Text.holds imported "__vue_app__" = true ∨
          Text.holds patched "el.__vue_app__.unmount()" = true)) ∨
        (Text.holds imported ".mount" = true ∧
          mountPattern.search imported.toList = none)) := by
  let imported := withImport code framework
  let patched := patch code framework mountId
  obtain ⟨hcreates, hmounts, h⟩ : Text.holds patched "createApp" = true ∧
      Text.holds patched ".mount" = true ∧ _ :=
    withMount_cases (holds_withImport code framework) mountId
  have htwice : patch patched framework mountId =
      if Text.holds patched "__vue_app__" then patched else expandMounts patched := by
    rw [patch, withImport, if_pos hcreates, withMount, if_neg (by rw [hmounts]; decide)]
  refine ⟨?_, hcreates, hmounts, h.imp_right fun ⟨_, _, hmount, hnone⟩ => ⟨hmount, hnone⟩⟩
  change patch patched framework mountId = patched
  rw [htwice]
  split
  · rfl
  · rename_i hmention
    rcases h with ⟨hmentions, -⟩ | ⟨(hcode : patched = imported), hexpand, -, -⟩
    · exact absurd hmentions hmention
    · rw [hcode, hexpand]

end LivePreview.EntryPatch
