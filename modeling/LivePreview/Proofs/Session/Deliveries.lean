import LivePreview.Proofs.Session.Coherence
import LivePreview.Script
import Mathlib.Data.Finset.Basic
import Mathlib.Data.Finset.Dedup
import Mathlib.Data.Set.Function

/-!
# The order of responses

Responses may arrive in any order and more than once. Those that come too late are dropped, so each
number takes effect at most once, and what takes effect does so in ascending order. While the
surface shows all documents, the response with the highest number decides how a session ends; what
was shown on the way makes no difference.

## Main definitions

* `LivePreview.deliveries`: the steps in which responses arrive.
* `LivePreview.Session.Presents`: an artifact is in the slot and on the surface.

## Main results

* `LivePreview.Session.applyResult_of_code`: how a code is taken by a surface that shows it.
* `LivePreview.Session.exists_applyResult_eq`: what a response changes.
* `LivePreview.Session.deliveries_agree`: the order of deliveries makes no difference.
-/

namespace LivePreview

/-! ### Deliveries -/

/-- The steps in which responses arrive at some instants. -/
def deliveries {δ σ : Type} (l : List (Nat × Response)) : List (Nat × Step δ σ) :=
  l.map fun d => (d.1, .deliver d.2)

/-- The deliveries bring each of some responses at least once, and no others. -/
def Delivers (l : List (Nat × Response)) (responses : Finset Response) : Prop :=
  ∀ r, r ∈ responses ↔ ∃ now, (now, r) ∈ l

theorem delivers_iff {l : List (Nat × Response)} {responses : Finset Response} :
    Delivers l responses ↔ (l.map (·.2)).toFinset = responses := by
  simp [Delivers, Finset.ext_iff, iff_comm]

namespace Session

variable {δ σ : Type} [CompileUnit δ] [Surface σ] {s : Session δ σ} {config : Config}
  {h : History} {now : Nat}

/-! ### One response -/

omit [Surface σ] [CompileUnit δ] in
theorem eq_of_remembers {r : Renderer σ} (hphase : r.phase = .idle) {fp : Fingerprint}
    (hfp : r.lastInjected = some fp) : { r with phase := .idle, lastInjected := some fp } = r := by
  cases r
  simp_all

/-- A code that is not stale takes the slot, and an idle renderer whose surface shows everything
remembers it. Its document is handed over unless it is showing already. -/
theorem applyResult_of_code (hphase : s.renderer.phase = .idle)
    (hall : ShowsAll s.renderer.surface) {n : Nat} (hnew : s.stale n = false) (text : String)
    (now : Nat) :
    ∃ surface, ShowsAll surface ∧
      s.applyResult ⟨n, .code text⟩ now =
        { s with
          renderer := { s.renderer with
            surface := surface
            phase := .idle
            lastInjected := some (Fingerprint.ofText text) }
          artifact := some (Artifact.ofCode text n)
          error := none
          lastApplied := some n } ∧
      s.resultEffects ⟨n, .code text⟩ now =
        if s.renderer.lastInjected = some (Fingerprint.ofText text) then []
        else [.document (Document.build text s.renderer.config) true] := by
  have hphase' : ¬ s.renderer.phase = .resetting := by simp [hphase]
  have hfp : (Artifact.ofCode text n).fingerprint = Fingerprint.ofText text := rfl
  by_cases hremembers : s.renderer.lastInjected = some (Fingerprint.ofText text)
  · refine ⟨s.renderer.surface, hall, ?_, ?_⟩
    · simp only [applyResult, hnew, takeOutcome, render, Renderer.update, hphase', hfp, hremembers,
        Bool.false_eq_true, if_false, and_self, if_true, eq_of_remembers hphase hremembers]
    · simp only [resultEffects, hnew, outcomeEffects, renderEffects, Renderer.updateEffects,
        Renderer.update, hphase', hfp, hremembers, Bool.false_eq_true, if_false, and_self, if_true,
        List.append_nil]
  · obtain ⟨surface, hsurface, hall'⟩ :=
      hall.present (Document.build text s.renderer.config)
    have hcode : (Artifact.ofCode text n).code = text := rfl
    refine ⟨surface, hall', ?_, ?_⟩
    · simp only [applyResult, hnew, takeOutcome, render, Renderer.update, hphase', hfp, hremembers,
        Renderer.inject, hcode, hsurface, Bool.false_eq_true, if_false, and_false]
    · simp only [resultEffects, hnew, outcomeEffects, renderEffects, Renderer.updateEffects,
        Renderer.update, hphase', hfp, hremembers, Renderer.inject, hcode, hsurface,
        Bool.false_eq_true, if_false, and_false, List.append_nil]

/-- A response has no part in edits and requests. It becomes the last applied one, if it is not
stale. -/
theorem exists_applyResult_eq (hphase : s.renderer.phase = .idle)
    (hall : ShowsAll s.renderer.surface) (r : Response) (now : Nat) :
    ∃ renderer artifact error, s.applyResult r now =
      { s with
        renderer := renderer
        artifact := artifact
        error := error
        lastApplied := if s.stale r.sequence then s.lastApplied else some r.sequence } := by
  obtain ⟨n, outcome⟩ := r
  cases hstale : s.stale n with
  | true => exact ⟨s.renderer, s.artifact, s.error, by simp [applyResult, hstale]⟩
  | false =>
    cases outcome with
    | error message =>
      exact ⟨s.renderer, s.artifact, some (.compile message),
        by simp [applyResult, hstale, takeOutcome]⟩
    | code text =>
      obtain ⟨surface, -, hresult, -⟩ := applyResult_of_code hphase hall hstale text now
      exact ⟨_, _, _, hresult⟩

theorem lastApplied_applyResult (hphase : s.renderer.phase = .idle)
    (hall : ShowsAll s.renderer.surface) (r : Response) :
    (s.applyResult r now).lastApplied =
      if s.stale r.sequence then s.lastApplied else some r.sequence := by
  obtain ⟨_, _, _, heq⟩ := exists_applyResult_eq hphase hall r now
  rw [heq]

theorem applyResult_frame (hphase : s.renderer.phase = .idle)
    (hall : ShowsAll s.renderer.surface) (r : Response) (now : Nat) :
    (s.applyResult r now).unit = s.unit ∧
      (s.applyResult r now).nextSequence = s.nextSequence ∧
        (s.applyResult r now).files = s.files ∧
          (s.applyResult r now).scheduler = s.scheduler := by
  obtain ⟨_, _, _, heq⟩ := exists_applyResult_eq hphase hall r now
  rw [heq]
  exact ⟨rfl, rfl, rfl, rfl⟩

/-- The only effect of a response is a document that is shown. -/
theorem resultEffects_cases (hphase : s.renderer.phase = .idle)
    (hall : ShowsAll s.renderer.surface) (r : Response) (now : Nat) :
    s.resultEffects r now = [] ∨ ∃ html, s.resultEffects r now = [.document html true] := by
  obtain ⟨n, outcome⟩ := r
  cases hstale : s.stale n with
  | true => simp [resultEffects, hstale]
  | false =>
    cases outcome with
    | error message => simp [resultEffects, hstale, outcomeEffects]
    | code text =>
      obtain ⟨surface, -, -, heffects⟩ := applyResult_of_code hphase hall hstale text now
      rw [heffects]
      split
      · exact .inl rfl
      · exact .inr ⟨_, rfl⟩

/-! ### Sessions whose surface shows everything -/

/-- The renderer is idle, the surface shows everything, and the renderer remembers only the code
that is showing, which is of some kind. -/
structure Receptive (config : Config) (codes : Set String) (h : History) (s : Session δ σ) :
    Prop where
  /-- The renderer is idle. -/
  phase : s.renderer.phase = .idle
  /-- The settings are the ones given. -/
  settings : s.renderer.config = config
  /-- The surface shows everything. -/
  showsAll : ShowsAll s.renderer.surface
  /-- What the renderer remembers is the fingerprint of the code that is showing. -/
  showing : ∀ fp, s.renderer.lastInjected = some fp →
    ∃ code ∈ codes, Fingerprint.ofText code = fp ∧
      h.lastShown = some (Document.build code config)

/-- An artifact is in the slot, its document is on the surface, and the renderer remembers that. -/
structure Presents (config : Config) (h : History) (s : Session δ σ) (a : Artifact) : Prop where
  /-- The artifact is in the slot. -/
  artifact : s.artifact = some a
  /-- The renderer remembers its fingerprint. -/
  remembered : s.renderer.lastInjected = some a.fingerprint
  /-- Its document is the last one that the surface accepted. -/
  shown : h.lastShown = some (Document.build a.code config)

variable {codes : Set String}

/-- A code that is not stale is presented, if fingerprints tell the codes apart. -/
theorem Receptive.presents (hs : Receptive config codes h s)
    (hcodes : Set.InjOn Fingerprint.ofText codes) {n : Nat} (hnew : s.stale n = false)
    {text : String} (htext : text ∈ codes) (now : Nat) :
    Presents config (h ++ (s.resultEffects ⟨n, .code text⟩ now).map (now, ·))
        (s.applyResult ⟨n, .code text⟩ now) (Artifact.ofCode text n) ∧
      (s.applyResult ⟨n, .code text⟩ now).error = none := by
  obtain ⟨surface, -, hresult, heffects⟩ :=
    applyResult_of_code hs.phase hs.showsAll hnew text now
  rw [hresult, heffects]
  refine ⟨⟨rfl, rfl, ?_⟩, rfl⟩
  split
  · -- The document stays, and only this code has its fingerprint.
    rename_i hremembers
    obtain ⟨code, hcode, hfp, hshown⟩ := hs.showing _ hremembers
    obtain rfl := hcodes hcode htext hfp
    simpa [Artifact.ofCode] using hshown
  · rw [← hs.settings]
    exact History.lastShown_concat rfl

/-- Responses leave a session receptive. -/
theorem Receptive.applyResult (hs : Receptive config codes h s) {r : Response}
    (hr : ∀ text, r.outcome = .code text → text ∈ codes) (now : Nat) :
    Receptive config codes (h ++ (s.resultEffects r now).map (now, ·))
      (s.applyResult r now) := by
  obtain ⟨n, outcome⟩ := r
  cases hstale : s.stale n with
  | true => simpa [Session.applyResult, resultEffects, hstale] using hs
  | false =>
    cases outcome with
    | error message =>
      have hnil : s.resultEffects ⟨n, .error message⟩ now = [] := by
        simp [resultEffects, hstale, outcomeEffects]
      have hresult : (s.applyResult ⟨n, .error message⟩ now).renderer = s.renderer := by
        simp [Session.applyResult, hstale, takeOutcome]
      rw [hnil, List.map_nil, List.append_nil]
      exact ⟨hresult ▸ hs.phase, hresult ▸ hs.settings, hresult ▸ hs.showsAll,
        hresult ▸ hs.showing⟩
    | code text =>
      obtain ⟨surface, hall, hresult, heffects⟩ :=
        applyResult_of_code hs.phase hs.showsAll hstale text now
      rw [hresult, heffects]
      refine ⟨rfl, hs.settings, hall, fun fp hfp => ?_⟩
      obtain rfl := Option.some.inj hfp
      split
      · rename_i hremembers
        simpa using hs.showing _ hremembers
      · refine ⟨text, hr text rfl, rfl, ?_⟩
        rw [← hs.settings]
        exact History.lastShown_concat rfl

/-! ### Deliveries one after another -/

variable {l : List (Nat × Response)} {r : Response}

/-- After a response, the numbers up to its own are stale besides those that were. -/
theorem Receptive.stale_applyResult (hs : Receptive config codes h s) {n : Nat} :
    (s.applyResult r now).stale n = true ↔ s.stale n = true ∨ n ≤ r.sequence := by
  rw [stale_eq_true_iff, lastApplied_applyResult hs.phase hs.showsAll]
  cases hr : s.stale r.sequence with
  | true =>
    obtain ⟨last, hlast, hle⟩ := stale_eq_true_iff.1 hr
    rw [if_pos rfl, ← stale_eq_true_iff]
    refine ⟨.inl, fun hn => hn.elim id fun hn => ?_⟩
    exact stale_eq_true_iff.2 ⟨last, hlast, hn.trans hle⟩
  | false =>
    rw [if_neg (by simp)]
    constructor
    · rintro ⟨last, hlast, hle⟩
      exact .inr (Option.some.inj hlast ▸ hle)
    · rintro (hn | hn)
      · exact ⟨_, rfl, (lt_of_stale hn hr).le⟩
      · exact ⟨_, rfl, hn⟩

/-- Stale responses change nothing. -/
theorem after_deliveries_of_stale (hl : ∀ d ∈ l, s.stale d.2.sequence = true) :
    s.after (deliveries l) = s ∧ s.history (deliveries l) = [] := by
  induction l with
  | nil => exact ⟨rfl, rfl⟩
  | cons d rest ih =>
    have hstale := hl d List.mem_cons_self
    have hresult : s.applyResult d.2 d.1 = s := by simp [Session.applyResult, hstale]
    have heffects : s.resultEffects d.2 d.1 = [] := by simp [resultEffects, hstale]
    have hafter : s.after (deliveries (d :: rest)) =
        (s.applyResult d.2 d.1).after (deliveries rest) := rfl
    have hhistory : s.history (deliveries (d :: rest)) =
        (s.resultEffects d.2 d.1).map (d.1, ·) ++
          (s.applyResult d.2 d.1).history (deliveries rest) := rfl
    rw [hafter, hhistory, hresult, heffects]
    exact ih fun d' hd' => hl d' (List.mem_cons_of_mem d hd')

/-- Deliveries leave a session receptive, and stale what is stale. -/
theorem Receptive.deliveries (hs : Receptive config codes h s)
    (hl : ∀ d ∈ l, ∀ text, d.2.outcome = .code text → text ∈ codes) :
    Receptive config codes (h ++ s.history (deliveries l)) (s.after (deliveries l)) ∧
      ∀ n, s.stale n = true → (s.after (LivePreview.deliveries l)).stale n = true := by
  induction l generalizing h s with
  | nil => exact ⟨by simpa [LivePreview.deliveries, history, after] using hs, fun _ => id⟩
  | cons d rest ih =>
    obtain ⟨hrest, hstale⟩ := ih (hs.applyResult (hl d List.mem_cons_self) d.1)
      fun d' hd' => hl d' (List.mem_cons_of_mem d hd')
    refine ⟨?_, fun n hn => hstale n (hs.stale_applyResult.2 (.inl hn))⟩
    rw [List.append_assoc] at hrest
    exact hrest

/-- The response with the highest number, once it is among the deliveries, is the last applied one
at the end, and its code is presented. -/
theorem Receptive.deliveries_highest (hs : Receptive config codes h s)
    {responses : Finset Response} (hdistinct : Set.InjOn Response.sequence responses)
    {top : Response} (htop : top ∈ responses)
    (hmax : ∀ r ∈ responses, r.sequence ≤ top.sequence) (hnew : s.stale top.sequence = false)
    (hl : ∀ d ∈ l, d.2 ∈ responses) (hmem : ∃ now, (now, top) ∈ l)
    (hr : ∀ r ∈ responses, ∀ text, r.outcome = .code text → text ∈ codes) :
    (s.after (LivePreview.deliveries l)).lastApplied = some top.sequence ∧
      ∀ text, top.outcome = .code text → Set.InjOn Fingerprint.ofText codes →
        Presents config (h ++ s.history (LivePreview.deliveries l))
            (s.after (LivePreview.deliveries l)) (Artifact.ofCode text top.sequence) ∧
          (s.after (LivePreview.deliveries l)).error = none := by
  induction l generalizing h s with
  | nil => simp at hmem
  | cons d rest ih =>
    obtain ⟨now, r⟩ := d
    have hresponse : r ∈ responses := hl (now, r) List.mem_cons_self
    have hrest : ∀ d ∈ rest, d.2 ∈ responses := fun d hd => hl d (List.mem_cons_of_mem _ hd)
    have hs' := hs.applyResult (hr r hresponse) now
    have hafter : s.after (LivePreview.deliveries ((now, r) :: rest)) =
        (s.applyResult r now).after (LivePreview.deliveries rest) := rfl
    have hhistory : h ++ s.history (LivePreview.deliveries ((now, r) :: rest)) =
        h ++ (s.resultEffects r now).map (now, ·) ++
          (s.applyResult r now).history (LivePreview.deliveries rest) :=
      (List.append_assoc _ _ _).symm
    rw [hafter, hhistory]
    by_cases heq : r = top
    · -- Now it takes effect, and all that follows is stale.
      subst heq
      obtain ⟨hsame, hempty⟩ := after_deliveries_of_stale (s := s.applyResult r now) (l := rest)
        fun d hd => hs.stale_applyResult.2 (.inr (hmax d.2 (hrest d hd)))
      rw [hsame, hempty, List.append_nil]
      refine ⟨?_, fun text htext hcodes => ?_⟩
      · rw [lastApplied_applyResult hs.phase hs.showsAll, hnew, if_neg (by simp)]
      · obtain ⟨n, outcome⟩ := r
        obtain rfl : outcome = .code text := htext
        exact hs.presents hcodes hnew (hr _ hresponse text rfl) now
    · -- It is newer than this one, and still to come.
      have hlt : r.sequence < top.sequence :=
        Nat.lt_of_le_of_ne (hmax r hresponse) fun h => heq (hdistinct hresponse htop h)
      have hnew' : (s.applyResult r now).stale top.sequence = false := by
        rw [Bool.eq_false_iff, Ne, hs.stale_applyResult, hnew]
        simpa using hlt
      refine ih hs' hnew' hrest ?_
      obtain ⟨later, hlater⟩ := hmem
      refine ⟨later, (List.mem_cons.1 hlater).resolve_left fun h => heq ?_⟩
      exact (Prod.mk.inj h).2.symm

/-- Deliveries of some responses leave the highest number applied that there has been. -/
theorem Receptive.lastApplied_deliveries (hs : Receptive config codes h s)
    {responses : Finset Response} (hdistinct : Set.InjOn Response.sequence responses)
    {top : Response} (htop : top ∈ responses)
    (hmax : ∀ r ∈ responses, r.sequence ≤ top.sequence)
    (hl : ∀ d ∈ l, d.2 ∈ responses) (hmem : ∃ now, (now, top) ∈ l)
    (hr : ∀ r ∈ responses, ∀ text, r.outcome = .code text → text ∈ codes) :
    (s.after (LivePreview.deliveries l)).lastApplied =
      some (s.lastApplied.elim top.sequence (max · top.sequence)) := by
  cases hstale : s.stale top.sequence with
  | true =>
    -- All of them are stale.
    obtain ⟨last, hlast, hle⟩ := stale_eq_true_iff.1 hstale
    have hsame : s.after (LivePreview.deliveries l) = s := (after_deliveries_of_stale fun d hd =>
      stale_eq_true_iff.2 ⟨last, hlast, (hmax d.2 (hl d hd)).trans hle⟩).1
    rw [hsame, hlast]
    exact congrArg some (max_eq_left hle).symm
  | false =>
    rw [(hs.deliveries_highest hdistinct htop hmax hstale hl hmem hr).1]
    cases hlast : s.lastApplied with
    | none => rfl
    | some last =>
      have hlt : last < top.sequence := by simpa [stale, hlast] using hstale
      exact congrArg some (max_eq_right hlt.le).symm

/-! ### The order of deliveries -/

/-- A response takes effect if it changes the session, or has the session do something. -/
def TakesEffect (s : Session δ σ) (d : Nat × Response) : Prop :=
  s.applyResult d.2 d.1 ≠ s ∨ s.resultEffects d.2 d.1 ≠ []

/-- Of any two deliveries that take effect, the later one has the higher number. -/
def Ascends (s : Session δ σ) (l : List (Nat × Response)) : Prop :=
  ∀ before d between d' rest, l = before ++ d :: (between ++ d' :: rest) →
    (s.after (deliveries before)).TakesEffect d →
    (s.after (deliveries (before ++ d :: between))).TakesEffect d' →
      d.2.sequence < d'.2.sequence

/-- A stale response takes no effect. -/
theorem TakesEffect.stale_eq_false {d : Nat × Response} (h : s.TakesEffect d) :
    s.stale d.2.sequence = false := by
  cases hstale : s.stale d.2.sequence with
  | false => rfl
  | true => simp [TakesEffect, Session.applyResult, resultEffects, hstale] at h

theorem Receptive.ascends (hs : Receptive config codes h s)
    (hl : ∀ d ∈ l, ∀ text, d.2.outcome = .code text → text ∈ codes) : s.Ascends l := by
  rintro before d between d' rest rfl - hd'
  have hbefore := (hs.deliveries (l := before) fun d hd => hl d (by simp [hd])).1
  have hbetween := ((hbefore.applyResult (hl d (by simp)) d.1).deliveries (l := between)
    fun d hd => hl d (by simp [hd])).2
  have hsplit : s.after (LivePreview.deliveries (before ++ d :: between)) =
      ((s.after (LivePreview.deliveries before)).applyResult d.2 d.1).after
        (LivePreview.deliveries between) := by
    simp [LivePreview.deliveries, after, step]
  by_contra hle
  have hstale := hbetween d'.2.sequence (hbefore.stale_applyResult.2 (.inr (not_lt.1 hle)))
  rw [← hsplit, hd'.stale_eq_false] at hstale
  exact Bool.false_ne_true hstale

/-- A code is the one that is showing, if the renderer remembers any. -/
def Shows (config : Config) (h : History) (s : Session δ σ) (code : String) : Prop :=
  ∀ fp, s.renderer.lastInjected = some fp →
    Fingerprint.ofText code = fp ∧ h.lastShown = some (Document.build code config)

/-- In every state there is a code that is showing. -/
theorem exists_shows (config : Config) (unit : δ) (surface : σ) (files : FileSet)
    (steps : List (Nat × Step δ σ)) :
    ∃ code, Shows config ((start config unit surface files).history steps)
      ((start config unit surface files).after steps) code := by
  have hcoherent := coherent_run config unit surface files steps
  cases hfp : ((start config unit surface files).after steps).renderer.lastInjected with
  | none => exact ⟨"", fun fp h => by simp [hfp] at h⟩
  | some fp =>
    obtain ⟨code, -, hcode, hshown⟩ := hcoherent.showing fp hfp
    exact ⟨code, fun fp' h => ⟨hcode.trans (Option.some.inj (hfp.symm.trans h)), hshown⟩⟩

/-- From every state, whatever some responses with different numbers are, every delivery of all of
them, in any order and with any repetitions, ends alike while the surface shows everything: the
surface is handed the documents of the history and nothing else; the last applied number is the
highest; no number takes effect twice or after a higher one; and if the response with the highest
number is a code and not stale, that code is presented and there is no error, as long as
fingerprints tell the codes apart from each other and from the one showing. -/
theorem deliveries_agree (config : Config) (unit : δ) (surface : σ) (files : FileSet)
    (steps : List (Nat × Step δ σ)) {s : Session δ σ} {h : History}
    (hs : s = (start config unit surface files).after steps)
    (hh : h = (start config unit surface files).history steps)
    (hall : ShowsAll s.renderer.surface) {responses : Finset Response}
    (hdistinct : Set.InjOn Response.sequence responses) {top : Response}
    (htop : top ∈ responses) (hmax : ∀ r ∈ responses, r.sequence ≤ top.sequence)
    {l : List (Nat × Response)} (hl : Delivers l responses) :
    Enacts unit surface (steps ++ deliveries l) (h ++ s.history (deliveries l))
        (s.after (deliveries l)).unit (s.after (deliveries l)).renderer.surface ∧
      (s.after (deliveries l)).lastApplied =
        some (s.lastApplied.elim top.sequence (max · top.sequence)) ∧
      s.Ascends l ∧
      ∀ text, top.outcome = .code text →
        (∀ last, s.lastApplied = some last → last < top.sequence) →
        ∀ showing, Shows config h s showing →
          Set.InjOn Fingerprint.ofText
            (insert showing {code | ∃ r ∈ responses, r.outcome = .code code}) →
          Presents config (h ++ s.history (deliveries l)) (s.after (deliveries l))
              (Artifact.ofCode text top.sequence) ∧
            (s.after (deliveries l)).error = none := by
  have hcoherent := coherent_run config unit surface files steps
  rw [← hs, ← hh] at hcoherent
  have hmem : ∀ d ∈ l, d.2 ∈ responses := fun d hd => (hl d.2).2 ⟨d.1, hd⟩
  have hreceptive {showing : String} {codes : Set String} (hshows : Shows config h s showing) :
      Receptive config (insert showing codes) h s :=
    ⟨hcoherent.phase, hcoherent.settings, hall, fun fp hfp =>
      ⟨showing, Set.mem_insert _ _, hshows fp hfp⟩⟩
  obtain ⟨showing, hshowing⟩ : ∃ showing, Shows config h s showing := by
    rw [hs, hh]
    exact exists_shows config unit surface files steps
  have hany : Receptive config (insert showing Set.univ) h s := hreceptive hshowing
  have henacts := enacts_after (start config unit surface files) (steps ++ deliveries l)
  rw [after_append, history_append, ← hs, ← hh] at henacts
  refine ⟨henacts, hany.lastApplied_deliveries hdistinct htop hmax hmem ((hl top).1 htop)
    fun _ _ _ _ => .inr trivial, hany.ascends fun _ _ _ _ => .inr trivial,
    fun text htext hnewer showing hshows hcodes => ?_⟩
  have hnew : s.stale top.sequence = false := by
    cases hlast : s.lastApplied with
    | none => simp [stale, hlast]
    | some last => simpa [stale, hlast] using hnewer last hlast
  have hcode : ∀ r ∈ responses, ∀ code, r.outcome = .code code →
      code ∈ insert showing {code | ∃ r ∈ responses, r.outcome = .code code} :=
    fun r hr code hcode => .inr ⟨r, hr, hcode⟩
  exact ((hreceptive hshows).deliveries_highest hdistinct htop hmax hnew hmem ((hl top).1 htop)
    hcode).2 text htext hcodes

/-- A session on which one code has arrived. -/
def settled : List (Nat × Step (RecordingUnit Script.engine) FlakySurface) :=
  [(0, .deliver ⟨1, .code "a"⟩)]

/-- A failure, and a code with a higher number. -/
def twoResponses : Finset Response := {⟨2, .error "e"⟩, ⟨3, .code "b"⟩}

/-- Whether the failure comes before or after the code, the code is presented. The surface keeps what
it shows, and has its document last. -/
theorem deliveries_agree_pair :
    let unit : RecordingUnit Script.engine := RecordingUnit.start none
    let s := (start Config.standard unit FlakySurface.blank NameMap.empty).after settled
    let h := (start Config.standard unit FlakySurface.blank NameMap.empty).history settled
    let early := [(1, ⟨2, .error "e"⟩), (2, ⟨3, .code "b"⟩)]
    let late := [(1, ⟨3, .code "b"⟩), (2, ⟨2, .error "e"⟩), (2, ⟨3, .code "b"⟩)]
    Presents Config.standard (h ++ s.history (deliveries early)) (s.after (deliveries early))
        (Artifact.ofCode "b" 3) ∧
      Presents Config.standard (h ++ s.history (deliveries late)) (s.after (deliveries late))
        (Artifact.ofCode "b" 3) ∧
      (s.after (deliveries late)).renderer.surface.shown.head? =
        some (Document.build "b" Config.standard) ∧
      s.Ascends late ∧ (s.after (deliveries late)).lastApplied = some 3 := by
  intro unit s h early late
  have hall : ShowsAll s.renderer.surface := showsAll_flaky rfl
  have hdistinct : Set.InjOn Response.sequence twoResponses := by
    rintro r hr r' hr' heq
    simp only [twoResponses, Finset.coe_insert, Finset.coe_singleton, Set.mem_insert_iff,
      Set.mem_singleton_iff] at hr hr'
    rcases hr with rfl | rfl <;> rcases hr' with rfl | rfl <;> simp_all
  have htop : (⟨3, .code "b"⟩ : Response) ∈ twoResponses := by simp [twoResponses]
  have hmax : ∀ r ∈ twoResponses, r.sequence ≤ 3 := by simp [twoResponses]
  have hshows : Shows Config.standard h s "a" := by
    intro fp hfp
    obtain rfl : Fingerprint.ofText "a" = fp := Option.some.inj hfp
    exact ⟨rfl, rfl⟩
  have hcodes : Set.InjOn Fingerprint.ofText
      (insert "a" {code | ∃ r ∈ twoResponses, r.outcome = .code code}) := by
    have hset : insert "a" {code | ∃ r ∈ twoResponses, r.outcome = .code code} = {"a", "b"} := by
      ext code
      simp [twoResponses, eq_comm]
    have hapart : Fingerprint.ofText "a" ≠ Fingerprint.ofText "b" := by decide +kernel
    rw [hset]
    rintro code (rfl | rfl) code' (rfl | rfl) heq
    · rfl
    · exact absurd heq hapart
    · exact absurd heq.symm hapart
    · rfl
  have hnewer : ∀ last, s.lastApplied = some last → last < 3 := by
    intro last hlast
    obtain rfl : 1 = last := Option.some.inj hlast
    decide
  obtain ⟨-, -, -, hearly⟩ := deliveries_agree Config.standard unit FlakySurface.blank
    NameMap.empty settled rfl rfl hall hdistinct htop hmax (l := early)
    (delivers_iff.2 (by decide +kernel))
  obtain ⟨henacts, hlast, hascends, hlate⟩ := deliveries_agree Config.standard unit
    FlakySurface.blank NameMap.empty settled rfl rfl hall hdistinct htop hmax (l := late)
    (delivers_iff.2 (by decide +kernel))
  have hpresents := (hlate "b" rfl hnewer "a" hshows hcodes).1
  have hshown : (s.after (deliveries late)).renderer.surface.shown.head? =
      some (Document.build "b" Config.standard) := by
    rw [henacts.shown_flaky (by simp [settled, deliveries, late]), FlakySurface.blank,
      List.append_nil, List.head?_reverse]
    exact hpresents.shown
  exact ⟨(hearly "b" rfl hnewer "a" hshows hcodes).1, hpresents, hshown, hascends, hlast⟩

end Session

end LivePreview
