import LivePreview.Proofs.Session.Performed

/-!
# Coherence of a session and its surface

Three memories tell what a surface shows: the surface itself, the fingerprint that the renderer
keeps of the artifact it put there, and the artifact in the slot of the session. They fit together
in every state, whatever the surface accepts and refuses. So a renderer that skips an artifact, for
the fingerprint is the one it keeps, skips a document that an artifact of that fingerprint has put
on the surface.

## Main definitions

* `LivePreview.Session.Coherent`: the memories of a session fit together.

## Main results

* `LivePreview.Session.Coherent.move`: a move keeps them so.
* `LivePreview.Session.coherent_after`: they fit together after every run.
-/

namespace LivePreview

namespace History

variable {h : History} {now : Nat} {e : Effect} {html : String}

/-- A document that is accepted is the last one. -/
theorem lastShown_concat (he : e.shown? = some html) :
    lastShown (h ++ [(now, e)]) = some html := by
  simp [lastShown, List.filterMap_append, he]

/-- Other effects leave the last document as it is. -/
theorem lastShown_concat_of_none (he : e.shown? = none) :
    lastShown (h ++ [(now, e)]) = lastShown h := by
  simp [lastShown, List.filterMap_append, he]

end History

/-- An idle renderer skips an artifact only if it remembers its fingerprint. -/
theorem Renderer.lastInjected_of_skipped {σ : Type} [Surface σ] {r r' : Renderer σ}
    (hphase : r.phase = .idle) {a : Artifact} (h : r.update (some a) false = (.skipped, r')) :
    r.lastInjected = some a.fingerprint := by
  have hinject : (r.inject a).1 ≠ .skipped := by
    rw [inject]
    split <;> simp
  rw [update, hphase, if_neg (by simp)] at h
  by_cases hremembers : r.lastInjected = some a.fingerprint
  · exact hremembers
  · rw [if_neg (by simp [hremembers])] at h
    exact absurd (congrArg Prod.fst h) hinject

namespace Session

variable {δ σ : Type} [CompileUnit δ] [Surface σ] {s t : Session δ σ}

omit [CompileUnit δ] [Surface σ] in
theorem stale_eq_true_iff {n : Nat} :
    s.stale n = true ↔ ∃ last, s.lastApplied = some last ∧ n ≤ last := by
  cases h : s.lastApplied <;> simp [stale, h]

omit [CompileUnit δ] [Surface σ] in
/-- Numbers that are stale are below one that is not. -/
theorem lt_of_stale {m n : Nat} (hn : s.stale n = true) (hm : s.stale m = false) : n < m := by
  obtain ⟨last, hlast, hle⟩ := stale_eq_true_iff.1 hn
  have hlt : last < m := by simpa [stale, hlast] using hm
  omega

/-- The memories of a session fit together, after some history. All codes that are remembered are
of some kind. -/
structure Coherent (config : Config) (codes : String → Prop) (h : History) (s : Session δ σ) :
    Prop where
  /-- The renderer is idle. -/
  phase : s.renderer.phase = .idle
  /-- The settings are the ones given. -/
  settings : s.renderer.config = config
  /-- What the renderer remembers is the fingerprint of the code that is showing. -/
  showing : ∀ fp, s.renderer.lastInjected = some fp →
    ∃ code, codes code ∧ Fingerprint.ofText code = fp ∧
      h.lastShown = some (Document.build code config)
  /-- What the slot holds came with an applied response, and is what the renderer remembers, if
  that remembers anything. -/
  slot : ∀ a, s.artifact = some a →
    codes a.code ∧ a.fingerprint = Fingerprint.ofText a.code ∧ s.stale a.sequence = true ∧
      (s.renderer.lastInjected = none ∨ s.renderer.lastInjected = some a.fingerprint)

variable {config : Config} {codes : String → Prop} {h h' : History} {incoming : Option Response}
  {now : Nat} {e : List Effect}

omit [CompileUnit δ] [Surface σ] in
theorem coherent_start (unit : δ) (surface : σ) (files : FileSet) :
    Coherent config codes [] (start config unit surface files) where
  phase := rfl
  settings := rfl
  showing := by simp [start, Renderer.ofConfig]
  slot := by simp [start]

omit [CompileUnit δ] [Surface σ] in
/-- Forgetting what is showing, or what is in the slot, does no harm. -/
theorem Coherent.forget (hs : Coherent config codes h s) (hphase : t.renderer.phase = .idle)
    (hconfig : t.renderer.config = s.renderer.config)
    (hshowing : t.renderer.lastInjected = none ∨
      t.renderer.lastInjected = s.renderer.lastInjected ∧ h'.lastShown = h.lastShown)
    (hslot : t.artifact = none ∨ t.artifact = s.artifact)
    (hstale : ∀ n, s.stale n = true → t.stale n = true) : Coherent config codes h' t where
  phase := hphase
  settings := hconfig.trans hs.settings
  showing fp hfp := by
    rcases hshowing with hnone | ⟨hsame, hshown⟩
    · simp [hnone] at hfp
    · rw [hshown]
      exact hs.showing fp (hsame ▸ hfp)
  slot a ha := by
    rcases hslot with hnone | hsame
    · simp [hnone] at ha
    · obtain ⟨hcode, hfp, hle, hremembers⟩ := hs.slot a (hsame ▸ ha)
      refine ⟨hcode, hfp, hstale _ hle, ?_⟩
      rcases hshowing with hnone | ⟨hsame, -⟩
      · exact .inl hnone
      · exact hsame ▸ hremembers

omit [CompileUnit δ] [Surface σ] in
/-- The artifact that is to be shown next came with an applied response. -/
theorem Coherent.offers (hs : Coherent config codes h s)
    (hcodes : ∀ sequence text, incoming = some ⟨sequence, .code text⟩ → codes text) {a : Artifact}
    (ha : s.Offers incoming a t) :
    codes a.code ∧ a.fingerprint = Fingerprint.ofText a.code ∧ t.stale a.sequence = true := by
  cases ha with
  | slot ha =>
    obtain ⟨hcode, hfp, hle, -⟩ := hs.slot a ha
    exact ⟨hcode, hfp, hle⟩
  | code _ => exact ⟨hcodes _ _ rfl, rfl, by simp [stale, Artifact.ofCode]⟩

omit [CompileUnit δ] [Surface σ] in
/-- A session whose slot and renderer remember the artifact that is showing. -/
theorem Coherent.of_artifact {a : Artifact} (hphase : t.renderer.phase = .idle)
    (hconfig : t.renderer.config = config) (hslot : t.artifact = some a)
    (ha : codes a.code ∧ a.fingerprint = Fingerprint.ofText a.code ∧ t.stale a.sequence = true)
    (hshowing : ∀ fp, t.renderer.lastInjected = some fp →
      fp = a.fingerprint ∧ ∃ code, codes code ∧ Fingerprint.ofText code = fp ∧
        h'.lastShown = some (Document.build code config)) :
    Coherent config codes h' t where
  phase := hphase
  settings := hconfig
  showing fp hfp := (hshowing fp hfp).2
  slot b hb := by
    obtain rfl : a = b := Option.some.inj (hslot.symm.trans hb)
    refine ⟨ha.1, ha.2.1, ha.2.2, ?_⟩
    cases hfp : t.renderer.lastInjected with
    | none => exact .inl rfl
    | some fp => exact .inr (congrArg some (hshowing fp hfp).1)

/-- A move keeps the memories of a session together. -/
theorem Coherent.move (hs : Coherent config codes h s)
    (hcodes : ∀ sequence text, incoming = some ⟨sequence, .code text⟩ → codes text)
    (hmove : Move incoming now s e t) : Coherent config codes (h ++ e.map (now, ·)) t := by
  have hnil : (h ++ ([] : List Effect).map (now, ·)).lastShown = h.lastShown := by simp
  cases hmove with
  | taken =>
    exact hs.forget hs.phase rfl (.inr ⟨rfl, History.lastShown_concat_of_none rfl⟩) (.inl rfl)
      fun _ => id
  | untaken =>
    exact hs.forget hs.phase rfl (.inr ⟨rfl, History.lastShown_concat_of_none rfl⟩) (.inl rfl)
      fun _ => id
  | failed _ hnew =>
    refine hs.forget hs.phase rfl (.inr ⟨rfl, hnil⟩) (.inr rfl) fun n hn => ?_
    simpa [stale] using Nat.le_of_lt (lt_of_stale hn hnew)
  | blanked => exact hs.forget rfl rfl (.inl rfl) (.inl rfl) fun _ => id
  | unblanked => exact hs.forget rfl rfl (.inl rfl) (.inr rfl) fun _ => id
  | resetLoop =>
    exact hs.forget hs.phase rfl (.inr ⟨rfl, History.lastShown_concat_of_none rfl⟩) (.inl rfl)
      fun _ => id
  | kept _ ha hremembers =>
    refine .of_artifact (ha.renderer ▸ hs.phase) (ha.renderer ▸ hs.settings) ha.artifact
      (hs.offers hcodes ha) fun fp hfp => ?_
    rw [ha.renderer] at hfp
    rw [hnil]
    exact ⟨Option.some.inj (hfp.symm.trans hremembers), hs.showing fp hfp⟩
  | shown ha =>
    have hoffers := hs.offers hcodes ha
    refine .of_artifact rfl hs.settings ha.artifact hoffers fun fp hfp => ?_
    have heq := Option.some.inj hfp
    refine ⟨heq.symm, _, hoffers.1, hoffers.2.1.symm.trans heq, ?_⟩
    rw [← hs.settings]
    exact History.lastShown_concat rfl
  | refused ha =>
    have hoffers := hs.offers hcodes ha
    exact .of_artifact rfl hs.settings ha.artifact hoffers fun fp hfp => nomatch hfp
  | _ =>
    -- Neither the slot nor the surface has a part in it.
    exact hs.forget hs.phase rfl (.inr ⟨rfl, hnil⟩) (.inr rfl) fun _ => id

/-- A response keeps the memories of a session together. -/
theorem Coherent.applyResult (hs : Coherent config codes h s) {r : Response}
    (hr : ∀ text, r.outcome = .code text → codes text) (now : Nat) :
    Coherent config codes (h ++ (s.resultEffects r now).map (now, ·)) (s.applyResult r now) := by
  have hmoves : Moves (some r) now s _ _ := moves_applyResult s hs.phase r
  refine hmoves.induct (P := Coherent config codes) (fun hs hmove => hs.move ?_ hmove) hs
  intro n text hincoming
  exact hr text (by rw [Option.some.inj hincoming])

/-- Every run leaves the memories of a session together. -/
theorem coherent_run (config : Config) (unit : δ) (surface : σ) (files : FileSet)
    (steps : List (Nat × Step δ σ)) :
    Coherent config (fun _ => True) ((start config unit surface files).history steps)
      ((start config unit surface files).after steps) := by
  have hcoherent := after_induct (P := Coherent config fun _ => True) Coherent.phase
    (fun hs hmove => hs.move (fun _ _ _ => trivial) hmove)
    (fun _ hs => ⟨hs.phase, hs.settings, hs.showing, hs.slot⟩)
    (fun _ hs => ⟨hs.phase, hs.settings, hs.showing, hs.slot⟩)
    (coherent_start unit surface files) steps
  simpa using hcoherent

/-- In every state, whatever the surface accepts and refuses: the surface was handed the documents
of the history, with these answers, and nothing else; the renderer is idle; it remembers the
fingerprint of a code only while the surface shows that code's document, the last one it accepted;
the artifact in the slot carries the fingerprint of its code, came with a response that was applied,
and is what the renderer remembers, if that remembers anything. So an artifact is skipped only if an
artifact of its fingerprint is showing. -/
theorem coherent_after (config : Config) (unit : δ) (surface : σ) (files : FileSet)
    (steps : List (Nat × Step δ σ)) :
    let s := (start config unit surface files).after steps
    let h := (start config unit surface files).history steps
    let shown := h.lastShown
    Enacts unit surface steps h s.unit s.renderer.surface ∧
    s.renderer.phase = .idle ∧
    (∀ fp, s.renderer.lastInjected = some fp →
      ∃ code, Fingerprint.ofText code = fp ∧ shown = some (Document.build code config)) ∧
    (∀ a, s.artifact = some a →
      (s.renderer.lastInjected = none ∨ s.renderer.lastInjected = some a.fingerprint) ∧
      a.fingerprint = Fingerprint.ofText a.code ∧
      ∃ last, s.lastApplied = some last ∧ a.sequence ≤ last) ∧
    (∀ a r, s.renderer.update (some a) false = (.skipped, r) →
      ∃ b : Artifact, b.fingerprint = a.fingerprint ∧
        b.fingerprint = Fingerprint.ofText b.code ∧
        shown = some (Document.build b.code config)) := by
  intro s h shown
  have hcoherent := coherent_run config unit surface files steps
  have hshowing (fp : Fingerprint) (hfp : s.renderer.lastInjected = some fp) :
      ∃ code, Fingerprint.ofText code = fp ∧ shown = some (Document.build code config) := by
    obtain ⟨code, -, hcode, hshown⟩ := hcoherent.showing fp hfp
    exact ⟨code, hcode, hshown⟩
  refine ⟨enacts_after (start config unit surface files) steps, hcoherent.phase, hshowing,
    fun a ha => ?_, fun a r hskipped => ?_⟩
  · obtain ⟨-, hfp, hle, hremembers⟩ := hcoherent.slot a ha
    exact ⟨hremembers, hfp, stale_eq_true_iff.1 hle⟩
  · have hremembers := Renderer.lastInjected_of_skipped hcoherent.phase hskipped
    obtain ⟨code, hcode, hshown⟩ := hshowing _ hremembers
    exact ⟨Artifact.ofCode code 0, hcode, rfl, hshown⟩

end Session

end LivePreview
