import LivePreview.Config.Format
import LivePreview.Message.Format
import LivePreview.Proofs.Json.Reading
import LivePreview.Proofs.NameMap

/-!
# Messages and settings read back

Requests, responses and settings are read back from the text that they are written as, for all
file sets, texts and numbers that fit. A set in a request may have files under other names than
their own.

## Main definitions

* `LivePreview.GuardConfig.Fits`, `LivePreview.Config.Fits`: the numbers fit into their fields.
* `LivePreview.Config.draft`: settings as a reader finds them, each field being there.

## Main results

* `LivePreview.Request.ofText_compact`, `LivePreview.Response.ofText_compact`,
  `LivePreview.Config.ofText_compact`: one kind of text each.
* `LivePreview.read_back`: all of them.
-/

namespace LivePreview

open Json Json.Reader

/-- A map is read back from its entries if each value is read back. -/
theorem reads_nameMap {α : Type} {item : Reader α} (enc : α → Json)
    (h : ∀ a, Reads item (written (enc a)) a) (m : NameMap α) :
    Reads (do return NameMap.ofList (← map item))
      (written (.object (m.entries.map fun e => (e.1, enc e.2)))) m := by
  have hmap := (reads_map enc fun e (_ : e ∈ m.entries) => h e.2).map NameMap.ofList
  rwa [NameMap.ofList_entries] at hmap

/-! ### Files and requests -/

namespace SourceFile

theorem leads_field (file : SourceFile) : Leads field ⟨none, none, none⟩
    [("name", .string file.name), ("content", .string file.content),
      ("language", .string file.language.tag)]
    ⟨some file.name, some file.content, some file.language⟩ :=
  .cons ((reads_once (reads_text _)).map _) <|
  .cons ((reads_once (reads_text _)).map _) <|
  .cons ((reads_once (reads_choice (Language.ofTag?_tag _))).map _) <| .nil _

theorem reads_reader (file : SourceFile) : Reads reader (written (FileSet.fileJson file)) file := by
  refine reads_record fun rest hrest => ?_
  exact run_bind (reads_members file.leads_field rest hrest) _

end SourceFile

namespace Request

variable {r : Request}

theorem reads_filesReader (files : FileSet) :
    Reads filesReader (written (FileSet.toJson files)) files :=
  reads_nameMap FileSet.fileJson SourceFile.reads_reader files

theorem leads_field (h : r.sequence < UInt64.size) : Leads field ⟨none, none⟩
    [("sequence", .ofNat r.sequence), ("files", FileSet.toJson r.files)]
    ⟨some r.sequence, some r.files⟩ :=
  .cons ((reads_once (reads_natBelow h (Nat.le_refl _))).map _) <|
  .cons ((reads_once (reads_filesReader _)).map _) <| .nil _

/-- A request is read back from its text. -/
theorem ofText_compact (h : r.sequence < UInt64.size) : ofText r.toJson.compact = .ok r := by
  refine whole_of_reads (reads_record fun rest hrest => ?_)
  exact run_bind (reads_members (leads_field h) rest hrest) _

end Request

/-! ### Responses -/

namespace Response

variable {r : Response} {n : Nat} {key s : String} {outcome : Outcome}

theorem leads_field (hn : n < UInt64.size) (hkey : key ≠ "sequence") (s : String) :
    Leads field ⟨none, []⟩ [("sequence", .ofNat n), (key, .string s)]
      ⟨some n, [(key, .string s)]⟩ := by
  refine .cons ((reads_once (reads_natBelow hn (Nat.le_refl _))).map fun sequence =>
    (⟨sequence, []⟩ : Draft)) (.cons ?_ (.nil _))
  rw [field, if_neg hkey]
  exact ((reads_value (depthLimit - 1) s).map fun value =>
    (⟨some n, [(key, value)]⟩ : Draft)).behind_colon

/-- A number and one more member make a response if the member tells an outcome. -/
theorem reads_reader (hn : n < UInt64.size) (hkey : key ≠ "sequence")
    (houtcome : outcome? [(key, .string s)] = some outcome) :
    Reads reader (written (.object [("sequence", .ofNat n), (key, .string s)])) ⟨n, outcome⟩ := by
  intro rest hrest
  have hmembers := reads_members (leads_field hn hkey s) rest hrest
  rw [written_object, List.cons_append, reader, run_ahead_bind (by decide)]
  -- What the text is does not matter any more, and nothing should be computed from it.
  generalize writtenMembers _ ++ _ ++ rest = t at hmembers ⊢
  refine (run_bind hmembers fun d => do
    return (⟨← required d.sequence, ← required (outcome? d.others)⟩ : Response)).trans ?_
  dsimp only
  rw [houtcome]
  rfl

/-- A response is read back from its text. -/
theorem ofText_compact (h : r.sequence < UInt64.size) : ofText r.toJson.compact = .ok r := by
  obtain ⟨n, outcome⟩ := r
  cases outcome with
  | code text => exact whole_of_reads (reads_reader h (by decide) rfl)
  | error message => exact whole_of_reads (reads_reader h (by decide) rfl)

end Response

/-! ### Settings -/

/-- The numbers of guard limits fit into their fields. -/
structure GuardConfig.Fits (g : GuardConfig) : Prop where
  /-- The window is a number of 64 bits. -/
  window : g.window < UInt64.size
  /-- The threshold is a number of 32 bits. -/
  threshold : g.threshold < UInt32.size
  /-- The cooldown is a number of 64 bits. -/
  cooldown : g.cooldown < UInt64.size

/-- The numbers of settings fit into their fields. -/
structure Config.Fits (c : Config) : Prop where
  /-- The debounce time is a number of 64 bits. -/
  debounce : c.debounce < UInt64.size
  /-- The limits of compile attempts fit. -/
  compileGuard : c.compileGuard.Fits
  /-- The limits of surface resets fit. -/
  resetGuard : c.resetGuard.Fits

namespace GuardConfig

variable {g : GuardConfig}

theorem Fits.leads_field (h : g.Fits) : Leads field ⟨none, none, none⟩
    [("windowMs", .ofNat g.window), ("threshold", .ofNat g.threshold),
      ("cooldownMs", .ofNat g.cooldown)]
    ⟨some g.window, some g.threshold, some g.cooldown⟩ :=
  .cons ((reads_once (reads_natBelow h.window (Nat.le_refl _))).map _) <|
  .cons ((reads_once (reads_natBelow h.threshold (by decide))).map _) <|
  .cons ((reads_once (reads_natBelow h.cooldown (Nat.le_refl _))).map _) <| .nil _

theorem Fits.reads_reader (h : g.Fits) : Reads reader (written g.toJson) g := by
  refine reads_record fun rest hrest => ?_
  exact run_bind (reads_members h.leads_field rest hrest) _

end GuardConfig

namespace Config

variable {c : Config}

/-- Settings as a reader finds them, each field being there. -/
def draft (c : Config) : Draft where
  entryFile := some c.entryFile
  frameworkModule := some c.frameworkModule
  importMap := some c.importMap
  mountId := some c.mountId
  debounce := some c.debounce
  compileGuard := some c.compileGuard
  resetGuard := some c.resetGuard
  resolveExtensions := some c.resolveExtensions
  inMemoryMarker := some c.inMemoryMarker

theorem complete_draft (c : Config) : c.draft.complete = c := rfl

theorem reads_addresses (m : NameMap String) :
    Reads addresses (written (.object (m.entries.map fun (key, url) => (key, .string url)))) m :=
  reads_nameMap Json.string reads_text m

theorem reads_texts (l : List String) :
    Reads (list text) (written (.array (l.map .string))) l := by
  refine reads_list Json.string (fun s _ => reads_text s) fun s _ => ⟨'"', ?_, by decide⟩
  rw [written_string]
  rfl

theorem Fits.leads_field (h : c.Fits) : ∃ members, c.toJson = .object members ∧
    Leads field Draft.none members c.draft :=
  ⟨_, rfl,
    .cons ((reads_once (reads_text _)).map _) <|
    .cons ((reads_once (reads_text _)).map _) <|
    .cons ((reads_once (reads_addresses _)).map _) <|
    .cons ((reads_once (reads_text _)).map _) <|
    .cons ((reads_once (reads_natBelow h.debounce (Nat.le_refl _))).map _) <|
    .cons ((reads_once h.compileGuard.reads_reader).map _) <|
    .cons ((reads_once h.resetGuard.reads_reader).map _) <|
    .cons ((reads_once (reads_texts _)).map _) <|
    .cons ((reads_once (reads_text _)).map _) <| .nil _⟩

/-- All fields of settings are there in their text. -/
theorem whole_draft (h : c.Fits) :
    whole (record (members field Draft.none) itemFields) c.toJson.compact = .ok c.draft := by
  obtain ⟨members, hmembers, hleads⟩ := h.leads_field
  have hdraft : Reads (record (Reader.members field Draft.none) itemFields) (written c.toJson)
      c.draft := hmembers ▸ reads_record (reads_members hleads)
  exact whole_of_reads hdraft

/-- Settings that are not refused are read back from their text. -/
theorem ofText_compact (h : c.Fits) (hvalid : c.validate = .ok ()) :
    ofText c.toJson.compact = .ok c := by
  obtain ⟨members, hmembers, hleads⟩ := h.leads_field
  have hread : Reads reader (written c.toJson) c.draft.complete :=
    hmembers ▸ reads_record ((reads_members hleads).map Draft.complete)
  rw [ofText, whole_of_reads hread, complete_draft]
  dsimp only
  rw [hvalid]

end Config

/-! ### All of them -/

/-- A request is read back from the text that it is written as, whatever number of 64 bits it has
and whatever files under whatever names; so is a response, be it the text of a module or of a
failure, and so are settings that are not refused. All fields of settings are there in the text, so
that none takes its default. -/
theorem read_back :
    (∀ r : Request, r.sequence < UInt64.size → Request.ofText r.toJson.compact = .ok r) ∧
    (∀ r : Response, r.sequence < UInt64.size → Response.ofText r.toJson.compact = .ok r) ∧
    ∀ c : Config, c.Fits → c.validate = .ok () →
      Config.ofText c.toJson.compact = .ok c ∧
        whole (record (members Config.field Config.Draft.none) Config.itemFields) c.toJson.compact =
          .ok c.draft :=
  ⟨fun _ => Request.ofText_compact, fun _ => Response.ofText_compact,
    fun _ h hvalid => ⟨Config.ofText_compact h hvalid, Config.whole_draft h⟩⟩

/-- A file under another name than its own, a failure that tells of code, and settings with the
largest number. -/
theorem read_back_foreign :
    let request : Request :=
      ⟨UInt64.size - 1, NameMap.empty.insert "b.ts" ⟨"a.vue", "\"\\\n\x01😀", .component⟩⟩
    let response : Response := ⟨0, .error "\"code\":\"\""⟩
    let config : Config :=
      { Config.standard with importMap := NameMap.empty, debounce := UInt64.size - 1 }
    (request.sequence < UInt64.size ∧ Request.ofText request.toJson.compact = .ok request) ∧
    (response.sequence < UInt64.size ∧ Response.ofText response.toJson.compact = .ok response) ∧
    config.Fits ∧ config.validate = .ok () ∧ Config.ofText config.toJson.compact = .ok config := by
  intro request response config
  have hrequest : request.sequence < UInt64.size := by decide
  have hresponse : response.sequence < UInt64.size := by decide
  have hfits : config.Fits :=
    ⟨by decide, ⟨by decide, by decide, by decide⟩, by decide, by decide, by decide⟩
  have hvalid : config.validate = .ok () := by cbv
  exact ⟨⟨hrequest, read_back.1 request hrequest⟩, ⟨hresponse, read_back.2.1 response hresponse⟩,
    hfits, hvalid, (read_back.2.2 config hfits hvalid).1⟩

end LivePreview
