import LivePreview.Proofs.Compile.Misses
import LivePreview.Proofs.Transformer

/-!
# Rebuilding after a change

A transformer that compiles one file set after another rebuilds what it has to. Within a job no file
with a text is built twice, however many modules import it. In the next job a file that was built,
or found built, is built again only if it has changed itself or one of the names that its entry
records has: such a name stands for another content, for nothing, or for something where there was
nothing. If nothing has changed, nothing is built but what fails.

None of this hangs on what the cache held at the start.

## Main definitions

* `LivePreview.Transformer.clearStats`: the hits and misses are counted from now on.

## Main results

* `LivePreview.Transformer.rebuilds_minimal`: the misses of a job and of the next one.
-/

namespace LivePreview.Transformer

open Compile

/-- The transformer with its hits and misses counted from now on. -/
def clearStats (t : Transformer) : Transformer := { t with cache := t.cache.clearStats }

variable {engine : Engine} {t first : Transformer} {files files' : FileSet} {code : String}

/-- A file that is held, and of which nothing has changed in another set, is not missed there. -/
theorem not_mem_misses_of_unchanged (hfiles' : FileSet.Keyed files') {file : SourceFile}
    (hfile : files.get? file.name = some file) {entry : CacheEntry}
    (hheld : held (t.job files) t.cache file = some entry)
    (hown : files'.current file.name = files.current file.name)
    (hrecord : ∀ k fp, entry.dependencies.get? k = some fp → files'.current k = fp) :
    file.name ∉ (t.clearStats.compile engine files').2.cache.misses := by
  obtain ⟨hentry, hfp, -⟩ := current_of_lookup hheld
  rw [FileSet.current, FileSet.current, hfile] at hown
  obtain ⟨file', hfile', hsame⟩ := Option.map_eq_some_iff.1 hown
  have hname : file'.name = file.name := hfiles' _ file' hfile'
  have hheld' : held (t.job files') t.cache.clearStats file' = some entry := by
    refine held_of_current ?_ (hfp.trans hsame.symm) fun k fp hk => (hrecord k fp hk).symm
    rw [hname]
    exact hentry
  have honward : Onward engine (t.job files') t.cache.clearStats
      (Compile.compile engine (t.job files') t.cache.clearStats).2 := onward_compile hfiles' _
  have hcount := honward.count file' (NameMap.mem_values_of_get? hfile') entry hheld'
  rw [hname] at hcount
  exact List.count_eq_zero.1 hcount

/-- When a transformer compiles a file set, whatever its cache holds, no file with a text is missed
twice. When it compiles another set next, a file with a text that the first job fetched is missed
only if its own fingerprint has changed, or some name of the record of its entry has another
fingerprint, has disappeared or is new. And when it compiles the same set again, the code is the
same and every miss is a file without a text. -/
theorem rebuilds_minimal (ha : engine.Accepting) (t : Transformer) (hfiles : FileSet.Keyed files)
    (hfiles' : FileSet.Keyed files')
    (h : t.clearStats.compile engine files = (.ok code, first)) :
    (∀ file ∈ files.values, HasText engine (t.job files) file →
      first.cache.misses.count file.name ≤ 1) ∧
    (∀ file ∈ files.values, HasText engine (t.job files) file →
      file.name ∈ first.cache.hits ++ first.cache.misses →
        ∃ entry, first.cache.entries.get? file.name = some entry ∧
          entry.fingerprint = file.fingerprint ∧ Current files entry.dependencies ∧
          (file.name ∈ (first.clearStats.compile engine files').2.cache.misses →
            files'.current file.name ≠ files.current file.name ∨
              ∃ k fp, entry.dependencies.get? k = some fp ∧ files'.current k ≠ fp)) ∧
    (first.clearStats.compile engine files).1 = .ok code ∧
    ∀ name ∈ (first.clearStats.compile engine files).2.cache.misses,
      ∃ file, files.get? name = some file ∧
        ∃ e, standalone engine (t.job files) file = .error e := by
  obtain ⟨hcompile, hfirst⟩ := compile_eq_iff.1 h
  have hjob (files : FileSet) : first.job files = t.job files := by rw [hfirst]; rfl
  have haccounted : Accounted engine (t.job files) [] first.cache :=
    accounted_compile ha hfiles hcompile
  refine ⟨haccounted.once, fun file hmem htext hfetched => ?_, ?_⟩
  · obtain ⟨entry, hheld⟩ : ∃ entry, held (t.job files) first.cache file = some entry := by
      rcases List.mem_append.1 hfetched with hhit | hmissed
      · exact haccounted.hit file hmem hhit
      · exact (haccounted.missed file hmem htext hmissed).resolve_left (by simp)
    obtain ⟨hentry, hfp, hcurrent⟩ := current_of_lookup hheld
    refine ⟨entry, hentry, hfp, hcurrent, fun hmissed => ?_⟩
    by_contra hunchanged
    push Not at hunchanged
    obtain ⟨hown, hrecord⟩ := hunchanged
    refine not_mem_misses_of_unchanged hfiles' (get?_of_mem_values hfiles hmem) ?_ hown hrecord
      hmissed
    rw [hjob]
    exact hheld
  · have hentries : first.cache.clearStats.entries = first.cache.entries := rfl
    obtain ⟨hagain, hmisses⟩ := compile_again ha hfiles hcompile hentries
    have hsecond : first.clearStats.compile engine files =
        ((Compile.compile engine (t.job files) first.cache.clearStats).1,
          { first with
            cache := (Compile.compile engine (t.job files) first.cache.clearStats).2 }) := by
      rw [← hjob]
      rfl
    rw [hsecond]
    refine ⟨hagain, fun name hname => ?_⟩
    rcases hmisses name hname with hname | ⟨file, hmem, rfl, hw, message, hm⟩
    · cases hname
    · exact ⟨file, get?_of_mem_values hfiles hmem, _, standalone_of_parse_error ha hfiles hw hm⟩

/-- Data that is imported is built once, and the second time nothing changes. -/
theorem rebuilds_minimal_bare :
    ∃ code first, (ofConfig Config.standard 1).clearStats.compile bareEngine bareJob.files =
        (.ok code, first) ∧
      first.cache.misses.count "c.json" ≤ 1 ∧
      (first.clearStats.compile bareEngine bareJob.files).1 = .ok code := by
  have hfiles : FileSet.Keyed bareJob.files := FileSet.keyed_ofFiles _
  have hisOk : ((ofConfig Config.standard 1).clearStats.compile bareEngine
      bareJob.files).1.isOk = true := by
    rw [fst_compile]
    exact isOk_compile_bare
  rcases h : (ofConfig Config.standard 1).clearStats.compile bareEngine bareJob.files with
    ⟨e | code, first⟩
  · rw [h] at hisOk
    cases hisOk
  · obtain ⟨honce, -, hcode, -⟩ := rebuilds_minimal accepting_bareEngine _ hfiles hfiles h
    have hdata : (⟨"c.json", "1", .data⟩ : SourceFile) ∈ bareJob.files.values := by decide +kernel
    exact ⟨code, first, rfl, honce _ hdata ⟨_, rfl⟩, hcode⟩

end LivePreview.Transformer
