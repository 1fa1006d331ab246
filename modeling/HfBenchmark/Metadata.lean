import HfBenchmark.Records
import HfBenchmark.Resume
import Mathlib.Data.List.Dedup

namespace HfBenchmark

theorem startState_statsAgree (fs : FileSys) (args : Args) : (startState fs args).StatsAgree :=
  ⟨rfl, rfl⟩

private theorem dedup_length_of_mem_iff {α : Type} [DecidableEq α] {l ds : List α}
    (hds : ds.Nodup) (h : ∀ v, v ∈ l ↔ v ∈ ds) : l.dedup.length = ds.length :=
  ((List.perm_ext_iff_of_nodup (List.nodup_dedup l) hds).mpr fun v => by
    rw [List.mem_dedup]; exact h v).length_eq

theorem prepare_metadata_describes_chunks (w : World) (fuel : Nat) (configs : List DatasetConfig)
    (fs : FileSys) (args : Args) (hcfg : ValidConfigs configs)
    (hok : (prepareHuggingfaceBenchmark w fuel configs fs args).outcome.isOk) :
    ∃ l m, ((prepareHuggingfaceBenchmark w fuel configs fs args).fs fs).chunks = some l ∧
      ((prepareHuggingfaceBenchmark w fuel configs fs args).fs fs).metadata = some m ∧
      m.totalChunks = l.length ∧ m.totalWords = (l.map recordWords).sum ∧
      ((startState fs args).allChunks = [] →
        (l.map (·.lookup "doc_id")).dedup.length = m.totalDocuments ∧
        (∀ r ∈ l, ∃ s ∈ m.sourceDatasets, r.lookup "source_dataset" = some (.str s)) ∧
        ∀ r ∈ l, ∃ a b, r.lookup "start_word" = some (.int a) ∧
          r.lookup "end_word" = some (.int b) ∧ b - a ≤ m.chunkSize) := by
  obtain ⟨hexit, hstart, s, hs⟩ := RunResult.outcome_ok hok
  obtain ⟨hchunks, hmeta⟩ := RunResult.fs_of_ok hexit hstart hs
  obtain ⟨done, hpre, hv, rfl⟩ := ingest_ok_recordAll _ _ s hs
  have hagree := (startState fs args).statsAgree_recordAll done (startState_statsAgree fs args)
  refine ⟨_, _, hchunks, hmeta, hagree.1, hagree.2, fun hfresh => ?_⟩
  have hsrc := (sourcesOk_of_planned hcfg hpre hv).1
  have hl : ((startState fs args).recordAll done).allChunks = (done.map (contribution ·.2)).flatten :=
    by rw [Ingest.recordAll_allChunks, hfresh, List.nil_append]
  rw [hl]
  obtain ⟨ds, hnd, hlen, hmem⟩ := hsrc.docIds
  refine ⟨?_, fun r hr => ?_, fun r hr => ?_⟩
  · rw [dedup_length_of_mem_iff hnd hmem, hlen]
    simp [finalize, RunStats.dump, startState]
  · obtain ⟨p, hp, row, idx, hkey, -⟩ := hsrc.records r hr
    refine ⟨p.1.name, by simp [finalize, RunStats.dump, startState, List.mem_map_of_mem _ hp], ?_⟩
    simpa [recordKey, slotKey] using congrArg (·.1) hkey
  · obtain ⟨p, -, row, idx, -, -, a, b, ha, hb, hab⟩ := hsrc.records r hr
    exact ⟨a, b, ha, hb, by simpa [finalize, RunStats.dump, startState] using hab⟩

/-- The `arxiv` source alone, with the default windows. -/
def arxivArgs : Args := { datasets := some ["arxiv"] }

/-- The files a call on one sixty-word `arxiv` row leaves when it dies right after its
checkpoint. -/
def arxivCrash : FileSys := interruptedAfterFirst (uniformWorld 60 1) 1 arxivArgs

/-- The files after the call resumed from `arxivCrash` with `args`. -/
def arxivResumed (args : Args) : FileSys :=
  (prepareHuggingfaceBenchmark (uniformWorld 60 1) 1 datasetConfigs arxivCrash args).fs arxivCrash

set_option maxRecDepth 8000 in
/-- Resumed from its own checkpoint, the `arxiv` call writes the loaded record with no
`total_documents` and no `source_datasets`, and a `chunk_size` below the record's span. -/
theorem prepare_metadata_counterexample :
    (arxivResumed arxivArgs).chunks.map
        (List.map fun r => (r.lookup "doc_id", r.lookup "source_dataset")) =
      some [(some (.str "arxiv_0"), some (.str "arxiv"))] ∧
    (arxivResumed arxivArgs).metadata.map (fun m => (m.totalDocuments, m.sourceDatasets)) =
      some (0, []) ∧
    (arxivResumed { arxivArgs with chunkSize := 50 }).chunks.map
        (List.map fun r => (r.lookup "start_word", r.lookup "end_word")) =
      some [(some (.int 0), some (.int 60))] ∧
    (arxivResumed { arxivArgs with chunkSize := 50 }).metadata.map (·.chunkSize) = some 50 := by
  decide

end HfBenchmark
