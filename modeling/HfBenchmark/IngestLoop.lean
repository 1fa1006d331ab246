import HfBenchmark.Resume

namespace HfBenchmark

section Budget

variable {w : World} {fuel : Nat} {args : Args}

theorem ingest_allChunks_budget : ∀ (cs : List DatasetConfig) (s s' : Ingest),
    (ingest w fuel args cs s).2 = .ok s' →
      s'.allChunks = s.allChunks ∨ ∃ c ∈ cs, ∃ os,
        sourceOutcomes w fuel args.chunkSize args.overlap c = .ok os ∧ ∃ pre : List Dict,
          (pre.length : Int) < args.maxChunks ∧
          s'.allChunks = pre ++ contribution os
  | [], s, s', h => .inl (by cases h; rfl)
  | c :: cs, s, s', h => by
    rcases ingest_cons_ok h with ⟨-, rfl⟩ | ⟨hb, os, ho, hrest⟩
    · exact .inl rfl
    · rcases ingest_allChunks_budget cs _ s' hrest with heq | ⟨c', hc', os', ho', pre, hpre, heq⟩
      · exact .inr ⟨c, List.mem_cons_self _ _, os, ho, s.allChunks, by omega,
          by simpa [Ingest.record] using heq⟩
      · exact .inr ⟨c', List.mem_cons_of_mem _ hc', os', ho', pre, hpre, heq⟩

end Budget

theorem prepare_chunks_budget (w : World) (fuel : Nat) (configs : List DatasetConfig)
    (fs : FileSys) (args : Args)
    (hok : (prepareHuggingfaceBenchmark w fuel configs fs args).outcome.isOk) :
    ((prepareHuggingfaceBenchmark w fuel configs fs args).fs fs).chunks =
        some (startState fs args).allChunks ∨
      ∃ c ∈ (planRun configs (startState fs args) args).1, ∃ os,
        sourceOutcomes w fuel args.chunkSize args.overlap c = .ok os ∧ ∃ pre : List Dict,
          (pre.length : Int) < args.maxChunks ∧
          ((prepareHuggingfaceBenchmark w fuel configs fs args).fs fs).chunks =
            some (pre ++ contribution os) := by
  obtain ⟨hexit, hstart, s, hs⟩ := RunResult.outcome_ok hok
  rw [RunResult.fs_chunks, hexit, hstart]
  simp only [Bool.false_or, Bool.not_true, Bool.false_eq_true, ↓reduceIte, hs, Except.map]
  rcases ingest_allChunks_budget _ _ s hs with heq | ⟨c, hc, os, ho, pre, hpre, heq⟩
  · exact .inl (by rw [heq])
  · exact .inr ⟨c, hc, os, ho, pre, hpre, by rw [heq]⟩

/-- The `code` source alone, with a budget of four chunks of two words. -/
def overBudgetArgs : Args :=
  { maxChunks := 4, chunkSize := 2, overlap := 0, datasets := some ["code"] }

set_option maxRecDepth 8000 in
/-- One twenty-word docstring yields ten chunks, past the budget of four, yet the call chunks the
second row its cap allows and writes twenty chunks. -/
theorem prepare_chunks_budget_counterexample :
    0 ≤ overBudgetArgs.overlap ∧ overBudgetArgs.overlap < overBudgetArgs.chunkSize ∧
    (chunkText 20 (wordsText 20) overBudgetArgs.chunkSize overBudgetArgs.overlap).map
      List.length = some 10 ∧
    ∃ l, ((prepareHuggingfaceBenchmark (uniformWorld 20 2) 20 datasetConfigs {}
        overBudgetArgs).fs {}).chunks = some l ∧
      overBudgetArgs.maxChunks + 10 < l.length := by
  have h20 : ((prepareHuggingfaceBenchmark (uniformWorld 20 2) 20 datasetConfigs {}
      overBudgetArgs).fs {}).chunks.map List.length = some 20 := by decide
  obtain ⟨l, hl, hl20⟩ := Option.map_eq_some'.mp h20
  exact ⟨by decide, by decide, by decide, l, hl, by rw [hl20]; decide⟩

section SourceFailure

variable {w : World} {fuel : Nat} {args : Args}

theorem ingest_open_failure (c : DatasetConfig) (cs : List DatasetConfig) (s : Ingest)
    (e : String) (hopen : w.loadDataset c.loadKwargs = .error e)
    (hb : (s.allChunks.length : Int) < args.maxChunks) :
    ingest w fuel args (c :: cs) s =
      (saveCheckpoint s.allChunks (s.record c.name ⟨s.allChunks, s.topicCounts, {}⟩).processed
          s.topicCounts :: (ingest w fuel args cs (s.record c.name ⟨s.allChunks, s.topicCounts, {}⟩)).1,
        (ingest w fuel args cs (s.record c.name ⟨s.allChunks, s.topicCounts, {}⟩)).2) := by
  rw [ingest_cons, if_neg (by omega)]
  simp only [processDataset, hopen]
  rfl

theorem docOutcomes_raiseAfter (chunkSize overlap : Int) (config : DatasetConfig) (exc : String) :
    ∀ (docs : List Dict) (i : Nat), (i + docs.length : Int) ≤ config.maxDocs →
      ∃ f, docOutcomes fuel chunkSize overlap config i (DocStream.raiseAfter exc docs) = .error f
  | [], _, _ => ⟨_, rfl⟩
  | doc :: docs, i, h => by
    simp only [DocStream.raiseAfter, docOutcomes]
    rw [if_neg (by simp at h; omega)]
    cases docOutcome fuel chunkSize overlap config i doc with
    | error f => exact ⟨f, rfl⟩
    | ok o =>
      obtain ⟨f, hf⟩ := docOutcomes_raiseAfter chunkSize overlap config exc docs (i + 1)
        (by simp at h ⊢; omega)
      exact ⟨f, by simp [bind, Except.bind, hf]⟩

/-- A source whose stream raises after rows within its cap ends the loop with a fault before its
checkpoint is saved. -/
theorem ingest_stream_raises (c : DatasetConfig) (cs : List DatasetConfig) (s : Ingest)
    (exc : String) (docs : List Dict)
    (hopen : w.loadDataset c.loadKwargs = .ok (DocStream.raiseAfter exc docs))
    (hcap : (docs.length : Int) ≤ c.maxDocs) (hb : (s.allChunks.length : Int) < args.maxChunks) :
    ∃ f, ingest w fuel args (c :: cs) s = ([], .error f) := by
  obtain ⟨f, hf⟩ := @docOutcomes_raiseAfter fuel args.chunkSize args.overlap c exc docs 0
    (by simpa using hcap)
  refine ⟨f, ?_⟩
  rw [ingest_cons, if_neg (by omega), processDataset_eq]
  simp [sourceOutcomes, hopen, hf, Except.map]

end SourceFailure

def failingWorld : World where
  loadDataset _ := .ok (DocStream.raiseAfter "ConnectionError" [])

theorem ingest_stream_raises_first_row :
    ∃ f, ingest failingWorld 1 {} (datasetConfigs.head (by decide) :: datasetConfigs.tail)
      (startState {} {}) = ([], .error f) :=
  ingest_stream_raises (datasetConfigs.head (by decide)) datasetConfigs.tail (startState {} {})
    "ConnectionError" [] rfl (by decide) (by decide)

end HfBenchmark
