import HfBenchmark.Pipeline

namespace HfBenchmark

theorem selectConfigs_names_nodup (datasets : Option (List String)) :
    ((selectConfigs datasetConfigs datasets).map (·.name)).Nodup :=
  datasetConfigs_names.1.sublist ((selectConfigs_sublist _ _).map _)

section Resume

variable (w : World) (fuel : Nat) (args : Args)

def interruptedAfterFirst : FileSys :=
  (prepareHuggingfaceBenchmark w fuel datasetConfigs {} args).crashAfter 1 {}

/-- Resuming a call interrupted after the first source's checkpoint writes the chunk list of
the uninterrupted call, when the quotas recomputed on resume equal the first call's. -/
theorem resume_after_first_source_chunks_eq (A : DatasetConfig) (rest : List DatasetConfig)
    (hresume : args.resume = true) (hbudget : 0 < args.maxChunks)
    (hsel : selectConfigs datasetConfigs args.datasets = A :: rest)
    (hcap : ∀ c ∈ rest, quotaCap c.maxDocs (args.maxChunks / (rest.length + 1)) =
      quotaCap c.maxDocs ((args.maxChunks -
        (loadCheckpoint (interruptedAfterFirst w fuel args)).1.length) / rest.length)) :
    ((prepareHuggingfaceBenchmark w fuel datasetConfigs (interruptedAfterFirst w fuel args)
        args).fs (interruptedAfterFirst w fuel args)).chunks =
      ((prepareHuggingfaceBenchmark w fuel datasetConfigs {} args).fs {}).chunks := by
  have hnexit : ((args.datasets.map (!·.isEmpty)).getD false &&
      (selectConfigs datasetConfigs args.datasets).isEmpty) = false := by simp [hsel]
  have hnodup := selectConfigs_names_nodup args.datasets
  rw [hsel] at hnodup
  have hA : A.name ∉ rest.map (·.name) := (List.nodup_cons.mp hnodup).1
  set q := args.maxChunks / (rest.length + 1)
  set names := (A :: rest).map (·.name)
  have hplan : (planRun datasetConfigs (startState {} args) args).1 =
      withQuota names q A :: rest.map (withQuota names q) := by
    simp [planRun_fst, hsel, hresume, loadCheckpoint, q, names]
  have hnb : ¬ args.maxChunks ≤ ((startState {} args).allChunks.length : Int) := by
    simp [hresume, loadCheckpoint]; omega
  rw [RunResult.fs_chunks, RunResult.fs_chunks]
  simp only [hnexit, startOk_empty, Bool.false_or, Bool.not_true, Bool.false_eq_true, ↓reduceIte]
  cases hp : processDataset w fuel args.chunkSize args.overlap (withQuota names q A)
    (startState {} args).allChunks (startState {} args).topicCounts with
  | error f =>
    have hrun : ingest w fuel args (planRun datasetConfigs (startState {} args) args).1
        (startState {} args) = ([], .error f) := by
      rw [hplan, ingest_cons, if_neg hnb, hp]
    have hfs1 : interruptedAfterFirst w fuel args = {} := by
      simp only [interruptedAfterFirst, RunResult.crashAfter, RunResult.events_eq, hnexit, hrun,
        startOk_empty, Bool.false_or, Bool.not_true, Bool.false_eq_true, ↓reduceIte]
      rfl
    rw [hfs1]
    simp only [startOk_empty, Bool.not_true, Bool.false_eq_true, ↓reduceIte]
  | ok p =>
    set s1 := (startState {} args).record A.name p
    have hrun : ingest w fuel args (planRun datasetConfigs (startState {} args) args).1
        (startState {} args) =
          (saveCheckpoint s1.allChunks s1.processed s1.topicCounts ::
            (ingest w fuel args (rest.map (withQuota names q)) s1).1,
          (ingest w fuel args (rest.map (withQuota names q)) s1).2) := by
      rw [hplan, ingest_cons, if_neg hnb, hp, withQuota_name]
    have hfs1 : interruptedAfterFirst w fuel args =
        (saveCheckpoint s1.allChunks s1.processed s1.topicCounts).apply {} := by
      simp only [interruptedAfterFirst, RunResult.crashAfter, RunResult.events_eq, hnexit, hrun,
        startOk_empty, Bool.false_or, Bool.not_true, Bool.false_eq_true, ↓reduceIte]
      rfl
    have hload : (loadCheckpoint (interruptedAfterFirst w fuel args)).1 = p.chunks ∧
        (loadCheckpoint (interruptedAfterFirst w fuel args)).2.2 = [A.name] := by
      rw [hfs1]
      simp [saveCheckpoint, loadCheckpoint, s1, Ingest.record, hresume]
    have hstart : startOk (interruptedAfterFirst w fuel args) args = true := by
      refine startOk_of_loads fun _ => ⟨hfs1 ▸ Event.loadCheckpointFault_apply {} _ rfl, ?_⟩
      simpa only [hload.1, startState_allChunks_empty, List.length_nil, List.drop_zero]
        using processDataset_wordCountAddable hp
    have hrest : (A :: rest).filter (·.name ∉ [A.name]) = rest := by
      rw [List.filter_cons_of_neg (by simp), List.filter_eq_self]
      intro c hc
      have hne : c.name ≠ A.name := fun h => hA (h ▸ List.mem_map_of_mem _ hc)
      simpa using hne
    have hplan1 : (planRun datasetConfigs (startState (interruptedAfterFirst w fuel args) args)
        args).1 = rest.map (withQuota names q) := by
      rw [planRun_fst, hsel, startState_processed, startState_allChunks, if_pos hresume,
        if_pos hresume, hload.2, hrest]
      refine List.map_congr_left fun c hc => ?_
      have hcn : c.name ∈ rest.map (·.name) := List.mem_map_of_mem _ hc
      simp [withQuota, hcn, names, hcap c hc]
    rw [hstart, Bool.not_true, if_neg Bool.false_ne_true, hplan1, hrun,
      @ingest_allChunks_congr w fuel args _ _ s1 (by simp [hresume, hload.1, s1, Ingest.record]), hfs1]
    simp [saveCheckpoint]

end Resume

/-- `n` words joined by spaces. -/
def wordsText (n : Nat) : String :=
  Py.joinSpace (List.replicate n "w")

/-- A corpus where every source streams `k` copies of a row whose body fields hold `n` words. -/
def uniformWorld (n k : Nat) : World where
  loadDataset _ := .ok (DocStream.replicate [("text", .str (wordsText n)),
    ("func_documentation_string", .str (wordsText n)), ("body", .str (wordsText n))] k)

def resumeWorld : World := uniformWorld 50 3

def largeBudgetArgs : Args := { maxChunks := 40000 }

set_option maxRecDepth 8000 in
theorem resume_after_first_source_chunks_eq_large_budget :
    ((prepareHuggingfaceBenchmark resumeWorld 1 datasetConfigs
        (interruptedAfterFirst resumeWorld 1 largeBudgetArgs) largeBudgetArgs).fs
        (interruptedAfterFirst resumeWorld 1 largeBudgetArgs)).chunks =
      ((prepareHuggingfaceBenchmark resumeWorld 1 datasetConfigs {} largeBudgetArgs).fs {}).chunks :=
  resume_after_first_source_chunks_eq resumeWorld 1 largeBudgetArgs (datasetConfigs.head (by decide))
    datasetConfigs.tail rfl (by decide) (List.head_cons_tail _ _).symm (by decide)

def smallBudgetArgs : Args := { maxChunks := 8, datasets := some ["arxiv", "code"] }

set_option maxRecDepth 8000 in
/-- With a budget of eight chunks, the call resumed after `arxiv` recomputes the cap of `code` and
writes five chunks where the uninterrupted call writes four. -/
theorem resume_after_first_source_counterexample :
    0 ≤ smallBudgetArgs.overlap ∧ smallBudgetArgs.overlap < smallBudgetArgs.chunkSize ∧
    smallBudgetArgs.resume = true ∧
    (loadCheckpoint (interruptedAfterFirst resumeWorld 1 smallBudgetArgs)).2.2 = ["arxiv"] ∧
    ∃ l l', ((prepareHuggingfaceBenchmark resumeWorld 1 datasetConfigs {} smallBudgetArgs).fs
        {}).chunks = some l ∧
      ((prepareHuggingfaceBenchmark resumeWorld 1 datasetConfigs
        (interruptedAfterFirst resumeWorld 1 smallBudgetArgs) smallBudgetArgs).fs
        (interruptedAfterFirst resumeWorld 1 smallBudgetArgs)).chunks = some l' ∧
      l.length = 4 ∧ l'.length = 5 ∧ ¬ l.Perm l' := by
  have h4 : ((prepareHuggingfaceBenchmark resumeWorld 1 datasetConfigs {} smallBudgetArgs).fs
      {}).chunks.map List.length = some 4 := by decide
  have h5 : ((prepareHuggingfaceBenchmark resumeWorld 1 datasetConfigs
      (interruptedAfterFirst resumeWorld 1 smallBudgetArgs) smallBudgetArgs).fs
      (interruptedAfterFirst resumeWorld 1 smallBudgetArgs)).chunks.map List.length = some 5 := by
    decide
  obtain ⟨l, hl, hl4⟩ := Option.map_eq_some'.mp h4
  obtain ⟨l', hl', hl5⟩ := Option.map_eq_some'.mp h5
  refine ⟨by decide, by decide, rfl, by decide, l, l', hl, hl', hl4, hl5, fun hp => ?_⟩
  have := hp.length_eq
  omega

end HfBenchmark
