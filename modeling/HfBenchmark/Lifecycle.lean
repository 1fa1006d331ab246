import HfBenchmark.IngestLoop
import HfBenchmark.Metadata

namespace HfBenchmark

section Files

variable {w : World} {fuel : Nat} {configs : List DatasetConfig} {fs fs' : FileSys} {args : Args}

theorem prepare_congr_checkpoint (h₁ : fs.checkpoint = fs'.checkpoint)
    (h₂ : fs.checkpointCut = fs'.checkpointCut) (h₃ : fs.checkpointMeta = fs'.checkpointMeta) :
    prepareHuggingfaceBenchmark w fuel configs fs args =
      prepareHuggingfaceBenchmark w fuel configs fs' args := by
  have hl : loadCheckpoint fs = loadCheckpoint fs' := by simp only [loadCheckpoint, h₁, h₃]
  have hf : loadCheckpointFault fs = loadCheckpointFault fs' := by
    simp only [loadCheckpointFault, h₁, h₂, h₃]
  simp only [prepareHuggingfaceBenchmark, resumeFault, startState, hl, hf]

theorem RunResult.fs_checkpoint_of_ok {st : RunStats}
    (hok : (prepareHuggingfaceBenchmark w fuel configs fs args).outcome = .ok st) :
    ((prepareHuggingfaceBenchmark w fuel configs fs args).fs fs).checkpoint = none ∧
      ((prepareHuggingfaceBenchmark w fuel configs fs args).fs fs).checkpointCut = false ∧
      ((prepareHuggingfaceBenchmark w fuel configs fs args).fs fs).checkpointMeta = none := by
  obtain ⟨hexit, hstart, s, hs⟩ := RunResult.outcome_ok_of_eq hok
  unfold RunResult.fs
  rw [RunResult.events_eq, hexit, hstart]
  simp only [Bool.false_or, Bool.not_true, Bool.false_eq_true, if_false, hs, finalize,
    List.foldl_append, List.foldl_cons, List.foldl_nil]
  exact ⟨rfl, rfl, rfl⟩

end Files

theorem prepare_after_completed_call (w : World) (fuel : Nat) (configs : List DatasetConfig)
    (fs : FileSys) (args : Args) {st : RunStats}
    (hok : (prepareHuggingfaceBenchmark w fuel configs fs args).outcome = .ok st)
    (w' : World) (fuel' : Nat) (configs' : List DatasetConfig) (args' : Args) :
    prepareHuggingfaceBenchmark w' fuel' configs'
        ((prepareHuggingfaceBenchmark w fuel configs fs args).fs fs) args' =
      prepareHuggingfaceBenchmark w' fuel' configs' {} args' :=
  prepare_congr_checkpoint (RunResult.fs_checkpoint_of_ok hok).1
    (RunResult.fs_checkpoint_of_ok hok).2.1 (RunResult.fs_checkpoint_of_ok hok).2.2

theorem prepare_failed_call_keeps_outputs (w : World) (fuel : Nat) (configs : List DatasetConfig)
    (fs : FileSys) (args : Args) {f : Fault}
    (herr : (prepareHuggingfaceBenchmark w fuel configs fs args).outcome = .error f) :
    ((prepareHuggingfaceBenchmark w fuel configs fs args).fs fs).chunks = fs.chunks ∧
      ((prepareHuggingfaceBenchmark w fuel configs fs args).fs fs).metadata = fs.metadata := by
  have hsaves := @ingest_isSave w fuel args
    (planRun configs (startState fs args) args).1 (startState fs args)
  unfold RunResult.fs
  rw [RunResult.events_eq]
  split
  · exact ⟨rfl, rfl⟩
  · rename_i hstop
    simp only [Bool.or_eq_true, Bool.not_eq_true', not_or, Bool.not_eq_true,
      Bool.not_eq_false] at hstop
    rw [prepare_of_startOk hstop.1 hstop.2] at herr
    cases h : (ingest w fuel args (planRun configs (startState fs args) args).1
        (startState fs args)).2 with
    | error f => simpa [h] using foldl_apply_saves _ fs hsaves
    | ok s => simp [h] at herr

/-- A finished call with `--resume` writes the checkpoint's lines, in order, followed by the chunks
of the sources it ran. -/
theorem prepare_resume_extends_checkpoint (w : World) (fuel : Nat) (configs : List DatasetConfig)
    (fs : FileSys) (args : Args) (hres : args.resume = true) {st : RunStats}
    (hok : (prepareHuggingfaceBenchmark w fuel configs fs args).outcome = .ok st) :
    ∃ new, ((prepareHuggingfaceBenchmark w fuel configs fs args).fs fs).chunks =
      some ((loadCheckpoint fs).1 ++ new) := by
  obtain ⟨hexit, hstart, s, hs⟩ := RunResult.outcome_ok_of_eq hok
  obtain ⟨done, -, -, rfl⟩ := ingest_ok_recordAll _ _ s hs
  refine ⟨(done.map (contribution ·.2)).flatten, (RunResult.fs_of_ok hexit hstart hs).1.trans ?_⟩
  rw [Ingest.recordAll_allChunks]
  simp only [startState, hres, if_true]

set_option maxRecDepth 8000 in
theorem prepare_resume_extends_checkpoint_arxiv :
    ∃ st, (prepareHuggingfaceBenchmark (uniformWorld 60 1) 1 datasetConfigs arxivCrash
        arxivArgs).outcome = .ok st ∧
      ∃ new, ((prepareHuggingfaceBenchmark (uniformWorld 60 1) 1 datasetConfigs arxivCrash
        arxivArgs).fs arxivCrash).chunks = some ((loadCheckpoint arxivCrash).1 ++ new) :=
  ⟨_, rfl, prepare_resume_extends_checkpoint (uniformWorld 60 1) 1 datasetConfigs arxivCrash
    arxivArgs rfl rfl⟩

section Loop

variable {w : World} {fuel : Nat} {args : Args}

theorem ingest_ok_below_budget : ∀ (cs : List DatasetConfig) (s s' : Ingest),
    (ingest w fuel args cs s).2 = .ok s' → (s'.allChunks.length : Int) < args.maxChunks →
      ∃ done : List SourceRun, done.map Prod.fst = cs ∧ s' = s.recordAll done
  | [], s, s', h, _ => ⟨[], rfl, by cases h; rfl⟩
  | c :: cs, s, s', h, hlt => by
    rcases ingest_cons_ok h with ⟨hb, rfl⟩ | ⟨-, os, -, hrest⟩
    · exact absurd hb (not_le.mpr hlt)
    · obtain ⟨done, hdone, rfl⟩ := ingest_ok_below_budget cs _ s' hrest hlt
      exact ⟨(c, os) :: done, by rw [List.map_cons, hdone], rfl⟩

theorem ingest_chunkLines_chain : ∀ (cs : List DatasetConfig) (s : Ingest),
    List.Chain (· <+: ·) s.allChunks
      ((ingest w fuel args cs s).1.filterMap Event.chunkLines ++
        ((ingest w fuel args cs s).2.toOption.map (·.allChunks)).toList)
  | [], s => List.Chain.cons (List.prefix_refl _) .nil
  | c :: cs, s => by
    rw [ingest_cons]
    split
    · exact List.Chain.cons (List.prefix_refl _) .nil
    · cases hp : processDataset w fuel args.chunkSize args.overlap c s.allChunks s.topicCounts with
      | error f => exact .nil
      | ok p =>
        obtain ⟨os, -, rfl⟩ := processDataset_ok hp
        dsimp only [List.filterMap_cons, saveCheckpoint, Event.chunkLines, List.cons_append]
        exact List.Chain.cons ⟨contribution os, by simp [Ingest.record]⟩
          (ingest_chunkLines_chain cs _)

end Loop

/-- Every chunk list a call writes extends the one it wrote before, the first extending the chunks it
loaded. -/
theorem prepare_chunk_writes_extend (w : World) (fuel : Nat) (configs : List DatasetConfig)
    (fs : FileSys) (args : Args) :
    List.Chain (· <+: ·) (startState fs args).allChunks
      ((prepareHuggingfaceBenchmark w fuel configs fs args).events.filterMap Event.chunkLines) := by
  have hchain := @ingest_chunkLines_chain w fuel args (planRun configs (startState fs args) args).1
    (startState fs args)
  rw [RunResult.events_eq]
  split
  · exact .nil
  · revert hchain
    cases (ingest w fuel args (planRun configs (startState fs args) args).1
      (startState fs args)).2 with
    | error f => simp [Except.toOption]
    | ok s => simp [Except.toOption, finalize, List.filterMap_append, Event.chunkLines]

/-- A finished call that stays below `max_chunks` ran every selected source its checkpoint does not
list, in the order of the descriptors. -/
theorem prepare_below_budget_runs_every_source (w : World) (fuel : Nat)
    (configs : List DatasetConfig) (fs : FileSys) (args : Args) {st : RunStats}
    (hok : (prepareHuggingfaceBenchmark w fuel configs fs args).outcome = .ok st)
    (hbelow : (st.totalChunks : Int) < args.maxChunks) :
    st.sourceDatasets = ((selectConfigs configs args.datasets).filter
      (·.name ∉ if args.resume then (loadCheckpoint fs).2.2 else [])).map (·.name) := by
  obtain ⟨s, hs, rfl⟩ := RunResult.outcome_eq_ok hok
  obtain ⟨done₀, -, -, hs₀⟩ := ingest_ok_recordAll _ _ s hs
  have hagree : s.StatsAgree :=
    hs₀ ▸ Ingest.statsAgree_recordAll _ done₀ (startState_statsAgree fs args)
  obtain ⟨done, hdone, rfl⟩ := ingest_ok_below_budget _ _ s hs (hagree.1 ▸ hbelow)
  have hnil : (startState fs args).stats.sourceDatasets = [] := rfl
  simp only [finalize, Ingest.recordAll_sourceDatasets, hnil, List.nil_append,
    ← startState_processed]
  rw [show done.map (·.1.name) = (done.map Prod.fst).map (·.name) by simp, hdone, planRun_fst,
    List.map_map]
  exact List.map_congr_left fun c _ => withQuota_name _ _ c

theorem prepare_below_budget_runs_every_source_arxiv_code :
    ∃ st, (prepareHuggingfaceBenchmark resumeWorld 1 datasetConfigs {}
        { datasets := some ["arxiv", "code"] }).outcome = .ok st ∧
      (st.totalChunks : Int) < ({ datasets := some ["arxiv", "code"] } : Args).maxChunks ∧
      st.sourceDatasets = ((selectConfigs datasetConfigs (some ["arxiv", "code"])).filter
        (·.name ∉ if ({ datasets := some ["arxiv", "code"] } : Args).resume then
          (loadCheckpoint {}).2.2 else [])).map (·.name) :=
  ⟨_, rfl, by decide, prepare_below_budget_runs_every_source resumeWorld 1 datasetConfigs {}
    { datasets := some ["arxiv", "code"] } rfl (by decide)⟩

end HfBenchmark
