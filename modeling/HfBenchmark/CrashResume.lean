import HfBenchmark.Contribution
import HfBenchmark.Resume

namespace HfBenchmark

section Loop

variable {w : World} {fuel : Nat} {args : Args}

theorem Ingest.save_apply_save (s s' : Ingest) (fs : FileSys) :
    s'.save.apply (s.save.apply fs) = s'.save.apply fs := by
  simp [Ingest.save, saveCheckpoint]

theorem ingest_take : ∀ (cs : List DatasetConfig) (s : Ingest) (n : Nat) (fs : FileSys),
    ∃ done post, done.map Prod.fst ++ post = cs ∧ (∀ p ∈ done, p.Valid w fuel args) ∧
      (ingest w fuel args cs s).2 = (ingest w fuel args post (s.recordAll done)).2 ∧
      ((done = [] ∧ ((ingest w fuel args cs s).1.take n).foldl (fun fs e => e.apply fs) fs = fs) ∨
        (done ≠ [] ∧ ((ingest w fuel args cs s).1.take n).foldl (fun fs e => e.apply fs) fs =
          (s.recordAll done).save.apply fs))
  | [], _, _, _ => ⟨[], [], rfl, by simp, rfl, .inl ⟨rfl, by simp [ingest]⟩⟩
  | c :: cs, _, 0, _ => ⟨[], c :: cs, rfl, by simp, rfl, .inl ⟨rfl, rfl⟩⟩
  | c :: cs, s, n + 1, fs => by
    by_cases hb : args.maxChunks ≤ s.allChunks.length
    · rw [ingest_of_budget_reached _ _ hb]
      exact ⟨[], c :: cs, rfl, by simp, (ingest_of_budget_reached _ _ hb).symm ▸ rfl,
        .inl ⟨rfl, rfl⟩⟩
    cases ho : sourceOutcomes w fuel args.chunkSize args.overlap c with
    | error f =>
      have hrun : ingest w fuel args (c :: cs) s = ([], .error f) := by
        rw [ingest_cons, if_neg hb, processDataset_eq, ho]
        rfl
      rw [hrun]
      exact ⟨[], c :: cs, rfl, by simp, by rw [Ingest.recordAll_nil, hrun], .inl ⟨rfl, rfl⟩⟩
    | ok os =>
      have hrun : ingest w fuel args (c :: cs) s =
          ((s.recordAll [(c, os)]).save :: (ingest w fuel args cs (s.recordAll [(c, os)])).1,
            (ingest w fuel args cs (s.recordAll [(c, os)])).2) := by
        rw [ingest_cons, if_neg hb, processDataset_eq, ho]
        rfl
      obtain ⟨done, post, hpost, hv, hend, hfiles⟩ :=
        ingest_take cs (s.recordAll [(c, os)]) n ((s.recordAll [(c, os)]).save.apply fs)
      refine ⟨(c, os) :: done, post, by rw [List.map_cons, List.cons_append, hpost], ?_, ?_,
        .inr ⟨List.cons_ne_nil _ _, ?_⟩⟩
      · rintro p (_ | ⟨_, hp⟩)
        exacts [ho, hv p hp]
      · rw [hrun]
        exact hend
      · rw [hrun, List.take_succ_cons, List.foldl_cons]
        rcases hfiles with ⟨rfl, h⟩ | ⟨-, h⟩
        · exact h
        · rw [h, Ingest.save_apply_save]
          rfl

theorem loadCheckpoint_finalize_take (s : Ingest) (j : Nat) (fs : FileSys) :
    loadCheckpoint (((finalize s).2.take j).foldl (fun fs e => e.apply fs) fs) =
        loadCheckpoint fs ∨
      loadCheckpoint (((finalize s).2.take j).foldl (fun fs e => e.apply fs) fs) =
        ([], {}, []) := by
  rcases j with _ | _ | _ | _ | j
  · exact .inl rfl
  all_goals simp only [finalize, List.take_succ_cons, List.take_zero, List.take_nil,
    List.foldl_cons, List.foldl_nil, Event.apply_writeChunks, Event.apply_writeMetadata,
    Event.apply_unlinkCheckpoint, Event.apply_unlinkCheckpointMeta]
  · exact .inl rfl
  · exact .inl rfl
  all_goals exact .inr rfl

@[simp] theorem loadCheckpoint_save_chunks (s : Ingest) (fs : FileSys) :
    (loadCheckpoint (s.save.apply fs)).1 = s.allChunks := by
  simp [Ingest.save, saveCheckpoint, loadCheckpoint]

@[simp] theorem loadCheckpoint_save_processed (s : Ingest) (fs : FileSys) :
    (loadCheckpoint (s.save.apply fs)).2.2 = s.processed := by
  simp [Ingest.save, saveCheckpoint, loadCheckpoint]

end Loop

/-- The files a fresh call leaves when it dies right after its `n`-th operation. -/
def interruptedAfter (w : World) (fuel : Nat) (configs : List DatasetConfig) (args : Args)
    (n : Nat) : FileSys :=
  (prepareHuggingfaceBenchmark w fuel configs {} args).crashAfter n {}

section Plans

theorem planRun_fresh (configs : List DatasetConfig) (args : Args) :
    (planRun configs (startState {} args) args).1 =
      (selectConfigs configs args.datasets).map
        (withQuota ((selectConfigs configs args.datasets).map (·.name))
          (args.maxChunks / (selectConfigs configs args.datasets).length)) := by
  rw [planRun_fst]
  simp [loadCheckpoint]

theorem filter_not_mem_take_names {sel : List DatasetConfig} (h : (sel.map (·.name)).Nodup)
    (k : Nat) : sel.filter (·.name ∉ (sel.take k).map (·.name)) = sel.drop k := by
  have hdisj : ((sel.take k).map (·.name)).Disjoint ((sel.drop k).map (·.name)) :=
    (List.nodup_append.mp (by rwa [← List.map_append, List.take_append_drop])).2.2
  calc sel.filter (·.name ∉ (sel.take k).map (·.name))
      = (sel.take k ++ sel.drop k).filter (·.name ∉ (sel.take k).map (·.name)) := by
        rw [List.take_append_drop]
    _ = sel.drop k := by
      rw [List.filter_append, List.filter_eq_nil_iff.mpr, List.filter_eq_self.mpr, List.nil_append]
      · exact fun c hc => decide_eq_true fun hm => hdisj hm (List.mem_map_of_mem _ hc)
      · exact fun c hc => by simpa using List.mem_map_of_mem (·.name) hc

theorem planRun_resumed {configs : List DatasetConfig} {args : Args} {fs : FileSys}
    (hnames : ((selectConfigs configs args.datasets).map (·.name)).Nodup)
    (hresume : args.resume = true) {done : List SourceRun} {post : List DatasetConfig}
    (hpost : done.map Prod.fst ++ post = (planRun configs (startState {} args) args).1)
    (hload : loadCheckpoint fs =
      loadCheckpoint (((startState {} args).recordAll done).save.apply {}))
    (hcap : ∀ c ∈ selectConfigs configs args.datasets, c.name ∉ (loadCheckpoint fs).2.2 →
      quotaCap c.maxDocs (args.maxChunks / (selectConfigs configs args.datasets).length) =
        quotaCap c.maxDocs ((args.maxChunks - (loadCheckpoint fs).1.length) /
          ((selectConfigs configs args.datasets).filter
            (·.name ∉ (loadCheckpoint fs).2.2)).length)) :
    (planRun configs (startState fs args) args).1 = post := by
  rw [planRun_fresh] at hpost
  rw [planRun_fst, startState_processed, startState_allChunks, if_pos hresume, if_pos hresume]
  generalize selectConfigs configs args.datasets = sel at hnames hpost hcap ⊢
  have hpre : done.map Prod.fst =
      (sel.map (withQuota (sel.map (·.name)) (args.maxChunks / sel.length))).take done.length := by
    rw [← hpost, ← List.length_map done Prod.fst, List.take_left]
  have hdrop : post =
      (sel.map (withQuota (sel.map (·.name)) (args.maxChunks / sel.length))).drop done.length := by
    rw [← hpost, ← List.length_map done Prod.fst, List.drop_left]
  have hdone : done.map (·.1.name) = (sel.take done.length).map (·.name) := by
    simpa [List.map_take, Function.comp_def] using congrArg (List.map (·.name)) hpre
  have hproc : (loadCheckpoint fs).2.2 = (sel.take done.length).map (·.name) := by
    rw [hload, loadCheckpoint_save_processed, Ingest.recordAll_processed]
    · simp [loadCheckpoint, hdone]
    · simpa [loadCheckpoint, hdone] using hnames.sublist ((List.take_sublist _ _).map _)
  rw [hproc, filter_not_mem_take_names hnames, hdrop, ← List.map_drop]
  refine List.map_congr_left fun c hc => ?_
  have hsel : c ∈ sel := List.mem_of_mem_drop hc
  have hnp : c.name ∉ (loadCheckpoint fs).2.2 := by
    rw [hproc]
    have hf : c ∈ sel.filter (·.name ∉ (sel.take done.length).map (·.name)) := by
      rwa [filter_not_mem_take_names hnames]
    exact of_decide_eq_true (List.mem_filter.mp hf).2
  have hq := hcap c hsel hnp
  rw [hproc, filter_not_mem_take_names hnames] at hq
  simp only [withQuota, List.mem_map_of_mem (·.name) hc, List.mem_map_of_mem (·.name) hsel,
    if_true, hq]

end Plans

section First

variable {w : World} {fuel : Nat} {configs : List DatasetConfig} {args : Args} {n : Nat}

theorem interruptedAfter_cases
    (hexit : ((args.datasets.map (!·.isEmpty)).getD false &&
      (selectConfigs configs args.datasets).isEmpty) = false) :
    (loadCheckpoint (interruptedAfter w fuel configs args n) = ([], {}, []) ∨
      ∃ (done : List SourceRun) (post : List DatasetConfig), done ≠ [] ∧ (∀ p ∈ done, p.Valid w fuel args) ∧
        done.map Prod.fst ++ post = (planRun configs (startState {} args) args).1 ∧
        (ingest w fuel args (planRun configs (startState {} args) args).1 (startState {} args)).2 =
          (ingest w fuel args post ((startState {} args).recordAll done)).2 ∧
        loadCheckpoint (interruptedAfter w fuel configs args n) =
          loadCheckpoint (((startState {} args).recordAll done).save.apply {})) ∧
    ∀ f, (ingest w fuel args (planRun configs (startState {} args) args).1
        (startState {} args)).2 = .error f →
      (interruptedAfter w fuel configs args n).chunks = none := by
  unfold interruptedAfter RunResult.crashAfter
  rw [RunResult.events_eq, hexit, startOk_empty]
  simp only [Bool.false_or, Bool.not_true, Bool.false_eq_true, if_false,
    List.take_append_eq_append_take, List.foldl_append]
  obtain ⟨done, post, hpost, hv, hend, hfiles⟩ := @ingest_take w fuel args
    (planRun configs (startState {} args) args).1 (startState {} args) n {}
  generalize ((ingest w fuel args (planRun configs (startState {} args) args).1
    (startState {} args)).1.take n).foldl (fun fs e => e.apply fs) {} = F at hfiles ⊢
  have hF : loadCheckpoint F = ([], {}, []) ∨ ∃ (done : List SourceRun) (post : List DatasetConfig), done ≠ [] ∧
      (∀ p ∈ done, p.Valid w fuel args) ∧
      done.map Prod.fst ++ post = (planRun configs (startState {} args) args).1 ∧
      (ingest w fuel args (planRun configs (startState {} args) args).1 (startState {} args)).2 =
        (ingest w fuel args post ((startState {} args).recordAll done)).2 ∧
      loadCheckpoint F = loadCheckpoint (((startState {} args).recordAll done).save.apply {}) := by
    rcases hfiles with ⟨-, rfl⟩ | ⟨hne, rfl⟩
    · exact .inl rfl
    · exact .inr ⟨done, post, hne, hv, hpost, hend, rfl⟩
  have hFc : F.chunks = none := by
    rcases hfiles with ⟨-, rfl⟩ | ⟨-, rfl⟩
    · rfl
    · simp [Ingest.save, saveCheckpoint]
  cases hrun : (ingest w fuel args (planRun configs (startState {} args) args).1
    (startState {} args)).2 with
  | error f₀ =>
    rw [hrun] at hF
    simp only [List.take_nil, List.foldl_nil]
    exact ⟨hF, fun _ _ => hFc⟩
  | ok s =>
    rw [hrun] at hF
    refine ⟨?_, fun _ h => nomatch h⟩
    rcases loadCheckpoint_finalize_take s _ F with h | h
    · simp only
      rw [h]
      exact hF
    · exact .inl h

end First

theorem startState_congr {fs fs' : FileSys} {args : Args}
    (h : args.resume = false ∨ loadCheckpoint fs = loadCheckpoint fs') :
    startState fs args = startState fs' args := by
  rcases h with h | h <;> simp [startState, h]

/-- A call resumed after a crash right after any operation of a fresh call writes the `chunks.jsonl`
of the uninterrupted call, when the caps it recomputes are the first call's. -/
theorem resume_after_any_crash_chunks_eq (w : World) (fuel : Nat) (configs : List DatasetConfig)
    (args : Args) (n : Nat) (hnames : ((selectConfigs configs args.datasets).map (·.name)).Nodup)
    (hcap : ∀ c ∈ selectConfigs configs args.datasets,
      c.name ∉ (loadCheckpoint (interruptedAfter w fuel configs args n)).2.2 →
      quotaCap c.maxDocs (args.maxChunks / (selectConfigs configs args.datasets).length) =
        quotaCap c.maxDocs ((args.maxChunks -
            (loadCheckpoint (interruptedAfter w fuel configs args n)).1.length) /
          ((selectConfigs configs args.datasets).filter
            (·.name ∉ (loadCheckpoint (interruptedAfter w fuel configs args n)).2.2)).length)) :
    ((prepareHuggingfaceBenchmark w fuel configs (interruptedAfter w fuel configs args n) args).fs
        (interruptedAfter w fuel configs args n)).chunks =
      ((prepareHuggingfaceBenchmark w fuel configs {} args).fs {}).chunks := by
  by_cases hexit : ((args.datasets.map (!·.isEmpty)).getD false &&
      (selectConfigs configs args.datasets).isEmpty) = true
  · -- the first call exits before its first operation
    have h0 : interruptedAfter w fuel configs args n = {} := by
      unfold interruptedAfter RunResult.crashAfter
      rw [RunResult.events_eq, if_pos (by simp [hexit]), List.take_nil]
      rfl
    rw [h0]
  obtain ⟨hload, hchunks⟩ := @interruptedAfter_cases w fuel configs args n
    (Bool.eq_false_iff.mpr hexit)
  have hstart : startOk (interruptedAfter w fuel configs args n) args = true := by
    refine startOk_of_loads fun _ => ⟨loadCheckpointFault_foldl {} _ rfl, ?_⟩
    rcases hload with hempty | ⟨done, post, -, hv, -, -, hl⟩
    · simp [hempty]
    · rw [hl, loadCheckpoint_save_chunks, Ingest.recordAll_allChunks, startState_allChunks_empty,
        List.nil_append]
      exact SourceRun.wordCountAddable hv
  rw [RunResult.fs_chunks, RunResult.fs_chunks, hstart, startOk_empty, Bool.not_true,
    Bool.or_false, if_neg hexit, if_neg hexit]
  have hrun : (ingest w fuel args
        (planRun configs (startState (interruptedAfter w fuel configs args n) args) args).1
        (startState (interruptedAfter w fuel configs args n) args)).2.map (·.allChunks) =
      (ingest w fuel args (planRun configs (startState {} args) args).1
        (startState {} args)).2.map (·.allChunks) := by
    rcases hload with hempty | ⟨done, post, -, -, hpost, hend, hl⟩
    · rw [@startState_congr _ {} _ (.inr hempty)]
    cases hres : args.resume
    · rw [startState_congr (.inl hres)]
    · rw [planRun_resumed hnames hres hpost hl hcap, hend]
      exact ingest_allChunks_congr post
        (by rw [startState_allChunks, if_pos hres, hl, loadCheckpoint_save_chunks])
  rw [hrun]
  cases h : (ingest w fuel args (planRun configs (startState {} args) args).1
    (startState {} args)).2 with
  | ok s => rfl
  | error f => exact hchunks f h

set_option maxRecDepth 8000 in
theorem resume_after_any_crash_chunks_eq_second_source :
    ((prepareHuggingfaceBenchmark resumeWorld 1 datasetConfigs
        (interruptedAfter resumeWorld 1 datasetConfigs largeBudgetArgs 2) largeBudgetArgs).fs
        (interruptedAfter resumeWorld 1 datasetConfigs largeBudgetArgs 2)).chunks =
      ((prepareHuggingfaceBenchmark resumeWorld 1 datasetConfigs {} largeBudgetArgs).fs
        {}).chunks :=
  resume_after_any_crash_chunks_eq resumeWorld 1 datasetConfigs largeBudgetArgs 2
    (selectConfigs_names_nodup _) (by decide)

end HfBenchmark
