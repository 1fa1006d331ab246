import HfBenchmark.Checkpoint

namespace HfBenchmark

/-- The arguments of `prepare_huggingface_benchmark`, with the defaults of its signature. -/
structure Args where
  maxChunks : Int := 20000
  chunkSize : Int := 200
  overlap : Int := 50
  datasets : Option (List String) := none
  resume : Bool := true

/-- `configs`: every descriptor, or those a non-empty `datasets` names. -/
def selectConfigs (configs : List DatasetConfig) : Option (List String) → List DatasetConfig
  | some names => if names.isEmpty then configs else configs.filter (·.name ∈ names)
  | none => configs

/-- `min(config.max_docs, per_dataset_limit // 2)`. -/
def quotaCap (maxDocs perDatasetLimit : Int) : Int :=
  min maxDocs (perDatasetLimit / 2)

/-- `config.max_docs = min(config.max_docs, per_dataset_limit // 2)` for a remaining
descriptor. -/
def withQuota (remaining : List String) (perDatasetLimit : Int) (c : DatasetConfig) :
    DatasetConfig :=
  if c.name ∈ remaining then { c with maxDocs := quotaCap c.maxDocs perDatasetLimit } else c

/-- The quota step, written into each remaining descriptor object of `DATASET_CONFIGS`. -/
def allocateQuota (configs : List DatasetConfig) (remaining : List String) (maxChunks : Int)
    (loaded : Nat) : List DatasetConfig :=
  if remaining.isEmpty then configs
  else configs.map (withQuota remaining ((maxChunks - loaded) / remaining.length))

@[simp] theorem withQuota_name (remaining : List String) (l : Int) (c : DatasetConfig) :
    (withQuota remaining l c).name = c.name := by
  unfold withQuota; split <;> rfl

@[simp] theorem withQuota_minWords (remaining : List String) (l : Int) (c : DatasetConfig) :
    (withQuota remaining l c).minWords = c.minWords := by
  unfold withQuota; split <;> rfl

theorem selectConfigs_map (f : DatasetConfig → DatasetConfig) (hf : ∀ c, (f c).name = c.name)
    (configs : List DatasetConfig) (datasets : Option (List String)) :
    selectConfigs (configs.map f) datasets = (selectConfigs configs datasets).map f := by
  cases datasets with
  | none => rfl
  | some names =>
    simp only [selectConfigs]
    split
    · rfl
    · rw [List.filter_map]
      congr 1
      exact List.filter_congr fun c _ => by simp [hf]

/-- The accumulators of one call: `all_chunks`, `topic_counts`, `processed_datasets` (a `set`,
kept in insertion order; only membership is read) and `stats`. -/
structure Ingest where
  allChunks : List Dict
  topicCounts : TopicCounts
  processed : List String
  stats : RunStats

/-- The bookkeeping after a source: its `dataset_stats` entry (each source comes once per call,
so the `dict` assignment appends), `source_datasets`, the totals, and `processed_datasets`. -/
def Ingest.record (s : Ingest) (name : String) (p : Progress) : Ingest :=
  { allChunks := p.chunks
    topicCounts := p.topicCounts
    processed := if name ∈ s.processed then s.processed else s.processed ++ [name]
    stats := { s.stats with
      datasetStats := s.stats.datasetStats ++ [(name, p.stats)]
      sourceDatasets := s.stats.sourceDatasets ++ [name]
      totalDocuments := s.stats.totalDocuments + p.stats.documents
      totalChunks := p.chunks.length
      totalWords := s.stats.totalWords + p.stats.words } }

/-- The ingest loop over `remaining_configs`: stop before a source once
`len(all_chunks) >= max_chunks`, run `process_dataset`, and save the checkpoint after it. -/
def ingest (w : World) (fuel : Nat) (args : Args) :
    List DatasetConfig → Ingest → List Event × Except Fault Ingest
  | [], s => ([], .ok s)
  | c :: cs, s =>
    if args.maxChunks ≤ s.allChunks.length then ([], .ok s)
    else
      match processDataset w fuel args.chunkSize args.overlap c s.allChunks s.topicCounts with
      | .error f => ([], .error f)
      | .ok p =>
        let s := s.record c.name p
        let rest := ingest w fuel args cs s
        (saveCheckpoint s.allChunks s.processed s.topicCounts :: rest.1, rest.2)

/-- `sorted(topic_counts.items(), key=lambda x: -x[1])[:100]`: a stable sort by count,
largest first. -/
def topTopics (tc : TopicCounts) : TopicCounts :=
  (tc.mergeSort fun a b => decide (b.2 ≤ a.2)).take 100

/-- The end of a call: `top_topics` and `topic_counts` of `stats`, then `chunks.jsonl`,
`metadata.json`, and the removal of the checkpoint files. -/
def finalize (s : Ingest) : RunStats × List Event :=
  let sorted := topTopics s.topicCounts
  let stats := { s.stats with topTopics := sorted.map Prod.fst, topicCounts := sorted }
  (stats, [.writeChunks s.allChunks, .writeMetadata stats.dump, .unlinkCheckpoint,
    .unlinkCheckpointMeta])

/-- One call of `prepare_huggingface_benchmark`: its file operations in order, the
module-level descriptors after it, and its result. -/
structure RunResult where
  events : List Event
  configs : List DatasetConfig
  outcome : Except Fault RunStats

/-- The accumulators a call starts from: the checkpoint when `resume` is set (its topic counts
only when it holds chunks), else nothing; `stats` seeded from the loaded chunks. -/
def startState (fs : FileSys) (args : Args) : Ingest :=
  let loaded := if args.resume then loadCheckpoint fs else ([], {}, [])
  let topicCounts := if args.resume && !loaded.1.isEmpty then loaded.2.1.topicCounts else []
  { allChunks := loaded.1, topicCounts := topicCounts, processed := loaded.2.2,
    stats :=
      { totalDocuments := 0, totalChunks := loaded.1.length,
        totalWords := (loaded.1.map recordWords).sum, chunkSize := args.chunkSize,
        overlap := args.overlap, sourceDatasets := [], datasetStats := [],
        topicCounts := topicCounts, topTopics := [] } }

/-- `remaining_configs` after the quota step, and the module-level descriptors it wrote into. -/
def planRun (configs : List DatasetConfig) (s : Ingest) (args : Args) :
    List DatasetConfig × List DatasetConfig :=
  let remaining := ((selectConfigs configs args.datasets).filter (·.name ∉ s.processed)).map (·.name)
  let configs := allocateQuota configs remaining args.maxChunks s.allChunks.length
  ((selectConfigs configs args.datasets).filter (·.name ∉ s.processed), configs)

/-- The exception of the `if resume:` block, the one `load_checkpoint` raises. -/
def resumeFault (fs : FileSys) (args : Args) : Option Fault :=
  if args.resume then loadCheckpointFault fs else none

/-- Does a call get past `load_checkpoint` and the `total_words` sum? -/
def startOk (fs : FileSys) (args : Args) : Bool :=
  (resumeFault fs args).isNone && (startState fs args).allChunks.all wordCountAddable

/-- `prepare_huggingface_benchmark` on the descriptors `configs`, as earlier calls in the process left
them, and the files `fs` of `output_dir`. -/
def prepareHuggingfaceBenchmark (w : World) (fuel : Nat) (configs : List DatasetConfig)
    (fs : FileSys) (args : Args) : RunResult :=
  if (args.datasets.map (!·.isEmpty)).getD false && (selectConfigs configs args.datasets).isEmpty then
    ⟨[], configs, .error (.exit 1)⟩
  else
    match resumeFault fs args with
    | some f => ⟨[], configs, .error f⟩
    | none =>
      let s := startState fs args
      let plan := planRun configs s args
      if s.allChunks.all wordCountAddable then
        let run := ingest w fuel args plan.1 s
        match run.2 with
        | .error f => ⟨run.1, plan.2, .error f⟩
        | .ok s => ⟨run.1 ++ (finalize s).2, plan.2, .ok (finalize s).1⟩
      else ⟨[], plan.2, .error (.raise "TypeError")⟩

def RunResult.fs (r : RunResult) (fs : FileSys) : FileSys :=
  r.events.foldl (fun fs e => e.apply fs) fs

/-- The files when the process dies right after the first `n` operations of a call. -/
def RunResult.crashAfter (r : RunResult) (n : Nat) (fs : FileSys) : FileSys :=
  (r.events.take n).foldl (fun fs e => e.apply fs) fs

theorem selectConfigs_sublist (configs : List DatasetConfig) (datasets : Option (List String)) :
    (selectConfigs configs datasets).Sublist configs := by
  cases datasets with
  | none => exact List.Sublist.refl _
  | some names =>
    simp only [selectConfigs]
    split
    · exact List.Sublist.refl _
    · exact List.filter_sublist _

@[simp] theorem startState_allChunks (fs : FileSys) (args : Args) :
    (startState fs args).allChunks = if args.resume then (loadCheckpoint fs).1 else [] := by
  unfold startState; split <;> rfl

@[simp] theorem startState_allChunks_empty (args : Args) : (startState {} args).allChunks = [] := by
  rw [startState_allChunks]; split <;> rfl

@[simp] theorem startState_processed (fs : FileSys) (args : Args) :
    (startState fs args).processed = if args.resume then (loadCheckpoint fs).2.2 else [] := by
  unfold startState; split <;> rfl

theorem planRun_fst (configs : List DatasetConfig) (s : Ingest) (args : Args) :
    (planRun configs s args).1 =
      ((selectConfigs configs args.datasets).filter (·.name ∉ s.processed)).map
        (withQuota (((selectConfigs configs args.datasets).filter (·.name ∉ s.processed)).map
            (·.name))
          ((args.maxChunks - s.allChunks.length) /
            ((selectConfigs configs args.datasets).filter (·.name ∉ s.processed)).length)) := by
  dsimp only [planRun, allocateQuota]
  split
  · rename_i h
    rw [List.isEmpty_iff, List.map_eq_nil_iff] at h
    rw [h]
    rfl
  · rw [selectConfigs_map _ (withQuota_name _ _), List.filter_map, List.length_map]
    congr 1
    exact List.filter_congr fun c _ => by simp

section Ingest

variable {w : World} {fuel : Nat} {args : Args}

theorem ingest_cons (c : DatasetConfig) (cs : List DatasetConfig) (s : Ingest) :
    ingest w fuel args (c :: cs) s =
      if args.maxChunks ≤ s.allChunks.length then ([], .ok s)
      else match processDataset w fuel args.chunkSize args.overlap c s.allChunks s.topicCounts with
        | .error f => ([], .error f)
        | .ok p =>
          (saveCheckpoint (s.record c.name p).allChunks (s.record c.name p).processed
              (s.record c.name p).topicCounts :: (ingest w fuel args cs (s.record c.name p)).1,
            (ingest w fuel args cs (s.record c.name p)).2) := rfl

theorem ingest_of_budget_reached (cs : List DatasetConfig) (s : Ingest)
    (h : args.maxChunks ≤ s.allChunks.length) : ingest w fuel args cs s = ([], .ok s) := by
  cases cs with
  | nil => rfl
  | cons c cs => rw [ingest_cons, if_pos h]

theorem ingest_cons_ok {c : DatasetConfig} {cs : List DatasetConfig} {s s' : Ingest}
    (h : (ingest w fuel args (c :: cs) s).2 = .ok s') :
    (args.maxChunks ≤ s.allChunks.length ∧ s' = s) ∨
      (¬ args.maxChunks ≤ s.allChunks.length ∧ ∃ os,
        sourceOutcomes w fuel args.chunkSize args.overlap c = .ok os ∧
        (ingest w fuel args cs
          (s.record c.name (Progress.applyAll ⟨s.allChunks, s.topicCounts, {}⟩ os))).2 = .ok s') := by
  rw [ingest_cons] at h
  split at h
  · exact .inl ⟨‹_›, (Except.ok.inj h).symm⟩
  · rw [processDataset_eq] at h
    cases ho : sourceOutcomes w fuel args.chunkSize args.overlap c with
    | error f => simp [ho, Except.map] at h
    | ok os => exact .inr ⟨‹_›, os, rfl, by simpa [ho, Except.map] using h⟩

theorem ingest_isSave : ∀ (cs : List DatasetConfig) (s : Ingest),
    ∀ e ∈ (ingest w fuel args cs s).1, e.isSave
  | [], _ => by simp [ingest]
  | c :: cs, s => by
    rw [ingest_cons]
    split
    · simp
    · split
      · simp
      · simpa [saveCheckpoint, Event.isSave] using ingest_isSave cs _

theorem ingest_allChunks_congr : ∀ (cs : List DatasetConfig) {s s' : Ingest},
    s.allChunks = s'.allChunks →
      (ingest w fuel args cs s).2.map (·.allChunks) = (ingest w fuel args cs s').2.map (·.allChunks)
  | [], _, _, h => by simp [ingest, Except.map, h]
  | c :: cs, s, s', h => by
    simp only [ingest_cons, h, processDataset_eq]
    split
    · simp [Except.map, h]
    · cases sourceOutcomes w fuel args.chunkSize args.overlap c with
      | error f => rfl
      | ok os => exact ingest_allChunks_congr cs (by simp [Ingest.record, h])

end Ingest

section Files

variable {w : World} {fuel : Nat} {configs : List DatasetConfig} {fs : FileSys} {args : Args}

theorem startOk_of_loads
    (h : args.resume = true → loadCheckpointFault fs = none ∧
      ∀ r ∈ (loadCheckpoint fs).1, wordCountAddable r = true) : startOk fs args = true := by
  cases hres : args.resume
  · simp [startOk, resumeFault, hres]
  · obtain ⟨hp, ha⟩ := h hres
    simpa [startOk, resumeFault, hres, hp] using ha

@[simp] theorem startOk_empty (args : Args) : startOk {} args = true :=
  startOk_of_loads fun _ => ⟨rfl, by simp [loadCheckpoint]⟩

theorem prepare_of_startOk
    (hexit : ((args.datasets.map (!·.isEmpty)).getD false &&
      (selectConfigs configs args.datasets).isEmpty) = false)
    (hstart : startOk fs args = true) :
    prepareHuggingfaceBenchmark w fuel configs fs args =
      match (ingest w fuel args (planRun configs (startState fs args) args).1
          (startState fs args)).2 with
      | .error f => ⟨(ingest w fuel args (planRun configs (startState fs args) args).1
          (startState fs args)).1, (planRun configs (startState fs args) args).2, .error f⟩
      | .ok s => ⟨(ingest w fuel args (planRun configs (startState fs args) args).1
          (startState fs args)).1 ++ (finalize s).2, (planRun configs (startState fs args) args).2,
          .ok (finalize s).1⟩ := by
  obtain ⟨hr, hw⟩ : resumeFault fs args = none ∧
      (startState fs args).allChunks.all wordCountAddable = true := by
    simpa [startOk] using hstart
  unfold prepareHuggingfaceBenchmark
  rw [if_neg (by simp [hexit]), hr]
  exact if_pos hw

theorem prepare_of_resumeFault {f : Fault}
    (hexit : ((args.datasets.map (!·.isEmpty)).getD false &&
      (selectConfigs configs args.datasets).isEmpty) = false)
    (h : resumeFault fs args = some f) :
    prepareHuggingfaceBenchmark w fuel configs fs args = ⟨[], configs, .error f⟩ := by
  unfold prepareHuggingfaceBenchmark
  rw [if_neg (by simp [hexit]), h]

theorem prepare_of_stop
    (h : (((args.datasets.map (!·.isEmpty)).getD false &&
      (selectConfigs configs args.datasets).isEmpty) || !startOk fs args) = true) :
    (prepareHuggingfaceBenchmark w fuel configs fs args).events = [] ∧
      ∃ f, (prepareHuggingfaceBenchmark w fuel configs fs args).outcome = .error f := by
  unfold prepareHuggingfaceBenchmark
  by_cases hexit : ((args.datasets.map (!·.isEmpty)).getD false &&
      (selectConfigs configs args.datasets).isEmpty) = true
  · rw [if_pos hexit]
    exact ⟨rfl, _, rfl⟩
  · rw [if_neg hexit]
    have hs : startOk fs args = false := by simpa [hexit] using h
    cases hr : resumeFault fs args with
    | some f => exact ⟨rfl, f, rfl⟩
    | none =>
      have hw : (startState fs args).allChunks.all wordCountAddable = false := by
        simpa [startOk, hr] using hs
      rw [if_neg (ne_true_of_eq_false hw)]
      exact ⟨rfl, _, rfl⟩

theorem RunResult.outcome_ok (h : (prepareHuggingfaceBenchmark w fuel configs fs args).outcome.isOk) :
    ((args.datasets.map (!·.isEmpty)).getD false &&
        (selectConfigs configs args.datasets).isEmpty) = false ∧ startOk fs args = true ∧
      ∃ s, (ingest w fuel args (planRun configs (startState fs args) args).1
        (startState fs args)).2 = .ok s := by
  by_cases hstop : (((args.datasets.map (!·.isEmpty)).getD false &&
      (selectConfigs configs args.datasets).isEmpty) || !startOk fs args) = true
  · obtain ⟨-, f, hf⟩ := prepare_of_stop hstop
    rw [hf] at h
    cases h
  · simp only [Bool.or_eq_true, Bool.not_eq_true', not_or, Bool.not_eq_true, Bool.not_eq_false] at hstop
    rw [prepare_of_startOk hstop.1 hstop.2] at h
    refine ⟨hstop.1, hstop.2, ?_⟩
    split at h
    · simp [Except.isOk, Except.toBool] at h
    · exact ⟨_, ‹_›⟩

theorem RunResult.outcome_ok_of_eq {st : RunStats}
    (h : (prepareHuggingfaceBenchmark w fuel configs fs args).outcome = .ok st) :
    ((args.datasets.map (!·.isEmpty)).getD false &&
        (selectConfigs configs args.datasets).isEmpty) = false ∧ startOk fs args = true ∧
      ∃ s, (ingest w fuel args (planRun configs (startState fs args) args).1
        (startState fs args)).2 = .ok s :=
  RunResult.outcome_ok (by simp [h, Except.isOk, Except.toBool])

theorem RunResult.outcome_eq_ok {st : RunStats}
    (h : (prepareHuggingfaceBenchmark w fuel configs fs args).outcome = .ok st) :
    ∃ s, (ingest w fuel args (planRun configs (startState fs args) args).1
      (startState fs args)).2 = .ok s ∧ st = (finalize s).1 := by
  obtain ⟨hexit, hstart, s, hs⟩ := RunResult.outcome_ok_of_eq h
  rw [prepare_of_startOk hexit hstart, hs] at h
  exact ⟨s, hs, (Except.ok.inj h).symm⟩

variable (w fuel configs fs args) in
theorem RunResult.configs_cases :
    (prepareHuggingfaceBenchmark w fuel configs fs args).configs = configs ∨
      (prepareHuggingfaceBenchmark w fuel configs fs args).configs =
        (planRun configs (startState fs args) args).2 := by
  unfold prepareHuggingfaceBenchmark
  split
  · exact .inl rfl
  · split
    · exact .inl rfl
    · dsimp only
      split
      · split <;> exact .inr rfl
      · exact .inr rfl

variable (w fuel configs fs args) in
theorem RunResult.events_eq :
    (prepareHuggingfaceBenchmark w fuel configs fs args).events =
      if (((args.datasets.map (!·.isEmpty)).getD false &&
          (selectConfigs configs args.datasets).isEmpty) || !startOk fs args) = true then []
      else (ingest w fuel args (planRun configs (startState fs args) args).1 (startState fs args)).1 ++
        match (ingest w fuel args (planRun configs (startState fs args) args).1
          (startState fs args)).2 with
        | .ok s => (finalize s).2
        | .error _ => [] := by
  split
  · exact (prepare_of_stop ‹_›).1
  · rename_i hstop
    simp only [Bool.or_eq_true, Bool.not_eq_true', not_or, Bool.not_eq_true, Bool.not_eq_false] at hstop
    rw [prepare_of_startOk hstop.1 hstop.2]
    split <;> simp_all

theorem foldl_apply_saves : ∀ (es : List Event) (fs : FileSys), (∀ e ∈ es, e.isSave) →
    (es.foldl (fun fs e => e.apply fs) fs).chunks = fs.chunks ∧
      (es.foldl (fun fs e => e.apply fs) fs).metadata = fs.metadata
  | [], _, _ => ⟨rfl, rfl⟩
  | .saveCheckpoint cs m :: es, fs, h => by
    simpa using foldl_apply_saves es _ fun e he => h e (List.mem_cons_of_mem _ he)
  | .writeChunks _ :: _, _, h | .writeMetadata _ :: _, _, h | .unlinkCheckpoint :: _, _, h
  | .unlinkCheckpointMeta :: _, _, h => by simp [Event.isSave] at h

variable (w fuel configs fs args) in
theorem RunResult.fs_chunks :
    ((prepareHuggingfaceBenchmark w fuel configs fs args).fs fs).chunks =
      if (((args.datasets.map (!·.isEmpty)).getD false &&
          (selectConfigs configs args.datasets).isEmpty) || !startOk fs args) = true then fs.chunks
      else match (ingest w fuel args (planRun configs (startState fs args) args).1
          (startState fs args)).2.map (·.allChunks) with
        | .ok l => some l
        | .error _ => fs.chunks := by
  have hs := @ingest_isSave w fuel args
    (planRun configs (startState fs args) args).1 (startState fs args)
  unfold RunResult.fs
  rw [RunResult.events_eq]
  split
  · rfl
  · cases h : (ingest w fuel args (planRun configs (startState fs args) args).1
        (startState fs args)).2 with
    | error f => simpa [h, Except.map] using (foldl_apply_saves _ fs hs).1
    | ok s => simp [h, finalize, Except.map, (foldl_apply_saves _ fs hs).1]

theorem RunResult.fs_of_ok {s : Ingest}
    (hexit : ((args.datasets.map (!·.isEmpty)).getD false &&
      (selectConfigs configs args.datasets).isEmpty) = false) (hstart : startOk fs args = true)
    (hs : (ingest w fuel args (planRun configs (startState fs args) args).1
      (startState fs args)).2 = .ok s) :
    ((prepareHuggingfaceBenchmark w fuel configs fs args).fs fs).chunks = some s.allChunks ∧
      ((prepareHuggingfaceBenchmark w fuel configs fs args).fs fs).metadata =
        some (finalize s).1.dump := by
  unfold RunResult.fs
  rw [RunResult.events_eq, hexit, hstart]
  simp [hs, finalize, List.foldl_append]

end Files

end HfBenchmark
