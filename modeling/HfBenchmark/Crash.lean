import HfBenchmark.ChunkIdentity
import HfBenchmark.Codec

namespace HfBenchmark

/-- The files when the process dies right after the first `n` durable writes of a call. -/
def RunResult.crashAtStep (r : RunResult) (n : Nat) (fs : FileSys) : FileSys :=
  FsStep.applyAll ((r.events.flatMap Event.steps).take n) fs

/-- Does a crash after the first `m` durable writes of `e` fall strictly inside a checkpoint save? -/
def Event.tornAt (e : Event) (m : Nat) : Bool :=
  e.isSave && 0 < m && m < e.steps.length

/-- Does a crash after the first `n` durable writes of the operations `es` tear a save? -/
def insideSave : List Event → Nat → Bool
  | [], _ => false
  | e :: es, n => if n < e.steps.length then e.tornAt n else insideSave es (n - e.steps.length)

def SourceRun.topics (p : SourceRun) : List PyValue :=
  p.2.filterMap DocOutcome.topic?

/-- `topic_counts` over finished sources, counted from nothing. -/
def tallyAll (done : List SourceRun) : TopicCounts :=
  done.foldl (fun tc p => tc.tally p.2) []

/-- The source runs a sequence of calls finished, in order: each call starts from a state `s` holding
the runs before it and finishes a prefix of the sources it plans from `s`, with their quotas. -/
inductive Finished (w : World) (fuel : Nat) (configs : List DatasetConfig) (args : Args) :
    List SourceRun → Prop
  | nil : Finished w fuel configs args []
  | call {done new : List SourceRun} (s : Ingest) : Finished w fuel configs args done →
      (args.resume = true ∨ done = []) → s.allChunks = (done.map (contribution ·.2)).flatten →
      s.processed.Perm (done.map (·.1.name)) →
      new.map Prod.fst <+: (planRun configs s args).1 → (∀ p ∈ new, p.Valid w fuel args) →
      Finished w fuel configs args (done ++ new)

/-- A chunk list, processed names and topic counts that hold the outputs, the names and, when all
topics are `str`, the topic tally of the runs of a sequence of calls. -/
def Consistent (w : World) (fuel : Nat) (configs : List DatasetConfig) (args : Args)
    (chunks : List Dict) (processed : List String) (tc : TopicCounts) : Prop :=
  ∃ done : List SourceRun, Finished w fuel configs args done ∧
    chunks = (done.map (contribution ·.2)).flatten ∧ processed.Perm (done.map (·.1.name)) ∧
    ((done.flatMap SourceRun.topics).all PyValue.isStr → tc = tallyAll done)

/-- What the output directory may hold: a checkpoint `load_checkpoint` reads as a consistent state,
and a `chunks.jsonl` with distinct `(source_dataset, doc_id, chunk_idx)` keys. -/
structure FilesOk (w : World) (fuel : Nat) (configs : List DatasetConfig) (args : Args)
    (fs : FileSys) : Prop where
  parses : loadCheckpointFault fs = none
  loads : Consistent w fuel configs args (loadCheckpoint fs).1 (loadCheckpoint fs).2.2
    (loadCheckpoint fs).2.1.topicCounts
  keys_nodup : ∀ l, fs.chunks = some l → (l.map recordKey).Nodup

inductive Reachable (w : World) (fuel : Nat) (configs : List DatasetConfig) (args : Args) :
    FileSys → Prop
  | empty : Reachable w fuel configs args {}
  | call {fs : FileSys} (n : Nat) : Reachable w fuel configs args fs →
      insideSave (prepareHuggingfaceBenchmark w fuel configs fs args).events n = false →
      Reachable w fuel configs args
        ((prepareHuggingfaceBenchmark w fuel configs fs args).crashAtStep n fs)

section Steps

@[simp] theorem loadCheckpoint_chunks (fs : FileSys) (l : Option (List Dict)) :
    loadCheckpoint { fs with chunks := l } = loadCheckpoint fs := rfl

@[simp] theorem loadCheckpoint_metadata (fs : FileSys) (m : Option RunStats) :
    loadCheckpoint { fs with metadata := m } = loadCheckpoint fs := rfl

@[simp] theorem loadCheckpointFault_chunks (fs : FileSys) (l : Option (List Dict)) :
    loadCheckpointFault { fs with chunks := l } = loadCheckpointFault fs := rfl

@[simp] theorem loadCheckpointFault_metadata (fs : FileSys) (m : Option RunStats) :
    loadCheckpointFault { fs with metadata := m } = loadCheckpointFault fs := rfl

theorem Event.applyAll_take_of_le (e : Event) {m : Nat} (h : e.steps.length ≤ m) (fs : FileSys) :
    FsStep.applyAll (e.steps.take m) fs = e.apply fs := by
  rw [List.take_of_length_le h]; rfl

theorem Event.applyAll_take_writeChunks (cs : List Dict) (k : Nat) (fs : FileSys) :
    FsStep.applyAll ((Event.writeChunks cs).steps.take (k + 1)) fs =
      { fs with chunks := some (cs.take k) } := by
  rw [← Event.apply_writeChunks]
  simp [Event.steps, Event.apply, List.map_take]

theorem crashAtStep_of_steps (P : FileSys → Prop) : ∀ (es : List Event),
    (∀ e ∈ es, ∀ m, e.tornAt m = false → ∀ fs, P fs → P (FsStep.applyAll (e.steps.take m) fs)) →
    ∀ n fs, insideSave es n = false → P fs →
      P (FsStep.applyAll ((es.flatMap Event.steps).take n) fs)
  | [], _, _, _, _, h => by simpa using h
  | e :: es, he, n, fs, hn, h => by
    rw [List.flatMap_cons, List.take_append_eq_append_take, FsStep.applyAll_append]
    by_cases hlt : n < e.steps.length
    · rw [insideSave, if_pos hlt] at hn
      rw [Nat.sub_eq_zero_of_le hlt.le, List.take_zero, FsStep.applyAll_nil]
      exact he e (List.mem_cons_self _ _) n hn fs h
    · rw [insideSave, if_neg hlt] at hn
      have hfull := he e (List.mem_cons_self _ _) e.steps.length (by simp [Event.tornAt]) fs h
      rw [List.take_length] at hfull
      rw [List.take_of_length_le (Nat.le_of_not_lt hlt)]
      exact crashAtStep_of_steps P es (fun e' h' => he e' (List.mem_cons_of_mem _ h')) _ _ hn hfull

end Steps

section Tally

theorem foldl_tally (done : List SourceRun) (tc : TopicCounts) :
    done.foldl (fun tc p => tc.tally p.2) tc =
      (done.flatMap SourceRun.topics).foldl (fun tc t => tc.bumpKey t) tc := by
  induction done generalizing tc with
  | nil => rfl
  | cons p done ih =>
    rw [List.foldl_cons, ih, List.flatMap_cons, List.foldl_append]; rfl

private theorem foldl_bumpKey_str : ∀ (ts : List PyValue) (tc : TopicCounts), (∀ t ∈ ts, t.isStr) →
    (∀ e ∈ tc, e.1.isStr) → (tc.map Prod.fst).Nodup →
    (∀ e ∈ ts.foldl (fun tc t => tc.bumpKey t) tc, e.1.isStr) ∧
      ((ts.foldl (fun tc t => tc.bumpKey t) tc).map Prod.fst).Nodup
  | [], _, _, hs, hn => ⟨hs, hn⟩
  | t :: ts, tc, ht, hs, hn =>
    let h := bumpKey_str t (ht t (List.mem_cons_self _ _)) tc hs hn
    foldl_bumpKey_str ts _ (fun t' h' => ht t' (List.mem_cons_of_mem _ h')) h.1 h.2

theorem tallyAll_str {done : List SourceRun} (h : (done.flatMap SourceRun.topics).all PyValue.isStr) :
    (∀ e ∈ tallyAll done, e.1.isStr) ∧ ((tallyAll done).map Prod.fst).Nodup := by
  rw [tallyAll, foldl_tally]
  exact foldl_bumpKey_str _ [] (List.all_eq_true.mp h) (by simp) List.nodup_nil

theorem SourcesOk.topics_nil {w : World} {fuel : Nat} {args : Args} {done : List SourceRun}
    (h : SourcesOk w fuel args done) (hnil : (done.map (contribution ·.2)).flatten = []) :
    done.flatMap SourceRun.topics = [] := by
  induction done with
  | nil => rfl
  | cons p done ih =>
    simp only [List.map_cons, List.flatten_cons, List.append_eq_nil] at hnil
    obtain ⟨hv, -, -, hmin⟩ := h.2 p (List.mem_cons_self _ _)
    obtain ⟨rows, hl⟩ := sourceOutcomes_layout (.inl hmin) hv
    have hrows : rows = [] := by
      have hkeys := hl.keys
      rw [hnil.1] at hkeys
      rcases rows with _ | ⟨q, rows⟩
      · rfl
      · obtain ⟨n, hn⟩ : ∃ n, q.2 = n + 1 :=
          ⟨q.2 - 1, by have := (hl.bounds q (List.mem_cons_self _ _)).2; omega⟩
        simp [slots, hn, List.range_succ_eq_map] at hkeys
    have hcount := hl.count
    rw [hrows] at hcount
    simp only [List.flatMap_cons, ih h.tail hnil.2, List.append_nil]
    exact List.length_eq_zero.mp hcount.symm

end Tally

section Invariant

variable {w : World} {fuel : Nat} {configs : List DatasetConfig} {args : Args}

@[simp] theorem Ingest.recordAll_topicCounts (s : Ingest) (done : List SourceRun) :
    (s.recordAll done).topicCounts = done.foldl (fun tc p => tc.tally p.2) s.topicCounts := by
  induction done generalizing s with
  | nil => rfl
  | cons p done ih => simp [ih, Ingest.record]

theorem SourcesOk.append {done new : List SourceRun} (h₁ : SourcesOk w fuel args done)
    (h₂ : SourcesOk w fuel args new) (hdisj : ∀ p ∈ new, p.1.name ∉ done.map (·.1.name)) :
    SourcesOk w fuel args (done ++ new) := by
  refine ⟨?_, fun p hp => ?_⟩
  · rw [List.map_append]
    exact List.nodup_append.mpr ⟨h₁.1, h₂.1, fun a ha hb => by
      obtain ⟨p, hp, rfl⟩ := List.mem_map.mp hb
      exact hdisj p hp ha⟩
  · rcases List.mem_append.mp hp with hp | hp
    exacts [h₁.2 p hp, h₂.2 p hp]

theorem Finished.sourcesOk (hcfg : ValidConfigs configs) {done : List SourceRun}
    (h : Finished w fuel configs args done) : SourcesOk w fuel args done := by
  induction h with
  | nil => exact ⟨List.nodup_nil, by simp⟩
  | call s _ _ _ hp hpre hv ih =>
    obtain ⟨hok, hnew⟩ := sourcesOk_of_planned hcfg hpre hv
    exact ih.append hok fun p hp' hm => hnew p hp' (hp.mem_iff.mpr hm)

theorem consistent_nil : Consistent w fuel configs args [] [] [] :=
  ⟨[], .nil, rfl, List.Perm.nil, fun _ => rfl⟩

theorem startState_consistent (hcfg : ValidConfigs configs) {fs : FileSys}
    (h : FilesOk w fuel configs args fs) :
    ∃ done, Finished w fuel configs args done ∧ (args.resume = true ∨ done = []) ∧
      (startState fs args).allChunks = (done.map (contribution ·.2)).flatten ∧
      (startState fs args).processed.Perm (done.map (·.1.name)) ∧
      ((done.flatMap SourceRun.topics).all PyValue.isStr →
        (startState fs args).topicCounts = tallyAll done) := by
  by_cases hr : args.resume = true
  · obtain ⟨done, hdone, hc, hp, ht⟩ := h.loads
    refine ⟨done, hdone, .inl hr, by simp [hr, hc], by simp [hr, hp], fun hs => ?_⟩
    by_cases hnil : (loadCheckpoint fs).1 = []
    · have := (hdone.sourcesOk hcfg).topics_nil (hc ▸ hnil)
      simp [startState, hr, hnil, tallyAll, foldl_tally, this]
    · simpa [startState, hr, hnil] using ht hs
  · exact ⟨[], .nil, .inr rfl, by simp [hr], by simp [hr], fun _ => by simp [startState, hr, tallyAll]⟩

theorem consistent_recordAll (hcfg : ValidConfigs configs) {s : Ingest}
    {done new : List SourceRun} (hdone : Finished w fuel configs args done)
    (hres : args.resume = true ∨ done = []) (hc : s.allChunks = (done.map (contribution ·.2)).flatten)
    (hp : s.processed.Perm (done.map (·.1.name)))
    (ht : (done.flatMap SourceRun.topics).all PyValue.isStr → s.topicCounts = tallyAll done)
    (hpre : new.map Prod.fst <+: (planRun configs s args).1) (hv : ∀ p ∈ new, p.Valid w fuel args) :
    Consistent w fuel configs args (s.recordAll new).allChunks (s.recordAll new).processed
      (s.recordAll new).topicCounts := by
  have hfin := Finished.call s hdone hres hc hp hpre hv
  have hnodup : (s.processed ++ new.map (·.1.name)).Nodup := by
    have := (hfin.sourcesOk hcfg).1
    rw [List.map_append] at this
    exact (hp.append_right _).nodup_iff.mpr this
  have hproc := Ingest.recordAll_processed _ _ hnodup
  refine ⟨done ++ new, hfin, by simp [hc], by rw [hproc, List.map_append]; exact hp.append_right _,
    fun hs => ?_⟩
  simp only [List.flatMap_append, List.all_append, Bool.and_eq_true] at hs
  rw [Ingest.recordAll_topicCounts, ht hs.1, tallyAll, tallyAll, List.foldl_append]

theorem filesOk_save {fs : FileSys} {s : Ingest}
    (hs : Consistent w fuel configs args s.allChunks s.processed s.topicCounts)
    (hfs : FilesOk w fuel configs args fs) : FilesOk w fuel configs args (s.save.apply fs) := by
  obtain ⟨d, hd, hc, hp, ht⟩ := hs
  rw [Ingest.save, saveCheckpoint, Event.apply_saveCheckpoint]
  refine ⟨rfl, ⟨d, hd, hc, hp, fun hstr => ?_⟩, hfs.keys_nodup⟩
  obtain ⟨hk, hnd⟩ := tallyAll_str hstr
  show loadObject (jsonObject s.topicCounts) = _
  rw [ht hstr, jsonObject_of_isStr _ hk, loadObject_of_nodup _ hnd]

theorem prepare_event_filesOk (hcfg : ValidConfigs configs) {fs : FileSys}
    (hfs : FilesOk w fuel configs args fs) :
    ∀ e ∈ (prepareHuggingfaceBenchmark w fuel configs fs args).events, ∀ m, e.tornAt m = false →
      ∀ fs', FilesOk w fuel configs args fs' →
        FilesOk w fuel configs args (FsStep.applyAll (e.steps.take m) fs') := by
  obtain ⟨done, hdone, hres, hc, hp, ht⟩ := startState_consistent hcfg hfs
  intro e he m hm fs' hfs'
  rcases Nat.eq_zero_or_pos m with rfl | hm0
  · simpa using hfs'
  obtain ⟨new, hpre, hv, rfl | rfl | ⟨_, rfl⟩ | rfl | rfl⟩ := prepare_event_cases he
  · -- a checkpoint save of the loop, not torn, so whole
    have hlen : ((startState fs args).recordAll new).save.steps.length ≤ m := by
      simpa [Event.tornAt, Ingest.save, saveCheckpoint, Event.isSave, hm0] using hm
    rw [Event.applyAll_take_of_le _ hlen]
    exact filesOk_save (consistent_recordAll hcfg hdone hres hc hp ht hpre hv) hfs'
  · -- `chunks.jsonl`, possibly cut short
    obtain ⟨d, hd, hc', -, -⟩ := consistent_recordAll hcfg hdone hres hc hp ht hpre hv
    obtain ⟨k, rfl⟩ : ∃ k, m = k + 1 := ⟨m - 1, by omega⟩
    rw [Event.applyAll_take_writeChunks]
    refine ⟨by simpa using hfs'.parses, by simpa using hfs'.loads, fun l hl => ?_⟩
    rw [← Option.some.inj hl, hc']
    exact (hd.sourcesOk hcfg).keys_nodup.sublist ((List.take_sublist _ _).map _)
  · rw [Event.applyAll_take_of_le (.writeMetadata _) hm0]
    exact ⟨by simpa using hfs'.parses, by simpa using hfs'.loads, by simpa using hfs'.keys_nodup⟩
  · rw [Event.applyAll_take_of_le .unlinkCheckpoint hm0]
    exact ⟨by simp [loadCheckpointFault], by simpa [loadCheckpoint] using consistent_nil,
      by simpa using hfs'.keys_nodup⟩
  · rw [Event.applyAll_take_of_le .unlinkCheckpointMeta hm0]
    exact ⟨by simp [loadCheckpointFault], by simpa [loadCheckpoint] using consistent_nil,
      by simpa using hfs'.keys_nodup⟩

end Invariant

/-- Every directory a sequence of calls leaves, each dying after any durable write outside a
checkpoint save, loads a consistent checkpoint and holds a `chunks.jsonl` without a repeated key. -/
theorem reachable_checkpoint_consistent {w : World} {fuel : Nat} {configs : List DatasetConfig}
    {args : Args} {fs : FileSys} (hcfg : ValidConfigs configs)
    (h : Reachable w fuel configs args fs) : FilesOk w fuel configs args fs := by
  induction h with
  | empty => exact ⟨rfl, consistent_nil, by simp⟩
  | call n _ hn ih =>
    exact crashAtStep_of_steps _ _ (prepare_event_filesOk hcfg ih) n _ hn ih

/-- The two sources `arxiv` and `code`. -/
def tornArgs : Args := { datasets := some ["arxiv", "code"] }

def tornRun : RunResult := prepareHuggingfaceBenchmark (uniformWorld 50 1) 1 datasetConfigs {} tornArgs

theorem reachable_checkpoint_consistent_after_saves :
    FilesOk (uniformWorld 50 1) 1 datasetConfigs tornArgs (tornRun.crashAtStep 12 {}) :=
  reachable_checkpoint_consistent datasetConfigs_valid (Reachable.call 12 Reachable.empty (by decide))

/-- The files when the first call dies after writing both chunk lines of its second save and
before truncating `checkpoint_meta.json`. -/
def tornSave : FileSys := tornRun.crashAtStep 10 {}

/-- A crash inside the second save leaves `code` chunks that `processed_datasets` does not name, or
a checkpoint `load_checkpoint` cannot read. -/
theorem checkpoint_torn_save_counterexample :
    insideSave tornRun.events 10 = true ∧
    (loadCheckpoint tornSave).1.map recordKey = [slotKey "arxiv" (0, 0), slotKey "code" (0, 0)] ∧
    (loadCheckpoint tornSave).2.2 = ["arxiv"] ∧
    ((prepareHuggingfaceBenchmark (uniformWorld 50 1) 1 datasetConfigs tornSave tornArgs).fs
        tornSave).chunks.map (·.map recordKey) =
      some [slotKey "arxiv" (0, 0), slotKey "code" (0, 0), slotKey "code" (0, 0)] ∧
    insideSave tornRun.events 9 = true ∧
    (prepareHuggingfaceBenchmark (uniformWorld 50 1) 1 datasetConfigs (tornRun.crashAtStep 9 {})
      tornArgs).outcome = .error (.raise "JSONDecodeError") ∧
    insideSave tornRun.events 11 = true ∧
    (prepareHuggingfaceBenchmark (uniformWorld 50 1) 1 datasetConfigs (tornRun.crashAtStep 11 {})
      tornArgs).outcome = .error (.raise "JSONDecodeError") :=
  ⟨by decide, by decide, by decide, by decide, by decide,
    by rw [@prepare_of_resumeFault (uniformWorld 50 1) 1 datasetConfigs _ tornArgs
      (.raise "JSONDecodeError") (by decide) (by decide)], by decide,
    by rw [@prepare_of_resumeFault (uniformWorld 50 1) 1 datasetConfigs _ tornArgs
      (.raise "JSONDecodeError") (by decide) (by decide)]⟩

end HfBenchmark
