import HfBenchmark.Records
import HfBenchmark.Resume

namespace HfBenchmark

/-- The text `generate_chunk_id` hashes for a key: `f"{source}:{doc_id}:{chunk_idx}"`. -/
def keyHashInput : Option PyValue × Option PyValue × Option PyValue → Option String
  | (some (.str s), some (.str d), some (.int i)) => some (chunkIdContent d i.toNat s)
  | _ => none

/-- The text hashed for a record's `id`, read from its own fields. -/
def recordHashInput (r : Dict) : Option String :=
  keyHashInput (recordKey r)

/-- The records of a chunk list have pairwise distinct hashed texts, and each record's `id` is the
id of its own text: two ids can then coincide only by a collision of SHA-256 prefixes. -/
def DistinctIds (l : List Dict) : Prop :=
  (l.map recordHashInput).Nodup ∧
    ∀ r ∈ l, ∃ x, recordHashInput r = some x ∧ r.lookup "id" = some (.str (uuidOfContent x))

@[simp] theorem keyHashInput_slotKey (name : String) (row idx : Nat) :
    keyHashInput (slotKey name (row, idx)) = some (chunkIdContent (docIdOf name row) idx name) := by
  simp [keyHashInput, slotKey]

theorem keyHashInput_inj {n n' : String} {row row' idx idx' : Nat} (hn : ':' ∉ n.data)
    (hn' : ':' ∉ n'.data)
    (h : keyHashInput (slotKey n (row, idx)) = keyHashInput (slotKey n' (row', idx'))) :
    slotKey n (row, idx) = slotKey n' (row', idx') := by
  simp only [keyHashInput_slotKey, Option.some.injEq] at h
  obtain ⟨rfl, hd, rfl⟩ := chunkIdContent_injective hn hn' (colon_not_mem_docIdOf hn row)
    (colon_not_mem_docIdOf hn' row') h
  simp [slotKey, hd]

variable {w : World} {fuel : Nat} {args : Args}

theorem SourcesOk.distinctIds {done : List SourceRun} (h : SourcesOk w fuel args done) :
    DistinctIds (done.map (contribution ·.2)).flatten := by
  have hrec := h.records
  have hcolon : ∀ p ∈ done, ':' ∉ p.1.name.data := fun p hp => (h.2 p hp).2.1
  refine ⟨?_, fun r hr => ?_⟩
  · rw [show ∀ l : List Dict, l.map recordHashInput = (l.map recordKey).map keyHashInput from
      fun l => by simp [recordHashInput, Function.comp_def]]
    refine h.keys_nodup.map_on fun k hk k' hk' heq => ?_
    obtain ⟨r, hr, rfl⟩ := List.mem_map.mp hk
    obtain ⟨r', hr', rfl⟩ := List.mem_map.mp hk'
    obtain ⟨p, hp, row, idx, hkey, -⟩ := hrec r hr
    obtain ⟨p', hp', row', idx', hkey', -⟩ := hrec r' hr'
    rw [hkey, hkey'] at heq ⊢
    exact keyHashInput_inj (hcolon p hp) (hcolon p' hp') heq
  · obtain ⟨p, -, row, idx, hkey, hid, -⟩ := hrec r hr
    exact ⟨_, by simp [recordHashInput, hkey], hid⟩

/-- From a call that loads no chunks, every chunk list it writes has records with distinct hashed
texts, each record's `id` the id of its own text. -/
theorem prepare_chunk_ids_distinct (w : World) (fuel : Nat) (configs : List DatasetConfig)
    (fs : FileSys) (args : Args) (hcfg : ValidConfigs configs)
    (hfresh : (startState fs args).allChunks = []) :
    ((prepareHuggingfaceBenchmark w fuel configs fs args).events.filterMap Event.chunkLines).Forall
      DistinctIds := by
  rw [List.forall_iff_forall_mem]
  intro l hl
  obtain ⟨e, he, hl⟩ := List.mem_filterMap.mp hl
  -- only the saves and the write of `chunks.jsonl` carry chunk lines
  obtain ⟨done, hpre, hv, rfl | rfl | ⟨_, rfl⟩ | rfl | rfl⟩ := prepare_event_cases he <;> cases hl
  all_goals
    rw [Ingest.recordAll_allChunks, hfresh, List.nil_append]
    exact (sourcesOk_of_planned hcfg hpre hv).1.distinctIds

theorem prepare_chunk_ids_distinct_fresh :
    ((prepareHuggingfaceBenchmark resumeWorld 1 datasetConfigs {} largeBudgetArgs).events.filterMap
      Event.chunkLines).Forall DistinctIds :=
  prepare_chunk_ids_distinct resumeWorld 1 datasetConfigs {} largeBudgetArgs datasetConfigs_valid
    (by simp [loadCheckpoint])

section Documents

/-- The keys of the records of a document `d`: row `d.2.1` of source `d.1`, cut into `d.2.2`
chunks numbered from `0`. -/
def docKeys (d : String × Nat × Nat) : List (Option PyValue × Option PyValue × Option PyValue) :=
  (List.range d.2.2).map fun k => slotKey d.1 (d.2.1, k)

theorem SourcesOk.documents {done : List SourceRun} (h : SourcesOk w fuel args done) :
    ∃ docs : List (String × Nat × Nat), (∀ d ∈ docs, 0 < d.2.2) ∧
      ((done.map (contribution ·.2)).flatten).map recordKey = docs.flatMap docKeys := by
  induction done with
  | nil => exact ⟨[], fun _ hd => absurd hd (List.not_mem_nil _), rfl⟩
  | cons p done ih =>
    obtain ⟨hv, -, -, hmin⟩ := h.2 p (List.mem_cons_self _ _)
    obtain ⟨rows, hl⟩ := sourceOutcomes_layout (.inl hmin) hv
    obtain ⟨docs, hpos, hkeys⟩ := ih h.tail
    refine ⟨rows.map (p.1.name, ·) ++ docs, fun d hd => ?_, ?_⟩
    · rcases List.mem_append.mp hd with hd | hd
      · obtain ⟨q, hq, rfl⟩ := List.mem_map.mp hd
        exact (hl.bounds q hq).2
      · exact hpos d hd
    · rw [List.map_cons, List.flatten_cons, List.map_append, hl.keys, hkeys, List.flatMap_append]
      congr 1
      simp only [slots, docKeys, List.map_flatMap, List.flatMap_map, List.map_map, Function.comp_def]

theorem docs_nodup_of_keys_nodup {docs : List (String × Nat × Nat)} (hpos : ∀ d ∈ docs, 0 < d.2.2)
    (h : (docs.flatMap docKeys).Nodup) : (docs.map fun d => (d.1, d.2.1)).Nodup := by
  have hzero : ∀ d ∈ docs, slotKey d.1 (d.2.1, 0) ∈ docKeys d := fun d hd =>
    List.mem_map.mpr ⟨0, List.mem_range.mpr (hpos d hd), rfl⟩
  refine List.pairwise_map.mpr ((List.nodup_flatMap.mp h).2.imp_of_mem fun ha hb hdis heq => ?_)
  obtain ⟨h₁, h₂⟩ := Prod.mk.inj heq
  exact hdis (hzero _ ha) (by rw [h₁, h₂]; exact hzero _ hb)

end Documents

/-- A call that loads no chunks writes `chunks.jsonl` document by document, each document once, as
consecutive lines with `chunk_idx` `0, ..., n - 1`. -/
theorem prepare_chunks_by_document (w : World) (fuel : Nat) (configs : List DatasetConfig)
    (fs : FileSys) (args : Args) (hcfg : ValidConfigs configs)
    (hfresh : (startState fs args).allChunks = []) {st : RunStats}
    (hok : (prepareHuggingfaceBenchmark w fuel configs fs args).outcome = .ok st) :
    ∃ l, ((prepareHuggingfaceBenchmark w fuel configs fs args).fs fs).chunks = some l ∧
      ∃ docs : List (String × Nat × Nat), (∀ d ∈ docs, 0 < d.2.2) ∧
        (docs.map fun d => (d.1, d.2.1)).Nodup ∧ l.map recordKey = docs.flatMap docKeys := by
  obtain ⟨hexit, hstart, s, hs⟩ := RunResult.outcome_ok_of_eq hok
  obtain ⟨done, hpre, hv, rfl⟩ := ingest_ok_recordAll _ _ s hs
  have hsrc := (sourcesOk_of_planned hcfg hpre hv).1
  obtain ⟨docs, hpos, hkeys⟩ := hsrc.documents
  refine ⟨_, (RunResult.fs_of_ok hexit hstart hs).1, docs, hpos,
    docs_nodup_of_keys_nodup hpos (hkeys ▸ hsrc.keys_nodup), ?_⟩
  rw [Ingest.recordAll_allChunks, hfresh, List.nil_append, hkeys]

theorem prepare_chunks_by_document_fresh :
    ∃ st, (prepareHuggingfaceBenchmark resumeWorld 1 datasetConfigs {} largeBudgetArgs).outcome =
        .ok st ∧
      ∃ l, ((prepareHuggingfaceBenchmark resumeWorld 1 datasetConfigs {} largeBudgetArgs).fs
          {}).chunks = some l ∧
        ∃ docs : List (String × Nat × Nat), (∀ d ∈ docs, 0 < d.2.2) ∧
          (docs.map fun d => (d.1, d.2.1)).Nodup ∧ l.map recordKey = docs.flatMap docKeys :=
  ⟨_, rfl, prepare_chunks_by_document resumeWorld 1 datasetConfigs {} largeBudgetArgs
    datasetConfigs_valid (by decide) rfl⟩

end HfBenchmark
