import HfBenchmark.Pipeline
import Mathlib.Data.List.Nodup
import Mathlib.Algebra.BigOperators.Group.List

namespace HfBenchmark

def DocOutcome.topic? : DocOutcome → Option PyValue
  | accepted topic _ => some topic
  | _ => none

def acceptedCount (os : List DocOutcome) : Nat :=
  (os.filterMap DocOutcome.topic?).length

/-- `topic_counts` after counting the topic of every accepted row in turn. -/
def TopicCounts.tally (tc : TopicCounts) (os : List DocOutcome) : TopicCounts :=
  (os.filterMap DocOutcome.topic?).foldl (fun tc t => tc.bumpKey t) tc

abbrev SourceRun := DatasetConfig × List DocOutcome

def Ingest.recordAll (s : Ingest) (done : List SourceRun) : Ingest :=
  done.foldl (fun s p => s.record p.1.name (Progress.applyAll ⟨s.allChunks, s.topicCounts, {}⟩ p.2)) s

/-- The checkpoint save the loop makes in state `s`. -/
def Ingest.save (s : Ingest) : Event :=
  saveCheckpoint s.allChunks s.processed s.topicCounts

section Progress

variable (p : Progress) (os : List DocOutcome)

@[simp] theorem Progress.applyAll_topicCounts : (p.applyAll os).topicCounts = p.topicCounts.tally os := by
  induction os generalizing p with
  | nil => rfl
  | cons o os ih => cases o <;> simp [ih, DocOutcome.apply, TopicCounts.tally, DocOutcome.topic?]

@[simp] theorem Progress.applyAll_documents :
    (p.applyAll os).stats.documents = p.stats.documents + acceptedCount os := by
  induction os generalizing p with
  | nil => rfl
  | cons o os ih =>
    cases o <;> simp [ih, DocOutcome.apply, acceptedCount, DocOutcome.topic?]
    omega

@[simp] theorem Progress.applyAll_words :
    (p.applyAll os).stats.words = p.stats.words + ((contribution os).map recordWords).sum := by
  induction os generalizing p with
  | nil => simp
  | cons o os ih =>
    cases o <;> simp [ih, DocOutcome.apply, DocOutcome.records, List.sum_append]
    omega

@[simp] theorem Progress.applyAll_chunkCount :
    (p.applyAll os).stats.chunks = p.stats.chunks + (contribution os).length := by
  induction os generalizing p with
  | nil => rfl
  | cons o os ih =>
    cases o <;> simp [ih, DocOutcome.apply, DocOutcome.records]
    omega

theorem Progress.applyAll_rows :
    (p.applyAll os).stats.documents + (p.applyAll os).stats.skippedShort +
        (p.applyAll os).stats.skippedEmpty =
      p.stats.documents + p.stats.skippedShort + p.stats.skippedEmpty + os.length := by
  induction os generalizing p with
  | nil => rfl
  | cons o os ih =>
    rw [Progress.applyAll_cons, ih]
    cases o <;> simp [DocOutcome.apply] <;> omega

end Progress

theorem TopicCounts.total_foldl_bumpKey :
    ∀ (ts : List PyValue) (tc : TopicCounts),
      (ts.foldl (fun tc t => tc.bumpKey t) tc).total = tc.total + ts.length
  | [], _ => rfl
  | t :: ts, tc => by
    rw [List.foldl_cons, total_foldl_bumpKey ts, total_bumpKey, List.length_cons]
    omega

@[simp] theorem TopicCounts.total_tally (tc : TopicCounts) (os : List DocOutcome) :
    (tc.tally os).total = tc.total + acceptedCount os :=
  total_foldl_bumpKey _ tc

section RecordAll

variable (s : Ingest) (p : SourceRun) (done : List SourceRun)

@[simp] theorem Ingest.recordAll_nil : s.recordAll [] = s := rfl

@[simp] theorem Ingest.recordAll_cons :
    s.recordAll (p :: done) =
      (s.record p.1.name (Progress.applyAll ⟨s.allChunks, s.topicCounts, {}⟩ p.2)).recordAll done :=
  rfl

@[simp] theorem Ingest.recordAll_allChunks :
    (s.recordAll done).allChunks = s.allChunks ++ (done.map (contribution ·.2)).flatten := by
  induction done generalizing s with
  | nil => simp
  | cons p done ih => simp [ih, Ingest.record]

@[simp] theorem Ingest.recordAll_totalDocuments :
    (s.recordAll done).stats.totalDocuments =
      s.stats.totalDocuments + (done.map (acceptedCount ·.2)).sum := by
  induction done generalizing s with
  | nil => simp
  | cons p done ih => simp [ih, Ingest.record]; omega

theorem Ingest.recordAll_rows :
    ((s.recordAll done).stats.datasetStats.map (·.2.rows)).sum =
      (s.stats.datasetStats.map (·.2.rows)).sum + (done.map (·.2.length)).sum := by
  induction done generalizing s with
  | nil => simp
  | cons p done ih =>
    have hrows : (Progress.applyAll ⟨s.allChunks, s.topicCounts, {}⟩ p.2).stats.rows =
        p.2.length := by
      simpa [DatasetStats.rows] using
        Progress.applyAll_rows ⟨s.allChunks, s.topicCounts, {}⟩ p.2
    rw [Ingest.recordAll_cons, ih]
    simp only [Ingest.record, List.map_append, List.sum_append, List.map_cons, List.map_nil,
      List.sum_cons, List.sum_nil, hrows]
    omega

@[simp] theorem Ingest.recordAll_sourceDatasets :
    (s.recordAll done).stats.sourceDatasets = s.stats.sourceDatasets ++ done.map (·.1.name) := by
  induction done generalizing s with
  | nil => simp
  | cons p done ih => simp [ih, Ingest.record]

@[simp] theorem Ingest.recordAll_chunkSize :
    (s.recordAll done).stats.chunkSize = s.stats.chunkSize := by
  induction done generalizing s with
  | nil => rfl
  | cons p done ih => simp [ih, Ingest.record]

theorem Ingest.recordAll_processed (h : (s.processed ++ done.map (·.1.name)).Nodup) :
    (s.recordAll done).processed = s.processed ++ done.map (·.1.name) := by
  induction done generalizing s with
  | nil => simp
  | cons p done ih =>
    have hp : p.1.name ∉ s.processed := by
      intro hm
      exact (List.nodup_append.mp h).2.2 hm (List.mem_cons_self _ _)
    rw [Ingest.recordAll_cons, ih _ (by simpa [Ingest.record, hp] using h)]
    simp [Ingest.record, hp]

/-- The totals `total_chunks` and `total_words` agree with the chunk list. -/
def Ingest.StatsAgree (s : Ingest) : Prop :=
  s.stats.totalChunks = s.allChunks.length ∧
    s.stats.totalWords = (s.allChunks.map recordWords).sum

theorem Ingest.statsAgree_recordAll (h : s.StatsAgree) : (s.recordAll done).StatsAgree := by
  induction done generalizing s with
  | nil => exact h
  | cons p done ih =>
    refine ih _ ⟨by simp [Ingest.record], ?_⟩
    simp [Ingest.record, h.2]

end RecordAll

section Loop

variable {w : World} {fuel : Nat} {args : Args}

def SourceRun.Valid (w : World) (fuel : Nat) (args : Args) (p : SourceRun) : Prop :=
  sourceOutcomes w fuel args.chunkSize args.overlap p.1 = .ok p.2

theorem SourceRun.wordCountAddable {done : List SourceRun} (hv : ∀ p ∈ done, p.Valid w fuel args) :
    ∀ r ∈ (done.map (contribution ·.2)).flatten, wordCountAddable r = true := by
  intro r hr
  obtain ⟨_, hl, hr⟩ := List.mem_flatten.mp hr
  obtain ⟨p, hp, rfl⟩ := List.mem_map.mp hl
  obtain ⟨_, hl, hr⟩ := List.mem_flatten.mp hr
  obtain ⟨o, ho, rfl⟩ := List.mem_map.mp hl
  obtain ⟨j, doc, hdoc⟩ := sourceOutcomes_mem (hv p hp) o ho
  exact docOutcome_wordCountAddable hdoc r hr

theorem ingest_ok_recordAll : ∀ (cs : List DatasetConfig) (s s' : Ingest),
    (ingest w fuel args cs s).2 = .ok s' → ∃ done : List SourceRun,
      done.map Prod.fst <+: cs ∧ (∀ p ∈ done, p.Valid w fuel args) ∧ s' = s.recordAll done
  | [], s, s', h => ⟨[], ⟨_, rfl⟩, by simp, by cases h; rfl⟩
  | c :: cs, s, s', h => by
    rcases ingest_cons_ok h with ⟨-, rfl⟩ | ⟨-, os, ho, hrest⟩
    · exact ⟨[], ⟨_, rfl⟩, by simp, rfl⟩
    · obtain ⟨done, ⟨t, ht⟩, hv, rfl⟩ := ingest_ok_recordAll cs _ s' hrest
      refine ⟨(c, os) :: done, ⟨t, by simp [ht]⟩, ?_, rfl⟩
      rintro p (_ | ⟨_, hp⟩)
      · exact ho
      · exact hv p hp

theorem ingest_saves : ∀ (cs : List DatasetConfig) (s : Ingest), ∀ e ∈ (ingest w fuel args cs s).1,
    ∃ done : List SourceRun, done.map Prod.fst <+: cs ∧ (∀ p ∈ done, p.Valid w fuel args) ∧
      e = (s.recordAll done).save
  | [], _, e, he => by simp [ingest] at he
  | c :: cs, s, e, he => by
    rw [ingest_cons] at he
    split at he
    · simp at he
    · rw [processDataset_eq] at he
      cases ho : sourceOutcomes w fuel args.chunkSize args.overlap c with
      | error f => simp [ho, Except.map] at he
      | ok os =>
        simp only [ho, Except.map, List.mem_cons] at he
        have hv : SourceRun.Valid w fuel args (c, os) := ho
        rcases he with rfl | he
        · exact ⟨[(c, os)], ⟨cs, rfl⟩, by simpa using hv, rfl⟩
        · obtain ⟨done, ⟨t, ht⟩, hvs, rfl⟩ := ingest_saves cs _ e he
          refine ⟨(c, os) :: done, ⟨t, by simp [ht]⟩, ?_, rfl⟩
          rintro p (_ | ⟨_, hp⟩)
          · exact hv
          · exact hvs p hp

theorem prepare_event_cases {configs : List DatasetConfig} {fs : FileSys} {e : Event}
    (he : e ∈ (prepareHuggingfaceBenchmark w fuel configs fs args).events) :
    ∃ done : List SourceRun, done.map Prod.fst <+: (planRun configs (startState fs args) args).1 ∧
      (∀ p ∈ done, p.Valid w fuel args) ∧
      (e = ((startState fs args).recordAll done).save ∨
        e = .writeChunks ((startState fs args).recordAll done).allChunks ∨
        (∃ m, e = .writeMetadata m) ∨ e = .unlinkCheckpoint ∨ e = .unlinkCheckpointMeta) := by
  rw [RunResult.events_eq] at he
  split at he
  · exact absurd he (List.not_mem_nil _)
  rcases List.mem_append.mp he with he | he
  · obtain ⟨done, hpre, hv, rfl⟩ := ingest_saves _ _ e he
    exact ⟨done, hpre, hv, .inl rfl⟩
  · split at he
    · rename_i s hs
      obtain ⟨done, hpre, hv, rfl⟩ := ingest_ok_recordAll _ _ s hs
      simp only [finalize, List.mem_cons, List.mem_singleton, List.not_mem_nil, or_false] at he
      exact ⟨done, hpre, hv, .inr (he.imp_right (Or.imp_left fun h => ⟨_, h⟩))⟩
    · simp at he

end Loop

end HfBenchmark
