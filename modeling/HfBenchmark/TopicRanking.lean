import HfBenchmark.Crash
import HfBenchmark.SourceAccounting

namespace HfBenchmark

section Ranking

theorem topTopics_spec (tc : TopicCounts) :
    (topTopics tc).length = min 100 tc.length ∧
      ((topTopics tc).map Prod.snd).Pairwise (· ≥ ·) ∧
      ∃ rest, (topTopics tc ++ rest).Perm tc ∧
        ∀ e ∈ rest, ∀ f ∈ topTopics tc, e.2 ≤ f.2 := by
  set sorted := tc.mergeSort fun a b => decide (b.2 ≤ a.2)
  have hsort : sorted.Pairwise fun a b => decide (b.2 ≤ a.2) :=
    List.sorted_mergeSort (fun _ _ _ hab hbc => by simp only [decide_eq_true_eq] at *; omega)
      (fun _ _ => by simp only [Bool.or_eq_true, decide_eq_true_eq]; omega) tc
  rw [← List.take_append_drop 100 sorted, List.pairwise_append] at hsort
  refine ⟨by simp [topTopics, sorted], ?_, _, ?_,
    fun e he f hf => by simpa using hsort.2.2 f hf e he⟩
  · exact List.pairwise_map.mpr (hsort.1.imp fun h => by simpa using h)
  · rw [topTopics, List.take_append_drop]
    exact List.mergeSort_perm _ _

end Ranking

section Tally

theorem TopicCounts.count_foldl_bumpKey (u : PyValue) : ∀ (ts : List PyValue) (tc : TopicCounts),
    (ts.foldl (fun tc t => tc.bumpKey t) tc).count u = tc.count u + (ts.filter (·.keyEq u)).length
  | [], _ => rfl
  | t :: ts, tc => by
    rw [List.foldl_cons, count_foldl_bumpKey u ts, TopicCounts.count_bumpKey, List.filter_cons]
    split <;> simp_all
    omega

theorem TopicCounts.keysDistinct_foldl_bumpKey : ∀ (ts : List PyValue) {tc : TopicCounts},
    tc.KeysDistinct → (ts.foldl (fun tc t => tc.bumpKey t) tc).KeysDistinct
  | [], _, h => h
  | t :: ts, _, h => keysDistinct_foldl_bumpKey ts (keysDistinct_bumpKey t h)

theorem TopicCounts.mem_keys_foldl_bumpKey {b : PyValue} :
    ∀ {ts : List PyValue} {tc : TopicCounts},
      b ∈ (ts.foldl (fun tc t => tc.bumpKey t) tc).map Prod.fst → b ∈ tc.map Prod.fst ∨ b ∈ ts
  | [], _, h => .inl h
  | t :: ts, tc, h => by
    rcases @mem_keys_foldl_bumpKey b ts (tc.bumpKey t) h with h | h
    · rcases mem_keys_bumpKey h with h | rfl
      · exact .inl h
      · exact .inr (List.mem_cons_self _ _)
    · exact .inr (List.mem_cons_of_mem _ h)

theorem TopicCounts.count_congr (tc : TopicCounts) {a b : PyValue} (h : a.keyEq b = true) :
    tc.count a = tc.count b := by
  unfold TopicCounts.count
  congr 3
  funext e
  rw [PyValue.keyEq_comm, PyValue.keyEq_congr h, PyValue.keyEq_comm]

theorem topTopics_ranks (tc : TopicCounts) (hdist : tc.KeysDistinct)
    (hkeys : ∀ e ∈ tc, e.1.hashable = true) :
    (topTopics tc).length ≤ 100 ∧ ((topTopics tc).map Prod.snd).Pairwise (· ≥ ·) ∧
      (∀ e ∈ topTopics tc, e.2 = tc.count e.1) ∧
      ∀ t, 0 < tc.count t → (∃ e ∈ topTopics tc, e.1.keyEq t = true) ∨
        ((topTopics tc).length = 100 ∧ ∀ e ∈ topTopics tc, tc.count t ≤ e.2) := by
  obtain ⟨hlen, hsorted, rest, hperm, hrest⟩ := topTopics_spec tc
  have hvals : ∀ e ∈ tc, e.2 = tc.count e.1 := fun e he =>
    (TopicCounts.count_of_mem hdist he (hkeys e he)).symm
  refine ⟨by rw [hlen]; exact min_le_left _ _, hsorted,
    fun e he => hvals e (hperm.subset (List.mem_append_left _ he)), fun t hpos => ?_⟩
  -- a key with a positive count is, as a `dict` key, one of the keys of the counts
  obtain ⟨e₀, he₀, hk₀⟩ : ∃ e₀ ∈ tc, e₀.1.keyEq t = true := by
    by_contra hno
    push_neg at hno
    have := @TopicCounts.count_eq_zero tc t fun b hb => by
      obtain ⟨e, he, rfl⟩ := List.mem_map.mp hb
      simpa using hno e he
    omega
  rcases List.mem_append.mp (hperm.symm.subset he₀) with htop | hout
  · exact .inl ⟨e₀, htop, hk₀⟩
  · refine .inr ⟨?_, fun f hf => ?_⟩
    · have := hperm.length_eq
      rw [List.length_append] at this
      have := List.length_pos_of_mem hout
      omega
    · rw [← tc.count_congr hk₀, ← hvals e₀ he₀]
      exact hrest e₀ hout f hf

end Tally

section FirstChunks

/-- Is a record the first chunk of its document, `chunk_idx == 0`? -/
def isFirstChunk (r : Dict) : Bool :=
  r.lookup "chunk_idx" == some (.int 0)

/-- The number of documents whose first chunk in `l` carries a topic equal to `u`. -/
def firstChunksWith (l : List Dict) (u : PyValue) : Nat :=
  (l.filter fun r => isFirstChunk r && (r.lookup "topic_hint").any (·.keyEq u)).length

variable {fuel : Nat} {chunkSize overlap : Int} {config : DatasetConfig}

theorem docOutcome_topic_hashable {i : Nat} {doc : Dict} {o : DocOutcome}
    (h : docOutcome fuel chunkSize overlap config i doc = .ok o) :
    ∀ t, o.topic? = some t → t.hashable = true := by
  intro t ht
  cases o with
  | skippedEmpty | skippedShort => cases ht
  | accepted topic rs =>
    cases ht
    unfold docOutcome at h
    split at h
    · rename_i raw _
      by_cases he : raw.isEmpty = true
      · rw [if_pos he] at h
        cases h
      by_cases hm : ((Py.split (Py.strip raw)).length : Int) < config.minWords
      · rw [if_neg he, if_pos hm] at h
        cases h
      rw [if_neg he, if_neg hm] at h
      cases hx : extractTopic config doc with
      | error f => simp [hx, bind, Except.bind] at h
      | ok x =>
        cases hb : x.hashable
        · simp [hx, hb, bind, Except.bind, throw, throwThe, MonadExceptOf.throw] at h
        · cases hc : chunkText fuel (Py.strip raw) chunkSize overlap <;>
            simp [hx, hb, hc, bind, Except.bind, pure, Except.pure, Option.elim] at h
          exact h.1 ▸ hb
    · cases h

theorem docOutcome_firstChunks (hpos : 0 < config.minWords ∨ 0 < chunkSize) {i : Nat}
    {doc : Dict} {o : DocOutcome} (h : docOutcome fuel chunkSize overlap config i doc = .ok o) :
    (o.records.filter isFirstChunk).map (·.lookup "topic_hint") = o.topic?.toList.map some := by
  cases o with
  | skippedEmpty | skippedShort => rfl
  | accepted topic rs =>
    obtain ⟨text, title, chunks, hw, hc, rfl⟩ := docOutcome_accepted h
    obtain ⟨c, cs, rfl⟩ := List.exists_cons_of_ne_nil
      (hpos.elim (fun _ => chunkText_ne_nil (by omega) hc) (chunkText_ne_nil_of_pos · hc))
    simp only [DocOutcome.records, DocOutcome.topic?, List.enum_cons, List.map_cons,
      List.filter_cons, isFirstChunk, chunkRecord_chunkIdx, beq_self_eq_true, if_true,
      List.filter_map, List.map_cons, chunkRecord_topicHint, Option.toList_some]
    rw [List.filter_eq_nil_iff.mpr fun x hx => ?_]
    · rfl
    · have := (List.mem_enumFrom hx).1
      simp [isFirstChunk]
      omega

theorem sourceOutcomes_firstChunks {w : World} (hpos : 0 < config.minWords ∨ 0 < chunkSize)
    {os : List DocOutcome} (h : sourceOutcomes w fuel chunkSize overlap config = .ok os) :
    ((contribution os).filter isFirstChunk).map (·.lookup "topic_hint") =
      (os.filterMap DocOutcome.topic?).map some ∧
    ∀ t ∈ os.filterMap DocOutcome.topic?, t.hashable = true := by
  have hrows := sourceOutcomes_mem h
  clear h
  induction os with
  | nil => simp
  | cons o os ih =>
    obtain ⟨j, doc, ho⟩ := hrows o (List.mem_cons_self _ _)
    obtain ⟨ih₁, ih₂⟩ := ih fun o' ho' => hrows o' (List.mem_cons_of_mem _ ho')
    have h₁ := docOutcome_firstChunks hpos ho
    have h₂ := docOutcome_topic_hashable ho
    cases ht : o.topic? with
    | none =>
      simp only [ht, Option.toList_none, List.map_nil] at h₁
      refine ⟨?_, by simpa only [List.filterMap_cons, ht] using ih₂⟩
      simp only [contribution_cons, List.filter_append, List.map_append, h₁, ih₁,
        List.filterMap_cons, ht, List.nil_append]
    | some t =>
      simp only [ht, Option.toList_some, List.map_cons, List.map_nil] at h₁
      simp only [contribution_cons, List.filter_append, List.map_append, h₁, ih₁,
        List.filterMap_cons, ht, List.map_cons, List.singleton_append, List.mem_cons,
        forall_eq_or_imp, true_and]
      exact ⟨h₂ t ht, ih₂⟩

theorem SourcesOk.firstChunks {w : World} {args : Args} {done : List SourceRun}
    (h : SourcesOk w fuel args done) :
    (((done.map (contribution ·.2)).flatten).filter isFirstChunk).map (·.lookup "topic_hint") =
      (done.flatMap SourceRun.topics).map some ∧
    ∀ t ∈ done.flatMap SourceRun.topics, t.hashable = true := by
  induction done with
  | nil => simp
  | cons p done ih =>
    obtain ⟨hv, -, -, hmin⟩ := h.2 p (List.mem_cons_self _ _)
    obtain ⟨h₁, h₂⟩ := sourceOutcomes_firstChunks (.inl hmin) hv
    obtain ⟨ih₁, ih₂⟩ := ih h.tail
    refine ⟨?_, fun t ht => ?_⟩
    · simp only [List.map_cons, List.flatten_cons, List.filter_append, List.map_append, h₁, ih₁,
        List.flatMap_cons, SourceRun.topics]
    rcases List.mem_append.mp (List.flatMap_cons _ _ _ ▸ ht) with ht | ht
    · exact h₂ t ht
    · exact ih₂ t ht

theorem firstChunksWith_eq {l : List Dict} {ts : List PyValue}
    (h : (l.filter isFirstChunk).map (·.lookup "topic_hint") = ts.map some) (u : PyValue) :
    firstChunksWith l u = (ts.filter (·.keyEq u)).length := by
  have := congrArg (List.countP fun v : Option PyValue => v.any (·.keyEq u)) h
  rw [List.countP_map, List.countP_map, List.countP_filter] at this
  rw [firstChunksWith, ← List.countP_eq_length_filter, ← List.countP_eq_length_filter]
  refine Eq.trans (List.countP_congr fun r _ => ?_) (this.trans (by simp [Function.comp_def]))
  simp [Bool.and_comm]

end FirstChunks

theorem startState_topicCounts_of_fresh {fs : FileSys} {args : Args}
    (hfresh : (startState fs args).allChunks = []) : (startState fs args).topicCounts = [] := by
  rw [startState_allChunks] at hfresh
  dsimp only [startState]
  cases hr : args.resume
  · rfl
  · simp only [hr, if_true] at hfresh
    simp only [hr, if_true, hfresh, Bool.true_and, List.isEmpty_nil, Bool.not_true,
      Bool.false_eq_true, if_false]

/-- A call that loads no chunks returns the hundred most frequent topics of the documents it writes,
largest count first, with their counts. -/
theorem prepare_topic_counts_rank_documents (w : World) (fuel : Nat)
    (configs : List DatasetConfig) (fs : FileSys) (args : Args) (hcfg : ValidConfigs configs)
    (hfresh : (startState fs args).allChunks = []) {st : RunStats}
    (hok : (prepareHuggingfaceBenchmark w fuel configs fs args).outcome = .ok st) :
    ∃ l, ((prepareHuggingfaceBenchmark w fuel configs fs args).fs fs).chunks = some l ∧
      st.topTopics = st.topicCounts.map Prod.fst ∧ st.topicCounts.length ≤ 100 ∧
      (st.topicCounts.map Prod.snd).Pairwise (· ≥ ·) ∧
      (∀ e ∈ st.topicCounts, e.2 = firstChunksWith l e.1) ∧
      ∀ r ∈ l, isFirstChunk r = true → ∀ t, r.lookup "topic_hint" = some t →
        (∃ e ∈ st.topicCounts, e.1.keyEq t = true) ∨
        (st.topicCounts.length = 100 ∧ ∀ e ∈ st.topicCounts, firstChunksWith l t ≤ e.2) := by
  obtain ⟨hexit, hstart, -⟩ := RunResult.outcome_ok_of_eq hok
  obtain ⟨s, hs, rfl⟩ := RunResult.outcome_eq_ok hok
  have hfs := (RunResult.fs_of_ok hexit hstart hs).1
  obtain ⟨done, hpre, hv, rfl⟩ := ingest_ok_recordAll _ _ s hs
  obtain ⟨hfirst, hhash⟩ := (sourcesOk_of_planned hcfg hpre hv).1.firstChunks
  set ts := done.flatMap SourceRun.topics
  set tc : TopicCounts := ts.foldl (fun tc t => tc.bumpKey t) []
  have hfinal : ((startState fs args).recordAll done).topicCounts = tc := by
    rw [Ingest.recordAll_topicCounts, foldl_tally, startState_topicCounts_of_fresh hfresh]
  have hl : ((startState fs args).recordAll done).allChunks =
      (done.map (contribution ·.2)).flatten := by
    rw [Ingest.recordAll_allChunks, hfresh, List.nil_append]
  -- the counts are the tally of the first chunks' topics
  have hcount : ∀ u, firstChunksWith ((startState fs args).recordAll done).allChunks u =
      tc.count u := by
    intro u
    rw [hl, firstChunksWith_eq hfirst, TopicCounts.count_foldl_bumpKey]
    simp [TopicCounts.count]
  obtain ⟨hlen, hsorted, hvals, hkept⟩ := topTopics_ranks tc
    (TopicCounts.keysDistinct_foldl_bumpKey ts List.Pairwise.nil) fun e he =>
      (TopicCounts.mem_keys_foldl_bumpKey (List.mem_map_of_mem _ he)).elim
        (fun h => absurd h (List.not_mem_nil _)) (hhash e.1)
  simp only [finalize, hfinal]
  refine ⟨_, hfs, trivial, hlen, hsorted, fun e he => (hvals e he).trans (hcount e.1).symm,
    fun r hr hfr t ht => ?_⟩
  -- the topic of a first chunk is counted at least once
  have hts : t ∈ ts := by
    have : some t ∈ ts.map some := by
      rw [← hfirst, ← hl]
      exact List.mem_map_of_mem _ (List.mem_filter.mpr ⟨hr, hfr⟩) |> (ht ▸ ·)
    simpa using this
  have hpos : 0 < tc.count t := by
    rw [← hcount, hl, firstChunksWith_eq hfirst]
    exact List.length_pos.mpr (List.ne_nil_of_mem
      (List.mem_filter.mpr ⟨hts, PyValue.keyEq_self (hhash t hts)⟩))
  simpa only [hcount] using hkept t hpos

theorem prepare_topic_counts_rank_documents_fresh :
    ∃ st, (prepareHuggingfaceBenchmark resumeWorld 1 datasetConfigs {} largeBudgetArgs).outcome =
        .ok st ∧
      ∃ l, ((prepareHuggingfaceBenchmark resumeWorld 1 datasetConfigs {} largeBudgetArgs).fs
          {}).chunks = some l ∧
        st.topTopics = st.topicCounts.map Prod.fst ∧ st.topicCounts.length ≤ 100 ∧
        (st.topicCounts.map Prod.snd).Pairwise (· ≥ ·) ∧
        (∀ e ∈ st.topicCounts, e.2 = firstChunksWith l e.1) ∧
        ∀ r ∈ l, isFirstChunk r = true → ∀ t, r.lookup "topic_hint" = some t →
          (∃ e ∈ st.topicCounts, e.1.keyEq t = true) ∨
          (st.topicCounts.length = 100 ∧ ∀ e ∈ st.topicCounts, firstChunksWith l t ≤ e.2) :=
  ⟨_, rfl, prepare_topic_counts_rank_documents resumeWorld 1 datasetConfigs {} largeBudgetArgs
    datasetConfigs_valid (by decide) rfl⟩

end HfBenchmark
