import HfBenchmark.Resume
import Mathlib.Data.List.Nodup

namespace HfBenchmark

section RoundTrip

theorem setKey_of_not_mem (d : TopicCounts) (k : PyValue) (v : Nat) (h : k ∉ d.map Prod.fst) :
    setKey d k v = d ++ [(k, v)] := by
  have : d.any (·.1 == k) = false := List.any_eq_false.mpr fun e he hk =>
    h (List.mem_map.mpr ⟨e, he, by simpa using hk⟩)
  simp [setKey, this]

theorem setKey_keys (d : TopicCounts) (k : PyValue) (v : Nat) :
    ∀ e ∈ setKey d k v, e.1 ∈ d.map Prod.fst ∨ e.1 = k := by
  unfold setKey
  split
  · intro e he
    obtain ⟨e', he', rfl⟩ := List.mem_map.mp he
    refine .inl (List.mem_map.mpr ⟨e', he', ?_⟩)
    split <;> rfl
  · simp only [List.mem_append, List.mem_singleton]
    rintro e (he | rfl)
    · exact .inl (List.mem_map_of_mem _ he)
    · exact .inr rfl

private theorem foldl_setKey_of_nodup : ∀ (l d : TopicCounts),
    (d.map Prod.fst ++ l.map Prod.fst).Nodup → l.foldl (fun d e => setKey d e.1 e.2) d = d ++ l
  | [], d, _ => by simp
  | e :: l, d, h => by
    have hk : e.1 ∉ d.map Prod.fst := fun hm =>
      (List.nodup_append.mp h).2.2 hm (List.mem_cons_self _ _)
    rw [List.foldl_cons, setKey_of_not_mem d e.1 e.2 hk, foldl_setKey_of_nodup l]
    · simp
    · simpa using h

theorem loadObject_of_nodup (tc : TopicCounts) (h : (tc.map Prod.fst).Nodup) :
    loadObject tc = tc := by
  simpa using foldl_setKey_of_nodup tc [] (by simpa using h)

theorem jsonObject_of_isStr (tc : TopicCounts) (h : ∀ e ∈ tc, e.1.isStr) : jsonObject tc = tc := by
  conv_rhs => rw [← List.map_id tc]
  refine List.map_congr_left fun ⟨k, n⟩ he => ?_
  have hk := h _ he
  cases k <;> simp_all [PyValue.isStr, PyValue.jsonKey]

theorem loadObject_jsonObject_isStr (tc : TopicCounts) :
    ∀ e ∈ loadObject (jsonObject tc), e.1.isStr := by
  suffices ∀ (l d : TopicCounts), (∀ e ∈ d, e.1.isStr) → (∀ e ∈ l, e.1.isStr) →
      ∀ e ∈ l.foldl (fun d e => setKey d e.1 e.2) d, e.1.isStr from
    this _ [] (by simp) fun e he => by
      obtain ⟨⟨k, n⟩, -, rfl⟩ := List.mem_map.mp he
      rfl
  intro l
  induction l with
  | nil => exact fun d hd _ => hd
  | cons e l ih =>
    intro d hd hl
    refine ih _ (fun e' he' => ?_) (fun e' he' => hl e' (List.mem_cons_of_mem _ he'))
    rcases setKey_keys d e.1 e.2 e' he' with hm | heq
    · obtain ⟨e'', he'', hk⟩ := List.mem_map.mp hm
      exact hk ▸ hd e'' he''
    · exact heq ▸ hl e (List.mem_cons_self _ _)

theorem loadCheckpoint_saveCheckpoint (fs : FileSys) (chunks : List Dict) (processed : List String)
    (tc : TopicCounts) (hstr : ∀ e ∈ tc, e.1.isStr) (hnodup : (tc.map Prod.fst).Nodup) :
    loadCheckpoint ((saveCheckpoint chunks processed tc).apply fs) =
      (chunks, { processedDatasets := processed, topicCounts := tc }, processed) := by
  simp [saveCheckpoint, loadCheckpoint, jsonObject_of_isStr tc hstr, loadObject_of_nodup tc hnodup]

theorem loadCheckpoint_saveCheckpoint_ne (fs : FileSys) (chunks : List Dict)
    (processed : List String) (tc : TopicCounts) (h : ∃ e ∈ tc, e.1.isStr = false) :
    (loadCheckpoint ((saveCheckpoint chunks processed tc).apply fs)).2.1.topicCounts ≠ tc := by
  obtain ⟨e, he, hs⟩ := h
  intro heq
  have := loadObject_jsonObject_isStr tc e
  simp only [saveCheckpoint, Event.apply_saveCheckpoint, loadCheckpoint] at heq
  rw [heq, hs] at this
  exact absurd (this he) (by simp)

theorem bumpKey_keys (t : PyValue) : ∀ (tc : TopicCounts),
    ∀ e ∈ tc.bumpKey t, e.1 ∈ tc.map Prod.fst ∨ e.1 = t
  | [] => by simp [TopicCounts.bumpKey]
  | (k, n) :: rest => by
    simp only [TopicCounts.bumpKey]
    split
    · rintro e (_ | ⟨_, he⟩)
      · exact .inl (List.mem_cons_self _ _)
      · exact .inl (List.mem_cons_of_mem _ (List.mem_map_of_mem _ he))
    · rintro e (_ | ⟨_, he⟩)
      · exact .inl (List.mem_cons_self _ _)
      · rcases bumpKey_keys t rest e he with h | h
        · exact .inl (List.mem_cons_of_mem _ h)
        · exact .inr h

theorem bumpKey_str (t : PyValue) (ht : t.isStr) : ∀ (tc : TopicCounts),
    (∀ e ∈ tc, e.1.isStr) → (tc.map Prod.fst).Nodup →
      (∀ e ∈ tc.bumpKey t, e.1.isStr) ∧ ((tc.bumpKey t).map Prod.fst).Nodup
  | [], _, _ => by simp [TopicCounts.bumpKey, ht]
  | (k, n) :: rest, hs, hn => by
    rw [List.forall_mem_cons] at hs
    obtain ⟨hkn, hnd⟩ := List.nodup_cons.mp hn
    simp only [TopicCounts.bumpKey]
    split
    · exact ⟨List.forall_mem_cons.mpr hs, by simpa using hn⟩
    · rename_i hne
      obtain ⟨ih₁, ih₂⟩ := bumpKey_str t ht rest hs.2 hnd
      refine ⟨List.forall_mem_cons.mpr ⟨hs.1, ih₁⟩, List.nodup_cons.mpr ⟨fun hm => ?_, ih₂⟩⟩
      -- a key new to `rest` is `t`, and `k` is not `t`: `keyEq` is equality on `str` keys
      obtain ⟨e, he, hek⟩ := List.mem_map.mp hm
      rcases bumpKey_keys t rest e he with h | h
      · exact hkn (hek ▸ h)
      · obtain rfl : k = t := hek.symm.trans h
        obtain ⟨a, rfl⟩ : ∃ a, k = .str a := by cases k <;> simp [PyValue.isStr] at ht ⊢
        simp [PyValue.keyEq] at hne

end RoundTrip

/-- Every source streams one forty-word row whose `tags` field is the list `[3]`. -/
def tagWorld : World where
  loadDataset _ := .ok (DocStream.replicate
    [("body", .str (wordsText 40)), ("tags", .list [.int 3])] 1)

/-- The `stackoverflow` source alone, whose topic field is `tags`. -/
def tagArgs : Args := { datasets := some ["stackoverflow"] }

set_option maxRecDepth 8000 in
/-- `extract_topic` returns the first tag as it is, the `int` 3; `json.dumps` writes the key as
`"3"`, so the checkpoint loads back the `str` key `"3"` in its place. -/
theorem checkpoint_topic_key_not_restored :
    (ingest tagWorld 1 tagArgs (planRun datasetConfigs (startState {} tagArgs) tagArgs).1
        (startState {} tagArgs)).2.toOption.map (·.topicCounts) = some [(.int 3, 1)] ∧
    (loadCheckpoint (interruptedAfterFirst tagWorld 1 tagArgs)).2.1.topicCounts =
      [(.str "3", 1)] := by
  decide

end HfBenchmark
