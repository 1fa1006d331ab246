import HfBenchmark.Resume
import HfBenchmark.Records
import Mathlib.Data.List.Forall2
import Mathlib.Algebra.Order.BigOperators.Group.List

namespace HfBenchmark

theorem withQuota_frame (remaining : List String) (l : Int) (c : DatasetConfig) :
    (withQuota remaining l c).maxDocs ≤ c.maxDocs ∧
      { withQuota remaining l c with maxDocs := c.maxDocs } = c := by
  unfold withQuota quotaCap
  split
  · exact ⟨min_le_left _ _, rfl⟩
  · exact ⟨le_refl _, rfl⟩

theorem prepare_configs_frame (w : World) (fuel : Nat) (configs : List DatasetConfig)
    (fs : FileSys) (args : Args) :
    List.Forall₂ (fun c' c => c'.maxDocs ≤ c.maxDocs ∧ { c' with maxDocs := c.maxDocs } = c)
      (prepareHuggingfaceBenchmark w fuel configs fs args).configs configs := by
  have hrefl : List.Forall₂ (fun c' c => c'.maxDocs ≤ c.maxDocs ∧
      { c' with maxDocs := c.maxDocs } = c) configs configs :=
    List.forall₂_same.mpr fun c _ => ⟨le_refl _, rfl⟩
  rcases RunResult.configs_cases w fuel configs fs args with h | h <;> rw [h]
  · exact hrefl
  · dsimp only [planRun, allocateQuota]
    split
    · exact hrefl
    · exact List.forall₂_map_left_iff.mpr (List.forall₂_same.mpr fun c _ => withQuota_frame _ _ c)

theorem prepare_configs_valid (w : World) (fuel : Nat) (configs : List DatasetConfig)
    (fs : FileSys) (args : Args) (hcfg : ValidConfigs configs) :
    ValidConfigs (prepareHuggingfaceBenchmark w fuel configs fs args).configs := by
  have key : ∀ {l₁ l₂ : List DatasetConfig}, List.Forall₂ (fun c' c => c'.maxDocs ≤ c.maxDocs ∧
      { c' with maxDocs := c.maxDocs } = c) l₁ l₂ →
      l₁.map (fun c => (c.name, c.minWords)) = l₂.map (fun c => (c.name, c.minWords)) := by
    intro l₁ l₂ h
    induction h with
    | nil => rfl
    | cons hab _ ih => rw [List.map_cons, List.map_cons, ih, ← hab.2]
  have hk := key (prepare_configs_frame w fuel configs fs args)
  have hn := congrArg (List.map Prod.fst) hk
  simp only [List.map_map, Function.comp_def] at hn
  refine ⟨hn ▸ hcfg.1, fun c hc => ?_⟩
  obtain ⟨c₀, hc₀, he⟩ := List.mem_map.mp
    (hk ▸ List.mem_map_of_mem (fun c : DatasetConfig => (c.name, c.minWords)) hc)
  simp only [Prod.mk.injEq] at he
  rw [← he.1, ← he.2]
  exact hcfg.2 c₀ hc₀

section Budget

theorem planRun_maxDocs_le (configs : List DatasetConfig) (s : Ingest) (args : Args) :
    ∀ c ∈ (planRun configs s args).1, c.maxDocs ≤
      (args.maxChunks - s.allChunks.length) / (planRun configs s args).1.length / 2 := by
  intro c hc
  rw [planRun_fst] at hc ⊢
  obtain ⟨c₀, hc₀, rfl⟩ := List.mem_map.mp hc
  unfold withQuota quotaCap
  rw [if_pos (List.mem_map_of_mem _ hc₀), List.length_map]
  exact min_le_right _ _

theorem shares_le_half (b : Int) {k n : Nat} (hk : k ≤ n) :
    (k : Int) * max (b / n / 2) 0 ≤ max (b / 2) 0 := by
  rcases Nat.eq_zero_or_pos n with rfl | hn
  · simp [Nat.le_zero.mp hk]
  rcases le_total (b / n / 2) 0 with h | h
  · simp [max_eq_right h]
  rw [max_eq_left h]
  refine le_max_of_le_left (Int.le_ediv_of_mul_le (by norm_num) ?_)
  have hkn : (k : Int) ≤ n := by exact_mod_cast hk
  calc (k : Int) * (b / n / 2) * 2 ≤ n * (b / n / 2) * 2 :=
        Int.mul_le_mul_of_nonneg_right (Int.mul_le_mul_of_nonneg_right hkn h) (by norm_num)
    _ = n * (b / n / 2 * 2) := Int.mul_assoc _ _ _
    _ ≤ n * (b / n) :=
        Int.mul_le_mul_of_nonneg_left (Int.ediv_mul_le _ (by norm_num)) (Int.ofNat_nonneg n)
    _ ≤ b := Int.mul_ediv_self_le (by exact_mod_cast hn.ne')

/-- The rows a call reads come to at most half of the chunks its budget had left once the
checkpoint was loaded. -/
theorem prepare_rows_within_half_budget (w : World) (fuel : Nat) (configs : List DatasetConfig)
    (fs : FileSys) (args : Args) {st : RunStats}
    (hok : (prepareHuggingfaceBenchmark w fuel configs fs args).outcome = .ok st) :
    (((st.datasetStats.map (·.2.rows)).sum : Nat) : Int) ≤
      max ((args.maxChunks - (startState fs args).allChunks.length) / 2) 0 := by
  obtain ⟨s, hs, rfl⟩ := RunResult.outcome_eq_ok hok
  obtain ⟨done, ⟨t, ht⟩, hv, rfl⟩ := ingest_ok_recordAll _ _ s hs
  have hcap := planRun_maxDocs_le configs (startState fs args) args
  set plan := (planRun configs (startState fs args) args).1
  have hlen : done.length ≤ plan.length := by
    rw [← ht, List.length_append, List.length_map]
    omega
  set m := max ((args.maxChunks - (startState fs args).allChunks.length) / plan.length / 2) 0
  have hrow : ∀ x ∈ done.map (·.2.length), x ≤ m.toNat := by
    intro x hx
    obtain ⟨p, hp, rfl⟩ := List.mem_map.mp hx
    have hmem : p.1 ∈ plan := ht ▸ List.mem_append_left _ (List.mem_map_of_mem _ hp)
    have := (sourceOutcomes_length_le (hv p hp)).trans (max_le_max (hcap p.1 hmem) le_rfl)
    omega
  have hsum := List.sum_le_card_nsmul _ _ hrow
  rw [List.length_map, smul_eq_mul] at hsum
  have hrows : ((finalize ((startState fs args).recordAll done)).1.datasetStats.map
      (·.2.rows)).sum = (done.map (·.2.length)).sum := by
    have hnil : (startState fs args).stats.datasetStats = [] := rfl
    simp only [finalize, Ingest.recordAll_rows, hnil, List.map_nil, List.sum_nil, zero_add]
  calc ((((finalize ((startState fs args).recordAll done)).1.datasetStats.map
        (·.2.rows)).sum : Nat) : Int)
      ≤ ((done.length * m.toNat : Nat) : Int) := by rw [hrows]; exact_mod_cast hsum
    _ = done.length * m := by push_cast; rw [Int.toNat_of_nonneg (le_max_right _ _)]
    _ ≤ _ := shares_le_half _ hlen

theorem prepare_rows_within_half_budget_empty_rows :
    ∃ st, (prepareHuggingfaceBenchmark (uniformWorld 0 3) 1 datasetConfigs {}
        { maxChunks := 8 }).outcome = .ok st ∧ (st.datasetStats.map (·.2.rows)).sum = 4 ∧
      (((st.datasetStats.map (·.2.rows)).sum : Nat) : Int) ≤
        max ((8 - (startState {} { maxChunks := 8 }).allChunks.length) / 2) 0 :=
  ⟨_, rfl, by decide,
    prepare_rows_within_half_budget (uniformWorld 0 3) 1 datasetConfigs {} { maxChunks := 8 } rfl⟩

end Budget

def emptyWorld : World where
  loadDataset _ := .ok .stop

def firstCall : RunResult :=
  prepareHuggingfaceBenchmark emptyWorld 1 datasetConfigs {} { maxChunks := 8 }

/-- A second call in the process caps every source at the one row the first call with
`max_chunks=8` wrote into `DATASET_CONFIGS`. -/
theorem second_call_caps_shadowed :
    firstCall.configs.map (·.maxDocs) = [1, 1, 1, 1] ∧
    (planRun firstCall.configs (startState (firstCall.fs {}) {}) {}).1.map (·.maxDocs) =
      [1, 1, 1, 1] ∧
    (planRun datasetConfigs (startState (firstCall.fs {}) {}) {}).1.map (·.maxDocs) =
      [2500, 2500, 2500, 2500] := by
  decide

end HfBenchmark
