import HfBenchmark.SourceAccounting

namespace HfBenchmark

section Text

variable {text : String} {chunkSize overlap : Int}

theorem chunkText_width_bounds (hov : 0 ≤ overlap) (hlt : overlap < chunkSize) {fuel : Nat}
    {r : List Window} (hr : chunkText fuel text chunkSize overlap = some r) :
    ∀ w ∈ r, min overlap (Py.split text).length ≤ w.2.2 - w.2.1 ∧
      w.2.2 - w.2.1 ≤ chunkSize := by
  intro w hw
  refine ⟨?_, chunkText_width hr w hw⟩
  by_cases hW : chunkSize < (Py.split text).length
  · obtain ⟨-, hmap, hmid, -⟩ := chunkText_spec hov hlt hW hr
    obtain ⟨k, hk, rfl⟩ := List.getElem_of_mem hw
    have hat := getElem_offsets hmap k hk
    simp only [windowAt] at hat
    rw [hat.1, hat.2]
    cases k with
    | zero => simp only [Nat.cast_zero, zero_mul, zero_add, sub_zero]; omega
    | succ k =>
      have hc := (hmid k hk).1
      push_cast at hc ⊢
      have : ((k : Int) + 1) * (chunkSize - overlap) =
          k * (chunkSize - overlap) + (chunkSize - overlap) := by
        ring
      omega
  · simp only [chunkText, not_lt.mp hW, if_true, Option.some.injEq] at hr
    subst hr
    obtain rfl := List.mem_singleton.mp hw
    simp

theorem chunkText_length_of_eq (hov : 0 ≤ overlap) (hlt : overlap < chunkSize)
    (hW : chunkSize < (Py.split text).length) {fuel : Nat} {r : List Window}
    (hr : chunkText fuel text chunkSize overlap = some r) :
    (r.length : Int) = ((Py.split text).length - chunkSize) / (chunkSize - overlap) + 2 -
      if overlap = 0 ∧ (chunkSize - overlap) ∣ ((Py.split text).length - chunkSize) then 1 else 0 := by
  have hs : 0 < chunkSize - overlap := by omega
  have hq₁ := Int.ediv_mul_le ((Py.split text).length - chunkSize) hs.ne'
  have hq₂ := Int.lt_ediv_add_one_mul_self ((Py.split text).length - chunkSize) hs
  have hq₀ : 0 ≤ ((Py.split text).length - chunkSize) / (chunkSize - overlap) :=
    Int.ediv_nonneg (by omega) hs.le
  generalize hq : ((Py.split text).length - chunkSize) / (chunkSize - overlap) = q at *
  -- `Continues j` compares `j * stride` with the document; indices compare as their multiples
  have hmul : ∀ a b : Int, a ≤ b → a * (chunkSize - overlap) ≤ b * (chunkSize - overlap) :=
    fun a b h => mul_le_mul_of_nonneg_right h hs.le
  by_cases hdiv : overlap = 0 ∧ (chunkSize - overlap) ∣ ((Py.split text).length - chunkSize)
  · -- the windows tile the document and the last one ends at `W`
    have hqs : q * (chunkSize - overlap) = (Py.split text).length - chunkSize := by
      obtain ⟨c, hc⟩ := hdiv.2
      rw [← hq, hc, Int.mul_ediv_cancel_left c hs.ne', mul_comm]
    rw [if_pos hdiv, chunkText_length_eq hov hlt hW hr q.toNat (fun j hj => ?_) ?_]
    · push_cast; omega
    · rintro ⟨-, h₂⟩
      rw [Int.toNat_of_nonneg hq₀] at h₂
      linarith only [h₂, hqs, hdiv.1]
    · have hjq := hmul (j + 1) q (by omega)
      simp only [Continues]
      push_cast at hjq ⊢
      constructor <;> linarith only [hjq, hqs, hs, hov, hlt]
  · rw [if_neg hdiv, chunkText_length_eq hov hlt hW hr (q + 1).toNat (fun j hj => ?_) ?_]
    · push_cast; omega
    · rintro ⟨h₁, -⟩
      rw [Int.toNat_of_nonneg (by omega)] at h₁
      linarith only [h₁, hq₂]
    · have hjq := hmul j q (by omega)
      simp only [Continues]
      push_cast at hjq ⊢
      refine ⟨by linarith only [hjq, hq₁], ?_⟩
      rcases eq_or_lt_of_le hov with h0 | h0
      · -- no overlap: the stride is `chunk_size`, which does not divide `W - chunk_size`
        have hne : q * (chunkSize - overlap) ≠ (Py.split text).length - chunkSize :=
          fun h => hdiv ⟨h0.symm, q, by rw [← h, mul_comm]⟩
        have hq₁' := lt_of_le_of_ne hq₁ hne
        subst h0
        linarith only [hjq, hq₁']
      · linarith only [hjq, hq₁, h0]

/-- For `0 <= overlap < chunk_size`, `chunk_text` returns on a text of `W > chunk_size` words once the
fuel exceeds `W`, with `(W - chunk_size) // stride + 2` chunks, one fewer when the windows tile it. -/
theorem chunkText_count (hov : 0 ≤ overlap) (hlt : overlap < chunkSize)
    (hW : chunkSize < (Py.split text).length) :
    ∃ fuel₀, ∀ fuel, fuel₀ ≤ fuel → ∃ r, chunkText fuel text chunkSize overlap = some r ∧
      (r.length : Int) = ((Py.split text).length - chunkSize) / (chunkSize - overlap) + 2 -
        if overlap = 0 ∧ (chunkSize - overlap) ∣ ((Py.split text).length - chunkSize) then 1
        else 0 := by
  refine ⟨(Py.split text).length + 1, fun fuel hf => ?_⟩
  have hfuel : (Py.split text).length < fuel := by omega
  obtain ⟨r, hr⟩ := chunkText_isSome_of_lt hov hlt hfuel
  exact ⟨r, hr, chunkText_length_of_eq hov hlt hW hr⟩

end Text

theorem chunkText_count_seven_words :
    (0 : Int) ≤ 1 ∧ (1 : Int) < 3 ∧ (3 : Int) < (Py.split (wordsText 7)).length ∧
    ∃ fuel₀, ∀ fuel, fuel₀ ≤ fuel → ∃ r, chunkText fuel (wordsText 7) 3 1 = some r ∧
      (r.length : Int) = ((Py.split (wordsText 7)).length - 3) / (3 - 1) + 2 -
        if (1 : Int) = 0 ∧ (3 - 1 : Int) ∣ ((Py.split (wordsText 7)).length - 3) then 1 else 0 :=
  ⟨by decide, by decide, by decide, chunkText_count (by decide) (by decide) (by decide)⟩

section Rows

variable {fuel : Nat} {chunkSize overlap : Int} {config : DatasetConfig}

theorem docOutcome_word_count_bounds (hov : 0 ≤ overlap) (hlt : overlap < chunkSize) {i : Nat}
    {doc : Dict} {o : DocOutcome} (h : docOutcome fuel chunkSize overlap config i doc = .ok o) :
    ∀ r ∈ o.records, ∃ n : Int, r.lookup "word_count" = some (.int n) ∧
      min overlap config.minWords ≤ n ∧ n ≤ chunkSize := by
  cases o with
  | skippedEmpty | skippedShort => exact fun r hr => absurd hr (List.not_mem_nil r)
  | accepted topic rs =>
    obtain ⟨text, title, chunks, hw, hc, rfl⟩ := docOutcome_accepted h
    simp only [DocOutcome.records, List.mem_map]
    rintro r ⟨⟨idx, c⟩, hmem, rfl⟩
    have hc' : c ∈ chunks := (List.mem_enum hmem).2 ▸ List.getElem_mem _
    obtain ⟨h0, hab, hb⟩ := chunkText_bounds hov hlt hc c hc'
    obtain ⟨hlo, hhi⟩ := chunkText_width_bounds hov hlt hc c hc'
    refine ⟨_, chunkRecord_wordCount .., ?_⟩
    rw [chunkText_split hc c hc', Py.slice_length _ h0 hab hb]
    omega

theorem docOutcome_ids_uuid_shape {i : Nat} {doc : Dict} {o : DocOutcome}
    (h : docOutcome fuel chunkSize overlap config i doc = .ok o) :
    ∀ r ∈ o.records, ∃ id, r.lookup "id" = some (.str id) ∧ UuidShape id := by
  cases o with
  | skippedEmpty | skippedShort => exact fun r hr => absurd hr (List.not_mem_nil r)
  | accepted topic rs =>
    obtain ⟨text, title, chunks, -, -, rfl⟩ := docOutcome_accepted h
    simp only [DocOutcome.records, List.mem_map]
    rintro r ⟨⟨idx, c⟩, -, rfl⟩
    exact ⟨_, chunkRecord_id .., uuidOfContent_shape _⟩

end Rows

/-- Every record `process_dataset` appends counts between `min(overlap, min_words)` and `chunk_size`
words. -/
theorem processDataset_word_count_bounds (w : World) (fuel : Nat) (chunkSize overlap : Int)
    (config : DatasetConfig) (outputChunks : List Dict) (topicCounts : TopicCounts)
    (hov : 0 ≤ overlap) (hlt : overlap < chunkSize) {p : Progress}
    (h : processDataset w fuel chunkSize overlap config outputChunks topicCounts = .ok p) :
    ∀ r ∈ p.chunks.drop outputChunks.length, ∃ n : Int, r.lookup "word_count" = some (.int n) ∧
      min overlap config.minWords ≤ n ∧ n ≤ chunkSize := by
  intro r hr
  obtain ⟨j, doc, o, hdoc, hr⟩ := processDataset_mem_records h r hr
  exact docOutcome_word_count_bounds hov hlt hdoc r hr

theorem processDataset_word_count_bounds_python_row :
    ∃ p, processDataset (listWorld [pythonRow]) 30 8 3 (datasetConfigs.get ⟨1, by decide⟩) [] [] =
        .ok p ∧
      ∀ r ∈ p.chunks.drop ([] : List Dict).length, ∃ n : Int,
        r.lookup "word_count" = some (.int n) ∧
        min 3 (datasetConfigs.get ⟨1, by decide⟩).minWords ≤ n ∧ n ≤ 8 :=
  ⟨_, rfl, processDataset_word_count_bounds (listWorld [pythonRow]) 30 8 3
    (datasetConfigs.get ⟨1, by decide⟩) [] [] (by decide) (by decide) rfl⟩

theorem processDataset_ids_uuid_shape (w : World) (fuel : Nat) (chunkSize overlap : Int)
    (config : DatasetConfig) (outputChunks : List Dict) (topicCounts : TopicCounts) {p : Progress}
    (h : processDataset w fuel chunkSize overlap config outputChunks topicCounts = .ok p) :
    ∀ r ∈ p.chunks.drop outputChunks.length, ∃ id, r.lookup "id" = some (.str id) ∧
      UuidShape id := by
  intro r hr
  obtain ⟨j, doc, o, hdoc, hr⟩ := processDataset_mem_records h r hr
  exact docOutcome_ids_uuid_shape hdoc r hr

end HfBenchmark
