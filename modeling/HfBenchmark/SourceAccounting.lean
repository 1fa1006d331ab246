import HfBenchmark.Records
import HfBenchmark.Resume

namespace HfBenchmark

def DocStream.clean : DocStream → Bool
  | .stop => true
  | .raise _ => false
  | .yield _ rest => rest.clean

/-- A row that passes the text checks has a topic that `extract_topic` returns and that
`topic_counts` can count. -/
def TopicOk (config : DatasetConfig) (doc : Dict) : Prop :=
  ∀ raw, (doc.lookup config.textField).getD (.str "") = .str raw → raw.isEmpty = false →
    config.minWords ≤ (Py.split (Py.strip raw)).length →
    ∃ topic, extractTopic config doc = .ok topic ∧ topic.hashable = true

section Rows

variable {fuel : Nat} {chunkSize overlap : Int} {config : DatasetConfig}

theorem docOutcomes_length : ∀ {i : Nat} {st : DocStream} {os : List DocOutcome},
    docOutcomes fuel chunkSize overlap config i st = .ok os → st.clean = true →
      (os.length : Int) = min (max (config.maxDocs - i) 0) st.docs.length
  | _, .stop, _, h, _ => by cases h; simp [DocStream.docs]
  | _, .raise _, _, _, hc => by simp [DocStream.clean] at hc
  | _, .yield _ rest, _, h, hc => by
    rcases docOutcomes_yield h with ⟨hcap, rfl⟩ | ⟨hcap, o, os', -, hos, rfl⟩
    · simp only [List.length_nil, DocStream.docs, List.length_cons]
      omega
    · have := docOutcomes_length hos hc
      simp only [List.length_cons, DocStream.docs]
      omega

theorem docOutcome_terminates (hov : 0 ≤ overlap) (hlt : overlap < chunkSize) {i : Nat}
    {doc : Dict} (htopic : TopicOk config doc) :
    ∃ fuel₀, ∀ fuel, fuel₀ ≤ fuel →
      ∃ o, docOutcome fuel chunkSize overlap config i doc = .ok o := by
  cases htext : (doc.lookup config.textField).getD (.str "")
  case str raw =>
    cases hne : raw.isEmpty
    · by_cases hmin : config.minWords ≤ (Py.split (Py.strip raw)).length
      · obtain ⟨t, ht, hh⟩ := htopic raw htext hne hmin
        refine ⟨(Py.split (Py.strip raw)).length + 1, fun fuel hfuel => ?_⟩
        obtain ⟨title, hdoc⟩ :=
          @docOutcome_of_topic fuel chunkSize overlap config i doc raw t htext hne hmin ht hh
        obtain ⟨r, hr⟩ := chunkText_isSome_of_lt hov hlt hfuel
        exact ⟨_, by rw [hdoc, hr]; rfl⟩
      · exact ⟨0, fun _ _ => ⟨.skippedShort, by simp [docOutcome, htext, hne, not_le.mp hmin]⟩⟩
    · exact ⟨0, fun _ _ => ⟨.skippedEmpty, by simp [docOutcome, htext, hne]⟩⟩
  all_goals exact ⟨0, fun _ _ => ⟨.skippedEmpty, by simp [docOutcome, htext]⟩⟩

theorem docOutcomes_terminates (hov : 0 ≤ overlap) (hlt : overlap < chunkSize) :
    ∀ (i : Nat) (st : DocStream), st.clean = true →
      (∀ doc ∈ st.docs.take (config.maxDocs - i).toNat, TopicOk config doc) →
      ∃ fuel₀, ∀ fuel, fuel₀ ≤ fuel →
        ∃ os, docOutcomes fuel chunkSize overlap config i st = .ok os
  | _, .stop, _, _ => ⟨0, fun _ _ => ⟨[], rfl⟩⟩
  | _, .raise _, hc, _ => by simp [DocStream.clean] at hc
  | i, .yield doc rest, hc, htopic => by
    by_cases hcap : config.maxDocs ≤ i
    · exact ⟨0, fun _ _ => ⟨[], by simp [docOutcomes, hcap]⟩⟩
    · have htake : (config.maxDocs - i).toNat = (config.maxDocs - (i + 1 : Nat)).toNat + 1 := by
        omega
      simp only [DocStream.docs, htake, List.take_succ_cons, List.mem_cons,
        forall_eq_or_imp] at htopic
      obtain ⟨f₁, h₁⟩ := docOutcome_terminates hov hlt (i := i) htopic.1
      obtain ⟨f₂, h₂⟩ := docOutcomes_terminates hov hlt (i + 1) rest hc htopic.2
      refine ⟨max f₁ f₂, fun fuel hf => ?_⟩
      obtain ⟨o, ho⟩ := h₁ fuel (le_of_max_le_left hf)
      obtain ⟨os, hos⟩ := h₂ fuel (le_of_max_le_right hf)
      exact ⟨o :: os, docOutcomes_yield_of_ok (not_le.mp hcap) ho hos⟩

theorem docOutcome_keys {i : Nat} {doc : Dict} {o : DocOutcome}
    (h : docOutcome fuel chunkSize overlap config i doc = .ok o) :
    o.records.map recordKey =
      (List.range o.records.length).map fun k => slotKey config.name (i, k) := by
  cases o with
  | skippedEmpty | skippedShort => rfl
  | accepted topic rs =>
    obtain ⟨text, title, chunks, -, -, rfl⟩ := docOutcome_accepted h
    simp only [DocOutcome.records, List.map_map, List.length_map, List.enum_length]
    rw [← List.enum_map_fst chunks, List.map_map]
    rfl

theorem docOutcome_word_count (hov : 0 ≤ overlap) (hlt : overlap < chunkSize) {i : Nat}
    {doc : Dict} {o : DocOutcome} (h : docOutcome fuel chunkSize overlap config i doc = .ok o) :
    ∀ r ∈ o.records, ∃ a b : Int, r.lookup "start_word" = some (.int a) ∧
      r.lookup "end_word" = some (.int b) ∧ r.lookup "word_count" = some (.int (b - a)) := by
  cases o with
  | skippedEmpty | skippedShort => simp [DocOutcome.records]
  | accepted topic rs =>
    obtain ⟨text, title, chunks, -, hc, rfl⟩ := docOutcome_accepted h
    simp only [DocOutcome.records, List.mem_map]
    rintro r ⟨⟨idx, c⟩, hmem, rfl⟩
    have hc' : c ∈ chunks := (List.mem_enum hmem).2 ▸ List.getElem_mem _
    obtain ⟨h0, hab, hb⟩ := chunkText_bounds hov hlt hc c hc'
    refine ⟨c.2.1, c.2.2, by simp, by simp, ?_⟩
    rw [chunkRecord_wordCount, chunkText_split hc c hc', Py.slice_length _ h0 hab hb]

end Rows

/-- For `0 ≤ overlap < chunk_size`, every chunk splits into the words between its offsets, and every
record has `word_count == end_word - start_word`. -/
theorem chunkText_offsets_word_count (chunkSize overlap : Int) (hov : 0 ≤ overlap)
    (hlt : overlap < chunkSize) :
    (∀ fuel text r, chunkText fuel text chunkSize overlap = some r →
      ∀ w ∈ r, Py.split w.1 = Py.slice (Py.split text) w.2.1 w.2.2) ∧
    ∀ (w : World) fuel config (outputChunks : List Dict) (topicCounts : TopicCounts) p,
      processDataset w fuel chunkSize overlap config outputChunks topicCounts = .ok p →
      ∀ r ∈ p.chunks.drop outputChunks.length, ∃ a b : Int,
        r.lookup "start_word" = some (.int a) ∧ r.lookup "end_word" = some (.int b) ∧
        r.lookup "word_count" = some (.int (b - a)) := by
  refine ⟨fun _ _ _ hr => chunkText_split hr, fun w fuel config oc tc p h r hr => ?_⟩
  obtain ⟨os, hos, rfl⟩ := processDataset_ok h
  simp only [Progress.applyAll_chunks, List.drop_left, contribution, List.mem_flatten,
    List.mem_map] at hr
  obtain ⟨_, ⟨o, ho, rfl⟩, hr⟩ := hr
  obtain ⟨j, doc, hdoc⟩ := sourceOutcomes_mem hos o ho
  exact docOutcome_word_count hov hlt hdoc r hr

theorem chunkText_offsets_word_count_default :
    (0 : Int) ≤ 50 ∧ (50 : Int) < 200 ∧
    ((∀ fuel text r, chunkText fuel text 200 50 = some r →
      ∀ w ∈ r, Py.split w.1 = Py.slice (Py.split text) w.2.1 w.2.2) ∧
    ∀ (w : World) fuel config (outputChunks : List Dict) (topicCounts : TopicCounts) p,
      processDataset w fuel 200 50 config outputChunks topicCounts = .ok p →
      ∀ r ∈ p.chunks.drop outputChunks.length, ∃ a b : Int,
        r.lookup "start_word" = some (.int a) ∧ r.lookup "end_word" = some (.int b) ∧
        r.lookup "word_count" = some (.int (b - a))) :=
  ⟨by decide, by decide, chunkText_offsets_word_count 200 50 (by decide) (by decide)⟩

theorem processDataset_accounting (w : World) (chunkSize overlap : Int) (config : DatasetConfig)
    (outputChunks : List Dict) (topicCounts : TopicCounts) (stream : DocStream)
    (hov : 0 ≤ overlap) (hlt : overlap < chunkSize)
    (hopen : w.loadDataset config.loadKwargs = .ok stream) (hclean : stream.clean = true)
    (htopic : ∀ doc ∈ stream.docs.take config.maxDocs.toNat, TopicOk config doc) :
    ∃ fuel₀, ∀ fuel, fuel₀ ≤ fuel → ∃ p,
      processDataset w fuel chunkSize overlap config outputChunks topicCounts = .ok p ∧
      ((p.stats.documents + p.stats.skippedShort + p.stats.skippedEmpty : Nat) : Int) =
        min (max config.maxDocs 0) stream.docs.length ∧
      ∃ os : List DocOutcome, p.chunks = outputChunks ++ contribution os ∧
        (contribution os).length = p.stats.chunks ∧
        ((contribution os).map recordWords).sum = p.stats.words ∧
        p.topicCounts.total = topicCounts.total + p.stats.documents ∧
        ∀ j (hj : j < os.length), ∃ doc, stream.docs[j]? = some doc ∧
          docOutcome fuel chunkSize overlap config j doc = .ok os[j] ∧
          os[j].records.map recordKey =
            (List.range os[j].records.length).map fun k => slotKey config.name (j, k) := by
  obtain ⟨fuel₀, hterm⟩ := docOutcomes_terminates hov hlt 0 stream hclean (by simpa using htopic)
  refine ⟨fuel₀, fun fuel hf => ?_⟩
  obtain ⟨os, hos⟩ := hterm fuel hf
  have hp : processDataset w fuel chunkSize overlap config outputChunks topicCounts =
      .ok (Progress.applyAll ⟨outputChunks, topicCounts, {}⟩ os) := by
    rw [processDataset_eq]
    simp [sourceOutcomes, hopen, hos, Except.map]
  have hrows := Progress.applyAll_rows ⟨outputChunks, topicCounts, {}⟩ os
  have hlen := docOutcomes_length hos hclean
  refine ⟨_, hp, ?_, os, by simp, by simp, by simp, by simp, fun j hj => ?_⟩
  · simp only [Nat.zero_add] at hrows
    rw [hrows]
    simpa using hlen
  · obtain ⟨doc, hd, hdoc⟩ := docOutcomes_getElem hos j hj
    rw [Nat.zero_add] at hdoc
    exact ⟨doc, hd, hdoc, docOutcome_keys hdoc⟩

/-- A source whose stream yields `docs` and ends. -/
def listWorld (docs : List Dict) : World where
  loadDataset _ := .ok (docs.foldr .yield .stop)

/-- A `code` row of twenty words, with a `func_name` and a `language`. -/
def pythonRow : Dict :=
  [("func_documentation_string", .str (wordsText 20)), ("func_name", .str "parse"),
   ("language", .str "python")]

/-- A `code` row of twenty words whose `func_name` is a blank and which has no `language`. -/
def blankTitleRow : Dict :=
  [("func_documentation_string", .str (wordsText 20)), ("func_name", .str " ")]

/-- A row whose title is blank makes `extract_topic` raise `IndexError`, which `process_dataset`
lets escape for every fuel. -/
theorem processDataset_accounting_counterexample :
    (DocStream.yield blankTitleRow .stop).clean = true ∧ (0 : Int) ≤ 50 ∧ (50 : Int) < 200 ∧
    ∀ fuel, processDataset (listWorld [blankTitleRow]) fuel 200 50
      (datasetConfigs.get ⟨1, by decide⟩) [] [] = .error (.raise "IndexError") :=
  ⟨rfl, by decide, by decide, fun _ => rfl⟩

end HfBenchmark
