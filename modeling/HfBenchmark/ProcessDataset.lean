import HfBenchmark.Chunker
import HfBenchmark.ChunkId
import HfBenchmark.Topic

namespace HfBenchmark

/-- The per-source `stats` of `process_dataset`. -/
structure DatasetStats where
  documents : Nat := 0
  chunks : Nat := 0
  words : Int := 0
  skippedShort : Nat := 0
  skippedEmpty : Nat := 0
  deriving DecidableEq, Repr

def DatasetStats.rows (d : DatasetStats) : Nat :=
  d.documents + d.skippedShort + d.skippedEmpty

/-- `chunk_record`, the `dict` `process_dataset` appends for the `chunk_idx`-th chunk of a
document. -/
def chunkRecord (config : DatasetConfig) (docId : String) (title : PyValue)
    (topic : PyValue) (chunkIdx : Nat) (chunk : Window) : Dict :=
  [("id", .str (generateChunkId docId chunkIdx config.name)),
   ("doc_id", .str docId),
   ("title", .str (title.toStr.take 200)),
   ("chunk_idx", .int chunkIdx),
   ("text", .str chunk.1),
   ("word_count", .int (Py.split chunk.1).length),
   ("start_word", .int chunk.2.1),
   ("end_word", .int chunk.2.2),
   ("topic_hint", topic),
   ("source_dataset", .str config.name)]

/-- `f"{config.name}_{i}"`: the `doc_id` of the row at index `i`, also its default title. -/
def docIdOf (name : String) (i : Nat) : String :=
  name ++ "_" ++ toString i

inductive DocOutcome where
  | skippedEmpty
  | skippedShort
  | accepted (topic : PyValue) (records : List Dict)

def DocOutcome.records : DocOutcome → List Dict
  | accepted _ rs => rs
  | _ => []

/-- The body of the document loop of `process_dataset` for the row at index `i`. -/
def docOutcome (fuel : Nat) (chunkSize overlap : Int) (config : DatasetConfig)
    (i : Nat) (doc : Dict) : Except Fault DocOutcome :=
  match (doc.lookup config.textField).getD (.str "") with
  | .str raw =>
    if raw.isEmpty then .ok .skippedEmpty
    else
      let text := Py.strip raw
      if ((Py.split text).length : Int) < config.minWords then .ok .skippedShort
      else do
        let docId := docIdOf config.name i
        let title := match config.titleField with
          | some f => (doc.lookup f).getD (.str docId)
          | none => .str docId
        let title := if title.truthy then title else .str docId
        let topic ← extractTopic config doc
        if !topic.hashable then throw (.raise "TypeError")
        let chunks ← (chunkText fuel text chunkSize overlap).elim (.error .outOfFuel) .ok
        pure (.accepted topic (chunks.enum.map fun (idx, c) =>
          chunkRecord config docId title topic idx c))
  | _ => .ok .skippedEmpty

theorem docOutcome_of_topic {fuel : Nat} {chunkSize overlap : Int} {config : DatasetConfig}
    {i : Nat} {doc : Dict} {raw : String} {topic : PyValue}
    (htext : (doc.lookup config.textField).getD (.str "") = .str raw) (hne : raw.isEmpty = false)
    (hmin : config.minWords ≤ (Py.split (Py.strip raw)).length)
    (ht : extractTopic config doc = .ok topic) (hh : topic.hashable = true) :
    ∃ title, docOutcome fuel chunkSize overlap config i doc =
      (chunkText fuel (Py.strip raw) chunkSize overlap).elim (.error .outOfFuel) fun chunks =>
        .ok (.accepted topic (chunks.enum.map fun (idx, c) =>
          chunkRecord config (docIdOf config.name i) title topic idx c)) := by
  simp only [docOutcome, htext, hne, Bool.false_eq_true, ↓reduceIte, not_lt.mpr hmin, ht, hh,
    bind, Except.bind, Bool.not_true]
  cases chunkText fuel (Py.strip raw) chunkSize overlap with
  | none => exact ⟨.none, rfl⟩
  | some chunks => exact ⟨_, rfl⟩

/-- The state `process_dataset` updates: the shared chunk list and topic counts, and its own
`stats`. -/
structure Progress where
  chunks : List Dict
  topicCounts : TopicCounts
  stats : DatasetStats

/-- `chunk.get("word_count", 0)` as `sum` adds it: an `int` as it is, a `bool` as `1` or `0`, and a
missing key as `0`. -/
def recordWords (r : Dict) : Int :=
  match r.lookup "word_count" with
  | some (.int n) => n
  | some (.bool b) => if b then 1 else 0
  | _ => 0

/-- Can `sum` add this `word_count` to an `int`? `None`, a `str` or a `list` raise `TypeError`. -/
def wordCountAddable (r : Dict) : Bool :=
  match r.lookup "word_count" with
  | none | some (.int _) | some (.bool _) => true
  | some _ => false

/-- The updates of one row: a skip counter, or the records appended, the topic counted, and
the `documents`, `chunks` and `words` counters raised. -/
def DocOutcome.apply : DocOutcome → Progress → Progress
  | skippedEmpty, p => { p with stats := { p.stats with skippedEmpty := p.stats.skippedEmpty + 1 } }
  | skippedShort, p => { p with stats := { p.stats with skippedShort := p.stats.skippedShort + 1 } }
  | accepted topic rs, p =>
    let stats := { p.stats with
      documents := p.stats.documents + 1
      chunks := p.stats.chunks + rs.length
      words := p.stats.words + (rs.map recordWords).sum }
    { chunks := p.chunks ++ rs, topicCounts := p.topicCounts.bumpKey topic, stats := stats }

def processDoc (fuel : Nat) (chunkSize overlap : Int) (config : DatasetConfig)
    (i : Nat) (doc : Dict) (p : Progress) : Except Fault Progress :=
  (docOutcome fuel chunkSize overlap config i doc).map (·.apply p)

/-- `for i, doc in enumerate(dataset)` in `process_dataset`, from row `i`: the `max_docs` check
comes after the row is fetched, and an exception of the stream is not caught. -/
def processDocs (fuel : Nat) (chunkSize overlap : Int) (config : DatasetConfig) :
    Nat → DocStream → Progress → Except Fault Progress
  | _, .stop, p => .ok p
  | _, .raise e, _ => .error (.raise e)
  | i, .yield doc rest, p =>
    if config.maxDocs ≤ i then .ok p
    else do
      let p ← processDoc fuel chunkSize overlap config i doc p
      processDocs fuel chunkSize overlap config (i + 1) rest p

/-- `process_dataset(config, output_chunks, topic_counts, ...)`: a stream that fails to open
gives zero `stats` and changes nothing; only `load_dataset` is inside the `try`. -/
def processDataset (w : World) (fuel : Nat) (chunkSize overlap : Int) (config : DatasetConfig)
    (outputChunks : List Dict) (topicCounts : TopicCounts) : Except Fault Progress :=
  match w.loadDataset config.loadKwargs with
  | .error _ => .ok ⟨outputChunks, topicCounts, {}⟩
  | .ok stream => processDocs fuel chunkSize overlap config 0 stream ⟨outputChunks, topicCounts, {}⟩

/-- The rows the document loop takes from row `i` on and what each contributes, or the fault
that ends the loop. -/
def docOutcomes (fuel : Nat) (chunkSize overlap : Int) (config : DatasetConfig) :
    Nat → DocStream → Except Fault (List DocOutcome)
  | _, .stop => .ok []
  | _, .raise e => .error (.raise e)
  | i, .yield doc rest =>
    if config.maxDocs ≤ i then .ok []
    else do
      let o ← docOutcome fuel chunkSize overlap config i doc
      let os ← docOutcomes fuel chunkSize overlap config (i + 1) rest
      pure (o :: os)

section Outcomes

variable {fuel : Nat} {chunkSize overlap : Int} {config : DatasetConfig}

theorem docOutcomes_yield {i : Nat} {doc : Dict} {rest : DocStream} {os : List DocOutcome}
    (h : docOutcomes fuel chunkSize overlap config i (.yield doc rest) = .ok os) :
    (config.maxDocs ≤ i ∧ os = []) ∨ (i < config.maxDocs ∧ ∃ o os',
      docOutcome fuel chunkSize overlap config i doc = .ok o ∧
      docOutcomes fuel chunkSize overlap config (i + 1) rest = .ok os' ∧ os = o :: os') := by
  simp only [docOutcomes] at h
  split at h
  · cases h
    exact .inl ⟨‹_›, rfl⟩
  · refine .inr ⟨by omega, ?_⟩
    cases ho : docOutcome fuel chunkSize overlap config i doc with
    | error f => simp [ho, bind, Except.bind] at h
    | ok o =>
      cases hos : docOutcomes fuel chunkSize overlap config (i + 1) rest with
      | error f => simp [ho, hos, bind, Except.bind] at h
      | ok os' =>
        simp only [ho, hos, bind, Except.bind, pure, Except.pure, Except.ok.injEq] at h
        exact ⟨o, os', rfl, rfl, h.symm⟩

theorem docOutcomes_yield_of_ok {i : Nat} {doc : Dict} {rest : DocStream} {o : DocOutcome}
    {os : List DocOutcome} (hi : i < config.maxDocs)
    (ho : docOutcome fuel chunkSize overlap config i doc = .ok o)
    (hos : docOutcomes fuel chunkSize overlap config (i + 1) rest = .ok os) :
    docOutcomes fuel chunkSize overlap config i (.yield doc rest) = .ok (o :: os) := by
  simp [docOutcomes, not_le.mpr hi, ho, hos, bind, Except.bind, pure, Except.pure]

theorem docOutcomes_length_le : ∀ {i : Nat} {st : DocStream} {os : List DocOutcome},
    docOutcomes fuel chunkSize overlap config i st = .ok os →
      (os.length : Int) ≤ max (config.maxDocs - i) 0
  | _, .stop, _, h => by cases h; simp
  | _, .raise _, _, h => by cases h
  | _, .yield _ _, _, h => by
    rcases docOutcomes_yield h with ⟨-, rfl⟩ | ⟨hcap, o, os', -, hos, rfl⟩
    · simp
    · have := docOutcomes_length_le hos
      simp only [List.length_cons]
      omega

end Outcomes

def sourceOutcomes (w : World) (fuel : Nat) (chunkSize overlap : Int) (config : DatasetConfig) :
    Except Fault (List DocOutcome) :=
  match w.loadDataset config.loadKwargs with
  | .error _ => .ok []
  | .ok stream => docOutcomes fuel chunkSize overlap config 0 stream

theorem sourceOutcomes_length_le {w : World} {fuel : Nat} {chunkSize overlap : Int}
    {config : DatasetConfig} {os : List DocOutcome}
    (h : sourceOutcomes w fuel chunkSize overlap config = .ok os) :
    (os.length : Int) ≤ max config.maxDocs 0 := by
  unfold sourceOutcomes at h
  split at h
  · cases h; simp
  · simpa using docOutcomes_length_le h

def Progress.applyAll (p : Progress) (os : List DocOutcome) : Progress :=
  os.foldl (fun p o => o.apply p) p

@[simp] theorem Progress.applyAll_nil (p : Progress) : p.applyAll [] = p := rfl

@[simp] theorem Progress.applyAll_cons (p : Progress) (o : DocOutcome) (os : List DocOutcome) :
    p.applyAll (o :: os) = (o.apply p).applyAll os := rfl

@[simp] theorem DocOutcome.apply_chunks (o : DocOutcome) (p : Progress) :
    (o.apply p).chunks = p.chunks ++ o.records := by
  cases o <;> simp [DocOutcome.apply, DocOutcome.records]

def contribution (os : List DocOutcome) : List Dict :=
  (os.map DocOutcome.records).flatten

@[simp] theorem contribution_nil : contribution [] = [] := rfl

@[simp] theorem contribution_cons (o : DocOutcome) (os : List DocOutcome) :
    contribution (o :: os) = o.records ++ contribution os := rfl

@[simp] theorem Progress.applyAll_chunks (p : Progress) (os : List DocOutcome) :
    (p.applyAll os).chunks = p.chunks ++ contribution os := by
  induction os generalizing p <;> simp [*]

theorem processDocs_eq (fuel : Nat) (chunkSize overlap : Int)
    (config : DatasetConfig) : ∀ (i : Nat) (s : DocStream) (p : Progress),
    processDocs fuel chunkSize overlap config i s p =
      (docOutcomes fuel chunkSize overlap config i s).map p.applyAll
  | _, .stop, _ => rfl
  | _, .raise _, _ => rfl
  | i, .yield doc rest, p => by
    simp only [processDocs, docOutcomes]
    split
    · rfl
    · simp only [processDoc]
      cases docOutcome fuel chunkSize overlap config i doc with
      | error f => rfl
      | ok o =>
        simp only [Except.map, bind, Except.bind,
          processDocs_eq fuel chunkSize overlap config (i + 1) rest]
        cases docOutcomes fuel chunkSize overlap config (i + 1) rest <;> rfl

theorem processDataset_eq (w : World) (fuel : Nat) (chunkSize overlap : Int)
    (config : DatasetConfig) (outputChunks : List Dict) (topicCounts : TopicCounts) :
    processDataset w fuel chunkSize overlap config outputChunks topicCounts =
      (sourceOutcomes w fuel chunkSize overlap config).map
        (Progress.applyAll ⟨outputChunks, topicCounts, {}⟩) := by
  unfold processDataset sourceOutcomes
  split
  · rfl
  · exact processDocs_eq _ _ _ _ _ _ _

theorem processDataset_ok {w : World} {fuel : Nat} {chunkSize overlap : Int}
    {config : DatasetConfig} {outputChunks : List Dict} {topicCounts : TopicCounts} {p : Progress}
    (h : processDataset w fuel chunkSize overlap config outputChunks topicCounts = .ok p) :
    ∃ os, sourceOutcomes w fuel chunkSize overlap config = .ok os ∧
      p = Progress.applyAll ⟨outputChunks, topicCounts, {}⟩ os := by
  rw [processDataset_eq] at h
  cases hs : sourceOutcomes w fuel chunkSize overlap config with
  | error f => simp [hs, Except.map] at h
  | ok os =>
    simp only [hs, Except.map, Except.ok.injEq] at h
    exact ⟨os, rfl, h.symm⟩

section Rows

variable {fuel : Nat} {chunkSize overlap : Int} {config : DatasetConfig}

theorem docOutcome_accepted {i : Nat} {doc : Dict} {topic : PyValue} {rs : List Dict}
    (h : docOutcome fuel chunkSize overlap config i doc = .ok (.accepted topic rs)) :
    ∃ text title chunks, config.minWords ≤ (Py.split text).length ∧
      chunkText fuel text chunkSize overlap = some chunks ∧
      rs = chunks.enum.map fun (idx, c) =>
        chunkRecord config (docIdOf config.name i) title topic idx c := by
  unfold docOutcome at h
  split at h
  · rename_i raw _
    split at h
    · cases h
    · dsimp only at h
      split at h
      · cases h
      · cases ht : extractTopic config doc with
        | error f => simp [ht, bind, Except.bind] at h
        | ok t =>
          cases hc : chunkText fuel (Py.strip raw) chunkSize overlap with
          | none =>
            cases hb : t.hashable <;> simp [ht, hc, hb, bind, Except.bind, pure, Except.pure,
              throw, throwThe, MonadExceptOf.throw, Option.elim] at h
          | some chunks =>
            cases hb : t.hashable <;> simp [ht, hc, hb, bind, Except.bind, pure, Except.pure,
              Option.elim, throw, throwThe, MonadExceptOf.throw] at h
            obtain ⟨rfl, rfl⟩ := h
            exact ⟨Py.strip raw, _, chunks, by omega, hc, rfl⟩
  · cases h

theorem docOutcome_wordCountAddable {i : Nat} {doc : Dict} {o : DocOutcome}
    (h : docOutcome fuel chunkSize overlap config i doc = .ok o) :
    ∀ r ∈ o.records, wordCountAddable r = true := by
  cases o with
  | skippedEmpty | skippedShort => simp [DocOutcome.records]
  | accepted topic rs =>
    obtain ⟨-, -, chunks, -, -, rfl⟩ := docOutcome_accepted h
    simp only [DocOutcome.records, List.mem_map]
    rintro r ⟨_, -, rfl⟩
    rfl

theorem docOutcomes_getElem : ∀ {i : Nat} {st : DocStream} {os : List DocOutcome},
    docOutcomes fuel chunkSize overlap config i st = .ok os → ∀ j (hj : j < os.length),
      ∃ doc, st.docs[j]? = some doc ∧
        docOutcome fuel chunkSize overlap config (i + j) doc = .ok os[j]
  | _, .stop, _, h => by cases h; simp
  | _, .raise _, _, h => by cases h
  | _, .yield doc _, _, h => by
    rcases docOutcomes_yield h with ⟨-, rfl⟩ | ⟨-, o, os', ho, hos, rfl⟩
    · simp
    · rintro (_ | j) hj
      · exact ⟨doc, by simp [DocStream.docs], ho⟩
      · obtain ⟨d, hd, hod⟩ := docOutcomes_getElem hos j (by simpa using hj)
        exact ⟨d, by simpa [DocStream.docs] using hd,
          by simpa [Nat.add_assoc, Nat.add_comm 1] using hod⟩

theorem sourceOutcomes_mem {w : World} {os : List DocOutcome}
    (h : sourceOutcomes w fuel chunkSize overlap config = .ok os) :
    ∀ o ∈ os, ∃ j doc, docOutcome fuel chunkSize overlap config j doc = .ok o := by
  unfold sourceOutcomes at h
  split at h
  · cases h; simp
  · intro o ho
    obtain ⟨j, hj, rfl⟩ := List.mem_iff_getElem.mp ho
    obtain ⟨doc, -, hdoc⟩ := docOutcomes_getElem h j hj
    exact ⟨_, doc, hdoc⟩

theorem processDataset_mem_records {w : World} {outputChunks : List Dict}
    {topicCounts : TopicCounts} {p : Progress}
    (h : processDataset w fuel chunkSize overlap config outputChunks topicCounts = .ok p) :
    ∀ r ∈ p.chunks.drop outputChunks.length, ∃ j doc o,
      docOutcome fuel chunkSize overlap config j doc = .ok o ∧ r ∈ o.records := by
  obtain ⟨os, hos, rfl⟩ := processDataset_ok h
  rw [Progress.applyAll_chunks, List.drop_left, contribution]
  intro r hr
  obtain ⟨_, hl, hr⟩ := List.mem_flatten.mp hr
  obtain ⟨o, ho, rfl⟩ := List.mem_map.mp hl
  obtain ⟨j, doc, hdoc⟩ := sourceOutcomes_mem hos o ho
  exact ⟨j, doc, o, hdoc, hr⟩

theorem processDataset_wordCountAddable {w : World} {outputChunks : List Dict}
    {topicCounts : TopicCounts} {p : Progress}
    (h : processDataset w fuel chunkSize overlap config outputChunks topicCounts = .ok p) :
    ∀ r ∈ p.chunks.drop outputChunks.length, wordCountAddable r = true := by
  intro r hr
  obtain ⟨j, doc, o, hdoc, hr⟩ := processDataset_mem_records h r hr
  exact docOutcome_wordCountAddable hdoc r hr

end Rows

end HfBenchmark
