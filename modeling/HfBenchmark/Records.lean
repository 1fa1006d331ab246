import HfBenchmark.Contribution

namespace HfBenchmark

section Fields

variable (config : DatasetConfig) (docId : String) (title topic : PyValue) (idx : Nat) (c : Window)

@[simp] theorem chunkRecord_source :
    (chunkRecord config docId title topic idx c).lookup "source_dataset" = some (.str config.name) :=
  rfl

@[simp] theorem chunkRecord_docId :
    (chunkRecord config docId title topic idx c).lookup "doc_id" = some (.str docId) := rfl

@[simp] theorem chunkRecord_chunkIdx :
    (chunkRecord config docId title topic idx c).lookup "chunk_idx" = some (.int idx) := rfl

@[simp] theorem chunkRecord_id :
    (chunkRecord config docId title topic idx c).lookup "id" =
      some (.str (generateChunkId docId idx config.name)) := rfl

@[simp] theorem chunkRecord_startWord :
    (chunkRecord config docId title topic idx c).lookup "start_word" = some (.int c.2.1) := rfl

@[simp] theorem chunkRecord_endWord :
    (chunkRecord config docId title topic idx c).lookup "end_word" = some (.int c.2.2) := rfl

@[simp] theorem chunkRecord_wordCount :
    (chunkRecord config docId title topic idx c).lookup "word_count" =
      some (.int (Py.split c.1).length) := rfl

@[simp] theorem chunkRecord_topicHint :
    (chunkRecord config docId title topic idx c).lookup "topic_hint" = some topic := rfl

end Fields

theorem underscore_not_mem_toString (n : Nat) : '_' ∉ (toString n).data :=
  fun h => absurd (Py.toString_isDigit n _ h) (by decide)

theorem docIdOf_injective {n n' : String} {i i' : Nat} (hn : '_' ∉ n.data) (hn' : '_' ∉ n'.data)
    (h : docIdOf n i = docIdOf n' i') : n = n' ∧ i = i' := by
  have key : [n.data, (toString i).data] = [n'.data, (toString i').data] :=
    Py.intercalate_sep_injective '_' (by simp) (by simp)
      (by simp [hn, underscore_not_mem_toString]) (by simp [hn', underscore_not_mem_toString])
      (by simpa [docIdOf, List.intercalate] using congrArg String.data h)
  simp only [List.cons.injEq, and_true] at key
  exact ⟨String.ext key.1, Py.toString_injective (String.ext key.2)⟩

theorem colon_not_mem_docIdOf {n : String} (hn : ':' ∉ n.data) (i : Nat) :
    ':' ∉ (docIdOf n i).data := by
  simp [docIdOf, hn, colon_not_mem_toString]

/-- The `(source_dataset, doc_id, chunk_idx)` fields of a record. -/
def recordKey (r : Dict) : Option PyValue × Option PyValue × Option PyValue :=
  (r.lookup "source_dataset", r.lookup "doc_id", r.lookup "chunk_idx")

/-- The key of the record of chunk `q.2` of row `q.1` of source `name`. -/
def slotKey (name : String) (q : Nat × Nat) : Option PyValue × Option PyValue × Option PyValue :=
  (some (.str name), some (.str (docIdOf name q.1)), some (.int q.2))

/-- The chunks of rows given as `(row, chunk count)`, in order, as `(row, chunk_idx)`. -/
def slots (rows : List (Nat × Nat)) : List (Nat × Nat) :=
  rows.flatMap fun q => (List.range q.2).map (q.1, ·)

/-- A record as `process_dataset` makes it for source `name`: keyed by a row and a chunk index,
its `id` is the chunk id of that key, and its window spans at most `chunk_size` words. -/
def RecordOk (name : String) (chunkSize : Int) (r : Dict) : Prop :=
  ∃ row idx : Nat, recordKey r = slotKey name (row, idx) ∧
    r.lookup "id" = some (.str (generateChunkId (docIdOf name row) idx name)) ∧
    ∃ s e, r.lookup "start_word" = some (.int s) ∧ r.lookup "end_word" = some (.int e) ∧
      e - s ≤ chunkSize

structure RowLayout (name : String) (chunkSize : Int) (start : Nat) (os : List DocOutcome)
    (rows : List (Nat × Nat)) : Prop where
  increasing : (rows.map Prod.fst).Pairwise (· < ·)
  bounds : ∀ q ∈ rows, start ≤ q.1 ∧ 0 < q.2
  count : rows.length = acceptedCount os
  keys : (contribution os).map recordKey = (slots rows).map (slotKey name)
  records : ∀ r ∈ contribution os, RecordOk name chunkSize r

namespace RowLayout

variable {name : String} {chunkSize : Int}

theorem nil (start : Nat) : RowLayout name chunkSize start [] [] :=
  ⟨by simp, by simp, rfl, rfl, by simp⟩

theorem cons {i : Nat} {o : DocOutcome} {os : List DocOutcome} {rows₁ rows₂ : List (Nat × Nat)}
    (h₁ : RowLayout name chunkSize i [o] rows₁) (hsub : rows₁.map Prod.fst ⊆ [i])
    (h₂ : RowLayout name chunkSize (i + 1) os rows₂) :
    RowLayout name chunkSize i (o :: os) (rows₁ ++ rows₂) where
  increasing := by
    rw [List.map_append, List.pairwise_append]
    refine ⟨h₁.increasing, h₂.increasing, fun a ha b hb => ?_⟩
    obtain ⟨q, hq, rfl⟩ := List.mem_map.mp hb
    have := List.mem_singleton.mp (hsub ha)
    have := (h₂.bounds q hq).1
    omega
  bounds q hq := by
    rcases List.mem_append.mp hq with hq | hq
    · exact ⟨(List.mem_singleton.mp (hsub (List.mem_map_of_mem _ hq))).ge, (h₁.bounds q hq).2⟩
    · exact ⟨by have := (h₂.bounds q hq).1; omega, (h₂.bounds q hq).2⟩
  count := by
    have h₁c := h₁.count
    have h₂c := h₂.count
    simp only [acceptedCount, List.filterMap_cons, List.filterMap_nil] at h₁c h₂c ⊢
    split <;> simp_all
    omega
  keys := by
    have hc : contribution (o :: os) = contribution [o] ++ contribution os := by simp
    have hs : slots (rows₁ ++ rows₂) = slots rows₁ ++ slots rows₂ := List.flatMap_append _ _ _
    rw [hc, hs, List.map_append, List.map_append, h₁.keys, h₂.keys]
  records r hr := by
    rcases List.mem_append.mp hr with hr | hr
    · exact h₁.records r (by simpa [contribution] using hr)
    · exact h₂.records r hr

theorem docIdOf_inj_row {i i' : Nat} (h : docIdOf name i = docIdOf name i') : i = i' :=
  Py.toString_injective (String.ext (by simpa [docIdOf] using congrArg String.data h))

theorem slots_nodup {rows : List (Nat × Nat)} (h : (rows.map Prod.fst).Pairwise (· < ·)) :
    (slots rows).Nodup := by
  refine List.nodup_flatMap.mpr ⟨fun q _ => (List.nodup_range q.2).map fun a b hab =>
    (Prod.mk.inj hab).2, ?_⟩
  refine (List.pairwise_map.mp h).imp fun {a b} hab x hxa hxb => ?_
  obtain ⟨_, _, rfl⟩ := List.mem_map.mp hxa
  obtain ⟨_, _, heq⟩ := List.mem_map.mp hxb
  have := congrArg Prod.fst heq
  dsimp only at this
  omega

variable {start : Nat} {os : List DocOutcome} {rows : List (Nat × Nat)}

theorem keys_nodup (hl : RowLayout name chunkSize start os rows) :
    ((contribution os).map recordKey).Nodup := by
  rw [hl.keys]
  refine (slots_nodup hl.increasing).map_on fun a _ b _ hab => ?_
  simp only [slotKey, Prod.mk.injEq, Option.some.injEq, PyValue.str.injEq, PyValue.int.injEq,
    Nat.cast_inj, true_and] at hab
  exact Prod.ext (docIdOf_inj_row hab.1) hab.2

theorem mem_docIds (hl : RowLayout name chunkSize start os rows) (v : Option PyValue) :
    v ∈ (contribution os).map (·.lookup "doc_id") ↔
      v ∈ rows.map fun q => some (PyValue.str (docIdOf name q.1)) := by
  have hd : (contribution os).map (·.lookup "doc_id") =
      (slots rows).map fun q => some (PyValue.str (docIdOf name q.1)) := by
    have := congrArg (List.map fun k => k.2.1) hl.keys
    simpa [recordKey, slotKey, Function.comp_def] using this
  rw [hd]
  simp only [slots, List.mem_map, List.mem_flatMap, List.mem_range]
  constructor
  · rintro ⟨_, ⟨q, hq, _, _, rfl⟩, rfl⟩
    exact ⟨q, hq, rfl⟩
  · rintro ⟨q, hq, rfl⟩
    exact ⟨(q.1, 0), ⟨q, hq, 0, (hl.bounds q hq).2, rfl⟩, rfl⟩

theorem docIds_nodup (hl : RowLayout name chunkSize start os rows) :
    (rows.map fun q => some (PyValue.str (docIdOf name q.1))).Nodup := by
  have hrows : (rows.map Prod.fst).Nodup := hl.increasing.imp (ne_of_lt ·)
  have hmap : (rows.map fun q => some (PyValue.str (docIdOf name q.1))) =
      (rows.map Prod.fst).map fun i => some (PyValue.str (docIdOf name i)) := by
    simp [Function.comp_def]
  rw [hmap]
  exact hrows.map fun a b hab => docIdOf_inj_row (by simpa using hab)

end RowLayout

section Rows

variable {fuel : Nat} {chunkSize overlap : Int} {config : DatasetConfig}

theorem docOutcome_layout (hpos : 0 < config.minWords ∨ 0 < chunkSize) {i : Nat} {doc : Dict} {o : DocOutcome}
    (h : docOutcome fuel chunkSize overlap config i doc = .ok o) :
    ∃ rows, RowLayout config.name chunkSize i [o] rows ∧ rows.map Prod.fst ⊆ [i] := by
  cases o with
  | skippedEmpty | skippedShort =>
    exact ⟨[], ⟨by simp, by simp, rfl, rfl, by simp [contribution, DocOutcome.records]⟩, by simp⟩
  | accepted topic rs =>
    obtain ⟨text, title, chunks, hw, hc, rfl⟩ := docOutcome_accepted h
    have hne : chunks ≠ [] :=
      hpos.elim (fun _ => chunkText_ne_nil (by omega) hc) (chunkText_ne_nil_of_pos · hc)
    refine ⟨[(i, chunks.length)], ⟨by simp, ?_, rfl, ?_, ?_⟩, by simp⟩
    · simpa [List.length_pos] using hne
    · simp only [contribution, List.map_cons, List.map_nil, DocOutcome.records, List.flatten_cons,
        List.flatten_nil, List.append_nil, slots, List.flatMap_cons, List.flatMap_nil, List.map_map]
      rw [← List.enum_map_fst chunks, List.map_map]
      rfl
    · simp only [contribution, List.map_cons, List.map_nil, DocOutcome.records, List.flatten_cons,
        List.flatten_nil, List.append_nil, List.mem_map]
      rintro r ⟨⟨idx, c⟩, hmem, rfl⟩
      have hc' : c ∈ chunks := (List.mem_enum hmem).2 ▸ List.getElem_mem _
      exact ⟨i, idx, by simp [recordKey, slotKey], by simp, c.2.1, c.2.2, by simp, by simp,
        chunkText_width hc c hc'⟩

theorem docOutcomes_layout (hpos : 0 < config.minWords ∨ 0 < chunkSize) : ∀ (i : Nat) (st : DocStream)
    (os : List DocOutcome), docOutcomes fuel chunkSize overlap config i st = .ok os →
      ∃ rows, RowLayout config.name chunkSize i os rows
  | i, .stop, os, h => by cases h; exact ⟨[], RowLayout.nil i⟩
  | _, .raise _, _, h => by cases h
  | i, .yield doc rest, os, h => by
    simp only [docOutcomes] at h
    split at h
    · cases h; exact ⟨[], RowLayout.nil i⟩
    · cases ho : docOutcome fuel chunkSize overlap config i doc with
      | error f => simp [ho, bind, Except.bind] at h
      | ok o =>
        cases hos : docOutcomes fuel chunkSize overlap config (i + 1) rest with
        | error f => simp [ho, hos, bind, Except.bind] at h
        | ok os' =>
          simp only [ho, hos, bind, Except.bind, pure, Except.pure, Except.ok.injEq] at h
          subst h
          obtain ⟨rows₁, h₁, hsub⟩ := docOutcome_layout hpos ho
          obtain ⟨rows₂, h₂⟩ := docOutcomes_layout hpos (i + 1) rest os' hos
          exact ⟨rows₁ ++ rows₂, h₁.cons hsub h₂⟩

theorem sourceOutcomes_layout {w : World} (hpos : 0 < config.minWords ∨ 0 < chunkSize) {os : List DocOutcome}
    (h : sourceOutcomes w fuel chunkSize overlap config = .ok os) :
    ∃ rows, RowLayout config.name chunkSize 0 os rows := by
  unfold sourceOutcomes at h
  split at h
  · cases h; exact ⟨[], RowLayout.nil 0⟩
  · exact docOutcomes_layout hpos 0 _ os h

end Rows

section Sources

/-- Descriptors whose chunk keys cannot collide: distinct names free of `:` and `_`, and a
positive `min_words`. -/
def ValidConfigs (configs : List DatasetConfig) : Prop :=
  (configs.map (·.name)).Nodup ∧ ∀ c ∈ configs, ':' ∉ c.name.data ∧ '_' ∉ c.name.data ∧ 0 < c.minWords

instance (configs : List DatasetConfig) : Decidable (ValidConfigs configs) :=
  inferInstanceAs (Decidable (_ ∧ _))

theorem datasetConfigs_valid : ValidConfigs datasetConfigs := by decide

theorem planRun_valid {configs : List DatasetConfig} (hcfg : ValidConfigs configs) (s : Ingest)
    (args : Args) :
    ((planRun configs s args).1.map (·.name)).Nodup ∧ ∀ c ∈ (planRun configs s args).1,
      c.name ∉ s.processed ∧ ':' ∉ c.name.data ∧ '_' ∉ c.name.data ∧ 0 < c.minWords := by
  have hsub : ((selectConfigs configs args.datasets).filter (·.name ∉ s.processed)).Sublist configs :=
    (List.filter_sublist _).trans (selectConfigs_sublist _ _)
  rw [planRun_fst, List.map_map]
  refine ⟨?_, fun c hc => ?_⟩
  · simpa [Function.comp_def] using hcfg.1.sublist (hsub.map _)
  · obtain ⟨c₀, hc₀, rfl⟩ := List.mem_map.mp hc
    have hmem := List.mem_filter.mp hc₀
    simpa using ⟨of_decide_eq_true hmem.2, hcfg.2 c₀ (hsub.subset hc₀)⟩

def SourcesOk (w : World) (fuel : Nat) (args : Args) (done : List SourceRun) : Prop :=
  (done.map (·.1.name)).Nodup ∧ ∀ p ∈ done,
    p.Valid w fuel args ∧ ':' ∉ p.1.name.data ∧ '_' ∉ p.1.name.data ∧ 0 < p.1.minWords

variable {w : World} {fuel : Nat} {args : Args}

theorem sourcesOk_of_planned {configs : List DatasetConfig} (hcfg : ValidConfigs configs)
    {s : Ingest} {done : List SourceRun}
    (hpre : done.map Prod.fst <+: (planRun configs s args).1)
    (hv : ∀ p ∈ done, p.Valid w fuel args) :
    SourcesOk w fuel args done ∧ ∀ p ∈ done, p.1.name ∉ s.processed := by
  obtain ⟨hnodup, hplan⟩ := planRun_valid hcfg s args
  have hsub := hpre.sublist
  refine ⟨⟨?_, fun p hp => ?_⟩, fun p hp => ?_⟩
  · simpa [List.map_map, Function.comp_def] using hnodup.sublist (hsub.map (·.name))
  · have := hplan p.1 (hsub.subset (List.mem_map_of_mem _ hp))
    exact ⟨hv p hp, this.2⟩
  · exact (hplan p.1 (hsub.subset (List.mem_map_of_mem _ hp))).1

namespace SourcesOk

variable {done : List SourceRun}

theorem tail {p : SourceRun} (h : SourcesOk w fuel args (p :: done)) : SourcesOk w fuel args done :=
  ⟨(List.nodup_cons.mp h.1).2, fun q hq => h.2 q (List.mem_cons_of_mem _ hq)⟩

theorem records (h : SourcesOk w fuel args done) :
    ∀ r ∈ (done.map (contribution ·.2)).flatten, ∃ p ∈ done, RecordOk p.1.name args.chunkSize r := by
  induction done with
  | nil => exact fun _ hr => absurd hr (List.not_mem_nil _)
  | cons p done ih =>
    obtain ⟨hv, -, -, hmin⟩ := h.2 p (List.mem_cons_self _ _)
    obtain ⟨rows, hl⟩ := sourceOutcomes_layout (.inl hmin) hv
    intro r hr
    rcases List.mem_append.mp hr with hr | hr
    · exact ⟨p, List.mem_cons_self _ _, hl.records r hr⟩
    · obtain ⟨q, hq, hrq⟩ := ih h.tail r hr
      exact ⟨q, List.mem_cons_of_mem _ hq, hrq⟩

theorem keys_nodup (h : SourcesOk w fuel args done) :
    (((done.map (contribution ·.2)).flatten).map recordKey).Nodup := by
  induction done with
  | nil => simp
  | cons p done ih =>
    obtain ⟨hv, -, -, hmin⟩ := h.2 p (List.mem_cons_self _ _)
    obtain ⟨rows, hl⟩ := sourceOutcomes_layout (.inl hmin) hv
    simp only [List.map_cons, List.flatten_cons, List.map_append]
    refine List.nodup_append.mpr ⟨hl.keys_nodup, ih h.tail, fun k hk hk' => ?_⟩
    rw [hl.keys] at hk
    obtain ⟨⟨row, idx⟩, -, rfl⟩ := List.mem_map.mp hk
    obtain ⟨r, hr, hkr⟩ := List.mem_map.mp hk'
    obtain ⟨q, hq, row', idx', hkey, -⟩ := h.tail.records r hr
    rw [hkey] at hkr
    have hname : q.1.name = p.1.name := by simpa [slotKey] using congrArg (·.1) hkr
    exact (List.nodup_cons.mp h.1).1 (List.mem_map.mpr ⟨q, hq, hname⟩)

theorem docIds (h : SourcesOk w fuel args done) :
    ∃ ds : List (Option PyValue), ds.Nodup ∧ ds.length = (done.map (acceptedCount ·.2)).sum ∧
      ∀ v, v ∈ ((done.map (contribution ·.2)).flatten).map (·.lookup "doc_id") ↔ v ∈ ds := by
  induction done with
  | nil => exact ⟨[], by simp, rfl, by simp⟩
  | cons p done ih =>
    obtain ⟨hv, -, hp_, hmin⟩ := h.2 p (List.mem_cons_self _ _)
    obtain ⟨rows, hl⟩ := sourceOutcomes_layout (.inl hmin) hv
    obtain ⟨ds, hnd, hlen, hmem⟩ := ih h.tail
    refine ⟨rows.map (fun q => some (PyValue.str (docIdOf p.1.name q.1))) ++ ds,
      List.nodup_append.mpr ⟨hl.docIds_nodup, hnd, fun v hv hv' => ?_⟩, ?_, fun v => ?_⟩
    · obtain ⟨⟨row, n⟩, -, rfl⟩ := List.mem_map.mp hv
      obtain ⟨r, hr, hrv⟩ := List.mem_map.mp ((hmem _).mpr hv')
      obtain ⟨q, hq, row', idx', hkey, -⟩ := h.tail.records r hr
      have hd : docIdOf q.1.name row' = docIdOf p.1.name row := by
        simpa [recordKey, slotKey, hrv] using (congrArg (·.2.1) hkey).symm
      have hq_ := (h.2 q (List.mem_cons_of_mem _ hq)).2.2.1
      have hname := (docIdOf_injective hq_ hp_ hd).1
      exact (List.nodup_cons.mp h.1).1 (List.mem_map.mpr ⟨q, hq, hname⟩)
    · simp [hl.count, hlen]
    · simp only [List.map_cons, List.flatten_cons, List.map_append, List.mem_append]
      rw [hl.mem_docIds, hmem]

end SourcesOk

end Sources

end HfBenchmark
