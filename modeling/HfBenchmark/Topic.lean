import HfBenchmark.Dataset
import HfBenchmark.Python.Text
import HfBenchmark.Python.Unicode
import Mathlib.Algebra.Group.Nat.Basic

namespace HfBenchmark

/-- `doc[field]` for a descriptor field that is set: `config.x_field and config.x_field in doc`. -/
def fieldOf (field : Option String) (doc : Dict) : Option PyValue :=
  (field.filter (· ≠ "")).bind doc.lookup

/-- The topic `extract_topic` reads off a present topic field. -/
def topicOfField : PyValue → PyValue
  | .list xs => xs.head?.getD (.str "unknown")
  | .str s =>
    if ',' ∈ s.data then .str (Py.lower (Py.strip ⟨s.data.takeWhile (· ≠ ',')⟩))
    else .str ((Py.lower s).map fun c => if c = '.' then '_' else c)
  | .int n => .str ("label_" ++ toString n)
  | .bool b => .str ("label_" ++ (PyValue.bool b).toStr)
  | .none => .str PyValue.none.toStr

/-- `extract_topic(config, doc)`. -/
def extractTopic (config : DatasetConfig) (doc : Dict) : Except Fault PyValue :=
  match fieldOf config.topicField doc with
  | some topic => .ok (topicOfField topic)
  | none =>
    match fieldOf config.titleField doc with
    | some title =>
      if title.truthy then
        match title with
        | .str s =>
          match Py.split s with
          | w :: _ => .ok (.str ((Py.lower w).take 20))
          | [] => .error (.raise "IndexError")
        | _ => .error (.raise "AttributeError")
      else .ok (.str (config.name ++ "_general"))
    | none => .ok (.str (config.name ++ "_general"))

example : extractTopic (datasetConfigs.get ⟨3, by decide⟩) [("title", .str " ")] =
    .error (.raise "IndexError") := rfl

example : extractTopic (datasetConfigs.get ⟨0, by decide⟩) [("label", .bool true)] =
    .ok (.str "label_True") := rfl

/-- `topic_counts`: a `dict` from topics to counts, in insertion order. -/
abbrev TopicCounts := List (PyValue × Nat)

def TopicCounts.bumpKey (topic : PyValue) : TopicCounts → TopicCounts
  | [] => [(topic, 1)]
  | (k, n) :: rest => if k.keyEq topic then (k, n + 1) :: rest else (k, n) :: bumpKey topic rest

/-- `topic_counts[topic] = topic_counts.get(topic, 0) + 1`: `TypeError` for a `list` topic. -/
def TopicCounts.bump (tc : TopicCounts) (topic : PyValue) : Except Fault TopicCounts :=
  if topic.hashable then .ok (bumpKey topic tc) else .error (.raise "TypeError")

def TopicCounts.total (tc : TopicCounts) : Nat :=
  (tc.map Prod.snd).sum

@[simp] theorem TopicCounts.total_bumpKey (topic : PyValue) (tc : TopicCounts) :
    (tc.bumpKey topic).total = tc.total + 1 := by
  induction tc with
  | nil => rfl
  | cons e tc ih =>
    simp only [bumpKey]
    split <;> simp_all [total] <;> omega

/-- The count `topic_counts` keeps for the key `u`: the counts of its entries whose keys equal
`u` as `dict` keys. -/
def TopicCounts.count (tc : TopicCounts) (u : PyValue) : Nat :=
  ((tc.filter (·.1.keyEq u)).map Prod.snd).sum

/-- The keys of `topic_counts` are distinct `dict` keys. -/
def TopicCounts.KeysDistinct (tc : TopicCounts) : Prop :=
  (tc.map Prod.fst).Pairwise fun a b => a.keyEq b = false

namespace TopicCounts

theorem count_bumpKey (t u : PyValue) (tc : TopicCounts) :
    (tc.bumpKey t).count u = tc.count u + if t.keyEq u then 1 else 0 := by
  induction tc with
  | nil => cases h : t.keyEq u <;> simp [bumpKey, count, h]
  | cons e tc ih =>
    simp only [bumpKey]
    split
    · rename_i hk
      cases h : e.1.keyEq u <;>
        simp [count, List.filter_cons, h, ← PyValue.keyEq_congr hk u]
      omega
    · simp only [count, List.filter_cons] at ih ⊢
      split <;> simp [ih]
      omega

theorem mem_keys_bumpKey {t b : PyValue} :
    ∀ {tc : TopicCounts}, b ∈ (tc.bumpKey t).map Prod.fst → b ∈ tc.map Prod.fst ∨ b = t
  | [], h => by simpa [bumpKey] using h
  | e :: tc, h => by
    simp only [bumpKey] at h
    split at h
    · exact .inl (by simpa using h)
    · simp only [List.map_cons, List.mem_cons] at h ⊢
      rcases h with h | h
      · exact .inl (.inl h)
      · exact (mem_keys_bumpKey h).imp_left .inr

theorem keysDistinct_bumpKey (t : PyValue) :
    ∀ {tc : TopicCounts}, tc.KeysDistinct → (tc.bumpKey t).KeysDistinct
  | [], _ => List.pairwise_singleton _ _
  | e :: tc, h => by
    simp only [bumpKey]
    split
    · exact h
    · rename_i hk
      have h' := List.pairwise_cons.mp h
      refine List.pairwise_cons.mpr ⟨fun b hb => ?_, keysDistinct_bumpKey t h'.2⟩
      rcases mem_keys_bumpKey hb with hb | rfl
      · exact h'.1 b hb
      · simpa using hk

theorem count_eq_zero {tc : TopicCounts} {u : PyValue}
    (h : ∀ b ∈ tc.map Prod.fst, b.keyEq u = false) : tc.count u = 0 := by
  rw [count, List.filter_eq_nil_iff.mpr fun e he => by simp [h e.1 (List.mem_map_of_mem _ he)]]
  rfl

theorem count_of_mem : ∀ {tc : TopicCounts} {e : PyValue × Nat}, tc.KeysDistinct → e ∈ tc →
    e.1.hashable = true → tc.count e.1 = e.2
  | f :: tc, e, h, he, hh => by
    have h' := List.pairwise_cons.mp h
    rcases List.mem_cons.mp he with rfl | he
    · have hz : TopicCounts.count tc e.1 = 0 :=
        count_eq_zero fun b hb => by rw [PyValue.keyEq_comm]; exact h'.1 b hb
      simp only [count, List.filter_cons, PyValue.keyEq_self hh, if_true, List.map_cons,
        List.sum_cons] at hz ⊢
      omega
    · have hf : f.1.keyEq e.1 = false := h'.1 e.1 (List.mem_map_of_mem _ he)
      simp only [count, List.filter_cons, hf] at count_of_mem ⊢
      exact count_of_mem h'.2 he hh

end TopicCounts

end HfBenchmark
