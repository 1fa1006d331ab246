import HfBenchmark.Python.Text
import Mathlib.Data.List.Dedup

namespace HfBenchmark.Kepler

/-- The stem of the sentence encoder's keys, which `map_fairseq_key` removes. -/
def sentenceEncoder : String := "encoder.sentence_encoder."

/-- The embedding weights of `map_fairseq_key`, by their names once the stem is removed. -/
def embeddingNames : List (String × String) :=
  [("embed_tokens.weight", "embeddings.word_embeddings.weight"),
   ("embed_positions.weight", "embeddings.position_embeddings.weight"),
   ("emb_layer_norm.weight", "embeddings.LayerNorm.weight"),
   ("emb_layer_norm.bias", "embeddings.LayerNorm.bias")]

/-- The weights of one encoder layer: the name after `layers.<idx>.`, and what follows
`encoder.layer.<idx>.` in the new name. -/
def layerNames : List (String × String) :=
  [("self_attn.q_proj.weight", "attention.self.query.weight"),
   ("self_attn.q_proj.bias", "attention.self.query.bias"),
   ("self_attn.k_proj.weight", "attention.self.key.weight"),
   ("self_attn.k_proj.bias", "attention.self.key.bias"),
   ("self_attn.v_proj.weight", "attention.self.value.weight"),
   ("self_attn.v_proj.bias", "attention.self.value.bias"),
   ("self_attn.out_proj.weight", "attention.output.dense.weight"),
   ("self_attn.out_proj.bias", "attention.output.dense.bias"),
   ("self_attn_layer_norm.weight", "attention.output.LayerNorm.weight"),
   ("self_attn_layer_norm.bias", "attention.output.LayerNorm.bias"),
   ("fc1.weight", "intermediate.dense.weight"),
   ("fc1.bias", "intermediate.dense.bias"),
   ("fc2.weight", "output.dense.weight"),
   ("fc2.bias", "output.dense.bias"),
   ("final_layer_norm.weight", "output.LayerNorm.weight"),
   ("final_layer_norm.bias", "output.LayerNorm.bias")]

/-- `map_fairseq_key(key)`: `None` outside the sentence encoder, else the renaming of what
`str.replace` leaves once it has removed every stem. -/
def mapFairseqKey (key : String) : Option String :=
  if !Py.startsWith key sentenceEncoder then none
  else
    let key := Py.replace key sentenceEncoder ""
    match embeddingNames.lookup key with
    | some name => some name
    | none =>
      if Py.startsWith key "layers." then
        let parts := Py.splitOn key '.'
        let layerIdx := parts.getD 1 ""
        let rest := Py.join '.' (parts.drop 2)
        (layerNames.lookup rest).map fun name => "encoder.layer." ++ layerIdx ++ "." ++ name
      else none

/-- `mapped[new_key] = tensor` on a `dict`: a new key is appended, a present one keeps its place
and takes the new value. -/
def dictSet {α : Type} : List (String × α) → String → α → List (String × α)
  | [], k, v => [(k, v)]
  | (k', v') :: d, k, v => if k' = k then (k, v) :: d else (k', v') :: dictSet d k v

/-- One iteration of the mapping loop: an accepted key's tensor, made `float32` by `toFloat32`,
is stored under the new name; any other key is skipped. -/
def mapStep {α : Type} (toFloat32 : α → α) (mapped : List (String × α)) (entry : String × α) :
    List (String × α) :=
  match mapFairseqKey entry.1 with
  | none => mapped
  | some newKey => dictSet mapped newKey (toFloat32 entry.2)

/-- The mapping loop of `convert_fairseq_checkpoint` over `state_dict.items()`. -/
def mapStateDict {α : Type} (toFloat32 : α → α) (stateDict : List (String × α)) :
    List (String × α) :=
  stateDict.foldl (mapStep toFloat32) []

def expectedWeights : List String :=
  ["embeddings.word_embeddings", "embeddings.position_embeddings", "embeddings.LayerNorm",
   "encoder.layer.0", "encoder.layer.11"]

def tokenTypeKey : String := "embeddings.token_type_embeddings.weight"

/-- `convert_fairseq_checkpoint` from the state dict to the tensors it saves, or its `ValueError`. -/
def convertFairseqCheckpoint {α : Type} (toFloat32 : α → α) (zeros : α)
    (stateDict : List (String × α)) : Except String (List (String × α)) :=
  let mapped := mapStateDict toFloat32 stateDict
  match expectedWeights.find? (fun p => !mapped.any fun e => Py.startsWith e.1 p) with
  | some p => .error ("Missing expected weight prefix: " ++ p)
  | none =>
    if tokenTypeKey ∈ mapped.map Prod.fst then .ok mapped
    else .ok (dictSet mapped tokenTypeKey zeros)

/-- The renaming `map_fairseq_key` applies once the stem is removed: an embedding weight to its
name, or `layers.<idx>.<weight>`, with no `.` in `<idx>`, to `encoder.layer.<idx>.<new weight>`. -/
def Renames (r n : String) : Prop :=
  (r, n) ∈ embeddingNames ∨ ∃ idx rest name, '.' ∉ idx.data ∧ (rest, name) ∈ layerNames ∧
    r = "layers." ++ idx ++ "." ++ rest ∧ n = "encoder.layer." ++ idx ++ "." ++ name

def SingleStem (key : String) : Prop :=
  ∃ s, key = sentenceEncoder ++ s ∧ ¬ sentenceEncoder.data <:+: s.data

section Keys

theorem startsWith_of_mapFairseqKey {key : String} (h : (mapFairseqKey key).isSome) :
    Py.startsWith key sentenceEncoder = true := by
  by_contra hs
  simp [mapFairseqKey, hs] at h

theorem mapFairseqKey_stem_append {key : String} (h : Py.startsWith key sentenceEncoder = true) :
    mapFairseqKey (sentenceEncoder ++ key) = mapFairseqKey key := by
  have hs : Py.startsWith (sentenceEncoder ++ key) sentenceEncoder = true :=
    Py.startsWith_iff.mpr ⟨key.data, rfl⟩
  have hr : Py.replace (sentenceEncoder ++ key) sentenceEncoder "" =
      Py.replace key sentenceEncoder "" :=
    congrArg String.mk (Py.replaceGo_append [] (by decide) key.data)
  simp only [mapFairseqKey, hs, h, hr]

theorem lookup_mem {l : List (String × String)} {k v : String} (h : l.lookup k = some v) :
    (k, v) ∈ l := by
  obtain ⟨l₁, l₂, rfl, -⟩ := List.lookup_eq_some_iff.mp h
  simp

theorem mapFairseqKey_cases {key n : String} (h : mapFairseqKey key = some n) :
    Py.startsWith key sentenceEncoder = true ∧ Renames (Py.replace key sentenceEncoder "") n := by
  have hs : Py.startsWith key sentenceEncoder = true := startsWith_of_mapFairseqKey (by simp [h])
  refine ⟨hs, ?_⟩
  simp only [mapFairseqKey, hs, Bool.not_true, Bool.false_eq_true, if_false] at h
  generalize Py.replace key sentenceEncoder "" = r at h ⊢
  cases he : embeddingNames.lookup r with
  | some name =>
    rw [he] at h
    cases h
    exact .inl (lookup_mem he)
  | none =>
    rw [he] at h
    dsimp only at h
    split_ifs at h with hl
    obtain ⟨name, hname, rfl⟩ := Option.map_eq_some'.mp h
    obtain ⟨t, ht⟩ := Py.startsWith_iff.mp hl
    have hsplit : r.data.splitOn '.' = "layers".data :: t.splitOn '.' := by
      rw [ht]
      exact List.splitOnP_first (· == '.') "layers".data (by decide) '.' rfl t
    obtain ⟨idx, ps, hps⟩ := List.exists_cons_of_ne_nil (List.splitOnP_ne_nil (· == '.') t)
    have hidx : '.' ∉ idx := fun hd => by
      have := Py.splitOnP_sep_free (· == '.') t idx (hps ▸ List.mem_cons_self _ _) '.' hd
      simp at this
    simp only [Py.splitOn, Py.join, hsplit] at hname ⊢
    rw [show List.splitOn '.' t = idx :: ps from hps] at hname ⊢
    have ht' : t = ['.'].intercalate (idx :: ps) := by
      rw [← hps]; exact (List.intercalate_splitOn t '.').symm
    have hid : (String.data ∘ String.mk) = id := rfl
    simp only [List.map_cons, List.drop_succ_cons, List.drop_zero, List.getD_cons_succ,
      List.getD_cons_zero, List.map_map, hid, List.map_id] at hname ⊢
    cases ps with
    | nil =>
      have h0 : layerNames.lookup ⟨['.'].intercalate []⟩ = none := by decide
      exact Option.noConfusion (h0.symm.trans hname)
    | cons p ps =>
      refine .inr ⟨⟨idx⟩, ⟨['.'].intercalate (p :: ps)⟩, name, hidx, lookup_mem hname, ?_, rfl⟩
      apply String.ext
      simp [ht, ht', List.intercalate]

theorem lookup_embeddingNames : ∀ p ∈ embeddingNames, embeddingNames.lookup p.1 = some p.2 := by
  decide

theorem lookup_layerNames : ∀ p ∈ layerNames, layerNames.lookup p.1 = some p.2 := by
  decide

theorem embeddingNames_head : ∀ p ∈ embeddingNames, p.1.data.head? = some 'e' := by
  decide

/-- `map_fairseq_key` renames a key to `n` exactly when the key starts with the stem and one of the
two tables renames what `str.replace` leaves to `n`. -/
theorem mapFairseqKey_eq_some_iff (key n : String) :
    mapFairseqKey key = some n ↔
      Py.startsWith key sentenceEncoder = true ∧ Renames (Py.replace key sentenceEncoder "") n := by
  refine ⟨mapFairseqKey_cases, fun ⟨hs, hr⟩ => ?_⟩
  simp only [mapFairseqKey, hs, Bool.not_true, Bool.false_eq_true, if_false]
  generalize Py.replace key sentenceEncoder "" = r at hr ⊢
  rcases hr with hmem | ⟨idx, rest, name, hidx, hmem, rfl, rfl⟩
  · rw [lookup_embeddingNames _ hmem]
  · have hdata : ("layers." ++ idx ++ "." ++ rest).data =
        "layers".data ++ '.' :: (idx.data ++ '.' :: rest.data) := by
      simp [List.append_assoc]
    have hnone : embeddingNames.lookup ("layers." ++ idx ++ "." ++ rest) = none := by
      cases h : embeddingNames.lookup ("layers." ++ idx ++ "." ++ rest) with
      | none => rfl
      | some v =>
        have := embeddingNames_head _ (lookup_mem h)
        rw [hdata, show "layers".data = ['l', 'a', 'y', 'e', 'r', 's'] from rfl] at this
        cases this
    have hstart : Py.startsWith ("layers." ++ idx ++ "." ++ rest) "layers." = true :=
      Py.startsWith_iff.mpr ⟨(idx ++ "." ++ rest).data, by simp [List.append_assoc]⟩
    -- `key.split(".")`: `layers`, the index, then the parts of the weight's name
    have hsplit : ("layers." ++ idx ++ "." ++ rest).data.splitOn '.' =
        "layers".data :: idx.data :: rest.data.splitOn '.' := by
      rw [hdata, List.splitOn, List.splitOnP_first _ _ (by decide) '.' rfl,
        List.splitOnP_first (· == '.') idx.data (fun x hx hxd => hidx (eq_of_beq hxd ▸ hx))
          '.' rfl]
      rfl
    have hid : (String.data ∘ String.mk) = id := rfl
    simp only [hnone, hstart, if_true, Py.splitOn, Py.join, hsplit, List.map_cons,
      List.getD_cons_succ, List.getD_cons_zero, List.drop_succ_cons, List.drop_zero, List.map_map,
      hid, List.map_id, List.intercalate_splitOn, lookup_layerNames _ hmem, Option.map_some']

theorem layerName_take (idx name : String) :
    ("encoder.layer." ++ idx ++ "." ++ name).data.take 2 = ['e', 'n'] := by
  simp only [String.data_append, List.append_assoc]
  rw [List.take_append_of_le_length (by decide)]
  rfl

theorem embeddingName_take : ∀ p ∈ embeddingNames, p.2.data.take 2 = ['e', 'm'] := by decide

theorem append_sep_inj {c : Char} {a a' b b' : List Char} (ha : c ∉ a) (ha' : c ∉ a')
    (h : a ++ c :: b = a' ++ c :: b') : a = a' ∧ b = b' := by
  have hs := congrArg (List.splitOnP (· == c)) h
  have hp (l : List Char) (hl : c ∉ l) : ∀ x ∈ l, ¬ (x == c) = true :=
    fun x hx hxc => hl (eq_of_beq hxc ▸ hx)
  rw [List.splitOnP_first _ a (hp a ha) c (by simp) b,
    List.splitOnP_first _ a' (hp a' ha') c (by simp) b'] at hs
  obtain rfl := (List.cons.inj hs).1
  exact ⟨rfl, (List.cons.inj (List.append_cancel_left h)).2⟩

theorem layerName_inj {idx idx' name name' : String} (hidx : '.' ∉ idx.data)
    (hidx' : '.' ∉ idx'.data)
    (h : "encoder.layer." ++ idx ++ "." ++ name = "encoder.layer." ++ idx' ++ "." ++ name') :
    idx = idx' ∧ name = name' := by
  have hd := congrArg String.data h
  simp only [String.data_append, List.append_assoc] at hd
  obtain ⟨h1, h2⟩ := append_sep_inj hidx hidx' (List.append_cancel_left hd)
  exact ⟨String.ext h1, String.ext h2⟩

theorem lookup_inj {l : List (String × String)} (hl : (l.map Prod.snd).Nodup) {k k' v : String}
    (h : (k, v) ∈ l) (h' : (k', v) ∈ l) : k = k' :=
  congrArg Prod.fst (List.inj_on_of_nodup_map hl h h' rfl)

theorem Renames.inj {r r' n : String} (h : Renames r n) (h' : Renames r' n) : r = r' := by
  rcases h with h | ⟨idx, rest, name, hidx, hmem, rfl, rfl⟩ <;>
    rcases h' with h' | ⟨idx', rest', name', hidx', hmem', rfl, hn⟩
  · exact lookup_inj (by decide) h h'
  · have := embeddingName_take _ h
    rw [hn, layerName_take] at this
    exact absurd this (by decide)
  · have := embeddingName_take _ h'
    rw [layerName_take] at this
    exact absurd this (by decide)
  · obtain ⟨rfl, rfl⟩ := layerName_inj hidx hidx' hn
    rw [lookup_inj (by decide) hmem hmem']

theorem replace_stem {s : String} (hs : ¬ sentenceEncoder.data <:+: s.data) :
    Py.replace (sentenceEncoder ++ s) sentenceEncoder "" = s :=
  String.ext ((Py.replaceGo_append [] (by decide) s.data).trans (Py.replaceGo_of_not_infix [] hs))

theorem mapFairseqKey_injOn {k k' n : String} (hk : SingleStem k) (hk' : SingleStem k')
    (h : mapFairseqKey k = some n) (h' : mapFairseqKey k' = some n) : k = k' := by
  obtain ⟨s, rfl, hs⟩ := hk
  obtain ⟨s', rfl, hs'⟩ := hk'
  have hr := (mapFairseqKey_cases h).2
  have hr' := (mapFairseqKey_cases h').2
  rw [replace_stem hs] at hr
  rw [replace_stem hs'] at hr'
  rw [Renames.inj hr hr']

theorem mapFairseqKey_ne_tokenTypeKey (key : String) : mapFairseqKey key ≠ some tokenTypeKey := by
  intro h
  rcases (mapFairseqKey_cases h).2 with h | ⟨idx, rest, name, -, -, -, hn⟩
  · exact (show tokenTypeKey ∉ embeddingNames.map Prod.snd by decide)
      (List.mem_map_of_mem Prod.snd h)
  · have := layerName_take idx name
    rw [← hn] at this
    exact absurd this (by decide)

end Keys

section Dict

variable {α : Type}

theorem dictSet_keys (d : List (String × α)) (k : String) (v : α) :
    (dictSet d k v).map Prod.fst =
      if k ∈ d.map Prod.fst then d.map Prod.fst else d.map Prod.fst ++ [k] := by
  induction d with
  | nil => rfl
  | cons e d ih =>
    obtain ⟨k', v'⟩ := e
    by_cases h : k' = k
    · subst h
      simp only [dictSet, if_pos, List.map_cons, List.mem_cons, true_or]
    · simp only [dictSet, h, if_false, List.map_cons, ih, List.mem_cons, Ne.symm h, false_or]
      split_ifs <;> rfl

theorem mem_keys_dictSet {d : List (String × α)} {k k' : String} {v : α} :
    k' ∈ (dictSet d k v).map Prod.fst ↔ k' ∈ d.map Prod.fst ∨ k' = k := by
  rw [dictSet_keys]
  split_ifs with h
  · exact ⟨.inl, fun h' => h'.elim id (· ▸ h)⟩
  · simp only [List.mem_append, List.mem_singleton]

theorem nodup_keys_dictSet {d : List (String × α)} (hd : (d.map Prod.fst).Nodup) (k : String)
    (v : α) : ((dictSet d k v).map Prod.fst).Nodup := by
  rw [dictSet_keys]
  split_ifs with h
  · exact hd
  · exact hd.append (List.nodup_singleton k) (List.disjoint_singleton.mpr h)

theorem length_dictSet_le (d : List (String × α)) (k : String) (v : α) :
    (dictSet d k v).length ≤ d.length + 1 := by
  have := congrArg List.length (dictSet_keys d k v)
  simp only [List.length_map] at this
  split_ifs at this <;> simp [this]

theorem dictSet_of_not_mem {d : List (String × α)} {k : String} (v : α)
    (h : k ∉ d.map Prod.fst) : dictSet d k v = d ++ [(k, v)] := by
  induction d with
  | nil => rfl
  | cons e d ih =>
    simp only [List.map_cons, List.mem_cons, not_or] at h
    simp [dictSet, Ne.symm h.1, ih h.2]

end Dict

section Loop

variable {α : Type} (toFloat32 : α → α)

theorem foldl_mapStep_keys : ∀ (sd acc : List (String × α)), (acc.map Prod.fst).Nodup →
    ((sd.foldl (mapStep toFloat32) acc).map Prod.fst).Nodup ∧
    ∀ n, n ∈ (sd.foldl (mapStep toFloat32) acc).map Prod.fst ↔
      n ∈ acc.map Prod.fst ∨ n ∈ sd.filterMap fun e => mapFairseqKey e.1
  | [], _, hacc => ⟨hacc, fun _ => (or_iff_left (List.not_mem_nil _)).symm⟩
  | e :: sd, acc, hacc => by
    have hstep : ((mapStep toFloat32 acc e).map Prod.fst).Nodup ∧
        ∀ m, m ∈ (mapStep toFloat32 acc e).map Prod.fst ↔
          m ∈ acc.map Prod.fst ∨ mapFairseqKey e.1 = some m := by
      unfold mapStep
      split
      · next hn => exact ⟨hacc, fun m => (or_iff_left (by simp [hn])).symm⟩
      · next n hn =>
        refine ⟨nodup_keys_dictSet hacc _ _, fun m => ?_⟩
        rw [mem_keys_dictSet, hn, Option.some_inj]
        exact or_congr_right eq_comm
    obtain ⟨hnd, hmem⟩ := foldl_mapStep_keys sd _ hstep.1
    refine ⟨hnd, fun n => ?_⟩
    rw [List.foldl_cons, hmem, hstep.2, List.filterMap_cons]
    cases mapFairseqKey e.1 with
    | none => exact or_congr_left (or_iff_left (by simp))
    | some b => simp only [Option.some.injEq, List.mem_cons, or_assoc, @eq_comm _ b]

theorem not_nodup_filterMap {β γ : Type} {g : β → Option γ} {a b : β} {z : γ} (hab : a ≠ b)
    (ha : g a = some z) (hb : g b = some z) :
    ∀ {l : List β}, a ∈ l → b ∈ l → ¬ (l.filterMap g).Nodup
  | x :: xs, hxa, hxb, hnd => by
    have htail : (xs.filterMap g).Nodup :=
      hnd.sublist ((List.sublist_cons_self x xs).filterMap g)
    rcases List.mem_cons.mp hxa with rfl | ha' <;> rcases List.mem_cons.mp hxb with rfl | hb'
    · exact hab rfl
    · rw [List.filterMap_cons_some ha] at hnd
      exact (List.nodup_cons.mp hnd).1 (List.mem_filterMap.mpr ⟨b, hb', hb⟩)
    · rw [List.filterMap_cons_some hb] at hnd
      exact (List.nodup_cons.mp hnd).1 (List.mem_filterMap.mpr ⟨a, ha', ha⟩)
    · exact not_nodup_filterMap hab ha hb ha' hb' htail

theorem mapStateDict_length_lt (stateDict : List (String × α))
    (hcoll : ¬ (stateDict.filterMap fun e => mapFairseqKey e.1).Nodup) :
    (mapStateDict toFloat32 stateDict).length <
      (stateDict.filterMap fun e => mapFairseqKey e.1).length := by
  obtain ⟨hnd, hmem⟩ := foldl_mapStep_keys toFloat32 stateDict [] List.nodup_nil
  set L := stateDict.filterMap fun e => mapFairseqKey e.1
  have hsub : ((mapStateDict toFloat32 stateDict).map Prod.fst).Subperm L.dedup :=
    List.subperm_of_subset hnd fun n hn => List.mem_dedup.mpr (by simpa using (hmem n).mp hn)
  have hdedup : L.dedup.length < L.length :=
    lt_of_le_of_ne (List.dedup_sublist L).length_le fun h =>
      hcoll ((List.dedup_sublist L).eq_of_length h ▸ List.nodup_dedup L)
  simpa using lt_of_le_of_lt hsub.length_le hdedup

theorem foldl_mapStep_of_nodup : ∀ (sd acc : List (String × α)),
    (sd.filterMap fun e => mapFairseqKey e.1).Nodup →
    (∀ n ∈ sd.filterMap (fun e => mapFairseqKey e.1), n ∉ acc.map Prod.fst) →
    sd.foldl (mapStep toFloat32) acc =
      acc ++ sd.filterMap fun e => (mapFairseqKey e.1).map (·, toFloat32 e.2)
  | [], acc, _, _ => by simp
  | e :: sd, acc, hnd, hfresh => by
    rw [List.foldl_cons]
    cases hn : mapFairseqKey e.1 with
    | none =>
      simp only [List.filterMap_cons, hn] at hnd hfresh ⊢
      simpa [mapStep, hn] using foldl_mapStep_of_nodup sd acc hnd hfresh
    | some n =>
      simp only [List.filterMap_cons, hn, List.nodup_cons, List.mem_cons, forall_eq_or_imp,
        Option.map_some'] at hnd hfresh ⊢
      rw [mapStep, hn]
      dsimp only
      rw [dictSet_of_not_mem _ hfresh.1, foldl_mapStep_of_nodup sd _ hnd.2, List.append_assoc]
      · rfl
      · intro m hm
        rw [List.map_append, List.mem_append, not_or]
        refine ⟨hfresh.2 m hm, ?_⟩
        simp only [List.map_cons, List.map_nil, List.mem_singleton]
        rintro rfl
        exact hnd.1 hm

theorem nodup_filterMap_of_injOn {β γ : Type} {g : β → Option γ} {l : List β} (hl : l.Nodup)
    (hinj : ∀ a ∈ l, ∀ b ∈ l, ∀ z, g a = some z → g b = some z → a = b) :
    (l.filterMap g).Nodup :=
  (List.Pairwise.and_mem.mp hl).filterMap g fun a b ⟨ha, hb, hab⟩ z hz _ hz' hzz =>
    hab (hinj a ha b hb z hz (hzz ▸ hz'))

end Loop

/-- A state dict holding an accepted key `k` and the stem followed by `k` loses a tensor: both keys
get one new name. -/
theorem convertFairseqCheckpoint_drops_tensor {α : Type} (toFloat32 : α → α) (zeros : α)
    (stateDict : List (String × α)) (key : String) (out : List (String × α))
    (hkey : (mapFairseqKey key).isSome) (h₁ : key ∈ stateDict.map Prod.fst)
    (h₂ : sentenceEncoder ++ key ∈ stateDict.map Prod.fst)
    (hout : convertFairseqCheckpoint toFloat32 zeros stateDict = .ok out) :
    out.length < stateDict.countP (fun e => (mapFairseqKey e.1).isSome) + 1 := by
  obtain ⟨n, hn⟩ := Option.isSome_iff_exists.mp hkey
  obtain ⟨⟨_, t₁⟩, he₁, hk₁⟩ := List.mem_map.mp h₁
  obtain ⟨⟨_, t₂⟩, he₂, hk₂⟩ := List.mem_map.mp h₂
  replace he₁ : (key, t₁) ∈ stateDict := hk₁ ▸ he₁
  replace he₂ : (sentenceEncoder ++ key, t₂) ∈ stateDict := hk₂ ▸ he₂
  have hne : ((sentenceEncoder ++ key, t₂) : String × α) ≠ (key, t₁) := fun h => by
    have hlen := congrArg (fun e : String × α => e.1.length) h
    have h0 : 0 < sentenceEncoder.length := by decide
    simp only [String.length_append] at hlen
    omega
  have hcoll := not_nodup_filterMap (g := fun e : String × α => mapFairseqKey e.1) hne
    (by simpa [mapFairseqKey_stem_append (startsWith_of_mapFairseqKey hkey)] using hn) hn
    he₂ he₁
  have hlt := mapStateDict_length_lt toFloat32 stateDict hcoll
  rw [List.length_filterMap_eq_countP] at hlt
  dsimp only [convertFairseqCheckpoint] at hout
  split at hout
  · cases hout
  · split_ifs at hout <;> cases hout
    · omega
    · have := length_dictSet_le (mapStateDict toFloat32 stateDict) tokenTypeKey zeros
      omega

def collidingStateDict : List (String × Nat) :=
  [("encoder.sentence_encoder.embed_tokens.weight", 0),
   ("encoder.sentence_encoder.embed_positions.weight", 1),
   ("encoder.sentence_encoder.emb_layer_norm.weight", 2),
   ("encoder.sentence_encoder.layers.0.fc1.weight", 3),
   ("encoder.sentence_encoder.layers.11.fc1.weight", 4),
   ("encoder.sentence_encoder.encoder.sentence_encoder.embed_tokens.weight", 5)]

theorem convertFairseqCheckpoint_drops_tensor_embed_tokens :
    ∃ out, convertFairseqCheckpoint id 0 collidingStateDict = .ok out ∧
      out.length < collidingStateDict.countP (fun e => (mapFairseqKey e.1).isSome) + 1 :=
  ⟨_, rfl, convertFairseqCheckpoint_drops_tensor id 0 collidingStateDict
    "encoder.sentence_encoder.embed_tokens.weight" _ (by decide) (by decide) (by decide) rfl⟩

/-- On distinct keys that carry the stem once, at the start, a conversion that saves keeps every
accepted tensor under its own name. -/
theorem convertFairseqCheckpoint_keeps_tensors {α : Type} (toFloat32 : α → α) (zeros : α)
    (stateDict : List (String × α)) (out : List (String × α))
    (hkeys : (stateDict.map Prod.fst).Nodup)
    (hstem : ∀ e ∈ stateDict, (mapFairseqKey e.1).isSome → SingleStem e.1)
    (hout : convertFairseqCheckpoint toFloat32 zeros stateDict = .ok out) :
    out = stateDict.filterMap (fun e => (mapFairseqKey e.1).map (·, toFloat32 e.2)) ++
      [(tokenTypeKey, zeros)] := by
  have hinj : ∀ a ∈ stateDict, ∀ b ∈ stateDict, ∀ z,
      mapFairseqKey a.1 = some z → mapFairseqKey b.1 = some z → a = b := fun a ha b hb z hz hz' =>
    List.inj_on_of_nodup_map hkeys ha hb (mapFairseqKey_injOn (hstem a ha (by rw [hz]; rfl))
      (hstem b hb (by rw [hz']; rfl)) hz hz')
  have hmapped : mapStateDict toFloat32 stateDict =
      stateDict.filterMap fun e => (mapFairseqKey e.1).map (·, toFloat32 e.2) :=
    foldl_mapStep_of_nodup toFloat32 stateDict [] (nodup_filterMap_of_injOn (hkeys.of_map _) hinj)
      fun _ _ => List.not_mem_nil _
  have hnot : tokenTypeKey ∉ (mapStateDict toFloat32 stateDict).map Prod.fst := by
    rw [hmapped]
    intro hmem
    obtain ⟨⟨k, v⟩, hkv, rfl⟩ := List.mem_map.mp hmem
    obtain ⟨e, -, he⟩ := List.mem_filterMap.mp hkv
    obtain ⟨n, hn, heq⟩ := Option.map_eq_some'.mp he
    cases heq
    exact mapFairseqKey_ne_tokenTypeKey e.1 hn
  dsimp only [convertFairseqCheckpoint] at hout
  split at hout
  · cases hout
  · rw [if_neg hnot, dictSet_of_not_mem _ hnot, hmapped] at hout
    exact (Except.ok.inj hout).symm

theorem convertFairseqCheckpoint_keeps_tensors_five :
    ∃ out, convertFairseqCheckpoint id 0 (collidingStateDict.take 5) = .ok out ∧
      out = (collidingStateDict.take 5).filterMap
        (fun e => (mapFairseqKey e.1).map (·, id e.2)) ++ [(tokenTypeKey, 0)] :=
  ⟨_, rfl, convertFairseqCheckpoint_keeps_tensors id 0 _ _ (by decide) (fun e he _ => by
    simp only [collidingStateDict, List.take, List.mem_cons, List.mem_nil_iff, or_false] at he
    rcases he with rfl | rfl | rfl | rfl | rfl
    exacts [⟨"embed_tokens.weight", rfl, by decide⟩, ⟨"embed_positions.weight", rfl, by decide⟩,
      ⟨"emb_layer_norm.weight", rfl, by decide⟩, ⟨"layers.0.fc1.weight", rfl, by decide⟩,
      ⟨"layers.11.fc1.weight", rfl, by decide⟩]) rfl⟩

section Rename

variable {α : Type}

theorem lookup_cons_ne {n k : String} (v : α) (d : List (String × α)) (h : n ≠ k) :
    ((k, v) :: d).lookup n = d.lookup n := by
  rw [List.lookup_cons, show (n == k) = false by simp [h]]

theorem lookup_dictSet (d : List (String × α)) (k n : String) (v : α) :
    (dictSet d k v).lookup n = if n = k then some v else d.lookup n := by
  induction d with
  | nil =>
    by_cases h : n = k
    · subst h; simp [dictSet]
    · simp [dictSet, lookup_cons_ne _ _ h, h]
  | cons e d ih =>
    obtain ⟨k', v'⟩ := e
    by_cases h : k' = k
    · subst h
      by_cases hn : n = k'
      · subst hn; simp [dictSet]
      · simp [dictSet, lookup_cons_ne _ _ hn, hn]
    · by_cases hn : n = k'
      · subst hn
        simp [dictSet, h]
      · simp only [dictSet, h, if_false, lookup_cons_ne _ _ hn, ih]

/-- One iteration of a renaming loop: a key with a new name has its tensor, made `float32`,
stored under that name, `mapped[new_key] = tensor.float()`; a key without one is skipped. -/
def renameStep (rename : String → Option String) (toFloat32 : α → α)
    (mapped : List (String × α)) (entry : String × α) : List (String × α) :=
  match rename entry.1 with
  | none => mapped
  | some newKey => dictSet mapped newKey (toFloat32 entry.2)

theorem mapStep_eq_renameStep (toFloat32 : α → α) :
    mapStep toFloat32 = renameStep mapFairseqKey toFloat32 := rfl

theorem lookup_foldl_renameStep (rename : String → Option String) (toFloat32 : α → α)
    (n : String) : ∀ (stateDict acc : List (String × α)),
    (stateDict.foldl (renameStep rename toFloat32) acc).lookup n =
      ((stateDict.filter fun e => rename e.1 = some n).getLast?.map (toFloat32 ·.2)).or
        (acc.lookup n)
  | [], _ => rfl
  | e :: stateDict, acc => by
    have hstep : (renameStep rename toFloat32 acc e).lookup n =
        if rename e.1 = some n then some (toFloat32 e.2) else acc.lookup n := by
      unfold renameStep
      split
      · next h => simp [h]
      · next k h => simp [lookup_dictSet, h, @eq_comm _ n]
    rw [List.foldl_cons, lookup_foldl_renameStep rename toFloat32 n stateDict, hstep,
      List.filter_cons]
    by_cases h : rename e.1 = some n
    · simp only [h, if_true, decide_True, List.getLast?_cons]
      cases (stateDict.filter fun e => rename e.1 = some n).getLast? <;> rfl
    · simp only [h, if_false, decide_False, Bool.false_eq_true]

/-- `convert_from_huggingface`, its loop: every key with each `roberta.` removed by
`str.replace`, every tensor made `float32` by `tensor.float()`. -/
def convertFromHuggingface (toFloat32 : α → α) (stateDict : List (String × α)) :
    List (String × α) :=
  stateDict.foldl (renameStep (fun key => some (Py.replace key "roberta." "")) toFloat32) []

/-- `convert_from_huggingface` keeps under each name the `float32` tensor of the last key that becomes
that name once every `roberta.` is removed. -/
theorem convertFromHuggingface_lookup (toFloat32 : α → α) (stateDict : List (String × α))
    (n : String) :
    (convertFromHuggingface toFloat32 stateDict).lookup n =
      (stateDict.filter fun e => Py.replace e.1 "roberta." "" = n).getLast?.map
        (toFloat32 ·.2) := by
  rw [convertFromHuggingface, lookup_foldl_renameStep, List.lookup_nil, Option.or_none]
  simp only [Option.some.injEq]

/-- What `convert_fairseq_checkpoint` saves: under each name the `float32` tensor of the last key
renamed to it, and the dummy `token_type_embeddings`. -/
theorem convertFairseqCheckpoint_lookup (toFloat32 : α → α) (zeros : α)
    (stateDict out : List (String × α))
    (hout : convertFairseqCheckpoint toFloat32 zeros stateDict = .ok out) (n : String) :
    out.lookup n = if n = tokenTypeKey then some zeros else
      (stateDict.filter fun e => mapFairseqKey e.1 = some n).getLast?.map (toFloat32 ·.2) := by
  have hnot : tokenTypeKey ∉ (mapStateDict toFloat32 stateDict).map Prod.fst := fun h => by
    obtain ⟨e, -, he⟩ := List.mem_filterMap.mp
      (((foldl_mapStep_keys toFloat32 stateDict [] List.nodup_nil).2 _).mp h |>.resolve_left
        (List.not_mem_nil _))
    exact mapFairseqKey_ne_tokenTypeKey e.1 he
  have hmapped : ∀ n, (mapStateDict toFloat32 stateDict).lookup n =
      (stateDict.filter fun e => mapFairseqKey e.1 = some n).getLast?.map (toFloat32 ·.2) := by
    intro n
    rw [mapStateDict, mapStep_eq_renameStep, lookup_foldl_renameStep, List.lookup_nil,
      Option.or_none]
  dsimp only [convertFairseqCheckpoint] at hout
  split at hout
  · cases hout
  · rw [if_neg hnot] at hout
    cases hout
    rw [lookup_dictSet, hmapped]

theorem convertFairseqCheckpoint_lookup_word_embeddings :
    ∃ out, convertFairseqCheckpoint id 0 collidingStateDict = .ok out ∧
      out.lookup "embeddings.word_embeddings.weight" =
        if "embeddings.word_embeddings.weight" = tokenTypeKey then some 0 else
          (collidingStateDict.filter fun e =>
            mapFairseqKey e.1 = some "embeddings.word_embeddings.weight").getLast?.map (id ·.2) :=
  ⟨_, rfl, convertFairseqCheckpoint_lookup id 0 collidingStateDict _ rfl _⟩

/-- Some key of the state dict gets a new name that starts with `p`. -/
def HasWeight (stateDict : List (String × α)) (p : String) : Prop :=
  ∃ e ∈ stateDict, ∃ n, mapFairseqKey e.1 = some n ∧ Py.startsWith n p = true

theorem any_mapStateDict_iff (toFloat32 : α → α) (stateDict : List (String × α))
    (p : String) :
    (mapStateDict toFloat32 stateDict).any (fun e => Py.startsWith e.1 p) = true ↔
      HasWeight stateDict p := by
  have hmem := (foldl_mapStep_keys toFloat32 stateDict [] List.nodup_nil).2
  rw [List.any_eq_true]
  constructor
  · rintro ⟨e, he, hp⟩
    obtain ⟨x, hx, hxe⟩ := List.mem_filterMap.mp
      (((hmem e.1).mp (List.mem_map_of_mem _ he)).resolve_left (List.not_mem_nil _))
    exact ⟨x, hx, e.1, hxe, hp⟩
  · rintro ⟨x, hx, n, hn, hp⟩
    obtain ⟨e, he, rfl⟩ := List.mem_map.mp
      ((hmem n).mpr (.inr (List.mem_filterMap.mpr ⟨x, hx, hn⟩)))
    exact ⟨e, he, hp⟩

/-- `convert_fairseq_checkpoint` saves exactly when every expected prefix starts some new name, and
else raises `ValueError` naming the first missing one. -/
theorem convertFairseqCheckpoint_check (toFloat32 : α → α) (zeros : α)
    (stateDict : List (String × α)) :
    ((∃ out, convertFairseqCheckpoint toFloat32 zeros stateDict = .ok out) ↔
      ∀ p ∈ expectedWeights, HasWeight stateDict p) ∧
    ∀ msg, convertFairseqCheckpoint toFloat32 zeros stateDict = .error msg ↔
      ∃ pre p post, expectedWeights = pre ++ p :: post ∧ (∀ q ∈ pre, HasWeight stateDict q) ∧
        ¬ HasWeight stateDict p ∧ msg = "Missing expected weight prefix: " ++ p := by
  have hmiss : ∀ p,
      (!(mapStateDict toFloat32 stateDict).any fun e => Py.startsWith e.1 p) = true ↔
        ¬ HasWeight stateDict p := fun p => by
    rw [Bool.not_eq_true', ← Bool.not_eq_true, any_mapStateDict_iff]
  have hhas : ∀ p,
      (!!(mapStateDict toFloat32 stateDict).any fun e => Py.startsWith e.1 p) = true ↔
        HasWeight stateDict p := fun p => by
    rw [Bool.not_not, any_mapStateDict_iff]
  dsimp only [convertFairseqCheckpoint]
  split
  · next p hp =>
    obtain ⟨hpp, pre, post, hsplit, hpre⟩ := List.find?_eq_some.mp hp
    refine ⟨⟨fun ⟨_, h⟩ => (nomatch h), fun h => absurd (h p (List.mem_of_find?_eq_some hp))
      ((hmiss p).mp hpp)⟩, fun msg => ⟨?_, ?_⟩⟩
    · rintro ⟨⟩
      exact ⟨pre, p, post, hsplit, fun q hq => (hhas q).mp (hpre q hq), (hmiss p).mp hpp, rfl⟩
    · rintro ⟨pre', p', post', hsplit', hpre', hp', rfl⟩
      -- the search stops at the first prefix without a weight, which is `p'`
      cases hp.symm.trans (List.find?_eq_some.mpr ⟨(hmiss p').mpr hp', pre', post', hsplit',
        fun q hq => (hhas q).mpr (hpre' q hq)⟩)
      rfl
  · next hnone =>
    have hall : ∀ p ∈ expectedWeights, HasWeight stateDict p := fun p hp =>
      (hhas p).mp (by rw [Bool.eq_false_iff.mpr (List.find?_eq_none.mp hnone p hp)]; rfl)
    refine ⟨⟨fun _ => hall, fun _ => ?_⟩, fun msg => ⟨fun h => ?_, ?_⟩⟩
    · split <;> exact ⟨_, rfl⟩
    · split at h <;> cases h
    · rintro ⟨pre, p, post, hsplit, -, hp, -⟩
      exact absurd (hall p (hsplit ▸ List.mem_append_right _ (List.mem_cons_self _ _))) hp

end Rename

end HfBenchmark.Kepler
