import HfBenchmark.Python.Text
import Mathlib.Tactic.Linarith
import Mathlib.Tactic.Ring

namespace HfBenchmark

/-- One chunk of `chunk_text`: its text and its `[start_word, end_word)` word offsets. -/
abbrev Window := String × Int × Int

/-- The `while start < len(words)` loop of `chunk_text` from word `start`, allowed `fuel`
iterations. -/
def chunkLoop (words : List String) (chunkSize overlap : Int) : Nat → Int → Option (List Window)
  | 0, _ => none
  | fuel + 1, start =>
    if start < words.length then
      let stop := min (start + chunkSize) words.length
      let chunk : Window := (Py.joinSpace (Py.slice words start stop), start, stop)
      let next := start + (chunkSize - overlap)
      if (words.length : Int) - next < overlap then some [chunk]
      else (chunkLoop words chunkSize overlap fuel next).map (chunk :: ·)
    else some []

/-- `chunk_text(text, chunk_size, overlap)`: the whole text when it has at most `chunk_size`
words, else the windows of the loop from word 0. -/
def chunkText (fuel : Nat) (text : String) (chunkSize overlap : Int) : Option (List Window) :=
  let words := Py.split text
  if (words.length : Int) ≤ chunkSize then some [(text, 0, words.length)]
  else chunkLoop words chunkSize overlap fuel 0

def Window.offsets (w : Window) : Int × Int := (w.2.1, w.2.2)

section Loop

variable {words : List String} {chunkSize overlap : Int}

theorem chunkLoop_mono : ∀ {fuel fuel' : Nat} {start : Int} {r : List Window},
    chunkLoop words chunkSize overlap fuel start = some r → fuel ≤ fuel' →
      chunkLoop words chunkSize overlap fuel' start = some r
  | 0, _, _, _, h, _ => by simp [chunkLoop] at h
  | fuel + 1, fuel' + 1, start, r, h, hle => by
    simp only [chunkLoop] at h ⊢
    split_ifs at h ⊢ <;> try exact h
    obtain ⟨r', h', rfl⟩ := Option.map_eq_some'.mp h
    rw [chunkLoop_mono h' (by omega)]
    rfl
  | _ + 1, 0, _, _, _, hle => by omega

/-- Whether the loop goes on after the `k`-th window of a `W`-word document: the tail check
`len(words) - start < overlap` fails and the next start is still inside the document. -/
def Continues (W chunkSize overlap : Int) (k : Nat) : Prop :=
  k * (chunkSize - overlap) + chunkSize ≤ W ∧ (k + 1) * (chunkSize - overlap) < W

instance (W chunkSize overlap : Int) (k : Nat) : Decidable (Continues W chunkSize overlap k) :=
  inferInstanceAs (Decidable (_ ∧ _))

/-- The offsets of the `k`-th window: it starts at `k * stride` and is cut at the end. -/
def windowAt (W chunkSize overlap : Int) (k : Nat) : Int × Int :=
  (k * (chunkSize - overlap), min (k * (chunkSize - overlap) + chunkSize) W)

theorem chunkLoop_spec (hs : 0 < chunkSize - overlap) :
    ∀ {fuel k : Nat} {r : List Window},
    (k * (chunkSize - overlap) : Int) < words.length →
    chunkLoop words chunkSize overlap fuel (k * (chunkSize - overlap)) = some r →
      0 < r.length ∧
      r.map Window.offsets =
        (List.range r.length).map (fun j => windowAt words.length chunkSize overlap (k + j)) ∧
      (∀ j, j + 1 < r.length → Continues words.length chunkSize overlap (k + j)) ∧
      ¬ Continues words.length chunkSize overlap (k + r.length - 1)
  | 0, _, _, _, h => by simp [chunkLoop] at h
  | fuel + 1, k, r, hk, h => by
    have hnext : (k * (chunkSize - overlap) + (chunkSize - overlap) : Int) =
        ((k + 1 : Nat) : Int) * (chunkSize - overlap) := by push_cast; ring
    simp only [chunkLoop, hk, ↓reduceIte, hnext] at h
    split_ifs at h with hstop
    · cases h
      refine ⟨Nat.one_pos, rfl, fun j hj => absurd (Nat.lt_of_succ_lt_succ hj) j.not_lt_zero, ?_⟩
      simp only [Continues, List.length_singleton, Nat.add_sub_cancel, not_and_or, not_le]
      left; push_cast at hstop ⊢; linarith only [hstop]
    · obtain ⟨r', h', rfl⟩ := Option.map_eq_some'.mp h
      have hcont : (k * (chunkSize - overlap) + chunkSize : Int) ≤ words.length := by
        push_cast at hstop; linarith only [hstop]
      by_cases hin : (((k + 1 : Nat) : Int) * (chunkSize - overlap)) < words.length
      · obtain ⟨hpos, hmap, hmid, hlast⟩ := chunkLoop_spec hs hin h'
        refine ⟨Nat.succ_pos _, ?_, ?_, ?_⟩
        · simp only [List.map_cons, List.length_cons, List.range_succ_eq_map, List.map_map, hmap]
          refine congrArg₂ _ ?_ (List.map_congr_left fun j _ => by simp [Nat.add_assoc, Nat.add_comm 1])
          simp only [Window.offsets, windowAt, Nat.add_zero]
        · intro j hj
          cases j with
          | zero => exact ⟨hcont, by simpa using hin⟩
          | succ j => simpa [Nat.add_assoc, Nat.add_comm 1] using hmid j (by simpa using hj)
        · simpa [Nat.add_assoc, Nat.add_comm 1, Nat.sub_add_comm (by omega : 1 ≤ r'.length)] using hlast
      · cases fuel with
        | zero => simp [chunkLoop] at h'
        | succ fuel =>
          simp only [chunkLoop, hin, ↓reduceIte, Option.some.injEq] at h'
          subst h'
          refine ⟨Nat.one_pos, rfl,
            fun j hj => absurd (Nat.lt_of_succ_lt_succ hj) j.not_lt_zero, ?_⟩
          simp only [Continues, List.length_singleton, Nat.add_sub_cancel, not_and_or, not_lt]
          right; simpa using hin

theorem chunkLoop_isSome (hs : 0 < chunkSize - overlap) :
    ∀ {fuel k : Nat}, (k * (chunkSize - overlap) : Int) < words.length →
      (words.length : Int) - k * (chunkSize - overlap) < fuel →
      ∃ r, chunkLoop words chunkSize overlap fuel (k * (chunkSize - overlap)) = some r
  | 0, _, hk, hf => by push_cast at hf; omega
  | fuel + 1, k, hk, hf => by
    have hnext : (k * (chunkSize - overlap) + (chunkSize - overlap) : Int) =
        ((k + 1 : Nat) : Int) * (chunkSize - overlap) := by push_cast; ring
    simp only [chunkLoop, hk, ↓reduceIte, hnext]
    split_ifs
    · exact ⟨_, rfl⟩
    · by_cases hin : (((k + 1 : Nat) : Int) * (chunkSize - overlap)) < words.length
      · obtain ⟨r, hr⟩ : ∃ r, chunkLoop words chunkSize overlap fuel
            (((k + 1 : Nat) : Int) * (chunkSize - overlap)) = some r :=
          chunkLoop_isSome hs hin (by push_cast at hf ⊢; linarith only [hf, hs])
        exact ⟨_, by rw [hr]; rfl⟩
      · cases fuel with
        | zero => push_cast at hf; linarith
        | succ fuel =>
          have hnil : chunkLoop words chunkSize overlap (fuel + 1)
              (((k + 1 : Nat) : Int) * (chunkSize - overlap)) = some [] := by
            simp only [chunkLoop, hin, ↓reduceIte]
          exact ⟨_, by rw [hnil]; rfl⟩

theorem chunkLoop_width : ∀ {fuel : Nat} {start : Int} {r : List Window},
    chunkLoop words chunkSize overlap fuel start = some r → ∀ w ∈ r, w.2.2 - w.2.1 ≤ chunkSize
  | 0, _, _, h => by simp [chunkLoop] at h
  | fuel + 1, start, r, h => by
    simp only [chunkLoop] at h
    split_ifs at h
    · cases h
      simp only [List.mem_singleton]
      rintro w rfl
      dsimp only
      omega
    · obtain ⟨r', h', rfl⟩ := Option.map_eq_some'.mp h
      rintro w (_ | ⟨_, hw⟩)
      · dsimp only; omega
      · exact chunkLoop_width h' w hw
    · cases h
      simp

theorem chunkLoop_ne_nil {fuel : Nat} {start : Int} {r : List Window}
    (hstart : start < words.length) (h : chunkLoop words chunkSize overlap fuel start = some r) :
    r ≠ [] := by
  cases fuel with
  | zero => simp [chunkLoop] at h
  | succ fuel =>
    simp only [chunkLoop, hstart, ↓reduceIte] at h
    split_ifs at h
    · cases h; simp
    · obtain ⟨r', -, rfl⟩ := Option.map_eq_some'.mp h
      simp

theorem chunkLoop_mem : ∀ {fuel : Nat} {start : Int} {r : List Window},
    chunkLoop words chunkSize overlap fuel start = some r → ∀ w ∈ r,
      ∃ s, (∃ k : Nat, s = start + k * (chunkSize - overlap)) ∧ s < words.length ∧
        w = (Py.joinSpace (Py.slice words s (min (s + chunkSize) words.length)), s,
          min (s + chunkSize) words.length)
  | 0, _, _, h => by simp [chunkLoop] at h
  | fuel + 1, start, r, h => by
    simp only [chunkLoop] at h
    split_ifs at h with hin
    · cases h
      simp only [List.mem_singleton]
      rintro w rfl
      exact ⟨start, ⟨0, by simp⟩, hin, rfl⟩
    · obtain ⟨r', h', rfl⟩ := Option.map_eq_some'.mp h
      rintro w (_ | ⟨_, hw⟩)
      · exact ⟨start, ⟨0, by simp⟩, hin, rfl⟩
      · obtain ⟨s, ⟨k, rfl⟩, hs, rfl⟩ := chunkLoop_mem h' w hw
        exact ⟨_, ⟨k + 1, by push_cast; ring⟩, hs, rfl⟩
    · cases h
      simp

end Loop

theorem getElem_offsets {r : List Window} {f : Nat → Int × Int}
    (h : r.map Window.offsets = (List.range r.length).map f) (k : Nat) (hk : k < r.length) :
    r[k].2.1 = (f k).1 ∧ r[k].2.2 = (f k).2 := by
  have := congrArg (fun l => l[k]?) h
  simp only [List.getElem?_map, List.getElem?_eq_getElem hk, List.getElem?_range hk,
    Option.map_some', Option.some.injEq, Window.offsets, Prod.ext_iff] at this
  exact this

section Text

variable {text : String} {chunkSize overlap : Int}

private theorem chunkText_eq_loop (hW : chunkSize < (Py.split text).length) (fuel : Nat) :
    chunkText fuel text chunkSize overlap =
      chunkLoop (Py.split text) chunkSize overlap fuel ((0 : Nat) * (chunkSize - overlap)) := by
  simp [chunkText, not_le.mpr hW]

theorem chunkText_isSome (hov : 0 ≤ overlap) (hlt : overlap < chunkSize)
    (hW : chunkSize < (Py.split text).length) :
    ∃ r, chunkText ((Py.split text).length + 1) text chunkSize overlap = some r := by
  rw [chunkText_eq_loop hW]
  exact chunkLoop_isSome (by omega) (by simp; omega) (by simp)

theorem chunkText_mono {fuel fuel' : Nat} {r : List Window}
    (hr : chunkText fuel text chunkSize overlap = some r) (hle : fuel ≤ fuel') :
    chunkText fuel' text chunkSize overlap = some r := by
  dsimp only [chunkText] at hr ⊢
  split_ifs at hr ⊢
  · exact hr
  · exact chunkLoop_mono hr hle

theorem chunkText_isSome_of_lt (hov : 0 ≤ overlap) (hlt : overlap < chunkSize) {fuel : Nat}
    (hf : (Py.split text).length < fuel) : ∃ r, chunkText fuel text chunkSize overlap = some r := by
  by_cases hW : chunkSize < (Py.split text).length
  · obtain ⟨r, hr⟩ := chunkText_isSome hov hlt hW
    exact ⟨r, chunkText_mono hr hf⟩
  · exact ⟨[(text, 0, (Py.split text).length)], by simp [chunkText, not_lt.mp hW]⟩

theorem chunkText_spec (hov : 0 ≤ overlap) (hlt : overlap < chunkSize)
    (hW : chunkSize < (Py.split text).length) {fuel : Nat} {r : List Window}
    (hr : chunkText fuel text chunkSize overlap = some r) :
    0 < r.length ∧
    r.map Window.offsets =
      (List.range r.length).map (windowAt (Py.split text).length chunkSize overlap) ∧
    (∀ j, j + 1 < r.length → Continues (Py.split text).length chunkSize overlap j) ∧
    ¬ Continues (Py.split text).length chunkSize overlap (r.length - 1) := by
  rw [chunkText_eq_loop hW] at hr
  simpa using chunkLoop_spec (by omega) (by simp; omega) hr

theorem chunkText_length_eq (hov : 0 ≤ overlap) (hlt : overlap < chunkSize)
    (hW : chunkSize < (Py.split text).length) {fuel : Nat} {r : List Window}
    (hr : chunkText fuel text chunkSize overlap = some r) (m : Nat)
    (hcont : ∀ j < m, Continues (Py.split text).length chunkSize overlap j)
    (hstop : ¬ Continues (Py.split text).length chunkSize overlap m) : r.length = m + 1 := by
  obtain ⟨hpos, -, hmid, hlast⟩ := chunkText_spec hov hlt hW hr
  rcases Nat.lt_trichotomy (r.length - 1) m with h | h | h
  · exact absurd (hcont _ h) hlast
  · omega
  · exact absurd (hmid m (by omega)) hstop

theorem chunkText_width {fuel : Nat} {r : List Window}
    (hr : chunkText fuel text chunkSize overlap = some r) : ∀ w ∈ r, w.2.2 - w.2.1 ≤ chunkSize := by
  dsimp only [chunkText] at hr
  split_ifs at hr with hW
  · cases hr
    simpa using hW
  · exact chunkLoop_width hr

theorem chunkText_split {fuel : Nat} {r : List Window}
    (hr : chunkText fuel text chunkSize overlap = some r) :
    ∀ w ∈ r, Py.split w.1 = Py.slice (Py.split text) w.2.1 w.2.2 := by
  dsimp only [chunkText] at hr
  split_ifs at hr
  · cases hr
    simp only [List.mem_singleton]
    rintro w rfl
    show Py.split text = Py.slice (Py.split text) ((0 : Nat) : Int) (Py.split text).length
    rw [Py.slice_of_le _ _ _ le_rfl, List.drop_zero, Nat.sub_zero, List.take_length]
  · intro w hw
    obtain ⟨s, -, -, rfl⟩ := chunkLoop_mem hr w hw
    exact Py.split_joinSpace_of_mem fun v hv => (Py.slice_sublist _ _ _).subset hv

theorem chunkText_bounds (hov : 0 ≤ overlap) (hlt : overlap < chunkSize) {fuel : Nat}
    {r : List Window} (hr : chunkText fuel text chunkSize overlap = some r) :
    ∀ w ∈ r, 0 ≤ w.2.1 ∧ w.2.1 ≤ w.2.2 ∧ w.2.2 ≤ (Py.split text).length := by
  dsimp only [chunkText] at hr
  split_ifs at hr
  · cases hr
    simp
  · intro w hw
    obtain ⟨s, ⟨k, rfl⟩, hs, rfl⟩ := chunkLoop_mem hr w hw
    have hk : (0 : Int) ≤ k * (chunkSize - overlap) := mul_nonneg (by positivity) (by omega)
    dsimp only
    omega

theorem chunkText_ne_nil (hW : 0 < (Py.split text).length) {fuel : Nat} {r : List Window}
    (hr : chunkText fuel text chunkSize overlap = some r) : r ≠ [] := by
  dsimp only [chunkText] at hr
  split_ifs at hr
  · cases hr; simp
  · exact chunkLoop_ne_nil (by simpa using hW) hr

theorem chunkText_ne_nil_of_pos (hc : 0 < chunkSize) {fuel : Nat} {r : List Window}
    (hr : chunkText fuel text chunkSize overlap = some r) : r ≠ [] := by
  dsimp only [chunkText] at hr
  split_ifs at hr
  · cases hr; simp
  · exact chunkLoop_ne_nil (by omega) hr

end Text

/-- Windows that tile a `W`-word document in order, each starting `stride` words after the one
before, sharing `overlap` words with the next, the last reaching the end. -/
structure CoverInOrder (W chunkSize overlap : Int) (r : List Window) : Prop where
  ne_nil : r ≠ []
  offsets : ∀ k (hk : k < r.length), r[k].2.1 = k * (chunkSize - overlap) ∧
    r[k].2.2 = min (k * (chunkSize - overlap) + chunkSize) W
  full : ∀ k (hk : k + 1 < r.length), r[k].2.2 - r[k].2.1 = chunkSize ∧
    r[k].2.2 - r[k + 1].2.1 = overlap
  last : ∀ k (hk : k + 1 = r.length), r[k].2.2 = W
  covers : ∀ i : Int, 0 ≤ i → i < W → ∃ k, ∃ hk : k < r.length, r[k].2.1 ≤ i ∧ i < r[k].2.2

/-- On a document longer than one chunk, `chunk_text` stops, and its windows cover the
document in order: the tail check never drops a word. -/
theorem chunkText_windows_cover (text : String) (chunkSize overlap : Int)
    (hov : 0 ≤ overlap) (hlt : overlap < chunkSize) (hW : chunkSize < (Py.split text).length) :
    (∃ fuel r, chunkText fuel text chunkSize overlap = some r) ∧
    ∀ fuel r, chunkText fuel text chunkSize overlap = some r →
      CoverInOrder (Py.split text).length chunkSize overlap r := by
  have hs : 0 < chunkSize - overlap := by omega
  refine ⟨⟨_, chunkText_isSome hov hlt hW⟩, fun fuel r hr => ?_⟩
  obtain ⟨hpos, hmap, hmid, hlast⟩ := chunkText_spec hov hlt hW hr
  have hat := getElem_offsets hmap
  simp only [windowAt] at hat
  have hend (k : Nat) (hk : k + 1 = r.length) : r[k].2.2 = (Py.split text).length := by
    rw [(hat k (by omega)).2]
    simp only [Continues, ← hk, Nat.add_sub_cancel, not_and_or, not_le, not_lt] at hlast
    rcases hlast with h | h <;> apply min_eq_right <;> linarith only [h, hov]
  refine ⟨List.ne_nil_of_length_pos hpos, hat, fun k hk => ?_, hend, fun i hi0 hiW => ?_⟩
  · obtain ⟨hc, -⟩ := hmid k hk
    rw [(hat k (by omega)).1, (hat k (by omega)).2, (hat (k + 1) hk).1, min_eq_left hc]
    push_cast; constructor <;> ring
  · -- the block `i / stride` holds `i`, unless it is past the last window
    obtain ⟨q, hq⟩ : ∃ q : Nat, (q : Int) = i / (chunkSize - overlap) :=
      ⟨_, Int.toNat_of_nonneg (Int.ediv_nonneg hi0 hs.le)⟩
    have hlo : (q : Int) * (chunkSize - overlap) ≤ i := hq ▸ Int.ediv_mul_le i hs.ne'
    have hhi : i < ((q : Int) + 1) * (chunkSize - overlap) := hq ▸ Int.lt_ediv_add_one_mul_self i hs
    by_cases hq' : q < r.length
    · refine ⟨q, hq', by rw [(hat q hq').1]; exact hlo, ?_⟩
      rw [(hat q hq').2, lt_min_iff]
      exact ⟨by linarith only [hhi, hov], hiW⟩
    · refine ⟨r.length - 1, by omega, ?_, by rw [hend _ (by omega)]; exact hiW⟩
      rw [(hat _ (by omega)).1]
      have : ((r.length - 1 : Nat) : Int) ≤ q := by omega
      exact (mul_le_mul_of_nonneg_right this hs.le).trans hlo

theorem chunkText_windows_cover_three_words :
    (0 : Int) ≤ 1 ∧ (1 : Int) < 2 ∧ (2 : Int) < (Py.split "a b c").length ∧
    ((∃ fuel r, chunkText fuel "a b c" 2 1 = some r) ∧
      ∀ fuel r, chunkText fuel "a b c" 2 1 = some r →
        CoverInOrder (Py.split "a b c").length 2 1 r) :=
  ⟨by decide, by decide, by decide, chunkText_windows_cover "a b c" 2 1 (by decide) (by decide) (by decide)⟩

theorem chunkText_ends_strictMono_iff {text : String} {chunkSize overlap : Int}
    (hov : 0 ≤ overlap) (hlt : overlap < chunkSize) (hW : chunkSize < (Py.split text).length)
    {fuel : Nat} {r : List Window} (hr : chunkText fuel text chunkSize overlap = some r) :
    (∀ k (hk : k + 1 < r.length), r[k].2.2 < r[k + 1].2.2) ↔
      ¬ (0 < overlap ∧ (chunkSize - overlap) ∣ ((Py.split text).length - chunkSize)) := by
  have hs : 0 < chunkSize - overlap := by omega
  obtain ⟨hpos, hmap, hmid, -⟩ := chunkText_spec hov hlt hW hr
  have hat := getElem_offsets hmap
  simp only [windowAt] at hat
  constructor
  · rintro hinc ⟨hov0, m', hm'⟩
    obtain ⟨m, rfl⟩ : ∃ m : Nat, (m : Int) = m' :=
      ⟨_, Int.toNat_of_nonneg (pos_of_mul_pos_right (by omega) hs.le).le⟩
    have hlen := chunkText_length_eq hov hlt hW hr (m + 1)
      (fun j hj => by
        have hjm := mul_le_mul_of_nonneg_right (show (j : Int) ≤ m by omega) hs.le
        exact ⟨by linarith only [hjm, hm'], by linarith only [hjm, hm', hov0]⟩)
      (fun h => by have := h.1; push_cast at this; linarith only [this, hm', hs])
    have h := hinc m (by omega)
    rw [(hat m (by omega)).2, (hat (m + 1) (by omega)).2] at h
    rw [min_eq_right (by linarith only [hm']),
      min_eq_right (by push_cast; linarith only [hm', hs])] at h
    exact lt_irrefl _ h
  · intro hnot k hk
    obtain ⟨hc, hn⟩ := hmid k hk
    rw [(hat k (by omega)).2, (hat (k + 1) hk).2, min_eq_left hc, lt_min_iff]
    refine ⟨by push_cast; linarith only [hs],
      lt_of_le_of_ne hc fun he => hnot ⟨?_, k, by linarith only [he]⟩⟩
    by_contra h0
    obtain rfl : overlap = 0 := le_antisymm (not_lt.mp h0) hov
    linarith only [he, hn]

/-- The scenario of a 500-word document with `chunk_size=200, overlap=50`: the loop emits a
fourth window `[450, 500)` inside the third. -/
theorem chunkText_five_hundred_words :
    (∃ fuel r, chunkText fuel (Py.joinSpace (List.replicate 500 "w")) 200 50 = some r) ∧
    ∀ fuel r, chunkText fuel (Py.joinSpace (List.replicate 500 "w")) 200 50 = some r →
      r.map Window.offsets = [(0, 200), (150, 350), (300, 500), (450, 500)] := by
  have hsplit : Py.split (Py.joinSpace (List.replicate 500 "w")) = List.replicate 500 "w" :=
    Py.split_joinSpace _ fun w hw => by rw [List.eq_of_mem_replicate hw]; decide
  have hW : (200 : Int) < (Py.split (Py.joinSpace (List.replicate 500 "w"))).length := by
    rw [hsplit, List.length_replicate]; decide
  refine ⟨⟨_, chunkText_isSome (by decide) (by decide) hW⟩, fun fuel r hr => ?_⟩
  have hlen := chunkText_length_eq (by decide) (by decide) hW hr 3
    (fun j hj => by rw [hsplit, List.length_replicate]; unfold Continues; omega)
    (by rw [hsplit, List.length_replicate]; decide)
  rw [(chunkText_spec (by decide) (by decide) hW hr).2.1, hlen, hsplit, List.length_replicate]
  decide

end HfBenchmark
