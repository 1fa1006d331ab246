import HfBenchmark.Python.Value
import Mathlib.Data.Nat.Digits

namespace HfBenchmark.Py

/-- The characters `str.split()` and `str.strip()` treat as whitespace (`Py_UNICODE_ISSPACE`). -/
def isSpace (c : Char) : Bool :=
  let n := c.toNat
  (0x09 ≤ n && n ≤ 0x0d) || (0x1c ≤ n && n ≤ 0x20) || n == 0x85 || n == 0xa0 || n == 0x1680 ||
    (0x2000 ≤ n && n ≤ 0x200a) || n == 0x2028 || n == 0x2029 || n == 0x202f || n == 0x205f ||
    n == 0x3000

/-- `s.split()`: the maximal runs of non-whitespace characters, in order. -/
def split (s : String) : List String :=
  ((s.data.splitOnP isSpace).filter (· ≠ [])).map String.mk

/-- `s.strip()`. -/
def strip (s : String) : String :=
  ⟨((s.data.dropWhile isSpace).reverse.dropWhile isSpace).reverse⟩

/-- `" ".join(ws)`. -/
def joinSpace (ws : List String) : String :=
  ⟨[' '].intercalate (ws.map String.data)⟩

/-- `xs[a:b]` for integer bounds: a negative bound counts from the end, and both are clamped
to `[0, len(xs)]`. -/
def slice {α : Type} (xs : List α) (a b : Int) : List α :=
  let n : Int := xs.length
  let norm (i : Int) : Nat := (if i < 0 then max (i + n) 0 else min i n).toNat
  (xs.drop (norm a)).take (norm b - norm a)

theorem slice_of_le {α : Type} (xs : List α) (a b : Nat) (hb : b ≤ xs.length) :
    slice xs a b = (xs.drop a).take (b - a) := by
  have hnb : (min (b : Int) xs.length).toNat = b := by omega
  have h0 (i : Nat) : ¬ (i : Int) < 0 := by omega
  by_cases ha : a ≤ xs.length
  · have hna : (min (a : Int) xs.length).toNat = a := by omega
    simp [slice, hna, hnb, h0]
  · have hna : (min (a : Int) xs.length).toNat = xs.length := by omega
    simp [slice, hna, hnb, h0, List.drop_eq_nil_of_le (Nat.le_of_not_le ha)]

theorem split_joinSpace : ∀ ws : List String,
    (∀ w ∈ ws, w.data ≠ [] ∧ ∀ c ∈ w.data, isSpace c = false) → split (joinSpace ws) = ws
  | [], _ => rfl
  | [w], h => by
    have hw := h w (by simp)
    simp [split, joinSpace, List.intercalate, List.splitOnP_eq_single _ _ (by simpa using hw.2),
      hw.1]
  | w :: v :: ws, h => by
    have hw := h w (by simp)
    have ih := split_joinSpace (v :: ws) fun u hu => h u (List.mem_cons_of_mem _ hu)
    simp only [split, joinSpace, List.map_cons, List.intercalate, List.intersperse_cons_cons,
      List.flatten_cons, List.singleton_append, List.append_assoc] at ih ⊢
    rw [List.splitOnP_first _ _ (by simpa using hw.2) ' ' (by decide)]
    simpa [hw.1] using ih

theorem splitOnP_sep_free {α : Type} (p : α → Bool) :
    ∀ (xs : List α), ∀ l ∈ xs.splitOnP p, ∀ x ∈ l, p x = false
  | [] => by simp
  | x :: xs => by
    have ih := splitOnP_sep_free p xs
    rw [List.splitOnP_cons]
    split
    · simpa using ih
    · next hx =>
      obtain ⟨l₀, ls, hls⟩ := List.exists_cons_of_ne_nil (List.splitOnP_ne_nil p xs)
      rw [hls] at ih ⊢
      simp only [List.modifyHead_cons, List.mem_cons, forall_eq_or_imp] at ih ⊢
      exact ⟨⟨by simpa using hx, ih.1⟩, ih.2⟩

theorem split_words (s : String) :
    ∀ w ∈ split s, w.data ≠ [] ∧ ∀ c ∈ w.data, isSpace c = false := by
  simp only [split, List.mem_map, List.mem_filter]
  rintro _ ⟨l, ⟨hl, hne⟩, rfl⟩
  exact ⟨by simpa using hne, splitOnP_sep_free isSpace _ l hl⟩

theorem split_joinSpace_of_mem {s : String} {ws : List String} (h : ∀ w ∈ ws, w ∈ split s) :
    split (joinSpace ws) = ws :=
  split_joinSpace ws fun w hw => split_words s w (h w hw)

theorem slice_sublist {α : Type} (xs : List α) (a b : Int) : (slice xs a b).Sublist xs :=
  (List.take_sublist _ _).trans (List.drop_sublist _ _)

theorem slice_length {α : Type} (xs : List α) {a b : Int} (ha : 0 ≤ a) (hab : a ≤ b)
    (hb : b ≤ xs.length) : ((slice xs a b).length : Int) = b - a := by
  simp only [slice, List.length_take, List.length_drop, if_neg (not_lt.mpr ha),
    if_neg (not_lt.mpr (ha.trans hab))]
  omega

theorem intercalate_sep_injective (c : Char) {ls ls' : List (List Char)} (hne : ls ≠ [])
    (hne' : ls' ≠ []) (h : ∀ l ∈ ls, c ∉ l) (h' : ∀ l ∈ ls', c ∉ l)
    (heq : [c].intercalate ls = [c].intercalate ls') : ls = ls' := by
  rw [← List.splitOn_intercalate ls c h hne, heq, List.splitOn_intercalate ls' c h' hne']

private theorem toDigitsCore_append : ∀ (fuel n : Nat) (ds : List Char),
    Nat.toDigitsCore 10 fuel n ds = Nat.toDigitsCore 10 fuel n [] ++ ds
  | 0, _, _ => rfl
  | fuel + 1, n, ds => by
    simp only [Nat.toDigitsCore]
    split
    · rfl
    · rw [toDigitsCore_append fuel _ (_ :: ds), toDigitsCore_append fuel _ [_]]
      simp

private theorem toDigitsCore_fuel : ∀ (f f' n : Nat) (ds : List Char), n < f → n < f' →
    Nat.toDigitsCore 10 f n ds = Nat.toDigitsCore 10 f' n ds
  | 0, _, _, _, h, _ | _, 0, _, _, _, h => absurd h (Nat.not_lt_zero _)
  | f + 1, f' + 1, n, ds, h, h' => by
    simp only [Nat.toDigitsCore]
    split
    · rfl
    · exact toDigitsCore_fuel f f' _ _ (by omega) (by omega)

theorem toDigits_of_lt {n : Nat} (h : n < 10) : Nat.toDigits 10 n = [Nat.digitChar n] := by
  simp [Nat.toDigits, Nat.toDigitsCore, Nat.div_eq_of_lt h, Nat.mod_eq_of_lt h]

theorem toDigits_of_le {n : Nat} (h : 10 ≤ n) :
    Nat.toDigits 10 n = Nat.toDigits 10 (n / 10) ++ [Nat.digitChar (n % 10)] := by
  have hne : n / 10 ≠ 0 := by omega
  conv_lhs => rw [Nat.toDigits, Nat.toDigitsCore]
  rw [if_neg hne, toDigitsCore_append, Nat.toDigits,
    toDigitsCore_fuel n (n / 10 + 1) _ _ (by omega) (by omega)]

theorem toString_isDigit (n : Nat) : ∀ c ∈ (toString n).data, c.isDigit := by
  induction n using Nat.strongRecOn with
  | _ n ih =>
    have hd : ∀ d < 10, (Nat.digitChar d).isDigit := by decide
    show ∀ c ∈ Nat.toDigits 10 n, c.isDigit
    intro c hc
    by_cases h : n < 10
    · rw [toDigits_of_lt h, List.mem_singleton] at hc
      exact hc ▸ hd n h
    · rw [toDigits_of_le (by omega), List.mem_append, List.mem_singleton] at hc
      rcases hc with hc | rfl
      · exact ih (n / 10) (by omega) c hc
      · exact hd _ (Nat.mod_lt _ (by decide))

theorem toString_injective {m n : Nat} (h : toString m = toString n) : m = n := by
  induction m using Nat.strongRecOn generalizing n with
  | _ m ih =>
    have hd : ∀ a < 10, ∀ b < 10, Nat.digitChar a = Nat.digitChar b → a = b := by decide
    have h' : Nat.toDigits 10 m = Nat.toDigits 10 n := congrArg String.data h
    have hlen (k : Nat) (hk : 10 ≤ k) : 2 ≤ (Nat.toDigits 10 k).length := by
      rw [toDigits_of_le hk, List.length_append, List.length_singleton]
      have := List.length_pos.mpr (show Nat.toDigits 10 (k / 10) ≠ [] by
        rw [Nat.toDigits, Nat.toDigitsCore]; split <;> simp [toDigitsCore_append _ _ (_ :: _)])
      omega
    by_cases hm : m < 10 <;> by_cases hn : n < 10
    · rw [toDigits_of_lt hm, toDigits_of_lt hn, List.singleton_inj] at h'
      exact hd m hm n hn h'
    · have := hlen n (by omega); rw [← h', toDigits_of_lt hm] at this; simp at this
    · have := hlen m (by omega); rw [h', toDigits_of_lt hn] at this; simp at this
    · rw [toDigits_of_le (n := m) (by omega), toDigits_of_le (n := n) (by omega)] at h'
      obtain ⟨hq, hr⟩ := List.append_inj' h' rfl
      have hq' := ih (m / 10) (by omega) (n := n / 10) (congrArg String.mk hq)
      have hr' := hd _ (Nat.mod_lt _ (by decide)) _ (Nat.mod_lt _ (by decide))
        (List.singleton_inj.mp hr)
      omega

/-- `s.startswith(p)`. -/
def startsWith (s p : String) : Bool :=
  p.data.isPrefixOf s.data

/-- The scan behind `str.replace`: at each position either a match of `old`, written as `new`,
whose other `skip` characters are then passed over, or one character kept. -/
def replaceGo (old new : List Char) : Nat → List Char → List Char
  | _, [] => []
  | skip + 1, _ :: cs => replaceGo old new skip cs
  | 0, c :: cs =>
    if old.isPrefixOf (c :: cs) then new ++ replaceGo old new (old.length - 1) cs
    else c :: replaceGo old new 0 cs

/-- `s.replace(old, new)` for a non-empty `old`: every occurrence, left to right. -/
def replace (s old new : String) : String :=
  ⟨replaceGo old.data new.data 0 s.data⟩

/-- `s.split(sep)` for a one-character `sep`: the pieces between separators, empty ones kept. -/
def splitOn (s : String) (sep : Char) : List String :=
  (s.data.splitOn sep).map String.mk

/-- `sep.join(ws)` for a one-character `sep`. -/
def join (sep : Char) (ws : List String) : String :=
  ⟨[sep].intercalate (ws.map String.data)⟩

theorem startsWith_iff {s p : String} : startsWith s p = true ↔ ∃ t, s.data = p.data ++ t := by
  simp only [startsWith, List.isPrefixOf_iff_prefix]
  exact ⟨fun ⟨t, h⟩ => ⟨t, h.symm⟩, fun ⟨t, h⟩ => ⟨t, h.symm⟩⟩

theorem replaceGo_skip (old new : List Char) :
    ∀ (l s : List Char), replaceGo old new l.length (l ++ s) = replaceGo old new 0 s
  | [], _ => rfl
  | _ :: l, s => replaceGo_skip old new l s

theorem replaceGo_append {old : List Char} (new : List Char) (hne : old ≠ [])
    (s : List Char) : replaceGo old new 0 (old ++ s) = new ++ replaceGo old new 0 s := by
  obtain ⟨c, o, rfl⟩ := List.exists_cons_of_ne_nil hne
  have hp : (c :: o).isPrefixOf (c :: (o ++ s)) = true :=
    List.isPrefixOf_iff_prefix.mpr (List.prefix_append (c :: o) s)
  show replaceGo (c :: o) new 0 (c :: (o ++ s)) = _
  rw [replaceGo, if_pos hp, List.length_cons, Nat.add_sub_cancel, replaceGo_skip]

theorem replaceGo_of_not_infix {old : List Char} (new : List Char) :
    ∀ {s : List Char}, ¬ old <:+: s → replaceGo old new 0 s = s
  | [], _ => rfl
  | c :: cs, h => by
    have hp : old.isPrefixOf (c :: cs) = false :=
      Bool.eq_false_iff.mpr fun hp => h (List.isPrefixOf_iff_prefix.mp hp).isInfix
    simp only [replaceGo, hp, Bool.false_eq_true, if_false,
      replaceGo_of_not_infix new fun hi => h (List.infix_cons hi)]

example : split "  a\tb\n\ncd " = ["a", "b", "cd"] := by decide
example : strip "  a b\n" = "a b" := by decide

end HfBenchmark.Py
