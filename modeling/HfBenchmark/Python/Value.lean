import Mathlib.Data.List.Basic

namespace HfBenchmark

/-- A value of a streamed dataset row as the script sees it: `None`, `bool`, `int`, `str`,
or a `list` of such values. -/
inductive PyValue where
  | none
  | bool (b : Bool)
  | int (n : Int)
  | str (s : String)
  | list (xs : List PyValue)
  deriving Inhabited

/-- A Python `dict` with `str` keys, in insertion order: a dataset row, or a chunk record. -/
abbrev Dict := List (String × PyValue)

namespace PyValue

mutual
def decEq : (a b : PyValue) → Decidable (a = b)
  | none, none => isTrue rfl
  | bool a, bool b => decidable_of_iff (a = b) (by simp)
  | int a, int b => decidable_of_iff (a = b) (by simp)
  | str a, str b => decidable_of_iff (a = b) (by simp)
  | list a, list b => @decidable_of_iff _ _ (by simp) (decEqList a b)
  | none, bool _ | none, int _ | none, str _ | none, list _ => isFalse nofun
  | bool _, none | bool _, int _ | bool _, str _ | bool _, list _ => isFalse nofun
  | int _, none | int _, bool _ | int _, str _ | int _, list _ => isFalse nofun
  | str _, none | str _, bool _ | str _, int _ | str _, list _ => isFalse nofun
  | list _, none | list _, bool _ | list _, int _ | list _, str _ => isFalse nofun
def decEqList : (a b : List PyValue) → Decidable (a = b)
  | [], [] => isTrue rfl
  | [], _ :: _ | _ :: _, [] => isFalse nofun
  | x :: xs, y :: ys =>
    match decEq x y, decEqList xs ys with
    | isTrue h, isTrue h' => isTrue (h ▸ h' ▸ rfl)
    | isFalse h, _ => isFalse fun e => h (List.cons.inj e).1
    | _, isFalse h => isFalse fun e => h (List.cons.inj e).2
end

instance : DecidableEq PyValue := decEq

/-- Python truthiness: `None`, `False`, `0`, `""` and `[]` are false. -/
def truthy : PyValue → Bool
  | none => false
  | bool b => b
  | int n => n != 0
  | str s => !s.isEmpty
  | list xs => !xs.isEmpty

/-- `isinstance(v, int)`; a `bool` is an `int` in Python. -/
def isInt : PyValue → Bool
  | bool _ | int _ => true
  | _ => false

end PyValue

/-- Two lowercase hexadecimal digits of a byte, as `"%02x"` and `bytes.hex` print it. -/
def hex2 (n : Nat) : String :=
  ⟨[Nat.digitChar (n / 16 % 16), Nat.digitChar (n % 16)]⟩

/-- Python's `repr` of one character of a `str` quoted by `q`. -/
def reprChar (q c : Char) : String :=
  if c = q ∨ c = '\\' then ⟨['\\', c]⟩
  else if c = '\t' then "\\t"
  else if c = '\n' then "\\n"
  else if c = '\r' then "\\r"
  else if c.toNat < 0x20 ∨ (0x7f ≤ c.toNat ∧ c.toNat ≤ 0xa0) ∨ c.toNat = 0xad then
    "\\x" ++ hex2 c.toNat
  else c.toString

/-- `repr(s)` for a `str`: single quotes, unless the text holds a single quote and no double
quote. -/
def reprStr (s : String) : String :=
  let q := if '\'' ∈ s.data ∧ '"' ∉ s.data then '"' else '\''
  q.toString ++ String.join (s.data.map (reprChar q)) ++ q.toString

namespace PyValue

mutual
/-- `repr(v)`. -/
def repr : PyValue → String
  | none => "None"
  | bool b => if b then "True" else "False"
  | int n => toString n
  | str s => reprStr s
  | list xs => "[" ++ reprList xs ++ "]"
def reprList : List PyValue → String
  | [] => ""
  | [x] => x.repr
  | x :: xs => x.repr ++ ", " ++ reprList xs
end

/-- `isinstance(v, str)`. -/
def isStr : PyValue → Bool
  | str _ => true
  | _ => false

/-- `str(v)`: the text itself for a `str`, `repr(v)` otherwise. -/
def toStr : PyValue → String
  | str s => s
  | v => v.repr

/-- `dict` key equality: `True == 1` and `False == 0` are one key; a `list` is unhashable and
never reaches the comparison. -/
def keyEq : PyValue → PyValue → Bool
  | none, none => true
  | str a, str b => a == b
  | bool a, bool b => a == b
  | int a, int b => a == b
  | bool a, int b | int b, bool a => (if a then 1 else 0) == b
  | _, _ => false

/-- `hash(v)` succeeds: everything but a `list`. -/
def hashable : PyValue → Bool
  | list _ => false
  | _ => true

/-- The value a key is compared as: a `bool` as the `int` it equals. -/
def keyNorm : PyValue → PyValue
  | bool b => int (if b then 1 else 0)
  | v => v

@[simp] theorem hashable_keyNorm (v : PyValue) : v.keyNorm.hashable = v.hashable := by
  cases v <;> rfl

theorem keyEq_iff (a b : PyValue) :
    a.keyEq b = true ↔ a.hashable = true ∧ a.keyNorm = b.keyNorm := by
  cases a <;> cases b <;> simp [keyEq, keyNorm, hashable]
  · rename_i x y
    cases x <;> cases y <;> decide
  · exact eq_comm

theorem keyEq_comm (a b : PyValue) : a.keyEq b = b.keyEq a := by
  rw [Bool.eq_iff_iff, keyEq_iff, keyEq_iff]
  constructor <;> rintro ⟨h, he⟩ <;>
    exact ⟨by rw [← hashable_keyNorm, ← he, hashable_keyNorm, h], he.symm⟩

theorem keyEq_congr {a b : PyValue} (h : a.keyEq b = true) (c : PyValue) :
    a.keyEq c = b.keyEq c := by
  obtain ⟨ha, he⟩ := (keyEq_iff a b).mp h
  have hb : b.hashable = true := by rw [← hashable_keyNorm, ← he, hashable_keyNorm, ha]
  rw [Bool.eq_iff_iff, keyEq_iff, keyEq_iff, he, ha, hb]

theorem keyEq_self {a : PyValue} (h : a.hashable = true) : a.keyEq a = true :=
  (keyEq_iff a a).mpr ⟨h, rfl⟩

/-- The text `json.dumps` writes for a `dict` key: `str` keys as they are, `int` keys in
decimal, `True`, `False` and `None` as `"true"`, `"false"` and `"null"`. -/
def jsonKey : PyValue → String
  | str s => s
  | int n => toString n
  | bool b => if b then "true" else "false"
  | none => "null"
  | list xs => repr (list xs)

end PyValue

example : (PyValue.list [.int 3, .str "it's", .none]).repr = "[3, \"it's\", None]" := by decide

end HfBenchmark
