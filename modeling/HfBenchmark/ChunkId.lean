import HfBenchmark.Python.Text
import HfBenchmark.Python.Sha256
import Mathlib.Data.String.Basic

namespace HfBenchmark

/-- `content.encode()`: the UTF-8 bytes of a text. -/
def utf8Encode (s : String) : List UInt8 :=
  s.data.flatMap String.utf8EncodeChar

/-- `b.hex()`. -/
def hexOf (bs : List UInt8) : String :=
  String.join (bs.map fun b => hex2 b.toNat)

/-- The text `generate_chunk_id` hashes: `f"{source}:{doc_id}:{chunk_idx}"`. -/
def chunkIdContent (docId : String) (chunkIdx : Nat) (source : String) : String :=
  source ++ ":" ++ docId ++ ":" ++ toString chunkIdx

/-- The id `generate_chunk_id` prints for a hashed text: the first 16 bytes of its SHA-256
digest, in 8-4-4-4-12 hexadecimal groups. -/
def uuidOfContent (content : String) : String :=
  let hashBytes := (sha256 (utf8Encode content)).take 16
  hexOf (hashBytes.take 4) ++ "-" ++ hexOf ((hashBytes.drop 4).take 2) ++ "-" ++
    hexOf ((hashBytes.drop 6).take 2) ++ "-" ++ hexOf ((hashBytes.drop 8).take 2) ++ "-" ++
    hexOf (hashBytes.drop 10)

/-- `generate_chunk_id(doc_id, chunk_idx, source)`. -/
def generateChunkId (docId : String) (chunkIdx : Nat) (source : String) : String :=
  uuidOfContent (chunkIdContent docId chunkIdx source)

/-- A lowercase hexadecimal digit, as `bytes.hex()` writes them. -/
def isHexDigit (c : Char) : Bool :=
  ('0' ≤ c && c ≤ '9') || ('a' ≤ c && c ≤ 'f')

/-- The text of a UUID: groups of 8, 4, 4, 4 and 12 lowercase hexadecimal digits joined by `-`. -/
def UuidShape (s : String) : Prop :=
  ∃ g : List (List Char), g.map List.length = [8, 4, 4, 4, 12] ∧
    (∀ x ∈ g, ∀ c ∈ x, isHexDigit c = true) ∧ s.data = ['-'].intercalate g

theorem hexOf_spec (bs : List UInt8) :
    (hexOf bs).data.length = 2 * bs.length ∧ ∀ c ∈ (hexOf bs).data, isHexDigit c = true := by
  have hdigit : ∀ n : Fin 16, isHexDigit (Nat.digitChar n) = true := by decide
  induction bs with
  | nil => simp [hexOf]
  | cons b bs ih =>
    have hcons : (hexOf (b :: bs)).data =
        Nat.digitChar (b.toNat / 16 % 16) :: Nat.digitChar (b.toNat % 16) :: (hexOf bs).data := by
      simp [hexOf, hex2]
    rw [hcons]
    refine ⟨by simp only [List.length_cons, ih.1]; omega, ?_⟩
    simp only [List.mem_cons]
    rintro c (rfl | rfl | hc)
    · exact hdigit ⟨_, Nat.mod_lt _ (by decide)⟩
    · exact hdigit ⟨_, Nat.mod_lt _ (by decide)⟩
    · exact ih.2 c hc

theorem uuidOfContent_shape (content : String) : UuidShape (uuidOfContent content) := by
  have hlen : ((sha256 (utf8Encode content)).take 16).length = 16 := by simp [sha256_length]
  dsimp only [uuidOfContent]
  generalize (sha256 (utf8Encode content)).take 16 = bs at hlen ⊢
  refine ⟨[(hexOf (bs.take 4)).data, (hexOf ((bs.drop 4).take 2)).data,
    (hexOf ((bs.drop 6).take 2)).data, (hexOf ((bs.drop 8).take 2)).data,
    (hexOf (bs.drop 10)).data], ?_, ?_, ?_⟩
  · simp only [List.map_cons, List.map_nil, (hexOf_spec _).1, List.length_take, List.length_drop,
      hlen]
    rfl
  · simp only [List.mem_cons, List.mem_singleton, List.not_mem_nil, or_false]
    rintro x (rfl | rfl | rfl | rfl | rfl) <;> exact (hexOf_spec _).2
  · simp [List.intercalate]

theorem chunkIdContent_data (docId : String) (chunkIdx : Nat) (source : String) :
    (chunkIdContent docId chunkIdx source).data =
      [':'].intercalate [source.data, docId.data, (toString chunkIdx).data] := by
  simp [chunkIdContent, List.intercalate]

theorem colon_not_mem_toString (n : Nat) : ':' ∉ (toString n).data :=
  fun h => absurd (Py.toString_isDigit n _ h) (by decide)

theorem chunkIdContent_injective {d d' s s' : String} {i i' : Nat}
    (hs : ':' ∉ s.data) (hs' : ':' ∉ s'.data) (hd : ':' ∉ d.data) (hd' : ':' ∉ d'.data)
    (h : chunkIdContent d i s = chunkIdContent d' i' s') : s = s' ∧ d = d' ∧ i = i' := by
  have key : [s.data, d.data, (toString i).data] = [s'.data, d'.data, (toString i').data] :=
    Py.intercalate_sep_injective ':' (by simp) (by simp)
      (by simp [hs, hd, colon_not_mem_toString]) (by simp [hs', hd', colon_not_mem_toString])
      (by rw [← chunkIdContent_data, ← chunkIdContent_data, h])
  simp only [List.cons.injEq, and_true] at key
  exact ⟨String.ext key.1, String.ext key.2.1, Py.toString_injective (String.ext key.2.2)⟩

end HfBenchmark
