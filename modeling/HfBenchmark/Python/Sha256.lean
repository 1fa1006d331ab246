import Mathlib.Data.List.Basic

namespace HfBenchmark.Sha256

def roundConstants : List UInt32 :=
  [0x428a2f98, 0x71374491, 0xb5c0fbcf, 0xe9b5dba5, 0x3956c25b, 0x59f111f1, 0x923f82a4, 0xab1c5ed5,
   0xd807aa98, 0x12835b01, 0x243185be, 0x550c7dc3, 0x72be5d74, 0x80deb1fe, 0x9bdc06a7, 0xc19bf174,
   0xe49b69c1, 0xefbe4786, 0x0fc19dc6, 0x240ca1cc, 0x2de92c6f, 0x4a7484aa, 0x5cb0a9dc, 0x76f988da,
   0x983e5152, 0xa831c66d, 0xb00327c8, 0xbf597fc7, 0xc6e00bf3, 0xd5a79147, 0x06ca6351, 0x14292967,
   0x27b70a85, 0x2e1b2138, 0x4d2c6dfc, 0x53380d13, 0x650a7354, 0x766a0abb, 0x81c2c92e, 0x92722c85,
   0xa2bfe8a1, 0xa81a664b, 0xc24b8b70, 0xc76c51a3, 0xd192e819, 0xd6990624, 0xf40e3585, 0x106aa070,
   0x19a4c116, 0x1e376c08, 0x2748774c, 0x34b0bcb5, 0x391c0cb3, 0x4ed8aa4a, 0x5b9cca4f, 0x682e6ff3,
   0x748f82ee, 0x78a5636f, 0x84c87814, 0x8cc70208, 0x90befffa, 0xa4506ceb, 0xbef9a3f7, 0xc67178f2]

def initialHash : List UInt32 :=
  [0x6a09e667, 0xbb67ae85, 0x3c6ef372, 0xa54ff53a, 0x510e527f, 0x9b05688c, 0x1f83d9ab, 0x5be0cd19]

def rotr (x n : UInt32) : UInt32 := (x >>> n) ||| (x <<< (32 - n))

def bigSigma0 (x : UInt32) : UInt32 := rotr x 2 ^^^ rotr x 13 ^^^ rotr x 22
def bigSigma1 (x : UInt32) : UInt32 := rotr x 6 ^^^ rotr x 11 ^^^ rotr x 25
def smallSigma0 (x : UInt32) : UInt32 := rotr x 7 ^^^ rotr x 18 ^^^ (x >>> 3)
def smallSigma1 (x : UInt32) : UInt32 := rotr x 17 ^^^ rotr x 19 ^^^ (x >>> 10)

def wordsOf : List UInt8 → List UInt32
  | a :: b :: c :: d :: rest =>
    ((a.toUInt32 <<< 24) ||| (b.toUInt32 <<< 16) ||| (c.toUInt32 <<< 8) ||| d.toUInt32) ::
      wordsOf rest
  | _ => []

def bytesOf (x : UInt32) : List UInt8 :=
  [(x >>> 24).toUInt8, (x >>> 16).toUInt8, (x >>> 8).toUInt8, x.toUInt8]

/-- The message schedule, newest word first: each new word is
`σ1(W[t-2]) + W[t-7] + σ0(W[t-15]) + W[t-16]`. -/
def schedule : Nat → List UInt32 → List UInt32
  | 0, w => w
  | n + 1, w =>
    schedule n ((smallSigma1 (w.getD 1 0) + w.getD 6 0 + smallSigma0 (w.getD 14 0) + w.getD 15 0) :: w)

/-- One round on the working variables `a, ..., h`, with its constant and schedule word. -/
def round (s : List UInt32) (kw : UInt32 × UInt32) : List UInt32 :=
  match s with
  | [a, b, c, d, e, f, g, h] =>
    let t1 := h + bigSigma1 e + ((e &&& f) ^^^ (~~~e &&& g)) + kw.1 + kw.2
    let t2 := bigSigma0 a + ((a &&& b) ^^^ (a &&& c) ^^^ (b &&& c))
    [t1 + t2, a, b, c, d + t1, e, f, g]
  | s => s

def compress (h : List UInt32) (block : List UInt8) : List UInt32 :=
  let w := (schedule 48 (wordsOf block).reverse).reverse
  List.zipWith (· + ·) h ((roundConstants.zip w).foldl round h)

def blocks : Nat → List UInt8 → List (List UInt8)
  | 0, _ => []
  | n + 1, bs => if bs.isEmpty then [] else bs.take 64 :: blocks n (bs.drop 64)

/-- The padding: a `1` bit, zeros, and the bit length as a 64-bit big-endian number. -/
def pad (m : List UInt8) : List UInt8 :=
  m ++ [(0x80 : UInt8)] ++ List.replicate ((55 - m.length % 64) % 64) (0 : UInt8) ++
    (List.range 8).reverse.map fun i => ((m.length * 8) >>> (8 * i) : Nat).toUInt8

theorem foldl_length {β : Type} (f : List UInt32 → β → List UInt32)
    (hf : ∀ s x, (f s x).length = s.length) : ∀ (xs : List β) (s : List UInt32),
    (xs.foldl f s).length = s.length
  | [], _ => rfl
  | x :: xs, s => (foldl_length f hf xs (f s x)).trans (hf s x)

theorem round_length (s : List UInt32) (kw : UInt32 × UInt32) :
    (round s kw).length = s.length := by
  unfold round
  split <;> rfl

theorem compress_length (h : List UInt32) (block : List UInt8) :
    (compress h block).length = h.length := by
  simp only [compress, List.length_zipWith, foldl_length round round_length, min_self]

theorem length_flatMap_bytesOf : ∀ l : List UInt32, (l.flatMap bytesOf).length = 4 * l.length
  | [] => rfl
  | x :: l => by
    rw [List.flatMap_cons, List.length_append, length_flatMap_bytesOf l]
    simp only [bytesOf, List.length_cons, List.length_nil]
    omega

end Sha256

/-- `hashlib.sha256(m).digest()`: SHA-256 as FIPS 180-4 specifies it. -/
def sha256 (m : List UInt8) : List UInt8 :=
  ((Sha256.blocks (Sha256.pad m).length (Sha256.pad m)).foldl Sha256.compress
    Sha256.initialHash).flatMap Sha256.bytesOf

theorem sha256_length (m : List UInt8) : (sha256 m).length = 32 := by
  rw [sha256, Sha256.length_flatMap_bytesOf, Sha256.foldl_length _ Sha256.compress_length]
  rfl

set_option maxRecDepth 20000 in
example : sha256 [0x61, 0x62, 0x63] =
    [0xba, 0x78, 0x16, 0xbf, 0x8f, 0x01, 0xcf, 0xea, 0x41, 0x41, 0x40, 0xde, 0x5d, 0xae, 0x22, 0x23,
     0xb0, 0x03, 0x61, 0xa3, 0x96, 0x17, 0x7a, 0x9c, 0xb4, 0x10, 0xff, 0x61, 0xf2, 0x00, 0x15, 0xad] := by
  decide

end HfBenchmark
