import UnidppArchive.Foundations.Utf8

/-
  SHA-256 over octet lists.

  Key definitions include:
    * `Reference.sha256`
-/

------------------------------------------------------------
-- Words
------------------------------------------------------------

namespace UnidppArchive

namespace Reference

/- Rotation to the right. -/
def rotr
    (x : UInt32)
    (n : UInt32) : UInt32 :=
  x >>> n ||| x <<< (32 - n)

/- The constants of the 64 rounds. -/
def roundConstants : List UInt32 :=
  [
    0x428a2f98, 0x71374491, 0xb5c0fbcf, 0xe9b5dba5, 0x3956c25b,
    0x59f111f1, 0x923f82a4, 0xab1c5ed5, 0xd807aa98, 0x12835b01,
    0x243185be, 0x550c7dc3, 0x72be5d74, 0x80deb1fe, 0x9bdc06a7,
    0xc19bf174, 0xe49b69c1, 0xefbe4786, 0x0fc19dc6, 0x240ca1cc,
    0x2de92c6f, 0x4a7484aa, 0x5cb0a9dc, 0x76f988da, 0x983e5152,
    0xa831c66d, 0xb00327c8, 0xbf597fc7, 0xc6e00bf3, 0xd5a79147,
    0x06ca6351, 0x14292967, 0x27b70a85, 0x2e1b2138, 0x4d2c6dfc,
    0x53380d13, 0x650a7354, 0x766a0abb, 0x81c2c92e, 0x92722c85,
    0xa2bfe8a1, 0xa81a664b, 0xc24b8b70, 0xc76c51a3, 0xd192e819,
    0xd6990624, 0xf40e3585, 0x106aa070, 0x19a4c116, 0x1e376c08,
    0x2748774c, 0x34b0bcb5, 0x391c0cb3, 0x4ed8aa4a, 0x5b9cca4f,
    0x682e6ff3, 0x748f82ee, 0x78a5636f, 0x84c87814, 0x8cc70208,
    0x90befffa, 0xa4506ceb, 0xbef9a3f7, 0xc67178f2]

/- The big-endian octets of a number. -/
def bigEndian :
    Nat → Nat → Bytes
| 0, _ => []
| k + 1, n => bigEndian k (n / 256) ++ [UInt8.ofNat n]

/- The big-endian words of octets. -/
def toWords :
    Bytes → List UInt32
| a :: b :: c :: d :: rest =>
    (UInt32.ofNat a.toNat <<< 24 ||| UInt32.ofNat b.toNat <<< 16 |||
      UInt32.ofNat c.toNat <<< 8 ||| UInt32.ofNat d.toNat) ::
        toWords rest
| _ => []

theorem length_bigEndian
    (k n : Nat) :
    (bigEndian k n).length = k := by
  induction k generalizing n with
  | zero => rfl
  | succ k ih => simp [bigEndian, ih]

end Reference

end UnidppArchive

------------------------------------------------------------
-- Compression
------------------------------------------------------------

namespace UnidppArchive

namespace Reference

/- The eight working variables. -/
structure HashState where
  a : UInt32
  b : UInt32
  c : UInt32
  d : UInt32
  e : UInt32
  f : UInt32
  g : UInt32
  h : UInt32

def initialState : HashState :=
  ⟨0x6a09e667, 0xbb67ae85, 0x3c6ef372, 0xa54ff53a,
    0x510e527f, 0x9b05688c, 0x1f83d9ab, 0x5be0cd19⟩

/- Extend the message schedule, latest word first. -/
def extendSchedule :
    Nat → List UInt32 → List UInt32
| 0, ws => ws
| k + 1, ws =>
    let x := ws.getD 1 0
    let y := ws.getD 14 0
    let s₁ := rotr x 17 ^^^ rotr x 19 ^^^ x >>> 10
    let s₀ := rotr y 7 ^^^ rotr y 18 ^^^ y >>> 3
    extendSchedule k
      ((s₁ + ws.getD 6 0 + s₀ + ws.getD 15 0) :: ws)

/- One round with its constant and schedule word. -/
def hashRound
    (s : HashState)
    (kw : UInt32 × UInt32) : HashState :=
  let big₁ := rotr s.e 6 ^^^ rotr s.e 11 ^^^ rotr s.e 25
  let choice := (s.e &&& s.f) ^^^ (~~~s.e &&& s.g)
  let t₁ := s.h + big₁ + choice + kw.1 + kw.2
  let big₀ := rotr s.a 2 ^^^ rotr s.a 13 ^^^ rotr s.a 22
  let majority :=
    (s.a &&& s.b) ^^^ (s.a &&& s.c) ^^^ (s.b &&& s.c)
  ⟨t₁ + (big₀ + majority), s.a, s.b, s.c, s.d + t₁, s.e,
    s.f, s.g⟩

/- Absorb a block of sixteen words. -/
def compress
    (s : HashState)
    (block : List UInt32) : HashState :=
  let schedule := (extendSchedule 48 block.reverse).reverse
  let t := (roundConstants.zip schedule).foldl hashRound s
  ⟨s.a + t.a, s.b + t.b, s.c + t.c, s.d + t.d, s.e + t.e,
    s.f + t.f, s.g + t.g, s.h + t.h⟩

/- Absorb whole blocks, at most `fuel` of them. -/
def compressAll :
    Nat → HashState → List UInt32 → HashState
| 0, s, _ => s
| _ + 1, s, [] => s
| fuel + 1, s, ws =>
    compressAll fuel (compress s (ws.take 16)) (ws.drop 16)

/- A one bit, zeros, and the length in bits. -/
def pad
    (b : Bytes) : Bytes :=
  b ++ 0x80 :: (List.replicate ((119 - b.length % 64) % 64) 0 ++
    bigEndian 8 (8 * b.length))

def sha256
    (b : Bytes) : Bytes :=
  let ws := toWords (pad b)
  let s := compressAll ws.length initialState ws
  [s.a, s.b, s.c, s.d, s.e, s.f, s.g, s.h].flatMap
    (fun w => bigEndian 4 w.toNat)

theorem length_sha256
    (b : Bytes) :
    (sha256 b).length = 32 := by
  simp [sha256, length_bigEndian]

end Reference

end UnidppArchive
