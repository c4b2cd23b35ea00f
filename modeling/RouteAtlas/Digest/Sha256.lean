import RouteAtlas.Text.Utf8

/-!
# SHA-256

- `Sha256.pad`: the message with its length, as a whole number of blocks;
- `Sha256.compress`: one block folded into the state;
- `Sha256.digest`, `Sha256.hexDigest`: the digest of bytes, as words and as text.
-/

namespace RouteAtlas

namespace Sha256

/-- The words that the rounds add. -/
def roundWords : List UInt32 :=
  [0x428a2f98, 0x71374491, 0xb5c0fbcf, 0xe9b5dba5, 0x3956c25b, 0x59f111f1, 0x923f82a4, 0xab1c5ed5,
    0xd807aa98, 0x12835b01, 0x243185be, 0x550c7dc3, 0x72be5d74, 0x80deb1fe, 0x9bdc06a7, 0xc19bf174,
    0xe49b69c1, 0xefbe4786, 0x0fc19dc6, 0x240ca1cc, 0x2de92c6f, 0x4a7484aa, 0x5cb0a9dc, 0x76f988da,
    0x983e5152, 0xa831c66d, 0xb00327c8, 0xbf597fc7, 0xc6e00bf3, 0xd5a79147, 0x06ca6351, 0x14292967,
    0x27b70a85, 0x2e1b2138, 0x4d2c6dfc, 0x53380d13, 0x650a7354, 0x766a0abb, 0x81c2c92e, 0x92722c85,
    0xa2bfe8a1, 0xa81a664b, 0xc24b8b70, 0xc76c51a3, 0xd192e819, 0xd6990624, 0xf40e3585, 0x106aa070,
    0x19a4c116, 0x1e376c08, 0x2748774c, 0x34b0bcb5, 0x391c0cb3, 0x4ed8aa4a, 0x5b9cca4f, 0x682e6ff3,
    0x748f82ee, 0x78a5636f, 0x84c87814, 0x8cc70208, 0x90befffa, 0xa4506ceb, 0xbef9a3f7, 0xc67178f2]

/-- The eight words of a digest in progress. -/
structure State where
  a : UInt32
  b : UInt32
  c : UInt32
  d : UInt32
  e : UInt32
  f : UInt32
  g : UInt32
  h : UInt32
deriving DecidableEq

/-- The state before the first block. -/
def State.initial : State :=
  ⟨0x6a09e667, 0xbb67ae85, 0x3c6ef372, 0xa54ff53a, 0x510e527f, 0x9b05688c, 0x1f83d9ab, 0x5be0cd19⟩

/-- The word rotated to the right. -/
def rotate (x n : UInt32) : UInt32 := (x >>> n) ||| (x <<< (32 - n))

/-- The word that the schedule continues with, from those at the distances 16, 15, 7 and 2. -/
def scheduled (w16 w15 w7 w2 : UInt32) : UInt32 :=
  let s₀ := rotate w15 7 ^^^ rotate w15 18 ^^^ (w15 >>> 3)
  let s₁ := rotate w2 17 ^^^ rotate w2 19 ^^^ (w2 >>> 10)
  w16 + s₀ + w7 + s₁

/-- The rest of a schedule after a window of sixteen words, `n` words long. -/
def schedule : Nat → List UInt32 → List UInt32
  | 0, _ => []
  | n + 1, window =>
    let next := scheduled (window.getD 0 0) (window.getD 1 0) (window.getD 9 0) (window.getD 14 0)
    window.headD 0 :: schedule n (window.drop 1 ++ [next])

/-- One round. -/
def State.step (s : State) (k w : UInt32) : State :=
  let s₁ := rotate s.e 6 ^^^ rotate s.e 11 ^^^ rotate s.e 25
  let choice := (s.e &&& s.f) ^^^ ((~~~ s.e) &&& s.g)
  let t₁ := s.h + s₁ + choice + k + w
  let s₀ := rotate s.a 2 ^^^ rotate s.a 13 ^^^ rotate s.a 22
  let majority := (s.a &&& s.b) ^^^ (s.a &&& s.c) ^^^ (s.b &&& s.c)
  ⟨t₁ + (s₀ + majority), s.a, s.b, s.c, s.d + t₁, s.e, s.f, s.g⟩

/-- The sum of two states, word by word. -/
def State.add (s t : State) : State :=
  ⟨s.a + t.a, s.b + t.b, s.c + t.c, s.d + t.d, s.e + t.e, s.f + t.f, s.g + t.g, s.h + t.h⟩

/-- One block of sixteen words folded into the state. -/
def compress (s : State) (block : List UInt32) : State :=
  s.add ((roundWords.zip (schedule 64 block)).foldl (fun t (k, w) => t.step k w) s)

/-- The bytes of a number, the highest first. -/
def bytesOf (count n : Nat) : List Nat :=
  (List.range count).map fun i => n / Nat.pow 256 (count - 1 - i) % 256

/-- The message, a one bit, zeros, and its length in bits, in whole blocks of 64 bytes. -/
def pad (bytes : List Nat) : List Nat :=
  let n := bytes.length
  bytes ++ 0x80 :: List.replicate ((119 - n % 64) % 64) 0 ++ bytesOf 8 (8 * n)

/-- The words of bytes, four at a time, the highest byte first. -/
def words : List Nat → List UInt32
  | a :: b :: c :: d :: r =>
    UInt32.ofNat (((a * 256 + b) * 256 + c) * 256 + d) :: words r
  | _ => []

/-- Folds the blocks of a list of words into the state; there are at most `n` of them. -/
def compressAll : Nat → State → List UInt32 → State
  | 0, s, _ => s
  | n + 1, s, ws =>
    if ws.isEmpty then s else compressAll n (compress s (ws.take 16)) (ws.drop 16)

/-- The digest of bytes. -/
def digest (bytes : List Nat) : State :=
  let ws := words (pad bytes)
  compressAll (ws.length / 16) .initial ws

/-- The digest of bytes in hexadecimal. -/
def hexDigest (bytes : List Nat) : Text :=
  let s := digest bytes
  [s.a, s.b, s.c, s.d, s.e, s.f, s.g, s.h].flatMap fun w => Text.hex 8 w.toNat

end Sha256

end RouteAtlas
