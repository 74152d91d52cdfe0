import SealedChunk.Bytes

/-!
# SHA-256

The message is filled up with one bit, zeros and its length to rows of 64 bytes, and each row is
mixed into a state of eight words.

* `compress` — mixes a row into the state.
* `sha256` — the hash of a message; **`length_sha256`** says that it has 32 bytes.
-/

namespace SealedChunk.Crypto

/-- A word of 32 bits, rotated to the right. -/
def rotateRight (x n : UInt32) : UInt32 := (x >>> n) ||| (x <<< (32 - n))

/-- The first 32 bits of the fractional parts of the cube roots of the first 64 primes. -/
def roundConstants : List UInt32 :=
  [0x428a2f98, 0x71374491, 0xb5c0fbcf, 0xe9b5dba5, 0x3956c25b, 0x59f111f1, 0x923f82a4, 0xab1c5ed5,
   0xd807aa98, 0x12835b01, 0x243185be, 0x550c7dc3, 0x72be5d74, 0x80deb1fe, 0x9bdc06a7, 0xc19bf174,
   0xe49b69c1, 0xefbe4786, 0x0fc19dc6, 0x240ca1cc, 0x2de92c6f, 0x4a7484aa, 0x5cb0a9dc, 0x76f988da,
   0x983e5152, 0xa831c66d, 0xb00327c8, 0xbf597fc7, 0xc6e00bf3, 0xd5a79147, 0x06ca6351, 0x14292967,
   0x27b70a85, 0x2e1b2138, 0x4d2c6dfc, 0x53380d13, 0x650a7354, 0x766a0abb, 0x81c2c92e, 0x92722c85,
   0xa2bfe8a1, 0xa81a664b, 0xc24b8b70, 0xc76c51a3, 0xd192e819, 0xd6990624, 0xf40e3585, 0x106aa070,
   0x19a4c116, 0x1e376c08, 0x2748774c, 0x34b0bcb5, 0x391c0cb3, 0x4ed8aa4a, 0x5b9cca4f, 0x682e6ff3,
   0x748f82ee, 0x78a5636f, 0x84c87814, 0x8cc70208, 0x90befffa, 0xa4506ceb, 0xbef9a3f7, 0xc67178f2]

/-- The state of the hash: eight words. -/
structure HashState where
  a : UInt32
  b : UInt32
  c : UInt32
  d : UInt32
  e : UInt32
  f : UInt32
  g : UInt32
  h : UInt32

namespace HashState

/-- The first 32 bits of the fractional parts of the square roots of the first eight primes. -/
def start : HashState :=
  ⟨0x6a09e667, 0xbb67ae85, 0x3c6ef372, 0xa54ff53a, 0x510e527f, 0x9b05688c, 0x1f83d9ab, 0x5be0cd19⟩

/-- One round: mixes in a word of the schedule and its constant. -/
def round (s : HashState) (constant word : UInt32) : HashState :=
  let sum1 := rotateRight s.e 6 ^^^ rotateRight s.e 11 ^^^ rotateRight s.e 25
  let choice := (s.e &&& s.f) ^^^ (~~~s.e &&& s.g)
  let t1 := s.h + sum1 + choice + constant + word
  let sum0 := rotateRight s.a 2 ^^^ rotateRight s.a 13 ^^^ rotateRight s.a 22
  let majority := (s.a &&& s.b) ^^^ (s.a &&& s.c) ^^^ (s.b &&& s.c)
  ⟨t1 + (sum0 + majority), s.a, s.b, s.c, s.d + t1, s.e, s.f, s.g⟩

/-- The sum, word by word. -/
def add (s t : HashState) : HashState :=
  ⟨s.a + t.a, s.b + t.b, s.c + t.c, s.d + t.d, s.e + t.e, s.f + t.f, s.g + t.g, s.h + t.h⟩

/-- The eight words. -/
def words (s : HashState) : List UInt32 := [s.a, s.b, s.c, s.d, s.e, s.f, s.g, s.h]

end HashState

/-- The schedule of a row: its 16 words, and `n` more, each from those 2, 7, 15 and 16 before it.
The window holds the 16 words before the next one, oldest first. -/
def schedule : (n : Nat) → (window : List UInt32) → List UInt32
  | 0, window => window
  | _ + 1, [] => []
  | n + 1, oldest :: rest =>
    let x := rest.getD 0 0
    let y := rest.getD 13 0
    let sigma0 := rotateRight x 7 ^^^ rotateRight x 18 ^^^ (x >>> 3)
    let sigma1 := rotateRight y 17 ^^^ rotateRight y 19 ^^^ (y >>> 10)
    oldest :: schedule n (rest ++ [sigma1 + rest.getD 8 0 + sigma0 + oldest])

/-- Mixes a row of 64 bytes into the state. -/
def compress (s : HashState) (row : Bytes) : HashState :=
  let words := (Bytes.rows 4 row).map fun word => UInt32.ofNat (Bytes.toNatBE word)
  let mixed := (roundConstants.zip (schedule 48 words)).foldl (fun t p => t.round p.1 p.2) s
  s.add mixed

/-- The message with a one bit, as few zeros as possible, and its length in bits, in full rows. -/
def padded (message : Bytes) : Bytes :=
  let zeros := (119 - message.length % 64) % 64
  message ++ 0x80 :: List.replicate zeros 0 ++ Bytes.ofNatBE 8 (8 * message.length)

/-- The hash of a message. -/
def sha256 (message : Bytes) : Bytes :=
  ((Bytes.rows 64 (padded message)).foldl compress .start).words.flatMap fun word =>
    Bytes.ofNatBE 4 word.toNat

/-- A hash has 32 bytes. -/
theorem length_sha256 (message : Bytes) : (sha256 message).length = 32 := by
  simp [sha256, HashState.words, Bytes.ofNatBE, Bytes.length_ofNatLE]

end SealedChunk.Crypto
