/-!
# SHA-256

The secure hash algorithm with digests of 256 bits. A message is padded to whole blocks of 64
bytes; each block is expanded to 64 words and mixed into eight words of state.

* `sha256` : the digest of a message.
* `Digest.hex` : a digest as 64 lower-case hexadecimal digits.
-/

namespace RedisControl

namespace Sha256

/-- The state between two blocks, and the digest after the last. -/
structure Digest where
  a : UInt32
  b : UInt32
  c : UInt32
  d : UInt32
  e : UInt32
  f : UInt32
  g : UInt32
  h : UInt32
  deriving DecidableEq

/-- The state before the first block. -/
def start : Digest :=
  ⟨0x6a09e667, 0xbb67ae85, 0x3c6ef372, 0xa54ff53a, 0x510e527f, 0x9b05688c, 0x1f83d9ab, 0x5be0cd19⟩

/-- The constants of the 64 rounds. -/
def roundConstants : List UInt32 :=
  [0x428a2f98, 0x71374491, 0xb5c0fbcf, 0xe9b5dba5, 0x3956c25b, 0x59f111f1, 0x923f82a4, 0xab1c5ed5,
    0xd807aa98, 0x12835b01, 0x243185be, 0x550c7dc3, 0x72be5d74, 0x80deb1fe, 0x9bdc06a7, 0xc19bf174,
    0xe49b69c1, 0xefbe4786, 0x0fc19dc6, 0x240ca1cc, 0x2de92c6f, 0x4a7484aa, 0x5cb0a9dc, 0x76f988da,
    0x983e5152, 0xa831c66d, 0xb00327c8, 0xbf597fc7, 0xc6e00bf3, 0xd5a79147, 0x06ca6351, 0x14292967,
    0x27b70a85, 0x2e1b2138, 0x4d2c6dfc, 0x53380d13, 0x650a7354, 0x766a0abb, 0x81c2c92e, 0x92722c85,
    0xa2bfe8a1, 0xa81a664b, 0xc24b8b70, 0xc76c51a3, 0xd192e819, 0xd6990624, 0xf40e3585, 0x106aa070,
    0x19a4c116, 0x1e376c08, 0x2748774c, 0x34b0bcb5, 0x391c0cb3, 0x4ed8aa4a, 0x5b9cca4f, 0x682e6ff3,
    0x748f82ee, 0x78a5636f, 0x84c87814, 0x8cc70208, 0x90befffa, 0xa4506ceb, 0xbef9a3f7, 0xc67178f2]

/-- Rotate a word to the right. -/
def rotate (x : UInt32) (n : UInt32) : UInt32 := (x >>> n) ||| (x <<< (32 - n))

/-! ## Padding -/

/-- How many zero bytes stand between the mark and the length. -/
def zeros (length : Nat) : Nat := (119 - length % 64) % 64

/-- A number as eight bytes, the highest first. -/
def lengthBytes (n : Nat) : List UInt8 :=
  [56, 48, 40, 32, 24, 16, 8, 0].map fun shift => UInt8.ofNat (n >>> shift)

/-- The message with the mark, the zeros and its length in bits: whole blocks. -/
def pad (message : List UInt8) : List UInt8 :=
  message ++ 0x80 :: (List.replicate (zeros message.length) 0 ++ lengthBytes (8 * message.length))

/-! ## One block -/

/-- The words of bytes, the highest byte first. -/
def words : List UInt8 → List UInt32
  | p :: q :: r :: s :: rest =>
    (p.toUInt32 <<< 24 ||| q.toUInt32 <<< 16 ||| r.toUInt32 <<< 8 ||| s.toUInt32) :: words rest
  | _ => []

/-- The next word of the schedule, from the words before it in reverse. -/
def nextWord (before : List UInt32) : UInt32 :=
  let x := before.getD 14 0
  let y := before.getD 1 0
  (rotate y 17 ^^^ rotate y 19 ^^^ (y >>> 10)) + before.getD 6 0
    + (rotate x 7 ^^^ rotate x 18 ^^^ (x >>> 3)) + before.getD 15 0

/-- Extend a schedule, which is kept in reverse, by some number of words. -/
def expand : Nat → List UInt32 → List UInt32
  | 0, before => before
  | n + 1, before => expand n (nextWord before :: before)

/-- One round: mix the sum of a word and a constant into the state. -/
def round (s : Digest) (input : UInt32) : Digest :=
  let mix := (rotate s.e 6 ^^^ rotate s.e 11 ^^^ rotate s.e 25)
    + ((s.e &&& s.f) ^^^ (~~~s.e &&& s.g)) + s.h + input
  let majority := (rotate s.a 2 ^^^ rotate s.a 13 ^^^ rotate s.a 22)
    + ((s.a &&& s.b) ^^^ (s.a &&& s.c) ^^^ (s.b &&& s.c))
  ⟨mix + majority, s.a, s.b, s.c, s.d + mix, s.e, s.f, s.g⟩

/-- Mix one block of sixteen words into the state. -/
def compress (s : Digest) (block : List UInt32) : Digest :=
  let schedule := (expand 48 block.reverse).reverse
  let t := (List.zipWith (· + ·) roundConstants schedule).foldl round s
  ⟨s.a + t.a, s.b + t.b, s.c + t.c, s.d + t.d, s.e + t.e, s.f + t.f, s.g + t.g, s.h + t.h⟩

/-- Mix words, block by block, into the state; the number bounds the blocks. -/
def compressAll : Nat → Digest → List UInt32 → Digest
  | 0, s, _ => s
  | _ + 1, s, [] => s
  | n + 1, s, ws => compressAll n (compress s (ws.take 16)) (ws.drop 16)

/-! ## Text -/

/-- A number in hexadecimal, with a fixed number of lower-case digits. -/
def hexDigits : Nat → Nat → List Char
  | 0, _ => []
  | k + 1, n => hexDigits k (n / 16) ++ [Nat.digitChar (n % 16)]

theorem length_hexDigits (k n : Nat) : (hexDigits k n).length = k := by
  induction k generalizing n with
  | zero => rfl
  | succ k ih => simp [hexDigits, ih]

/-- The words of a digest in order. -/
def Digest.toList (s : Digest) : List UInt32 := [s.a, s.b, s.c, s.d, s.e, s.f, s.g, s.h]

/-- A digest in hexadecimal. -/
def Digest.hex (s : Digest) : String :=
  String.ofList (s.toList.flatMap fun w => hexDigits 8 w.toNat)

theorem Digest.length_hex (s : Digest) : s.hex.length = 64 := by
  simp [Digest.hex, Digest.toList, length_hexDigits]

end Sha256

/-- The digest of a message. -/
def sha256 (message : List UInt8) : Sha256.Digest :=
  let padded := Sha256.words (Sha256.pad message)
  Sha256.compressAll padded.length Sha256.start padded

end RedisControl
