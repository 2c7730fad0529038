/-
**The digests of the SHA-2 family.**

* `Sha2.digest`: the digest of a message for a variant, that is for a width of words, a number of
  rounds and amounts of rotation.
* `sha256`, `sha512`: the two variants in use. The constants of the narrower one are the upper
  halves of those of the wider one.
-/

namespace ObjectLedger

/-- A variant of the family. -/
structure Sha2 (width : Nat) where
  /-- The number of rounds for each block. -/
  rounds : Nat
  /-- The rotations of the first word of the state. -/
  majorFirst : Nat × Nat × Nat
  /-- The rotations of the fifth word of the state. -/
  majorFifth : Nat × Nat × Nat
  /-- Two rotations and a shift of the schedule. -/
  minorEarly : Nat × Nat × Nat
  /-- Two rotations and a shift of the schedule. -/
  minorLate : Nat × Nat × Nat
  /-- The state at the start. -/
  initial : List (BitVec width)
  /-- One constant for each round. -/
  constants : List (BitVec width)

namespace Sha2

/-- The first 64 bits of the fractional parts of the square roots of the first eight primes. -/
def squareRoots : List Nat :=
  [0x6a09e667f3bcc908, 0xbb67ae8584caa73b, 0x3c6ef372fe94f82b, 0xa54ff53a5f1d36f1,
    0x510e527fade682d1, 0x9b05688c2b3e6c1f, 0x1f83d9abfb41bd6b, 0x5be0cd19137e2179]

/-- The first 64 bits of the fractional parts of the cube roots of the first eighty primes. -/
def cubeRoots : List Nat :=
  [0x428a2f98d728ae22, 0x7137449123ef65cd, 0xb5c0fbcfec4d3b2f, 0xe9b5dba58189dbbc,
    0x3956c25bf348b538, 0x59f111f1b605d019, 0x923f82a4af194f9b, 0xab1c5ed5da6d8118,
    0xd807aa98a3030242, 0x12835b0145706fbe, 0x243185be4ee4b28c, 0x550c7dc3d5ffb4e2,
    0x72be5d74f27b896f, 0x80deb1fe3b1696b1, 0x9bdc06a725c71235, 0xc19bf174cf692694,
    0xe49b69c19ef14ad2, 0xefbe4786384f25e3, 0x0fc19dc68b8cd5b5, 0x240ca1cc77ac9c65,
    0x2de92c6f592b0275, 0x4a7484aa6ea6e483, 0x5cb0a9dcbd41fbd4, 0x76f988da831153b5,
    0x983e5152ee66dfab, 0xa831c66d2db43210, 0xb00327c898fb213f, 0xbf597fc7beef0ee4,
    0xc6e00bf33da88fc2, 0xd5a79147930aa725, 0x06ca6351e003826f, 0x142929670a0e6e70,
    0x27b70a8546d22ffc, 0x2e1b21385c26c926, 0x4d2c6dfc5ac42aed, 0x53380d139d95b3df,
    0x650a73548baf63de, 0x766a0abb3c77b2a8, 0x81c2c92e47edaee6, 0x92722c851482353b,
    0xa2bfe8a14cf10364, 0xa81a664bbc423001, 0xc24b8b70d0f89791, 0xc76c51a30654be30,
    0xd192e819d6ef5218, 0xd69906245565a910, 0xf40e35855771202a, 0x106aa07032bbd1b8,
    0x19a4c116b8d2d0c8, 0x1e376c085141ab53, 0x2748774cdf8eeb99, 0x34b0bcb5e19b48a8,
    0x391c0cb3c5c95a63, 0x4ed8aa4ae3418acb, 0x5b9cca4f7763e373, 0x682e6ff3d6b2b8a3,
    0x748f82ee5defb2fc, 0x78a5636f43172f60, 0x84c87814a1f0ab72, 0x8cc702081a6439ec,
    0x90befffa23631e28, 0xa4506cebde82bde9, 0xbef9a3f7b2c67915, 0xc67178f2e372532b,
    0xca273eceea26619c, 0xd186b8c721c0c207, 0xeada7dd6cde0eb1e, 0xf57d4f7fee6ed178,
    0x06f067aa72176fba, 0x0a637dc5a2c898a6, 0x113f9804bef90dae, 0x1b710b35131c471b,
    0x28db77f523047d84, 0x32caab7b40c72493, 0x3c9ebe0a15c9bebc, 0x431d67c49c100d4c,
    0x4cc5d4becb3e42b6, 0x597f299cfc657e2a, 0x5fcb6fab3ad6faec, 0x6c44198c4a475817]

/-- The variant with words of 32 bits. -/
def narrow : Sha2 32 where
  rounds := 64
  majorFirst := (2, 13, 22)
  majorFifth := (6, 11, 25)
  minorEarly := (7, 18, 3)
  minorLate := (17, 19, 10)
  initial := squareRoots.map fun root => BitVec.ofNat 32 (root >>> 32)
  constants := (cubeRoots.take 64).map fun root => BitVec.ofNat 32 (root >>> 32)

/-- The variant with words of 64 bits. -/
def wide : Sha2 64 where
  rounds := 80
  majorFirst := (28, 34, 39)
  majorFifth := (14, 18, 41)
  minorEarly := (1, 8, 7)
  minorLate := (19, 61, 6)
  initial := squareRoots.map (BitVec.ofNat 64)
  constants := cubeRoots.map (BitVec.ofNat 64)

variable {width : Nat}

/-- Three rotations of a word, combined. -/
def rotations (amounts : Nat × Nat × Nat) (word : BitVec width) : BitVec width :=
  word.rotateRight amounts.1 ^^^ word.rotateRight amounts.2.1 ^^^ word.rotateRight amounts.2.2

/-- Two rotations and a shift of a word, combined. -/
def rotationsAndShift (amounts : Nat × Nat × Nat) (word : BitVec width) : BitVec width :=
  word.rotateRight amounts.1 ^^^ word.rotateRight amounts.2.1 ^^^ (word >>> amounts.2.2)

/-- The number whose bytes are given, the highest first. -/
def bigEndian (bytes : List UInt8) : Nat :=
  bytes.foldl (fun value byte => value * 256 + byte.toNat) 0

/-- The bytes of a number, the highest first. -/
def bigEndianBytes : Nat → Nat → List UInt8
  | 0, _ => []
  | count + 1, value => bigEndianBytes count (value / 256) ++ [UInt8.ofNat value]

/-- The number of bytes of a block: sixteen words. -/
def blockLength (width : Nat) : Nat :=
  width * 2

/-- The message with a bit, zeros and its length in bits in two words, in whole blocks. -/
def padded (width : Nat) (message : List UInt8) : List UInt8 :=
  let block := blockLength width
  let lengthBytes := width / 4
  let used := (message.length + 1 + lengthBytes) % block
  let zeros := if used = 0 then 0 else block - used
  message ++ [0x80] ++ List.replicate zeros 0 ++
    bigEndianBytes lengthBytes (message.length * 8)

/-- Cuts a list into so many pieces of a length. -/
def pieces {α : Type} (length : Nat) : Nat → List α → List (List α)
  | 0, _ => []
  | count + 1, items => items.take length :: pieces length count (items.drop length)

/-- Extends the schedule, which is given with the latest word first. -/
def extendSchedule (variant : Sha2 width) : Nat → List (BitVec width) → List (BitVec width)
  | 0, schedule => schedule
  | count + 1, schedule =>
    let word := rotationsAndShift variant.minorLate (schedule.getD 1 0) + schedule.getD 6 0 +
      rotationsAndShift variant.minorEarly (schedule.getD 14 0) + schedule.getD 15 0
    extendSchedule variant count (word :: schedule)

/-- One round on a state of eight words. -/
def round (variant : Sha2 width) (state : List (BitVec width))
    (input : BitVec width × BitVec width) : List (BitVec width) :=
  match state with
  | [a, b, c, d, e, f, g, h] =>
    let choice := (e &&& f) ^^^ (~~~e &&& g)
    let majority := (a &&& b) ^^^ (a &&& c) ^^^ (b &&& c)
    let first := h + rotations variant.majorFifth e + choice + input.1 + input.2
    let second := rotations variant.majorFirst a + majority
    [first + second, a, b, c, d + first, e, f, g]
  | other => other

/-- The state after a block. -/
def compress (variant : Sha2 width) (state : List (BitVec width)) (block : List UInt8) :
    List (BitVec width) :=
  let words := (pieces (width / 8) 16 block).map fun bytes => BitVec.ofNat width (bigEndian bytes)
  let schedule := (extendSchedule variant (variant.rounds - 16) words.reverse).reverse
  let final := (variant.constants.zip schedule).foldl (round variant) state
  List.zipWith (· + ·) state final

/-- The digest of a message. -/
def digest (variant : Sha2 width) (message : List UInt8) : List UInt8 :=
  let message := padded width message
  let blocks := pieces (blockLength width) (message.length / blockLength width) message
  (blocks.foldl (compress variant) variant.initial).flatMap fun word =>
    bigEndianBytes (width / 8) word.toNat

end Sha2

/-- The digest of 32 bytes. -/
def sha256 (message : List UInt8) : List UInt8 :=
  Sha2.narrow.digest message

/-- The digest of 64 bytes. -/
def sha512 (message : List UInt8) : List UInt8 :=
  Sha2.wide.digest message

end ObjectLedger
