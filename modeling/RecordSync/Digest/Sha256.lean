/-! SHA-256 over a list of bytes. -/

namespace RecordSync.Digest.Sha256

/-- The fractional parts of the cube roots of the first sixty-four primes. -/
def roundConstants : List UInt32 := [
  0x428a2f98, 0x71374491, 0xb5c0fbcf, 0xe9b5dba5, 0x3956c25b, 0x59f111f1, 0x923f82a4, 0xab1c5ed5,
  0xd807aa98, 0x12835b01, 0x243185be, 0x550c7dc3, 0x72be5d74, 0x80deb1fe, 0x9bdc06a7, 0xc19bf174,
  0xe49b69c1, 0xefbe4786, 0x0fc19dc6, 0x240ca1cc, 0x2de92c6f, 0x4a7484aa, 0x5cb0a9dc, 0x76f988da,
  0x983e5152, 0xa831c66d, 0xb00327c8, 0xbf597fc7, 0xc6e00bf3, 0xd5a79147, 0x06ca6351, 0x14292967,
  0x27b70a85, 0x2e1b2138, 0x4d2c6dfc, 0x53380d13, 0x650a7354, 0x766a0abb, 0x81c2c92e, 0x92722c85,
  0xa2bfe8a1, 0xa81a664b, 0xc24b8b70, 0xc76c51a3, 0xd192e819, 0xd6990624, 0xf40e3585, 0x106aa070,
  0x19a4c116, 0x1e376c08, 0x2748774c, 0x34b0bcb5, 0x391c0cb3, 0x4ed8aa4a, 0x5b9cca4f, 0x682e6ff3,
  0x748f82ee, 0x78a5636f, 0x84c87814, 0x8cc70208, 0x90befffa, 0xa4506ceb, 0xbef9a3f7, 0xc67178f2]

/-- The eight working words. -/
structure Words where
  a : UInt32
  b : UInt32
  c : UInt32
  d : UInt32
  e : UInt32
  f : UInt32
  g : UInt32
  h : UInt32
  deriving DecidableEq, Repr

/-- The fractional parts of the square roots of the first eight primes. -/
def initialWords : Words :=
  ⟨0x6a09e667, 0xbb67ae85, 0x3c6ef372, 0xa54ff53a, 0x510e527f, 0x9b05688c, 0x1f83d9ab, 0x5be0cd19⟩

def rotateRight (word : UInt32) (count : UInt32) : UInt32 :=
  (word >>> count) ||| (word <<< (32 - count))

def bigSigmaA (word : UInt32) : UInt32 :=
  rotateRight word 2 ^^^ rotateRight word 13 ^^^ rotateRight word 22

def bigSigmaE (word : UInt32) : UInt32 :=
  rotateRight word 6 ^^^ rotateRight word 11 ^^^ rotateRight word 25

def smallSigmaZero (word : UInt32) : UInt32 :=
  rotateRight word 7 ^^^ rotateRight word 18 ^^^ (word >>> 3)

def smallSigmaOne (word : UInt32) : UInt32 :=
  rotateRight word 17 ^^^ rotateRight word 19 ^^^ (word >>> 10)

/-- One round with its schedule word and its constant. -/
def round (words : Words) (input : UInt32 × UInt32) : Words :=
  let choice := (words.e &&& words.f) ^^^ ((~~~words.e) &&& words.g)
  let majority := (words.a &&& words.b) ^^^ (words.a &&& words.c) ^^^ (words.b &&& words.c)
  let first := words.h + bigSigmaE words.e + choice + input.1 + input.2
  let second := bigSigmaA words.a + majority
  ⟨first + second, words.a, words.b, words.c, words.d + first, words.e, words.f, words.g⟩

def Words.add (left right : Words) : Words :=
  ⟨left.a + right.a, left.b + right.b, left.c + right.c, left.d + right.d,
    left.e + right.e, left.f + right.f, left.g + right.g, left.h + right.h⟩

/-- `count` further schedule words; the words so far are held newest first. -/
def extend : Nat → List UInt32 → List UInt32
  | 0, schedule => schedule
  | count + 1, schedule =>
    extend count
      ((smallSigmaOne (schedule.getD 1 0) + schedule.getD 6 0 +
        smallSigmaZero (schedule.getD 14 0) + schedule.getD 15 0) :: schedule)

/-- The working words after one block of sixteen words. -/
def compress (words : Words) (block : List UInt32) : Words :=
  let schedule := (extend 48 block.reverse).reverse
  words.add ((schedule.zip roundConstants).foldl round words)

/-- Four bytes as one word, the most significant first. -/
def toWords : List UInt8 → List UInt32
  | a :: b :: c :: d :: rest =>
    ((a.toUInt32 <<< 24) ||| (b.toUInt32 <<< 16) ||| (c.toUInt32 <<< 8) ||| d.toUInt32) ::
      toWords rest
  | _ => []

/-- A number as bytes, the most significant first. -/
def bigEndian : Nat → Nat → List UInt8
  | 0, _ => []
  | width + 1, value => UInt8.ofNat (value / 256 ^ width) :: bigEndian width value

/-- The message, one set bit, zeros up to a whole block, and the length in bits. -/
def padded (message : List UInt8) : List UInt8 :=
  let zeros := (119 - message.length % 64) % 64
  message ++ 0x80 :: List.replicate zeros 0 ++ bigEndian 8 (message.length * 8)

/-- The words after `count` blocks of the schedule. -/
def digestBlocks : Nat → Words → List UInt32 → Words
  | 0, words, _ => words
  | count + 1, words, input =>
    digestBlocks count (compress words (input.take 16)) (input.drop 16)

def digest (message : List UInt8) : Words :=
  let input := toWords (padded message)
  digestBlocks (input.length / 16) initialWords input

def hexDigit (value : Nat) : Char :=
  if value < 10 then Char.ofNat ('0'.toNat + value) else Char.ofNat ('a'.toNat + (value - 10))

/-- The eight hexadecimal digits of a word. -/
def hexWord (word : UInt32) : List Char :=
  (bigEndian 4 word.toNat).flatMap fun byte =>
    [hexDigit (byte.toNat / 16), hexDigit (byte.toNat % 16)]

/-- The digest as sixty-four hexadecimal digits in lower case. -/
def hex (message : List UInt8) : String :=
  let words := digest message
  String.ofList ([words.a, words.b, words.c, words.d, words.e, words.f, words.g, words.h].flatMap hexWord)

end RecordSync.Digest.Sha256
