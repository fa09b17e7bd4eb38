import DiskFixture.Text.Digit

/-!
The SHA-256 digest of a byte string. The message is padded with a one bit, zeros and its length to
blocks of sixteen words; every block is expanded to a schedule of sixty-four words and mixed into
eight chaining words. Main statement: the schedule has one word for each round.
-/

namespace DiskFixture.Sha256

def rotate (x : UInt32) (places : UInt32) : UInt32 :=
  (x >>> places) ||| (x <<< (32 - places))

/-- The eight chaining words; after the last block they are the digest. -/
structure Words where
  a : UInt32
  b : UInt32
  c : UInt32
  d : UInt32
  e : UInt32
  f : UInt32
  g : UInt32
  h : UInt32
  deriving DecidableEq, Repr

/-- The fractional parts of the square roots of the first eight primes. -/
def start : Words :=
  ⟨0x6a09e667, 0xbb67ae85, 0x3c6ef372, 0xa54ff53a, 0x510e527f, 0x9b05688c, 0x1f83d9ab, 0x5be0cd19⟩

/-- The fractional parts of the cube roots of the first sixty-four primes, one for each round. -/
def roundWords : Vector UInt32 64 := #v[
  0x428a2f98, 0x71374491, 0xb5c0fbcf, 0xe9b5dba5, 0x3956c25b, 0x59f111f1, 0x923f82a4, 0xab1c5ed5,
  0xd807aa98, 0x12835b01, 0x243185be, 0x550c7dc3, 0x72be5d74, 0x80deb1fe, 0x9bdc06a7, 0xc19bf174,
  0xe49b69c1, 0xefbe4786, 0x0fc19dc6, 0x240ca1cc, 0x2de92c6f, 0x4a7484aa, 0x5cb0a9dc, 0x76f988da,
  0x983e5152, 0xa831c66d, 0xb00327c8, 0xbf597fc7, 0xc6e00bf3, 0xd5a79147, 0x06ca6351, 0x14292967,
  0x27b70a85, 0x2e1b2138, 0x4d2c6dfc, 0x53380d13, 0x650a7354, 0x766a0abb, 0x81c2c92e, 0x92722c85,
  0xa2bfe8a1, 0xa81a664b, 0xc24b8b70, 0xc76c51a3, 0xd192e819, 0xd6990624, 0xf40e3585, 0x106aa070,
  0x19a4c116, 0x1e376c08, 0x2748774c, 0x34b0bcb5, 0x391c0cb3, 0x4ed8aa4a, 0x5b9cca4f, 0x682e6ff3,
  0x748f82ee, 0x78a5636f, 0x84c87814, 0x8cc70208, 0x90befffa, 0xa4506ceb, 0xbef9a3f7, 0xc67178f2]

def paddedByte (message : ByteArray) (blocks index : Nat) : UInt8 :=
  if inside : index < message.size then message[index]
  else if index = message.size then 0x80
  else
    let fromEnd := 64 * blocks - 1 - index
    if fromEnd < 8 then UInt8.ofNat ((8 * message.size) >>> (8 * fromEnd)) else 0

/-- The number of blocks that hold the message, the one bit and the eight bytes of the length. -/
def blockCount (message : ByteArray) : Nat :=
  (message.size + 8) / 64 + 1

/-- The four bytes at `index` as one word, the first byte weighing most. -/
def paddedWord (message : ByteArray) (blocks index : Nat) : UInt32 :=
  let byte (offset : Nat) := (paddedByte message blocks (index + offset)).toUInt32
  (byte 0 <<< 24) ||| (byte 1 <<< 16) ||| (byte 2 <<< 8) ||| byte 3

def mixEarly (x : UInt32) : UInt32 := rotate x 7 ^^^ rotate x 18 ^^^ (x >>> 3)

def mixLate (x : UInt32) : UInt32 := rotate x 17 ^^^ rotate x 19 ^^^ (x >>> 10)

def extend (words : Array UInt32) (enough : 16 ≤ words.size) : Array UInt32 :=
  let size := words.size
  words.push (words[size - 16] + mixEarly words[size - 15] + words[size - 7]
    + mixLate words[size - 2])

def extendBy : (count : Nat) → (words : Array UInt32) → 16 ≤ words.size → Array UInt32
  | 0, words, _ => words
  | count + 1, words, enough =>
    extendBy count (extend words enough) (by simp [extend]; omega)

theorem size_extendBy (count : Nat) (words : Array UInt32) (enough : 16 ≤ words.size) :
    (extendBy count words enough).size = words.size + count := by
  induction count generalizing words with
  | zero => rfl
  | succ count ih => simp [extendBy, ih, extend]; omega

def schedule (block : Vector UInt32 16) : Vector UInt32 64 :=
  ⟨extendBy 48 block.toArray (by simp), by simp [size_extendBy]⟩

def round (w : Words) (constant scheduled : UInt32) : Words :=
  let sumE := rotate w.e 6 ^^^ rotate w.e 11 ^^^ rotate w.e 25
  let choice := (w.e &&& w.f) ^^^ (~~~w.e &&& w.g)
  let first := w.h + sumE + choice + constant + scheduled
  let sumA := rotate w.a 2 ^^^ rotate w.a 13 ^^^ rotate w.a 22
  let majority := (w.a &&& w.b) ^^^ (w.a &&& w.c) ^^^ (w.b &&& w.c)
  ⟨first + sumA + majority, w.a, w.b, w.c, w.d + first, w.e, w.f, w.g⟩

def compress (w : Words) (block : Vector UInt32 16) : Words :=
  let scheduled := schedule block
  let r := Fin.foldl 64 (fun words t => round words roundWords[t] scheduled[t]) w
  ⟨w.a + r.a, w.b + r.b, w.c + r.c, w.d + r.d, w.e + r.e, w.f + r.f, w.g + r.g, w.h + r.h⟩

def digest (message : ByteArray) : Words :=
  let blocks := blockCount message
  (List.range blocks).foldl
    (fun words block =>
      compress words (Vector.ofFn fun t => paddedWord message blocks (64 * block + 4 * t)))
    start

/-- A digest as sixty-four hexadecimal digits. -/
def Words.hex (w : Words) : String :=
  String.ofList ([w.a, w.b, w.c, w.d, w.e, w.f, w.g, w.h].flatMap
    fun word => Text.hexDigits 8 word.toNat)

end DiskFixture.Sha256
