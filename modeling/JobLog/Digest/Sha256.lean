import JobLog.Digest.Block

/-!
# SHA-256

The digest of FIPS 180-4, 32 bytes. Words are read and written with their lowest byte last. A digest
is keyed as in RFC 2104: `Hmac.ofKey?` makes a keyed digest and `Hmac.digest` applies it to messages.
-/

namespace JobLog.Digest

namespace Sha256

/-- The eight words that a block changes. -/
structure State where
  a : UInt32
  b : UInt32
  c : UInt32
  d : UInt32
  e : UInt32
  f : UInt32
  g : UInt32
  h : UInt32
  deriving DecidableEq, Repr

/-- The first 32 bits of the fractions of the square roots of the first eight primes. -/
def initial : State :=
  ⟨0x6a09e667, 0xbb67ae85, 0x3c6ef372, 0xa54ff53a,
    0x510e527f, 0x9b05688c, 0x1f83d9ab, 0x5be0cd19⟩

/-- The first 32 bits of the fractions of the cube roots of the first 64 primes. -/
def roots : List UInt32 :=
  [0x428a2f98, 0x71374491, 0xb5c0fbcf, 0xe9b5dba5, 0x3956c25b, 0x59f111f1, 0x923f82a4,
    0xab1c5ed5, 0xd807aa98, 0x12835b01, 0x243185be, 0x550c7dc3, 0x72be5d74, 0x80deb1fe,
    0x9bdc06a7, 0xc19bf174, 0xe49b69c1, 0xefbe4786, 0x0fc19dc6, 0x240ca1cc, 0x2de92c6f,
    0x4a7484aa, 0x5cb0a9dc, 0x76f988da, 0x983e5152, 0xa831c66d, 0xb00327c8, 0xbf597fc7,
    0xc6e00bf3, 0xd5a79147, 0x06ca6351, 0x14292967, 0x27b70a85, 0x2e1b2138, 0x4d2c6dfc,
    0x53380d13, 0x650a7354, 0x766a0abb, 0x81c2c92e, 0x92722c85, 0xa2bfe8a1, 0xa81a664b,
    0xc24b8b70, 0xc76c51a3, 0xd192e819, 0xd6990624, 0xf40e3585, 0x106aa070, 0x19a4c116,
    0x1e376c08, 0x2748774c, 0x34b0bcb5, 0x391c0cb3, 0x4ed8aa4a, 0x5b9cca4f, 0x682e6ff3,
    0x748f82ee, 0x78a5636f, 0x84c87814, 0x8cc70208, 0x90befffa, 0xa4506ceb, 0xbef9a3f7,
    0xc67178f2]

/-- The next word of the schedule. -/
def extended (schedule : Array UInt32) : UInt32 :=
  let i := schedule.size
  let x := schedule.getD (i - 15) 0
  let y := schedule.getD (i - 2) 0
  schedule.getD (i - 16) 0 + (rotateRight x 7 ^^^ rotateRight x 18 ^^^ x >>> 3) +
    schedule.getD (i - 7) 0 + (rotateRight y 17 ^^^ rotateRight y 19 ^^^ y >>> 10)

/-- The words of a block, and 48 words made from them. -/
def schedule (block : List UInt8) : Array UInt32 :=
  (List.range 48).foldl (fun words _ => words.push (extended words))
    (words ofBigEndian 16 block).toArray

/-- One step, with its root and its word of the schedule. -/
def step (s : State) (root word : UInt32) : State :=
  let x := s.h + (rotateRight s.e 6 ^^^ rotateRight s.e 11 ^^^ rotateRight s.e 25) +
    ((s.e &&& s.f) ^^^ (~~~s.e &&& s.g)) + root + word
  let y := (rotateRight s.a 2 ^^^ rotateRight s.a 13 ^^^ rotateRight s.a 22) +
    ((s.a &&& s.b) ^^^ (s.a &&& s.c) ^^^ (s.b &&& s.c))
  ⟨x + y, s.a, s.b, s.c, s.d + x, s.e, s.f, s.g⟩

/-- The steps of one block, added to the state before it. -/
def compress (s : State) (block : List UInt8) : State :=
  let last := (roots.zip (schedule block).toList).foldl (fun s pair => step s pair.1 pair.2) s
  ⟨s.a + last.a, s.b + last.b, s.c + last.c, s.d + last.d,
    s.e + last.e, s.f + last.f, s.g + last.g, s.h + last.h⟩

/-- The SHA-256 digest of a message. -/
def digest (message : List UInt8) : List UInt8 :=
  let s := absorb compress initial (padded (bigEndian 8) message)
  [s.a, s.b, s.c, s.d, s.e, s.f, s.g, s.h].flatMap fun w => bigEndian 4 w.toNat

end Sha256

/-! ## Keyed digests -/

/-- A keyed digest: the key as one block, mixed with each of two constants. -/
structure Hmac where
  inner : List UInt8
  outer : List UInt8

namespace Hmac

/-- A key as one block. One that is longer than a block is replaced by its digest, and a short one is
filled up with zeros. -/
def keyBlock (key : List UInt8) : List UInt8 :=
  let key := if key.length ≤ 64 then key else Sha256.digest key
  key ++ List.replicate (64 - key.length) 0

/-- The digest with a key. -/
def ofKey (key : List UInt8) : Hmac :=
  ⟨(keyBlock key).map (· ^^^ 0x36), (keyBlock key).map (· ^^^ 0x5c)⟩

/-- The digest with a key, if this has a length that can key it. Other keyed digests take keys of one
length only; this one takes keys of every length. -/
def ofKey? (key : List UInt8) : Option Hmac :=
  some (ofKey key)

/-- The keyed digest of a message. -/
def digest (mac : Hmac) (message : List UInt8) : List UInt8 :=
  Sha256.digest (mac.outer ++ Sha256.digest (mac.inner ++ message))

end Hmac

/-- HMAC-SHA256 of a message. -/
def hmac (key message : List UInt8) : List UInt8 :=
  (Hmac.ofKey key).digest message

end JobLog.Digest
