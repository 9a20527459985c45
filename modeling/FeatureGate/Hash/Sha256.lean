/-!
# SHA-256

The digest behind the buckets. A bucket must be the same in every process and
on every machine, so it is taken from a hash that is fixed by a standard
(FIPS 180-4) rather than from whatever hash a platform offers.

Of the eight words of a digest the library uses the first alone, but the whole
digest is computed here. The message schedule is a window of sixteen words that
moves along with the rounds: each round reads its head and appends one word.
-/

namespace FeatureGate.Sha256

/-- Rotate a word to the right. -/
def rotateRight (x : UInt32) (n : UInt32) : UInt32 :=
  (x >>> n) ||| (x <<< (32 - n))

/-- The round constants: the first thirty-two bits of the fractional parts of
the cube roots of the first sixty-four primes. -/
def roundConstants : List UInt32 := [
  0x428a2f98, 0x71374491, 0xb5c0fbcf, 0xe9b5dba5, 0x3956c25b, 0x59f111f1,
  0x923f82a4, 0xab1c5ed5, 0xd807aa98, 0x12835b01, 0x243185be, 0x550c7dc3,
  0x72be5d74, 0x80deb1fe, 0x9bdc06a7, 0xc19bf174, 0xe49b69c1, 0xefbe4786,
  0x0fc19dc6, 0x240ca1cc, 0x2de92c6f, 0x4a7484aa, 0x5cb0a9dc, 0x76f988da,
  0x983e5152, 0xa831c66d, 0xb00327c8, 0xbf597fc7, 0xc6e00bf3, 0xd5a79147,
  0x06ca6351, 0x14292967, 0x27b70a85, 0x2e1b2138, 0x4d2c6dfc, 0x53380d13,
  0x650a7354, 0x766a0abb, 0x81c2c92e, 0x92722c85, 0xa2bfe8a1, 0xa81a664b,
  0xc24b8b70, 0xc76c51a3, 0xd192e819, 0xd6990624, 0xf40e3585, 0x106aa070,
  0x19a4c116, 0x1e376c08, 0x2748774c, 0x34b0bcb5, 0x391c0cb3, 0x4ed8aa4a,
  0x5b9cca4f, 0x682e6ff3, 0x748f82ee, 0x78a5636f, 0x84c87814, 0x8cc70208,
  0x90befffa, 0xa4506ceb, 0xbef9a3f7, 0xc67178f2]

/-- The eight words that are hashed along. -/
structure Digest where
  (a b c d e f g h : UInt32)
deriving Repr, DecidableEq

/-- The words a digest starts from: the first thirty-two bits of the fractional
parts of the square roots of the first eight primes. -/
def Digest.initial : Digest :=
  ⟨0x6a09e667, 0xbb67ae85, 0x3c6ef372, 0xa54ff53a,
    0x510e527f, 0x9b05688c, 0x1f83d9ab, 0x5be0cd19⟩

/-- Word-wise sum of two digests. -/
def Digest.add (x y : Digest) : Digest :=
  ⟨x.a + y.a, x.b + y.b, x.c + y.c, x.d + y.d,
    x.e + y.e, x.f + y.f, x.g + y.g, x.h + y.h⟩

/-- One round with a round constant and a word of the schedule. -/
def Digest.round (s : Digest) (constant word : UInt32) : Digest :=
  let mixE := rotateRight s.e 6 ^^^ rotateRight s.e 11 ^^^ rotateRight s.e 25
  let choice := (s.e &&& s.f) ^^^ (~~~s.e &&& s.g)
  let t := s.h + mixE + choice + constant + word
  let mixA := rotateRight s.a 2 ^^^ rotateRight s.a 13 ^^^ rotateRight s.a 22
  let majority := (s.a &&& s.b) ^^^ (s.a &&& s.c) ^^^ (s.b &&& s.c)
  ⟨t + (mixA + majority), s.a, s.b, s.c, s.d + t, s.e, s.f, s.g⟩

/-- The word the schedule goes on with after a window of sixteen words. -/
def nextWord (window : List UInt32) : UInt32 :=
  let word (i : Nat) : UInt32 := window.getD i 0
  let early := rotateRight (word 1) 7 ^^^ rotateRight (word 1) 18 ^^^ (word 1 >>> 3)
  let late := rotateRight (word 14) 17 ^^^ rotateRight (word 14) 19 ^^^ (word 14 >>> 10)
  late + word 9 + early + word 0

/-- Hash one block of sixteen words into a digest. -/
def compress (digest : Digest) (block : List UInt32) : Digest :=
  let step (state : Digest × List UInt32) (constant : UInt32) :=
    let (s, window) := state
    (s.round constant (window.getD 0 0), window.tail ++ [nextWord window])
  digest.add (roundConstants.foldl step (digest, block)).1

/-- The big-endian words of a row of bytes, whose length is a multiple of
four. -/
def words : List UInt8 → List UInt32
  | a :: b :: c :: d :: rest =>
    ((a.toUInt32 <<< 24) ||| (b.toUInt32 <<< 16) ||| (c.toUInt32 <<< 8)
      ||| d.toUInt32) :: words rest
  | _ => []

/-- The length of a message in bits as eight big-endian bytes. -/
def lengthBytes (bits : Nat) : List UInt8 :=
  (List.range 8).map fun i => UInt8.ofNat (bits >>> (8 * (7 - i)))

/-- A message with its padding: a one bit, zeros, and the length. -/
def pad (message : List UInt8) : List UInt8 :=
  let zeros := (64 - (message.length + 9) % 64) % 64
  message ++ 0x80 :: List.replicate zeros 0 ++ lengthBytes (8 * message.length)

/-- Cut a row of words into blocks of sixteen. -/
def blocks (ws : List UInt32) : List (List UInt32) :=
  if _short : ws.length < 16 then []
  else ws.take 16 :: blocks (ws.drop 16)
termination_by ws.length
decreasing_by simp only [List.length_drop]; omega

/-- **The digest of a message.** -/
def digest (message : List UInt8) : Digest :=
  (blocks (words (pad message))).foldl compress .initial

end FeatureGate.Sha256
