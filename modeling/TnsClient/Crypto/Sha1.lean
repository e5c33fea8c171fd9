import TnsClient.Bytes

set_option autoImplicit false

/-!
# SHA-1

The hash function of FIPS 180-4 with a digest of 20 octets. The message is padded to blocks of 64
octets; each block is extended to a schedule of 80 words, which four times twenty rounds mix into
the chaining value.

## Main definitions

* `TnsClient.Sha1.hash` — the digest of a message.
-/

namespace TnsClient.Sha1

/-- The octets of a block. -/
def blockSize : Nat := 64

/-- The chaining value: five words. -/
structure State where
  a : UInt32
  b : UInt32
  c : UInt32
  d : UInt32
  e : UInt32

/-- The chaining value in front of the first block. -/
def State.initial : State :=
  ⟨0x67452301, 0xefcdab89, 0x98badcfe, 0x10325476, 0xc3d2e1f0⟩

/-- A word turned to the left. -/
def rotate (word : UInt32) (bits : UInt32) : UInt32 :=
  (word <<< bits) ||| (word >>> (32 - bits))

/-- Extends a schedule by a number of words. -/
def extend : (count : Nat) → Array UInt32 → Array UInt32
  | 0, words => words
  | count + 1, words =>
    let back (places : Nat) := words.getD (words.size - places) 0
    extend count (words.push (rotate (back 3 ^^^ back 8 ^^^ back 14 ^^^ back 16) 1))

/-- The word of four octets, most significant first. -/
def wordOf (octets : Bytes) : UInt32 :=
  octets.foldl (fun word octet => (word <<< 8) ||| octet.toUInt32) 0

/-- The schedule of a block. -/
def schedule (block : Bytes) : Array UInt32 :=
  extend 64 ((pieces 4 block).map wordOf).toArray

/-- The mixing function of a round, and the word added in it. -/
def mixing (index : Nat) (s : State) : UInt32 × UInt32 :=
  if index < 20 then ((s.b &&& s.c) ||| (~~~s.b &&& s.d), 0x5a827999)
  else if index < 40 then (s.b ^^^ s.c ^^^ s.d, 0x6ed9eba1)
  else if index < 60 then
    ((s.b &&& s.c) ||| (s.b &&& s.d) ||| (s.c &&& s.d), 0x8f1bbcdc)
  else (s.b ^^^ s.c ^^^ s.d, 0xca62c1d6)

/-- One round with the schedule word of its index. -/
def round (s : State) (index : Nat) (word : UInt32) : State :=
  let (mixed, added) := mixing index s
  ⟨rotate s.a 5 + mixed + s.e + added + word, s.a, rotate s.b 30, s.c, s.d⟩

/-- The word by word sum of two chaining values. -/
def State.add (s t : State) : State :=
  ⟨s.a + t.a, s.b + t.b, s.c + t.c, s.d + t.d, s.e + t.e⟩

/-- Mixes a block into the chaining value. -/
def compress (s : State) (block : Bytes) : State :=
  s.add ((schedule block).zipIdx.foldl (fun t (word, index) => round t index word) s)

/-- A message padded to whole blocks: a one bit, zeros, and the number of bits in 8 octets. -/
def pad (message : Bytes) : Bytes :=
  let zeros := (2 * blockSize - 9 - message.length % blockSize) % blockSize
  message ++ 0x80 :: List.replicate zeros 0 ++ beBytes 8 (8 * message.length)

/-- The octets of a chaining value. -/
def State.octets (s : State) : Bytes :=
  [s.a, s.b, s.c, s.d, s.e].flatMap beBytes32

/-- The digest of a message. -/
def hash (message : Bytes) : Bytes :=
  ((pieces blockSize (pad message)).foldl compress State.initial).octets

end TnsClient.Sha1
