import TnsClient.Bytes

set_option autoImplicit false

/-!
# Keys derived from passwords

A keyed hash function after RFC 2104, and the derivation of keys from passwords after RFC 8018,
which applies the keyed function to a salt as many times over as it is told. Both are built upon
any hash function.

## Main definitions

* `TnsClient.HashFunction` — a hash function with the size of its blocks.
* `TnsClient.HashFunction.keyed` — the keyed hash function.
* `TnsClient.HashFunction.deriveKey` — the derivation of keys.
-/

namespace TnsClient

/-- The exclusive or of two byte strings, as long as the shorter one. -/
def xorBytes (a b : Bytes) : Bytes := List.zipWith (· ^^^ ·) a b

/-- A hash function. -/
structure HashFunction where
  /-- The octets of its blocks. -/
  blockSize : Nat
  /-- The digest of a message. -/
  hash : Bytes → Bytes

namespace HashFunction

/-- A key of the size of a block: a longer one is hashed first, and a shorter one is filled up with
zeros. -/
def blockKey (function : HashFunction) (key : Bytes) : Bytes :=
  let short := if function.blockSize < key.length then function.hash key else key
  short ++ List.replicate (function.blockSize - short.length) 0

/-- The keyed hash of a message. -/
def keyed (function : HashFunction) (key message : Bytes) : Bytes :=
  let key := function.blockKey key
  let inner := function.hash (key.map (· ^^^ 0x36) ++ message)
  function.hash (key.map (· ^^^ 0x5C) ++ inner)

/-- The exclusive or of `sum` with the results of applying `step` to `value` once, twice, and so on
up to `count` times. -/
def iterateXor (step : Bytes → Bytes) : (count : Nat) → (value sum : Bytes) → Bytes
  | 0, _, sum => sum
  | count + 1, value, sum =>
    let next := step value
    iterateXor step count next (xorBytes sum next)

/-- The block of a derived key with the given number, counted from 1. -/
def keyBlock (function : HashFunction) (password salt : Bytes) (iterations number : Nat) :
    Bytes :=
  let first := function.keyed password (salt ++ beBytes 4 number)
  iterateXor (function.keyed password) (iterations - 1) first first

/-- Blocks of a derived key from the given number on, until there are `length` octets. -/
def keyBlocks (function : HashFunction) (password salt : Bytes) (iterations : Nat) :
    (fuel number length : Nat) → Bytes
  | 0, _, _ => []
  | fuel + 1, number, length =>
    if length = 0 then []
    else
      let block := function.keyBlock password salt iterations number
      block.take length ++
        function.keyBlocks password salt iterations fuel (number + 1) (length - block.length)

/-- A key of `length` octets. Each block has at least one octet, so there are not more blocks than
octets. -/
def deriveKey (function : HashFunction) (password salt : Bytes) (iterations length : Nat) : Bytes :=
  function.keyBlocks password salt iterations length 1 length

end HashFunction

end TnsClient
