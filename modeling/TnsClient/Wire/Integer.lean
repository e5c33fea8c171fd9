import TnsClient.Wire.Decode

set_option autoImplicit false

/-!
# Integers of variable length

An integer is written as the number of its octets and then those octets, most significant first.
The writer uses the fewest of 0, 1, 2, 4 and 8 octets. The reader is told the width of the type it
reads, and allows any number of octets up to four that fits that width, and eight for the widest.
The top bit of the first octet is not part of the number of octets: in a signed integer it is the
sign.

## Main definitions

* `TnsClient.Width` — the widths of integer types.
* `TnsClient.Decode.ub2`, `TnsClient.Decode.ub4`, `TnsClient.Decode.ub8` — unsigned integers.
* `TnsClient.Decode.sb2`, `TnsClient.Decode.sb4`, `TnsClient.Decode.sb8` — signed integers.
* `TnsClient.Encode.uint` — an unsigned integer in the fewest octets.
-/

namespace TnsClient

/-- The widths that integer types have on the wire. -/
inductive Width where
  | two
  | four
  | eight
  deriving DecidableEq, Repr

/-- The octets of a width. -/
def Width.octets : Width → Nat
  | two => 2
  | four => 4
  | eight => 8

/-- The numbers of octets that an unsigned integer of a width may say it has. -/
def Width.allows : Width → Nat → Bool
  | two, length => length ≤ 2
  | four, length => length ≤ 4
  | eight, length => length ≤ 4 || length == 8

namespace Decode

/-- The number of octets that an integer says it has. -/
def integerLength : Decode UInt8 := do
  return (← u8) &&& 0x7F

/-- The octets of an integer that says it has `length` of them, if that is allowed. -/
def magnitude (width : Width) (allowed : Bool) (length : Nat) : Decode Nat := do
  if allowed then
    return beNat (← take length)
  else
    fail (.corruptLength length width.octets)

/-- An unsigned integer of a width. -/
def unsigned (width : Width) : Decode Nat := do
  let length := (← integerLength).toNat
  magnitude width (width.allows length) length

/-- An unsigned integer of 16 bits. -/
def ub2 : Decode UInt16 := do
  return UInt16.ofNat (← unsigned .two)

/-- An unsigned integer of 32 bits. -/
def ub4 : Decode UInt32 := do
  return UInt32.ofNat (← unsigned .four)

/-- An unsigned integer of 64 bits. -/
def ub8 : Decode UInt64 := do
  return UInt64.ofNat (← unsigned .eight)

/-- Passes over an unsigned integer of 16 bits. -/
def skipUb2 : Decode Unit := do
  let _ ← ub2

/-- Passes over an unsigned integer of 32 bits. -/
def skipUb4 : Decode Unit := do
  let _ ← ub4

/-- Passes over an unsigned integer of 64 bits. -/
def skipUb8 : Decode Unit := do
  let _ ← ub8

/-- A signed integer of a width, whose magnitude is below `2 ^ 63`. -/
def signed (width : Width) : Decode Int := do
  let head ← u8
  let length := (head &&& 0x7F).toNat
  let value ← magnitude width (length ≤ width.octets) length
  if value < 0x8000000000000000 then
    return if head &&& 0x80 ≠ 0 then -(value : Int) else value
  else
    fail (.corruptLength length width.octets)

/-- A signed integer of 16 bits: the low-order bits of what the octets denote. -/
def sb2 : Decode Int16 := do
  return Int16.ofInt (← signed .two)

/-- A signed integer of 32 bits: the low-order bits of what the octets denote. -/
def sb4 : Decode Int32 := do
  return Int32.ofInt (← signed .four)

/-- A signed integer of 64 bits. -/
def sb8 : Decode Int64 := do
  return Int64.ofInt (← signed .eight)

end Decode

namespace Encode

/-- An unsigned integer in the fewest octets. -/
def uint (value : UInt64) : Bytes :=
  let n := value.toNat
  if n = 0 then [0]
  else if n < UInt8.size then 1 :: beBytes 1 n
  else if n < UInt16.size then 2 :: beBytes 2 n
  else if n < UInt32.size then 4 :: beBytes 4 n
  else 8 :: beBytes 8 n

/-- A 16-bit unsigned integer. -/
def ub2 (value : UInt16) : Bytes := uint value.toUInt64

/-- A 32-bit unsigned integer. -/
def ub4 (value : UInt32) : Bytes := uint value.toUInt64

/-- A 64-bit unsigned integer. -/
def ub8 (value : UInt64) : Bytes := uint value

/-- The 32-bit integer of a number of things, cut down to as many as 32 bits hold. -/
def count (number : Nat) : Bytes := ub4 (UInt32.ofNat number)

end Encode

end TnsClient
