import TnsClient.Bytes

set_option autoImplicit false

/-!
# BINARY_DOUBLE and BINARY_FLOAT

Values of the two binary formats of IEEE 754, kept as their bit patterns. On the wire the pattern
is made sortable: the sign bit of a pattern without it is set, and a pattern that has it is
complemented, so that the unsigned order of the octets is the order of the values.

## Main definitions

* `TnsClient.Binary64`, `TnsClient.Binary32` — bit patterns of 64 and of 32 bits.
* `TnsClient.Binary64.encode`, `TnsClient.Binary64.decode?` — the sortable octets, and back;
  likewise for `TnsClient.Binary32`.
* `TnsClient.Binary32.widen` — the 64-bit pattern of the same value.
* `TnsClient.Binary64.nearest` — the pattern nearest to a positive rational, ties to even.
-/

namespace TnsClient

/-- A value of the 64-bit binary format, by its bit pattern. -/
structure Binary64 where
  /-- The pattern: sign, eleven bits of exponent, 52 bits of fraction. -/
  bits : UInt64
  deriving DecidableEq, Repr

/-- A value of the 32-bit binary format, by its bit pattern. -/
structure Binary32 where
  /-- The pattern: sign, eight bits of exponent, 23 bits of fraction. -/
  bits : UInt32
  deriving DecidableEq, Repr

/-! ## Sortable octets -/

namespace Binary64

/-- The bit of the sign. -/
def signBit : UInt64 := 0x8000000000000000

/-- The sortable octets of a value. -/
def encode (value : Binary64) : Bytes :=
  beBytes64 (if value.bits &&& signBit = 0 then value.bits ||| signBit else ~~~value.bits)

/-- The value of sortable octets, of which there must be eight. -/
def decode? (bytes : Bytes) : Option Binary64 :=
  if bytes.length = 8 then
    let word := UInt64.ofNat (beNat bytes)
    some ⟨if word &&& signBit = 0 then ~~~word else word ^^^ signBit⟩
  else none

/-- Whether the pattern is that of no number. -/
def isNaN (value : Binary64) : Bool :=
  0x7FF0000000000000 < value.bits &&& 0x7FFFFFFFFFFFFFFF

end Binary64

namespace Binary32

/-- The bit of the sign. -/
def signBit : UInt32 := 0x80000000

/-- The sortable octets of a value. -/
def encode (value : Binary32) : Bytes :=
  beBytes32 (if value.bits &&& signBit = 0 then value.bits ||| signBit else ~~~value.bits)

/-- The value of sortable octets, of which there must be four. -/
def decode? (bytes : Bytes) : Option Binary32 :=
  if bytes.length = 4 then
    let word := UInt32.ofNat (beNat bytes)
    some ⟨if word &&& signBit = 0 then ~~~word else word ^^^ signBit⟩
  else none

/-- Whether the pattern is that of no number. -/
def isNaN (value : Binary32) : Bool :=
  0x7F800000 < value.bits &&& 0x7FFFFFFF

end Binary32

/-! ## From 32 to 64 bits -/

/-- The 64-bit pattern of the magnitude that a 32-bit pattern without its sign denotes. A
subnormal fraction becomes a normal one, infinity stays infinity, and what is no number is made a
quiet one. -/
def widenMagnitude (magnitude : Nat) : Nat :=
  let exponent := magnitude >>> 23
  let fraction := magnitude % (1 <<< 23)
  if exponent = 255 then
    2047 <<< 52 + fraction <<< 29 + (if fraction ≠ 0 ∧ fraction < 1 <<< 22 then 1 <<< 51 else 0)
  else if exponent = 0 then
    if fraction = 0 then 0
    else
      let top := fraction.log2
      (top + 874) <<< 52 + (fraction - 1 <<< top) <<< (52 - top)
  else (exponent + 896) <<< 52 + fraction <<< 29

/-- The 64-bit pattern of the same value. -/
def Binary32.widen (value : Binary32) : Binary64 :=
  let pattern := value.bits.toNat
  ⟨UInt64.ofNat (pattern >>> 31 <<< 63 + widenMagnitude (pattern % (1 <<< 31)))⟩

/-! ## The nearest pattern -/

/-- The quotient rounded to the nearest integer, and to the even one of two that are as near. -/
def roundDiv (num den : Nat) : Nat :=
  let quotient := num / den
  let rest := num % den
  if den < 2 * rest ∨ (2 * rest = den ∧ quotient % 2 = 1) then quotient + 1 else quotient

/-- The greatest `k` with `2 ^ k ≤ num / den`, for positive `num` and `den`. -/
def log2Quotient (num den : Nat) : Int :=
  let estimate := (num.log2 : Int) - den.log2
  if den <<< estimate.toNat ≤ num <<< (-estimate).toNat then estimate else estimate - 1

/-- The pattern of the 64-bit value nearest to `num / den`, where `den` is positive; ties go to
the pattern that is even, and what lies beyond the greatest value is infinity. -/
def Binary64.nearest (num den : Nat) : Nat :=
  if num = 0 then 0
  else
    let unit := max (log2Quotient num den - 52) (-1074)
    let significand := roundDiv (num <<< (-unit).toNat) (den <<< unit.toNat)
    min ((unit + 1074).toNat <<< 52 + significand) (2047 <<< 52)

end TnsClient
