set_option autoImplicit false

/-!
# Byte strings

Whatever travels between client and server is a list of octets. This module names that type and
gives the two ways numbers of a fixed width are laid out in it, and hexadecimal text.

## Main definitions

* `TnsClient.Bytes` — a list of octets.
* `TnsClient.beBytes`, `TnsClient.beNat` — a number in a given width, most significant octet first.
* `TnsClient.leNat` — the number whose least significant octet comes first.
* `TnsClient.Hex.upper`, `TnsClient.Hex.lower`, `TnsClient.Hex.decode?` — hexadecimal text.

## Main results

* `TnsClient.length_beBytes` — a number takes exactly the width it is given.
* `TnsClient.beNat_beBytes` — a number that fits its width is read back.
-/

namespace TnsClient

/-- A byte string. -/
abbrev Bytes := List UInt8

/-! ## Numbers of a fixed width -/

/-- The number that a byte string denotes, most significant octet first. -/
def beNat (bytes : Bytes) : Nat :=
  bytes.foldl (fun value byte => 256 * value + byte.toNat) 0

/-- The number that a byte string denotes, least significant octet first. -/
def leNat (bytes : Bytes) : Nat :=
  beNat bytes.reverse

/-- The `width` low-order octets of `value`, most significant first. -/
def beBytes : (width value : Nat) → Bytes
  | 0, _ => []
  | width + 1, value => UInt8.ofNat (value >>> (8 * width)) :: beBytes width value

/-- The two octets of a 16-bit word, most significant first. -/
def beBytes16 (word : UInt16) : Bytes :=
  beBytes 2 word.toNat

/-- The four octets of a 32-bit word, most significant first. -/
def beBytes32 (word : UInt32) : Bytes :=
  beBytes 4 word.toNat

/-- The eight octets of a 64-bit word, most significant first. -/
def beBytes64 (word : UInt64) : Bytes :=
  beBytes 8 word.toNat

@[simp] theorem length_beBytes (width value : Nat) : (beBytes width value).length = width := by
  induction width with
  | zero => rfl
  | succ width ih => simp [beBytes, ih]

/-- Folding from a starting value shifts that value by the width of what follows. -/
theorem foldl_beBytes (width value start : Nat) :
    (beBytes width value).foldl (fun v byte => 256 * v + byte.toNat) start
      = start <<< (8 * width) + value % (1 <<< (8 * width)) := by
  induction width generalizing start with
  | zero => simp [beBytes, Nat.mod_one]
  | succ width ih =>
    simp only [beBytes, List.foldl_cons, ih, UInt8.toNat_ofNat', Nat.shiftLeft_eq,
      Nat.shiftRight_eq_div_pow, Nat.one_mul]
    have hpow : 2 ^ (8 * (width + 1)) = 2 ^ (8 * width) * 256 := by
      rw [Nat.mul_succ, Nat.pow_add]
    have hmod : value % (2 ^ (8 * width) * 256)
        = 2 ^ (8 * width) * (value / 2 ^ (8 * width) % 256) + value % 2 ^ (8 * width) := by
      rw [Nat.mod_mul, Nat.add_comm]
    rw [hpow, hmod]
    grind

/-- **Fixed-width round trip.** A number that fits the width is read back from its octets. -/
theorem beNat_beBytes {width value : Nat} (h : value < 1 <<< (8 * width)) :
    beNat (beBytes width value) = value := by
  simp [beNat, foldl_beBytes, Nat.mod_eq_of_lt h]

/-! ## Pieces -/

/-- Cuts a list into pieces of `size` elements (of one element where `size` is zero); the last
piece may be shorter, and the empty list has no pieces. -/
def pieces {α : Type} (size : Nat) : List α → List (List α)
  | [] => []
  | first :: rest =>
    (first :: rest.take (size - 1)) :: pieces size (rest.drop (size - 1))
termination_by list => list.length
decreasing_by simp only [List.length_drop, List.length_cons]; omega

/-! ## Hexadecimal text -/

namespace Hex

/-- The character of a hexadecimal digit, with `ten` standing for the letter of digit ten. -/
def digit (ten : Char) (value : Nat) : Char :=
  if value < 10 then Char.ofNat ('0'.toNat + value) else Char.ofNat (ten.toNat + (value - 10))

/-- Hexadecimal text of a byte string, two digits an octet, in the case of the letter `ten`. -/
def encode (ten : Char) (bytes : Bytes) : String :=
  String.ofList (bytes.flatMap fun byte =>
    [digit ten (byte.toNat / 16), digit ten (byte.toNat % 16)])

/-- Hexadecimal text in capital letters. -/
def upper (bytes : Bytes) : String := encode 'A' bytes

/-- Hexadecimal text in small letters. -/
def lower (bytes : Bytes) : String := encode 'a' bytes

/-- The value of a hexadecimal digit of either case. -/
def value? (c : Char) : Option Nat :=
  if '0' ≤ c ∧ c ≤ '9' then some (c.toNat - '0'.toNat)
  else if 'a' ≤ c ∧ c ≤ 'f' then some (c.toNat - 'a'.toNat + 10)
  else if 'A' ≤ c ∧ c ≤ 'F' then some (c.toNat - 'A'.toNat + 10)
  else none

/-- The octets that a list of digits spells, two digits each; none if a digit is left over. -/
def octets? : List Char → Option Bytes
  | [] => some []
  | [_] => none
  | high :: low :: rest => do
    let h ← value? high
    let l ← value? low
    let bytes ← octets? rest
    return UInt8.ofNat (16 * h + l) :: bytes

/-- Reads hexadecimal text of either case. -/
def decode? (text : String) : Option Bytes := octets? text.toList

end Hex

end TnsClient
