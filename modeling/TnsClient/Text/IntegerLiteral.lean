set_option autoImplicit false

/-!
# Integer literals within bounds

Reads decimal integers into a type of limited range. A literal is a sign, which may be left out,
and at least one ASCII digit. The digits are taken from the left, so of two faults the one that
shows first counts: a foreign character behind digits that are already out of range is not seen.

## Main definitions

* `TnsClient.Text.IntegerFault` — why a text is no integer of the range.
* `TnsClient.Text.readInteger` — the reader, given the least and the greatest value.
-/

namespace TnsClient.Text

/-- Why a text is not an integer within the bounds. -/
inductive IntegerFault where
  /-- There is no character at all. -/
  | empty
  /-- A character that is not a digit stands where a digit should. -/
  | invalidDigit
  /-- The value is above the greatest one. -/
  | tooLarge
  /-- The value is below the least one. -/
  | tooSmall
  deriving DecidableEq, Repr

/-- The message for a fault. -/
def IntegerFault.message : IntegerFault → String
  | .empty => "cannot parse integer from empty string"
  | .invalidDigit => "invalid digit found in string"
  | .tooLarge => "number too large to fit in target type"
  | .tooSmall => "number too small to fit in target type"

/-- The value of an ASCII digit. -/
def digit? (c : Char) : Option Nat :=
  if c.isDigit then some (c.toNat - '0'.toNat) else none

/-- Extends a value by digits, staying at or below `highest`. -/
def readUp (highest value : Int) : List Char → Except IntegerFault Int
  | [] => .ok value
  | c :: rest =>
    match digit? c with
    | none => .error .invalidDigit
    | some d =>
      if value * 10 + d > highest then .error .tooLarge else readUp highest (value * 10 + d) rest

/-- Extends a negative value by digits, staying at or above `lowest`. -/
def readDown (lowest value : Int) : List Char → Except IntegerFault Int
  | [] => .ok value
  | c :: rest =>
    match digit? c with
    | none => .error .invalidDigit
    | some d =>
      if value * 10 - d < lowest then .error .tooSmall else readDown lowest (value * 10 - d) rest

/-- Reads an integer from `lowest` to `highest`. A minus sign belongs to the literals only where
there are negative values. -/
def readInteger (lowest highest : Int) : List Char → Except IntegerFault Int
  | [] => .error .empty
  | '+' :: c :: rest => readUp highest 0 (c :: rest)
  | '-' :: c :: rest =>
    if lowest < 0 then readDown lowest 0 (c :: rest) else .error .invalidDigit
  | digits => readUp highest 0 digits

/-- Reads a 64-bit signed integer. -/
def readInt64 (text : List Char) : Except IntegerFault Int64 :=
  (readInteger (-0x8000000000000000) 0x7FFFFFFFFFFFFFFF text).map Int64.ofInt

/-- Reads a 32-bit signed integer. -/
def readInt32 (text : List Char) : Except IntegerFault Int :=
  readInteger (-0x80000000) 0x7FFFFFFF text

/-- Reads a 32-bit unsigned integer. -/
def readUInt32 (text : List Char) : Except IntegerFault UInt32 :=
  (readInteger 0 0xFFFFFFFF text).map fun value => UInt32.ofNat value.toNat

end TnsClient.Text
