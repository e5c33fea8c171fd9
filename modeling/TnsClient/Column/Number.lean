import TnsClient.Bytes
import TnsClient.Text.IntegerLiteral

set_option autoImplicit false

/-!
# NUMBER

The server's decimal numbers. A value is written `± 0.d₁d₂… · 100^e` with base-100 digits, as one
octet for sign and exponent and one octet a digit. Non-negative values have the top bit of the
first octet set, then `e` in excess of 64, and each digit in excess of 1. Negative values have the
first octet complemented and each digit taken from 101, and end in the octet 102 unless they have
the greatest number of digits; so the order of the octets is the order of the values. Zero is the
single octet `0x80`.

A client carries such a value as decimal text, since no binary format holds all of them. All that is
computed on the way to the octets is computed in 32 bits, or in eight where it is one digit or one
octet; where a number would leave its bits, there is no encoding. Only the count of the zeros in
front of the digits is cut down to 32 bits without a check. These zeros are passed over in the text
and only counted, since there may be as many of them as a text has room for.

## Main definitions

* `TnsClient.Number.Decimal` — a decimal number taken apart: sign, digits, and where the point is;
  `TnsClient.Number.Decimal.render` is its text.
* `TnsClient.Number.Padded` — the same with zeros in front of the digits;
  `TnsClient.Number.Padded.parse` takes a text apart.
* `TnsClient.Number.encode` — the octets of decimal text, with or without an exponent.
* `TnsClient.Number.decode` — plain decimal text of the octets.
* `TnsClient.Numeric` — a value carried as text.
-/

namespace TnsClient

namespace Number

/-- Why a text has no encoding, or why octets are no NUMBER. -/
inductive Fault where
  /-- The text is not a decimal number. -/
  | notANumber (text : String)
  /-- The value is too large, or too close to zero. -/
  | outOfRange (text : String)
  /-- A number on the way to the octets does not fit the bits that it is computed in. -/
  | overflow (text : String)
  /-- The value needs more base-100 digits than there are. -/
  | tooManyDigits (text : String)
  /-- There are no octets. -/
  | empty
  /-- An octet that stands for no base-100 digit. -/
  | invalidDigit (byte : UInt8)
  deriving DecidableEq, Repr

/-- The message for a fault. -/
def Fault.message : Fault → String
  | .notANumber text => s!"Invalid number: {text}"
  | .outOfRange text => s!"Number out of range: {text}"
  | .overflow text => s!"Arithmetic overflow: {text}"
  | .tooManyDigits text => s!"Number exceeds 40 significant digits: {text}"
  | .empty => "Empty NUMBER"
  | .invalidDigit byte => s!"Invalid NUMBER digit byte {byte.toNat}"

/-- The greatest number of base-100 digits. -/
def maxPairs : Nat := 20

/-- The octet behind the digits of a negative value that has fewer than `maxPairs` of them. -/
def terminator : UInt8 := 102

/-! ## Decimal text -/

/-- Decimal text taken apart. The value is `± 0.d₁d₂… · 10^point`. -/
structure Decimal where
  /-- Whether a minus sign stands in front. -/
  negative : Bool
  /-- The decimal digits, most significant first. -/
  digits : List Nat
  /-- How many places the decimal point stands behind the front of the digits. -/
  point : Int
  deriving DecidableEq, Repr

/-- Decimal text taken apart, with zeros in front of the digits that are only counted. The point is
counted from the front of these zeros. -/
structure Padded extends Decimal where
  /-- The number of zeros in front of the digits. -/
  zeros : Nat
  deriving DecidableEq, Repr

/-! ### The front of a text -/

section

variable {text : String}

/-- The characters from a position on. -/
def charsFrom (start : text.Pos) : List Char := (text.sliceFrom start).copy.toList

/-- The position behind a character, if this stands at a position. -/
def passChar? (c : Char) (start : text.Pos) : Option text.Pos :=
  if h : start = text.endPos then none
  else if start.get h = c then some (start.next h) else none

/-- The position behind the zeros that stand at a position. -/
def passZeros (start : text.Pos) : text.Pos :=
  if h : start = text.endPos then start
  else if start.get h = '0' then passZeros (start.next h) else start
termination_by start

/-- The number of octets between two positions. -/
def octetsBetween (start stop : text.Pos) : Nat := stop.offset.byteIdx - start.offset.byteIdx

end

/-- Whether a minus sign stands in front of a text, and the position behind its sign. -/
def passSign (text : String) : Bool × text.Pos :=
  match passChar? '-' text.startPos with
  | some behind => (true, behind)
  | none => (false, (passChar? '+' text.startPos).getD text.startPos)

/-- A text without its sign and without the zeros in front of its digits. -/
structure Unpadded where
  /-- Whether a minus sign stood in front. -/
  negative : Bool
  /-- The number of zeros that stood in front of the rest. -/
  wholeZeros : Nat
  /-- The number of zeros that stood behind a point with which the rest begins. -/
  fractionZeros : Nat
  /-- The rest. -/
  rest : List Char

/-- Takes the sign off a text, and the zeros in front of its digits, be they in front of the point
or behind it. -/
def unpad (text : String) : Unpadded :=
  let (negative, start) := passSign text
  let rest := passZeros start
  match passChar? '.' rest with
  | none => ⟨negative, octetsBetween start rest, 0, charsFrom rest⟩
  | some behind =>
    let digits := passZeros behind
    ⟨negative, octetsBetween start rest, octetsBetween behind digits, '.' :: charsFrom digits⟩

/-! ### The rest of it -/

/-- The characters in front of the first one that satisfies `p`, and, if there is one, those
behind it. -/
def splitAt? (p : Char → Bool) (text : List Char) : List Char × Option (List Char) :=
  match text.span (fun c => !p c) with
  | (before, []) => (before, none)
  | (before, _ :: behind) => (before, some behind)

/-- Whether a number fits 32 bits, sign included. -/
def fits32 (value : Int) : Bool := decide (-0x80000000 ≤ value ∧ value ≤ 0x7FFFFFFF)

/-- A number that is computed in 32 bits. -/
def int32 (text : String) (value : Int) : Except Fault Int :=
  if fits32 value then .ok value else .error (.overflow text)

/-- A count that is cut down to 32 bits, the first of which is the sign then. -/
def wrap32 (count : Nat) : Int := (Int32.ofNat count).toInt

/-- A number that is computed in one octet. -/
def octet (text : String) (value : Int) : Except Fault UInt8 :=
  if 0 ≤ value ∧ value ≤ 0xFF then .ok (UInt8.ofNat value.toNat) else .error (.overflow text)

/-- The characters that introduce an exponent. -/
def isExponentMark (c : Char) : Bool := c == 'e' || c == 'E'

/-- The digit that a character stands for. -/
def digitOf (text : String) (c : Char) : Except Fault UInt8 :=
  octet text ((c.toNat : Int) - '0'.toNat)

/-- The integer that stands behind the mark of an exponent, zero if there is no mark. -/
def readExponent (text : String) : Option (List Char) → Except Fault Int
  | none => .ok 0
  | some digits => (Text.readInt32 digits).mapError fun _ => .notANumber text

/-- Puts together the digits in front of the point and behind it. The zeros that were taken off
count as digits. -/
def Padded.assemble (text : String) (front : Unpadded) (whole fraction : List Char)
    (exponent : Int) : Except Fault Padded := do
  let characters := whole ++ fraction
  let passed := front.wholeZeros + front.fractionZeros
  if (passed == 0 && characters.isEmpty) || !characters.all Char.isDigit then
    throw (.notANumber text)
  let digits := (← characters.mapM (digitOf text)).map UInt8.toNat
  let places : Nat := front.wholeZeros + whole.length
  if !(fits32 places && fits32 (places + exponent)) then
    throw (.outOfRange text)
  return {
    negative := front.negative
    digits := digits.dropWhile (· == 0)
    point := places + exponent
    zeros := passed + (digits.takeWhile (· == 0)).length }

/-- Takes decimal text apart: a sign, digits with at most one point among them, and an exponent,
of which only the digits have to be there. -/
def Padded.parse (text : String) : Except Fault Padded := do
  let front := unpad text
  let (mantissa, tail) := splitAt? isExponentMark front.rest
  let exponent ← readExponent text tail
  let (whole, fraction) := splitAt? (· == '.') mantissa
  assemble text front whole (fraction.getD []) exponent

/-- Takes off the zeros in front of the digits, moving the point along, and those behind. However
many zeros there are in front, the point is moved by as many as 32 bits hold. -/
def Padded.trim (text : String) (padded : Padded) : Except Fault Decimal := do
  let point ← int32 text (padded.point - wrap32 padded.zeros)
  return { padded.toDecimal with
    digits := (padded.digits.reverse.dropWhile (· == 0)).reverse
    point }

/-- Puts a zero in front of the digits where the point would split a base-100 digit, and one
behind them where the last base-100 digit would be half. -/
def Decimal.align (text : String) (d : Decimal) : Except Fault Decimal := do
  let (digits, point) ←
    if d.point % 2 = 1 then pure (0 :: d.digits, ← int32 text (d.point + 1))
    else pure (d.digits, d.point)
  return { d with
    digits := if digits.length % 2 = 1 then digits ++ [0] else digits
    point }

/-! ## Writing -/

/-- The octets of base-100 digits, each of which two decimal digits make. -/
def pairOctets (text : String) (negative : Bool) : List Nat → Except Fault Bytes
  | high :: low :: rest => do
    let tens ← octet text (10 * high)
    let pair ← octet text (tens.toNat + low)
    let digit ← octet text (if negative then 101 - pair.toNat else pair.toNat + 1)
    return digit :: (← pairOctets text negative rest)
  | _ => return []

/-- The octets of a value, from its exponent and its decimal digits. -/
def layOut (text : String) (negative : Bool) (exponent : Int) (digits : List Nat) :
    Except Fault Bytes := do
  let head ← octet text (192 + exponent)
  let pairs ← pairOctets text negative digits
  let ending := if negative ∧ pairs.length < maxPairs then [terminator] else []
  return (if negative then ~~~head else head) :: pairs ++ ending

/-- The octets of decimal text that was taken apart. -/
def Padded.octets (text : String) (padded : Padded) : Except Fault Bytes := do
  let trimmed ← padded.trim text
  if trimmed.digits.isEmpty then
    return [0x80]
  let aligned ← trimmed.align text
  if aligned.digits.length / 2 > maxPairs then
    throw (.tooManyDigits text)
  let exponent ← int32 text (aligned.point / 2)
  if exponent < -63 ∨ 63 < exponent then
    throw (.outOfRange text)
  layOut text aligned.negative exponent aligned.digits

/-- The octets of decimal text. -/
def encode (text : String) : Except Fault Bytes := do
  (← Padded.parse text).octets text

/-! ## Reading -/

/-- The base-100 digit of an octet. -/
def pairOf (positive : Bool) (byte : UInt8) : Except Fault Nat :=
  let value := if positive then byte - 1 else 101 - byte
  if value > 99 then .error (.invalidDigit byte) else .ok value.toNat

/-- The decimal digits of base-100 digits, two for each. -/
def halves (pairs : List Nat) : List Nat := pairs.flatMap fun pair => [pair / 10, pair % 10]

/-- Takes one zero off the front of the digits, moving the point along, and one off their end. -/
def Decimal.shorten (d : Decimal) : Decimal :=
  let (digits, point) :=
    match d.digits with
    | 0 :: rest => (rest, d.point - 1)
    | digits => (digits, d.point)
  { d with
    digits := if digits.getLast? = some 0 then digits.dropLast else digits
    point }

/-- The character of a decimal digit. -/
def digitChar (digit : Nat) : Char := Char.ofNat ('0'.toNat + digit)

/-- Plain decimal text of the value `0.d₁d₂… · 10^point`. -/
def plain (digits : List Nat) (point : Int) : List Char :=
  let text := digits.map digitChar
  if point ≤ 0 then '0' :: '.' :: List.replicate (-point).toNat '0' ++ text
  else if point.toNat ≥ text.length then text ++ List.replicate (point.toNat - text.length) '0'
  else text.take point.toNat ++ '.' :: text.drop point.toNat

/-- Plain decimal text of a value. -/
def Decimal.render (d : Decimal) : String :=
  String.ofList ((if d.negative then ['-'] else []) ++ plain d.digits d.point)

/-- The digits of a negative value without the octet that may end them. -/
def dropTerminator (mantissa : Bytes) : Bytes :=
  if mantissa.getLast? = some terminator then mantissa.dropLast else mantissa

/-- Plain decimal text of octets. A first octet without digits stands for zero, or, where it says
that the value is negative, for the least value there is. -/
def decode : Bytes → Except Fault String
  | [] => .error .empty
  | first :: mantissa =>
    let positive := first &&& 0x80 != 0
    let head := if positive then first else ~~~first
    if mantissa.isEmpty then
      .ok (if positive then "0" else "-1e126")
    else do
      let pairs ← (if positive then mantissa else dropTerminator mantissa).mapM (pairOf positive)
      return Decimal.render (Decimal.shorten
        { negative := !positive, digits := halves pairs, point := 2 * ((head.toNat : Int) - 192) })

end Number

/-- A NUMBER carried as decimal text. -/
structure Numeric where
  /-- The text. -/
  text : String
  deriving DecidableEq, Repr

end TnsClient
