import TnsClient.Column.BinaryFloat
import TnsClient.Text.IntegerLiteral

set_option autoImplicit false

/-!
# Floating-point literals

Reads decimal text as the nearest value of the 64-bit binary format. A literal is a sign, which
may be left out, and then digits with at most one point among them and an exponent behind them, of
which only one digit has to be there; or one of the words `inf`, `infinity` and `nan` in letters
of either case.

## Main definitions

* `TnsClient.Text.FloatFault` — why a text is no literal.
* `TnsClient.Text.readBinary64` — the reader.
-/

namespace TnsClient.Text

/-- Why a text is not a floating-point literal. -/
inductive FloatFault where
  /-- There is no character at all. -/
  | empty
  /-- The characters do not make a literal. -/
  | invalid
  deriving DecidableEq, Repr

/-- The message for a fault. -/
def FloatFault.message : FloatFault → String
  | .empty => "cannot parse float from empty string"
  | .invalid => "invalid float literal"

/-- The digits at the front of a text, and what stands behind them. -/
def spanDigits (text : List Char) : List Char × List Char :=
  text.span Char.isDigit

/-- The number that digits spell. -/
def digitsValue (digits : List Char) : Nat :=
  digits.foldl (fun value c => 10 * value + (c.toNat - '0'.toNat)) 0

/-- The size of an exponent. Digits behind a value of 65536 or more are not counted, since no
value of the format is that far from one. -/
def exponentValue (digits : List Char) : Nat :=
  digits.foldl (fun e c => if e < 65536 then 10 * e + (c.toNat - '0'.toNat) else e) 0

/-- The exponent that stands at the end of a literal: none where the rest of the literal is not an
exponent, and zero where nothing is left. -/
def readExponent? : List Char → Option Int
  | [] => some 0
  | mark :: rest =>
    if mark == 'e' || mark == 'E' then
      let (negative, digits) :=
        match rest with
        | '-' :: digits => (true, digits)
        | '+' :: digits => (false, digits)
        | digits => (false, digits)
      if digits.isEmpty || !digits.all Char.isDigit then none
      else if negative then some (-(exponentValue digits : Int)) else some (exponentValue digits)
    else none

/-- The digits of an unsigned literal and the power of ten of the last one. -/
def readDecimal? (text : List Char) : Option (List Char × Int) := do
  let (whole, rest) := spanDigits text
  let (fraction, rest) :=
    match rest with
    | '.' :: rest => spanDigits rest
    | rest => ([], rest)
  if (whole ++ fraction).isEmpty then none
  let exponent ← readExponent? rest
  return (whole ++ fraction, exponent - fraction.length)

/-- The pattern nearest to `digits · 10^power`. Beyond `10^310` every value is infinite, and below
`10^-330` every value is zero, so the powers of ten that are formed stay small. -/
def nearestDecimal (digits : List Char) (power : Int) : Nat :=
  let significant := digits.dropWhile (· == '0')
  let magnitude := (significant.length : Int) + power
  if significant.isEmpty ∨ magnitude < -330 then 0
  else if 310 < magnitude then 2047 <<< 52
  else
    Binary64.nearest (digitsValue significant * Nat.pow 10 power.toNat)
      (Nat.pow 10 (-power).toNat)

/-- The pattern of one of the words that stand for values. -/
def wordPattern? (text : List Char) : Option Nat :=
  let word := String.ofList (text.map Char.toLower)
  if word = "inf" ∨ word = "infinity" then some (2047 <<< 52)
  else if word = "nan" then some (4095 <<< 51)
  else none

/-- Reads a literal as the nearest value. -/
def readBinary64 (text : List Char) : Except FloatFault Binary64 :=
  if text.isEmpty then .error .empty
  else
    let (negative, unsigned) :=
      match text with
      | '-' :: rest => (true, rest)
      | '+' :: rest => (false, rest)
      | rest => (false, rest)
    let magnitude? :=
      match readDecimal? unsigned with
      | some (digits, power) => some (nearestDecimal digits power)
      | none => wordPattern? unsigned
    match magnitude? with
    | some magnitude => .ok ⟨UInt64.ofNat ((if negative then 1 <<< 63 else 0) + magnitude)⟩
    | none => .error .invalid

end TnsClient.Text
