import TnsClient.Bytes
import TnsClient.Text.Outline

set_option autoImplicit false

/-!
# DATE and TIMESTAMP

A point in time takes seven octets: century and year of the century, each in excess of 100, month,
day, and hour, minute and second, each in excess of one. A fraction in nanoseconds adds four
octets, and an offset from UTC two more, the hours in excess of 20 and the minutes in excess of 60.
The fields of a value with an offset are in UTC.

## Main definitions

* `TnsClient.Timestamp` — a calendar time with an optional offset.
* `TnsClient.Timestamp.fault?` — the first of its fields that is out of range.
* `TnsClient.Timestamp.encode`, `TnsClient.Timestamp.decode` — the octets, and back.
-/

namespace TnsClient

/-- An offset from UTC. -/
structure UtcOffset where
  /-- Hours. -/
  hours : Int8
  /-- Minutes on top of the hours, with a sign of their own. -/
  minutes : Int8
  deriving DecidableEq, Repr

/-- A calendar time. -/
structure Timestamp where
  /-- The year; there is a year zero. -/
  year : Int
  /-- The month, from 1. -/
  month : UInt8
  /-- The day of the month, from 1. -/
  day : UInt8
  /-- The hour. -/
  hour : UInt8
  /-- The minute. -/
  minute : UInt8
  /-- The second. -/
  second : UInt8
  /-- The fraction of the second, in nanoseconds. -/
  nanosecond : UInt32
  /-- The offset from UTC, if the value has one. -/
  offset : Option UtcOffset
  deriving DecidableEq, Repr

namespace Timestamp

/-! ## Faults -/

/-- A group of fields that are checked together. -/
inductive Part where
  | year
  | date
  | timeOfDay
  | fraction
  | offset
  deriving DecidableEq, Repr

/-- Why a value has no octets, or octets have no value. -/
inductive Fault where
  /-- A field of the value is out of range. -/
  | outOfRange (part : Part) (value : Timestamp)
  /-- No value takes that many octets. -/
  | length (octets : Nat)
  /-- The octets hold a month or a day that there is not. -/
  | noDate (month day : UInt8)
  /-- The octets hold a time of day that there is not. -/
  | noTimeOfDay
  /-- The octets name a region in the place of an offset. -/
  | namedRegion
  deriving DecidableEq, Repr

/-- The name of a group of fields. -/
def Part.name : Part → String
  | year => "year"
  | date => "date"
  | timeOfDay => "time of day"
  | fraction => "fraction"
  | offset => "offset"

/-- A value with all its fields on one line. -/
def shown (value : Timestamp) : String :=
  let offset := value.offset.map fun offset =>
    Text.outline "TimeZoneOffset"
      [("hours", toString offset.hours.toInt), ("minutes", toString offset.minutes.toInt)]
  Text.outline "Timestamp"
    [("year", toString value.year), ("month", toString value.month.toNat),
      ("day", toString value.day.toNat), ("hour", toString value.hour.toNat),
      ("minute", toString value.minute.toNat), ("second", toString value.second.toNat),
      ("nanosecond", toString value.nanosecond.toNat), ("offset", Text.optional offset)]

/-- The message for a fault. -/
def Fault.message : Fault → String
  | .outOfRange part value => s!"Invalid {part.name}: {value.shown}"
  | .length octets => s!"Invalid timestamp length {octets}"
  | .noDate month day => s!"Invalid date {month.toNat}-{day.toNat}"
  | .noTimeOfDay => "Invalid time of day"
  | .namedRegion => "Named time zone regions are not supported"

/-! ## Ranges -/

/-- The first group of fields that is out of range. The days of a month are not told apart. -/
def fault? (value : Timestamp) : Option Part :=
  if value.year < -4712 ∨ 9999 < value.year then some .year
  else if value.month < 1 ∨ 12 < value.month ∨ value.day < 1 ∨ 31 < value.day then some .date
  else if 23 < value.hour ∨ 59 < value.minute ∨ 59 < value.second then some .timeOfDay
  else if 999999999 < value.nanosecond then some .fraction
  else
    match value.offset with
    | none => none
    | some offset =>
      if offset.hours < -12 ∨ 14 < offset.hours ∨ offset.minutes < -59 ∨ 59 < offset.minutes then
        some .offset
      else none

/-! ## Octets -/

/-- The octets of a date alone. -/
def dateLength : Nat := 7

/-- The octets of a date with a fraction. -/
def fractionLength : Nat := 11

/-- The octets of a date with a fraction and an offset. -/
def offsetLength : Nat := 13

/-- The fewest octets that hold every part of the value. -/
def encodedLength (value : Timestamp) : Nat :=
  if value.offset.isSome then offsetLength
  else if value.nanosecond ≠ 0 then fractionLength
  else dateLength

/-- The octet that stands for a number, which has to lie between 0 and 255. -/
def octet (value : Int) : UInt8 := UInt8.ofNat value.toNat

/-- The octets of the fields of a date. -/
def dateOctets (value : Timestamp) : Bytes :=
  [octet (value.year / 100 + 100), octet (value.year % 100 + 100), value.month, value.day,
    value.hour + 1, value.minute + 1, value.second + 1]

/-- The octets of an offset. -/
def offsetOctets (offset : UtcOffset) : Bytes :=
  [octet (offset.hours.toInt + 20), octet (offset.minutes.toInt + 60)]

/-- The fewest octets of a value whose fields are in range. -/
def encode (value : Timestamp) : Except Fault Bytes :=
  match value.fault? with
  | some part => .error (.outOfRange part value)
  | none =>
    .ok (dateOctets value ++
      (if fractionLength ≤ value.encodedLength then beBytes32 value.nanosecond else []) ++
      (value.offset.map offsetOctets).getD [])

/-- The offset of two octets; there is none if either of them is zero. The top bit of the first
one says that they number a region instead. -/
def decodeOffset (hours minutes : UInt8) : Except Fault (Option UtcOffset) :=
  if hours &&& 0x80 ≠ 0 then .error .namedRegion
  else if hours ≠ 0 ∧ minutes ≠ 0 then
    .ok (some ⟨Int8.ofInt (hours.toNat - 20), Int8.ofInt (minutes.toNat - 60)⟩)
  else .ok none

/-- The value of octets, of which there may be 7 to 11 or 13. A fraction takes four octets, so
fewer than four behind the date are passed over. -/
def decode (bytes : Bytes) : Except Fault Timestamp :=
  match bytes with
  | century :: year :: month :: day :: hour :: minute :: second :: rest => do
    if 4 < rest.length ∧ rest.length ≠ 6 then
      throw (.length bytes.length)
    if month < 1 ∨ 12 < month ∨ day < 1 ∨ 31 < day then
      throw (.noDate month day)
    if hour < 1 ∨ 24 < hour ∨ minute < 1 ∨ 60 < minute ∨ second < 1 ∨ 60 < second then
      throw .noTimeOfDay
    let nanosecond := if rest.length < 4 then 0 else UInt32.ofNat (beNat (rest.take 4))
    let offset ←
      match rest.drop 4 with
      | [hours, minutes] => decodeOffset hours minutes
      | _ => pure none
    return {
      year := ((century.toNat : Int) - 100) * 100 + year.toNat - 100
      month, day
      hour := hour - 1
      minute := minute - 1
      second := second - 1
      nanosecond, offset }
  | _ => .error (.length bytes.length)

end Timestamp

end TnsClient
