import TnsClient.Column.BinaryFloat
import TnsClient.Column.DataType
import TnsClient.Column.Number
import TnsClient.Column.Timestamp
import TnsClient.Text.FloatLiteral
import TnsClient.Text.Utf8

set_option autoImplicit false

/-!
# Column values and the values of programs

A column arrives as octets tagged with their data type. A type of values that can be read from
such octets is an instance of `TnsClient.FromColumn`, and one that can be sent as a bind parameter
is an instance of `TnsClient.ToColumn`.

Text is read from character types and, as decimal text, from numbers; floating-point values and
integers are read from numbers by way of that text; plain octets are read from everything.

## Main definitions

* `TnsClient.ConversionError` — why a column has no value of the type asked for.
* `TnsClient.FromColumn`, `TnsClient.ToColumn` — the two directions.
-/

namespace TnsClient

/-! ## Errors -/

/-- Why a column value has no value of the type that is asked for, or a value no octets. -/
inductive ConversionError where
  /-- The column is of a data type that the type asked for is not read from. -/
  | unexpectedType (expected : String) (got : DataType)
  /-- The octets are not UTF-8. -/
  | notText (fault : Utf8.Fault)
  /-- The text is no NUMBER, or the octets are none. -/
  | number (fault : Number.Fault)
  /-- The number of octets is not that of the binary format. -/
  | width (octets : Nat) (format : String)
  /-- The decimal text is no floating-point literal. -/
  | float (fault : Text.FloatFault)
  /-- The decimal text is no integer in range. -/
  | integer (fault : Text.IntegerFault)
  /-- The integer takes more than 32 bits. -/
  | overflow (value : Int64)
  /-- The fields of a calendar time, or its octets, are not those of one. -/
  | timestamp (fault : Timestamp.Fault)
  /-- The row has no such column. -/
  | noColumnAt (index : Nat)
  /-- The row has no column of the name. -/
  | noColumnNamed (name : String)
  /-- There is no value. -/
  | unexpectedNull
  deriving DecidableEq, Repr

namespace ConversionError

/-- What is wrong with the data, for the causes that lie in the data. -/
def detail? : ConversionError → Option String
  | unexpectedType _ _ | unexpectedNull | timestamp .namedRegion => none
  | notText fault => some ("Invalid UTF-8: " ++ fault.message)
  | number fault => some fault.message
  | width octets format => some s!"Expected {octets} bytes for {format}"
  | float fault => some ("Invalid float: " ++ fault.message)
  | integer fault => some ("Invalid integer: " ++ fault.message)
  | overflow value => some s!"{value.toInt} overflows i32"
  | timestamp fault => some fault.message
  | noColumnAt index => some s!"column index {index} out of range"
  | noColumnNamed name => some s!"no column named {name}"

/-- The name of an error, without its circumstances. Whatever lies in the data has one name. -/
def name : ConversionError → String
  | unexpectedType .. => "UnexpectedType"
  | unexpectedNull => "UnexpectedNull"
  | timestamp .namedRegion => "UnsupportedTimeZoneRegion"
  | _ => "InvalidData"

/-- The message for an error. -/
def message (error : ConversionError) : String :=
  match error with
  | unexpectedType expected got => s!"Expected {expected} type, got {got.name}"
  | unexpectedNull => "Unexpected NULL value"
  | timestamp .namedRegion => Timestamp.Fault.message .namedRegion
  | error => "Invalid data: " ++ error.detail?.getD ""

end ConversionError

/-! ## Numbers by way of their text -/

/-- The nearest value of the 64-bit binary format. -/
def Numeric.toBinary64 (value : Numeric) : Except Text.FloatFault Binary64 :=
  Text.readBinary64 value.text.toList

/-- The value as a 64-bit integer, if it is one. -/
def Numeric.toInt64 (value : Numeric) : Except Text.IntegerFault Int64 :=
  Text.readInt64 value.text.toList

/-! ## From columns -/

/-- The types of values that can be read from a column. -/
class FromColumn (α : Type) where
  /-- Reads the octets of a column that is not null. -/
  fromColumn : DataType → Bytes → Except ConversionError α

export FromColumn (fromColumn)

/-- The decimal text of a NUMBER column. -/
def decodeNumber (bytes : Bytes) : Except ConversionError Numeric :=
  ((Number.decode bytes).mapError .number).map Numeric.mk

/-- The value of a BINARY_DOUBLE column. -/
def decodeBinary64 (bytes : Bytes) : Except ConversionError Binary64 :=
  match Binary64.decode? bytes with
  | some value => .ok value
  | none => .error (.width 8 "BINARY_DOUBLE")

/-- The value of a BINARY_FLOAT column. -/
def decodeBinary32 (bytes : Bytes) : Except ConversionError Binary32 :=
  match Binary32.decode? bytes with
  | some value => .ok value
  | none => .error (.width 4 "BINARY_FLOAT")

instance : FromColumn String where
  fromColumn type bytes :=
    match type with
    | .varchar | .char | .long | .urowid => (Utf8.decode bytes).mapError .notText
    | .number | .binaryInteger => (decodeNumber bytes).map Numeric.text
    | type => .error (.unexpectedType "string" type)

instance : FromColumn Bytes where
  fromColumn _ bytes := .ok bytes

instance : FromColumn Numeric where
  fromColumn type bytes :=
    match type with
    | .number | .binaryInteger => decodeNumber bytes
    | type => .error (.unexpectedType "number" type)

instance : FromColumn Binary64 where
  fromColumn type bytes :=
    match type with
    | .binaryDouble => decodeBinary64 bytes
    | .binaryFloat => (decodeBinary32 bytes).map Binary32.widen
    | .number | .binaryInteger => do
      (← decodeNumber bytes).toBinary64.mapError .float
    | type => .error (.unexpectedType "float" type)

instance : FromColumn Binary32 where
  fromColumn type bytes :=
    match type with
    | .binaryFloat => decodeBinary32 bytes
    | type => .error (.unexpectedType "binary_float" type)

instance : FromColumn Int64 where
  fromColumn type bytes :=
    match type with
    | .number | .binaryInteger => do
      (← decodeNumber bytes).toInt64.mapError .integer
    | type => .error (.unexpectedType "integer" type)

instance : FromColumn Int32 where
  fromColumn type bytes := do
    let wide ← fromColumn (α := Int64) type bytes
    if wide < -2147483648 ∨ 2147483647 < wide then
      throw (.overflow wide)
    return wide.toInt32

instance : FromColumn Bool where
  fromColumn type bytes :=
    match type with
    | .boolean => .ok (bytes.getLast? == some 1)
    | type => .error (.unexpectedType "boolean" type)

instance : FromColumn Timestamp where
  fromColumn type bytes :=
    match type with
    | .date | .timestamp | .timestampTz | .timestampLtz =>
      (Timestamp.decode bytes).mapError .timestamp
    | type => .error (.unexpectedType "timestamp" type)

/-! ## To columns -/

/-- The types of values that can be sent as a bind parameter. -/
class ToColumn (α : Type) where
  /-- The octets of a value, and the data type that they are of. -/
  toColumn : α → Except ConversionError (Bytes × DataType)

export ToColumn (toColumn)

instance : ToColumn String where
  toColumn text := .ok (Utf8.encode text, .varchar)

instance : ToColumn Bytes where
  toColumn bytes := .ok (bytes, .raw)

instance : ToColumn Numeric where
  toColumn value := ((Number.encode value.text).mapError .number).map fun bytes => (bytes, .number)

instance : ToColumn Binary64 where
  toColumn value := .ok (value.encode, .binaryDouble)

instance : ToColumn Binary32 where
  toColumn value := .ok (value.encode, .binaryFloat)

instance : ToColumn Int64 where
  toColumn value := toColumn (Numeric.mk (toString value.toInt))

instance : ToColumn Int32 where
  toColumn value := toColumn value.toInt64

instance : ToColumn Bool where
  toColumn value := .ok (if value then [1, 1] else [0], .boolean)

instance : ToColumn Timestamp where
  toColumn value :=
    ((value.encode).mapError .timestamp).map fun bytes =>
      (bytes, if value.offset.isSome then .timestampTz else .timestamp)

end TnsClient
