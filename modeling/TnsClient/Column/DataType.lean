set_option autoImplicit false

/-!
# Data types

The server numbers its data types; the numbers appear in the description of a query's columns and
in the description of bind parameters.

## Main definitions

* `TnsClient.DataType` — the data types a client knows.
* `TnsClient.DataType.code`, `TnsClient.DataType.ofCode?` — their numbers.

## Main results

* `TnsClient.DataType.ofCode?_code` — a data type is found by its number.
-/

namespace TnsClient

/-- A data type of the server. -/
inductive DataType where
  | varchar
  | number
  | binaryInteger
  | long
  | rowid
  | date
  | raw
  | longRaw
  | char
  | binaryFloat
  | binaryDouble
  | cursor
  | object
  | clob
  | blob
  | bfile
  | json
  | vector
  | timestamp
  | timestampTz
  | intervalYm
  | intervalDs
  | urowid
  | timestampLtz
  | boolean
  deriving DecidableEq, Repr, Inhabited

namespace DataType

/-- The number of a data type. -/
def code : DataType → UInt8
  | varchar => 1
  | number => 2
  | binaryInteger => 3
  | long => 8
  | rowid => 11
  | date => 12
  | raw => 23
  | longRaw => 24
  | char => 96
  | binaryFloat => 100
  | binaryDouble => 101
  | cursor => 102
  | object => 109
  | clob => 112
  | blob => 113
  | bfile => 114
  | json => 119
  | vector => 127
  | timestamp => 180
  | timestampTz => 181
  | intervalYm => 182
  | intervalDs => 183
  | urowid => 208
  | timestampLtz => 231
  | boolean => 252

/-- The data type of a number, if a client knows it. -/
def ofCode? (code : UInt8) : Option DataType :=
  match code.toNat with
  | 1 => some varchar
  | 2 => some number
  | 3 => some binaryInteger
  | 8 => some long
  | 11 => some rowid
  | 12 => some date
  | 23 => some raw
  | 24 => some longRaw
  | 96 => some char
  | 100 => some binaryFloat
  | 101 => some binaryDouble
  | 102 => some cursor
  | 109 => some object
  | 112 => some clob
  | 113 => some blob
  | 114 => some bfile
  | 119 => some json
  | 127 => some vector
  | 180 => some timestamp
  | 181 => some timestampTz
  | 182 => some intervalYm
  | 183 => some intervalDs
  | 208 => some urowid
  | 231 => some timestampLtz
  | 252 => some boolean
  | _ => none

/-- A data type is found by its number. -/
@[simp] theorem ofCode?_code (type : DataType) : ofCode? type.code = some type := by
  cases type <;> rfl

/-- The name under which messages speak of a data type. -/
def name : DataType → String
  | varchar => "Varchar"
  | number => "Number"
  | binaryInteger => "BinaryInteger"
  | long => "Long"
  | rowid => "Rowid"
  | date => "Date"
  | raw => "Raw"
  | longRaw => "LongRaw"
  | char => "Char"
  | binaryFloat => "BinaryFloat"
  | binaryDouble => "BinaryDouble"
  | cursor => "Cursor"
  | object => "Object"
  | clob => "Clob"
  | blob => "Blob"
  | bfile => "Bfile"
  | json => "Json"
  | vector => "Vector"
  | timestamp => "Timestamp"
  | timestampTz => "TimestampTz"
  | intervalYm => "IntervalYm"
  | intervalDs => "IntervalDs"
  | urowid => "Urowid"
  | timestampLtz => "TimestampLtz"
  | boolean => "Boolean"

/-- Columns of these types carry a locator in the place of the value. -/
def isLob : DataType → Bool
  | clob | blob | bfile => true
  | _ => false

/-- The buffer that the server should set aside for a value of the type; 0 where it depends on
the value. -/
def bufferSize : DataType → UInt32
  | binaryDouble => 8
  | binaryFloat => 4
  | number | binaryInteger => 22
  | date => 7
  | timestamp => 11
  | timestampTz | timestampLtz => 13
  | boolean => 4
  | _ => 0

end DataType

end TnsClient
