import TnsClient.Message.Column

set_option autoImplicit false

/-!
# Rows

A row carries one value for each column that was described, except for those that a bit vector
marks as unchanged since the row before. The values are the octets that the server sent, tagged by
the data types of their columns; large objects are represented by locators.

## Main definitions

* `TnsClient.ColumnValue` — the value of a column.
* `TnsClient.isUnchanged` — whether a bit vector marks a column.
* `TnsClient.Decode.rowHeader`, `TnsClient.Decode.bitVector`, `TnsClient.Decode.row` — the messages
  that rows are made of.
-/

namespace TnsClient

/-- A large object, which the server keeps. -/
structure LobLocator where
  /-- The size of the object. -/
  size : UInt64
  /-- The size of its chunks. -/
  chunkSize : UInt32
  /-- The octets by which the server finds it. -/
  locator : Bytes
  deriving DecidableEq, Repr

/-- The value of a column in a row. -/
inductive ColumnValue where
  /-- There is no value. -/
  | null
  /-- The octets of the value. -/
  | bytes (octets : Bytes)
  /-- A large object. -/
  | lob (locator : LobLocator)
  /-- The value is that of the row before. -/
  | duplicate
  deriving DecidableEq, Repr

/-- Whether the bit vector, if there is one, marks a column as unchanged: its bit is there and is
clear. -/
def isUnchanged (bits : Option Bytes) (index : Nat) : Bool :=
  match bits.bind fun octets => octets[index / 8]? with
  | some octet => !octet.toNat.testBit (index % 8)
  | none => false

namespace Decode

/-- The octets of a value, null if there are none. -/
def plainValue : Decode ColumnValue := do
  match ← byteString with
  | some octets => return .bytes octets
  | none => return .null

/-- Size and chunk size of a large object. Those of a file are not sent. -/
def lobSizes (type : DataType) : Decode (UInt64 × UInt32) := do
  if type = .bfile then
    return (0, 0)
  let size ← ub8
  let chunkSize ← ub4
  return (size, chunkSize)

/-- A large object, null if its locator is announced to be empty. -/
def lobValue (type : DataType) : Decode ColumnValue := do
  if (← ub4) = 0 then
    return .null
  let (size, chunkSize) ← lobSizes type
  let locator := (← byteString).getD []
  return .lob { size, chunkSize, locator }

/-- The value of a column. A column whose values take no octets sends none, unless its type knows
no limit. -/
def columnValue (column : Column) : Decode ColumnValue :=
  match column.type with
  | .clob | .blob | .bfile => lobValue column.type
  | .object | .json | .vector | .cursor | .rowid => fail (.unsupportedDataType column.type.code)
  | .long | .longRaw | .urowid => plainValue
  | _ => if column.bufferSize = 0 then pure .null else plainValue

/-- The values of columns from position `index` on. -/
def rowFrom (bits : Option Bytes) (index : Nat) : List Column → Decode (List ColumnValue)
  | [] => pure []
  | column :: rest => do
    let value ← if isUnchanged bits index then pure .duplicate else columnValue column
    let values ← rowFrom bits (index + 1) rest
    return value :: values

/-- A row of the given columns. -/
def row (columns : List Column) (bits : Option Bytes) : Decode (List ColumnValue) :=
  rowFrom bits 0 columns

/-- A bit vector behind its length and an octet, none if the length is zero. -/
def attachedBits : Decode (Option Bytes) := do
  let length := (← ub4).toNat
  if length = 0 then
    return none
  skip 1
  return some (← take length)

/-- The header in front of rows, and the bit vector it may hold. -/
def rowHeader : Decode (Option Bytes) := do
  skip 1   -- flags
  skipUb2  -- number of requests
  skipUb4  -- iteration
  skipUb4  -- number of iterations
  skipUb2  -- length of the buffer
  let bits ← attachedBits
  skipAnnounced ((← ub4) > 0)
  return bits

/-- A bit vector for a number of columns. -/
def bitVector (columns : Nat) : Decode Bytes := do
  skipUb2  -- columns sent
  take ((columns + 7) / 8)

end Decode

end TnsClient
