import TnsClient.Capabilities
import TnsClient.Text.Blank
import TnsClient.Wire.ByteString

set_option autoImplicit false

/-!
# Error blocks

The server ends its answer to a call with an error block. Number 0 means that the call succeeded;
the block then still carries the cursor and the row count. Number 1403 ends the rows of a query and
is no failure, nor is a block that is flagged as a warning.

## Main definitions

* `TnsClient.ErrorBlock` — what a block says.
* `TnsClient.ErrorBlock.isFailure` — whether the caller should see it as an error.
* `TnsClient.Decode.errorBlock`, `TnsClient.Decode.warning` — the two layouts on the wire.
-/

namespace TnsClient

/-- The position of a row. -/
structure RowId where
  /-- The relative block address. -/
  rba : UInt32
  /-- The partition. -/
  partition : UInt16
  /-- The block. -/
  block : UInt32
  /-- The slot in the block. -/
  slot : UInt16
  deriving DecidableEq, Repr

/-- What the server says about the outcome of a call. -/
structure ErrorBlock where
  /-- The number of the error, 0 for success. -/
  number : UInt32 := 0
  /-- The text of the error. -/
  text : Option String := none
  /-- The status of the call. -/
  callStatus : UInt32 := 0
  /-- The cursor of the statement, 0 for none. -/
  cursor : UInt16 := 0
  /-- Where in the statement the error is. -/
  position : Int16 := 0
  /-- The number of rows so far. -/
  rowCount : UInt64 := 0
  /-- Whether the block is only a warning. -/
  isWarning : Bool := false
  /-- The row that the call stopped at. -/
  rowId : Option RowId := none
  /-- The error numbers of the rows of a batch. -/
  batchNumbers : List UInt32 := []
  /-- The positions of those rows in the batch. -/
  batchOffsets : List UInt32 := []
  deriving DecidableEq, Repr

instance : Inhabited ErrorBlock := ⟨{}⟩

namespace ErrorBlock

/-- The number of the error that ends the rows of a query. -/
def noDataFound : UInt32 := 1403

/-- The bit of the flags that makes a block a warning. -/
def warningBit : UInt8 := 0x20

/-- Whether the block ends the rows of a query. -/
def endsRows (block : ErrorBlock) : Bool := block.number == noDataFound

/-- Whether the caller should see the block as an error. -/
def isFailure (block : ErrorBlock) : Bool :=
  block.number != 0 && !block.endsRows && !block.isWarning

/-- The number with leading zeros to five digits. -/
def fiveDigits (number : Nat) : String :=
  let digits := toString number
  String.ofList (List.replicate (5 - digits.length) '0') ++ digits

/-- The text of the error, or its number where there is no text. -/
def message (block : ErrorBlock) : String :=
  block.text.getD ("ORA-" ++ fiveDigits block.number.toNat)

end ErrorBlock

namespace Decode

/-- The position of a row. A position in no block and no slot is none. -/
def rowId : Decode (Option RowId) := do
  let rba ← ub4
  let partition ← ub2
  skip 1
  let block ← ub4
  let slot ← ub2
  if rba ≠ 0 ∨ block ≠ 0 ∨ slot ≠ 0 then
    return some { rba, partition, block, slot }
  else
    return none

/-- The entries of a batch: unless there are none, an octet stands in front of them. -/
def batch {α : Type} (count : Nat) (item : Decode α) : Decode (List α) := do
  if count = 0 then
    return []
  skip 1
  times count item

/-- Passes over a byte string that is announced by a number other than zero. -/
def skipAnnounced (announced : Bool) : Decode Unit := do
  if announced then
    skipByteString

/-- Passes over a message of a batch. -/
def skipBatchMessage : Decode Unit := do
  skipUb2
  let _ ← text "batch error message"
  skip 2

/-- An error block. -/
def errorBlock (caps : Capabilities) : Decode ErrorBlock := do
  let callStatus ← ub4
  skipUb2  -- sequence number
  skipUb4  -- current row
  skipUb2  -- error number, in 16 bits
  skipUb2  -- first element in error
  skipUb2  -- last element in error
  let cursor ← ub2
  let position ← sb2
  skip 5   -- kind of SQL, whether fatal, flags, cursor options, parameter
  let flags ← u8
  let rowId ← rowId
  skipUb4  -- error of the operating system
  skip 1   -- number of the statement
  skip 1   -- number of the call
  skipUb2  -- padding
  skipUb4  -- successful iterations
  skipAnnounced ((← ub4) > 0)
  let batchNumbers ← batch (← ub2).toNat ub2
  let batchOffsets ← batch (← ub4).toNat ub4
  let _ ← batch (← ub2).toNat skipBatchMessage
  let number ← ub4
  let rowCount ← ub8
  if caps.atLeast FieldVersion.v20_1 then
    skipUb4  -- kind of SQL
    skipUb4  -- checksum
  let text ← if number ≠ 0 then text "error message" else pure none
  return {
    number
    text := text.map Text.trimEnd
    callStatus, cursor, position, rowCount
    isWarning := flags &&& ErrorBlock.warningBit != 0
    rowId
    batchNumbers := batchNumbers.map UInt16.toUInt32
    batchOffsets }

/-- A warning that stands alone. -/
def warning : Decode ErrorBlock := do
  let number ← ub2
  let length ← ub2
  skipUb2  -- flags
  let text ← if number ≠ 0 ∧ length > 0 then text "warning message" else pure none
  return { number := number.toUInt32, text, isWarning := true }

end Decode

end TnsClient
