import TnsClient.Capabilities
import TnsClient.Column.DataType
import TnsClient.Message.ErrorBlock

set_option autoImplicit false

/-!
# Descriptions of columns

Before the rows of a query the server describes its columns. Which fields a description has
depends on the field version.

## Main definitions

* `TnsClient.Column` — a column of a query.
* `TnsClient.Decode.description` — the description of all columns.
-/

namespace TnsClient

/-- A column of a query. -/
structure Column where
  /-- The name. -/
  name : String
  /-- The data type. -/
  type : DataType
  /-- The number of digits. -/
  precision : Int8 := 0
  /-- The number of digits behind the point. -/
  scale : Int8 := 0
  /-- The octets that a value may take, 0 where there is never a value. -/
  bufferSize : UInt32 := type.bufferSize
  /-- The size that was declared. -/
  maxSize : UInt32 := 0
  /-- Whether a value may be null. -/
  nullable : Bool := true
  /-- The form of the character set. -/
  charsetForm : UInt8 := 0
  /-- The schema of the type. -/
  schema : Option String := none
  /-- The name of the type. -/
  typeName : Option String := none
  /-- The schema of the domain. -/
  domainSchema : Option String := none
  /-- The name of the domain. -/
  domainName : Option String := none
  deriving DecidableEq, Repr

namespace Decode

/-- A text behind its length, none if that is zero. -/
def countedText (field : String) : Decode (Option String) := do
  if (← ub4) = 0 then
    return none
  text field

/-- A data type by its number. -/
def dataType : Decode DataType := do
  let code ← u8
  match DataType.ofCode? code with
  | some type => return type
  | none => fail (.unsupportedDataType code)

/-- A signed octet. -/
def i8 : Decode Int8 := do
  return (← u8).toInt8

/-- Schema and name of a domain, which old servers do not send. -/
def domainTexts (caps : Capabilities) : Decode (Option String × Option String) := do
  if caps.atLeast FieldVersion.v23_1 then
    let schema ← countedText "domain schema"
    let name ← countedText "domain name"
    return (schema, name)
  else
    return (none, none)

/-- The object identifier of a type, which is passed over. -/
def skipObjectId : Decode Unit := do
  if (← ub4) > 0 then
    let _ ← byteString

/-- The description of one column. -/
def column (caps : Capabilities) : Decode Column := do
  let type ← dataType
  skip 1   -- flags
  let precision ← i8
  let scale ← i8
  let bufferSize ← ub4
  skipUb4  -- elements of an array
  skipUb8  -- flags
  skipObjectId
  skipUb2  -- version
  skipUb2  -- character set
  let charsetForm ← u8
  let size ← ub4
  if caps.atLeast FieldVersion.v12_2 then
    skipUb4  -- identifier of the collation
  let nullable := (← u8) != 0
  skip 1   -- length of the name in old versions
  let name ← countedText "column name"
  let schema ← countedText "column schema"
  let typeName ← countedText "column type name"
  skipUb2  -- position
  skipUb4  -- flags
  let (domainSchema, domainName) ← domainTexts caps
  return {
    name := name.getD ""
    type, precision, scale, bufferSize
    maxSize := if type = .raw then bufferSize else size
    nullable, charsetForm, schema, typeName, domainSchema, domainName }

/-- The description of the columns of a query. -/
def description (caps : Capabilities) : Decode (List Column) := do
  skipByteString
  skipUb4  -- greatest size of a row
  let columns ← batch (← ub4).toNat (column caps)
  skipAnnounced ((← ub4) > 0)  -- date
  skipUb4
  skipUb4
  skipUb4
  skipUb4
  skipAnnounced ((← ub4) > 0)  -- key of the query
  return columns

end Decode

end TnsClient
