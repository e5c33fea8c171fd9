import TnsClient.Column.Conversion

set_option autoImplicit false

/-!
# Bind parameters

A bind parameter is a value in the octets of its data type, with the buffer that the server should
set aside for it.

## Main definitions

* `TnsClient.Bind` — a parameter.
* `TnsClient.Bind.ofValue`, `TnsClient.Bind.null`, `TnsClient.Bind.ofOption` — how one is made.
-/

namespace TnsClient

/-- A bind parameter. -/
structure Bind where
  /-- The data type. -/
  type : DataType
  /-- The octets of the value, none for null. -/
  value : Option Bytes
  /-- The buffer that the server should set aside. -/
  bufferSize : UInt32
  /-- The form of the character set, 0 for a type without characters. -/
  charsetForm : UInt8
  deriving DecidableEq, Repr

namespace Bind

/-- The form of the character set of a data type. -/
def charsetFormOf : DataType → UInt8
  | .varchar | .char | .long | .clob => 1
  | _ => 0

/-- A parameter that holds a value. Where the type does not fix the buffer, the value does. -/
def ofValue {α : Type} [ToColumn α] (value : α) : Except ConversionError Bind := do
  let (octets, type) ← toColumn value
  return {
    type
    value := some octets
    bufferSize :=
      if type.bufferSize = 0 then max (UInt32.ofNat octets.length) 1 else type.bufferSize
    charsetForm := charsetFormOf type }

/-- A null parameter of a type. -/
def null (type : DataType) : Bind where
  type
  value := none
  bufferSize := max type.bufferSize 1
  charsetForm := charsetFormOf type

/-- A parameter for a value that may be missing; a missing one is a null text. -/
def ofOption {α : Type} [ToColumn α] : Option α → Except ConversionError Bind
  | some value => ofValue value
  | none => .ok (null .varchar)

end Bind

end TnsClient
