import TnsClient.Text.Utf8

set_option autoImplicit false

/-!
# Reading octets

A reader takes what it needs from the front of a byte string and leaves the rest, or fails with
the cause. Running out of octets is a failure of its own, which says how many were needed and how
many were left; every other failure means that the octets make no sense.

## Main definitions

* `TnsClient.DecodeError` — why octets could not be read.
* `TnsClient.Decode` — a reader.
* `TnsClient.Decode.take`, `TnsClient.Decode.skip`, `TnsClient.Decode.u8` — the plainest readers.
* `TnsClient.Decode.times`, `TnsClient.Decode.whileSome` — repetition: a given number of times, or
  for as long as a step yields something.

## Main results

* `TnsClient.Decode.take_append`, `TnsClient.Decode.skip_append` — the plainest readers leave alone
  what stands behind what they need.
-/

namespace TnsClient

/-- Why octets could not be read. -/
inductive DecodeError where
  /-- Fewer octets were left than were needed. -/
  | expectedAtLeast (expected actual : Nat)
  /-- A packet says that it is shorter than its own header. -/
  | invalidPacketLength (length : Nat)
  /-- An integer says that it takes a number of octets that its type does not allow. -/
  | corruptLength (length width : Nat)
  /-- A packet or a message of a kind that is not known. -/
  | unknownMessageId (id : UInt8)
  /-- A control packet of a kind that is not known. -/
  | unknownControlType (type : UInt16)
  /-- A column of a data type that a client cannot receive. -/
  | unsupportedDataType (code : UInt8)
  /-- Octets that are in order but make no sense where they stand. -/
  | fieldNotDecodable (field : String)
  /-- A text that is not UTF-8. -/
  | invalidUtf8 (field : String)
  deriving DecidableEq, Repr

/-- The name of an error, without its circumstances. -/
def DecodeError.name : DecodeError → String
  | expectedAtLeast .. => "ExpectedAtLeast"
  | invalidPacketLength _ => "InvalidPacketLength"
  | corruptLength .. => "CorruptLength"
  | unknownMessageId _ => "UnknownMessageId"
  | unknownControlType _ => "UnknownControlType"
  | unsupportedDataType _ => "UnsupportedDataType"
  | fieldNotDecodable _ => "FieldNotDecodable"
  | invalidUtf8 _ => "InvalidUtf8"

/-- The message for an error. -/
def DecodeError.message : DecodeError → String
  | expectedAtLeast expected actual =>
    s!"Expected at least {expected} remaining bytes, found {actual}"
  | invalidPacketLength length => s!"Invalid packet length {length}"
  | corruptLength length width =>
    s!"Invalid UB{width} length byte {length}: stream is corrupt"
  | unknownMessageId id => s!"Unknown message id {id.toNat}"
  | unknownControlType type => s!"Unknown control type {type.toNat}"
  | unsupportedDataType code => s!"Unsupported data type {code.toNat}"
  | fieldNotDecodable field => s!"Field not decodable: {field}"
  | invalidUtf8 field => s!"Invalid UTF-8 in {field}"

/-- A reader of values of type `α`. -/
abbrev Decode (α : Type) := StateT Bytes (Except DecodeError) α

namespace Decode

variable {α β : Type}

/-- Fails. -/
def fail (error : DecodeError) : Decode α := fun _ => .error error

/-- Fails unless at least `count` octets are left. -/
def need (count : Nat) : Decode Unit := fun input =>
  if (input.take count).length < count then .error (.expectedAtLeast count input.length)
  else .ok ((), input)

/-- Takes `count` octets. -/
def take (count : Nat) : Decode Bytes := fun input =>
  let front := input.take count
  if front.length < count then .error (.expectedAtLeast count input.length)
  else .ok (front, input.drop count)

/-- Passes over `count` octets. -/
def skip (count : Nat) : Decode Unit := do
  let _ ← take count

/-- The number of octets that are left. -/
def remaining : Decode Nat := fun input => .ok (input.length, input)

/-- One octet. -/
def u8 : Decode UInt8
  | [] => .error (.expectedAtLeast 1 0)
  | byte :: rest => .ok (byte, rest)

/-- A 16-bit word, most significant octet first. -/
def u16be : Decode UInt16 := do
  return UInt16.ofNat (beNat (← take 2))

/-- A 16-bit word, least significant octet first. -/
def u16le : Decode UInt16 := do
  return UInt16.ofNat (leNat (← take 2))

/-- A 32-bit word, most significant octet first. -/
def u32be : Decode UInt32 := do
  return UInt32.ofNat (beNat (← take 4))

/-! ## Repetition -/

/-- Reads `count` values in a row. -/
def times : (count : Nat) → Decode α → Decode (List α)
  | 0, _ => pure []
  | count + 1, item => do
    let first ← item
    let rest ← times count item
    return first :: rest

/-- Passes over `count` things in a row. -/
def skipTimes : (count : Nat) → Decode Unit → Decode Unit
  | 0, _ => pure ()
  | count + 1, item => do
    item
    skipTimes count item

/-- Reads values for as long as `step` yields one. A step that yields a value without taking any
octets is the last one, so that there is an end. -/
def whileSome (step : Decode (Option α)) (input : Bytes) :
    Except DecodeError (List α × Bytes) :=
  match step input with
  | .error error => .error error
  | .ok (none, rest) => .ok ([], rest)
  | .ok (some value, rest) =>
    if rest.length < input.length then
      match whileSome step rest with
      | .error error => .error error
      | .ok (values, rest) => .ok (value :: values, rest)
    else .ok ([value], rest)
termination_by input.length

/-! ## What is left alone -/

/-- Taking as many octets as stand in front leaves exactly what stands behind them. -/
@[simp] theorem take_append (front rest : Bytes) :
    take front.length (front ++ rest) = .ok (front, rest) := by
  simp [take]

/-- Passing over as many octets as stand in front leaves exactly what stands behind them. -/
@[simp] theorem skip_append (front rest : Bytes) :
    skip front.length (front ++ rest) = .ok ((), rest) := by
  simp only [skip, bind, StateT.bind, take_append]
  rfl

/-- One octet is read by taking it off the front. -/
@[simp] theorem u8_cons (byte : UInt8) (rest : Bytes) : u8 (byte :: rest) = .ok (byte, rest) := rfl

end Decode

end TnsClient
