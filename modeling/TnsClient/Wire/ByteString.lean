import TnsClient.Wire.Integer

set_option autoImplicit false

/-!
# Byte strings and texts

A byte string of at most 252 octets is written behind its length. A longer one is written in
chunks behind the octet `0xFE`: each chunk behind its length as an integer, and an empty chunk
last. The length octets 0 and `0xFF` both stand for a string that is not there. A text is the byte
string of its UTF-8.

## Main definitions

* `TnsClient.Encode.byteString`, `TnsClient.Encode.keyValue` — writing.
* `TnsClient.Decode.byteString`, `TnsClient.Decode.text` — reading.
* `TnsClient.Decode.skipByteString` — passing over a byte string.
* `TnsClient.Decode.terminated` — a text that ends in a zero octet.
-/

namespace TnsClient

/-- The length octet of a string in chunks. -/
def chunkedMark : UInt8 := 0xFE

/-- The length octet, other than zero, of a string that is not there. -/
def nullMark : UInt8 := 0xFF

/-- The greatest length that is written in the length octet. -/
def maxShortLength : Nat := 252

/-- The octets of every chunk but the last. -/
def chunkSize : Nat := 32767

namespace Decode

/-- A chunk, none if it is empty. -/
def chunk : Decode (Option Bytes) := do
  let length := (← ub4).toNat
  if length = 0 then
    return none
  return some (← take length)

/-- A byte string, none if it is not there. -/
def byteString : Decode (Option Bytes) := do
  let length ← u8
  if length = 0 ∨ length = nullMark then
    return none
  if length = chunkedMark then
    return some (← whileSome chunk).flatten
  return some (← take length.toNat)

/-- Passes over a chunk, and says whether there was one. -/
def skipChunk : Decode (Option Unit) := do
  let length := (← ub4).toNat
  if length = 0 then
    return none
  skip length
  return some ()

/-- Passes over a byte string that is not the null string. -/
def skipByteString : Decode Unit := do
  let length ← u8
  if length = chunkedMark then
    let _ ← whileSome skipChunk
  else
    skip length.toNat

/-- The text of octets, where `field` names it in a failure. -/
def ofUtf8 (field : String) (bytes : Bytes) : Decode String :=
  match Utf8.decode bytes with
  | .ok text => pure text
  | .error _ => fail (.invalidUtf8 field)

/-- A text, none if it is not there. -/
def text (field : String) : Decode (Option String) := do
  match ← byteString with
  | none => return none
  | some bytes => return some (← ofUtf8 field bytes)

/-- The octets up to a zero octet, and what stands behind that one. -/
def untilZero : Bytes → Except DecodeError (Bytes × Bytes)
  | [] => .error (.expectedAtLeast 1 0)
  | byte :: rest =>
    if byte = 0 then .ok ([], rest)
    else
      match untilZero rest with
      | .error error => .error error
      | .ok (front, rest) => .ok (byte :: front, rest)

/-- A text that ends in a zero octet. -/
def terminated (field : String) : Decode String := do
  ofUtf8 field (← untilZero)

end Decode

namespace Encode

/-- A byte string. -/
def byteString (bytes : Bytes) : Bytes :=
  if bytes.length ≤ maxShortLength then UInt8.ofNat bytes.length :: bytes
  else
    chunkedMark :: (pieces chunkSize bytes).flatMap (fun piece => count piece.length ++ piece) ++
      count 0

/-- A named value with flags, as they are exchanged during logon. The length of name and value
stands in front of them once more, and an empty value is left out. -/
def keyValue (key : String) (value : Bytes) (flags : UInt32) : Bytes :=
  let name := Utf8.encode key
  count name.length ++ byteString name ++ count value.length ++
    (if value.isEmpty then [] else byteString value) ++ ub4 flags

end Encode

end TnsClient
