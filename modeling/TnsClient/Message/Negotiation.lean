import TnsClient.Message.ErrorBlock
import TnsClient.Text.IntegerLiteral

set_option autoImplicit false

/-!
# Messages that set up a connection

The listener accepts, refuses or redirects a connection. The server then describes itself and its
data types, and from time to time it sends packets that carry no messages: markers, which break off
an answer, and controls.

## Main definitions

* `TnsClient.Accept`, `TnsClient.Refusal`, `TnsClient.ServerInfo`, `TnsClient.CallStatus` — what
  these messages say.
* `TnsClient.Refusal.code?` — the listener's error number.
* `TnsClient.Decode.accept` and those that follow it — their layouts.
-/

namespace TnsClient

/-- The listener accepts the connection. -/
structure Accept where
  /-- The version of the packet protocol. -/
  version : UInt16
  /-- The service options. -/
  options : UInt16
  /-- What the server demands of the network session. -/
  sessionFlags : UInt8
  /-- The greatest number of octets of a packet. -/
  sdu : UInt32
  /-- Flags of newer versions. -/
  flags : UInt32
  deriving DecidableEq, Repr

/-- The listener refuses the connection. -/
structure Refusal where
  /-- The reason on the part of the user. -/
  userReason : UInt8
  /-- The reason on the part of the system. -/
  systemReason : UInt8
  /-- What the listener says about it. -/
  text : String
  deriving DecidableEq, Repr

/-- What stands behind the first occurrence of a word. -/
def behind? (word : List Char) : List Char → Option (List Char)
  | [] => if word.isEmpty then some [] else none
  | c :: rest =>
    if word.isPrefixOf (c :: rest) then some ((c :: rest).drop word.length) else behind? word rest

/-- The listener's error number, which the text gives as `(ERR=12514)`. -/
def Refusal.code? (refusal : Refusal) : Option UInt32 := do
  let behind ← behind? "(ERR=".toList refusal.text.toList
  (Text.readUInt32 (behind.takeWhile Char.isDigit)).toOption

/-- The server describes itself. -/
structure ServerInfo where
  /-- The version of the message protocol. -/
  version : UInt8
  /-- The name of the platform. -/
  banner : String
  /-- The character set. -/
  charset : UInt16
  /-- The national character set. -/
  nationalCharset : Option UInt16 := none
  /-- The build features. -/
  build : Option Bytes := none
  /-- The runtime features. -/
  runtime : Option Bytes := none
  deriving DecidableEq, Repr

/-- The status at the end of a call. -/
structure CallStatus where
  /-- The status. -/
  status : UInt32
  /-- The sequence number of the call. -/
  sequence : UInt16
  deriving DecidableEq, Repr

namespace Decode

/-- The least protocol version whose accept packets hold a second word of flags. -/
def minSecondFlags : UInt16 := 318

/-- The second word of flags, zero in old versions. -/
def secondFlags (version : UInt16) : Decode UInt32 := do
  if minSecondFlags ≤ version then
    skip 5
    u32be
  else
    return 0

/-- An accept packet. -/
def accept : Decode Accept := do
  let version ← u16be
  let options ← u16be
  skip 10
  let sessionFlags ← u8
  skip 9
  let sdu ← u32be
  let flags ← secondFlags version
  return { version, options, sessionFlags, sdu, flags }

/-- A text behind its length of 16 bits, cut short where the packet ends. -/
def packetText : Decode String := do
  let length := (← u16be).toNat
  return Utf8.decodeLossy (← take (min length (← remaining)))

/-- A refuse packet. -/
def refusal : Decode Refusal := do
  let userReason ← u8
  let systemReason ← u8
  let text ← packetText
  return { userReason, systemReason, text }

/-- A marker packet. -/
def marker : Decode UInt8 := do
  skip 2
  u8

/-- A control packet: a notification, or the reset of out-of-band data. -/
def control : Decode UInt16 := do
  let type ← u16be
  if type = 8 ∨ type = 9 then
    return type
  else
    fail (.unknownControlType type)

/-- The national character set in a block of session fields; two octets say how far behind it
stands. -/
def nationalCharset? (fields : Bytes) : Option UInt16 := do
  let position := 6 + (← fields[5]?).toNat + (← fields[6]?).toNat
  let high ← fields[position + 3]?
  let low ← fields[position + 4]?
  return UInt16.ofNat (beNat [high, low])

/-- The server's description of itself. -/
def serverInfo : Decode ServerInfo := do
  let version ← u8
  skip 1
  let banner ← terminated "server banner"
  let charset ← u16le
  skip 1   -- flags
  skip ((← u16le).toNat * 5)
  let fields ← take (← u16be).toNat
  let build ← byteString
  let runtime ← byteString
  return { version, banner, charset, nationalCharset := nationalCharset? fields, build, runtime }

/-- Passes over one of the server's data types, and says whether there was one. -/
def skipDataType : Decode (Option Unit) := do
  if (← u16be) = 0 then
    return none
  if (← u16be) ≠ 0 then
    skip 4
  return some ()

/-- The server's data types, which are passed over. -/
def dataTypes : Decode Unit := do
  let _ ← whileSome skipDataType

/-- The status at the end of a call. -/
def callStatus : Decode CallStatus := do
  let status ← u32be
  let sequence ← u16be
  return { status, sequence }

end Decode

end TnsClient
