import TnsClient.Logon.SessionData
import TnsClient.Message.ErrorBlock

set_option autoImplicit false

/-!
# Parameters and piggybacks

A parameter message has one of three layouts, depending on what it answers: an authentication
request, a statement or an operation on a large object. A piggyback is a message that the server
adds to an answer of its own accord.

## Main definitions

* `TnsClient.LobParameters` — what an operation on a large object returns.
* `TnsClient.Piggyback` — what the server adds to an answer.
* `TnsClient.Decode.authParameters`, `TnsClient.Decode.statementParameters`,
  `TnsClient.Decode.lobParameters`, `TnsClient.Decode.piggyback` — their layouts.
-/

namespace TnsClient

/-! ## Large objects -/

namespace LobOpcode

/-- Asks for the length. -/
def length : UInt32 := 0x0001

/-- Reads. -/
def read : UInt32 := 0x0002

/-- Copies from another object. -/
def copy : UInt32 := 0x0004

/-- Cuts short. -/
def trim : UInt32 := 0x0020

/-- Writes. -/
def write : UInt32 := 0x0040

/-- Creates a temporary object. -/
def createTemporary : UInt32 := 0x0110

/-- Frees a temporary object. -/
def freeTemporary : UInt32 := 0x0111

/-- The bit of an operation on an array of objects. -/
def array : UInt32 := 0x80000

end LobOpcode

/-- What an operation on a large object returns. -/
structure LobParameters where
  /-- The locator of the object, as it is now. -/
  source : Option Bytes := none
  /-- The locator of the object copied from, as it is now. -/
  dest : Option Bytes := none
  /-- The amount that was asked for or dealt with. -/
  amount : Option Int64 := none
  /-- A flag of newly created objects. -/
  flag : Option Bool := none
  deriving DecidableEq, Repr

/-- The shape of the answer to an operation on a large object, which depends on the request. -/
structure LobShape where
  /-- The octets of the locator. -/
  sourceLength : Nat
  /-- The octets of the locator copied from. -/
  destLength : Nat
  /-- The operation. -/
  opcode : UInt32
  /-- Whether the request carried an amount. -/
  sendsAmount : Bool
  deriving DecidableEq, Repr

/-! ## Piggybacks -/

/-- What the server adds to an answer. -/
inductive Piggyback where
  /-- The identifier of the logical transaction. -/
  | transactionId (octets : Bytes)
  /-- The identifier of the session and its serial number. -/
  | sessionState (session : UInt32) (serial : UInt16)
  /-- Something a client need not keep. -/
  | skipped (opcode : UInt8)
  deriving DecidableEq, Repr

namespace Decode

/-! ## Parameters -/

/-- A named value with flags. An empty value is left out. -/
def sessionValue : Decode (String × SessionValue) := do
  skipUb4  -- length of the name
  let name ← text "auth key"
  let value ← if (← ub4) > 0 then text "auth value" else pure none
  let flags ← ub4
  return (name.getD "", ⟨value.getD "", flags⟩)

/-- The answer to an authentication request. -/
def authParameters : Decode SessionData := do
  let values ← times (← ub2).toNat sessionValue
  return SessionData.empty.extend ⟨values⟩

/-- A keyword with the value that an execution returns for it. -/
def keyword : Decode (UInt16 × Option Bytes) := do
  skipAnnounced ((← ub2) > 0)
  let value ← if (← ub2) > 0 then byteString else pure none
  let number ← ub2
  return (number, value)

/-- The answer to an execution. -/
def statementParameters : Decode (List (UInt16 × Option Bytes)) := do
  skipTimes (← ub2).toNat skipUb4
  skip (← ub2).toNat
  let keywords ← times (← ub2).toNat keyword
  skip (← ub2).toNat  -- registration
  return keywords

/-- A locator of known length, none if it takes no octets. -/
def locator (length : Nat) : Decode (Option Bytes) := do
  if length = 0 then
    return none
  return some (← take length)

/-- The answer to an operation on a large object. -/
def lobParameters (shape : LobShape) : Decode LobParameters := do
  let source ← locator shape.sourceLength
  let dest ← locator shape.destLength
  if shape.opcode = LobOpcode.createTemporary then
    skipUb2  -- character set
    skip 3
  let amount ← if shape.sendsAmount then some <$> sb8 else pure none
  let flag ←
    if shape.opcode = LobOpcode.createTemporary then (fun n => some (decide (n > 0))) <$> ub2
    else pure none
  return { source, dest, amount, flag }

/-! ## Piggybacks -/

/-- Passes over a pair of byte strings with flags. -/
def skipPair : Decode Unit := do
  skipAnnounced ((← ub2) > 0)
  skipAnnounced ((← ub2) > 0)
  skipUb2  -- flags

/-- The identifier of the logical transaction, which may be missing. -/
def transactionId (opcode : UInt8) : Decode Piggyback := do
  if (← ub4) = 0 then
    return .skipped opcode
  return .transactionId ((← byteString).getD [])

/-- Passes over the pairs of a session, in front of which an octet stands unless there are
none. -/
def skipSessionPairs : Decode Unit := do
  let count := (← ub2).toNat
  if count > 0 then
    skip 1
    skipTimes count skipPair

/-- What the server adds to an answer, of which the first octet says what it is. -/
def piggyback : Decode Piggyback := do
  let opcode ← u8
  match opcode.toNat with
  | 1 | 3 => return .skipped opcode  -- invalidated results, events of a trace
  | 2 =>                             -- process of the operating system
    skipUb2
    skipByteString
    return .skipped opcode
  | 4 =>                             -- state of the session
    skipUb2
    skip 1
    skipSessionPairs
    skipUb4  -- flags
    let session ← ub4
    let serial ← ub2
    return .sessionState session serial
  | 5 =>                             -- synchronisation
    skipUb2
    skip 1
    let count := (← ub2).toNat
    skip 1
    skipTimes count skipPair
    skipUb4  -- flags
    return .skipped opcode
  | 7 => transactionId opcode
  | 8 =>                             -- context of a replay
    skipUb2
    skip 1
    skipUb4  -- flags
    skipUb4  -- error
    skip 1   -- queue
    skipAnnounced ((← ub4) > 0)
    return .skipped opcode
  | 9 =>                             -- extended synchronisation
    skipUb2
    skip 1
    return .skipped opcode
  | _ => fail (.fieldNotDecodable "server piggyback opcode")

end Decode

end TnsClient
