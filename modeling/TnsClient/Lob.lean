import TnsClient.Message.Parameters

set_option autoImplicit false

/-!
# Operations on large objects

The server keeps large objects; a client works on them by locator. Positions count from 1, in
characters or in octets, depending on the object.

## Main definitions

* `TnsClient.LobOperation`, `TnsClient.LobRequest` — what a client asks for.
* `TnsClient.LobRequest.shape` — the shape of the answer.
* `TnsClient.LobResult` — what it gets.
-/

namespace TnsClient

/-- What is done to a large object. -/
inductive LobOperation where
  /-- Its length is asked for. -/
  | length
  /-- An amount is read from a position on. -/
  | read (offset amount : UInt64)
  /-- Octets are written at a position. -/
  | write (offset : UInt64) (data : Bytes)
  /-- It is cut to a size. -/
  | trim (size : UInt64)
  /-- An amount is copied between it and the object of another locator. -/
  | copy (dest : Bytes) (sourceOffset destOffset amount : UInt64)
  deriving DecidableEq, Repr

/-- A request for an operation on a large object. -/
structure LobRequest where
  /-- The locator of the object. -/
  locator : Bytes
  /-- What is done to it. -/
  operation : LobOperation
  deriving DecidableEq, Repr

namespace LobRequest

/-- The code of the operation. -/
def opcode (request : LobRequest) : UInt32 :=
  match request.operation with
  | .length => LobOpcode.length
  | .read .. => LobOpcode.read
  | .write .. => LobOpcode.write
  | .trim _ => LobOpcode.trim
  | .copy .. => LobOpcode.copy

/-- The second locator, if the operation has one. -/
def dest? (request : LobRequest) : Option Bytes :=
  match request.operation with
  | .copy dest .. => some dest
  | _ => none

/-- Whether the request carries an amount, and the answer returns one. -/
def sendsAmount (request : LobRequest) : Bool :=
  match request.operation with
  | .write .. => false
  | _ => true

/-- The shape of the answer. -/
def shape (request : LobRequest) : LobShape where
  sourceLength := request.locator.length
  destLength := (request.dest?.map List.length).getD 0
  opcode := request.opcode
  sendsAmount := request.sendsAmount

end LobRequest

/-- What an operation on a large object yields. -/
structure LobResult where
  /-- What was read. -/
  data : Option Bytes := none
  /-- The amount that the server returned. -/
  amount : Option Int64 := none
  /-- The locator of the object, as it is now. -/
  locator : Option Bytes := none
  /-- The second locator, as it is now. -/
  dest : Option Bytes := none
  deriving DecidableEq, Repr

end TnsClient
