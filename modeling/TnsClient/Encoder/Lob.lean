import TnsClient.Encoder.Statement
import TnsClient.Lob

set_option autoImplicit false

/-!
# Working on large objects

One call serves all operations on large objects; an operation leaves the fields empty that it does
not need.

## Main definitions

* `TnsClient.LobRequest.arguments` — the arguments of the call.
* `TnsClient.Encoder.lob` — the request.
-/

namespace TnsClient

namespace LobOperation

/-- The position in the object. -/
def sourceOffset : LobOperation → UInt64
  | read offset _ | write offset _ | copy _ offset _ _ => offset
  | length | trim _ => 0

/-- The position in the second object. -/
def destOffset : LobOperation → UInt64
  | copy _ _ offset _ => offset
  | _ => 0

/-- The amount, or the new size. -/
def amount : LobOperation → UInt64
  | read _ amount | copy _ _ _ amount | trim amount => amount
  | length | write .. => 0

/-- The message that carries what is written. -/
def payload : LobOperation → Bytes
  | write _ data => MessageKind.lobData :: Encode.byteString data
  | _ => []

end LobOperation

namespace LobRequest

/-- The arguments of the call. -/
def arguments (request : LobRequest) : Bytes :=
  announce true request.locator.length
    ++ announce request.dest?.isSome (request.dest?.getD []).length
    ++ Encode.ub4 0  -- position, for short objects
    ++ Encode.ub4 0  -- position in the second one
    ++ [0, 0, 0]     -- character set, amount for short objects, null
    ++ Encode.ub4 request.opcode
    ++ [0, 0]        -- change number
    ++ Encode.ub8 request.operation.sourceOffset
    ++ Encode.ub8 request.operation.destOffset
    ++ [if request.sendsAmount then 1 else 0]
    ++ List.replicate 6 0  -- arrays of objects
    ++ request.locator
    ++ request.dest?.getD []
    ++ request.operation.payload
    ++ (if request.sendsAmount then Encode.ub8 request.operation.amount else [])

end LobRequest

/-- The packets of a request for an operation on a large object. -/
def Encoder.lob (encoder : Encoder) (cleanup : Cleanup) (request : LobRequest) :
    Bytes × Encoder :=
  encoder.send (cleanup.calls ++ [.function FunctionCode.lob request.arguments])

end TnsClient
