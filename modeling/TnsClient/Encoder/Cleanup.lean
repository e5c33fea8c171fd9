import TnsClient.Cleanup
import TnsClient.Encoder
import TnsClient.Message.Parameters

set_option autoImplicit false

/-!
# Calls that clean up

What waits to be cleaned up is sent in calls that are not answered, in front of a call that is: one
that closes all cursors, and one that frees all temporary large objects.

## Main definitions

* `TnsClient.Cleanup.calls` — these calls.
-/

namespace TnsClient.Cleanup

/-- The arguments of the call that closes cursors. -/
def closeArguments (cursors : List UInt16) : Bytes :=
  [1] ++ Encode.count cursors.length ++
    cursors.flatMap fun cursor => Encode.ub4 cursor.toUInt32

/-- The arguments of the call that frees temporary large objects, whose locators take `size`
octets. All other fields of an operation on a large object are empty. -/
def freeArguments (lobs : List Bytes) (size : Nat) : Bytes :=
  [1] ++ Encode.count size ++
    List.replicate 7 0 ++
    Encode.ub4 (LobOpcode.freeTemporary ||| LobOpcode.array) ++
    List.replicate 11 0 ++
    lobs.flatten

/-- The calls that clean up. -/
def calls (cleanup : Cleanup) : List Call :=
  (if cleanup.cursors.isEmpty then []
    else [.piggyback FunctionCode.closeCursors (closeArguments cleanup.cursors)]) ++
  (if cleanup.lobs.isEmpty then []
    else [.piggyback FunctionCode.lob (freeArguments cleanup.lobs cleanup.lobSize)])

end TnsClient.Cleanup
