import TnsClient.Bytes

set_option autoImplicit false

/-!
# Cleanup

Cursors to close and temporary large objects to free wait until a request is sent that can carry
them.

## Main definitions

* `TnsClient.Cleanup` — what waits.
* `TnsClient.Cleanup.closeCursor`, `TnsClient.Cleanup.freeLob` — adding to it.
-/

namespace TnsClient

/-- What the next request should clean up. -/
structure Cleanup where
  /-- The cursors to close, in the order in which they came. -/
  cursors : List UInt16 := []
  /-- The locators of the temporary objects to free. -/
  lobs : List Bytes := []
  /-- The octets of all these locators together. -/
  lobSize : Nat := 0
  deriving DecidableEq, Repr

namespace Cleanup

/-- Adds a cursor, unless it waits already. Cursor 0 is none. -/
def closeCursor (cleanup : Cleanup) (cursor : UInt16) : Cleanup :=
  if cursor = 0 ∨ cursor ∈ cleanup.cursors then cleanup
  else { cleanup with cursors := cleanup.cursors ++ [cursor] }

/-- Adds a cursor, if there is one. -/
def closeCursor? (cleanup : Cleanup) : Option UInt16 → Cleanup
  | some cursor => cleanup.closeCursor cursor
  | none => cleanup

/-- Adds a temporary large object. -/
def freeLob (cleanup : Cleanup) (locator : Bytes) : Cleanup :=
  { cleanup with
    lobs := cleanup.lobs ++ [locator]
    lobSize := cleanup.lobSize + locator.length }

/-- Whether nothing waits. -/
def isEmpty (cleanup : Cleanup) : Bool := cleanup.cursors.isEmpty && cleanup.lobs.isEmpty

end Cleanup

end TnsClient
