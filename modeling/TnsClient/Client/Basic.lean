import TnsClient.Cleanup
import TnsClient.Client.Action
import TnsClient.Client.StatementCache
import TnsClient.Client.TaskQueue
import TnsClient.Text.Outline

set_option autoImplicit false

/-!
# The client

A client is one end of one connection. It is driven by events: the transport is open, a message has
come, a caller submits or cancels a task, the transport has failed. Each event runs to its end at
once, and says what is to be done next and which handles have learned their outcome. At most one
task is in flight; all others wait in order.

## Main definitions

* `TnsClient.Client` — the state of a client; `TnsClient.Client.new` is a client that has done
  nothing.
* `TnsClient.Client.Step` — what an event comes to.
* `TnsClient.Client.fail`, `TnsClient.Client.lost` — the ends of a connection.
-/

namespace TnsClient

/-- The task in flight and what its answer has brought so far. -/
structure InFlight where
  /-- The task. -/
  task : Task
  /-- The result of a statement. -/
  result : QueryResult := {}
  /-- The result of an operation on a large object, without what was read. -/
  lob : LobResult := {}
  /-- What was read. -/
  lobData : Option Bytes := none
  /-- The failure that the server has reported. -/
  failure : Option ErrorBlock := none
  /-- Whether there are more rows to fetch. -/
  moreRows : Bool := false
  deriving DecidableEq, Repr

/-- The state of a client. -/
structure Client where
  /-- The hash functions and the cipher for the logon. -/
  primitives : Primitives
  /-- The source of random octets for the logon. -/
  random : RandomSource
  /-- Who logs on, and how. -/
  credentials : Credentials
  /-- The phase of the connection. -/
  phase : Phase := .connecting
  /-- What client and server have agreed on. -/
  capabilities : Capabilities := Capabilities.initial
  /-- What the server sent during logon. -/
  session : SessionData := SessionData.empty
  /-- The proof of the password, until the server has answered it. -/
  verifier : Option Verifier := none
  /-- Whether this step of the logon has brought parameters. -/
  parametersSeen : Bool := false
  /-- Whether a request has not been answered. -/
  awaiting : Bool := false
  /-- Whether a break was acknowledged during this answer. -/
  resetSent : Bool := false
  /-- The last request. -/
  lastRequest : Option Request := none
  /-- The task in flight. -/
  inFlight : Option InFlight := none
  /-- The tasks that wait. -/
  queue : TaskQueue Task := {}
  /-- The handles whose callers have stopped waiting. -/
  abandoned : List Handle := []
  /-- The open cursors. -/
  statements : StatementCache
  /-- What the next request should clean up. -/
  cleanup : Cleanup := {}
  /-- The identifier of the session and its serial number, once the server has sent them. -/
  sessionState : Option (UInt32 × UInt16) := none
  /-- The identifier of the logical transaction. -/
  transactionId : Option Bytes := none

/-- The number of cursors that are kept open unless the caller wants otherwise. -/
def defaultCacheSize : Nat := 20

namespace Client

/-- A client that has done nothing. -/
def new (credentials : Credentials) (random : RandomSource) (cacheSize : Nat) : Client where
  primitives := Primitives.standard
  random
  credentials
  statements := { capacity := cacheSize }

/-- What an event comes to. -/
structure Step where
  /-- The client afterwards. -/
  client : Client
  /-- What is to be done next. -/
  action : Action := .wait
  /-- The handles that have learned their outcome, in this order. -/
  resolved : List Resolution := []

/-- The step of an event that nothing comes of. -/
def idle (client : Client) : Step where
  client

/-- The step of sending a request, which is kept in case the server asks for it again. -/
def send (client : Client) (request : Request) : Step where
  client := { client with lastRequest := some request }
  action := .send request

/-- Begins to wait for the answer to a request. -/
def expectAnswer (client : Client) : Client :=
  { client with awaiting := true, resetSent := false }

/-- Whether a task is in flight. -/
def isBusy (client : Client) : Bool := client.inFlight.isSome

/-! ## The ends of a connection -/

/-- The tasks in flight and waiting, in this order. -/
def pendingTasks (client : Client) : List Task :=
  (client.inFlight.map InFlight.task).toList ++ client.queue.drain.1

/-- Resolves all tasks with an error. -/
def failAll (client : Client) (error : ClientError) : Step where
  client := { client with awaiting := false, inFlight := none, queue := client.queue.drain.2 }
  resolved := client.pendingTasks.flatMap fun task => task.fail error

/-- The connection cannot go on: all tasks fail, and it is closed. -/
def fail (client : Client) (error : ClientError) : Step :=
  if client.phase.isOver then client.idle
  else
    let step := client.failAll error
    { step with
      client := { step.client with phase := .errored }
      action := .close (some error) }

/-- A message came that was not expected. -/
def unexpected (client : Client) (message : Unexpected) : Step := client.fail (.unexpected message)

/-- The transport is gone, or the client itself is given up: whoever still waits learns that the
connection is closed. -/
def lost (client : Client) : Step :=
  if client.phase = .closed then client.idle
  else
    let step := client.failAll .closed
    { step with client := { step.client with phase := .closed } }

/-! ## What callers may say at any time -/

/-- The caller of a handle has stopped waiting. -/
def abandon (client : Client) (handle : Handle) : Client :=
  { client with abandoned := handle :: client.abandoned }

/-- A temporary large object is no longer needed. -/
def releaseLob (client : Client) (locator : Bytes) : Client :=
  { client with cleanup := client.cleanup.freeLob locator }

/-- What the next request should clean up; the client forgets it. -/
def takeCleanup (client : Client) : Cleanup × Client :=
  (client.cleanup, { client with cleanup := {} })

/-- A client on one line. -/
def shown (client : Client) : String :=
  Text.outlinePart "ConnectionStateMachine"
    [("state", client.phase.name), ("queued", toString client.queue.size),
      ("in_flight", Text.truth client.isBusy)]

end Client

end TnsClient
