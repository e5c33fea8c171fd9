import TnsClient.Client.QueryResult
import TnsClient.Lob
import TnsClient.Statement.Request

set_option autoImplicit false

/-!
# Tasks

A task is something a caller wants done on a connection. The caller holds a handle, through which it
learns the outcome once; it may stop waiting, and then the handle is abandoned. Pings need not be
told apart, so one ping may have many handles.

## Main definitions

* `TnsClient.Task` — what is to be done; `TnsClient.Task.handles` are the handles of its callers.
* `TnsClient.Reply`, `TnsClient.Outcome` — what a handle learns.
* `TnsClient.Resolution` — a handle and what it learned.
-/

namespace TnsClient

/-- The number of a handle. -/
abbrev Handle := Nat

/-- Something a caller wants done. -/
inductive Task where
  /-- The server should answer. -/
  | ping (handles : List Handle)
  /-- A statement is executed. -/
  | statement (request : StatementRequest) (handle : Handle)
  /-- A large object is worked on. -/
  | lob (request : LobRequest) (handle : Handle)
  /-- The session ends, and then the connection. -/
  | close (handle : Handle)
  deriving DecidableEq, Repr

/-- What a task that succeeds yields. -/
inductive Reply where
  /-- Nothing but that it succeeded. -/
  | done
  /-- The result of a statement. -/
  | statement (result : QueryResult)
  /-- The result of an operation on a large object. -/
  | lob (result : LobResult)
  deriving DecidableEq, Repr

/-- What becomes of a task. -/
abbrev Outcome := Except ClientError Reply

/-- What a handle learned. -/
structure Resolution where
  /-- The handle. -/
  handle : Handle
  /-- What became of its task. -/
  outcome : Outcome

namespace Task

/-- The handles of a task. -/
def handles : Task → List Handle
  | ping handles => handles
  | statement _ handle | lob _ handle | close handle => [handle]

/-- Whether a task is a ping. -/
def isPing : Task → Bool
  | ping _ => true
  | _ => false

/-- A ping with more handles; no other task takes more. -/
def join? (handles : List Handle) : Task → Option Task
  | ping others => some (ping (others ++ handles))
  | _ => none

/-- Whether none of its callers waits for a task any more. -/
def isAbandoned (abandoned : List Handle) (task : Task) : Bool :=
  task.handles.all fun handle => abandoned.contains handle

/-- Resolves all handles of a task alike. -/
def resolve (task : Task) (outcome : Outcome) : List Resolution :=
  task.handles.map fun handle => ⟨handle, outcome⟩

/-- Resolves all handles of a task with an error. -/
def fail (task : Task) (error : ClientError) : List Resolution := task.resolve (.error error)

end Task

end TnsClient
