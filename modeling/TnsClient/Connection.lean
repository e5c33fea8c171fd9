import TnsClient.Link

set_option autoImplicit false

/-!
# Connections

A connection is what callers hold. Each thing that a caller asks of it becomes a task, whose outcome
the caller collects. The session ends by itself once nobody holds the connection any more; whoever
has an outcome to collect holds it too.

## Main definitions

* `TnsClient.Operation` — what a caller may ask for; `TnsClient.Answer` — what it gets.
* `TnsClient.Connection` — a connection and those who hold it.
* `TnsClient.Connection.call`, `TnsClient.Connection.collect` — asking, and collecting the outcome.
-/

namespace TnsClient

/-! ## What callers ask for -/

/-- What a caller may ask for. Large objects are named by their locators. -/
inductive Operation where
  /-- The server should answer. -/
  | ping
  /-- The session ends. -/
  | close
  /-- The work is committed. -/
  | commit
  /-- The work is undone. -/
  | rollback
  /-- A statement is executed for its row count. -/
  | execute (sql : String) (binds : List Bind)
  /-- A statement is executed for its rows. -/
  | query (sql : String) (binds : List Bind)
  /-- A statement is executed with options, for its whole result. -/
  | executeWith (sql : String) (binds : List Bind) (options : ExecuteOptions)
  /-- A statement is submitted. The caller collects its result later, and may cancel it. -/
  | submit (request : StatementRequest)
  /-- The length of a large object. -/
  | lobLength (lob : Bytes)
  /-- An amount of a large object, from a position on. -/
  | lobRead (lob : Bytes) (offset amount : UInt64)
  /-- Octets are written to a large object at a position. -/
  | lobWrite (lob : Bytes) (offset : UInt64) (data : Bytes)
  /-- A large object is cut to a size. -/
  | lobTrim (lob : Bytes) (size : UInt64)
  /-- An amount of a large object is copied into another one. -/
  | lobCopy (source : Bytes) (sourceOffset : UInt64) (dest : Bytes) (destOffset amount : UInt64)
  deriving DecidableEq, Repr

/-- What a caller gets. -/
inductive Answer where
  /-- Nothing but that it is done. -/
  | done
  /-- A number of rows, or a length. -/
  | count (number : UInt64)
  /-- Rows. -/
  | rows (rows : List Row)
  /-- The result of a statement. -/
  | result (result : QueryResult)
  /-- The contents of a large object, or its locator. -/
  | octets (octets : Bytes)
  deriving DecidableEq, Repr

namespace Operation

/-- The task of a statement. -/
def statementTask (sql : String) (binds : List Bind) (options : ExecuteOptions)
    (handle : Handle) : Task :=
  .statement (StatementRequest.ofSql sql binds options) handle

/-- The task by which something is done. -/
def task (operation : Operation) (handle : Handle) : Task :=
  match operation with
  | ping => .ping [handle]
  | close => .close handle
  | commit => statementTask "commit" [] {} handle
  | rollback => statementTask "rollback" [] {} handle
  | execute sql binds | query sql binds => statementTask sql binds {} handle
  | executeWith sql binds options => statementTask sql binds options handle
  | submit request => .statement request handle
  | lobLength lob => .lob ⟨lob, .length⟩ handle
  | lobRead lob offset amount => .lob ⟨lob, .read offset amount⟩ handle
  | lobWrite lob offset data => .lob ⟨lob, .write offset data⟩ handle
  | lobTrim lob size => .lob ⟨lob, .trim size⟩ handle
  | lobCopy source sourceOffset dest destOffset amount =>
    .lob ⟨source, .copy dest sourceOffset destOffset amount⟩ handle

/-- The part of a reply that the caller asked for. -/
def answer (operation : Operation) (reply : Reply) : Answer :=
  match operation, reply with
  | execute .., .statement result => .count result.rowCount
  | query .., .statement result => .rows result.rows
  | executeWith .., .statement result | submit _, .statement result => .result result
  | lobLength _, .lob result => .count (max (result.amount.getD 0) 0).toUInt64
  | lobRead .., .lob result => .octets (result.data.getD [])
  | lobWrite lob .., .lob result => .octets (result.locator.getD lob)
  | _, _ => .done

end Operation

/-! ## Connections -/

/-- A connection and those who hold it. -/
structure Connection where
  /-- The link. -/
  link : Link
  /-- The milliseconds within which there has to be a session. -/
  timeout : Nat
  /-- Whether the connection itself is held. -/
  held : Bool := true
  /-- What was asked for and not collected. -/
  calls : List (Handle × Operation) := []
  /-- The number of handles so far. -/
  handles : Nat := 0
  /-- Whether the session was ended because nobody held the connection. -/
  leaving : Bool := false

namespace Connection

/-- Asks for a connection. -/
def connect (options : ConnectOptions) (random : RandomSource) : Connection where
  link := Link.connect options random
  timeout := options.descriptor.timeout

/-- Whether the connection is over. -/
def isClosed (connection : Connection) : Bool := connection.link.isFinished

/-- Whether anybody holds the connection. A call holds it until its outcome is collected, also
where the outcome is there already. -/
def isHeld (connection : Connection) : Bool := connection.held || !connection.calls.isEmpty

/-- Ends the session once nobody holds the connection. -/
def settle (connection : Connection) : Connection :=
  if connection.isHeld || connection.leaving then connection
  else
    let handle := connection.handles
    { connection with
      link := connection.link.command (.submit handle (.close handle))
      handles := handle + 1
      leaving := true }

/-- Changes the link. -/
def update (connection : Connection) (change : Link → Link) : Connection :=
  { connection with link := change connection.link }

/-! ## What comes from the server -/

/-- Octets have come. -/
def receive (connection : Connection) (octets : Bytes) : Connection :=
  connection.update fun link => link.receive octets

/-- The server's stream has ended. -/
def ended (connection : Connection) : Connection := connection.update Link.ended

/-- What the logon has come to; when it is asked for too early, the time allowed runs out. -/
def session (connection : Connection) : Except ClientError SessionData × Connection :=
  match connection.link.logon with
  | some outcome => (outcome, connection)
  | none =>
    (.error (.timeout connection.timeout),
      connection.update fun link => link.timeOut connection.timeout)

/-! ## What comes from callers -/

/-- A caller asks for something, and gets a handle. -/
def call (connection : Connection) (operation : Operation) : Handle × Connection :=
  let handle := connection.handles
  (handle,
    { connection with
      calls := connection.calls ++ [(handle, operation)]
      handles := handle + 1 }.update fun link =>
        link.command (.submit handle (operation.task handle)))

/-- What was asked for under a handle. -/
def operation? (connection : Connection) (handle : Handle) : Option Operation :=
  connection.calls.lookup handle

/-- Forgets a call. -/
def drop (connection : Connection) (handle : Handle) : Connection :=
  { connection with calls := connection.calls.filter fun (other, _) => other != handle }

/-- A caller collects an outcome, if there is one. -/
def collect (connection : Connection) (handle : Handle) :
    Option (Except ClientError Answer) × Connection :=
  match connection.operation? handle, connection.link.outcome? handle with
  | some operation, some outcome =>
    (some (outcome.map operation.answer), (connection.drop handle).settle)
  | _, _ => (none, connection)

/-- A caller stops waiting. -/
def forget (connection : Connection) (handle : Handle) : Connection :=
  ((connection.drop handle).update fun link => link.abandon handle).settle

/-- A caller cancels what it has submitted. -/
def cancel (connection : Connection) (handle : Handle) : Connection :=
  match connection.operation? handle with
  | some (.submit _) => connection.update fun link => link.command (.cancel handle)
  | _ => connection

/-- A temporary large object is no longer needed. -/
def releaseLob (connection : Connection) (locator : Bytes) : Connection :=
  connection.update fun link => link.command (.releaseLob locator)

/-- The connection itself is let go. -/
def release (connection : Connection) : Connection := { connection with held := false }.settle

end Connection

end TnsClient
