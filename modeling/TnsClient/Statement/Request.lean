import TnsClient.Message.Column
import TnsClient.Statement.Bind
import TnsClient.Statement.Kind

set_option autoImplicit false

/-!
# Requests for statements

## Main definitions

* `TnsClient.ExecuteOptions` — how a statement is executed.
* `TnsClient.StatementRequest` — a statement that is ready to be sent.
* `TnsClient.StatementRequest.needsParse` — whether its text has to be sent.
-/

namespace TnsClient

/-- How a statement is executed. -/
structure ExecuteOptions where
  /-- The rows that come with the answer to the execution. -/
  prefetchRows : UInt32 := 2
  /-- The rows that come with each answer after that. -/
  arraySize : UInt32 := 100
  /-- Whether the work is committed at once. -/
  autoCommit : Bool := false
  deriving DecidableEq, Repr

/-- The options with a number of rows for each answer, of which there is at least one. -/
def ExecuteOptions.withArraySize (options : ExecuteOptions) (size : UInt32) : ExecuteOptions :=
  { options with arraySize := max size 1 }

/-- A statement that is ready to be sent. -/
structure StatementRequest where
  /-- The text. -/
  sql : String
  /-- What kind of statement it is. -/
  kind : StatementKind
  /-- The bind parameters. -/
  binds : List Bind
  /-- How it is executed. -/
  options : ExecuteOptions
  /-- The open cursor of the statement, 0 if there is none. -/
  cursor : UInt16
  /-- The columns seen when the cursor was opened. -/
  columns : Option (List Column)
  deriving DecidableEq, Repr

namespace StatementRequest

/-- A request for a statement that has no open cursor. -/
def ofSql (sql : String) (binds : List Bind) (options : ExecuteOptions) : StatementRequest where
  sql
  kind := StatementKind.ofSql sql
  binds
  options
  cursor := 0
  columns := none

/-- Whether the text has to be sent: there is no open cursor, or definitions are changed. -/
def needsParse (request : StatementRequest) : Bool :=
  request.cursor == 0 || request.kind == .ddl

end StatementRequest

end TnsClient
