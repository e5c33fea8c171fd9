import TnsClient.Client.Row

set_option autoImplicit false

/-!
# Results of statements

## Main definitions

* `TnsClient.QueryResult` — what a statement yields.
* `TnsClient.QueryResult.push` — adding a row.
-/

namespace TnsClient

/-- What a statement yields. -/
structure QueryResult where
  /-- The columns, if it has any. -/
  columns : Option (List Column) := none
  /-- The rows. -/
  rows : List Row := []
  /-- The number of rows fetched or affected. -/
  rowCount : UInt64 := 0
  /-- A warning that came along. -/
  warning : Option ErrorBlock := none
  /-- The cursor, 0 for none. -/
  cursor : UInt16 := 0
  deriving DecidableEq, Repr

namespace QueryResult

/-- Adds a row, with unchanged values filled in from the row before. Without columns there are no
rows. -/
def push (result : QueryResult) (values : List ColumnValue) : QueryResult :=
  match result.columns with
  | none => result
  | some columns =>
    let previous := (result.rows.getLast?.map Row.values).getD []
    { result with rows := result.rows ++ [⟨fillUnchanged previous values, columns⟩] }

/-- The octets of the first column of the first row. -/
def scalarOctets? (result : QueryResult) : Option Bytes := do
  (← result.rows.head?).octets? 0

end QueryResult

end TnsClient
