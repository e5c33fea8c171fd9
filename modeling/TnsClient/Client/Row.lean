import TnsClient.Client.Error
import TnsClient.Message.Row

set_option autoImplicit false

/-!
# Rows of results

A row holds the values that the server sent, with those filled in that it left out because they were
unchanged. A value is read at a position, or at the first column of a name; names are compared
without regard to the case of ASCII letters.

## Main definitions

* `TnsClient.Row` — a row and its columns.
* `TnsClient.Row.get`, `TnsClient.Row.get?`, `TnsClient.Row.getNamed` — values of a type.
* `TnsClient.fillUnchanged` — the values of a row, given those of the row before.
-/

namespace TnsClient

/-- A row of a result. -/
structure Row where
  /-- The values. -/
  values : List ColumnValue
  /-- The columns. -/
  columns : List Column
  deriving DecidableEq, Repr

/-! ## Unchanged values -/

/-- Fills in the values that are marked as unchanged, from the row before; without a row before, or
beyond its end, they are null. -/
def fillUnchanged : (previous values : List ColumnValue) → List ColumnValue
  | _, [] => []
  | previous, .duplicate :: rest =>
    previous.head?.getD .null :: fillUnchanged previous.tail rest
  | previous, value :: rest => value :: fillUnchanged previous.tail rest

namespace Row

/-! ## Values as they are -/

/-- The position of the first column of a name. -/
def columnIndex? (row : Row) (name : String) : Option Nat :=
  row.columns.findIdx? fun column => column.name.toLower == name.toLower

/-- The value at a position. -/
def value? (row : Row) (index : Nat) : Option ColumnValue := row.values[index]?

/-- The octets at a position, unless there are none. -/
def octets? (row : Row) (index : Nat) : Option Bytes :=
  match row.value? index with
  | some (.bytes octets) => some octets
  | _ => none

/-- The large object at a position, unless there is none. -/
def lob? (row : Row) (index : Nat) : Option LobLocator :=
  match row.value? index with
  | some (.lob locator) => some locator
  | _ => none

/-- Whether there is no value at a position. -/
def isNull (row : Row) (index : Nat) : Bool :=
  match row.value? index with
  | none | some .null => true
  | _ => false

/-! ## Values of a type -/

variable {α : Type} [FromColumn α]

/-- The value at a position, none if it is null. -/
def get? (row : Row) (index : Nat) : Except ConversionError (Option α) :=
  match row.values[index]?, row.columns[index]? with
  | some value, some column =>
    match value with
    | .null | .duplicate => .ok none
    | .bytes octets => (fromColumn column.type octets).map some
    | .lob _ => .error (.unexpectedType "inline value" column.type)
  | _, _ => .error (.noColumnAt index)

/-- The value at a position, where null is an error. -/
def get (row : Row) (index : Nat) : Except ConversionError α := do
  match ← row.get? index with
  | some value => return value
  | none => throw .unexpectedNull

/-- The value of the first column of a name. -/
def getNamed (row : Row) (name : String) : Except ConversionError α :=
  match row.columnIndex? name with
  | some index => row.get index
  | none => .error (.noColumnNamed name)

/-- The value at a position, none also where it is not of the type. -/
def getIfAny (row : Row) (index : Nat) : Option α :=
  match row.get? index with
  | .ok value => value
  | .error _ => none

end Row

end TnsClient
