import TnsClient.Text.Outline

set_option autoImplicit false

/-!
# Session data

During logon the server sends named values, each with flags. A value that comes again under the
same name replaces the earlier one.

## Main definitions

* `TnsClient.SessionData` — the values held, by name.
* `TnsClient.SessionData.insert`, `TnsClient.SessionData.extend` — adding values.
* `TnsClient.SessionData.find?` — the value of a name.
-/

namespace TnsClient

/-- A value that the server sent during logon. -/
structure SessionValue where
  /-- The text of the value. -/
  value : String
  /-- The flags it came with. -/
  flags : UInt32
  deriving DecidableEq, Repr

/-- The values that the server sent during logon, in the order their names first came in. -/
structure SessionData where
  /-- Names and values; no name occurs twice. -/
  entries : List (String × SessionValue)
  deriving DecidableEq, Repr

namespace SessionData

/-- No values. -/
def empty : SessionData := ⟨[]⟩

instance : Inhabited SessionData := ⟨empty⟩

/-- The value of a name. -/
def find? (data : SessionData) (name : String) : Option SessionValue :=
  data.entries.lookup name

/-- The text of the value of a name. -/
def value? (data : SessionData) (name : String) : Option String :=
  (data.find? name).map (·.value)

/-- The flags of the value of a name. -/
def flags? (data : SessionData) (name : String) : Option UInt32 :=
  (data.find? name).map (·.flags)

/-- Puts a value in the place of the one of its name, or behind all others. -/
def put (name : String) (value : SessionValue) :
    List (String × SessionValue) → List (String × SessionValue)
  | [] => [(name, value)]
  | (other, old) :: rest =>
    if other = name then (name, value) :: rest else (other, old) :: put name value rest

/-- Adds a value, which replaces the one of its name. -/
def insert (data : SessionData) (name value : String) (flags : UInt32) : SessionData :=
  ⟨put name ⟨value, flags⟩ data.entries⟩

/-- Adds all values of `other`, which replace those of their names. -/
def extend (data other : SessionData) : SessionData :=
  ⟨other.entries.foldl (fun entries (name, value) => put name value entries) data.entries⟩

/-- The number of values. -/
def size (data : SessionData) : Nat := data.entries.length

/-- The data on one line: the names only, in order, since the values hold key material. -/
def shown (data : SessionData) : String :=
  let names := (data.entries.map Prod.fst).mergeSort fun a b => decide (a ≤ b)
  Text.outline "SessionData" [("keys", Text.bracketed (names.map Text.quote))]

end SessionData

end TnsClient
