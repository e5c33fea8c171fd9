import TnsClient.Message.Column

set_option autoImplicit false

/-!
# Open cursors

A client keeps the cursors of statements open, so that a statement that comes again need not be sent
and parsed. It keeps at most a given number of them; the one that was not used for the longest time
makes room. Whatever cursor falls out has to be closed on the server.

## Main definitions

* `TnsClient.StatementCache` — the cursors, by the text of their statements.
* `TnsClient.StatementCache.get?`, `TnsClient.StatementCache.insert`,
  `TnsClient.StatementCache.remove` — using and keeping a cursor, and forgetting it.
-/

namespace TnsClient

/-- An open cursor. -/
structure CachedStatement where
  /-- The cursor. -/
  cursor : UInt16
  /-- The columns of its rows. -/
  columns : Option (List Column)
  deriving DecidableEq, Repr

/-- The open cursors of a client. -/
structure StatementCache where
  /-- The greatest number of cursors. -/
  capacity : Nat
  /-- The cursors by the text of their statements, the one used last in front. -/
  entries : List (String × CachedStatement) := []
  deriving DecidableEq, Repr

namespace StatementCache

/-- The number of cursors. -/
def size (cache : StatementCache) : Nat := cache.entries.length

/-- Whether there are no cursors. -/
def isEmpty (cache : StatementCache) : Bool := cache.entries.isEmpty

/-- The cursor of a statement. -/
def find? (cache : StatementCache) (sql : String) : Option CachedStatement :=
  cache.entries.lookup sql

/-- The other cursors. -/
def others (cache : StatementCache) (sql : String) : List (String × CachedStatement) :=
  cache.entries.filter fun (text, _) => text != sql

/-- Uses the cursor of a statement. -/
def get? (cache : StatementCache) (sql : String) : Option CachedStatement × StatementCache :=
  match cache.find? sql with
  | none => (none, cache)
  | some statement =>
    (some statement, { cache with entries := (sql, statement) :: cache.others sql })

/-- What makes room for the cursor of a statement: its older cursor, or, if the cache is full, the
cursor that was not used for the longest time. -/
def displaced? (cache : StatementCache) (sql : String) : Option CachedStatement :=
  match cache.find? sql with
  | some old => some old
  | none => if cache.size < cache.capacity then none else cache.entries.getLast?.map Prod.snd

/-- Keeps the cursor of a statement, and says which cursor has to be closed for it. A cache without
room keeps nothing. -/
def insert (cache : StatementCache) (sql : String) (statement : CachedStatement) :
    Option UInt16 × StatementCache :=
  if cache.capacity = 0 then (some statement.cursor, cache)
  else
    let closing := (cache.displaced? sql).map CachedStatement.cursor
    (closing.filter (· != statement.cursor),
      { cache with entries := ((sql, statement) :: cache.others sql).take cache.capacity })

/-- Forgets the cursor of a statement, which has to be closed. -/
def remove (cache : StatementCache) (sql : String) : Option UInt16 × StatementCache :=
  ((cache.find? sql).map CachedStatement.cursor, { cache with entries := cache.others sql })

end StatementCache

end TnsClient
