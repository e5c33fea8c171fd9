import TnsClient.Text.Blank

set_option autoImplicit false

/-!
# Kinds of statements

The first word of a statement says what kind it is. In front of that word there may be blanks,
opening parentheses and comments: from two hyphens to the end of the line, or between `/*` and the
first `*/` behind it.

## Main definitions

* `TnsClient.StatementKind` — the kinds.
* `TnsClient.undecorated` — a text without what may stand in front of its first word.
* `TnsClient.StatementKind.ofSql` — the kind of a statement.
-/

namespace TnsClient

/-- What a statement is, as far as sending it is concerned. -/
inductive StatementKind where
  /-- It yields rows. -/
  | query
  /-- It changes rows. -/
  | dml
  /-- It changes definitions. -/
  | ddl
  /-- It is a block of the procedural language, or a call. -/
  | plSql
  /-- It is none of these. -/
  | other
  deriving DecidableEq, Repr

/-! ## What stands in front of the first word -/

/-- Where in the decoration a character stands. -/
inductive Decoration where
  /-- Outside of comments. -/
  | plain
  /-- In a comment up to the end of the line. -/
  | line
  /-- In a comment up to its closing mark. -/
  | block
  deriving DecidableEq, Repr

/-- What is left of a text behind its decoration, from a place in that decoration on. A comment that
does not end leaves nothing. -/
def strip : Decoration → List Char → List Char
  | _, [] => []
  | .line, c :: rest => strip (if c = '\n' then .plain else .line) rest
  | .block, '*' :: '/' :: rest => strip .plain rest
  | .block, _ :: rest => strip .block rest
  | .plain, '-' :: '-' :: rest => strip .line rest
  | .plain, '/' :: '*' :: rest => strip .block rest
  | .plain, c :: rest => if Text.isBlank c || c == '(' then strip .plain rest else c :: rest

/-- A text without the blanks, opening parentheses and comments in front of it. -/
def undecorated (text : List Char) : List Char := strip .plain text

/-! ## The first word -/

/-- The first word of a statement, in small letters. Only ASCII letters make words. -/
def leadingWord (text : List Char) : List Char :=
  ((undecorated text).takeWhile Char.isAlpha).map Char.toLower

namespace StatementKind

/-- The first words of queries. -/
def queryWords : List String := ["select", "with"]

/-- The first words of statements that change rows. -/
def dmlWords : List String := ["insert", "update", "delete", "merge"]

/-- The first words of statements that change definitions. -/
def ddlWords : List String :=
  ["create", "alter", "drop", "grant", "revoke", "analyze", "audit", "comment", "truncate"]

/-- The first words of blocks and calls. -/
def plSqlWords : List String := ["declare", "begin", "call"]

/-- The kind that a first word stands for. -/
def ofWord (word : String) : StatementKind :=
  if queryWords.contains word then query
  else if dmlWords.contains word then dml
  else if ddlWords.contains word then ddl
  else if plSqlWords.contains word then plSql
  else other

/-- The kind of a statement. -/
def ofSql (sql : String) : StatementKind := ofWord (String.ofList (leadingWord sql.toList))

/-- The name of a kind. -/
def name : StatementKind → String
  | query => "Query"
  | dml => "Dml"
  | ddl => "Ddl"
  | plSql => "PlSql"
  | other => "Other"

/-- Whether statements of the kind yield rows. -/
def isQuery (kind : StatementKind) : Bool := kind == query

/-- Whether the cursor of a statement of the kind is kept for the next time. -/
def isCacheable : StatementKind → Bool
  | query | dml | plSql => true
  | ddl | other => false

end StatementKind

end TnsClient
