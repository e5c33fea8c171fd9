import TnsClient.Encoder.Cleanup
import TnsClient.Encoder.Setup
import TnsClient.Statement.Request

set_option autoImplicit false

/-!
# Executing statements

A statement is executed in one call, which carries its text unless the server has it already, the
layout of its bind parameters, and their values. Further rows are fetched by another call.

## Main definitions

* `TnsClient.StatementRequest.arguments` — the arguments of the call that executes a statement.
* `TnsClient.Encoder.execute`, `TnsClient.Encoder.fetch` — the two requests.
-/

namespace TnsClient

/-! ## Options -/

namespace ExecuteOption

/-- The text is parsed. -/
def parse : UInt32 := 0x0001

/-- Bind parameters follow. -/
def bind : UInt32 := 0x0008

/-- The statement is executed. -/
def execute : UInt32 := 0x0020

/-- Rows are fetched at once. -/
def fetch : UInt32 := 0x0040

/-- The work is committed. -/
def commit : UInt32 := 0x0100

/-- A block has bind parameters. -/
def blockBinds : UInt32 := 0x0400

/-- The statement is no block. -/
def noBlock : UInt32 := 0x8000

/-- Results that a block returns of its own accord are welcome. -/
def implicitResults : UInt32 := 0x8000

end ExecuteOption

/-- A bit if a condition holds. -/
def bitIf (condition : Bool) (bit : UInt32) : UInt32 := if condition then bit else 0

/-- The greatest size of a value of unlimited length. -/
def maxLongSize : UInt32 := 0x7FFFFFFF

namespace StatementRequest

/-- The option bits of the call that executes a statement. -/
def optionBits (request : StatementRequest) : UInt32 :=
  bitIf (!request.sql.isEmpty) ExecuteOption.execute |||
  bitIf request.needsParse ExecuteOption.parse |||
  bitIf (request.kind.isQuery && request.options.prefetchRows > 0) ExecuteOption.fetch |||
  bitIf (request.kind == .plSql && !request.binds.isEmpty) ExecuteOption.blockBinds |||
  bitIf (request.kind != .plSql) ExecuteOption.noBlock |||
  bitIf (!request.binds.isEmpty) ExecuteOption.bind |||
  bitIf request.options.autoCommit ExecuteOption.commit

/-- How often the statement is executed, or, for a query without a cursor, how many rows come with
the answer. -/
def iterations (request : StatementRequest) : UInt32 :=
  if request.kind.isQuery then
    if request.cursor = 0 then request.options.prefetchRows else 0
  else 1

/-- The vector of numbers behind the text. -/
def numbers (request : StatementRequest) : List UInt32 :=
  [bitIf request.needsParse 1, bitIf (!request.kind.isQuery) 1, 0, 0, 0, 0, 0,
    bitIf request.kind.isQuery 1, 0,
    bitIf (!request.sql.isEmpty) ExecuteOption.implicitResults, 0, 0, 0]

end StatementRequest

/-! ## Bind parameters -/

namespace Bind

/-- The greatest size of the text of a position of a row. -/
def maxRowIdSize : UInt32 := 5267

/-- The flag of large objects whose contents come along. -/
def prefetchFlag : UInt64 := 0x02000000

/-- Type and buffer size by which a parameter is announced: positions of rows travel as texts. -/
def announced (bind : Bind) : DataType × UInt32 :=
  match bind.type with
  | .rowid | .urowid => (.varchar, maxRowIdSize)
  | type => (type, bind.bufferSize)

/-- The layout of a parameter. A buffer beyond the greatest string has no limit. -/
def layout (caps : Capabilities) (bind : Bind) : Bytes :=
  let (type, size) := bind.announced
  [type.code,
    1,     -- an indicator tells nulls
    0, 0]  -- precision and scale
    ++ Encode.ub4 (if caps.maxStringSize < size then maxLongSize else size)
    ++ Encode.ub4 0  -- elements of an array
    ++ Encode.ub8 (if type = .blob ∨ type = .clob then prefetchFlag else 0)
    ++ Encode.ub4 0  -- object type
    ++ Encode.ub4 0  -- its version
    ++ Encode.ub4 (if bind.charsetForm = 0 then 0 else clientCharset.toUInt32)
    ++ [bind.charsetForm]
    ++ Encode.ub4 0  -- characters
    ++ (if caps.atLeast FieldVersion.v12_2 then Encode.ub4 0 else [])

/-- The value of a parameter. A null value is written like an empty one. -/
def valueOctets (bind : Bind) : Bytes := Encode.byteString (bind.value.getD [])

/-- The layouts of parameters and then the row of their values, nothing if there are none. -/
def rowOctets (caps : Capabilities) (binds : List Bind) : Bytes :=
  if binds.isEmpty then []
  else binds.flatMap (layout caps) ++ [MessageKind.rowData] ++ binds.flatMap valueOctets

end Bind

/-! ## Requests -/

/-- A pointer to something that follows, and its size. -/
def announce (present : Bool) (size : Nat) : Bytes :=
  if present then 1 :: Encode.count size else 0 :: Encode.count 0

/-- A pointer to something that does not follow. -/
def absent : Bytes := announce false 0

namespace StatementRequest

/-- The fields that newer field versions add. -/
def newerFields (caps : Capabilities) : Bytes :=
  if caps.atLeast FieldVersion.v12_2 then
    absent ++ absent ++ [0] ++ (if caps.atLeast FieldVersion.v12_2_ext1 then absent else [])
  else []

/-- The fields in front of the text. -/
def fields (caps : Capabilities) (request : StatementRequest) : Bytes :=
  Encode.ub4 request.optionBits
    ++ Encode.ub4 request.cursor.toUInt32
    ++ announce request.needsParse (Utf8.encode request.sql).length
    ++ announce true request.numbers.length
    ++ absent           -- numbers that come back
    ++ Encode.ub4 0     -- size of the buffer for rows
    ++ Encode.ub4 request.iterations
    ++ Encode.ub4 maxLongSize
    ++ announce (!request.binds.isEmpty) request.binds.length
    ++ [0, 0, 0, 0, 0]  -- context of the application, transaction, keywords
    ++ absent           -- definitions of columns
    ++ Encode.ub4 0     -- registration
    ++ [0, 1]           -- list of objects
    ++ absent           -- object type
    ++ absent           -- its name
    ++ Encode.ub4 0     -- upper half of the registration
    ++ absent           -- row counts
    ++ [0]
    ++ newerFields caps

/-- The arguments of the call that executes a statement. -/
def arguments (caps : Capabilities) (request : StatementRequest) : Bytes :=
  request.fields caps
    ++ (if request.needsParse then Encode.byteString (Utf8.encode request.sql) else [])
    ++ request.numbers.flatMap Encode.ub4
    ++ Bind.rowOctets caps request.binds

end StatementRequest

namespace Encoder

/-- The packets of the request that executes a statement. -/
def execute (encoder : Encoder) (cleanup : Cleanup) (request : StatementRequest) :
    Bytes × Encoder :=
  encoder.send (cleanup.calls ++
    [.function FunctionCode.execute (request.arguments encoder.capabilities)])

/-- The packets of the request that fetches rows from a cursor. -/
def fetch (encoder : Encoder) (cleanup : Cleanup) (cursor : UInt16) (rows : UInt32) :
    Bytes × Encoder :=
  encoder.send (cleanup.calls ++
    [.function FunctionCode.fetch (Encode.ub4 cursor.toUInt32 ++ Encode.ub4 rows)])

end Encoder

end TnsClient
