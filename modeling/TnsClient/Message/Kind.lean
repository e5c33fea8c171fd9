set_option autoImplicit false

/-!
# Kinds of messages

The first octet of a message in a data packet says what kind of message it is.

## Main definitions

* `TnsClient.MessageKind` — the codes of the kinds.
-/

namespace TnsClient

namespace MessageKind

/-- The server describes itself. -/
def protocol : UInt8 := 1

/-- Data types. -/
def dataTypes : UInt8 := 2

/-- A function the client calls. -/
def function : UInt8 := 3

/-- An error block. -/
def error : UInt8 := 4

/-- The header of rows. -/
def rowHeader : UInt8 := 6

/-- A row, or a row of bind values. -/
def rowData : UInt8 := 7

/-- Parameters. -/
def parameter : UInt8 := 8

/-- The status at the end of a call. -/
def status : UInt8 := 9

/-- A piece of a large object. -/
def lobData : UInt8 := 14

/-- A warning. -/
def warning : UInt8 := 15

/-- A description of columns. -/
def describe : UInt8 := 16

/-- Something the client adds to a request. -/
def piggyback : UInt8 := 17

/-- Values of output binds follow. -/
def flushOutBinds : UInt8 := 19

/-- A bit vector. -/
def bitVector : UInt8 := 21

/-- Something the server adds to an answer. -/
def serverPiggyback : UInt8 := 23

/-- The end of a response. -/
def endOfResponse : UInt8 := 29

end MessageKind

end TnsClient
