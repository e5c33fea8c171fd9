import TnsClient.Message.Negotiation
import TnsClient.Message.Parameters
import TnsClient.Message.Row

set_option autoImplicit false

/-!
# Messages of the server

One type for whatever the server sends. Packets of a kind of their own hold one message each; data
packets hold a run of them.

## Main definitions

* `TnsClient.ServerMessage` — a message of the server.
* `TnsClient.ServerMessage.endsPacket` — whether the rest of the data packet is passed over.
-/

namespace TnsClient

/-- A message of the server. -/
inductive ServerMessage where
  /-- The listener accepts the connection. -/
  | accept (accept : Accept)
  /-- The listener refuses the connection. -/
  | refuse (refusal : Refusal)
  /-- The listener names another address. -/
  | redirect (address : String)
  /-- An answer is broken off, or begun anew. -/
  | marker (kind : UInt8)
  /-- A control packet. -/
  | control (kind : UInt16)
  /-- The server asks for the last request again. -/
  | resend
  /-- The server describes itself. -/
  | serverInfo (info : ServerInfo)
  /-- The server describes its data types. -/
  | dataTypes
  /-- Values that belong to the logon. -/
  | authParameters (data : SessionData)
  /-- Keywords that an execution returns. -/
  | statementParameters (keywords : List (UInt16 × Option Bytes))
  /-- What an operation on a large object returns. -/
  | lobParameters (parameters : LobParameters)
  /-- The status at the end of a call. -/
  | status (status : CallStatus)
  /-- The outcome of a call. -/
  | error (block : ErrorBlock)
  /-- A warning. -/
  | warning (block : ErrorBlock)
  /-- The columns of a query. -/
  | description (columns : List Column)
  /-- Rows follow. -/
  | rowHeader
  /-- The columns of the next row that are unchanged. -/
  | bitVector
  /-- A row. -/
  | row (values : List ColumnValue)
  /-- A piece of a large object. -/
  | lobData (octets : Bytes)
  /-- Something the server adds of its own accord. -/
  | piggyback (piggyback : Piggyback)
  /-- Values of output binds follow in a packet of their own. -/
  | flushOutBinds
  /-- The response ends here. -/
  | endOfResponse
  deriving DecidableEq, Repr

/-- Whether the rest of a data packet behind the message is passed over. -/
def ServerMessage.endsPacket : ServerMessage → Bool
  | flushOutBinds | endOfResponse => true
  | _ => false

end TnsClient
