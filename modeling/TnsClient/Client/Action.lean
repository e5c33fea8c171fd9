import TnsClient.Capabilities
import TnsClient.Client.Task
import TnsClient.Logon.Verifier

set_option autoImplicit false

/-!
# Phases, requests and actions

A connection goes through phases: it is negotiated, the user is logged on, and then it serves one
task after the other until it is closed. Whatever happens, the client answers with one action.

## Main definitions

* `TnsClient.Phase` — the phases of a connection.
* `TnsClient.Request` — what a client may send; `TnsClient.Action` — what it does next.
-/

namespace TnsClient

/-- The two steps of a logon. -/
inductive LogonStep where
  /-- The user has been named. -/
  | one
  /-- The password has been proved. -/
  | two
  deriving DecidableEq, Repr

/-- The phases of a connection. -/
inductive Phase where
  /-- The listener has not answered. -/
  | connecting
  /-- Client and server describe themselves. -/
  | protocolNegotiation
  /-- Client and server agree on data types. -/
  | dataTypeNegotiation
  /-- The user logs on. -/
  | authenticating (step : LogonStep)
  /-- No task is in flight. -/
  | ready
  /-- A task is in flight. -/
  | inFlight
  /-- The session is about to end. -/
  | closing
  /-- The connection is closed. -/
  | closed
  /-- The connection has failed. -/
  | errored
  deriving DecidableEq, Repr

namespace Phase

/-- The name of a phase. -/
def name : Phase → String
  | connecting => "Connecting"
  | protocolNegotiation => "ProtocolNegotiation"
  | dataTypeNegotiation => "DataTypeNegotiation"
  | authenticating .one => "Authenticating(One)"
  | authenticating .two => "Authenticating(Two)"
  | ready => "ReadyForStatement"
  | inFlight => "StatementInFlight"
  | closing => "Closing"
  | closed => "Closed"
  | errored => "Errored"

/-- Whether nothing can be done on a connection any more. -/
def isOver : Phase → Bool
  | closed | errored => true
  | _ => false

/-- Whether no task is taken any more. -/
def refusesTasks : Phase → Bool
  | closing | closed | errored => true
  | _ => false

/-- Whether the user logs on. -/
def isLogon : Phase → Bool
  | authenticating _ => true
  | _ => false

end Phase

/-- What a client may send and wait for an answer to. -/
inductive Request where
  /-- It asks for a connection. -/
  | connect
  /-- It names itself, with these capabilities from now on. -/
  | protocol (capabilities : Capabilities)
  /-- It announces features and data types, with these capabilities from now on. -/
  | dataTypes (capabilities : Capabilities)
  /-- It names the user. -/
  | logonStart (credentials : Credentials)
  /-- It proves the password. -/
  | logonProof (credentials : Credentials) (verifier : Verifier)
  /-- The server should answer. -/
  | ping
  /-- A statement is executed. -/
  | statement (request : StatementRequest)
  /-- Rows are fetched from a cursor. -/
  | fetch (cursor : UInt16) (rows : UInt32) (columns : Option (List Column))
  /-- A large object is worked on. -/
  | lob (request : LobRequest)
  /-- The session ends. -/
  | logoff
  deriving DecidableEq

/-- What a client does next. -/
inductive Action where
  /-- It waits. -/
  | wait
  /-- It sends a request. -/
  | send (request : Request)
  /-- The user is logged on, and the server sent these data. There is nothing to send. -/
  | established (session : SessionData)
  /-- It acknowledges a break. -/
  | reset
  /-- It sends the last request again, octet by octet. -/
  | resend (request : Request)
  /-- It closes the connection, after a last packet unless there is an error. -/
  | close (error : Option ClientError)
  deriving DecidableEq

end TnsClient
