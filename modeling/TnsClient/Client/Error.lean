import TnsClient.Column.Conversion
import TnsClient.Logon.Verifier
import TnsClient.Message.Negotiation
import TnsClient.Text.Duration
import TnsClient.Text.Outline
import TnsClient.Wire.Decode

set_option autoImplicit false

/-!
# Errors of a client

## Main definitions

* `TnsClient.ClientError` — why a client did not get what it asked for.
* `TnsClient.ClientError.message` — the message for an error.
* `TnsClient.ClientError.serverCode?` — the server's number of an error.
-/

namespace TnsClient

/-- The messages that may come when they are not expected. -/
inductive Unexpected where
  | accept
  | serverInfo
  | dataTypes
  | parameters
  | description
  | row
  | lobData
  | resend
  deriving DecidableEq, Repr

/-- The name of a message on the wire. -/
def Unexpected.name : Unexpected → String
  | accept => "ACCEPT"
  | serverInfo => "PROTOCOL"
  | dataTypes => "DATA_TYPES"
  | parameters => "PARAMETER"
  | description => "DESCRIBE_INFO"
  | row => "ROW_DATA"
  | lobData => "LOB_DATA"
  | resend => "RESEND"

/-- Why a client did not get what it asked for. -/
inductive ClientError where
  /-- There is no connection to be had. -/
  | connection (text : String)
  /-- The listener refused the connection. -/
  | refused (code : Option UInt32) (text : String)
  /-- The listener named another address. -/
  | redirected (address : String)
  /-- The connection is closed, or about to be. -/
  | closed
  /-- The connection took too long. -/
  | timeout (milliseconds : Nat)
  /-- The server sent what makes no sense. -/
  | protocol (error : DecodeError)
  /-- The server sent a message at the wrong time. -/
  | unexpected (message : Unexpected)
  /-- The server is too old. -/
  | unsupportedVersion (version : UInt16)
  /-- The logon failed on what the server sent. -/
  | authentication (error : AuthError)
  /-- The server reported an error. -/
  | server (block : ErrorBlock)
  /-- The task was cancelled before it was sent. -/
  | cancelled
  /-- The transport failed. -/
  | transport (text : String)
  /-- A value is not of the type asked for. -/
  | conversion (error : ConversionError)
  deriving DecidableEq, Repr

namespace ClientError

/-- The name of an error, without its circumstances. -/
def name : ClientError → String
  | connection _ => "Connection"
  | refused .. => "Refused"
  | redirected _ => "Redirected"
  | closed => "ConnectionClosed"
  | timeout _ => "Timeout"
  | protocol _ => "Protocol"
  | unexpected _ => "UnexpectedMessage"
  | unsupportedVersion _ => "UnsupportedServerVersion"
  | authentication _ => "Auth"
  | server _ => "Server"
  | cancelled => "Cancelled"
  | transport _ => "Io"
  | conversion _ => "Type"

/-- The message for an error. -/
def message : ClientError → String
  | connection text => "Connection error: " ++ text
  | refused code text =>
    let shown := Text.optional (code.map fun number => toString number.toNat)
    s!"Connection refused (ERR={shown}): {text}"
  | redirected address => "Connection redirected to " ++ address
  | closed => "Connection closed"
  | timeout milliseconds => "Timed out after " ++ Text.duration milliseconds
  | protocol error => "Protocol error: " ++ error.message
  | unexpected message => s!"Unexpected {message.name} message"
  | unsupportedVersion version => s!"Server protocol version {version.toNat} is not supported"
  | authentication error => "Authentication error: " ++ error.message
  | server block => "Server error: " ++ block.message
  | cancelled => "Task cancelled"
  | transport text => "I/O error: " ++ text
  | conversion error => "Type error: " ++ error.message

/-- The server's number of an error, for an error that comes from the server. -/
def serverCode? : ClientError → Option UInt32
  | server block => some block.number
  | refused code _ => code
  | _ => none

end ClientError

end TnsClient
