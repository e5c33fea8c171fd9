import TnsClient.Capabilities
import TnsClient.Message.Kind
import TnsClient.Packet
import TnsClient.Wire.Integer

set_option autoImplicit false

/-!
# The encoder

What the client sends, once the connection is accepted, travels in data packets. A body that does
not fit into one packet is cut, and the last packet may be flagged as the end of the request.

Most bodies are calls of functions of the server. Each call is numbered; a call that is not answered
may stand in front of one that is.

## Main definitions

* `TnsClient.Encoder` — the capabilities, and the number of the last call.
* `TnsClient.Capabilities.packets` — the data packets of a body.
* `TnsClient.Call` — a call; `TnsClient.Encoder.body` numbers calls one after the other.
* `TnsClient.Encoder.send` — the packets of some calls.
-/

namespace TnsClient

/-! ## Data packets -/

/-- The octets in front of the payload of a data packet: its header and a word of flags. -/
def dataOverhead : Nat := headerSize + 2

/-- The flag of the last packet of a request. -/
def endOfRequestFlag : UInt16 := 0x0800

/-- The flag of the last packet of all. -/
def endOfFileFlag : UInt16 := 0x0040

namespace Capabilities

/-- A data packet. -/
def dataPacket (caps : Capabilities) (flags : UInt16) (payload : Bytes) : Bytes :=
  PacketHeader.octets caps.largePackets (dataOverhead + payload.length) PacketKind.data ++
    beBytes16 flags ++ payload

/-- The octets that a data packet may carry, at least one. -/
def maxPayload (caps : Capabilities) : Nat := max (caps.sdu.toNat - dataOverhead) 1

/-- The flags of the last packet of a request. -/
def lastFlags (caps : Capabilities) : UInt16 := if caps.endOfResponse then endOfRequestFlag else 0

/-- The data packets of payloads, of which the last one ends the request. -/
def dataPackets (caps : Capabilities) : List Bytes → Bytes
  | [] => caps.dataPacket caps.lastFlags []
  | [last] => caps.dataPacket caps.lastFlags last
  | payload :: rest => caps.dataPacket 0 payload ++ caps.dataPackets rest

/-- The data packets of a body. -/
def packets (caps : Capabilities) (body : Bytes) : Bytes :=
  caps.dataPackets (pieces caps.maxPayload body)

end Capabilities

/-! ## Calls -/

namespace FunctionCode

/-- Fetches rows. -/
def fetch : UInt8 := 5

/-- Ends the session. -/
def logoff : UInt8 := 9

/-- Executes a statement. -/
def execute : UInt8 := 94

/-- Works on a large object. -/
def lob : UInt8 := 96

/-- Closes cursors. -/
def closeCursors : UInt8 := 105

/-- Proves the password. -/
def logonProof : UInt8 := 115

/-- Begins a logon. -/
def logonStart : UInt8 := 118

/-- Does nothing. -/
def ping : UInt8 := 147

end FunctionCode

/-- A call of a function of the server. -/
structure Call where
  /-- The kind of the message: a function, or a piggyback, which is not answered. -/
  kind : UInt8
  /-- The code of the function. -/
  code : UInt8
  /-- The arguments. -/
  arguments : Bytes
  deriving DecidableEq, Repr

/-- A call that is answered. -/
def Call.function (code : UInt8) (arguments : Bytes) : Call where
  kind := MessageKind.function
  code
  arguments

/-- A call that is not answered. -/
def Call.piggyback (code : UInt8) (arguments : Bytes) : Call where
  kind := MessageKind.piggyback
  code
  arguments

/-- The number behind a number of a call. Zero is never the number of a call. -/
def nextSequence (sequence : UInt8) : UInt8 := if sequence = 255 then 1 else sequence + 1

/-- The client's side of the wire. -/
structure Encoder where
  /-- What client and server have agreed on. -/
  capabilities : Capabilities := Capabilities.initial
  /-- The number of the last call, zero in front of the first one. -/
  sequence : UInt8 := 0
  deriving DecidableEq, Repr

namespace Encoder

/-- The octets of a call with the given number. -/
def callOctets (encoder : Encoder) (call : Call) (sequence : UInt8) : Bytes :=
  [call.kind, call.code, sequence] ++
    (if encoder.capabilities.sendsToken then Encode.ub8 0 else []) ++ call.arguments

/-- The octets of calls, numbered one after the other. -/
def body (encoder : Encoder) : List Call → Bytes × Encoder
  | [] => ([], encoder)
  | call :: rest =>
    let sequence := nextSequence encoder.sequence
    let (octets, encoder') := { encoder with sequence }.body rest
    (encoder.callOctets call sequence ++ octets, encoder')

/-- The packets of calls. -/
def send (encoder : Encoder) (calls : List Call) : Bytes × Encoder :=
  let (octets, encoder) := encoder.body calls
  (encoder.capabilities.packets octets, encoder)

end Encoder

end TnsClient
