import TnsClient.Column.DataType
import TnsClient.Encoder
import TnsClient.Wire.ByteString

set_option autoImplicit false

/-!
# Setting up a connection

Three requests come before a logon. The connect request names the service and offers a protocol
version; its packet has a kind of its own, and long connect data follow in a data packet. Then the
client names itself, and announces its features and data types.

## Main definitions

* `TnsClient.connectPackets` — the connect request.
* `TnsClient.Encoder.protocol`, `TnsClient.Encoder.dataTypes` — the other two.
-/

namespace TnsClient

/-- How the client calls itself. -/
def driverName : String := "qail-oracle : 0.14.20"

/-! ## The connect request -/

/-- The greatest number of octets of connect data within the packet of the connect request. -/
def maxInlineData : Nat := 230

/-- Where the connect data begin in their packet. -/
def connectDataOffset : UInt16 := 74

/-- The greatest size of a transport data unit. -/
def maxTransportUnit : UInt32 := 65535

/-- What the client says about the security of the network session: it can renegotiate, and needs
no native encryption. -/
def sessionSecurity : UInt8 := 0x84

/-- A value of 32 bits, cut to 16 bits by its greatest value. -/
def clamp16 (value : UInt32) : UInt16 := (min value 65535).toUInt16

/-- The fields of the connect request in front of the connect data, which take `length` octets. -/
def connectFields (sdu : UInt32) (length : Nat) : Bytes :=
  [319,                        -- the greatest protocol version
    300,                       -- the least one
    1,                         -- service options
    clamp16 sdu,
    clamp16 maxTransportUnit,
    0x4F98,                    -- characteristics of the transport
    0,                         -- line turnaround
    1,                         -- byte order
    UInt16.ofNat length,
    connectDataOffset].flatMap beBytes16 ++
  beBytes32 0 ++               -- greatest answer
  [sessionSecurity, sessionSecurity] ++
  List.replicate 24 0 ++
  beBytes32 sdu ++
  beBytes32 maxTransportUnit ++
  beBytes32 0 ++               -- flags
  beBytes32 0

/-- The packets of the connect request. Their lengths take two octets. -/
def connectPackets (connectData : String) (sdu : UInt32) : Bytes :=
  let octets := Utf8.encode connectData
  let within := octets.length ≤ maxInlineData
  let body := connectFields sdu octets.length ++ (if within then octets else [])
  PacketHeader.octets false (headerSize + body.length) PacketKind.connect ++ body ++
    (if within then []
      else
        PacketHeader.octets false (dataOverhead + octets.length) PacketKind.data ++
          beBytes16 0 ++ octets)

/-! ## Features and data types -/

/-- The least version of the message protocol that the client asks for. -/
def messageProtocolVersion : UInt8 := 6

/-- The character set of the client, UTF-8. -/
def clientCharset : UInt16 := 873

/-- The flags of the client's character set: several octets a character, lengths are converted. -/
def charsetFlags : UInt8 := 0x03

/-- The data types that the client announces. -/
def announcedTypes : List UInt16 :=
  [1, 2, 8, 12, 23, 24, 25, 26, 27, 28, 29, 30, 31, 32, 33, 11, 96, 100, 101, 102, 112, 113, 114,
    180, 181, 182, 183, 208, 231, 252]

/-- The representation of a data type: numbers and dates have their own, all others the universal
one. -/
def representation (type : UInt16) : UInt16 :=
  if type = DataType.number.code.toUInt16 ∨ type = DataType.date.code.toUInt16 then 10 else 1

/-- How a data type is announced. -/
def announcement (type : UInt16) : Bytes :=
  [type, type, representation type, 0].flatMap beBytes16

/-- A word of 16 bits, least significant octet first. -/
def leBytes16 (word : UInt16) : Bytes := (beBytes16 word).reverse

namespace Encoder

/-- The packets of the request by which the client names itself. -/
def protocol (encoder : Encoder) : Bytes :=
  encoder.capabilities.packets
    ([MessageKind.protocol, messageProtocolVersion, 0] ++ Utf8.encode driverName ++ [0])

/-- The packets of the request that announces features and data types. -/
def dataTypes (encoder : Encoder) : Bytes :=
  let caps := encoder.capabilities
  caps.packets
    ([MessageKind.dataTypes] ++ leBytes16 clientCharset ++ leBytes16 clientCharset ++
      [charsetFlags] ++
      Encode.byteString caps.build.toList ++ Encode.byteString caps.runtime.toList ++
      announcedTypes.flatMap announcement ++ beBytes16 0)

end Encoder

end TnsClient
