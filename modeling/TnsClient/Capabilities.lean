import TnsClient.Bytes

set_option autoImplicit false

/-!
# Capabilities

What client and server have agreed on. A connection starts from the client's own capabilities; the
answer to the connect request replaces the protocol version and the size of packets, and the
protocol response lowers the field version to the server's.

Two arrays of octets announce the client's features to the server, one for what it was built with
and one for what it runs with.

## Main definitions

* `TnsClient.Capabilities` — the agreed values; `TnsClient.Capabilities.initial` are the client's.
* `TnsClient.Capabilities.withAccept`, `TnsClient.Capabilities.withProtocol` — the two steps.
* `TnsClient.FieldVersion` — the field versions at which layouts change.
-/

namespace TnsClient

/-! ## Field versions -/

namespace FieldVersion

/-- The field version of release 12.2. -/
def v12_2 : UInt8 := 8

/-- The field version of the first extension of release 12.2. -/
def v12_2_ext1 : UInt8 := 9

/-- The field version of release 20.1. -/
def v20_1 : UInt8 := 14

/-- The field version of release 23.1. -/
def v23_1 : UInt8 := 17

/-- The field version of the first extension of release 23.1. -/
def v23_1_ext1 : UInt8 := 18

/-- The greatest field version that the client knows. -/
def newest : UInt8 := v23_1_ext1

end FieldVersion

/-! ## Announced features -/

/-- The octets of the array of build features. -/
abbrev BuildFeatures := Vector UInt8 53

/-- The octets of the array of runtime features. -/
abbrev RuntimeFeatures := Vector UInt8 11

/-- The array that has the listed octets at their positions, and zero everywhere else. -/
def featuresOf (size : Nat) (octets : List (Nat × UInt8)) : Vector UInt8 size :=
  Vector.ofFn fun position => (octets.lookup position.val).getD 0

/-- The build features of the client, by position. -/
def buildFeatures : BuildFeatures :=
  featuresOf 53 [
    (0, 6),      -- version of SQL
    (4, 0xEA),   -- logon protocols: 8 with and without padding, 32; long names; long passwords
    (7, FieldVersion.newest),
    (8, 1),      -- conversion of defines by the server
    (15, 0x29),  -- fast bit vectors, records of indicators, end-of-call status
    (16, 0x90),  -- fast propagation of the session, piggybacked application context
    (17, 3),     -- version of the data stream
    (18, 7),     -- version of remote calls
    (19, 3),     -- signature of remote calls
    (21, 1),     -- version of the database format
    (23, 0x93),  -- LOB sizes of 64 bits, encodings, sizes of temporary LOBs, release 12
    (26, 0x04),  -- zero-length null patterns
    (27, 1),     -- data types of 16 bits
    (34, 12),    -- function codes
    (37, 0xB8),  -- implicit results, large chunks, cursors kept open, transaction ids
    (39, FieldVersion.v12_2),
    (40, 0x44),  -- notifications in band, explicit boundaries
    (42, 0x05),  -- quasi locators, prefetch of 2 GB
    (44, 0x02)]  -- tokens

/-- The runtime features of the client, by position. -/
def runtimeFeatures : RuntimeFeatures :=
  featuresOf 11 [
    (0, 2),      -- compatible with release 8.1
    (6, 0x05)]   -- no copies, strings of 32 K

/-- The position of the field version among the build features. -/
def fieldVersionPosition : Nat := 7

/-- The position, among the build features, of the octet that says where requests end. -/
def boundaryPosition : Nat := 40

/-- The bit, at `boundaryPosition`, of requests that are marked at their end. -/
def endOfRequestBit : UInt8 := 0x20

/-- The position, among the runtime features, of the octet that holds the size of strings. -/
def stringSizePosition : Nat := 6

/-- The bit, at `stringSizePosition`, of strings of 32 K. -/
def longStringsBit : UInt8 := 0x04

/-! ## Capabilities -/

/-- The least protocol version at which a packet gives its length in four octets. -/
def minLargePackets : UInt16 := 315

/-- The least protocol version at which the end of a response may be marked. -/
def minEndOfResponse : UInt16 := 319

/-- The bit of the accept flags for logon in a single round trip. -/
def fastLogonBit : UInt32 := 0x10000000

/-- The bit of the accept flags for responses that are marked at their end. -/
def endOfResponseBit : UInt32 := 0x02000000

/-- What client and server have agreed on. -/
structure Capabilities where
  /-- The version of the packet protocol. -/
  protocolVersion : UInt16
  /-- The service options of the packet protocol. -/
  protocolOptions : UInt16
  /-- The greatest number of octets of a packet. -/
  sdu : UInt32
  /-- The field version of messages. -/
  fieldVersion : UInt8
  /-- The greatest number of octets of a string. -/
  maxStringSize : UInt32
  /-- The character set. -/
  charset : UInt16
  /-- The national character set. -/
  nationalCharset : UInt16
  /-- Whether logon in a single round trip is possible. -/
  fastLogon : Bool
  /-- Whether the end of a response is marked. -/
  endOfResponse : Bool
  /-- The build features that are announced. -/
  build : BuildFeatures
  /-- The runtime features that are announced. -/
  runtime : RuntimeFeatures
  deriving DecidableEq, Repr

namespace Capabilities

/-- The capabilities of the client before anything is agreed on. -/
def initial : Capabilities where
  protocolVersion := 0
  protocolOptions := 0
  sdu := 8192
  fieldVersion := FieldVersion.newest
  maxStringSize := 4000
  charset := 873
  nationalCharset := 2000
  fastLogon := false
  endOfResponse := false
  build := buildFeatures
  runtime := runtimeFeatures

instance : Inhabited Capabilities := ⟨initial⟩

/-- Takes over what the answer to the connect request says. Once the end of responses is marked,
the client announces that it marks the end of requests. -/
def withAccept (caps : Capabilities) (version options : UInt16) (sdu flags : UInt32) :
    Capabilities :=
  let marked := minEndOfResponse ≤ version && flags &&& endOfResponseBit != 0
  { caps with
    protocolVersion := version
    protocolOptions := options
    sdu
    fastLogon := flags &&& fastLogonBit != 0
    endOfResponse := marked
    build :=
      if marked then
        caps.build.set boundaryPosition (caps.build[boundaryPosition] ||| endOfRequestBit)
      else caps.build }

/-- Takes over what the protocol response says: the lower field version, the size of strings, and
the national character set, each as far as the response holds it. -/
def withProtocol (caps : Capabilities) (build runtime : Option Bytes)
    (nationalCharset : Option UInt16) : Capabilities :=
  let fieldVersion :=
    match build.bind fun octets => octets[fieldVersionPosition]? with
    | some server => min caps.fieldVersion server
    | none => caps.fieldVersion
  { caps with
    fieldVersion
    build :=
      if (build.bind fun octets => octets[fieldVersionPosition]?).isSome then
        caps.build.set fieldVersionPosition fieldVersion
      else caps.build
    maxStringSize :=
      match runtime.bind fun octets => octets[stringSizePosition]? with
      | some octet => if octet &&& longStringsBit != 0 then 32767 else 4000
      | none => caps.maxStringSize
    nationalCharset := nationalCharset.getD caps.nationalCharset }

/-- Whether a packet gives its length in four octets rather than two. -/
def largePackets (caps : Capabilities) : Bool := minLargePackets ≤ caps.protocolVersion

/-- Whether the field version is at least the given one. -/
def atLeast (caps : Capabilities) (fieldVersion : UInt8) : Bool := fieldVersion ≤ caps.fieldVersion

/-- Whether the header of a function carries a token. -/
def sendsToken (caps : Capabilities) : Bool := caps.atLeast FieldVersion.v23_1_ext1

end Capabilities

end TnsClient
