import TnsClient.Encoder.Cleanup

set_option autoImplicit false

/-!
# Requests about the session

## Main definitions

* `TnsClient.Encoder.ping`, `TnsClient.Encoder.logoff` — calls without arguments.
* `TnsClient.Encoder.close`, `TnsClient.Encoder.marker` — packets without a call.
-/

namespace TnsClient

namespace MarkerKind

/-- The answer is broken off. -/
def breakOff : UInt8 := 1

/-- The break is acknowledged. -/
def reset : UInt8 := 2

end MarkerKind

namespace Encoder

/-- The packets of a request that does nothing. -/
def ping (encoder : Encoder) (cleanup : Cleanup) : Bytes × Encoder :=
  encoder.send (cleanup.calls ++ [.function FunctionCode.ping []])

/-- The packets of the request that ends the session. -/
def logoff (encoder : Encoder) (cleanup : Cleanup) : Bytes × Encoder :=
  encoder.send (cleanup.calls ++ [.function FunctionCode.logoff []])

/-- The last packet of all, which is empty. -/
def close (encoder : Encoder) : Bytes := encoder.capabilities.dataPacket endOfFileFlag []

/-- A marker packet. -/
def marker (encoder : Encoder) (kind : UInt8) : Bytes :=
  PacketHeader.octets encoder.capabilities.largePackets (headerSize + 3) PacketKind.marker ++
    [1, 0, kind]

end Encoder

end TnsClient
