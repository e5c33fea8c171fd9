import TnsClient.Wire.Decode

set_option autoImplicit false

/-!
# Packets

A packet begins with a header of eight octets: its length, which includes the header and takes two
octets or, in newer protocol versions, four; its kind at offset 4; and flags at offset 5.

## Main definitions

* `TnsClient.PacketKind` — the kinds of packets.
* `TnsClient.PacketHeader` — a header; `TnsClient.PacketHeader.peek` looks for one.
* `TnsClient.PacketHeader.octets` — the octets of a header.
-/

namespace TnsClient

/-- The octets of a packet's header. -/
def headerSize : Nat := 8

namespace PacketKind

/-- The client asks for a connection. -/
def connect : UInt8 := 1

/-- The listener accepts the connection. -/
def accept : UInt8 := 2

/-- The listener refuses the connection. -/
def refuse : UInt8 := 4

/-- The listener names another address. -/
def redirect : UInt8 := 5

/-- Messages. -/
def data : UInt8 := 6

/-- The other side asks for the last packet again. -/
def resend : UInt8 := 11

/-- An answer is broken off, or begun anew. -/
def marker : UInt8 := 12

/-- Control of the connection. -/
def control : UInt8 := 14

end PacketKind

/-- The header of a packet. -/
structure PacketHeader where
  /-- The octets of the packet, header included. -/
  length : Nat
  /-- The kind of the packet. -/
  kind : UInt8
  /-- The flags. -/
  flags : UInt8
  deriving DecidableEq, Repr

namespace PacketHeader

/-- The header at the front of a buffer, none while there are fewer than eight octets. A length
that does not even cover the header is a failure. -/
def peek (large : Bool) : Bytes → Except DecodeError (Option PacketHeader)
  | a :: b :: c :: d :: kind :: flags :: _ :: _ :: _ =>
    let length := beNat (if large then [a, b, c, d] else [a, b])
    if length < headerSize then .error (.invalidPacketLength length)
    else .ok (some { length, kind, flags })
  | _ => .ok none

/-- A packet is at least as long as its header. -/
theorem headerSize_le_length {large : Bool} {buffer : Bytes} {header : PacketHeader}
    (h : peek large buffer = .ok (some header)) : headerSize ≤ header.length := by
  unfold peek at h
  split at h
  · next a b c d kind flags _ _ _ =>
    by_cases hlength : beNat (if large then [a, b, c, d] else [a, b]) < headerSize
    · simp [hlength] at h
    · rw [if_neg hlength] at h
      obtain rfl := Option.some.inj (Except.ok.inj h)
      exact Nat.le_of_not_lt hlength
  · cases h

/-- The octets of the header of a packet. The length is cut to the width of its field. -/
def octets (large : Bool) (length : Nat) (kind : UInt8) : Bytes :=
  (if large then beBytes 4 length else beBytes 2 length ++ [0, 0]) ++ [kind, 0, 0, 0]

end PacketHeader

end TnsClient
