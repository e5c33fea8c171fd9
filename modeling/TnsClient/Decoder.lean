import TnsClient.Message.Kind
import TnsClient.Message.ServerMessage
import TnsClient.Packet

set_option autoImplicit false

/-!
# The decoder

The decoder takes one packet at a time off a buffer and yields all messages of that packet. What it
has to remember between packets is little: the capabilities, what the next parameter message
answers, the columns that were described last, and the bit vector for the next row.

## Main definitions

* `TnsClient.Decoder` — what is remembered.
* `TnsClient.Decoder.message` — one message of a data packet.
* `TnsClient.Decoder.messages` — all messages of a data packet.
* `TnsClient.Decoder.decode` — one packet.
-/

namespace TnsClient

/-- What the next parameter message answers. -/
inductive ResponseContext where
  /-- A request that belongs to the logon. -/
  | authentication
  /-- A statement. -/
  | statement
  /-- An operation on a large object. -/
  | lob (shape : LobShape)
  deriving DecidableEq, Repr

/-- What the decoder remembers between packets. -/
structure Decoder where
  /-- What client and server have agreed on. -/
  capabilities : Capabilities := Capabilities.initial
  /-- What the next parameter message answers. -/
  context : ResponseContext := .statement
  /-- The columns of rows to come. -/
  columns : Option (List Column) := none
  /-- The bit vector of the next row. -/
  bits : Option Bytes := none
  deriving DecidableEq, Repr

namespace Decoder

/-- Installs the columns of rows to come. A bit vector that is left over is forgotten. -/
def setColumns (decoder : Decoder) (columns : Option (List Column)) : Decoder :=
  { decoder with columns, bits := none }

/-! ## Messages -/

/-- The parameter message that the context asks for. -/
def parameter (decoder : Decoder) : Decode ServerMessage :=
  match decoder.context with
  | .authentication => .authParameters <$> Decode.authParameters
  | .statement => .statementParameters <$> Decode.statementParameters
  | .lob shape => .lobParameters <$> Decode.lobParameters shape

/-- A row of the columns described last. -/
def row (decoder : Decoder) : Decode ServerMessage :=
  match decoder.columns with
  | some columns => .row <$> Decode.row columns decoder.bits
  | none => Decode.fail (.fieldNotDecodable "row data without columns")

/-- The body of a message of the given kind, and what the decoder remembers behind it. -/
def message (decoder : Decoder) (kind : UInt8) : Decode (ServerMessage × Decoder) :=
  if kind = MessageKind.protocol then do
    return (.serverInfo (← Decode.serverInfo), decoder)
  else if kind = MessageKind.dataTypes then do
    Decode.dataTypes
    return (.dataTypes, decoder)
  else if kind = MessageKind.parameter then do
    return (← decoder.parameter, decoder)
  else if kind = MessageKind.status then do
    return (.status (← Decode.callStatus), decoder)
  else if kind = MessageKind.error then do
    return (.error (← Decode.errorBlock decoder.capabilities), decoder)
  else if kind = MessageKind.warning then do
    return (.warning (← Decode.warning), decoder)
  else if kind = MessageKind.describe then do
    let columns ← Decode.description decoder.capabilities
    return (.description columns, decoder.setColumns (some columns))
  else if kind = MessageKind.rowHeader then do
    let bits ← Decode.rowHeader
    return (.rowHeader, { decoder with bits := bits <|> decoder.bits })
  else if kind = MessageKind.bitVector then do
    let bits ← Decode.bitVector ((decoder.columns.map List.length).getD 0)
    return (.bitVector, { decoder with bits := some bits })
  else if kind = MessageKind.rowData then do
    return (← decoder.row, { decoder with bits := none })
  else if kind = MessageKind.lobData then do
    return (.lobData ((← Decode.byteString).getD []), decoder)
  else if kind = MessageKind.serverPiggyback then do
    return (.piggyback (← Decode.piggyback), decoder)
  else if kind = MessageKind.flushOutBinds then
    return (.flushOutBinds, decoder)
  else if kind = MessageKind.endOfResponse then
    return (.endOfResponse, decoder)
  else
    Decode.fail (.unknownMessageId kind)

/-- The messages of a data packet, up to the first one that ends the packet, and what the decoder
remembers behind the last message that could be read. -/
def messages (decoder : Decoder) (input : Bytes) :
    Except DecodeError (List ServerMessage) × Decoder :=
  match input with
  | [] => (.ok [], decoder)
  | kind :: body =>
    match decoder.message kind body with
    | .error error => (.error error, decoder)
    | .ok ((message, decoder), rest) =>
      if message.endsPacket then (.ok [message], decoder)
      else if rest.length ≤ body.length then
        let (more, decoder) := decoder.messages rest
        (more.map (message :: ·), decoder)
      else (.ok [message], decoder)
termination_by input.length
decreasing_by simp only [List.length_cons]; omega

/-- The messages of a data packet, of which there has to be one. -/
def body (decoder : Decoder) (input : Bytes) :
    Except DecodeError (List ServerMessage) × Decoder :=
  if input.isEmpty then (.error (.fieldNotDecodable "empty data packet"), decoder)
  else decoder.messages input

/-! ## Packets -/

/-- The messages of a packet of the given kind, from what stands behind its header. -/
def payload (decoder : Decoder) (kind : UInt8) (input : Bytes) :
    Except DecodeError (List ServerMessage) × Decoder :=
  let single (reader : Decode ServerMessage) :=
    ((reader input).map fun (message, _) => [message], decoder)
  if kind = PacketKind.data then
    match Decode.u16be input with
    | .error error => (.error error, decoder)
    | .ok (_, rest) => decoder.body rest
  else if kind = PacketKind.accept then single (.accept <$> Decode.accept)
  else if kind = PacketKind.refuse then single (.refuse <$> Decode.refusal)
  else if kind = PacketKind.redirect then single (.redirect <$> Decode.packetText)
  else if kind = PacketKind.marker then single (.marker <$> Decode.marker)
  else if kind = PacketKind.control then single (.control <$> Decode.control)
  else if kind = PacketKind.resend then single (pure .resend)
  else (.error (.unknownMessageId kind), decoder)

/-- What an attempt to decode a packet comes to. -/
structure Attempt where
  /-- The messages of the packet, none if it is not there in full, or why there are none. -/
  result : Except DecodeError (Option (List ServerMessage))
  /-- What the decoder remembers. -/
  decoder : Decoder
  /-- The octets that are left in the buffer. -/
  rest : Bytes

/-- Takes one packet off the buffer and decodes it. A packet that is not there in full is left
where it is, and so is one whose header is out of order. -/
def decode (decoder : Decoder) (buffer : Bytes) : Attempt :=
  match PacketHeader.peek decoder.capabilities.largePackets buffer with
  | .error error => ⟨.error error, decoder, buffer⟩
  | .ok none => ⟨.ok none, decoder, buffer⟩
  | .ok (some header) =>
    let packet := buffer.take header.length
    if packet.length < header.length then ⟨.ok none, decoder, buffer⟩
    else
      let (result, decoder) := decoder.payload header.kind (packet.drop headerSize)
      ⟨result.map some, decoder, buffer.drop header.length⟩

/-- A packet that is decoded is there in full and is taken off the buffer. -/
theorem exists_header_of_decode {decoder : Decoder} {buffer : Bytes} {messages : List ServerMessage}
    (h : (decoder.decode buffer).result = .ok (some messages)) :
    ∃ header, PacketHeader.peek decoder.capabilities.largePackets buffer = .ok (some header) ∧
      header.length ≤ buffer.length ∧
      (decoder.decode buffer).rest = buffer.drop header.length := by
  unfold decode at h ⊢
  rcases hpeek : PacketHeader.peek decoder.capabilities.largePackets buffer with
    error | _ | header
  · simp [hpeek] at h
  · simp [hpeek] at h
  · by_cases hshort : (buffer.take header.length).length < header.length
    · simp only [hpeek, hshort, if_true] at h
      cases h
    · refine ⟨header, rfl, ?_, by simp only [hshort, if_false]⟩
      rw [List.length_take] at hshort
      omega

/-- A packet that is taken off the buffer leaves fewer octets in it. -/
theorem length_rest_lt {decoder : Decoder} {buffer : Bytes} {messages : List ServerMessage}
    (h : (decoder.decode buffer).result = .ok (some messages)) :
    (decoder.decode buffer).rest.length < buffer.length := by
  obtain ⟨header, hpeek, hle, hrest⟩ := exists_header_of_decode h
  have hlength := PacketHeader.headerSize_le_length hpeek
  rw [hrest, List.length_drop]
  unfold headerSize at hlength
  omega

end Decoder

end TnsClient
