import TnsClient.Encoder.Session
import TnsClient.Encoder.Setup
import TnsClient.Proofs.Client.Run
import TnsClient.Proofs.Encoder.Packets

set_option autoImplicit false

/-!
# What packets say of their lengths

A length is written into a field of two or four octets, whatever the packet's real length is. The
agreed size of packets comes from the listener, and the connect data from the caller; neither is
compared with what the field can say. So a packet may say another length than its own, and here it
is told exactly when.

## Main definitions

* `TnsClient.saidLength` — the length that a packet says.
* `TnsClient.connectList` — the packets of the connect request.

## Main results

* `TnsClient.Encoder.saysLength_iff` — which packets say their own lengths.
* `TnsClient.Encoder.accepted_length_cut` — a packet of 65536 octets says that it has none.
-/

namespace TnsClient

/-- The length that a packet says in its header. -/
def saidLength (large : Bool) (packet : Bytes) : Nat :=
  beNat (packet.take (if large then 4 else 2))

/-- A packet says its own length. -/
def SaysLength (large : Bool) (packet : Bytes) : Prop := saidLength large packet = packet.length

/-- What is read back is a number cut to its field. -/
lemma beNat_beBytes_mod (width value : Nat) :
    beNat (beBytes width value) = value % (1 <<< (8 * width)) := by
  simp [beNat, foldl_beBytes]

/-- A header says the length of its packet as far as the field can. -/
lemma saidLength_octets (large : Bool) (length : Nat) (kind : UInt8) (payload : Bytes) :
    saidLength large (PacketHeader.octets large length kind ++ payload) =
      length % Decoder.lengthLimit large := by
  have htake : (PacketHeader.octets large length kind ++ payload).take (if large then 4 else 2) =
      beBytes (if large then 4 else 2) length := by
    cases large <;> simp [PacketHeader.octets, beBytes]
  rw [saidLength, htake, beNat_beBytes_mod]
  cases large <;> rfl

/-- A packet says its own length if it has one that fits its field. -/
lemma saysLength_octets_iff {large : Bool} {length : Nat} {kind : UInt8} {payload : Bytes}
    (hlength : length = headerSize + payload.length) :
    SaysLength large (PacketHeader.octets large length kind ++ payload) ↔
      length < Decoder.lengthLimit large := by
  have hpos : 0 < Decoder.lengthLimit large := by cases large <;> decide
  rw [SaysLength, saidLength_octets, List.length_append, Decoder.length_octets, ← hlength]
  exact Nat.mod_eq_iff_lt hpos.ne'

lemma saysLength_dataPacket_iff {caps : Capabilities} {flags : UInt16} {payload : Bytes} :
    SaysLength caps.largePackets (caps.dataPacket flags payload) ↔ Decoder.Fits caps payload := by
  rw [Capabilities.dataPacket, List.append_assoc, saysLength_octets_iff]
  · rfl
  · rw [List.length_append, beBytes16, length_beBytes, dataOverhead, Nat.add_assoc]

/-! ## The connect request -/

/-- The packets of the connect request. -/
def connectList (connectData : String) (sdu : UInt32) : List Bytes :=
  let octets := Utf8.encode connectData
  let within := octets.length ≤ maxInlineData
  let body := connectFields sdu octets.length ++ (if within then octets else [])
  (PacketHeader.octets false (headerSize + body.length) PacketKind.connect ++ body) ::
    (if within then []
      else
        [PacketHeader.octets false (dataOverhead + octets.length) PacketKind.data ++
          (beBytes16 0 ++ octets)])

/-- Where the connect request says how many octets the connect data have. -/
def dataLengthOffset : Nat := 24

/-- **What is written for the connect request** is its packets in a row. -/
lemma flatten_connectList (connectData : String) (sdu : UInt32) :
    (connectList connectData sdu).flatten = connectPackets connectData sdu := by
  unfold connectList connectPackets
  dsimp only
  split_ifs <;> simp

lemma length_connectFields (sdu : UInt32) (length : Nat) :
    (connectFields sdu length).length = 66 := by
  simp [connectFields, beBytes16, beBytes32]

/-- The packets of the connect request say their lengths unless long connect data do not fit. -/
lemma saysLength_connectList_iff (connectData : String) (sdu : UInt32) :
    (∀ packet ∈ connectList connectData sdu, SaysLength false packet) ↔
      dataOverhead + (Utf8.encode connectData).length ≤ 65535 := by
  unfold connectList
  dsimp only
  generalize Utf8.encode connectData = octets
  unfold maxInlineData
  split_ifs with hwithin
  · simp only [List.forall_mem_cons, List.not_mem_nil, IsEmpty.forall_iff, implies_true, and_true]
    rw [saysLength_octets_iff rfl, List.length_append, length_connectFields]
    unfold Decoder.lengthLimit headerSize UInt16.size dataOverhead headerSize
    simp only [Bool.false_eq_true, if_false]
    omega
  · simp only [List.forall_mem_cons, List.not_mem_nil, IsEmpty.forall_iff, implies_true, and_true]
    rw [saysLength_octets_iff rfl, saysLength_octets_iff, List.length_append, length_connectFields]
    · unfold Decoder.lengthLimit headerSize UInt16.size dataOverhead headerSize
      simp only [Bool.false_eq_true, if_false, List.length_nil]
      omega
    · rw [List.length_append, beBytes16, length_beBytes, dataOverhead, Nat.add_assoc]

/-- The connect request says the length of the connect data as far as two octets can. -/
lemma saidDataLength (connectData : String) (sdu : UInt32) :
    beNat (((connectPackets connectData sdu).drop dataLengthOffset).take 2) =
      (Utf8.encode connectData).length % 65536 := by
  unfold connectPackets
  dsimp only
  generalize Utf8.encode connectData = octets
  have hfield : ∀ length kind more, ((PacketHeader.octets false length kind ++
      (connectFields sdu octets.length ++ more)).drop dataLengthOffset).take 2 =
        beBytes16 (UInt16.ofNat octets.length) := by
    intro length kind more
    simp [PacketHeader.octets, connectFields, beBytes16, beBytes, dataLengthOffset]
  simp only [List.append_assoc, hfield]
  rw [beBytes16, beNat_beBytes (UInt16.toNat_lt _), UInt16.toNat_ofNat']

namespace Encoder

/-! ## Which packets say their own lengths -/

/-- The data packets of a body say their lengths if four octets are there for it, or the agreed size
fits into two, or the whole body does. -/
lemma saysLength_packetList_iff (caps : Capabilities) (body : Bytes) :
    (∀ packet ∈ caps.packetList body, SaysLength caps.largePackets packet) ↔
      caps.largePackets = true ∨ caps.sdu.toNat ≤ 65535 ∨ dataOverhead + body.length ≤ 65535 := by
  constructor
  · intro hsaid
    by_contra hnot
    simp only [not_or, Bool.not_eq_true, Nat.not_le] at hnot
    obtain ⟨hsmall, hsdu, hbody⟩ := hnot
    have hne : body ≠ [] := by
      rintro rfl
      simp [dataOverhead, headerSize] at hbody
    have hpos : 0 < caps.maxPayload := by
      unfold Capabilities.maxPayload
      omega
    obtain ⟨flags, hpacket⟩ := @Capabilities.exists_mem_framed caps _ _ (take_mem_pieces hpos hne)
    have hfits := saysLength_dataPacket_iff.1 (hsaid _ hpacket)
    unfold Decoder.Fits Decoder.lengthLimit UInt16.size at hfits
    rw [hsmall, List.length_take] at hfits
    unfold Capabilities.maxPayload at hfits
    simp only [Bool.false_eq_true, if_false] at hfits
    omega
  · intro h packet hmem
    obtain ⟨flags, payload, rfl, hlength, hsize, hpayload⟩ :=
      Capabilities.length_le_of_mem_packetList hmem
    have hsdu := caps.sdu.toNat_lt
    rw [hlength] at hsize
    refine saysLength_dataPacket_iff.2 ?_
    unfold Decoder.Fits Decoder.lengthLimit UInt32.size UInt16.size
    unfold dataOverhead headerSize at hsize h ⊢
    split_ifs with hlarge
    · omega
    · rcases h with hlarge' | hsmall | hbody
      · exact absurd hlarge' hlarge
      · omega
      · omega

/-- A marker says its length. -/
lemma saysLength_marker (encoder : Encoder) (kind : UInt8) :
    SaysLength encoder.capabilities.largePackets (encoder.marker kind) := by
  rw [marker, saysLength_octets_iff]
  · cases encoder.capabilities.largePackets <;> decide
  · rfl

/-- The last packet of all says its length. -/
lemma saysLength_close (encoder : Encoder) :
    SaysLength encoder.capabilities.largePackets encoder.close := by
  rw [close, saysLength_dataPacket_iff, Decoder.Fits]
  cases encoder.capabilities.largePackets <;> decide

/-- **Lengths in packets.** Whatever has been agreed on, whatever the body of a request and whatever
the connect data are:

* the data packets of the body all say their own lengths if, and only if, lengths take four octets,
  or the agreed size of packets is below `2 ^ 16`, or the body fits into a single packet of such a
  size;
* the packets of the connect request do if, and only if, the connect data fit into one of that size,
  and the connect request says how many octets of connect data there are if, and only if, there are
  fewer than `2 ^ 16`;
* markers and the last packet of all do. -/
theorem saysLength_iff (encoder : Encoder) (body : Bytes) (connectData : String) (sdu : UInt32)
    (kind : UInt8) :
    let caps := encoder.capabilities
    let octets := Utf8.encode connectData
    ((caps.packetList body).flatten = caps.packets body ∧
      ((∀ packet ∈ caps.packetList body, SaysLength caps.largePackets packet) ↔
        caps.largePackets = true ∨ caps.sdu.toNat ≤ 65535 ∨
          dataOverhead + body.length ≤ 65535)) ∧
    ((connectList connectData sdu).flatten = connectPackets connectData sdu ∧
      ((∀ packet ∈ connectList connectData sdu, SaysLength false packet) ↔
        dataOverhead + octets.length ≤ 65535) ∧
      (beNat (((connectPackets connectData sdu).drop dataLengthOffset).take 2) = octets.length ↔
        octets.length ≤ 65535)) ∧
    SaysLength caps.largePackets (encoder.marker kind) ∧
    SaysLength caps.largePackets encoder.close := by
  intro caps octets
  refine ⟨⟨Capabilities.flatten_packetList caps body, saysLength_packetList_iff caps body⟩,
    ⟨flatten_connectList connectData sdu, saysLength_connectList_iff connectData sdu, ?_⟩,
    saysLength_marker encoder kind, saysLength_close encoder⟩
  rw [saidDataLength, Nat.mod_eq_iff_lt (by decide), Nat.lt_succ_iff]

/-- A listener of protocol version 314 that agrees to packets of 70000 octets is sent a body of
65526 octets in a single packet of 65536 octets, which says that it has none. -/
theorem accepted_length_cut :
    let events : List Event := [.opened, .message (.accept ⟨314, 0, 0, 70000, 0⟩)]
    let caps := (Client.sample.after events).capabilities
    (caps.protocolVersion = 314 ∧ caps.sdu = 70000) ∧
    ∃ packet ∈ caps.packetList (List.replicate 65526 0),
      packet.length = 65536 ∧ saidLength caps.largePackets packet = 0 ∧
        ¬SaysLength caps.largePackets packet := by
  intro events caps
  have hsmall : caps.largePackets = false := by decide
  have hmax : caps.maxPayload = 69990 := by decide
  generalize hbody : List.replicate 65526 (0 : UInt8) = body
  have hlength : body.length = 65526 := by rw [← hbody, List.length_replicate]
  have hne : body ≠ [] := by
    rintro rfl
    cases hlength
  obtain ⟨flags, hpacket⟩ := @Capabilities.exists_mem_framed caps _ _
    (take_mem_pieces (by rw [hmax]; decide : 0 < caps.maxPayload) hne)
  rw [List.take_of_length_le (by rw [hlength, hmax]; decide)] at hpacket
  have hpacketLength : (caps.dataPacket flags body).length = 65536 := by
    rw [Decoder.length_dataPacket, hlength]
    rfl
  have hsaid : saidLength caps.largePackets (caps.dataPacket flags body) = 0 := by
    rw [Capabilities.dataPacket, List.append_assoc, saidLength_octets, hlength, hsmall]
    rfl
  refine ⟨⟨by decide, by decide⟩, _, hpacket, hpacketLength, hsaid, ?_⟩
  rw [SaysLength, hsaid, hpacketLength]
  decide

end Encoder

end TnsClient
