import TnsClient.Proofs.Decoder.Packets
import TnsClient.Proofs.Wire.Form

set_option autoImplicit false

/-!
# The packets of a request

The body of a request is sent in data packets, one behind the other, and whoever receives them has
nothing to tell them apart by but the length that each says in its header. Here the packets are a
list; what the encoder writes is that list in a row, and cutting it apart by the lengths gives the
list back, as long as every length fits into its field.

## Main definitions

* `TnsClient.Capabilities.packetList` — the data packets of a body.
* `TnsClient.cutPackets` — packets cut apart by the lengths that they say.

## Main results

* `TnsClient.Capabilities.flatten_packetList` — what the encoder writes.
* `TnsClient.Capabilities.packets_cut` — no octet of a body is lost, no packet is too long, and the
  last packet, and only that one, may be flagged as the end of the request.
-/

namespace TnsClient

/-! ## Cutting packets apart -/

/-- The packets in a buffer, cut apart by the lengths that they say; none if octets are left over
that are no whole packet. -/
def cutPackets (large : Bool) (buffer : Bytes) : Option (List Bytes) :=
  if buffer.isEmpty then some []
  else
    match h : PacketHeader.peek large buffer with
    | .ok (some header) =>
      have : 0 < header.length :=
        Nat.lt_of_lt_of_le (by decide) (PacketHeader.headerSize_le_length h)
      if hle : header.length ≤ buffer.length then
        (cutPackets large (buffer.drop header.length)).map (buffer.take header.length :: ·)
      else none
    | _ => none
termination_by buffer.length

/-- The word of flags in a data packet. -/
def flagsOf (packet : Bytes) : UInt16 := UInt16.ofNat (beNat ((packet.drop headerSize).take 2))

lemma cutPackets_nil (large : Bool) : cutPackets large [] = some [] := by
  rw [cutPackets]
  rfl

/-- A packet that says its length is cut off. -/
lemma cutPackets_append {large : Bool} {packet : Bytes} {header : PacketHeader} (rest : Bytes)
    (hpeek : PacketHeader.peek large (packet ++ rest) = .ok (some header))
    (hlength : header.length = packet.length) :
    cutPackets large (packet ++ rest) = (cutPackets large rest).map (packet :: ·) := by
  have hne : packet ≠ [] := by
    rintro rfl
    have hsize := PacketHeader.headerSize_le_length hpeek
    simp [hlength, headerSize] at hsize
  rw [cutPackets, if_neg (by simp [hne])]
  split
  · next header' h =>
    obtain rfl := Option.some.inj (Except.ok.inj (hpeek.symm.trans h))
    rw [dif_pos (by simp [hlength])]
    simp only [hlength, List.take_left, List.drop_left]
  · next h => exact absurd hpeek (h header)

namespace Capabilities

variable {caps : Capabilities}

/-! ## The packets of payloads -/

/-- The data packets of payloads, of which the last one ends the request. -/
def framed (caps : Capabilities) : List Bytes → List Bytes
  | [] => [caps.dataPacket caps.lastFlags []]
  | [last] => [caps.dataPacket caps.lastFlags last]
  | payload :: rest => caps.dataPacket 0 payload :: caps.framed rest

/-- The data packets of a body. -/
def packetList (caps : Capabilities) (body : Bytes) : List Bytes :=
  caps.framed (pieces caps.maxPayload body)

lemma framed_ne_nil (payloads : List Bytes) : caps.framed payloads ≠ [] := by
  fun_cases Capabilities.framed caps payloads <;> simp

lemma flatten_framed (payloads : List Bytes) :
    (caps.framed payloads).flatten = caps.dataPackets payloads := by
  fun_induction Capabilities.framed caps payloads with
  | case1 => simp [dataPackets]
  | case2 last => simp [dataPackets]
  | case3 payload rest hne ih => rw [List.flatten_cons, ih, dataPackets.eq_3 _ _ _ hne]

/-- **What the encoder writes** is the packets in a row. -/
lemma flatten_packetList (caps : Capabilities) (body : Bytes) :
    (caps.packetList body).flatten = caps.packets body :=
  flatten_framed _

/-- A packet carries one of the payloads, or nothing where there is none. -/
lemma exists_of_mem_framed {payloads : List Bytes} {packet : Bytes}
    (hmem : packet ∈ caps.framed payloads) :
    ∃ flags payload, packet = caps.dataPacket flags payload ∧
      (payload = [] ∨ payload ∈ payloads) := by
  fun_induction Capabilities.framed caps payloads with
  | case1 => exact ⟨_, _, List.mem_singleton.1 hmem, .inl rfl⟩
  | case2 last => exact ⟨_, _, List.mem_singleton.1 hmem, .inr (by simp)⟩
  | case3 payload rest hne ih =>
    rcases List.mem_cons.1 hmem with rfl | hmem
    · exact ⟨0, payload, rfl, .inr (by simp)⟩
    · obtain ⟨flags, other, hpacket, hother⟩ := ih hmem
      exact ⟨flags, other, hpacket, hother.imp_right (List.mem_cons_of_mem payload)⟩

lemma drop_dataPacket (flags : UInt16) (payload : Bytes) :
    (caps.dataPacket flags payload).drop dataOverhead = payload := by
  refine List.drop_left' ?_
  rw [List.length_append, Decoder.length_octets, beBytes16, length_beBytes, dataOverhead]

lemma flagsOf_dataPacket (flags : UInt16) (payload : Bytes) :
    flagsOf (caps.dataPacket flags payload) = flags := by
  have hdrop : (caps.dataPacket flags payload).drop headerSize = beBytes16 flags ++ payload := by
    rw [dataPacket, List.append_assoc]
    exact List.drop_left' (Decoder.length_octets _ _ _)
  have htake : (beBytes16 flags ++ payload).take 2 = beBytes16 flags :=
    List.take_left' (length_beBytes _ _)
  rw [flagsOf, hdrop, htake, beBytes16, beNat_beBytes flags.toNat_lt, UInt16.ofNat_toNat]

/-- Every payload is carried by a packet. -/
lemma exists_mem_framed {payloads : List Bytes} {payload : Bytes} (hmem : payload ∈ payloads) :
    ∃ flags, caps.dataPacket flags payload ∈ caps.framed payloads := by
  fun_induction Capabilities.framed caps payloads with
  | case1 => cases hmem
  | case2 last => exact ⟨caps.lastFlags, by rw [List.mem_singleton.1 hmem, List.mem_singleton]⟩
  | case3 first rest _ ih =>
    rcases List.mem_cons.1 hmem with rfl | hmem
    · exact ⟨0, List.mem_cons_self⟩
    · obtain ⟨flags, hpacket⟩ := ih hmem
      exact ⟨flags, List.mem_cons_of_mem _ hpacket⟩

/-- Behind headers and flags the packets carry the payloads, and nothing else. -/
lemma flatMap_drop_framed (payloads : List Bytes) :
    (caps.framed payloads).flatMap (List.drop dataOverhead) = payloads.flatten := by
  fun_induction Capabilities.framed caps payloads with
  | case1 => simp [drop_dataPacket]
  | case2 last => simp [drop_dataPacket]
  | case3 payload rest _ ih => rw [List.flatMap_cons, ih, drop_dataPacket, List.flatten_cons]

/-- Only the last packet is flagged. -/
lemma map_flagsOf_framed (payloads : List Bytes) :
    (caps.framed payloads).map flagsOf =
      List.replicate ((caps.framed payloads).length - 1) 0 ++ [caps.lastFlags] := by
  fun_induction Capabilities.framed caps payloads with
  | case1 => simp [flagsOf_dataPacket]
  | case2 last => simp [flagsOf_dataPacket]
  | case3 payload rest _ ih =>
    have hpos := List.length_pos_iff.2 (@framed_ne_nil caps rest)
    rw [List.map_cons, flagsOf_dataPacket, ih, List.length_cons, Nat.add_sub_cancel,
      ← List.cons_append, ← List.replicate_succ, Nat.sub_add_cancel hpos]

/-- Packets whose payloads fit are cut apart again. -/
lemma cutPackets_framed {payloads : List Bytes}
    (hfits : ∀ payload ∈ [] :: payloads, Decoder.Fits caps payload) :
    cutPackets caps.largePackets (caps.framed payloads).flatten = some (caps.framed payloads) := by
  have hall : ∀ packet ∈ caps.framed payloads,
      ∃ flags payload, packet = caps.dataPacket flags payload ∧ Decoder.Fits caps payload := by
    intro packet hmem
    obtain ⟨flags, payload, rfl, hpayload⟩ := exists_of_mem_framed hmem
    exact ⟨flags, payload, rfl, hfits payload (List.mem_cons.2 hpayload)⟩
  generalize caps.framed payloads = packets at hall
  induction packets with
  | nil => exact cutPackets_nil _
  | cons packet packets ih =>
    obtain ⟨⟨flags, payload, rfl, hpayload⟩, hrest⟩ := List.forall_mem_cons.1 hall
    rw [List.flatten_cons, cutPackets_append _ (Decoder.peek_dataPacket flags _ hpayload)
      (Decoder.length_dataPacket _ _ _).symm, ih hrest]
    rfl

/-! ## The packets of a body -/

/-- A packet of a body takes at most the agreed size, or eleven octets where that is too little for
any payload, and it carries at most the body. -/
lemma length_le_of_mem_packetList {body packet : Bytes} (hmem : packet ∈ caps.packetList body) :
    ∃ flags payload, packet = caps.dataPacket flags payload ∧
      packet.length = dataOverhead + payload.length ∧
      packet.length ≤ max caps.sdu.toNat (dataOverhead + 1) ∧ payload.length ≤ body.length := by
  obtain ⟨flags, payload, rfl, hpayload⟩ := exists_of_mem_framed hmem
  have hbounds : payload.length ≤ caps.maxPayload ∧ payload.length ≤ body.length := by
    rcases hpayload with rfl | hpayload
    · exact ⟨Nat.zero_le _, Nat.zero_le _⟩
    · exact length_le_of_mem_pieces (by unfold maxPayload; omega) hpayload
  refine ⟨flags, payload, rfl, Decoder.length_dataPacket _ _ _, ?_, hbounds.2⟩
  rw [Decoder.length_dataPacket]
  have hpayload := hbounds.1
  unfold maxPayload at hpayload
  omega

/-- The lengths of packets of a body fit if the agreed size does. -/
lemma fits_of_mem_pieces {body payload : Bytes}
    (h : caps.largePackets = true ∨ caps.sdu.toNat ≤ 65535)
    (hmem : payload ∈ [] :: pieces caps.maxPayload body) : Decoder.Fits caps payload := by
  have hle : payload.length ≤ caps.maxPayload := by
    rcases List.mem_cons.1 hmem with rfl | hmem
    · exact Nat.zero_le _
    · exact (length_le_of_mem_pieces (by unfold maxPayload; omega) hmem).1
  have hsdu := caps.sdu.toNat_lt
  unfold maxPayload dataOverhead headerSize at hle
  unfold Decoder.Fits Decoder.lengthLimit dataOverhead headerSize UInt32.size UInt16.size
  split_ifs with hlarge
  · omega
  · rcases h with hlarge' | h
    · exact absurd hlarge' hlarge
    · omega

/-- **The packets of a request** lose nothing of its body. Let lengths take four octets, or the
agreed size of packets be one that two octets can say. Then what the encoder writes for a body can
be cut apart by the lengths that the headers say, with nothing left over, into data packets of which
there is at least one, such that

* every packet has a header and flags, says its own length, and is no longer than the agreed size
  (than eleven octets, where that is less);
* what the packets carry behind header and flags is the body;
* the last packet is flagged as the end of the request if the end of responses is marked, and no
  packet has any other flag. -/
theorem packets_cut (caps : Capabilities) (body : Bytes)
    (h : caps.largePackets = true ∨ caps.sdu.toNat ≤ 65535) :
    ∃ packets, cutPackets caps.largePackets (caps.packets body) = some packets ∧ packets ≠ [] ∧
      (∀ packet ∈ packets,
        dataOverhead ≤ packet.length ∧ packet.length ≤ max caps.sdu.toNat 11 ∧
        PacketHeader.peek caps.largePackets packet =
          .ok (some ⟨packet.length, PacketKind.data, 0⟩)) ∧
      packets.flatMap (List.drop dataOverhead) = body ∧
      packets.map flagsOf = List.replicate (packets.length - 1) 0 ++
        [if caps.endOfResponse then endOfRequestFlag else 0] := by
  refine ⟨caps.packetList body, ?_, framed_ne_nil _, fun packet hmem => ?_, ?_,
    map_flagsOf_framed _⟩
  · rw [← flatten_packetList]
    exact cutPackets_framed fun payload hmem => fits_of_mem_pieces h hmem
  · obtain ⟨flags, payload, rfl, hpayload⟩ := exists_of_mem_framed hmem
    obtain ⟨_, _, _, hlength, hsize, _⟩ := length_le_of_mem_packetList hmem
    have hpeek := Decoder.peek_dataPacket flags []
      (fits_of_mem_pieces h (List.mem_cons.2 hpayload))
    rw [List.append_nil, ← Decoder.length_dataPacket caps flags payload] at hpeek
    exact ⟨by omega, hsize, hpeek⟩
  · rw [packetList, flatMap_drop_framed, flatten_pieces]

/-- Packets of twelve octets carry two octets of a body each. -/
theorem packets_cut_five_octets :
    let caps := initial.withAccept 319 0 12 0x02000000
    (caps.largePackets = true ∨ caps.sdu.toNat ≤ 65535) ∧
    ∃ packets, cutPackets caps.largePackets (caps.packets [1, 2, 3, 4, 5]) = some packets ∧
      packets ≠ [] ∧
      (∀ packet ∈ packets,
        dataOverhead ≤ packet.length ∧ packet.length ≤ 12 ∧
        PacketHeader.peek caps.largePackets packet =
          .ok (some ⟨packet.length, PacketKind.data, 0⟩)) ∧
      packets.flatMap (List.drop dataOverhead) = [1, 2, 3, 4, 5] ∧
      packets.map flagsOf = List.replicate (packets.length - 1) 0 ++ [endOfRequestFlag] := by
  intro caps
  have h : caps.largePackets = true ∨ caps.sdu.toNat ≤ 65535 := .inl (by decide)
  exact ⟨h, packets_cut caps [1, 2, 3, 4, 5] h⟩

end Capabilities

end TnsClient
