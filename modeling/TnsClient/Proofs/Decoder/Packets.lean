import Mathlib
import TnsClient.Encoder
import TnsClient.Proofs.Decoder.Messages

set_option autoImplicit false

/-!
# Cutting a body into packets

The decoder yields the messages of one packet at a time and keeps no octets between packets. A body
that comes in several packets therefore means the same as in one packet if, and only if, it is cut
between messages, and no cut leaves anything behind a message that ends its packet. A cut inside a
message is always noticed: the packet with its front is too short for it.

## Main definitions

* `TnsClient.Decoder.stream` — the messages of packets that stand in a buffer one behind the other.
* `TnsClient.Decoder.CutsBetween` — every cut falls behind whole messages.

## Main results

* `TnsClient.Decoder.decode_dataPacket` — a data packet is decoded from its payload.
* `TnsClient.Decoder.stream_eq_iff` — which cuts change nothing, and what a cut inside a message
  comes to.
-/

namespace TnsClient.Decoder

open Decode

/-! ## One packet -/

/-- What the length of a packet has to stay below, so that the header can say it. -/
def lengthLimit (large : Bool) : Nat := if large then UInt32.size else UInt16.size

/-- The header of a packet says the length of the packet as far as it fits. -/
lemma peek_octets (large : Bool) (length : Nat) (kind : UInt8) (payload : Bytes) :
    PacketHeader.peek large (PacketHeader.octets large length kind ++ payload) =
      let said := length % lengthLimit large
      if said < headerSize then .error (.invalidPacketLength said)
      else .ok (some { length := said, kind, flags := 0 }) := by
  have hsaid : ∀ width, beNat (beBytes width length) = length % (1 <<< (8 * width)) := by
    intro width
    simp [beNat, foldl_beBytes]
  cases large
  · have h := hsaid 2
    simp [beBytes] at h
    simp [PacketHeader.octets, PacketHeader.peek, beBytes, h, lengthLimit, UInt16.size]
  · have h := hsaid 4
    simp [beBytes] at h
    simp [PacketHeader.octets, PacketHeader.peek, beBytes, h, lengthLimit, UInt32.size]

/-- A payload fits into a data packet if the header can say its length. -/
def Fits (capabilities : Capabilities) (payload : Bytes) : Prop :=
  dataOverhead + payload.length < lengthLimit capabilities.largePackets

lemma length_octets (large : Bool) (length : Nat) (kind : UInt8) :
    (PacketHeader.octets large length kind).length = headerSize := by
  cases large <;> simp [PacketHeader.octets, headerSize]

lemma length_dataPacket (capabilities : Capabilities) (flags : UInt16) (payload : Bytes) :
    (capabilities.dataPacket flags payload).length = dataOverhead + payload.length := by
  unfold Capabilities.dataPacket dataOverhead
  rw [List.length_append, List.length_append, length_octets, beBytes16, length_beBytes]

/-- The header of a data packet that fits says the length of the packet. -/
lemma peek_dataPacket {capabilities : Capabilities} {payload : Bytes} (flags : UInt16)
    (rest : Bytes) (hfits : Fits capabilities payload) :
    PacketHeader.peek capabilities.largePackets (capabilities.dataPacket flags payload ++ rest) =
      .ok (some ⟨dataOverhead + payload.length, PacketKind.data, 0⟩) := by
  rw [Capabilities.dataPacket, List.append_assoc, List.append_assoc, peek_octets,
    Nat.mod_eq_of_lt hfits]
  exact if_neg (by unfold dataOverhead; omega)

/-- **A data packet** that fits is decoded from its payload, and what stands behind it is left. -/
lemma decode_dataPacket (decoder : Decoder) (flags : UInt16) {payload : Bytes} (rest : Bytes)
    (hfits : Fits decoder.capabilities payload) :
    decoder.decode (decoder.capabilities.dataPacket flags payload ++ rest) =
      ⟨(decoder.body payload).1.map some, (decoder.body payload).2, rest⟩ := by
  have hpeek := peek_dataPacket flags rest hfits
  have hpacket := length_dataPacket decoder.capabilities flags payload
  have hpayload : (decoder.capabilities.dataPacket flags payload).drop headerSize =
      beBytes16 flags ++ payload := by
    rw [Capabilities.dataPacket, List.append_assoc]
    exact List.drop_left' (length_octets _ _ _)
  have hflags : Decode.u16be (beBytes16 flags ++ payload) =
      .ok (UInt16.ofNat (beNat (beBytes16 flags)), payload) := by
    have htake : Decode.take 2 (beBytes16 flags ++ payload) = .ok (beBytes16 flags, payload) := by
      have h := take_append (beBytes16 flags) payload
      rwa [show (beBytes16 flags).length = 2 from length_beBytes _ _] at h
    unfold Decode.u16be
    rw [bind_of_ok htake]
    rfl
  unfold decode
  rw [hpeek]
  simp only [← hpacket, List.take_left, List.drop_left, Nat.lt_irrefl, if_false, hpayload]
  unfold Decoder.payload
  simp [hflags]

/-- A packet that is decoded as the only one in its buffer fits. -/
lemma fits_of_decode {decoder decoder' : Decoder} {flags : UInt16} {payload : Bytes}
    {messages : List ServerMessage}
    (h : decoder.decode (decoder.capabilities.dataPacket flags payload) =
      ⟨.ok (some messages), decoder', []⟩) : Fits decoder.capabilities payload := by
  obtain ⟨header, hpeek, hle, hrest⟩ := exists_header_of_decode (congrArg Attempt.result h)
  rw [h, eq_comm, List.drop_eq_nil_iff, length_dataPacket] at hrest
  rw [length_dataPacket] at hle
  rw [Capabilities.dataPacket, List.append_assoc, peek_octets] at hpeek
  unfold Fits
  generalize decoder.capabilities.largePackets = large at hpeek ⊢
  have hsaid : (dataOverhead + payload.length) % lengthLimit large < lengthLimit large :=
    Nat.mod_lt _ (by cases large <;> decide)
  dsimp only at hpeek
  split_ifs at hpeek
  obtain rfl := Option.some.inj (Except.ok.inj hpeek)
  exact Nat.lt_of_le_of_lt hrest hsaid

/-! ## Packets one behind the other -/

/-- The messages of the packets in a buffer, taken off one after the other until there is none in
full or one cannot be read, what the decoder remembers then, and what is left. -/
def stream (decoder : Decoder) (buffer : Bytes) :
    Except DecodeError (List ServerMessage) × Decoder × Bytes :=
  let attempt := decoder.decode buffer
  match attempt.result with
  | .error error => (.error error, attempt.decoder, attempt.rest)
  | .ok none => (.ok [], attempt.decoder, attempt.rest)
  | .ok (some messages) =>
    -- a packet has at least its header, so this is always so
    if attempt.rest.length < buffer.length then
      let (more, last) := attempt.decoder.stream attempt.rest
      (more.map (messages ++ ·), last)
    else (.ok messages, attempt.decoder, attempt.rest)
termination_by buffer.length

/-- The octets of a body that is cut into parts, each with the flags of its packet. -/
def octets (parts : List (UInt16 × Bytes)) : Bytes := parts.flatMap Prod.snd

/-- The packets of the parts of a body. -/
def packets (capabilities : Capabilities) (parts : List (UInt16 × Bytes)) : Bytes :=
  parts.flatMap fun part => capabilities.dataPacket part.1 part.2

/-- Every cut falls behind whole messages. -/
def CutsBetween (decoder : Decoder) (parts : List (UInt16 × Bytes)) : Prop :=
  ∀ front back, parts = front ++ back → back ≠ [] →
    ∃ messages decoder', Whole decoder (octets front) messages decoder'

lemma stream_nil (decoder : Decoder) : decoder.stream [] = (.ok [], decoder, []) := by
  rw [stream, show decoder.decode [] = ⟨.ok none, decoder, []⟩ from rfl]

@[simp] lemma octets_cons (part : UInt16 × Bytes) (rest : List (UInt16 × Bytes)) :
    octets (part :: rest) = part.2 ++ octets rest := rfl

section

variable {capabilities : Capabilities} {part : UInt16 × Bytes} {rest parts : List (UInt16 × Bytes)}
  {decoder decoder' : Decoder} {messages : List ServerMessage}

/-- The first packet is decoded, and then the others unless it could not be read. -/
lemma stream_cons (hcaps : decoder.capabilities = capabilities)
    (hpart : part.2 ≠ [] ∧ Fits capabilities part.2) :
    decoder.stream (packets capabilities (part :: rest)) =
      match decoder.messages part.2 with
      | (.error error, decoder') => (.error error, decoder', packets capabilities rest)
      | (.ok messages, decoder') =>
        ((decoder'.stream (packets capabilities rest)).1.map (messages ++ ·),
          (decoder'.stream (packets capabilities rest)).2) := by
  subst hcaps
  have h := decode_dataPacket decoder part.1 (packets decoder.capabilities rest) hpart.2
  rw [body_eq_messages decoder hpart.1] at h
  have hshorter : (packets decoder.capabilities rest).length <
      (decoder.capabilities.dataPacket part.1 part.2 ++
          packets decoder.capabilities rest).length := by
    rw [List.length_append, length_dataPacket, dataOverhead]
    omega
  rw [packets, List.flatMap_cons, ← packets, stream, h]
  rcases decoder.messages part.2 with ⟨error | messages, decoder'⟩
  · rfl
  · simp only [Except.map, hshorter, if_true]

lemma stream_cons_of_error {error : DecodeError} (hcaps : decoder.capabilities = capabilities)
    (hpart : part.2 ≠ [] ∧ Fits capabilities part.2)
    (h : (decoder.messages part.2).1 = .error error) :
    (decoder.stream (packets capabilities (part :: rest))).1 = .error error := by
  rw [stream_cons hcaps hpart]
  rcases hfirst : decoder.messages part.2 with ⟨error' | read, decoder₁⟩ <;> simp_all

/-- Packets that can be read and are not empty hold a message. -/
lemma stream_ne_nil (hcaps : decoder.capabilities = capabilities)
    (hparts : ∀ part ∈ parts, part.2 ≠ [] ∧ Fits capabilities part.2) (hne : parts ≠ [])
    (h : (decoder.stream (packets capabilities parts)).1 = .ok messages) : messages ≠ [] := by
  rcases parts with _ | ⟨part, rest⟩
  · exact absurd rfl hne
  · have hpart := hparts part (by simp)
    rw [stream_cons hcaps hpart] at h
    rcases hfirst : decoder.messages part.2 with ⟨error | read, decoder₁⟩
    · simp [hfirst] at h
    · have hread := messages_ne_nil hfirst hpart.1
      rintro rfl
      rcases hothers : (decoder₁.stream (packets capabilities rest)).1 with error | others <;>
        simp [hfirst, hothers, Except.map, hread] at h

/-! ## Which cuts change nothing -/

/-- Cuts between messages change nothing. -/
lemma stream_of_cutsBetween (hcaps : decoder.capabilities = capabilities)
    (hparts : ∀ part ∈ parts, part.2 ≠ [] ∧ Fits capabilities part.2)
    (h : decoder.messages (octets parts) = (.ok messages, decoder'))
    (hcuts : decoder.CutsBetween parts) :
    decoder.stream (packets capabilities parts) = (.ok messages, decoder', []) := by
  induction parts generalizing decoder messages with
  | nil =>
    rw [octets, List.flatMap_nil, messages_nil] at h
    obtain ⟨hmessages, rfl⟩ := Prod.mk.inj h
    obtain rfl := Except.ok.inj hmessages
    exact stream_nil decoder
  | cons part rest ih =>
    obtain ⟨hpart, hrest⟩ := List.forall_mem_cons.1 hparts
    rw [stream_cons hcaps hpart]
    rcases rest with _ | ⟨next, rest⟩
    · rw [octets_cons, octets, List.flatMap_nil, List.append_nil] at h
      simp [h, packets, stream_nil, Except.map]
    · obtain ⟨done, decoder₁, hwhole⟩ := hcuts [part] (next :: rest) rfl (by simp)
      rw [octets_cons, octets, List.flatMap_nil, List.append_nil] at hwhole
      obtain ⟨more, hmore, rfl⟩ := hwhole.exists_rest h
      have hcuts₁ : decoder₁.CutsBetween (next :: rest) := by
        intro front back hsplit hback
        obtain ⟨all, decoder₂, hall⟩ := hcuts (part :: front) back (by rw [hsplit]; rfl) hback
        obtain ⟨others, hothers⟩ := hwhole.of_append hall
        exact ⟨others, decoder₂, hothers⟩
      have hstream := ih (hwhole.capabilities.trans hcaps) hrest hmore hcuts₁
      simp [hwhole.messages_eq, hstream, Except.map]

/-- Packets that mean what the whole body means are cut between messages.

**Proof sketch.** Induction on the parts. If the first part ends inside a message it cannot be read;
if it holds the message that ends the packet, it says all, and the other parts say more. -/
lemma cutsBetween_of_stream (hcaps : decoder.capabilities = capabilities)
    (hparts : ∀ part ∈ parts, part.2 ≠ [] ∧ Fits capabilities part.2)
    (h : decoder.messages (octets parts) = (.ok messages, decoder'))
    (hstream : decoder.stream (packets capabilities parts) = (.ok messages, decoder', [])) :
    decoder.CutsBetween parts := by
  induction parts generalizing decoder messages with
  | nil =>
    intro front back hsplit hback
    exact absurd (List.append_eq_nil_iff.1 hsplit.symm).2 hback
  | cons part rest ih =>
    obtain ⟨hpart, hrest⟩ := List.forall_mem_cons.1 hparts
    intro front back hsplit hback
    rcases front with _ | ⟨first, front⟩
    · exact ⟨[], decoder, .nil decoder⟩
    obtain ⟨rfl, htail⟩ := List.cons.inj hsplit
    rcases messages_cut h with ⟨done, decoder₁, hwhole⟩ | hcut | hall
    · obtain ⟨more, hmore, rfl⟩ := hwhole.exists_rest h
      rw [stream_cons hcaps hpart, hwhole.messages_eq] at hstream
      have hstream₁ : decoder₁.stream (packets capabilities rest) = (.ok more, decoder', []) := by
        rcases hothers : decoder₁.stream (packets capabilities rest) with ⟨_ | others, last⟩ <;>
          simp_all [Except.map]
      obtain ⟨others, decoder₂, hothers⟩ := ih (hwhole.capabilities.trans hcaps) hrest hmore
        hstream₁ front back htail hback
      exact ⟨_, decoder₂, hwhole.append hothers⟩
    · obtain ⟨expected, actual, hshort⟩ := hcut.messages_eq
      have herror : (decoder.stream (packets capabilities (part :: rest))).1 = _ :=
        stream_cons_of_error hcaps hpart hshort
      rw [hstream] at herror
      cases herror
    · have hfirst := hall []
      rw [List.append_nil] at hfirst
      rw [stream_cons hcaps hpart, hfirst] at hstream
      rcases hothers : (decoder'.stream (packets capabilities rest)).1 with error | others
      · simp [hothers, Except.map] at hstream
      · have hcaps' : decoder'.capabilities = capabilities := by
          have hsame := messages_capabilities decoder part.2
          rw [hfirst] at hsame
          exact hsame.trans hcaps
        have hne : rest ≠ [] := by
          rintro rfl
          exact hback (List.append_eq_nil_iff.1 htail.symm).2
        have := stream_ne_nil hcaps' hrest hne hothers
        simp [hothers, Except.map, this] at hstream

/-- A cut inside a message is noticed.

**Proof sketch.** Induction on the parts: either the first part ends inside a message itself, or it
consists of whole messages, and the cut is one of the other parts. -/
lemma stream_of_severs (hcaps : decoder.capabilities = capabilities)
    (hparts : ∀ part ∈ parts, part.2 ≠ [] ∧ Fits capabilities part.2)
    (h : decoder.messages (octets parts) = (.ok messages, decoder'))
    {front back : List (UInt16 × Bytes)} (hsplit : parts = front ++ back)
    (hsevers : decoder.Severs (octets front) (octets back)) :
    ∃ expected actual, (decoder.stream (packets capabilities parts)).1 =
      .error (.expectedAtLeast expected actual) := by
  induction parts generalizing decoder messages front with
  | nil =>
    obtain ⟨rfl, rfl⟩ := List.append_eq_nil_iff.1 hsplit.symm
    exact absurd rfl hsevers.front_ne_nil
  | cons part rest ih =>
    obtain ⟨hpart, hrest⟩ := List.forall_mem_cons.1 hparts
    rcases front with _ | ⟨first, front⟩
    · exact absurd rfl hsevers.front_ne_nil
    obtain ⟨rfl, htail⟩ := List.cons.inj hsplit
    rcases messages_cut h with ⟨done, decoder₁, hwhole⟩ | hcut | hall
    · obtain ⟨more, hmore, rfl⟩ := hwhole.exists_rest h
      obtain ⟨expected, actual, hshort⟩ := ih (hwhole.capabilities.trans hcaps) hrest hmore htail
        (hsevers.of_append hwhole)
      refine ⟨expected, actual, ?_⟩
      rw [stream_cons hcaps hpart, hwhole.messages_eq]
      simp [hshort, Except.map]
    · obtain ⟨expected, actual, hshort⟩ := hcut.messages_eq
      exact ⟨expected, actual, stream_cons_of_error hcaps hpart hshort⟩
    · -- the first part would say all, and so would the longer front
      obtain ⟨expected, actual, hshort⟩ := hsevers.messages_eq
      rw [octets_cons, hall] at hshort
      cases hshort

/-- **Packet boundaries** do not change meaning where they fall between messages, and nowhere else.
Let the decoder take a body as one data packet, and let the body be cut in any way into parts that
are not empty, each of which comes in a data packet of its own with whatever flags:

* decoding the packets one after the other yields the same messages and leaves the decoder as it was
  left by the one packet if, and only if, there are whole messages in front of every cut and none of
  them ends the packet;
* if any cut falls inside a message, decoding ends with the failure of running out of octets. -/
theorem stream_eq_iff {body : Bytes} {flags : UInt16}
    (haccepts : decoder.decode (decoder.capabilities.dataPacket flags body) =
      ⟨.ok (some messages), decoder', []⟩)
    (hparts : octets parts = body) (hne : ∀ part ∈ parts, part.2 ≠ []) :
    (decoder.stream (packets decoder.capabilities parts) = (.ok messages, decoder', []) ↔
      decoder.CutsBetween parts) ∧
    (∀ front back, parts = front ++ back → decoder.Severs (octets front) (octets back) →
      ∃ expected actual, (decoder.stream (packets decoder.capabilities parts)).1 =
        .error (.expectedAtLeast expected actual)) := by
  subst hparts
  have hfits := fits_of_decode haccepts
  have hbody : octets parts ≠ [] := by
    intro hnil
    have h := decode_dataPacket decoder flags [] hfits
    rw [List.append_nil, haccepts] at h
    simp [hnil, Decoder.body, Except.map] at h
  have hmessages : decoder.messages (octets parts) = (.ok messages, decoder') := by
    have h := decode_dataPacket decoder flags [] hfits
    rw [List.append_nil, haccepts, body_eq_messages decoder hbody] at h
    rcases hread : decoder.messages (octets parts) with ⟨error | read, decoder₁⟩ <;>
      simp_all [Except.map]
  have hall : ∀ part ∈ parts, part.2 ≠ [] ∧ Fits decoder.capabilities part.2 := by
    intro part hmem
    refine ⟨hne part hmem, ?_⟩
    have hle : part.2.length ≤ (octets parts).length :=
      (List.sublist_flatten_of_mem (List.mem_map_of_mem hmem)).length_le
    unfold Fits at hfits ⊢
    omega
  exact ⟨⟨cutsBetween_of_stream rfl hall hmessages, stream_of_cutsBetween rfl hall hmessages⟩,
    fun front back hsplit hsevers => stream_of_severs rfl hall hmessages hsplit hsevers⟩

end

/-- Two statuses in a packet may be sent in a packet each. -/
theorem cutsBetween_two_statuses :
    ({} : Decoder).decode (Capabilities.initial.dataPacket 0
        ([9, 0, 0, 0, 0, 0, 0] ++ [9, 0, 0, 0, 1, 0, 2])) =
      ⟨.ok (some [.status ⟨0, 0⟩, .status ⟨1, 2⟩]), {}, []⟩ ∧
    ({} : Decoder).CutsBetween [(0, [9, 0, 0, 0, 0, 0, 0]), (0x0800, [9, 0, 0, 0, 1, 0, 2])] := by
  have haccepts : ({} : Decoder).decode (Capabilities.initial.dataPacket 0
      ([9, 0, 0, 0, 0, 0, 0] ++ [9, 0, 0, 0, 1, 0, 2])) =
        ⟨.ok (some [.status ⟨0, 0⟩, .status ⟨1, 2⟩]), {}, []⟩ := by cbv
  have hparts : octets [(0, [9, 0, 0, 0, 0, 0, 0]), (0x0800, [9, 0, 0, 0, 1, 0, 2])] =
      [9, 0, 0, 0, 0, 0, 0] ++ [9, 0, 0, 0, 1, 0, 2] := rfl
  exact ⟨haccepts, (stream_eq_iff haccepts hparts (by decide)).1.1 (by cbv)⟩

/-- A status that is cut in two cannot be read, though it can in one packet. -/
theorem stream_status_cut :
    ({} : Decoder).decode (Capabilities.initial.dataPacket 0 [9, 0, 0, 0, 0, 0, 0]) =
      ⟨.ok (some [.status ⟨0, 0⟩]), {}, []⟩ ∧
    ({} : Decoder).stream (packets Capabilities.initial [(0, [9, 0, 0]), (0, [0, 0, 0, 0])]) ≠
      (.ok [.status ⟨0, 0⟩], {}, []) := by
  refine ⟨by cbv, fun h => ?_⟩
  have hfirst : (({} : Decoder).stream
      (packets Capabilities.initial [(0, [9, 0, 0]), (0, [0, 0, 0, 0])])).1 =
        .error (.expectedAtLeast 4 2) := by cbv
  rw [h] at hfirst
  cases hfirst

end TnsClient.Decoder
