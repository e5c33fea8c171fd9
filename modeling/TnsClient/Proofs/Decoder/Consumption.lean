import Mathlib
import TnsClient.Proofs.Decoder.Messages

set_option autoImplicit false

/-!
# What the decoder takes off a buffer

Octets come in as they please, so that the decoder is asked for a packet long before one is there.
It then leaves everything as it is. A packet that is there in full is taken off the buffer octet for
octet, whether its messages can be read or not, and what stands behind it is not looked at; so a
packet is never read twice, and none is read as the end of another.

## Main definitions

* `TnsClient.PacketHeader.declared` — the length that the front of a buffer says.
* `TnsClient.Decoder.Takes` — a packet of some length is taken off a buffer.
* `TnsClient.Decoder.Outcome` — what an attempt can come to, with what it then looks like and what
  it is due to.

## Main results

* `TnsClient.Decoder.decode_append` — what has been decoded does not depend on what comes behind.
* `TnsClient.Decoder.payload_ne_nil` — a packet that can be read holds a message.
* `TnsClient.Decoder.outcome_iff_due` — which attempt comes to what.
-/

namespace TnsClient

/-! ## Headers -/

namespace PacketHeader

variable {large : Bool} {buffer : Bytes}

/-- The length of a packet that the front of a buffer says. -/
def declared (large : Bool) (buffer : Bytes) : Nat :=
  beNat (buffer.take (if large then 4 else 2))

/-- The header alone says the length. -/
lemma declared_take {length : Nat} (h : headerSize ≤ length) :
    declared large (buffer.take length) = declared large buffer := by
  unfold headerSize at h
  unfold declared
  rw [List.take_take, min_eq_left]
  split_ifs <;> omega

/-- There is no header while there are fewer than eight octets. -/
lemma peek_of_short (h : buffer.length < headerSize) : peek large buffer = .ok none := by
  unfold peek
  split
  · simp only [List.length_cons, headerSize] at h
    omega
  · rfl

/-- Of eight octets, the length alone decides whether they are a header. -/
lemma exists_peek_eq (large : Bool) (h : headerSize ≤ buffer.length) :
    ∃ kind flags, buffer[4]? = some kind ∧ peek large buffer =
      if declared large buffer < headerSize then
        .error (.invalidPacketLength (declared large buffer))
      else .ok (some { length := declared large buffer, kind, flags }) := by
  match buffer, h with
  | a :: b :: c :: d :: kind :: flags :: _ :: _ :: _, _ =>
    refine ⟨kind, flags, rfl, ?_⟩
    cases large <;> rfl

/-- A header, or the failure to read one, does not depend on what comes behind. -/
lemma peek_append {found : Except DecodeError (Option PacketHeader)} (h : peek large buffer = found)
    (hfound : found ≠ .ok none) (more : Bytes) : peek large (buffer ++ more) = found := by
  rw [← h] at hfound ⊢
  unfold peek at hfound ⊢
  split at hfound
  · rfl
  · exact absurd rfl hfound

end PacketHeader

namespace Decoder

variable {decoder : Decoder} {buffer : Bytes}

/-! ## Attempts -/

/-- A packet that is not there in full changes nothing. -/
lemma decode_eq_of_none (h : (decoder.decode buffer).result = .ok none) :
    decoder.decode buffer = ⟨.ok none, decoder, buffer⟩ := by
  unfold decode at h ⊢
  rcases hpeek : PacketHeader.peek decoder.capabilities.largePackets buffer with
    error | _ | header
  · simp [hpeek] at h
  · rfl
  · by_cases hshort : (buffer.take header.length).length < header.length
    · simp only [hshort, if_true]
    · simp only [hpeek, hshort, if_false] at h
      rcases hresult : (decoder.payload header.kind
        ((buffer.take header.length).drop headerSize)).1 with error | messages
      · rw [hresult] at h
        cases h
      · rw [hresult] at h
        cases h

/-- **What has been decoded**, or has failed to be, does not depend on what comes behind. -/
lemma decode_append (h : (decoder.decode buffer).result ≠ .ok none) (more : Bytes) :
    decoder.decode (buffer ++ more) =
      { decoder.decode buffer with rest := (decoder.decode buffer).rest ++ more } := by
  unfold decode at h ⊢
  rcases hpeek : PacketHeader.peek decoder.capabilities.largePackets buffer with
    error | _ | header
  · rw [PacketHeader.peek_append hpeek (by simp)]
  · simp [hpeek] at h
  · rw [PacketHeader.peek_append hpeek (by simp)]
    by_cases hshort : (buffer.take header.length).length < header.length
    · simp only [hpeek, hshort, if_true] at h
      exact absurd rfl h
    · have hlength : header.length ≤ buffer.length := by
        rw [List.length_take] at hshort
        omega
      have htake : (buffer ++ more).take header.length = buffer.take header.length :=
        List.take_append_of_le_length hlength
      have hdrop : (buffer ++ more).drop header.length = buffer.drop header.length ++ more :=
        List.drop_append_of_le_length hlength
      simp only [htake, hdrop, hshort, if_false]

/-- The length of the packet at the front of a buffer, as far as the capabilities go. -/
def declared (decoder : Decoder) (buffer : Bytes) : Nat :=
  PacketHeader.declared decoder.capabilities.largePackets buffer

lemma decode_of_short (h : buffer.length < headerSize) :
    decoder.decode buffer = ⟨.ok none, decoder, buffer⟩ := by
  unfold decode
  rw [PacketHeader.peek_of_short h]

lemma decode_of_malformed (h : headerSize ≤ buffer.length)
    (hlength : decoder.declared buffer < headerSize) : decoder.decode buffer =
      ⟨.error (.invalidPacketLength (decoder.declared buffer)), decoder, buffer⟩ := by
  obtain ⟨kind, flags, -, hpeek⟩ :=
    PacketHeader.exists_peek_eq decoder.capabilities.largePackets h
  unfold declared at hlength ⊢
  rw [if_pos hlength] at hpeek
  unfold decode
  rw [hpeek]

/-- A packet that is there in full is decoded from what stands behind its header. -/
lemma exists_decode_eq (hsound : headerSize ≤ decoder.declared buffer)
    (hwhole : decoder.declared buffer ≤ buffer.length) :
    ∃ kind, buffer[4]? = some kind ∧ decoder.decode buffer =
      let payload := (buffer.take (decoder.declared buffer)).drop headerSize
      ⟨(decoder.payload kind payload).1.map some, (decoder.payload kind payload).2,
        buffer.drop (decoder.declared buffer)⟩ := by
  obtain ⟨kind, flags, hkind, hpeek⟩ :=
    PacketHeader.exists_peek_eq decoder.capabilities.largePackets (hsound.trans hwhole)
  refine ⟨kind, hkind, ?_⟩
  unfold declared at hsound hwhole ⊢
  rw [if_neg (Nat.not_lt.2 hsound)] at hpeek
  unfold decode
  rw [hpeek]
  simp only [List.length_take, min_lt_iff, Nat.lt_irrefl, Nat.not_lt.2 hwhole, false_or, if_false]

lemma decode_of_part (hsound : headerSize ≤ decoder.declared buffer)
    (hlong : headerSize ≤ buffer.length) (hpart : buffer.length < decoder.declared buffer) :
    decoder.decode buffer = ⟨.ok none, decoder, buffer⟩ := by
  obtain ⟨kind, flags, -, hpeek⟩ :=
    PacketHeader.exists_peek_eq decoder.capabilities.largePackets hlong
  unfold declared at hsound hpart
  rw [if_neg (Nat.not_lt.2 hsound)] at hpeek
  unfold decode
  rw [hpeek]
  simp only [List.length_take, min_lt_iff, hpart, or_true, if_true]

/-! ## The messages of a packet -/

/-- The one message of a packet that is not a data packet. -/
lemma single_ne_nil {read : Except DecodeError (ServerMessage × Bytes)}
    {messages : List ServerMessage}
    (h : read.map (fun (message, _) => [message]) = .ok messages) : messages ≠ [] := by
  rcases read with error | ⟨message, rest⟩
  · cases h
  · obtain rfl := Except.ok.inj h
    simp

lemma body_ne_nil {input : Bytes} {messages : List ServerMessage}
    (h : (decoder.body input).1 = .ok messages) : messages ≠ [] := by
  by_cases hinput : input = []
  · subst hinput
    cases h
  · rw [body_eq_messages decoder hinput] at h
    exact messages_ne_nil (Prod.ext h rfl) hinput

/-- **A packet that can be read** holds a message. -/
lemma payload_ne_nil {kind : UInt8} {input : Bytes} {messages : List ServerMessage}
    (h : (decoder.payload kind input).1 = .ok messages) : messages ≠ [] := by
  unfold payload at h
  split_ifs at h
  · rcases hflags : Decode.u16be input with error | ⟨flags, rest⟩
    · rw [hflags] at h
      cases h
    · rw [hflags] at h
      exact body_ne_nil h
  all_goals
    dsimp only at h
    exact single_ne_nil h

/-! ## What an attempt comes to -/

/-- The packet at the front of a buffer is taken off it, all of the length that it says itself, and
what comes of it depends on nothing else in the buffer: an error, or at least one message. -/
structure Takes (decoder : Decoder) (buffer : Bytes) : Prop where
  /-- The packet is there in full. -/
  whole : decoder.declared buffer ≤ buffer.length
  /-- All of the packet is removed, and nothing else. -/
  rest : (decoder.decode buffer).rest = buffer.drop (decoder.declared buffer)
  /-- Behind the same packet, anything else can stand. -/
  alone : ∀ behind, decoder.decode (buffer.take (decoder.declared buffer) ++ behind) =
    { decoder.decode buffer with rest := behind }
  /-- Something comes of it. -/
  yields : (∃ error, (decoder.decode buffer).result = .error error) ∨
    ∃ messages, (decoder.decode buffer).result = .ok (some messages) ∧ messages ≠ []

/-- What an attempt to decode a packet can come to. -/
inductive Outcome where
  /-- More octets are needed. -/
  | waits
  /-- The header is out of order. -/
  | refuses
  /-- A packet is taken off the buffer. -/
  | takes
  deriving DecidableEq, Repr

/-- What an attempt looks like that comes to this. -/
def Outcome.Seen (decoder : Decoder) (buffer : Bytes) : Outcome → Prop
  | waits => decoder.decode buffer = ⟨.ok none, decoder, buffer⟩
  | refuses => decoder.decode buffer =
      ⟨.error (.invalidPacketLength (decoder.declared buffer)), decoder, buffer⟩
  | takes => decoder.Takes buffer

/-- What the buffer has to be like for an attempt to come to this. -/
def Outcome.Due (decoder : Decoder) (buffer : Bytes) : Outcome → Prop
  | waits => buffer.length < headerSize ∨
      headerSize ≤ decoder.declared buffer ∧ buffer.length < decoder.declared buffer
  | refuses => headerSize ≤ buffer.length ∧ decoder.declared buffer < headerSize
  | takes => headerSize ≤ decoder.declared buffer ∧ decoder.declared buffer ≤ buffer.length

lemma exists_due (decoder : Decoder) (buffer : Bytes) :
    ∃ outcome : Outcome, outcome.Due decoder buffer := by
  rcases Nat.lt_or_ge buffer.length headerSize with hshort | hlong
  · exact ⟨.waits, .inl hshort⟩
  rcases Nat.lt_or_ge (decoder.declared buffer) headerSize with hmalformed | hsound
  · exact ⟨.refuses, hlong, hmalformed⟩
  rcases Nat.lt_or_ge buffer.length (decoder.declared buffer) with hpart | hwhole
  · exact ⟨.waits, .inr ⟨hsound, hpart⟩⟩
  · exact ⟨.takes, hsound, hwhole⟩

/-- Something comes of a packet that is there in full. -/
lemma yields_of_whole (hsound : headerSize ≤ decoder.declared buffer)
    (hwhole : decoder.declared buffer ≤ buffer.length) :
    (∃ error, (decoder.decode buffer).result = .error error) ∨
      ∃ messages, (decoder.decode buffer).result = .ok (some messages) ∧ messages ≠ [] := by
  obtain ⟨kind, -, hdecode⟩ := exists_decode_eq hsound hwhole
  rw [hdecode]
  dsimp only
  rcases hresult : (decoder.payload kind
    ((buffer.take (decoder.declared buffer)).drop headerSize)).1 with error | messages
  · exact .inl ⟨error, rfl⟩
  · exact .inr ⟨messages, rfl, payload_ne_nil hresult⟩

/-- **A packet that is there in full** is taken off the buffer.

**Proof sketch.** The packet on its own says the same length, so that something comes of it and
nothing of it is left. What stands behind it, in the buffer or anywhere else, is then only left. -/
lemma takes_of_whole (hsound : headerSize ≤ decoder.declared buffer)
    (hwhole : decoder.declared buffer ≤ buffer.length) : decoder.Takes buffer := by
  set packet := buffer.take (decoder.declared buffer) with hpacket
  have hsame : decoder.declared packet = decoder.declared buffer :=
    PacketHeader.declared_take hsound
  have hlength : packet.length = decoder.declared packet := by
    rw [hsame, hpacket, List.length_take_of_le hwhole]
  rw [← hsame] at hsound
  -- nothing is left of the packet on its own
  have hempty : (decoder.decode packet).rest = [] := by
    obtain ⟨kind, -, hdecode⟩ := exists_decode_eq hsound hlength.ge
    rw [hdecode, ← hlength]
    exact List.drop_length
  have hbehind : ∀ behind, decoder.decode (packet ++ behind) =
      { decoder.decode packet with rest := behind } := by
    intro behind
    have hsome : (decoder.decode packet).result ≠ .ok none := by
      rcases yields_of_whole hsound hlength.ge with ⟨error, hresult⟩ | ⟨messages, hresult, -⟩ <;>
        simp [hresult]
    rw [decode_append hsome, hempty, List.nil_append]
  have hbuffer : decoder.decode buffer =
      { decoder.decode packet with rest := buffer.drop (decoder.declared buffer) } := by
    rw [← hbehind, hpacket, List.take_append_drop]
  refine ⟨hwhole, by rw [hbuffer], fun behind => ?_, yields_of_whole (hsame ▸ hsound) hwhole⟩
  rw [← hpacket, hbehind, hbuffer]

/-- A packet that is taken off the buffer has a header. -/
lemma Takes.headerSize_le (h : decoder.Takes buffer) : headerSize ≤ decoder.declared buffer := by
  by_contra hmalformed
  have hshort : (buffer.take (decoder.declared buffer) ++ []).length < headerSize := by
    rw [List.append_nil, List.length_take]
    omega
  -- what is taken would be too short to be decoded on its own
  have hnone : (decoder.decode buffer).result = .ok none := by
    have halone := h.alone []
    rw [decode_of_short hshort] at halone
    exact (congrArg Attempt.result halone).symm
  rcases h.yields with ⟨error, hresult⟩ | ⟨messages, hresult, -⟩ <;> simp [hnone] at hresult

lemma Outcome.Due.seen {outcome : Outcome} (h : outcome.Due decoder buffer) :
    outcome.Seen decoder buffer := by
  cases outcome with
  | waits =>
    rcases Nat.lt_or_ge buffer.length headerSize with hshort | hlong
    · exact decode_of_short hshort
    · obtain ⟨hsound, hpart⟩ := h.resolve_left (Nat.not_lt.2 hlong)
      exact decode_of_part hsound hlong hpart
  | refuses => exact decode_of_malformed h.1 h.2
  | takes => exact takes_of_whole h.1 h.2

lemma Takes.length_rest_lt (h : decoder.Takes buffer) :
    (decoder.decode buffer).rest.length < buffer.length := by
  have hlength := h.headerSize_le
  have hwhole := h.whole
  unfold headerSize at hlength
  rw [h.rest, List.length_drop]
  omega

/-- What an attempt has come to can be told from what is left and whether it failed. -/
lemma Outcome.Seen.eq {outcome : Outcome} (h : outcome.Seen decoder buffer) :
    outcome = if (decoder.decode buffer).rest.length < buffer.length then .takes
      else if (decoder.decode buffer).result.toBool then .waits else .refuses := by
  cases outcome with
  | waits | refuses =>
    have hseen : decoder.decode buffer = _ := h
    rw [hseen, if_neg (Nat.lt_irrefl _)]
    rfl
  | takes => exact (if_pos (Takes.length_rest_lt h)).symm

/-- **What an attempt comes to** depends on how many octets there are and on the length that they
declare, and it comes to one thing only. If more octets are needed, or the header is out of order,
the decoder and the buffer stay as they are; otherwise just the packet is removed, and what comes of
it, an error or some messages, depends on the decoder and the packet alone. -/
theorem outcome_iff_due (decoder : Decoder) (buffer : Bytes) :
    (∀ outcome : Outcome, outcome.Seen decoder buffer ↔ outcome.Due decoder buffer) ∧
      ∃! outcome : Outcome, outcome.Seen decoder buffer := by
  obtain ⟨due, hdue⟩ := exists_due decoder buffer
  have hunique : ∀ outcome : Outcome, outcome.Seen decoder buffer → outcome = due :=
    fun outcome hseen => hseen.eq.trans hdue.seen.eq.symm
  refine ⟨fun outcome => ⟨fun hseen => ?_, Outcome.Due.seen⟩, due, hdue.seen, hunique⟩
  rwa [hunique outcome hseen]

end Decoder

end TnsClient
