import TnsClient.Proofs.Encoder.CallReaders
import TnsClient.Proofs.Link.Fragments
import TnsClient.Proofs.Message.SelfDelimiting
import TnsClient.Proofs.Wire.Signed
import TnsClient.Proofs.Wire.Skipping

set_option autoImplicit false

/-!
# Replies to operations on large objects

The reply to an operation on a large object does not say what it consists of: locators come without
their lengths, and an amount may or may not come behind them. The server takes the lengths, and
whether an amount is wanted, from the request; the client takes them from the operation that it
asked for. Here a server is given that knows nothing but the octets of the request, and what it
replies is what the client reads.

The amount is written without a sign and read with one, which is the same as long as it is one of
the nonnegative amounts. A length is announced by what 32 bits hold of it and expected in full,
which is the same as long as 32 bits hold it; longer locators are where the two disagree.

## Main definitions

* `TnsClient.LobAnnouncement` — what a request says about its reply.
* `TnsClient.Decode.lobCall` — reads it from the octets of the request.
* `TnsClient.LobReply` — a reply that does as the request says.

## Main results

* `TnsClient.LobRequest.arguments_announce` — what the octets of a request say.
* `TnsClient.Decode.Reads.lobReply` — the reader of parameters takes exactly such a reply.
* `TnsClient.Link.lob_reply_agrees_iff` — the link that sends the request reads all replies to it,
  just if 32 bits hold the lengths.
-/

namespace TnsClient

/-! ## What a request says about its reply -/

/-- What a request for an operation on a large object says about its reply. -/
structure LobAnnouncement where
  /-- The octets of the locator. -/
  sourceLength : Nat
  /-- The octets of the second locator. -/
  destLength : Nat
  /-- Whether an amount is wanted. -/
  wantsAmount : Bool
  deriving DecidableEq, Repr

/-- A reply that does as the request says. -/
structure LobReply (said : LobAnnouncement) where
  /-- The locator, as it is now. -/
  source : Bytes
  /-- The second locator, as it is now. -/
  dest : Bytes
  /-- The amount, if one is wanted. -/
  amount : Int64
  /-- How the amount is written. -/
  amountOctets : Bytes
  /-- As many octets come as are announced for the locator. -/
  source_length : source.length = said.sourceLength
  /-- As many octets come as are announced for the second locator. -/
  dest_length : dest.length = said.destLength
  /-- No amount is negative. -/
  amount_nonneg : 0 ≤ amount.toInt
  /-- Amounts are written without a sign. -/
  amount_form : IntegerForm .eight amount.toInt.toNat amountOctets

namespace LobReply

variable {said : LobAnnouncement}

/-- The octets of a reply. -/
def octets (reply : LobReply said) : Bytes :=
  reply.source ++ (reply.dest ++ if said.wantsAmount then reply.amountOctets else [])

/-- What a reply returns: a locator without octets is none. -/
def parameters (reply : LobReply said) : LobParameters where
  source := if reply.source.isEmpty then none else some reply.source
  dest := if reply.dest.isEmpty then none else some reply.dest
  amount := if said.wantsAmount then some reply.amount else none
  flag := none

/-- A locator is returned as it comes. -/
lemma length_parameters (reply : LobReply said) :
    (reply.parameters.source.getD []).length = said.sourceLength ∧
      (reply.parameters.dest.getD []).length = said.destLength := by
  have hlocator : ∀ octets : Bytes,
      (if octets.isEmpty then none else some octets).getD [] = octets := by
    intro octets
    cases octets <;> rfl
  rw [← reply.source_length, ← reply.dest_length]
  exact ⟨congrArg List.length (hlocator _), congrArg List.length (hlocator _)⟩

end LobReply

namespace Decode

/-- Reads what the arguments of a request say about its reply. -/
def lobAnnouncement : Decode LobAnnouncement := do
  let source ← pointer
  let dest ← pointer
  skipUb4  -- positions in short objects
  skipUb4
  skip 3
  skipUb4  -- operation
  skip 2
  skipUb8  -- positions
  skipUb8
  let amount ← u8
  return ⟨source.getD 0, dest.getD 0, amount == 1⟩

/-- Reads what a request for an operation on a large object says about its reply. -/
def lobCall (token : Bool) : Decode LobAnnouncement :=
  functionCall token FunctionCode.lob lobAnnouncement

end Decode

namespace LobRequest

/-- What a request says about its reply: of each length as much as 32 bits hold. -/
def announcement (request : LobRequest) : LobAnnouncement where
  sourceLength := request.locator.length % UInt32.size
  destLength := (request.dest?.getD []).length % UInt32.size
  wantsAmount := request.sendsAmount

/-- 32 bits hold the lengths of the locators. -/
structure Announceable (request : LobRequest) : Prop where
  source : request.locator.length < UInt32.size
  dest : (request.dest?.getD []).length < UInt32.size

/-- **What a request says** about its reply. -/
lemma arguments_announce (request : LobRequest) :
    ∃ front behind, request.arguments = front ++ behind ∧
      Decode.lobAnnouncement.Reads front request.announcement := by
  let flag : UInt8 := if request.sendsAmount then 1 else 0
  refine ⟨announce true request.locator.length ++
    (announce request.dest?.isSome (request.dest?.getD []).length ++
    (Encode.ub4 0 ++ (Encode.ub4 0 ++ ([0, 0, 0] ++ (Encode.ub4 request.opcode ++ ([0, 0] ++
    (Encode.ub8 request.operation.sourceOffset ++
    (Encode.ub8 request.operation.destOffset ++ [flag])))))))),
    List.replicate 6 0 ++ (request.locator ++ (request.dest?.getD [] ++
    (request.operation.payload ++
    if request.sendsAmount then Encode.ub8 request.operation.amount else []))), ?_, ?_⟩
  · simp only [arguments, List.append_assoc, flag]
  · have hzero := Decode.Reads.skipUb4 (.ub4 0)
    have hflag : (flag == 1) = request.sendsAmount := by
      unfold flag
      cases request.sendsAmount <;> rfl
    have hdests : (if request.dest?.isSome then some ((request.dest?.getD []).length % UInt32.size)
        else none).getD 0 = (request.dest?.getD []).length % UInt32.size := by
      cases request.dest? <;> rfl
    have hsaid := (Decode.Reads.u8 flag).map fun octet =>
      (⟨request.locator.length % UInt32.size, (request.dest?.getD []).length % UInt32.size,
        octet == 1⟩ : LobAnnouncement)
    rw [hflag] at hsaid
    refine (Decode.Reads.pointer_mod true _).bind ((Decode.Reads.pointer_mod _ _).bind ?_)
    rw [hdests]
    refine hzero.bind (hzero.bind ((Decode.Reads.skip [0, 0, 0]).bind ?_))
    refine (Decode.Reads.skipUb4 (.ub4 request.opcode)).bind ((Decode.Reads.skip [0, 0]).bind ?_)
    exact (Decode.Reads.skipUb8 (.ub8 _)).bind ((Decode.Reads.skipUb8 (.ub8 _)).bind hsaid)

/-- A server finds in the octets of a call what it says about its reply. -/
lemma lobCall_callOctets (request : LobRequest) (encoder : Encoder) (sequence : UInt8) :
    ∃ behind, Decode.lobCall encoder.capabilities.sendsToken
        (encoder.callOctets (.function FunctionCode.lob request.arguments) sequence) =
      .ok (request.announcement, behind) := by
  obtain ⟨front, behind, hsplit, hreads⟩ := request.arguments_announce
  have hcall := Decode.functionCall_callOctets encoder FunctionCode.lob request.arguments
    Decode.lobAnnouncement sequence []
  rw [List.append_nil, List.append_nil] at hcall
  refine ⟨behind, hcall.trans ?_⟩
  rw [hsplit]
  exact hreads.complete behind

end LobRequest

/-! ## What the client makes of it -/

namespace Decode.Reads

/-- An amount that is written without a sign is read with one. -/
lemma sb8 {amount : Int64} {wire : Bytes} (hnonneg : 0 ≤ amount.toInt)
    (h : IntegerForm .eight amount.toInt.toNat wire) : Decode.sb8.Reads wire amount := by
  obtain ⟨octets, hallowed, rfl, hvalue⟩ := h
  have hle : octets.length ≤ Width.eight.octets := IntegerForm.length_le hallowed
  have height : Width.eight.octets = 8 := rfl
  have hbound := amount.toInt_lt
  have hlength : (UInt8.ofNat octets.length).toNat = octets.length :=
    UInt8.toNat_ofNat_of_lt' (lt_of_le_of_lt hle (by decide))
  have hmod : octets.length % 128 = octets.length := Nat.mod_eq_of_lt (by omega)
  have hsmall : beNat octets < 0x8000000000000000 := by omega
  have hsigned := Decode.signed_cons .eight (UInt8.ofNat octets.length) octets
  rw [hlength, hmod, if_pos hle, if_neg (lt_irrefl _), List.take_length, List.drop_length,
    if_pos hsmall, decide_eq_false (by omega)] at hsigned
  refine of_eq ?_
  unfold Decode.sb8
  rw [Decode.bind_of_ok hsigned]
  have hamount : signedValue false octets = amount.toInt := by
    simp only [signedValue, Bool.false_eq_true, if_false, hvalue]
    omega
  rw [hamount, Int64.ofInt_toInt]
  rfl

/-- A locator is read if as many octets come as are expected. -/
lemma locatorOctets (octets : Bytes) :
    (Decode.locator octets.length).Reads octets
      (if octets.isEmpty then none else some octets) := by
  unfold Decode.locator
  rcases octets with _ | ⟨octet, octets⟩
  · exact Reads.pure none
  · exact (Reads.take (octet :: octets)).map some

/-- **A reply** that does as the request says is read, and nothing behind it. -/
lemma lobReply {said : LobAnnouncement} (reply : LobReply said) {shape : LobShape}
    (hsource : shape.sourceLength = said.sourceLength)
    (hdest : shape.destLength = said.destLength) (hamount : shape.sendsAmount = said.wantsAmount)
    (hopcode : shape.opcode ≠ LobOpcode.createTemporary) :
    (Decode.lobParameters shape).Reads reply.octets reply.parameters := by
  unfold Decode.lobParameters
  simp only [if_neg hopcode]
  rw [hsource, hdest, hamount, ← reply.source_length, ← reply.dest_length]
  refine (locatorOctets reply.source).bind ((locatorOctets reply.dest).bind ?_)
  unfold LobReply.parameters
  by_cases hwanted : said.wantsAmount = true
  · simp only [if_pos hwanted]
    exact ((sb8 reply.amount_nonneg reply.amount_form).map some).map _
  · simp only [if_neg hwanted]
    exact Reads.pure _

end Decode.Reads

namespace LobRequest

/-- No client creates a temporary object this way. -/
lemma opcode_ne_createTemporary (request : LobRequest) :
    request.opcode ≠ LobOpcode.createTemporary := by
  unfold opcode
  rcases request.operation <;> exact of_decide_eq_true rfl

/-- The client expects as many octets as the second locator has. -/
lemma shape_destLength (request : LobRequest) :
    request.shape.destLength = (request.dest?.getD []).length := by
  unfold shape
  cases request.dest? <;> rfl

/-- Lengths that 32 bits hold are said as they are. -/
lemma Announceable.announcement_eq {request : LobRequest} (h : request.Announceable) :
    request.announcement.sourceLength = request.shape.sourceLength ∧
      request.announcement.destLength = request.shape.destLength := by
  rw [request.shape_destLength]
  exact ⟨Nat.mod_eq_of_lt h.source, Nat.mod_eq_of_lt h.dest⟩

end LobRequest

namespace Decode

/-- A locator that is read has as many octets as are expected. -/
lemma length_of_locator {count : Nat} {input rest : Bytes} {octets : Option Bytes}
    (h : locator count input = .ok (octets, rest)) : (octets.getD []).length = count := by
  unfold locator at h
  split_ifs at h with hzero
  · obtain ⟨rfl, -⟩ := Prod.mk.inj (Except.ok.inj h)
    exact hzero.symm
  · obtain ⟨taken, left, htake, hpure⟩ := bind_eq_ok_iff.1 h
    obtain ⟨rfl, -⟩ := Prod.mk.inj (Except.ok.inj hpure)
    simp only [take] at htake
    split_ifs at htake with hshort
    obtain ⟨rfl, -⟩ := Prod.mk.inj (Except.ok.inj htake)
    rw [List.length_take] at hshort
    rw [Option.getD_some, List.length_take]
    omega

/-- Locators that are read have as many octets as are expected. -/
lemma lengths_of_lobParameters {shape : LobShape} {input rest : Bytes} {said : LobParameters}
    (hopcode : shape.opcode ≠ LobOpcode.createTemporary)
    (h : lobParameters shape input = .ok (said, rest)) :
    (said.source.getD []).length = shape.sourceLength ∧
      (said.dest.getD []).length = shape.destLength := by
  unfold lobParameters at h
  simp only [if_neg hopcode] at h
  obtain ⟨source, _, hsource, h⟩ := bind_eq_ok_iff.1 h
  obtain ⟨dest, _, hdest, h⟩ := bind_eq_ok_iff.1 h
  have hlengths := And.intro (length_of_locator hsource) (length_of_locator hdest)
  split_ifs at h
  · obtain ⟨amount, _, -, h⟩ := bind_eq_ok_iff.1 h
    obtain ⟨rfl, -⟩ := Prod.mk.inj (Except.ok.inj h)
    exact hlengths
  · obtain ⟨rfl, -⟩ := Prod.mk.inj (Except.ok.inj h)
    exact hlengths

/-- Without enough octets for the locator nothing is read. -/
lemma lobParameters_short {shape : LobShape} {input : Bytes}
    (h : input.length < shape.sourceLength) :
    lobParameters shape input = .error (.expectedAtLeast shape.sourceLength input.length) := by
  have htake : take shape.sourceLength input =
      .error (.expectedAtLeast shape.sourceLength input.length) := by
    rw [take, if_pos]
    rw [List.length_take]
    omega
  unfold lobParameters
  refine bind_of_error ?_
  rw [locator, if_neg (by omega)]
  exact bind_of_error htake

end Decode

/-- A reply with nothing but zeros. -/
def LobReply.zeros (said : LobAnnouncement) : LobReply said where
  source := List.replicate said.sourceLength 0
  dest := List.replicate said.destLength 0
  amount := 0
  amountOctets := Encode.ub8 0
  source_length := List.length_replicate
  dest_length := List.length_replicate
  amount_nonneg := le_refl _
  amount_form := .ub8 0

namespace Link

/-- A server finds in what the link writes what it says about its reply. -/
lemma perform_lob (link : Link) (request : LobRequest) :
    ∃ payloads call behind,
      (link.perform (.send (.lob request))).lastRequest =
        some (link.encoder.capabilities.dataPackets payloads) ∧
      payloads.flatten = (link.encoder.body link.client.takeCleanup.1.calls).1 ++ call ∧
      Decode.lobCall link.encoder.capabilities.sendsToken call =
        .ok (request.announcement, behind) := by
  let cleanup := link.client.takeCleanup.1
  let call : Call := .function FunctionCode.lob request.arguments
  obtain ⟨payloads, hpackets, hpayloads⟩ :=
    link.encoder.exists_payloads_of_send (cleanup.calls ++ [call])
  obtain ⟨behind, hsaid⟩ := request.lobCall_callOctets (link.encoder.body cleanup.calls).2
    (nextSequence (link.encoder.body cleanup.calls).2.sequence)
  refine ⟨payloads, ((link.encoder.body cleanup.calls).2.body [call]).1, behind,
    congrArg some hpackets, ?_, ?_⟩
  · rw [hpayloads, Encoder.body_of_append]
  · rw [Encoder.body_singleton]
    rwa [Encoder.capabilities_body] at hsaid

/-- What comes as parameters then is read as the reply to the operation. -/
lemma message_lob (link : Link) (request : LobRequest) :
    let next := link.perform (.send (.lob request))
    next.decoder.message MessageKind.parameter =
      (fun message => (message, next.decoder)) <$> ServerMessage.lobParameters <$>
        Decode.lobParameters request.shape := by
  rfl

/-- **The link that sends a request for an operation on a large object reads the replies to it.**
What the link writes are packets that carry the calls that clean up and then the call of the
operation. A server that has nothing but the octets of that call finds in them how long the locators
are, cut down to 32 bits, and whether an amount is wanted. Whenever it replies as many octets of
each locator, and a nonnegative amount if one is wanted, the link reads these locators, none for one
without octets, and this amount, and it reads exactly the reply, whatever stands behind it: this is
so just if 32 bits hold the lengths of the locators.

**Proof sketch.** What a server reads of the arguments is `LobRequest.announcement`
(`LobRequest.arguments_announce`), and the shape that the link expects says the same of all
operations, as long as no length is cut down. The reader of parameters takes a reply locator by
locator (`Decode.Reads.lobReply`); written without a sign, a nonnegative amount has its top bit
clear (`Decode.Reads.sb8`). Where a length is cut down, even a reply of zeros is not read as what it
says, since whatever is read has the full length (`Decode.lengths_of_lobParameters`). -/
theorem lob_reply_agrees_iff (link : Link) (request : LobRequest) :
    let next := link.perform (.send (.lob request))
    ∃ payloads call behind,
      next.lastRequest = some (link.encoder.capabilities.dataPackets payloads) ∧
      payloads.flatten = (link.encoder.body link.client.takeCleanup.1.calls).1 ++ call ∧
      Decode.lobCall link.encoder.capabilities.sendsToken call =
        .ok (request.announcement, behind) ∧
      ((∀ reply : LobReply request.announcement,
        (next.decoder.message MessageKind.parameter).Reads reply.octets
          (.lobParameters reply.parameters, next.decoder)) ↔ request.Announceable) := by
  intro next
  obtain ⟨payloads, call, behind, hrequest, hpayloads, hsaid⟩ := link.perform_lob request
  refine ⟨payloads, call, behind, hrequest, hpayloads, hsaid, fun hall => ?_, fun h reply => ?_⟩
  · let zeros := LobReply.zeros request.announcement
    have hread := (hall zeros).complete []
    rw [link.message_lob request, Decode.map_eq, Decode.map_eq] at hread
    rcases hparameters : Decode.lobParameters request.shape (zeros.octets ++ []) with error | said
    · rw [hparameters] at hread
      cases hread
    · obtain ⟨said, rest⟩ := said
      obtain rfl : said = zeros.parameters := by
        rw [hparameters] at hread
        simpa [Except.map] using congrArg (Except.map (Prod.fst ∘ Prod.fst)) hread
      obtain ⟨hsource, hdest⟩ :=
        Decode.lengths_of_lobParameters request.opcode_ne_createTemporary hparameters
      obtain ⟨hsaid, hsaid'⟩ := zeros.length_parameters
      rw [hsaid] at hsource
      rw [hsaid', request.shape_destLength] at hdest
      have hlt : ∀ length, length % UInt32.size = length → length < UInt32.size :=
        fun length heq => heq ▸ Nat.mod_lt length (by decide)
      exact ⟨hlt _ hsource, hlt _ hdest⟩
  · obtain ⟨hsource, hdest⟩ := h.announcement_eq
    have hreads : (Decode.lobParameters request.shape).Reads reply.octets reply.parameters :=
      .lobReply reply hsource.symm hdest.symm rfl request.opcode_ne_createTemporary
    exact (hreads.map ServerMessage.lobParameters).map fun message => (message, next.decoder)

/-- **A locator of `2 ^ 32` octets** is announced as one without octets, and expected in full: the
reply that has but the amount is not read. -/
theorem lob_reply_disagrees_wide :
    let request : LobRequest := ⟨List.replicate (2 ^ 32) 0, .length⟩
    let next := sample.perform (.send (.lob request))
    ∃ payloads call behind,
      next.lastRequest = some (sample.encoder.capabilities.dataPackets payloads) ∧
      payloads.flatten = (sample.encoder.body sample.client.takeCleanup.1.calls).1 ++ call ∧
      Decode.lobCall sample.encoder.capabilities.sendsToken call = .ok (⟨0, 0, true⟩, behind) ∧
      (∃ reply : LobReply ⟨0, 0, true⟩, reply.octets = [1, 200]) ∧
      next.decoder.message MessageKind.parameter [1, 200] =
        .error (.expectedAtLeast (2 ^ 32) 2) := by
  intro request next
  have hsource : request.locator.length = 2 ^ 32 := List.length_replicate
  have hsaid : request.announcement = ⟨0, 0, true⟩ := by
    rw [LobRequest.announcement, hsource]
    rfl
  obtain ⟨payloads, call, behind, hrequest, hpayloads, hcall⟩ := sample.perform_lob request
  rw [hsaid] at hcall
  refine ⟨payloads, call, behind, hrequest, hpayloads, hcall, ?_, ?_⟩
  · exact ⟨⟨[], [], 200, [1, 200], rfl, rfl, by decide, ⟨[200], rfl, rfl, by decide⟩⟩, rfl⟩
  · have hshape : request.shape.sourceLength = 2 ^ 32 := hsource
    have hshort : Decode.lobParameters request.shape [1, 200] =
        .error (.expectedAtLeast (2 ^ 32) 2) := by
      rw [Decode.lobParameters_short (by rw [hshape]; decide), hshape]
      rfl
    rw [sample.message_lob request, Decode.map_eq, Decode.map_eq, hshort]
    rfl

end Link

end TnsClient
