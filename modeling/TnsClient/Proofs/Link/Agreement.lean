import TnsClient.Proofs.Client.Negotiation
import TnsClient.Proofs.Encoder.CallReaders
import TnsClient.Proofs.Link.Reading

set_option autoImplicit false

/-!
# Client and codecs agree

What was agreed on with the server is kept three times: by the client, which takes it over from the
messages of the negotiation; by the encoder, which writes by it; and by the decoder, which reads by
it. The encoder and the decoder are told with the request that follows such a message. Whenever a
link waits, all three know the same, whatever the server has sent and callers have asked for.

## Main definitions

* `TnsClient.Link.Agrees` — client, encoder and decoder know the same.
* `TnsClient.Link.Concord` — what is known of a link that waits.
* `TnsClient.Input` — what a link that waits may get; `TnsClient.Link.take` — what it comes to.

## Main results

* `TnsClient.Link.Agrees.act` — a step of the client keeps the agreement.
* `TnsClient.Link.Concord.befall`, `TnsClient.Link.Concord.receive` — so do all occurrences, and all
  octets.
* `TnsClient.Link.codecs_agree` — so it is kept by every run, in which the field version never rises.
-/

namespace TnsClient

/-! ## Codecs -/

namespace Decoder

/-- What is decoded does not change what was agreed on. -/
lemma body_capabilities (decoder : Decoder) (input : Bytes) :
    (decoder.body input).2.capabilities = decoder.capabilities := by
  unfold body
  split_ifs
  · rfl
  · exact decoder.messages_capabilities input

lemma payload_capabilities (decoder : Decoder) (kind : UInt8) (input : Bytes) :
    (decoder.payload kind input).2.capabilities = decoder.capabilities := by
  unfold payload
  dsimp only
  split_ifs
  · split
    · rfl
    · exact decoder.body_capabilities _
  all_goals rfl

lemma decode_capabilities (decoder : Decoder) (buffer : Bytes) :
    (decoder.decode buffer).decoder.capabilities = decoder.capabilities := by
  unfold decode
  split
  · rfl
  · rfl
  · dsimp only
    split_ifs
    · rfl
    · exact decoder.payload_capabilities _ _

end Decoder

namespace Link

variable {link : Link}

/-! ## Single steps -/

/-- **Client and codecs agree.** -/
structure Agrees (link : Link) : Prop where
  encoder : link.encoder.capabilities = link.client.capabilities
  decoder : link.decoder.capabilities = link.client.capabilities

/-- With a request, encoder and decoder are told what was agreed on with it. -/
lemma agrees_transmit {request : Request}
    (hencoder : request.agreed?.getD link.encoder.capabilities = link.client.capabilities)
    (hdecoder : request.agreed?.getD link.decoder.capabilities = link.client.capabilities) :
    (link.transmit request).Agrees := by
  cases request with
  | connect | protocol | dataTypes | logonStart | logonProof => exact ⟨hencoder, hdecoder⟩
  | _ => exact ⟨(Encoder.capabilities_body _ _).trans hencoder, hdecoder⟩

namespace Agrees

variable {other : Link}

/-- Where nothing of what was agreed on has changed, client and codecs still agree. -/
lemma congr (h : link.Agrees) (hclient : other.client.capabilities = link.client.capabilities)
    (hencoder : other.encoder = link.encoder) (hdecoder : other.decoder = link.decoder) :
    other.Agrees :=
  ⟨by rw [hencoder, h.encoder, hclient], by rw [hdecoder, h.decoder, hclient]⟩

lemma finish (h : link.Agrees) : link.finish.Agrees :=
  h.congr link.client.lost_retains.capabilities rfl rfl

lemma close (h : link.Agrees) (error : Option ClientError) : (link.close error).Agrees := by
  unfold Link.close
  split <;> exact h.congr link.client.lost_retains.capabilities rfl rfl

lemma fail (h : link.Agrees) (error : ClientError) : (link.fail error).Agrees := by
  have hfailed : (link.adopt (link.client.fail error)).Agrees :=
    h.congr (link.client.fail_retains error).capabilities rfl rfl
  exact hfailed.close (some error)

/-- **A step of the client** keeps the agreement: what is agreed on with it is what encoder and
decoder are told. -/
lemma act (h : link.Agrees) (hsound : link.client.Sound) (event : Event) :
    (link.act (link.client.react event)).Agrees := by
  have hcapabilities := Client.react_capabilities hsound event
  have hadopted : (link.client.react event).action.agreed? = none →
      (link.adopt (link.client.react event)).Agrees := by
    intro hnone
    rw [hnone] at hcapabilities
    exact h.congr hcapabilities rfl rfl
  unfold Link.act
  cases haction : (link.client.react event).action with
  | send request =>
    rw [haction] at hcapabilities
    refine agrees_transmit ?_ ?_
    · exact (congrArg request.agreed?.getD h.encoder).trans hcapabilities.symm
    · exact (congrArg request.agreed?.getD h.decoder).trans hcapabilities.symm
  | wait | established | reset =>
    rw [haction] at hadopted
    exact (hadopted rfl).congr rfl rfl rfl
  | close error =>
    rw [haction] at hadopted
    exact (hadopted rfl).close error
  | resend request =>
    rw [haction] at hadopted
    unfold perform
    dsimp only
    split
    · exact (hadopted rfl).congr rfl rfl rfl
    · exact (hadopted rfl).fail _

/-- **Whatever befalls a link** keeps the agreement. -/
theorem befall (h : link.Agrees) (hsound : link.client.Sound) (occurrence : Occurrence) :
    (link.befall occurrence).Agrees := by
  -- nothing comes of what is left out once the connection is over
  have hlater : ∀ {after : Link}, after.Agrees →
      (if link.isFinished then link else after).Agrees := by
    intro after hafter
    split_ifs
    · exact h
    · exact hafter
  cases occurrence with
  | command command =>
    show (link.command command).Agrees
    unfold Link.command
    cases hfinished : link.isFinished
    · cases command with
      | submit ticket task =>
        dsimp only
        rw [submit_eq]
        exact @act { link with tickets := link.ticketed ticket task } (h.congr rfl rfl rfl) hsound _
      | cancel ticket =>
        dsimp only
        unfold Link.cancel
        split
        · exact @act { link with
            tickets := link.tickets.filter fun entry => entry.1 != ticket }
            (h.congr rfl rfl rfl) hsound (.cancel _)
        · exact h
      | releaseLob locator => exact h.congr rfl rfl rfl
    · cases command <;> exact h.congr rfl rfl rfl
  | message message =>
    exact hlater (@act { link with
      heard := link.heard ++ [(message, (link.client.handle message).action)] }
      (h.congr rfl rfl rfl) hsound (.message message))
  | turn => exact hlater (h.act hsound .next)
  | failed error => exact hlater (h.fail error)
  | ended =>
    show link.ended.Agrees
    unfold ended
    split
    · exact h.fail _
    · exact h.finish
    · exact h
  | timedOut milliseconds =>
    show (link.timeOut milliseconds).Agrees
    unfold timeOut
    split
    · exact @finish { link with logon := _ } (h.congr rfl rfl rfl)
    · exact h
  | abandoned handle => exact h.congr rfl rfl rfl

end Agrees

/-! ## Runs -/

/-- **What is known of a link that waits**: it is orderly, client and codecs agree, and what they
agree on is what was announced. -/
structure Concord (link : Link) : Prop where
  orderly : link.Orderly
  agrees : link.Agrees
  agreement : link.client.Agreement

/-- **Whatever befalls a link** keeps what is known, and does not raise the field version. -/
lemma Concord.befall (h : link.Concord) (occurrence : Occurrence) :
    (link.befall occurrence).Concord ∧
      (link.befall occurrence).client.capabilities.fieldVersion ≤
        link.client.capabilities.fieldVersion := by
  have htold := h.orderly.befall occurrence
  obtain ⟨hagreement, hle⟩ := h.agreement.after h.orderly.sound (link.events occurrence)
  rw [← htold.client] at hagreement hle
  exact ⟨⟨htold.orderly, h.agrees.befall h.orderly.sound occurrence, hagreement⟩, hle⟩

/-- So it is kept by reading. -/
lemma keptByReading_concord (version : UInt8) :
    KeptByReading fun link : Link =>
      link.Concord ∧ link.client.capabilities.fieldVersion ≤ version where
  befall link occurrence _ h := by
    obtain ⟨hconcord, hle⟩ := h.1.befall occurrence
    exact ⟨hconcord, UInt8.le_trans hle h.2⟩
  decode link buffer h :=
    ⟨⟨⟨h.1.orderly.sound, h.1.orderly.stage, h.1.orderly.repeatable⟩,
      ⟨h.1.agrees.encoder, (link.decoder.decode_capabilities buffer).trans h.1.agrees.decoder⟩,
      h.1.agreement⟩, h.2⟩
  note link buffer pending h :=
    ⟨⟨⟨h.1.orderly.sound, h.1.orderly.stage, h.1.orderly.repeatable⟩,
      h.1.agrees.congr rfl rfl rfl, h.1.agreement⟩, h.2⟩

/-- **Whatever octets come**, what is known is kept, and the field version does not rise. -/
lemma Concord.receive (h : link.Concord) (octets : Bytes) :
    (link.receive octets).Concord ∧
      (link.receive octets).client.capabilities.fieldVersion ≤
        link.client.capabilities.fieldVersion :=
  (keptByReading_concord link.client.capabilities.fieldVersion).receive octets
    ⟨h, UInt8.le_refl _⟩

end Link

/-- What a link that waits may get. -/
inductive Input where
  /-- Octets have come. -/
  | octets (octets : Bytes)
  /-- Something else has befallen the link. -/
  | occurrence (occurrence : Occurrence)

namespace Link

variable {link : Link}

/-- What an input comes to. -/
def take (link : Link) : Input → Link
  | .octets octets => link.receive octets
  | .occurrence occurrence => link.befall occurrence

/-- **A run** keeps what is known, and does not raise the field version. -/
lemma Concord.run (h : link.Concord) (inputs : List Input) :
    (inputs.foldl take link).Concord ∧
      (inputs.foldl take link).client.capabilities.fieldVersion ≤
        link.client.capabilities.fieldVersion := by
  induction inputs generalizing link with
  | nil => exact ⟨h, UInt8.le_refl _⟩
  | cons input rest ih =>
    have hfirst : (link.take input).Concord ∧ (link.take input).client.capabilities.fieldVersion ≤
        link.client.capabilities.fieldVersion := by
      cases input with
      | octets octets => exact h.receive octets
      | occurrence occurrence => exact h.befall occurrence
    obtain ⟨hrest, hle⟩ := ih hfirst.1
    exact ⟨hrest, UInt8.le_trans hle hfirst.2⟩

/-- A link that has asked for a connection starts from what the client can do. -/
lemma concord_connect (options : ConnectOptions) (random : RandomSource) :
    (connect options random).Concord where
  orderly := orderly_connect options random
  agrees := ⟨rfl, rfl⟩
  agreement :=
    ((Client.agreement_new options.credentials random options.cacheSize).after
      (Client.sound_new options.credentials random options.cacheSize) [.opened]).1

/-- **Client and codecs agree in every run.** A link that has asked for a connection gets any octets
and whatever else can befall it, in any order. Each time it waits for more:

* encoder, decoder and client know the same of what was agreed on;
* the build features that are announced hold the field version, which the client knows, and say that
  the ends of requests are marked if, and only if, the ends of responses are;
* whatever comes later, the field version will not be higher.

**Proof sketch.** A step of the client takes something over only from the answer to the connect
request and from the protocol response; with both, it wants encoder and decoder to be told the same.
The answer to the connect request finds a client that has agreed on nothing, so that the mark for the
ends of requests is not there yet, and it comes once; the protocol response takes the lesser of two
field versions. Reading is made of such steps, and decoding changes nothing. -/
theorem codecs_agree (options : ConnectOptions) (random : RandomSource) (inputs : List Input) :
    let link := inputs.foldl take (connect options random)
    let caps := link.client.capabilities
    link.encoder.capabilities = caps ∧ link.decoder.capabilities = caps ∧
      caps.build[fieldVersionPosition] = caps.fieldVersion ∧
      caps.fieldVersion ≤ FieldVersion.newest ∧
      (caps.build[boundaryPosition] &&& endOfRequestBit ≠ 0 ↔ caps.endOfResponse = true) ∧
      ∀ later : List Input,
        (later.foldl take link).client.capabilities.fieldVersion ≤ caps.fieldVersion := by
  intro link caps
  obtain ⟨hconcord, -⟩ := (concord_connect options random).run inputs
  have hconsistent := hconcord.agreement.consistent
  exact ⟨hconcord.agrees.encoder, hconcord.agrees.decoder, hconsistent.fieldVersion,
    hconsistent.le_newest, hconsistent.boundary, fun later => (hconcord.run later).2⟩

/-- A server of release 12.2 that marks the ends of responses. -/
example :
    let inputs : List Input := [
      .occurrence (.message (.accept ⟨319, 0, 0, 8192, endOfResponseBit⟩)),
      .occurrence (.message (.serverInfo {
        version := 6, banner := "", charset := 873, build := some [6, 0, 0, 0, 0, 0, 0, 8] }))]
    let decoder := (inputs.foldl take sample).decoder
    decoder.capabilities.fieldVersion = FieldVersion.v12_2 ∧
      decoder.capabilities.build[boundaryPosition] = 0x64 := by
  decide

end Link

end TnsClient
