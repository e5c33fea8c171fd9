import TnsClient.Proofs.Link.Delivery
import TnsClient.Proofs.Link.Reading

set_option autoImplicit false

/-!
# Writing a request once more

The client keeps the last request, and the link keeps its packets. Each is kept in its own place and
forgotten by its own rules; yet as long as a request has no answer they are the same request and its
packets. So when the server asks for it again, the octets of just this request are written, and that
is all that happens.

## Main definitions

* `TnsClient.Link.WrittenLast` — a request is the last one that was written in a run.
* `TnsClient.Decoder.AsksAgain` — a packet asks for the last request again.

## Main results

* `TnsClient.Link.run_writtenLast` — what is kept in a run is the last request that was written.
* `TnsClient.Link.resend_repeats` — writing a request once more is all that comes of it.
-/

namespace TnsClient

/-! ## Packets -/

namespace Decoder

/-- Octets are one packet that asks for the last request again, whatever it holds behind its
header. -/
structure AsksAgain (decoder : Decoder) (octets : Bytes) : Prop where
  sound : headerSize ≤ decoder.declared octets
  whole : decoder.declared octets = octets.length
  kind : octets[4]? = some PacketKind.resend

variable {decoder : Decoder} {octets : Bytes}

/-- Such a packet is decoded, and the decoder is as it was. -/
lemma AsksAgain.decode (h : decoder.AsksAgain octets) :
    decoder.decode octets = ⟨.ok (some [.resend]), decoder, []⟩ := by
  obtain ⟨kind, hkind, hdecode⟩ := exists_decode_eq h.sound h.whole.le
  obtain rfl := Option.some.inj (h.kind.symm.trans hkind)
  rw [hdecode, h.whole, List.drop_length]
  rfl

/-- Of no octets there is nothing to be decoded. -/
lemma decode_nil (decoder : Decoder) : decoder.decode [] = ⟨.ok none, decoder, []⟩ :=
  decode_of_short (by decide)

end Decoder

/-! ## What is kept -/

/-- None of some steps sends a request. -/
def Deed.NoneSends (deeds : List Deed) : Prop :=
  ∀ deed ∈ deeds, ∀ request, deed.action ≠ .send request

lemma Deed.NoneSends.concat {deeds : List Deed} {deed : Deed} (h : NoneSends deeds)
    (hdeed : ∀ request, deed.action ≠ .send request) : NoneSends (deeds ++ [deed]) := by
  intro other hmem
  rcases List.mem_append.1 hmem with hmem | hmem
  · exact h other hmem
  · rw [List.mem_singleton.1 hmem]
    exact hdeed

namespace Client

lemma after_follows_lastRequest (client : Client) (action : Action) :
    (client.after action.follows).lastRequest = client.lastRequest := by
  cases action with
  | send request =>
    rw [Action.follows_send]
    split_ifs <;> rfl
  | close error => exact client.lost_frame.2
  | _ => rfl

end Client

namespace Link

variable {link : Link} {deed : Deed}

/-- The request that a client keeps is the one that is sent, if one is. -/
lemma Orderly.after_lastRequest (h : deed.before.Orderly) :
    deed.after.client.lastRequest = deed.action.sent deed.before.client.lastRequest := by
  rw [h.after_client, Client.after_follows_lastRequest, deed.action_eq]
  unfold Deed.step
  rcases deed.event? with _ | event
  · rfl
  · exact (Client.react_transition h.sound.spare event).lastRequest h.sound

lemma exists_octets_eq {request : Request} (haction : deed.action = .send request) :
    ∃ packets, deed.octets = [packets] := by
  simp only [Deed.octets, haction]
  cases request <;> exact ⟨_, rfl⟩

/-- **A request is the last one** that was written in a run: at the step that sends it nothing is
written but its packets, and behind this step no request is sent. A link that asks for a connection
has written its first request before anything befalls it. -/
inductive WrittenLast (start : Link) (occurrences : List Occurrence) : Request → Bytes → Prop
  /-- No request was sent since the first one. -/
  | first {packets : Bytes} (hwritten : start.written = [packets])
      (hsince : Deed.NoneSends (start.deeds occurrences)) :
    WrittenLast start occurrences .connect packets
  /-- A request was sent at some step, and none since. -/
  | step {past since : List Deed} {deed : Deed} {request : Request} {packets : Bytes}
      (hsplit : start.deeds occurrences = past ++ deed :: since)
      (haction : deed.action = .send request)
      (hwritten : deed.after.written = deed.before.written ++ [packets])
      (hsince : Deed.NoneSends since) :
    WrittenLast start occurrences request packets

/-- A step that sends no request leaves the last one what it was. -/
lemma WrittenLast.concat {start : Link} {occurrences : List Occurrence} {request : Request}
    {packets : Bytes} (h : start.WrittenLast occurrences request packets)
    {occurrence : Occurrence}
    (hunsent : ∀ other, (Deed.mk (start.run occurrences) occurrence).action ≠ .send other) :
    start.WrittenLast (occurrences ++ [occurrence]) request packets := by
  cases h with
  | first hwritten hsince =>
    refine .first hwritten ?_
    rw [deeds_concat]
    exact hsince.concat hunsent
  | @step past since deed _ _ hsplit haction hwritten hsince =>
    have hdeeds : start.deeds (occurrences ++ [occurrence]) =
        past ++ deed :: (since ++ [⟨start.run occurrences, occurrence⟩]) := by
      rw [deeds_concat, hsplit, List.append_assoc, List.cons_append]
    exact .step hdeeds haction hwritten (hsince.concat hunsent)

/-- In a run the number of calls that were sent tells what the encoder says next. -/
lemma exists_count (options : ConnectOptions) (random : RandomSource)
    (occurrences : List Occurrence) :
    ∃ count, ((connect options random).run occurrences).encoder.sequence = lastNumber count := by
  induction occurrences using List.reverseRecOn with
  | nil => exact ⟨0, rfl⟩
  | append_singleton occurrences occurrence ih =>
    obtain ⟨count, hcount⟩ := ih
    let deed : Deed := ⟨(connect options random).run occurrences, occurrence⟩
    have horderly := ((orderly_connect options random).run occurrences).orderly
    rw [run_concat]
    exact ⟨_, (@Orderly.writes deed horderly count hcount).sequence⟩

/-- **What is kept in a run** is the last request that was written, by the link its packets and by
the client, unless it has forgotten it, the request itself.

**Proof sketch.** Induction on the run. A step that sends a request writes its packets and makes
both keep it; any other step leaves the packets what they were, and the request at most is
forgotten. -/
theorem run_writtenLast (options : ConnectOptions) (random : RandomSource)
    (occurrences : List Occurrence) :
    let start := connect options random
    ∃ request packets, start.WrittenLast occurrences request packets ∧
      (start.run occurrences).lastRequest = some packets ∧
      ∀ kept, (start.run occurrences).client.lastRequest = some kept → kept = request := by
  intro start
  induction occurrences using List.reverseRecOn with
  | nil =>
    refine ⟨.connect, _, .first rfl (by simp [deeds, Deed.NoneSends]), rfl, fun kept hkept => ?_⟩
    exact (Option.some.inj hkept).symm
  | append_singleton occurrences occurrence ih =>
    obtain ⟨request, packets, hwritten, hpackets, hkept⟩ := ih
    obtain ⟨count, hcount⟩ := exists_count options random occurrences
    let deed : Deed := ⟨start.run occurrences, occurrence⟩
    have horderly : deed.before.Orderly :=
      ((orderly_connect options random).run occurrences).orderly
    have hwrites : Writes deed count := horderly.writes hcount
    have hclient := horderly.after_lastRequest
    rw [run_concat]
    show ∃ request packets, _ ∧ deed.after.lastRequest = _ ∧
      ∀ kept, deed.after.client.lastRequest = _ → _
    rw [hclient, hwrites.lastRequest]
    by_cases hsent : ∃ sent, deed.action = .send sent
    · obtain ⟨sent, haction⟩ := hsent
      obtain ⟨octets, hoctets⟩ := exists_octets_eq haction
      refine ⟨sent, octets, ?_, ?_, fun kept hkept => ?_⟩
      · have hnone : Deed.NoneSends [] := by simp [Deed.NoneSends]
        refine .step (deeds_concat start occurrences occurrence) haction ?_ hnone
        rw [← hoctets]
        exact hwrites.written
      · simp only [Deed.lastRequest, Deed.request?, haction, hoctets, List.head?_cons,
          Option.some_or]
      · rw [haction] at hkept
        exact (Option.some.inj hkept).symm
    · have hunsent : ∀ other, deed.action ≠ .send other := fun other haction =>
        hsent ⟨other, haction⟩
      refine ⟨request, packets, hwritten.concat hunsent, ?_, fun kept hafter => hkept kept ?_⟩
      · rw [(Deed.unsent hunsent).2]
        exact hpackets
      · cases haction : deed.action with
        | send other => exact absurd haction (hunsent other)
        | established session => simp [haction, Action.sent] at hafter
        | _ => simpa [haction, Action.sent] using hafter

/-! ## Writing it once more -/

/-- A link that has heard that the last request is wanted again and has written its packets. All
else is as it was. -/
def repeated (link : Link) (request : Request) (packets : Bytes) : Link :=
  { link with
    heard := link.heard ++ [(.resend, .resend request)]
    written := link.written ++ [packets] }

/-- Where the client and the link keep a request, its packets are written. -/
lemma hear_resend {request : Request} {packets : Bytes}
    (hrequest : link.client.lastRequest = some request)
    (hpackets : link.lastRequest = some packets) :
    link.hear .resend = link.repeated request packets := by
  have hstep : link.client.handle .resend =
      { client := link.client, action := .resend request } := by
    show link.client.resend = _
    simp only [Client.resend, hrequest]
  simp only [hear, hstep, act, adopt, perform, hpackets, List.append_nil, write, repeated]

section Reading

variable {octets : Bytes} {request : Request} {packets : Bytes}
  (hpacket : link.decoder.AsksAgain octets) (hbuffer : link.buffer = [])
  (hhear : link.hear .resend = link.repeated request packets)

include hpacket hbuffer hhear

/-- During the logon. -/
lemma logOn_asksAgain (hstage : link.stage = .logon) :
    link.logOn octets [] = link.repeated request packets := by
  have hlogOn : link.logOn [] [.resend] = (link.hear .resend).logOn [] [] := by
    rw [logOn]
    simp only [hstage]
  have hrepeated : (link.repeated request packets).stage = .logon := hstage
  rw [logOn_nil hstage, hpacket.decode]
  show link.logOn [] [.resend] = _
  rw [hlogOn, hhear, logOn_nil hrepeated, Decoder.decode_nil]
  simp only [repeated, ← hbuffer]

/-- After the logon. -/
lemma drain_asksAgain (hstage : link.stage = .serving) :
    link.drain octets = link.repeated request packets := by
  have hserves : ¬link.isFinished = true := by simp [isFinished, hstage]
  have hrepeated : ¬(link.repeated request packets).isFinished = true := hserves
  rw [drain_eq_read hserves, read_nil hserves, hpacket.decode]
  show link.read [] [.resend] = _
  rw [read_cons hserves, hhear, read_nil hrepeated, Decoder.decode_nil]
  simp only [repeated, ← hbuffer]

/-- **A packet that asks for the last request again** is read, and then nothing is left to read. -/
lemma receive_asksAgain (hopen : link.isFinished = false) (hpending : link.pending = []) :
    link.receive octets = link.repeated request packets := by
  have hlink : ({ link with buffer := [], pending := [] } : Link) = link := by
    rw [← hbuffer, ← hpending]
  unfold receive
  rw [hbuffer, hpending, hlink]
  cases hstage : link.stage with
  | logon =>
    have hlogOn := logOn_asksAgain hpacket hbuffer hhear hstage
    have hrepeated : ¬(link.repeated request packets).stage = .serving := by
      simp [repeated, hstage]
    simp only [List.nil_append, hlogOn, if_neg hrepeated]
  | serving => exact drain_asksAgain hpacket hbuffer hhear hstage
  | finished => simp [isFinished, hstage] at hopen

end Reading

/-- **A request is written once more**, octet by octet, and nothing else comes of it. Say that a
link asks for a connection, and that whatever befalls it comes to some link, whose decoder and whose
buffer may hold anything. While a request awaits its answer, let the server ask for the last request
again. Then the packets of this request, which is the last one that was written, are written once
more; the client, the encoder with its number, what there is to clean up, the decoder and all else
are as before. If nothing else is left to read, this is what becomes of the packet that asks.

**Proof sketch.** A client that awaits an answer does not rest. So it remembers a request, which
awaits its answer; by induction on the run, it is the last request that was written, and the link
keeps its packets. -/
theorem resend_repeats (options : ConnectOptions) (random : RandomSource)
    (occurrences : List Occurrence) (link : Link)
    (hlink : link.core = ((connect options random).run occurrences).core)
    (hpending : ∃ request, link.client.Awaits request) :
    ∃ request packets, link.client.Awaits request ∧
      (connect options random).WrittenLast occurrences request packets ∧
      link.befall (.message .resend) = link.repeated request packets ∧
      ∀ octets, link.decoder.AsksAgain octets → link.buffer = [] → link.pending = [] →
        link.receive octets = link.repeated request packets := by
  obtain ⟨horderly, hclient, -⟩ := connect_run options random occurrences
  obtain ⟨request, packets, hwritten, hpackets, hkept⟩ := run_writtenLast options random occurrences
  have hsame : link.client = ((connect options random).run occurrences).client := by
    rw [eq_of_core_eq hlink]
  have hstage : link.stage = ((connect options random).run occurrences).stage := by
    rw [eq_of_core_eq hlink]
  have hlast : link.lastRequest = some packets := by
    rw [eq_of_core_eq hlink]
    exact hpackets
  have hrests : ¬link.client.Rests := fun hrests =>
    hpending.elim fun other => (hsame ▸ horderly.sound).not_awaits hrests other
  -- what is remembered is the request that was written
  have hrequest : link.client.lastRequest = some request := by
    have hremembers := Client.remembers_after options.credentials random options.cacheSize
      ((connect options random).history occurrences)
    rw [← hclient, ← hsame] at hremembers
    obtain ⟨kept, hlast⟩ := Option.isSome_iff_exists.1 (hremembers.resolve_left hrests)
    rw [hlast, hkept kept (hsame ▸ hlast)]
  have hawaits : link.client.Awaits request := by
    have hkeeps := (Client.lastRequest_after options.credentials random options.cacheSize
      (.opened :: (connect options random).history occurrences)).2
    rw [← hclient, ← hsame] at hkeeps
    exact (hkeeps request hrequest).resolve_left hrests
  have hopen : link.isFinished = false := by
    rw [isFinished, hstage, ← isFinished, ← horderly.isOver, ← hsame]
    exact Bool.eq_false_iff.2 fun hover => hrests (.inr hover)
  have hhear := hear_resend hrequest hlast
  refine ⟨request, packets, hawaits, hwritten, ?_, fun octets hpacket hbuffer hnone =>
    receive_asksAgain hpacket hbuffer hhear hopen hnone⟩
  rw [befall, if_neg (by simp [hopen])]
  exact hhear

/-- A logon and a ping, whose answer is broken off. -/
def samplePing : List Occurrence :=
  sampleEstablished ++
    [.command (.submit 1 (.ping [12])), .message (.marker MarkerKind.breakOff)]

/-- The packet of the ping is written once more, and not the marker behind it. -/
theorem resend_repeats_ping :
    let link := sample.run samplePing
    (link.core = (sample.run samplePing).core ∧ ∃ request, link.client.Awaits request) ∧
      ∃ request packets, link.client.Awaits request ∧
        sample.WrittenLast samplePing request packets ∧
        link.befall (.message .resend) = link.repeated request packets ∧
        packets = [0, 0, 0, 14, 6, 0, 0, 0, 0, 0, 3, 147, 3, 0] ∧
        link.written.getLast? = some (link.encoder.marker MarkerKind.reset) := by
  intro link
  have hflight : link.client.inFlight = some { task := .ping [12] } := by decide +kernel
  have hawaiting : link.client.awaiting = true := by decide +kernel
  have hping : link.client.Awaits .ping := .task hflight hawaiting (.start (.ping [12]))
  have hwritten : (link.befall (.message .resend)).written.getLast? =
      some [0, 0, 0, 14, 6, 0, 0, 0, 0, 0, 3, 147, 3, 0] := by
    decide +kernel
  have hmarker : link.written.getLast? = some (link.encoder.marker MarkerKind.reset) := by
    decide +kernel
  obtain ⟨request, packets, hawaits, hlast, hbefall, -⟩ :=
    resend_repeats _ _ samplePing link rfl ⟨.ping, hping⟩
  have hpackets : packets = [0, 0, 0, 14, 6, 0, 0, 0, 0, 0, 3, 147, 3, 0] := by
    rw [hbefall, repeated, List.getLast?_concat] at hwritten
    exact Option.some.inj hwritten
  exact ⟨⟨rfl, .ping, hping⟩, request, packets, hawaits, hlast, hbefall, hpackets, hmarker⟩

end Link

end TnsClient
