import Mathlib
import TnsClient.Link
import TnsClient.Proofs.Client.Transition
import TnsClient.Proofs.Decoder.Consumption

set_option autoImplicit false

/-!
# Reading in pieces

What a server sends arrives in pieces, which a link does not choose. A link reads in two different
ways, during the logon and after it, and the one gives way to the other in the midst of a packet or
of a piece. Yet it makes no difference where the pieces end: the same messages are handed to the
client, with the same effect, and the link ends up the same.

## Main definitions

* `TnsClient.Link.read` — one loop that does what both ways of reading do.
* `TnsClient.Link.Settled` — a link between two reads, to which no command was given.

## Main results

* `TnsClient.Link.receive_eq_read` — both ways of reading are that one loop.
* `TnsClient.Link.read_append` — it can be left off and resumed anywhere.
* `TnsClient.Link.ended_eq_of_flatten_eq` — the pieces of a stream do not matter.
-/

namespace TnsClient

namespace Client

/-! ## A client that nobody asks for anything -/

/-- No task is in flight, and none waits. -/
structure Unclaimed (client : Client) : Prop where
  inFlight : client.inFlight = none
  queue : client.queue = {}
  spare : client.phase ≠ .inFlight ∧ client.phase ≠ .closing

variable {client : Client}

lemma Unclaimed.fail (h : client.Unclaimed) (error : ClientError) :
    (client.fail error).client.Unclaimed := by
  unfold Client.fail
  split_ifs
  · exact h
  · refine ⟨rfl, ?_, by simp, by simp⟩
    show client.queue.drain.2 = {}
    rw [h.queue]
    rfl

lemma Unclaimed.lost (h : client.Unclaimed) : client.lost.client.Unclaimed := by
  unfold Client.lost
  split_ifs
  · exact h
  · refine ⟨rfl, ?_, by simp, by simp⟩
    show client.queue.drain.2 = {}
    rw [h.queue]
    rfl

/-- No message makes a task. -/
lemma Unclaimed.handle (h : client.Unclaimed) (message : ServerMessage) :
    (client.handle message).client.Unclaimed := by
  have htransition := handle_transition (fun _ => h.spare) message
  generalize client.handle message = step at htransition ⊢
  cases htransition with
  | quiet _ halike =>
    refine ⟨halike.inFlight ▸ h.inFlight, halike.queue ▸ h.queue, ?_⟩
    rw [← halike.phase]
    exact h.spare
  | resent => exact h
  | setup _ hstep => cases hstep <;> exact ⟨h.inFlight, h.queue, by simp_all [send, beginStep]⟩
  | established => exact ⟨h.inFlight, h.queue, by simp⟩
  | failed =>
    obtain ⟨hflight, hqueue, hspare⟩ := h.fail _
    exact ⟨hflight, hqueue, hspare⟩
  | heard hflight | fetched hflight | finished hflight =>
    rw [h.inFlight] at hflight
    cases hflight

/-- There is no task to be started. -/
lemma Unclaimed.startNext (h : client.Unclaimed) : client.startNext = client.idle := by
  unfold Client.startNext
  split_ifs with hturn
  · rfl
  · have hready : client.phase = .ready := by
      by_contra hphase
      exact hturn (.inr ⟨hphase, h.spare.1⟩)
    have hfront : client.queue.popSkipping (Task.isAbandoned client.abandoned) =
        ⟨[], none, client.queue⟩ := by
      rw [h.queue]
      rfl
    simp only [hfront, idle]
    rw [← hready]
    rfl

end Client

namespace Link

variable {link : Link} {buffer : Bytes}

/-! ## What messages do to a link -/

/-- A link holds nothing that is yet to be looked at, because that was given to a loop. -/
structure Bare (link : Link) : Prop where
  buffer : link.buffer = []
  pending : link.pending = []
  client : link.client.Unclaimed

lemma Bare.transmit (h : link.Bare) (request : Request) : (link.transmit request).Bare := by
  cases request <;> exact ⟨h.buffer, h.pending, ⟨h.client.inFlight, h.client.queue, h.client.spare⟩⟩

lemma Bare.finish (h : link.Bare) : link.finish.Bare := ⟨h.buffer, h.pending, h.client.lost⟩

lemma Bare.close (h : link.Bare) (error : Option ClientError) : (link.close error).Bare := by
  unfold Link.close
  split
  · exact Bare.finish ⟨h.buffer, h.pending, h.client⟩
  · exact Bare.finish ⟨h.buffer, h.pending, h.client⟩
  · exact h.finish

lemma Bare.fail (h : link.Bare) (error : ClientError) : (link.fail error).Bare := by
  have hadopt : (link.adopt (link.client.fail error)).Bare :=
    ⟨h.buffer, h.pending, h.client.fail error⟩
  exact hadopt.close (some error)

lemma Bare.act (h : link.Bare) {step : Client.Step} (hclient : step.client.Unclaimed) :
    (link.act step).Bare := by
  have hadopt : (link.adopt step).Bare := ⟨h.buffer, h.pending, hclient⟩
  unfold Link.act
  cases step.action with
  | wait => exact hadopt
  | send request => exact hadopt.transmit request
  | established session => exact ⟨hadopt.buffer, hadopt.pending, hadopt.client⟩
  | reset => exact ⟨hadopt.buffer, hadopt.pending, hadopt.client⟩
  | resend request =>
    unfold perform
    dsimp only
    split
    · exact ⟨hadopt.buffer, hadopt.pending, hadopt.client⟩
    · exact hadopt.fail _
  | close error => exact hadopt.close error

lemma Bare.hear (h : link.Bare) (message : ServerMessage) : (link.hear message).Bare := by
  have hheard : ({ link with
      heard := link.heard ++ [(message, (link.client.handle message).action)] } : Link).Bare :=
    ⟨h.buffer, h.pending, h.client⟩
  exact hheard.act (h.client.handle message)

lemma Bare.forget (h : link.Bare) : ({ link with buffer := [] } : Link) = link := by
  rw [← h.buffer]

lemma Bare.withDecoder (h : link.Bare) (decoder : Decoder) : ({ link with decoder } : Link).Bare :=
  ⟨h.buffer, h.pending, h.client⟩

/-- A link that has failed is done. -/
lemma stage_fail (error : ClientError) : (link.fail error).stage = .finished := by
  unfold fail close
  split <;> rfl

/-! ## One loop for all -/

/-- Hands messages to the client, the decoded ones first, and takes the next packet off the buffer
when there is none left, until the connection is over, or there is no whole packet. -/
def read (link : Link) (buffer : Bytes) (pending : List ServerMessage) : Link :=
  if link.isFinished then link
  else
    match pending with
    | message :: pending => (link.hear message).read buffer pending
    | [] =>
      let attempt := link.decoder.decode buffer
      let link := { link with decoder := attempt.decoder }
      match h : attempt.result with
      | .error error => link.fail (.protocol error)
      | .ok none => { link with buffer }
      | .ok (some messages) =>
        have : attempt.rest.length < buffer.length := Decoder.length_rest_lt h
        link.read attempt.rest messages
termination_by (buffer.length, pending.length)

lemma read_of_finished (h : link.isFinished = true) (buffer : Bytes)
    (pending : List ServerMessage) : link.read buffer pending = link := by
  unfold read
  rw [if_pos h]

lemma read_cons (h : ¬link.isFinished = true) (buffer : Bytes) (message : ServerMessage)
    (pending : List ServerMessage) :
    link.read buffer (message :: pending) = (link.hear message).read buffer pending := by
  rw [read, if_neg h]

lemma read_nil (h : ¬link.isFinished = true) (buffer : Bytes) :
    link.read buffer [] =
      let attempt := link.decoder.decode buffer
      let link := { link with decoder := attempt.decoder }
      match attempt.result with
      | .error error => link.fail (.protocol error)
      | .ok none => { link with buffer }
      | .ok (some messages) => link.read attempt.rest messages := by
  rw [read, if_neg h]
  dsimp only
  split <;> next hresult => simp only [hresult]

/-- A bare link stays bare as long as messages are handed over, apart from what is left in the
end. -/
lemma Bare.read (h : link.Bare) (buffer : Bytes) (pending : List ServerMessage) :
    ({ link.read buffer pending with buffer := [] } : Link).Bare ∧
      ((link.read buffer pending).isFinished = true → (link.read buffer pending).buffer = []) := by
  induction link, buffer, pending using read.induct with
  | case1 link buffer pending hfinished =>
    rw [read_of_finished hfinished]
    exact ⟨⟨rfl, h.pending, h.client⟩, fun _ => h.buffer⟩
  | case2 link buffer hserves message pending ih =>
    rw [read_cons hserves]
    exact ih (h.hear message)
  | case3 link buffer hserves attempt error hresult =>
    have hfailed := (h.withDecoder attempt.decoder).fail (.protocol error)
    rw [read_nil hserves]
    simp only [attempt] at hresult
    simp only [hresult]
    exact ⟨⟨rfl, hfailed.pending, hfailed.client⟩, fun _ => hfailed.buffer⟩
  | case4 link buffer hserves attempt hresult =>
    rw [read_nil hserves]
    simp only [attempt] at hresult
    simp only [hresult]
    exact ⟨⟨rfl, h.pending, h.client⟩, fun hfinished => absurd hfinished hserves⟩
  | case5 link buffer hserves attempt next messages hresult _ ih =>
    rw [read_nil hserves]
    simp only [attempt] at hresult
    simp only [hresult]
    exact ih (h.withDecoder attempt.decoder)

/-- **The loop can be left off and resumed**: what comes later is read behind what was left.

**Proof sketch.** Induction on the loop. What has been decoded is decoded alike with more behind it;
where the loop ends because a packet is not there in full, it has changed nothing, so that it can
begin anew with more. Once the connection is over, nothing is looked at. -/
lemma read_append (h : link.Bare) (pending : List ServerMessage) (front back : Bytes) :
    link.read (front ++ back) pending =
      { link.read front pending with buffer := [] : Link }.read
        ((link.read front pending).buffer ++ back) [] := by
  -- a link that is done reads nothing
  have hover : ∀ {done : Link}, done.Bare → done.isFinished = true → ∀ octets : Bytes,
      ({ done with buffer := [] } : Link).read octets [] = done := by
    intro done h hfinished octets
    rw [h.forget, read_of_finished hfinished]
  induction link, front, pending using read.induct with
  | case1 link front pending hfinished =>
    rw [read_of_finished hfinished, read_of_finished hfinished, hover h hfinished]
  | case2 link front hserves message pending ih =>
    rw [read_cons hserves, read_cons hserves]
    exact ih (h.hear message)
  | case3 link front hserves attempt error hresult =>
    have hmore := Decoder.decode_append (by rw [hresult]; simp) back
    have hfailed := (h.withDecoder attempt.decoder).fail (.protocol error)
    rw [read_nil hserves, read_nil hserves, hmore]
    simp only [attempt] at hresult hfailed
    simp only [hresult]
    rw [hover hfailed]
    simp [isFinished, stage_fail]
  | case4 link front hserves attempt hresult =>
    have hnone := Decoder.decode_eq_of_none hresult
    rw [read_nil hserves front, hnone]
    simp only [h.forget]
  | case5 link front hserves attempt next messages hresult _ ih =>
    have hmore := Decoder.decode_append (by rw [hresult]; simp) back
    rw [read_nil hserves, read_nil hserves, hmore]
    simp only [attempt] at hresult
    simp only [hresult]
    exact ih (h.withDecoder attempt.decoder)

/-! ## Both ways of reading are the loop -/

lemma drain_eq (link : Link) (buffer : Bytes) :
    link.drain buffer =
      let attempt := link.decoder.decode buffer
      let link := { link with decoder := attempt.decoder }
      match attempt.result with
      | .error error => link.fail (.protocol error)
      | .ok none => { link with buffer }
      | .ok (some messages) =>
        let link := link.deliver messages
        if link.isFinished then link else link.drain attempt.rest := by
  rw [drain]
  dsimp only
  split <;> next hresult => simp only [hresult]

lemma logOn_nil (h : link.stage = .logon) (buffer : Bytes) :
    link.logOn buffer [] =
      let attempt := link.decoder.decode buffer
      let link := { link with decoder := attempt.decoder }
      match attempt.result with
      | .error error => link.fail (.protocol error)
      | .ok none => { link with buffer }
      | .ok (some messages) => link.logOn attempt.rest messages := by
  rw [logOn]
  simp only [h]
  split <;> next hresult => simp only [hresult]

/-- The messages that are decoded are handed over first. -/
lemma read_deliver (link : Link) (buffer : Bytes) (messages : List ServerMessage) :
    link.read buffer messages = (link.deliver messages).read buffer [] := by
  induction messages generalizing link with
  | nil => rfl
  | cons message messages ih =>
    unfold deliver
    by_cases hfinished : link.isFinished = true
    · rw [if_pos hfinished, read_of_finished hfinished, read_of_finished hfinished]
    · rw [if_neg hfinished, read_cons hfinished]
      exact ih (link.hear message)

/-- Handing over whole packets comes to the same as handing over messages one by one. -/
lemma drain_eq_read (h : ¬link.isFinished = true) (buffer : Bytes) :
    link.drain buffer = link.read buffer [] := by
  induction link, buffer using drain.induct with
  | case1 link buffer attempt error hresult =>
    simp only [attempt] at hresult
    rw [drain_eq, read_nil h]
    simp only [hresult]
  | case2 link buffer attempt hresult =>
    simp only [attempt] at hresult
    rw [drain_eq, read_nil h]
    simp only [hresult]
  | case3 link buffer attempt next messages hresult _ served hfinished =>
    simp only [attempt] at hresult
    simp only [served, next, attempt] at hfinished
    rw [drain_eq, read_nil h]
    simp only [hresult, hfinished, if_true]
    rw [read_deliver, read_of_finished hfinished]
  | case4 link buffer attempt next messages hresult _ served hserves ih =>
    simp only [attempt] at hresult
    have ih := ih hserves
    simp only [served, next, attempt] at hserves ih
    rw [drain_eq, read_nil h]
    simp only [hresult, hserves]
    rw [read_deliver]
    exact ih

/-- Between the logon and what comes after it nothing is done that the loop does not do. -/
lemma begin_eq_read (h : link.Bare) (buffer : Bytes) (pending : List ServerMessage) :
    ({ link with buffer, pending } : Link).begin = link.read buffer pending := by
  have hbare : ({ link with buffer := [], pending := [] } : Link) = link := by
    rw [← h.buffer, ← h.pending]
  have hread := (h.read buffer pending).1.client.startNext
  rw [read_deliver] at hread ⊢
  unfold begin
  simp only [hbare]
  by_cases hfinished : (link.deliver pending).isFinished = true
  · rw [if_pos hfinished, read_of_finished hfinished]
  · rw [if_neg hfinished, drain_eq_read hfinished]
    by_cases hover : ((link.deliver pending).read buffer []).isFinished = true
    · rw [if_pos hover]
    · -- nobody has asked for anything, so that there is nothing to be started
      rw [if_neg hover, hread]
      simp [act, adopt, Client.idle, perform]

/-- Logging on and then beginning to serve is the loop. -/
lemma logOn_eq_read (h : link.Bare) (buffer : Bytes) (pending : List ServerMessage) :
    (if (link.logOn buffer pending).stage = .serving then (link.logOn buffer pending).begin
      else link.logOn buffer pending) = link.read buffer pending := by
  induction link, buffer, pending using logOn.induct with
  | case1 link buffer pending hstage =>
    have hfinished : link.isFinished = true := by simp [isFinished, hstage]
    have hover : link.logOn buffer pending = link := by
      rw [logOn.eq_def]
      simp only [hstage]
    rw [hover, hstage, if_neg (by simp), read_of_finished hfinished]
  | case2 link buffer pending hstage =>
    have hsession : link.logOn buffer pending = { link with buffer, pending } := by
      rw [logOn.eq_def]
      simp only [hstage]
    rw [hsession, if_pos hstage]
    exact begin_eq_read h buffer pending
  | case3 link buffer hstage message pending ih =>
    have hserves : ¬link.isFinished = true := by simp [isFinished, hstage]
    have hnext : link.logOn buffer (message :: pending) =
        (link.hear message).logOn buffer pending := by
      rw [logOn]
      simp only [hstage]
    rw [hnext, read_cons hserves]
    exact ih (h.hear message)
  | case4 link buffer hstage attempt error hresult =>
    have hserves : ¬link.isFinished = true := by simp [isFinished, hstage]
    simp only [attempt] at hresult
    rw [logOn_nil hstage, read_nil hserves]
    simp only [hresult, stage_fail]
    rfl
  | case5 link buffer hstage attempt hresult =>
    have hserves : ¬link.isFinished = true := by simp [isFinished, hstage]
    simp only [attempt] at hresult
    rw [logOn_nil hstage, read_nil hserves]
    simp only [hresult, hstage]
    rfl
  | case6 link buffer hstage attempt next messages hresult _ ih =>
    have hserves : ¬link.isFinished = true := by simp [isFinished, hstage]
    simp only [attempt] at hresult
    rw [logOn_nil hstage, read_nil hserves]
    simp only [hresult]
    exact ih (h.withDecoder attempt.decoder)

/-! ## Any pieces -/

/-- A link between two reads, to which no command was given. -/
structure Settled (link : Link) : Prop where
  pending : link.pending = []
  buffer : link.isFinished = true → link.buffer = []
  client : link.client.Unclaimed

/-- **Receiving octets** is the loop, from what was left on. -/
lemma receive_eq_read (h : link.Settled) (octets : Bytes) :
    link.receive octets =
      { link with buffer := [] : Link }.read (link.buffer ++ octets) [] := by
  have hbare : ({ link with buffer := [] } : Link).Bare := ⟨rfl, h.pending, h.client⟩
  unfold receive
  dsimp only
  split
  · have hpending : ({ link with buffer := [], pending := [] } : Link) =
        { link with buffer := [] } := by
      rw [← h.pending]
    rw [hpending]
    exact (logOn_eq_read hbare (link.buffer ++ octets) link.pending).trans
      (congrArg (Link.read _ _) h.pending)
  · next hstage =>
    have hserves : ¬({ link with buffer := [] } : Link).isFinished = true := by
      simp [isFinished, hstage]
    exact drain_eq_read hserves (link.buffer ++ octets)
  · next hstage =>
    have hfinished : link.isFinished = true := by simp [isFinished, hstage]
    have hsame : ({ link with buffer := [] } : Link) = link := by rw [← h.buffer hfinished]
    rw [hsame, read_of_finished hfinished]

lemma Settled.receive (h : link.Settled) (octets : Bytes) : (link.receive octets).Settled := by
  have hbare : ({ link with buffer := [] } : Link).Bare := ⟨rfl, h.pending, h.client⟩
  obtain ⟨hread, hfinished⟩ := hbare.read (link.buffer ++ octets) []
  rw [receive_eq_read h]
  exact ⟨hread.pending, hfinished, hread.client⟩

/-- **Two pieces** are received like one. -/
lemma receive_append (h : link.Settled) (front back : Bytes) :
    link.receive (front ++ back) = (link.receive front).receive back := by
  have hbare : ({ link with buffer := [] } : Link).Bare := ⟨rfl, h.pending, h.client⟩
  rw [receive_eq_read (h.receive front), receive_eq_read h, receive_eq_read h, ← List.append_assoc]
  exact read_append hbare [] (link.buffer ++ front) back

/-- Any pieces are received like all of them together. -/
lemma foldl_receive (h : link.Settled) (hnone : link.receive [] = link) (pieces : List Bytes) :
    pieces.foldl receive link = link.receive pieces.flatten := by
  induction pieces using List.reverseRecOn with
  | nil => exact hnone.symm
  | append_singleton pieces piece ih =>
    rw [List.foldl_concat, ih, List.flatten_concat, receive_append h]

/-- A link that has asked for a connection has not read anything. -/
lemma settled_connect (options : ConnectOptions) (random : RandomSource) :
    (connect options random).Settled ∧
      (connect options random).receive [] = connect options random := by
  have hphase : (connect options random).client.phase = .connecting := rfl
  have hsettled : (connect options random).Settled :=
    ⟨rfl, fun _ => rfl, ⟨rfl, rfl, by simp [hphase], by simp [hphase]⟩⟩
  refine ⟨hsettled, ?_⟩
  have hfinished : ({ connect options random with buffer := [] } : Link).isFinished = false := rfl
  rw [receive_eq_read hsettled, read_nil (by simp [hfinished])]
  rfl

/-- **The pieces of a stream do not matter.** Two links that are connected alike and receive the
same octets up to the end of the stream, in whatever pieces, end up the same: their clients have had
the same messages, which made them do the same, they have written the same, the logon has come to
the same, and so has everything else. -/
theorem ended_eq_of_flatten_eq (options : ConnectOptions) (random : RandomSource)
    {pieces others : List Bytes} (h : pieces.flatten = others.flatten) :
    (pieces.foldl receive (connect options random)).ended =
      (others.foldl receive (connect options random)).ended := by
  obtain ⟨hsettled, hnone⟩ := settled_connect options random
  rw [foldl_receive hsettled hnone, foldl_receive hsettled hnone, h]

/-- An accept packet, whose length takes two octets, and a marker packet, whose length takes
four. -/
def sampleStream : Bytes :=
  [0, 36, 0, 0, PacketKind.accept, 0, 0, 0] ++ [0x01, 0x3B, 0, 0] ++ List.replicate 20 0 ++
    [0, 0, 0x20, 0] ++ [0, 0, 0, 11, PacketKind.marker, 0, 0, 0, 1, 0, 2]

/-- A link that has asked for a connection. -/
def sample : Link :=
  connect
    { descriptor := ⟨.tcp, "localhost", 1521, "service", .byPool, 20000, 8192, none⟩
      credentials := Client.sample.credentials
      cacheSize := 1 } ⟨fun _ => 0, 0⟩

/-- Pieces that end within the first header and within the second one. -/
theorem ended_eq_of_flatten_eq_sample :
    [sampleStream.take 3, (sampleStream.drop 3).take 36, sampleStream.drop 39].flatten =
        [sampleStream].flatten ∧
      ([sampleStream].foldl receive sample).ended.heard.map Prod.fst =
        [.accept ⟨315, 0, 0, 8192, 0⟩, .marker 2] ∧
      ([sampleStream.take 3, (sampleStream.drop 3).take 36, sampleStream.drop 39].foldl receive
        sample).ended = ([sampleStream].foldl receive sample).ended := by
  have hsame : [sampleStream.take 3, (sampleStream.drop 3).take 36, sampleStream.drop 39].flatten =
      [sampleStream].flatten := by decide
  exact ⟨hsame, by cbv, ended_eq_of_flatten_eq _ _ hsame⟩

end Link

end TnsClient
