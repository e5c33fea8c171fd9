import TnsClient.Proofs.Client.Cleaning
import TnsClient.Proofs.Encoder.Calls
import TnsClient.Proofs.Link.Run

set_option autoImplicit false

/-!
# What a link writes

At each step of a run a link writes the packets of a request, a marker, the packets of the last
request once more, or the last packet of all; mostly it writes nothing. Most requests consist of
calls, which are numbered throughout the run.

## Main definitions

* `TnsClient.Request.function?` — the call of a request that is answered.
* `TnsClient.Request.calls` — the calls of a request.
* `TnsClient.Deed.calls`, `TnsClient.Deed.numbered` — the calls of the request that is sent, if one
  is sent, and their numbers.
* `TnsClient.Deed.octets` — what is written.

## Main results

* `TnsClient.Link.Orderly.writes` — what is written at a step, and which number is the last then.
* `TnsClient.Link.Orderly.run_writes` — what is written in a run, whose calls are numbered
  throughout.
* `TnsClient.Link.Orderly.run_lastRequest` — what would be written once more behind a run.
-/

namespace TnsClient

/-! ## Requests -/

namespace Request

/-- The call of a request that is answered. What comes before the logon is no call. -/
def function? (caps : Capabilities) : Request → Option Call
  | .connect | .protocol _ | .dataTypes _ => none
  | .logonStart credentials => some (.function FunctionCode.logonStart
      (credentials.arguments credentials.firstMode credentials.startPairs))
  | .logonProof credentials verifier => some (.function FunctionCode.logonProof
      (credentials.arguments credentials.secondMode (credentials.proofPairs verifier)))
  | .ping => some (.function FunctionCode.ping [])
  | .statement request => some (.function FunctionCode.execute (request.arguments caps))
  | .fetch cursor rows _ =>
    some (.function FunctionCode.fetch (Encode.ub4 cursor.toUInt32 ++ Encode.ub4 rows))
  | .lob request => some (.function FunctionCode.lob request.arguments)
  | .logoff => some (.function FunctionCode.logoff [])

/-- The calls of a request: in front of that of a task stand those that clean up. -/
def calls (caps : Capabilities) (cleanup : Cleanup) (request : Request) : List Call :=
  (if request.isTask then cleanup.calls else []) ++ (request.function? caps).toList

/-- A request for a task is a call. -/
lemma exists_function {request : Request} (h : request.isTask = true) (caps : Capabilities) :
    ∃ call, request.function? caps = some call ∧ call.kind = MessageKind.function := by
  cases request with
  | connect | protocol | dataTypes | logonStart | logonProof => cases h
  | _ => exact ⟨_, rfl, rfl⟩

/-- A request that comes before the logon has no calls. -/
lemma calls_eq_nil {caps : Capabilities} {request : Request}
    (h : request.function? caps = none) (cleanup : Cleanup) : request.calls caps cleanup = [] := by
  cases request with
  | connect | protocol | dataTypes => rfl
  | _ => cases h

lemma function?_kind {caps : Capabilities} {request : Request} {call : Call}
    (h : request.function? caps = some call) : call.kind = MessageKind.function := by
  cases request <;> cases h <;> rfl

end Request

/-! ## Single steps -/

namespace Deed

/-- The event that what befalls the link is for the client, if it is one. -/
def event? (deed : Deed) : Option Event := deed.before.event? deed.occurrence

/-- The step of the client. -/
def step (deed : Deed) : Client.Step :=
  match deed.event? with
  | some event => deed.before.client.react event
  | none => deed.before.client.idle

lemma action_eq (deed : Deed) : deed.action = deed.step.action := by
  unfold action step event?
  rcases deed.before.event? deed.occurrence with _ | event <;> rfl

/-- Whether a request for a task is sent. -/
def asks (deed : Deed) : Bool := deed.action.asksTask

/-- The calls of the request that is sent, if one is sent. -/
def calls (deed : Deed) : List Call :=
  match deed.action with
  | .send request => request.calls deed.before.encoder.capabilities deed.step.client.cleanup
  | _ => []

/-- These calls with their numbers. -/
def numbered (deed : Deed) : List (UInt8 × Call) :=
  numberCalls deed.before.encoder.sequence deed.calls

/-- **What is written.** -/
def octets (deed : Deed) : List Bytes :=
  let encoder := deed.before.encoder
  match deed.action with
  | .send .connect => [connectPackets deed.before.connectData deed.before.sdu]
  | .send (.protocol capabilities) => [{ encoder with capabilities : Encoder }.protocol]
  | .send (.dataTypes capabilities) => [{ encoder with capabilities : Encoder }.dataTypes]
  | .send _ => [encoder.capabilities.packets
      (deed.numbered.flatMap fun entry => encoder.callOctets entry.2 entry.1)]
  | .reset => [encoder.marker MarkerKind.reset]
  | .resend _ => deed.before.lastRequest.toList
  | .close none => if deed.before.stage = .logon then [] else [encoder.close]
  | _ => []

/-- The packets of the request that is sent, if one is sent. -/
def request? (deed : Deed) : Option Bytes :=
  match deed.action with
  | .send _ => deed.octets.head?
  | _ => none

/-- The packets of the last request. -/
def lastRequest (deed : Deed) : Option Bytes := deed.request?.or deed.before.lastRequest

/-- The packets of a request that is a call hold all its calls, each with its number. -/
lemma octets_send {deed : Deed} {request : Request} {call : Call}
    (haction : deed.action = .send request)
    (hcall : request.function? deed.before.encoder.capabilities = some call) :
    deed.octets = [deed.before.encoder.capabilities.packets
      (deed.numbered.flatMap fun entry => deed.before.encoder.callOctets entry.2 entry.1)] := by
  simp only [octets, haction]
  cases request with
  | connect | protocol | dataTypes => cases hcall
  | _ => rfl

/-- Where there are calls, what is written are the packets that hold them. -/
lemma octets_of_calls {deed : Deed} (h : deed.calls ≠ []) :
    deed.octets = [deed.before.encoder.capabilities.packets
      (deed.numbered.flatMap fun entry => deed.before.encoder.callOctets entry.2 entry.1)] := by
  cases haction : deed.action with
  | send request =>
    rcases hcall : request.function? deed.before.encoder.capabilities with _ | call
    · refine absurd ?_ h
      simp only [calls, haction]
      exact Request.calls_eq_nil hcall _
    · exact octets_send haction hcall
  | _ => simp [calls, haction] at h

/-- Where no request is sent, there is no call, and the last request is what it was. -/
lemma unsent {deed : Deed} (h : ∀ request, deed.action ≠ .send request) :
    deed.calls = [] ∧ deed.lastRequest = deed.before.lastRequest := by
  unfold calls lastRequest request?
  cases haction : deed.action with
  | send request => exact absurd haction (h request)
  | _ => exact ⟨rfl, rfl⟩

end Deed

namespace Link

variable {link : Link}

/-! ### What tells what is written -/

/-- What a link has written, and what it writes with. -/
structure Wire where
  /-- The encoder. -/
  encoder : Encoder
  /-- What was written. -/
  written : List Bytes
  /-- The packets of the last request. -/
  lastRequest : Option Bytes

/-- What a link has written, and what it writes with. -/
def wire (link : Link) : Wire := ⟨link.encoder, link.written, link.lastRequest⟩

/-- The tickets, what was heard and who has learned what do not tell what is written. -/
lemma act_wire (link : Link) (tickets : List (Nat × TaskId)) (heard : List (ServerMessage × Action))
    (step : Client.Step) :
    (({ link with tickets, heard } : Link).act step).wire = (link.act step).wire := by
  have hclose : ∀ (link : Link) (error : Option ClientError),
      (({ link with tickets, heard } : Link).close error).wire = (link.close error).wire := by
    intro link error
    unfold close
    dsimp only
    split <;> rfl
  have hfail : ∀ (link : Link) (error : ClientError),
      (({ link with tickets, heard } : Link).fail error).wire = (link.fail error).wire :=
    fun link error => hclose (link.adopt (link.client.fail error)) (some error)
  unfold act adopt
  dsimp only
  cases step.action with
  | send request => cases request <;> rfl
  | close error => exact hclose { link with
      client := step.client, resolved := link.resolved ++ step.resolved } error
  | resend request =>
    unfold perform
    dsimp only
    split
    · rfl
    · exact hfail { link with
        client := step.client, resolved := link.resolved ++ step.resolved } _
  | _ => rfl

/-- A step writes what doing what the client then wants writes. -/
lemma Orderly.befall_wire (h : link.Orderly) (occurrence : Occurrence) :
    (link.befall occurrence).wire =
      (link.act (Deed.mk link occurrence).step).wire := by
  -- nothing is written where the client is not told
  have hlater : ∀ {after : Link} {event : Event},
      (link.isFinished = false → after.wire = (link.act (link.client.react event)).wire) →
        (if link.isFinished then link else after).wire =
          (link.act (match if link.isFinished then none else some event with
            | some event => link.client.react event
            | none => link.client.idle)).wire := by
    intro after event hwire
    cases hfinished : link.isFinished
    · exact hwire hfinished
    · rfl
  have hlost : (link.act link.client.lost).wire = link.wire := by
    unfold Link.act
    rw [link.client.lost_action]
    rfl
  unfold Deed.step Deed.event?
  cases occurrence with
  | command command =>
    cases command with
    | submit ticket task =>
      show (link.command (.submit ticket task)).wire =
        (link.act (link.client.react (.submit task))).wire
      unfold Link.command
      cases hfinished : link.isFinished
      · dsimp only
        rw [submit_eq]
        exact act_wire link _ link.heard _
      · rw [h.react_submit hfinished]
        rfl
    | cancel ticket =>
      show (link.command (.cancel ticket)).wire = _
      unfold Link.command event?
      cases hfinished : link.isFinished
      · dsimp only
        unfold Link.cancel
        rcases hlookup : link.tickets.lookup ticket with _ | id
        · rfl
        · exact act_wire link _ link.heard _
      · rfl
    | releaseLob locator =>
      show (link.command (.releaseLob locator)).wire = _
      unfold Link.command event?
      cases hfinished : link.isFinished <;> rfl
  | message message => exact hlater fun _ => act_wire link link.tickets _ _
  | turn => exact hlater fun _ => rfl
  | failed error => exact hlater fun hfinished => by rw [h.fail_eq hfinished]
  | ended =>
    show link.ended.wire = _
    unfold ended event?
    cases hstage : link.stage with
    | logon =>
      dsimp only
      rw [h.fail_eq (by rw [isFinished, hstage]; rfl)]
    | serving => exact hlost.symm
    | finished => rfl
  | timedOut milliseconds =>
    show (link.timeOut milliseconds).wire = _
    unfold timeOut event?
    cases hstage : link.stage with
    | logon => exact hlost.symm
    | serving | finished => rfl
  | abandoned handle => rfl

/-! ### What is written at a step -/

/-- The packets of calls, where it is known how many came before. -/
lemma send_eq (encoder : Encoder) {count : Nat} (hcount : encoder.sequence = lastNumber count)
    (calls : List Call) :
    encoder.send calls =
      (encoder.capabilities.packets ((numberCalls encoder.sequence calls).flatMap fun entry =>
          encoder.callOctets entry.2 entry.1),
        { encoder with sequence := lastNumber (count + calls.length) }) := by
  unfold Encoder.send
  rw [encoder.body_eq hcount]

/-- A request that is a call is sent with all its calls. -/
lemma transmit_wire (link : Link) {request : Request} {call : Call} {calls : List Call}
    (hcall : request.function? link.encoder.capabilities = some call)
    (hcalls : calls = request.calls link.encoder.capabilities link.client.cleanup) :
    (link.transmit request).wire =
      ⟨(link.encoder.send calls).2, link.written ++ [(link.encoder.send calls).1],
        some (link.encoder.send calls).1⟩ := by
  subst hcalls
  cases request with
  | connect | protocol | dataTypes => cases hcall
  | _ => rfl

/-- When a connection is closed in an orderly way, there is a last packet. -/
lemma close_wire (link : Link) (error : Option ClientError) :
    (link.close error).wire =
      ⟨link.encoder,
        link.written ++
          match error with
          | none => if link.stage = .logon then [] else [link.encoder.close]
          | some _ => [],
        link.lastRequest⟩ := by
  rcases error with _ | error <;> unfold close <;> rcases hstage : link.stage <;> dsimp only <;>
    simp only [reduceCtorEq, if_true, if_false, List.append_nil] <;> rfl

/-- What is written at a step is what the step writes, the numbers of the calls go on, and the
packets of a request are remembered. -/
structure Writes (deed : Deed) (count : Nat) : Prop where
  written : deed.after.written = deed.before.written ++ deed.octets
  sequence : deed.after.encoder.sequence = lastNumber (count + deed.calls.length)
  lastRequest : deed.after.lastRequest = deed.lastRequest

lemma Writes.of_wire {deed : Deed} {count : Nat} {encoder : Encoder}
    (hwire : deed.after.wire = ⟨encoder, deed.before.written ++ deed.octets, deed.lastRequest⟩)
    (hsequence : encoder.sequence = lastNumber (count + deed.calls.length)) :
    Writes deed count where
  written := congrArg Wire.written hwire
  sequence := (congrArg (Encoder.sequence ∘ Wire.encoder) hwire).trans hsequence
  lastRequest := congrArg Wire.lastRequest hwire

/-- What is sent again at a step of an orderly link is what was remembered, and the client has not
changed. -/
lemma Orderly.resends {deed : Deed} (h : deed.before.Orderly) {request : Request}
    (haction : deed.action = .resend request) :
    deed.step.client = deed.before.client ∧ ∃ packets, deed.before.lastRequest = some packets := by
  rw [deed.action_eq] at haction
  unfold Deed.step at haction ⊢
  rcases hevent : deed.event? with _ | event
  · simp [hevent, Client.idle] at haction
  · simp only [hevent] at haction ⊢
    obtain ⟨hlast, hstep⟩ :=
      (Client.react_transition h.sound.spare event).resends h.sound haction
    exact ⟨by rw [hstep], Option.isSome_iff_exists.1 (h.repeatable (by rw [hlast]; rfl))⟩

section Steps

variable {deed : Deed} {count : Nat} {request : Request}
  (hwire : deed.after.wire = ((deed.before.adopt deed.step).perform deed.action).wire)
  (hcount : deed.before.encoder.sequence = lastNumber count)

include hwire hcount

/-- A request that comes before the logon draws no number. -/
lemma writes_setup (haction : deed.action = .send request)
    (hcall : request.function? deed.before.encoder.capabilities = none) : Writes deed count := by
  rw [haction] at hwire
  have hnone : deed.calls = [] := by
    simp only [Deed.calls, haction]
    exact Request.calls_eq_nil hcall _
  have hof : ∀ {encoder : Encoder}, encoder.sequence = deed.before.encoder.sequence →
      ((deed.before.adopt deed.step).perform (.send request)).wire =
        ⟨encoder, deed.before.written ++ deed.octets, deed.lastRequest⟩ → Writes deed count :=
    fun hsequence hsame =>
      .of_wire (hwire.trans hsame) (by rw [hnone, hsequence]; exact hcount)
  simp only [Deed.octets, Deed.lastRequest, Deed.request?, haction] at hof
  cases request with
  | connect => exact hof rfl rfl
  | protocol capabilities | dataTypes capabilities =>
    exact @hof { deed.before.encoder with capabilities } rfl rfl
  | _ => cases hcall

/-- A request that is a call is sent with the numbers behind the last one. -/
lemma writes_calls (haction : deed.action = .send request) {call : Call}
    (hcall : request.function? deed.before.encoder.capabilities = some call) :
    Writes deed count := by
  rw [haction] at hwire
  have hsend := send_eq deed.before.encoder hcount deed.calls
  have hsent : ((deed.before.adopt deed.step).transmit request).wire =
      ⟨(deed.before.encoder.send deed.calls).2,
        deed.before.written ++ [(deed.before.encoder.send deed.calls).1],
        some (deed.before.encoder.send deed.calls).1⟩ :=
    (deed.before.adopt deed.step).transmit_wire hcall (by simp only [Deed.calls, haction]; rfl)
  have hoctets : deed.octets = [(deed.before.encoder.send deed.calls).1] := by
    rw [hsend]
    exact Deed.octets_send haction hcall
  have hlast : deed.lastRequest = some (deed.before.encoder.send deed.calls).1 := by
    simp only [Deed.lastRequest, Deed.request?, haction, hoctets, List.head?_cons,
      Option.some_or]
  refine .of_wire (hwire.trans (hsent.trans ?_)) (congrArg (Encoder.sequence ∘ Prod.snd) hsend)
  rw [hlast, hoctets]

/-- Where no request is sent, the encoder and what is remembered stay as they are. -/
lemma writes_unsent (hunsent : ∀ request, deed.action ≠ .send request)
    (hsame : ((deed.before.adopt deed.step).perform deed.action).wire =
      ⟨deed.before.encoder, deed.before.written ++ deed.octets, deed.before.lastRequest⟩) :
    Writes deed count := by
  obtain ⟨hcalls, hlast⟩ := Deed.unsent hunsent
  exact .of_wire (hwire.trans (hsame.trans (by rw [hlast]))) (by rw [hcalls]; exact hcount)

end Steps

/-- **What is written at a step** of an orderly link.

**Proof sketch.** What is written is what doing what the client wants writes. A request that is a
call is sent with the numbers behind the last one, and nothing else draws numbers. -/
theorem Orderly.writes {deed : Deed} (h : deed.before.Orderly) {count : Nat}
    (hcount : deed.before.encoder.sequence = lastNumber count) : Writes deed count := by
  have hwire : deed.after.wire = ((deed.before.adopt deed.step).perform deed.action).wire := by
    rw [deed.action_eq]
    exact h.befall_wire deed.occurrence
  cases haction : deed.action with
  | send request =>
    rcases hcall : request.function? deed.before.encoder.capabilities with _ | call
    · exact writes_setup hwire hcount haction hcall
    · exact writes_calls hwire hcount haction hcall
  | close error =>
    refine writes_unsent hwire hcount (by simp [haction]) ?_
    rw [haction]
    refine (close_wire (deed.before.adopt deed.step) error).trans ?_
    rcases error with _ | error <;> simp only [Deed.octets, haction] <;> rfl
  | resend request =>
    obtain ⟨-, packets, hpackets⟩ := h.resends haction
    have hperform : (deed.before.adopt deed.step).perform (.resend request) =
        (deed.before.adopt deed.step).write packets := by
      simp [perform, adopt, hpackets]
    refine writes_unsent hwire hcount (by simp [haction]) ?_
    rw [haction, hperform]
    show Wire.mk deed.before.encoder (deed.before.written ++ [packets]) deed.before.lastRequest = _
    simp only [Deed.octets, haction, hpackets, Option.toList_some]
  | reset =>
    refine writes_unsent hwire hcount (by simp [haction]) ?_
    simp only [Deed.octets, haction]
    rfl
  | wait | established =>
    refine writes_unsent hwire hcount (by simp [haction]) ?_
    simp only [Deed.octets, haction, List.append_nil]
    rfl

/-! ### What is written in a run -/

/-- **What is written in a run** of an orderly link is what its steps write, and its calls are
numbered throughout. -/
theorem Orderly.run_writes (h : link.Orderly) {count : Nat}
    (hcount : link.encoder.sequence = lastNumber count) (occurrences : List Occurrence) :
    (link.run occurrences).written =
        link.written ++ (link.deeds occurrences).flatMap Deed.octets ∧
      (link.deeds occurrences).flatMap Deed.numbered =
        numberCalls (lastNumber count) ((link.deeds occurrences).flatMap Deed.calls) := by
  induction occurrences generalizing link count with
  | nil => exact ⟨(List.append_nil _).symm, rfl⟩
  | cons occurrence rest ih =>
    let deed : Deed := ⟨link, occurrence⟩
    have hfirst : Writes deed count := @Orderly.writes deed h count hcount
    obtain ⟨hwritten, hnumbered⟩ := ih (h.befall occurrence).orderly hfirst.sequence
    have hdeeds : link.deeds (occurrence :: rest) = deed :: deed.after.deeds rest := rfl
    rw [run_cons, hdeeds, List.flatMap_cons, List.flatMap_cons, List.flatMap_cons]
    constructor
    · rw [hwritten, ← List.append_assoc]
      exact congrArg (· ++ _) hfirst.written
    · rw [numberCalls_append, ← hcount]
      exact congrArg _ hnumbered

/-- **What would be written once more** behind a run are the packets of its last request, or what
would have been in front of it. -/
theorem Orderly.run_lastRequest (h : link.Orderly) {count : Nat}
    (hcount : link.encoder.sequence = lastNumber count) (occurrences : List Occurrence) :
    (link.run occurrences).lastRequest =
      ((link.deeds occurrences).filterMap Deed.request?).getLast?.or link.lastRequest := by
  induction occurrences generalizing link count with
  | nil => rfl
  | cons occurrence rest ih =>
    let deed : Deed := ⟨link, occurrence⟩
    have hfirst : Writes deed count := @Orderly.writes deed h count hcount
    have hdeeds : link.deeds (occurrence :: rest) = deed :: deed.after.deeds rest := rfl
    have hrest := ih (h.befall occurrence).orderly hfirst.sequence
    have hlast : (link.befall occurrence).lastRequest = deed.request?.or link.lastRequest :=
      hfirst.lastRequest
    rw [run_cons, hrest, hdeeds, hlast, ← Option.or_assoc]
    show _ = ((deed :: (link.befall occurrence).deeds rest).filterMap _).getLast?.or _
    rcases hrequest : deed.request? with _ | packets
    · rw [List.filterMap_cons_none hrequest, Option.or_none]
    · rw [List.filterMap_cons_some hrequest, List.getLast?_cons]
      rcases (((link.befall occurrence).deeds rest).filterMap Deed.request?).getLast? <;> rfl

end Link

end TnsClient
