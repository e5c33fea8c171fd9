import TnsClient.Proofs.Client.AllOrNothing

set_option autoImplicit false

/-!
# What client and server agree on

A connection starts from what the client can do. The answer to the connect request and the protocol
response change that, and nothing else does; with each of them the client announces what is agreed on
to the server. The announcement holds some things twice: the field version, and that the ends of
requests are marked because the ends of responses are.

## Main definitions

* `TnsClient.Capabilities.Consistent` — what is announced is what was agreed on.
* `TnsClient.Action.agreed?` — what is agreed on with what the client wants done.
* `TnsClient.Client.Agreement` — what is known of the capabilities of a client at any time.

## Main results

* `TnsClient.Client.Transition.agreed` — the steps that change the capabilities.
* `TnsClient.Client.handle_agreed` — the messages at which they come.
* `TnsClient.Client.Agreement.after` — what is known stays known, and the field version never rises.
-/

namespace TnsClient

/-! ## Capabilities -/

namespace Capabilities

/-- **What is announced is what was agreed on.** The build features hold the field version, which is
one that the client knows; and they say that the ends of requests are marked just where the ends of
responses are. -/
structure Consistent (caps : Capabilities) : Prop where
  fieldVersion : caps.build[fieldVersionPosition] = caps.fieldVersion
  le_newest : caps.fieldVersion ≤ FieldVersion.newest
  boundary : caps.build[boundaryPosition] &&& endOfRequestBit ≠ 0 ↔ caps.endOfResponse = true

lemma consistent_initial : initial.Consistent := by
  constructor <;> decide

variable {caps : Capabilities}

/-- A bit that is set is there. -/
lemma or_endOfRequestBit (octet : UInt8) :
    (octet ||| endOfRequestBit) &&& endOfRequestBit = endOfRequestBit := by
  refine UInt8.toBitVec_inj.1 (BitVec.eq_of_getLsbD_eq fun index _ => ?_)
  rw [UInt8.toBitVec_and, UInt8.toBitVec_or, BitVec.getLsbD_and, BitVec.getLsbD_or]
  cases endOfRequestBit.toBitVec.getLsbD index <;> simp

/-- The field version and the end of requests stand in different places. -/
lemma fieldVersion_set_boundary (build : BuildFeatures) (octet : UInt8) :
    (build.set boundaryPosition octet)[fieldVersionPosition] = build[fieldVersionPosition] :=
  Vector.getElem_set_ne (by decide) (by decide) (by decide)

lemma boundary_set_fieldVersion (build : BuildFeatures) (octet : UInt8) :
    (build.set fieldVersionPosition octet)[boundaryPosition] = build[boundaryPosition] :=
  Vector.getElem_set_ne (by decide) (by decide) (by decide)

/-- The answer to the connect request keeps capabilities consistent, unless the ends of responses
were marked before. -/
lemma Consistent.withAccept (h : caps.Consistent) (hunmarked : caps.endOfResponse = false)
    (version options : UInt16) (sdu flags : UInt32) :
    (caps.withAccept version options sdu flags).Consistent := by
  unfold Capabilities.withAccept
  dsimp only
  split_ifs with hmarked
  · refine ⟨?_, h.le_newest, ?_⟩
    · exact (fieldVersion_set_boundary _ _).trans h.fieldVersion
    · rw [Vector.getElem_set_self, or_endOfRequestBit]
      exact iff_of_true (by decide) hmarked
  · refine ⟨h.fieldVersion, h.le_newest, h.boundary.trans ?_⟩
    rw [hunmarked]
    exact iff_of_false Bool.false_ne_true hmarked

/-- The protocol response does not raise the field version. -/
lemma fieldVersion_withProtocol_le (caps : Capabilities) (build runtime : Option Bytes)
    (nationalCharset : Option UInt16) :
    (caps.withProtocol build runtime nationalCharset).fieldVersion ≤ caps.fieldVersion := by
  unfold withProtocol
  dsimp only
  split
  · exact Std.min_le_left
  · exact UInt8.le_refl _

/-- The protocol response keeps capabilities consistent. -/
lemma Consistent.withProtocol (h : caps.Consistent) (build runtime : Option Bytes)
    (nationalCharset : Option UInt16) :
    (caps.withProtocol build runtime nationalCharset).Consistent := by
  have hlower := fieldVersion_withProtocol_le caps build runtime nationalCharset
  refine ⟨?_, UInt8.le_trans hlower h.le_newest, ?_⟩
  all_goals
    unfold Capabilities.withProtocol
    rcases build.bind fun octets => octets[fieldVersionPosition]? with _ | server
  · exact h.fieldVersion
  · exact Vector.getElem_set_self _
  · exact h.boundary
  · rw [← h.boundary]
    exact iff_of_eq (congrArg (· &&& endOfRequestBit ≠ 0) (boundary_set_fieldVersion _ _))

end Capabilities

/-! ## Steps -/

/-- What is agreed on with a request. -/
def Request.agreed? : Request → Option Capabilities
  | protocol capabilities | dataTypes capabilities => some capabilities
  | _ => none

/-- What is agreed on with what the client wants done. -/
def Action.agreed? : Action → Option Capabilities
  | send request => request.agreed?
  | _ => none

/-- Only a client that connects has no more than one milestone behind it. -/
lemma Phase.eq_connecting {phase : Phase} (h : phase.progress ≤ 1) : phase = .connecting := by
  unfold progress at h
  split at h <;> simp_all

/-- Nothing is agreed on with the request that starts a task. -/
lemma Task.request_agreed? (task : Task) : task.request.agreed? = none := by
  cases task <;> rfl

namespace Client

variable {client : Client} {event : Event} {step : Step}

/-- A step changes nothing of what is agreed on. -/
structure Retains (client : Client) (step : Step) : Prop where
  action : step.action.agreed? = none
  capabilities : step.client.capabilities = client.capabilities

lemma startNext_retains (hflight : client.inFlight = none)
    (hphase : client.phase = .ready ∨ client.phase = .inFlight) :
    client.Retains client.startNext := by
  rcases startNext_cases hflight hphase with ⟨-, hstep⟩ | ⟨task, -, hstep⟩ <;> rw [hstep]
  · exact ⟨rfl, rfl⟩
  · exact ⟨Task.request_agreed? _, rfl⟩

lemma fail_retains (client : Client) (error : ClientError) : client.Retains (client.fail error) := by
  cases hover : client.phase.isOver
  · rw [fail_eq _ hover]
    exact ⟨rfl, rfl⟩
  · rw [fail_of_over _ hover]
    exact ⟨rfl, rfl⟩

lemma lost_retains (client : Client) : client.Retains client.lost := by
  by_cases hclosed : client.phase = .closed
  · rw [lost_of_closed hclosed]
    exact ⟨rfl, rfl⟩
  · rw [lost_eq hclosed]
    exact ⟨rfl, rfl⟩

/-- **The steps that change the capabilities**: the client goes on from asking for a connection, or
from naming itself, and tells the server the capabilities that it has from then on. -/
theorem Transition.agreed (h : client.Transition event step) (hsound : client.Sound) :
    client.Retains step ∨ (∀ task, event ≠ .submit task) ∧
      ((∃ capabilities, client.phase = .connecting ∧
        step = ({ client with capabilities, phase := .protocolNegotiation } : Client).send
          (.protocol capabilities)) ∨
      ∃ capabilities, client.phase = .protocolNegotiation ∧
        step = ({ client with capabilities, phase := .dataTypeNegotiation } : Client).send
          (.dataTypes capabilities)) := by
  cases h with
  | quiet _ halike haction =>
    refine .inl ⟨?_, halike.capabilities.symm⟩
    rcases haction with rfl | rfl <;> rfl
  | setup hevent hstep =>
    cases hstep with
    | protocol capabilities hphase => exact .inr ⟨hevent, .inl ⟨capabilities, hphase, rfl⟩⟩
    | dataTypes capabilities hphase => exact .inr ⟨hevent, .inr ⟨capabilities, hphase, rfl⟩⟩
    | connect | logonStart | logonProof => exact .inl ⟨rfl, rfl⟩
  | @failed _ error =>
    have hretains := fail_retains client error
    exact .inl ⟨hretains.action, hretains.capabilities⟩
  | lost => exact .inl (lost_retains _)
  | @served task _ hphase hflight =>
    obtain ⟨haction, hcapabilities⟩ :=
      @startNext_retains { client with queue := (client.queue.push task).2 } hflight (.inl hphase)
    exact .inl ⟨haction, hcapabilities⟩
  | turned hflight hphase => exact .inl (startNext_retains hflight hphase)
  | fetched _ _ _ hfetch =>
    obtain ⟨statement, handle, -, rfl⟩ := fetch?_eq_some hfetch
    exact .inl ⟨rfl, rfl⟩
  | @finished _ flight flight' hflight htask =>
    left
    have hphase : client.phase = flight'.task.phase := by rw [htask, hsound.busy flight hflight]
    rcases finish_cases { client with awaiting := false, inFlight := none } flight' with
      ⟨hinFlight, statements, cleanup, hstep⟩ | ⟨-, hstep⟩ <;> rw [hstep]
    · obtain ⟨haction, hcapabilities⟩ := @startNext_retains
        { client with awaiting := false, inFlight := none, statements, cleanup } rfl
        (.inr (hphase.trans hinFlight))
      exact ⟨haction, hcapabilities⟩
    · exact ⟨rfl, rfl⟩
  | abandoned | resent | established | heard | refused | joinedFlight | joinedWaiting | waited
  | cancelled => exact .inl ⟨rfl, rfl⟩

/-- Before the logon no answer is due, and no task is in flight. -/
lemma Sound.before_logon (h : client.Sound)
    (hphase : client.phase = .connecting ∨ client.phase = .protocolNegotiation) :
    client.phase.isLogon = false ∧ client.awaiting = false ∧ client.inFlight = none := by
  have hlogon : client.phase.isLogon = false := by
    rcases hphase with hphase | hphase <;> rw [hphase] <;> rfl
  have hflight : client.inFlight = none := by
    refine h.inFlight_eq_none ?_ ?_ <;> rcases hphase with hphase | hphase <;> simp [hphase]
  refine ⟨hlogon, ?_, hflight⟩
  rw [← Bool.not_eq_true, h.awaiting, hlogon, hflight]
  simp

/-- Before the logon, nothing is agreed on with a message that is neither an answer to the connect
request nor a protocol response: no answer is due then, and no task is in flight. -/
lemma handle_agreed?_eq_none (hlogon : client.phase.isLogon = false)
    (hidle : client.awaiting = false) (hflight : client.inFlight = none) {message : ServerMessage}
    (haccept : ∀ accept, message ≠ .accept accept) (hinfo : ∀ info, message ≠ .serverInfo info) :
    (client.handle message).action.agreed? = none := by
  have hfail : ∀ error, (client.fail error).action.agreed? = none :=
    fun error => (fail_retains client error).action
  have hcollect : ∀ unexpected change,
      (client.collect unexpected change).action.agreed? = none := by
    intro unexpected change
    unfold collect
    rw [hflight]
    exact hfail _
  have hanswered : client.answered = client.idle := by simp [answered, hidle]
  have hunmarked : client.answeredUnlessMarked = client.idle := by
    rw [answeredUnlessMarked, hanswered, ite_self]
  cases message with
  | accept accept => exact absurd rfl (haccept accept)
  | serverInfo info => exact absurd rfl (hinfo info)
  | refuse | redirect => exact hfail _
  | marker kind =>
    show (client.marker kind).action.agreed? = none
    unfold marker
    split_ifs <;> rfl
  | resend =>
    show client.resend.action.agreed? = none
    unfold resend
    split
    · rfl
    · exact hfail _
  | dataTypes =>
    show client.agreed.action.agreed? = none
    unfold agreed
    split_ifs
    · exact hfail _
    · rfl
  | authParameters data =>
    show (client.logonParameters data).action.agreed? = none
    unfold logonParameters
    rw [hlogon]
    exact hfail _
  | statementParameters | lobParameters | description | row | lobData => exact hcollect _ _
  | status =>
    show client.answeredUnlessMarked.action.agreed? = none
    rw [hunmarked]
    rfl
  | error block =>
    show (client.errorBlock block).action.agreed? = none
    unfold errorBlock
    rw [hlogon, hflight]
    rfl
  | endOfResponse =>
    show client.answered.action.agreed? = none
    rw [hanswered]
    rfl
  | control | warning | rowHeader | bitVector | piggyback | flushOutBinds => rfl

/-- **The messages at which they come.** A message with which something is agreed on is the answer
to the connect request or the protocol response, and what it says is taken over. -/
theorem handle_agreed (hsound : client.Sound) {message : ServerMessage} {capabilities : Capabilities}
    (hagreed : (client.handle message).action.agreed? = some capabilities) :
    (∃ accept, message = .accept accept ∧ client.phase = .connecting ∧
      capabilities = client.capabilities.withAccept accept.version accept.options accept.sdu
        accept.flags) ∨
    (∃ info, message = .serverInfo info ∧ client.phase = .protocolNegotiation ∧
      capabilities = client.capabilities.withProtocol info.build info.runtime
        info.nationalCharset) := by
  have hsome : ∀ {action : Action}, action.agreed? = none →
      action.agreed? ≠ some capabilities := by
    intro action hnone
    rw [hnone]
    exact (Option.some_ne_none capabilities).symm
  have hfail : ∀ error, (client.fail error).action.agreed? ≠ some capabilities :=
    fun error => hsome (fail_retains client error).action
  by_cases haccept : ∃ accept, message = .accept accept
  · obtain ⟨accept, rfl⟩ := haccept
    change (client.accepted accept).action.agreed? = _ at hagreed
    unfold accepted at hagreed
    split_ifs at hagreed with hphase
    · exact absurd hagreed (hfail _)
    · exact absurd hagreed (hfail _)
    · exact absurd hagreed (hfail _)
    · exact .inl ⟨accept, rfl, not_not.1 hphase, (Option.some.inj hagreed).symm⟩
  by_cases hinfo : ∃ info, message = .serverInfo info
  · obtain ⟨info, rfl⟩ := hinfo
    change (client.described info).action.agreed? = _ at hagreed
    unfold described at hagreed
    split_ifs at hagreed with hphase
    · exact absurd hagreed (hfail _)
    · exact .inr ⟨info, rfl, not_not.1 hphase, (Option.some.inj hagreed).symm⟩
  -- anything else that could come to such a step comes before the logon
  have hphase : client.phase = .connecting ∨ client.phase = .protocolNegotiation := by
    rcases (react_transition hsound.spare (.message message)).agreed hsound with
      hretains | ⟨-, ⟨-, hphase, -⟩ | ⟨-, hphase, -⟩⟩
    · exact absurd hagreed (hsome hretains.action)
    · exact .inl hphase
    · exact .inr hphase
  obtain ⟨hlogon, hidle, hflight⟩ := hsound.before_logon hphase
  exact absurd hagreed (hsome (handle_agreed?_eq_none hlogon hidle hflight
    (not_exists.1 haccept) (not_exists.1 hinfo)))

/-- So it is with whatever befalls a client. -/
lemma react_agreed (hsound : client.Sound) {capabilities : Capabilities}
    (hagreed : (client.react event).action.agreed? = some capabilities) :
    (∃ accept, event = .message (.accept accept) ∧ client.phase = .connecting ∧
      capabilities = client.capabilities.withAccept accept.version accept.options accept.sdu
        accept.flags) ∨
    (∃ info, event = .message (.serverInfo info) ∧ client.phase = .protocolNegotiation ∧
      capabilities = client.capabilities.withProtocol info.build info.runtime
        info.nationalCharset) := by
  have habsurd : (client.react event).action.agreed? ≠ none := by
    rw [hagreed]
    exact Option.some_ne_none capabilities
  cases event with
  | message message =>
    refine (handle_agreed hsound hagreed).imp ?_ ?_
    · rintro ⟨accept, rfl, hrest⟩
      exact ⟨accept, rfl, hrest⟩
    · rintro ⟨info, rfl, hrest⟩
      exact ⟨info, rfl, hrest⟩
  | submit task =>
    rcases (react_transition hsound.spare (.submit task)).agreed hsound with hretains | ⟨hother, -⟩
    · exact absurd hretains.action habsurd
    · exact absurd rfl (hother task)
  | opened =>
    refine absurd ?_ habsurd
    show client.opened.action.agreed? = none
    unfold opened
    split_ifs <;> rfl
  | cancel id =>
    refine absurd ?_ habsurd
    show (client.cancel id).2.action.agreed? = none
    unfold cancel
    split <;> rfl
  | next =>
    rcases (react_transition hsound.spare .next).agreed hsound with
      hretains | ⟨-, ⟨-, hphase, -⟩ | ⟨-, hphase, -⟩⟩
    · exact absurd hretains.action habsurd
    all_goals
      change client.startNext.action.agreed? = _ at hagreed
      rw [startNext, if_pos (.inr (by simp [hphase]))] at hagreed
      cases hagreed
  | fail error => exact absurd (fail_retains client error).action habsurd
  | lost => exact absurd (lost_retains client).action habsurd
  | abandon | releaseLob | takeCleanup => cases hagreed

/-- The capabilities behind a step are those that were agreed on with it, or the old ones. -/
lemma react_capabilities (hsound : client.Sound) (event : Event) :
    (client.react event).client.capabilities =
      (client.react event).action.agreed?.getD client.capabilities := by
  rcases (react_transition hsound.spare event).agreed hsound with
    ⟨haction, hcapabilities⟩ | ⟨-, ⟨capabilities, -, hstep⟩ | ⟨capabilities, -, hstep⟩⟩
  · rw [haction, hcapabilities]
    rfl
  · rw [hstep]
    rfl
  · rw [hstep]
    rfl

/-! ## Runs -/

/-- **What is known of the capabilities of a client** at any time: they are consistent, and before
the connection is accepted the ends of responses are not marked. -/
structure Agreement (client : Client) : Prop where
  consistent : client.capabilities.Consistent
  unmarked : client.phase = .connecting → client.capabilities.endOfResponse = false

lemma agreement_new (credentials : Credentials) (random : RandomSource) (cacheSize : Nat) :
    (new credentials random cacheSize).Agreement :=
  ⟨Capabilities.consistent_initial, fun _ => rfl⟩

/-- **A step** keeps what is known, and does not raise the field version. -/
lemma Agreement.react (h : client.Agreement) (hsound : client.Sound) (event : Event) :
    (client.react event).client.Agreement ∧
      (client.react event).client.capabilities.fieldVersion ≤ client.capabilities.fieldVersion := by
  have htransition := react_transition hsound.spare event
  rcases htransition.agreed hsound with
    ⟨-, hcapabilities⟩ | ⟨-, ⟨capabilities, hphase, hstep⟩ | ⟨capabilities, hphase, hstep⟩⟩
  · refine ⟨⟨by rw [hcapabilities]; exact h.consistent, fun hconnecting => ?_⟩, ?_⟩
    · have hprogress := htransition.progress_le hsound
      rw [hconnecting] at hprogress
      rw [hcapabilities]
      exact h.unmarked (Phase.eq_connecting hprogress)
    · rw [hcapabilities]
      exact UInt8.le_refl _
  · have hagreed : (client.react event).action.agreed? = some capabilities := by rw [hstep]; rfl
    rcases react_agreed hsound hagreed with ⟨accept, -, -, rfl⟩ | ⟨info, -, hother, -⟩
    · rw [hstep]
      exact ⟨⟨h.consistent.withAccept (h.unmarked hphase) _ _ _ _, nofun⟩, UInt8.le_refl _⟩
    · rw [hphase] at hother
      cases hother
  · have hagreed : (client.react event).action.agreed? = some capabilities := by rw [hstep]; rfl
    rcases react_agreed hsound hagreed with ⟨accept, -, hother, -⟩ | ⟨info, -, -, rfl⟩
    · rw [hphase] at hother
      cases hother
    · have hle := client.capabilities.fieldVersion_withProtocol_le info.build info.runtime
        info.nationalCharset
      rw [hstep]
      exact ⟨⟨h.consistent.withProtocol _ _ _, nofun⟩, hle⟩

/-- **A run** keeps what is known, and does not raise the field version. -/
theorem Agreement.after (h : client.Agreement) (hsound : client.Sound) (events : List Event) :
    (client.after events).Agreement ∧
      (client.after events).capabilities.fieldVersion ≤ client.capabilities.fieldVersion := by
  induction events generalizing client with
  | nil => exact ⟨h, UInt8.le_refl _⟩
  | cons event events ih =>
    obtain ⟨hfirst, hle⟩ := h.react hsound event
    obtain ⟨hrest, hle'⟩ := ih hfirst ((react_transition hsound.spare event).sound hsound)
    exact ⟨hrest, UInt8.le_trans hle' hle⟩

end Client

end TnsClient
