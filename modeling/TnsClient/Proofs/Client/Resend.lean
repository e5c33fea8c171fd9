import Mathlib.Data.List.Induction
import TnsClient.Proofs.Client.Invariant

set_option autoImplicit false

/-!
# Sending the last request again

The server may ask for the last request again at any time. The client keeps it from the moment it is
sent until the logon is done or another request takes its place; that it has been answered does not
make the client forget it. So what is sent again awaits its answer as long as there is an exchange,
and has been answered, or has been given up, whenever there is none.

## Main definitions

* `TnsClient.lastSent` — the last request of a run.
* `TnsClient.Client.Awaits` — a request awaits its answer.

## Main results

* `TnsClient.Client.Transition.lastRequest` — what is kept is what was sent last.
* `TnsClient.Client.Transition.awaits` — in the course of an exchange this awaits its answer.
* `TnsClient.Client.Transition.remembers` — only a client that rests remembers no request.
* `TnsClient.Client.resend_iff` — exactly when a request is sent again that awaits no answer.
-/

namespace TnsClient

/-- The request sent last, once an action has been taken. With the end of the logon begins a new
count. -/
def Action.sent (last : Option Request) : Action → Option Request
  | send request => some request
  | established _ => none
  | _ => last

/-- The last request of a run, the logon left out once it is done. -/
def lastSent (moments : List Moment) : Option Request :=
  moments.foldl (fun last moment => moment.step.action.sent last) none

/-- A task in flight asks for this: for what it is about, or, where it is a statement, for rows. -/
inductive Task.Asks : Task → Request → Prop
  /-- The request that starts it. -/
  | start (task : Task) : Asks task task.request
  /-- A request for rows. -/
  | fetch (request : StatementRequest) (handle : Handle) (cursor : UInt16)
      (columns : Option (List Column)) :
    Asks (.statement request handle) (.fetch cursor request.options.arraySize columns)

namespace Client

/-- A request awaits its answer: it is the one that the negotiation or the logon is at, or the task
in flight asks for it. -/
inductive Awaits (client : Client) : Request → Prop
  /-- The listener has not answered. -/
  | connect (hphase : client.phase = .connecting) : Awaits client .connect
  /-- The server has not described itself. -/
  | protocol (hphase : client.phase = .protocolNegotiation) :
    Awaits client (.protocol client.capabilities)
  /-- The server has not described its data types. -/
  | dataTypes (hphase : client.phase = .dataTypeNegotiation) :
    Awaits client (.dataTypes client.capabilities)
  /-- The server has sent no challenge. -/
  | logonStart (hphase : client.phase = .authenticating .one) (hawaiting : client.awaiting = true) :
    Awaits client (.logonStart client.credentials)
  /-- The server has not accepted the proof. -/
  | logonProof {verifier : Verifier} (hphase : client.phase = .authenticating .two)
      (hawaiting : client.awaiting = true) (hverifier : client.verifier = some verifier) :
    Awaits client (.logonProof client.credentials verifier)
  /-- The server has not answered for the task in flight. -/
  | task {flight : InFlight} {request : Request} (hflight : client.inFlight = some flight)
      (hawaiting : client.awaiting = true) (hasks : flight.task.Asks request) :
    Awaits client request

/-- Nothing is exchanged: the client is ready, or the connection is over. -/
def Rests (client : Client) : Prop := client.phase = .ready ∨ client.phase.isOver = true

variable {client : Client}

/-! ## What is kept -/

lemma startNext_lastRequest (hflight : client.inFlight = none)
    (hphase : client.phase = .ready ∨ client.phase = .inFlight) :
    client.startNext.client.lastRequest = client.startNext.action.sent client.lastRequest := by
  rcases startNext_cases hflight hphase with ⟨-, hstep⟩ | ⟨task, -, hstep⟩ <;> rw [hstep] <;> rfl

lemma finish_lastRequest (hflight : client.inFlight = none) {flight : InFlight}
    (hphase : client.phase = flight.task.phase) :
    (client.finish flight).client.lastRequest =
      (client.finish flight).action.sent client.lastRequest := by
  rcases client.finish_cases flight with ⟨hinFlight, statements, cleanup, hstep⟩ | ⟨-, hstep⟩ <;>
    rw [hstep]
  · exact startNext_lastRequest hflight (.inr (hphase.trans hinFlight))
  · rfl

/-- **What is kept** is what was sent last. -/
theorem Transition.lastRequest {event : Event} {step : Step} (h : client.Transition event step)
    (hsound : client.Sound) :
    step.client.lastRequest = step.action.sent client.lastRequest := by
  cases h with
  | quiet _ halike haction => rcases haction with rfl | rfl <;> exact halike.lastRequest.symm
  | failed =>
    cases hover : client.phase.isOver
    · rw [fail_eq _ hover]
      rfl
    · rw [fail_of_over _ hover]
      rfl
  | lost =>
    by_cases hclosed : client.phase = .closed
    · rw [lost_of_closed hclosed]
      rfl
    · rw [lost_eq hclosed]
      rfl
  | served _ hphase hflight => exact startNext_lastRequest hflight (.inl hphase)
  | turned hflight hphase => exact startNext_lastRequest hflight hphase
  | finished hflight htask =>
    exact finish_lastRequest rfl (by rw [htask]; exact hsound.busy _ hflight)
  | _ => rfl

/-! ## What awaits its answer -/

/-- What a client awaits depends on its part in the exchange only. -/
lemma Awaits.congr {other : Client} {request : Request} (h : client.Awaits request)
    (hphase : client.phase = other.phase) (hcapabilities : client.capabilities = other.capabilities)
    (hcredentials : client.credentials = other.credentials)
    (hverifier : client.verifier = other.verifier) (hawaiting : client.awaiting = other.awaiting)
    (hflight : client.inFlight = other.inFlight) : other.Awaits request := by
  cases h with
  | connect h => exact .connect (hphase ▸ h)
  | protocol h => exact hcapabilities ▸ .protocol (hphase ▸ h)
  | dataTypes h => exact hcapabilities ▸ .dataTypes (hphase ▸ h)
  | logonStart h h' => exact hcredentials ▸ .logonStart (hphase ▸ h) (hawaiting ▸ h')
  | logonProof h h' hv =>
    exact hcredentials ▸ .logonProof (hphase ▸ h) (hawaiting ▸ h') (hverifier ▸ hv)
  | task h h' hasks => exact .task (hflight ▸ h) (hawaiting ▸ h') hasks

/-- With a task in flight, what the task asks for is awaited, and nothing else. -/
lemma Sound.awaits_iff (h : client.Sound) {flight : InFlight}
    (hflight : client.inFlight = some flight) {request : Request} :
    client.Awaits request ↔ flight.task.Asks request := by
  constructor
  · intro hawaits
    cases hawaits with
    | task hflight' hawaiting hasks =>
      rw [hflight] at hflight'
      exact Option.some.inj hflight' ▸ hasks
    | connect hphase | protocol hphase | dataTypes hphase | logonStart hphase
    | logonProof hphase =>
      rw [h.busy flight hflight] at hphase
      rcases flight.task.phase_cases with htask | htask <;> simp [htask] at hphase
  · exact fun hasks => .task hflight (h.phase_of_inFlight hflight).2.2 hasks

/-- A client that rests awaits nothing. -/
lemma Sound.not_awaits (h : client.Sound) (hrests : client.Rests) (request : Request) :
    ¬client.Awaits request := by
  have hflight : client.inFlight = none :=
    h.inFlight_eq_none (fun hphase => by simp [Rests, hphase, Phase.isOver] at hrests)
      fun hphase => by simp [Rests, hphase, Phase.isOver] at hrests
  intro hawaits
  cases hawaits with
  | task hflight' => simp [hflight] at hflight'
  | _ hphase => simp [Rests, hphase, Phase.isOver] at hrests

/-- What is kept awaits its answer unless the client rests. -/
def KeepsAwaited (client : Client) : Prop :=
  ∀ request, client.lastRequest = some request → client.Rests ∨ client.Awaits request

lemma startNext_keepsAwaited (hflight : client.inFlight = none)
    (hphase : client.phase = .ready ∨ client.phase = .inFlight) :
    client.startNext.client.KeepsAwaited := by
  rcases startNext_cases hflight hphase with ⟨-, hstep⟩ | ⟨task, -, hstep⟩ <;> rw [hstep]
  · exact fun _ _ => .inl (.inl rfl)
  · intro request hlast
    obtain rfl := Option.some.inj hlast
    exact .inr (.task rfl rfl (.start _))

lemma finish_keepsAwaited (hflight : client.inFlight = none) {flight : InFlight}
    (hphase : client.phase = flight.task.phase) :
    (client.finish flight).client.KeepsAwaited := by
  rcases client.finish_cases flight with ⟨hinFlight, statements, cleanup, hstep⟩ | ⟨-, hstep⟩ <;>
    rw [hstep]
  · exact startNext_keepsAwaited hflight (.inr (hphase.trans hinFlight))
  · exact fun _ _ => .inl (.inr rfl)

lemma SetupStep.keepsAwaited {other : Client} {request : Request}
    (h : client.SetupStep other request) : (other.send request).client.KeepsAwaited := by
  intro last hlast
  obtain rfl := Option.some.inj hlast
  right
  cases h with
  | connect hphase => exact .connect hphase
  | protocol => exact .protocol rfl
  | dataTypes => exact .dataTypes rfl
  | logonStart => exact .logonStart rfl rfl
  | logonProof => exact .logonProof rfl rfl rfl

/-- The rows that are fetched are those of the task in flight. -/
lemma asks_of_fetch? {flight : InFlight} {request : Request} (h : flight.fetch? = some request) :
    flight.task.Asks request := by
  obtain ⟨statement, handle, htask, rfl⟩ := fetch?_eq_some h
  rw [htask]
  exact .fetch statement handle _ _

/-- **In the course of an exchange** what is kept awaits its answer. -/
theorem Transition.awaits {event : Event} {step : Step} (h : client.Transition event step)
    (hsound : client.Sound) (hkeeps : client.KeepsAwaited) : step.client.KeepsAwaited := by
  have hafter := h.sound hsound
  cases h with
  | quiet _ halike =>
    intro request hlast
    refine (hkeeps request (halike.lastRequest.trans hlast)).imp (fun hrests => ?_) fun hawaits =>
      hawaits.congr halike.phase halike.capabilities halike.credentials halike.verifier
        halike.awaiting halike.inFlight
    rwa [Rests, halike.phase] at hrests
  | abandoned | joinedWaiting | waited | cancelled =>
    exact fun request hlast => (hkeeps request hlast).imp id fun hawaits =>
      hawaits.congr rfl rfl rfl rfl rfl rfl
  | resent | refused => exact hkeeps
  | setup _ hstep => exact hstep.keepsAwaited
  | established => exact fun _ _ => .inl (.inl rfl)
  | heard hflight htask =>
    intro request hlast
    refine (hkeeps request hlast).imp id fun hawaits => ?_
    rw [hafter.awaits_iff rfl, htask]
    exact (hsound.awaits_iff hflight).1 hawaits
  | failed =>
    cases hover : client.phase.isOver
    · rw [fail_eq _ hover]
      exact fun _ _ => .inl (.inr rfl)
    · exact fun _ _ => .inl (.inr (by rwa [fail_of_over _ hover]))
  | lost =>
    by_cases hclosed : client.phase = .closed
    · rw [lost_of_closed hclosed]
      exact fun _ _ => .inl (.inr (by simp [idle, hclosed, Phase.isOver]))
    · rw [lost_eq hclosed]
      exact fun _ _ => .inl (.inr rfl)
  | @joinedFlight handles others flight _ hflight htask =>
    intro request hlast
    refine (hkeeps request hlast).imp id fun hawaits => ?_
    rw [hafter.awaits_iff rfl]
    have hasks := (hsound.awaits_iff hflight).1 hawaits
    rw [htask] at hasks
    cases hasks
    exact .start (.ping (others ++ handles))
  | served _ hphase hflight => exact startNext_keepsAwaited hflight (.inl hphase)
  | turned hflight hphase => exact startNext_keepsAwaited hflight hphase
  | fetched hflight htask hends hfetch =>
    intro request hlast
    obtain rfl := Option.some.inj hlast
    have hasks := asks_of_fetch? hfetch
    exact .inr ((hafter.awaits_iff rfl).2 hasks)
  | finished hflight htask =>
    exact finish_keepsAwaited rfl (by rw [htask]; exact hsound.busy _ hflight)

/-! ## What is remembered -/

/-- Unless a client rests, it remembers a request. -/
def Remembers (client : Client) : Prop := client.Rests ∨ client.lastRequest.isSome = true

lemma startNext_remembers (hflight : client.inFlight = none)
    (hphase : client.phase = .ready ∨ client.phase = .inFlight) :
    client.startNext.client.Remembers := by
  rcases startNext_cases hflight hphase with ⟨-, hstep⟩ | ⟨task, -, hstep⟩ <;> rw [hstep]
  · exact .inl (.inl rfl)
  · exact .inr rfl

lemma finish_remembers (hflight : client.inFlight = none) {flight : InFlight}
    (hphase : client.phase = flight.task.phase) : (client.finish flight).client.Remembers := by
  rcases client.finish_cases flight with ⟨hinFlight, statements, cleanup, hstep⟩ | ⟨-, hstep⟩ <;>
    rw [hstep]
  · exact startNext_remembers hflight (.inr (hphase.trans hinFlight))
  · exact .inl (.inr rfl)

/-- **A request is remembered** as long as the client does not rest: only with the end of the logon
is it forgotten. -/
lemma Transition.remembers {event : Event} {step : Step} (h : client.Transition event step)
    (hsound : client.Sound) (hremembers : client.Remembers) : step.client.Remembers := by
  cases h with
  | quiet _ halike => rwa [Remembers, Rests, halike.phase, halike.lastRequest] at hremembers
  | abandoned | resent | heard | refused | joinedFlight | joinedWaiting | waited | cancelled =>
    exact hremembers
  | setup | fetched => exact .inr rfl
  | established => exact .inl (.inl rfl)
  | failed =>
    cases hover : client.phase.isOver
    · rw [fail_eq _ hover]
      exact .inl (.inr rfl)
    · rw [fail_of_over _ hover]
      exact .inl (.inr hover)
  | lost =>
    by_cases hclosed : client.phase = .closed
    · rw [lost_of_closed hclosed]
      exact .inl (.inr (by simp [idle, hclosed, Phase.isOver]))
    · rw [lost_eq hclosed]
      exact .inl (.inr rfl)
  | served _ hphase hflight => exact startNext_remembers hflight (.inl hphase)
  | turned hflight hphase => exact startNext_remembers hflight hphase
  | finished hflight htask =>
    exact finish_remembers rfl (by rw [htask]; exact hsound.busy _ hflight)

/-- Once the transport was opened, a request is remembered unless the client rests. -/
lemma remembers_after (credentials : Credentials) (random : RandomSource) (cacheSize : Nat)
    (events : List Event) :
    ((new credentials random cacheSize).after (.opened :: events)).Remembers := by
  induction events using List.reverseRecOn with
  | nil => exact .inr rfl
  | append_singleton events event ih =>
    have hsound := sound_after credentials random cacheSize (.opened :: events)
    rw [← List.cons_append, after_concat]
    exact (react_transition hsound.spare event).remembers hsound ih

/-! ## Runs -/

/-- What is kept in a run is the last request of the run, and it awaits its answer unless the client
rests. -/
lemma lastRequest_after (credentials : Credentials) (random : RandomSource) (cacheSize : Nat)
    (events : List Event) :
    ((new credentials random cacheSize).after events).lastRequest =
        lastSent ((new credentials random cacheSize).moments events) ∧
      ((new credentials random cacheSize).after events).KeepsAwaited := by
  induction events using List.reverseRecOn with
  | nil => exact ⟨rfl, fun request hlast => by simp [new] at hlast⟩
  | append_singleton events event ih =>
    have hsound := sound_after credentials random cacheSize events
    have htransition := react_transition hsound.spare event
    rw [after_concat]
    refine ⟨?_, htransition.awaits hsound ih.2⟩
    rw [htransition.lastRequest hsound, ih.1]
    simp [lastSent, moments_concat, List.foldl_append, Moment.step]

/-- **Exactly when a request is sent again that awaits no answer.** Whatever has befallen a new
client, let the server then ask for the last request again:

* what is sent again is the last request of the run, the logon left out once it is done, and if
  there is none nothing is sent again;
* it awaits no answer if, and only if, the client rests: it is ready, or the connection is over;
* a client that is ready and has sent nothing since the logon fails over a message that was not
  expected. -/
theorem resend_iff (credentials : Credentials) (random : RandomSource) (cacheSize : Nat)
    (events : List Event) :
    let moments := (new credentials random cacheSize).moments events
    let client := (new credentials random cacheSize).after events
    let step := client.react (.message .resend)
    (∀ request, step.action = .resend request ↔ lastSent moments = some request) ∧
      (∀ request, step.action = .resend request ∧ ¬client.Awaits request ↔
        lastSent moments = some request ∧ (client.phase = .ready ∨ client.phase.isOver = true)) ∧
      (client.phase = .ready → lastSent moments = none →
        step.action = .close (some (.unexpected .resend)) ∧ step.client.phase = .errored) := by
  intro moments client step
  have hsound : client.Sound := sound_after credentials random cacheSize events
  obtain ⟨hlast, hkeeps⟩ := lastRequest_after credentials random cacheSize events
  have hlast : client.lastRequest = lastSent moments := hlast
  have hresend : ∀ request, step.action = .resend request ↔ lastSent moments = some request := by
    intro request
    show client.resend.action = _ ↔ _
    rw [← hlast]
    unfold resend
    rcases client.lastRequest with _ | last
    · cases hover : client.phase.isOver
      · simp [unexpected, fail_eq _ hover]
      · simp [unexpected, fail_of_over _ hover, idle]
    · simp
  refine ⟨hresend, fun request => ?_, fun hready hnone => ?_⟩
  · rw [hresend]
    refine and_congr_right fun hsent =>
      ⟨fun hawaits => ?_, fun hrests => hsound.not_awaits hrests _⟩
    exact (hkeeps request (hlast.trans hsent)).resolve_right hawaits
  · show client.resend.action = _ ∧ client.resend.client.phase = _
    have hover : client.phase.isOver = false := by rw [hready]; rfl
    simp [resend, hlast, hnone, unexpected, fail_eq _ hover]

/-- A ping that has been answered is sent again, though the client is ready and nothing is in
flight. -/
theorem resend_answered_ping :
    let events := sampleLogon ++ [.submit (.ping [0]), .message (.status ⟨0, 0⟩)]
    let client := sample.after events
    ((sample.moments events).flatMap (fun moment => moment.step.resolved)).map Resolution.handle =
        [0] ∧
      client.phase = .ready ∧ client.inFlight = none ∧
      (client.react (.message .resend)).action = .resend .ping := by
  decide +kernel

end Client

end TnsClient
