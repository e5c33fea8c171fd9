import Mathlib.Data.List.Induction
import TnsClient.Proofs.Client.Conservation
import TnsClient.Proofs.Client.RoundTrip

set_option autoImplicit false

/-!
# The order of the logon

The setup of a connection has six milestones: five requests, and the moment at which the user is
logged on. The phase of a client counts the milestones behind it. Each milestone is passed in the
phase that counts those before it and leads to the next phase, so no run can leave one out or pass
one twice; and a phase in which tasks are served counts all six.

## Main definitions

* `TnsClient.Milestone` — the milestones; `TnsClient.Phase.progress` — how many a phase is behind.
* `TnsClient.Moment.Brings` — parameters come during a step of the logon.
* `TnsClient.Client.Progress` — what a client tells of the run that has led to it.

## Main results

* `TnsClient.Client.Transition.progress` — every kind of step passes the milestone that is next, or
  none.
* `TnsClient.Client.logon_in_order` — the milestones of a run, and what each of the last two needs.
-/

namespace TnsClient

/-! ## Milestones -/

/-- The milestones of the setup of a connection. -/
inductive Milestone where
  /-- A connection is asked for. -/
  | connect
  /-- The client names itself. -/
  | protocol
  /-- The client announces its data types. -/
  | dataTypes
  /-- The user is named. -/
  | logonStart
  /-- The password is proved. -/
  | logonProof
  /-- The user is logged on. -/
  | established
  deriving DecidableEq, Repr

/-- The milestones in their order. -/
def Milestone.all : List Milestone :=
  [connect, protocol, dataTypes, logonStart, logonProof, established]

/-- The milestone that is passed by sending a request. -/
def Request.milestone? : Request → Option Milestone
  | connect => some .connect
  | protocol _ => some .protocol
  | dataTypes _ => some .dataTypes
  | logonStart _ => some .logonStart
  | logonProof .. => some .logonProof
  | _ => none

/-- The milestone that is passed by an action. -/
def Action.milestone? : Action → Option Milestone
  | send request => request.milestone?
  | established _ => some .established
  | _ => none

/-- The milestone that is passed at a moment. -/
def Moment.milestone? (moment : Moment) : Option Milestone := moment.step.action.milestone?

namespace Phase

/-- The number of milestones that are behind a client, once it has asked for a connection. Of a
connection that is over this says nothing. -/
def progress : Phase → Nat
  | connecting => 1
  | protocolNegotiation => 2
  | dataTypeNegotiation => 3
  | authenticating .one => 4
  | authenticating .two => 5
  | _ => 6

/-- Whether tasks are served, the end of the session included. -/
def serves : Phase → Bool
  | ready | inFlight | closing => true
  | _ => false

/-- All milestones are behind a client that serves tasks. -/
lemma progress_of_serves {phase : Phase} (h : phase.serves = true) :
    phase.isOver = false ∧ phase.progress = Milestone.all.length := by
  cases phase <;> simp_all [serves, isOver, progress, Milestone.all]

end Phase

/-- Parameters come during a step of the logon. -/
def Moment.Brings (moment : Moment) (step : LogonStep) : Prop :=
  ∃ data, moment.event = .message (.authParameters data) ∧
    moment.before.phase = .authenticating step

/-- The phase of a task in flight is one in which tasks are served. -/
lemma Task.serves_phase (task : Task) : task.phase.serves = true := by
  cases task <;> rfl

/-- The request that starts a task is no milestone. -/
lemma Request.milestone?_of_isTask {request : Request} (h : request.isTask = true) :
    request.milestone? = none := by
  cases request <;> simp_all [isTask, startsTask, milestone?]

namespace Client

variable {client : Client}

/-! ## Steps -/

/-- A step passes no milestone and leaves as many behind it, unless it ends the connection; and
nothing is sent for a task unless tasks are served. -/
structure Stays (client : Client) (step : Step) : Prop where
  action : step.action.milestone? = none
  phase : step.client.phase.isOver = true ∨
    client.phase.isOver = false ∧ step.client.phase.progress = client.phase.progress
  asks : step.action.asksTask = true → client.phase.serves = true

/-- A step passes the milestone that is next. -/
def Advances (client : Client) (step : Step) : Prop :=
  client.phase.isOver = false ∧ step.client.phase.isOver = false ∧
    step.client.phase.progress = client.phase.progress + 1 ∧
      step.action.milestone? = Milestone.all[client.phase.progress]?

/-- A step that leaves the phase as it is and sends nothing passes no milestone. -/
lemma stays_of_phase {step : Step} (haction : step.action.milestone? = none)
    (hasks : step.action.asksTask = false) (hphase : step.client.phase = client.phase) :
    client.Stays step := by
  refine ⟨haction, ?_, by simp [hasks]⟩
  rw [hphase]
  cases hover : client.phase.isOver
  · exact .inr ⟨rfl, rfl⟩
  · exact .inl rfl

/-- A step that ends the connection and sends nothing passes no milestone. -/
lemma stays_of_over {step : Step} (haction : step.action.milestone? = none)
    (hasks : step.action.asksTask = false) (hover : step.client.phase.isOver = true) :
    client.Stays step :=
  ⟨haction, .inl hover, by simp [hasks]⟩

/-- Starting the next task is no milestone, and afterwards tasks are served. -/
lemma startNext_serves (hflight : client.inFlight = none)
    (hphase : client.phase = .ready ∨ client.phase = .inFlight) :
    client.startNext.action.milestone? = none ∧ client.startNext.client.phase.serves = true := by
  rcases startNext_cases hflight hphase with ⟨-, hstep⟩ | ⟨task, -, hstep⟩ <;> rw [hstep]
  · exact ⟨rfl, rfl⟩
  · have hisTask : (task.begin (client.entry task)).task.request.isTask = true := by
      cases task <;> rfl
    exact ⟨Request.milestone?_of_isTask hisTask, task.serves_phase⟩

lemma stays_of_serves {step : Step} (haction : step.action.milestone? = none)
    (hbefore : client.phase.serves = true) (hafter : step.client.phase.serves = true) :
    client.Stays step := by
  obtain ⟨hover, hprogress⟩ := Phase.progress_of_serves hbefore
  obtain ⟨-, hprogress'⟩ := Phase.progress_of_serves hafter
  exact ⟨haction, .inr ⟨hover, hprogress'.trans hprogress.symm⟩, fun _ => hbefore⟩

/-- The request that is due in the setup is the next milestone, unless it is the first. -/
lemma SetupStep.advances {other : Client} {request : Request} (h : client.SetupStep other request)
    (hlater : request ≠ .connect) : client.Advances (other.send request) := by
  cases h with
  | connect => exact absurd rfl hlater
  | protocol _ hphase | dataTypes _ hphase | logonStart hphase | logonProof _ _ hphase =>
    unfold Advances
    rw [hphase]
    exact ⟨rfl, rfl, rfl, rfl⟩

/-- The user is logged on: parameters have come during the second step of the logon, and the proof
of the server is accepted. -/
structure LogonDone (client : Client) (step : Step) : Prop where
  phase : client.phase = .authenticating .two
  seen : client.parametersSeen = true
  accepted : client.checkServer = .ok ()
  action : step.action = .established client.session
  ready : step.client.phase = .ready

/-- **Every kind of step** passes no milestone, or sends a request of the setup, or logs the user
on. -/
theorem Transition.passes {event : Event} {step : Step} (h : client.Transition event step)
    (hsound : client.Sound) :
    client.Stays step ∨
      (∃ other request, client.SetupStep other request ∧ (request = .connect → event = .opened) ∧
        step = other.send request) ∨
      client.LogonDone step := by
  cases h with
  | quiet _ halike haction =>
    refine .inl (stays_of_phase ?_ ?_ halike.phase.symm) <;> rcases haction with rfl | rfl <;> rfl
  | abandoned | resent | heard | refused | joinedFlight | joinedWaiting | waited | cancelled =>
    exact .inl (stays_of_phase rfl rfl rfl)
  | setup _ hstep hopened => exact .inr (.inl ⟨_, _, hstep, hopened, rfl⟩)
  | established hphase _ hseen hcheck => exact .inr (.inr ⟨hphase, hseen, hcheck, rfl, rfl⟩)
  | failed =>
    left
    cases hover : client.phase.isOver
    · rw [fail_eq _ hover]
      exact stays_of_over rfl rfl rfl
    · rw [fail_of_over _ hover]
      exact stays_of_over rfl rfl hover
  | lost =>
    left
    by_cases hclosed : client.phase = .closed
    · rw [lost_of_closed hclosed]
      exact stays_of_phase rfl rfl rfl
    · rw [lost_eq hclosed]
      exact stays_of_over rfl rfl rfl
  | @served task _ hphase hflight =>
    have hserves : client.phase.serves = true := by rw [hphase]; rfl
    let waiting : Client := { client with queue := (client.queue.push task).2 }
    have hnext := @startNext_serves waiting hflight (.inl hphase)
    exact .inl (stays_of_serves hnext.1 hserves hnext.2)
  | turned hflight hphase =>
    have hserves : client.phase.serves = true := by
      rw [(hsound.idle_of_turn hflight hphase).1]
      rfl
    have hnext := startNext_serves hflight hphase
    exact .inl (stays_of_serves hnext.1 hserves hnext.2)
  | fetched hflight _ _ hfetch =>
    obtain ⟨statement, handle, -, rfl⟩ := fetch?_eq_some hfetch
    have hserves : client.phase.serves = true := by
      rw [hsound.busy _ hflight]
      exact Task.serves_phase _
    exact .inl (stays_of_serves rfl hserves hserves)
  | @finished _ flight flight' hflight htask =>
    left
    have hphase : client.phase = flight'.task.phase := by rw [htask, hsound.busy flight hflight]
    have hserves : client.phase.serves = true := hphase ▸ flight'.task.serves_phase
    rcases finish_cases { client with awaiting := false, inFlight := none } flight' with
      ⟨hinFlight, statements, cleanup, hstep⟩ | ⟨-, hstep⟩ <;> rw [hstep]
    · let settled : Client :=
        { client with awaiting := false, inFlight := none, statements, cleanup }
      have hnext := @startNext_serves settled rfl (.inr (hphase.trans hinFlight))
      exact stays_of_serves hnext.1 hserves hnext.2
    · exact stays_of_over rfl rfl rfl

/-- So it passes the milestone that is next, or none. The first milestone is left to the opening of
the transport. -/
lemma Transition.progress {event : Event} {step : Step} (h : client.Transition event step)
    (hsound : client.Sound) (hevent : event ≠ .opened) :
    client.Stays step ∨ client.Advances step := by
  rcases h.passes hsound with hstays | ⟨other, request, hstep, hopened, rfl⟩ | hdone
  · exact .inl hstays
  · exact .inr (hstep.advances fun hconnect => hevent (hopened hconnect))
  · right
    unfold Advances
    rw [hdone.phase, hdone.action, hdone.ready]
    exact ⟨rfl, rfl, rfl, rfl⟩

/-- The proof of the password is sent upon the first step of the logon, and it could be computed. -/
lemma Transition.logonProof {event : Event} {step : Step} (h : client.Transition event step)
    (hsound : client.Sound) {sender : Credentials} {verifier : Verifier}
    (hsent : step.action = .send (.logonProof sender verifier)) :
    sender = client.credentials ∧ client.phase = .authenticating .one ∧
      client.parametersSeen = true ∧ ∃ random, Verifier.generate client.primitives
        client.credentials client.session client.random = (.ok verifier, random) := by
  rcases h.passes hsound with ⟨hnone, -, -⟩ | ⟨other, request, hstep, -, rfl⟩ | hdone
  · rw [hsent] at hnone
    cases hnone
  · cases hstep with
    | logonProof verifier random hphase _ hseen hverifier =>
      obtain ⟨rfl, rfl⟩ := Request.logonProof.inj (Action.send.inj hsent)
      exact ⟨rfl, hphase, hseen, random, hverifier⟩
    | _ => cases hsent
  · rw [hdone.action] at hsent
    cases hsent

/-- That the user is logged on is said upon the second step of the logon only. -/
lemma Transition.logonDone {event : Event} {step : Step} (h : client.Transition event step)
    (hsound : client.Sound) {session : SessionData} (haction : step.action = .established session) :
    client.LogonDone step := by
  rcases h.passes hsound with ⟨hnone, -, -⟩ | ⟨other, request, -, -, rfl⟩ | hdone
  · rw [haction] at hnone
    cases hnone
  · cases haction
  · exact hdone

/-- A request for a task is sent by a client that serves tasks. -/
lemma Transition.serves_of_asks {event : Event} {step : Step} (h : client.Transition event step)
    (hsound : client.Sound) (hasks : step.action.asksTask = true) : client.phase.serves = true := by
  rcases h.passes hsound with hstays | ⟨other, request, hstep, -, rfl⟩ | hdone
  · exact hstays.asks hasks
  · have hnone : request.isTask = true := hasks
    rw [hstep.isTask] at hnone
    cases hnone
  · rw [hdone.action] at hasks
    cases hasks

/-- A client goes on with a step of the logon: it holds on to the verifier, and notes parameters
only when they come. -/
structure GoesOn (client : Client) (event : Event) (other : Client) : Prop where
  phase : client.phase = other.phase
  verifier : client.verifier = other.verifier
  seen : other.parametersSeen = true →
    client.parametersSeen = true ∨ ∃ data, event = .message (.authParameters data)

/-- A client begins a step of the logon: there are no parameters yet, and the second step begins
with a proof, whose verifier the client keeps. -/
structure Begins (client : Client) (step : Step) : Prop where
  unseen : step.client.parametersSeen = false
  proof : step.client.phase = .authenticating .two → ∃ verifier,
    step.client.verifier = some verifier ∧
      step.action = .send (.logonProof client.credentials verifier)

/-- **A client that logs on** goes on with a step of the logon or begins one. -/
theorem Transition.logsOn {event : Event} {step : Step} (h : client.Transition event step)
    (hsound : client.Sound) (hlogon : step.client.phase.isLogon = true) :
    client.GoesOn event step.client ∨ client.Begins step := by
  -- starting a task leads out of the logon
  have hnext : ∀ {other : Client}, other.inFlight = none →
      (other.phase = .ready ∨ other.phase = .inFlight) →
        other.startNext.client.phase.isLogon ≠ true := by
    intro other hflight hready
    have hserves := (startNext_serves hflight hready).2
    generalize other.startNext.client.phase = phase at hserves
    cases phase <;> simp_all [Phase.serves, Phase.isLogon]
  cases h with
  | quiet _ halike _ hparameters =>
    refine .inl ⟨halike.phase, halike.verifier, fun hseen => (hparameters hseen).imp_right ?_⟩
    rintro ⟨data, hevent, -⟩
    exact ⟨data, hevent⟩
  | abandoned | resent | heard | refused | joinedFlight | joinedWaiting | waited | cancelled
  | fetched => exact .inl ⟨rfl, rfl, .inl⟩
  | setup _ hstep =>
    cases hstep with
    | connect => exact .inl ⟨rfl, rfl, .inl⟩
    | protocol | dataTypes => cases hlogon
    | logonStart => exact .inr ⟨rfl, fun hphase => by cases hphase⟩
    | logonProof verifier => exact .inr ⟨rfl, fun _ => ⟨verifier, rfl, rfl⟩⟩
  | established => cases hlogon
  | failed =>
    cases hover : client.phase.isOver
    · rw [fail_eq _ hover] at hlogon
      cases hlogon
    · rw [fail_of_over _ hover]
      exact .inl ⟨rfl, rfl, .inl⟩
  | lost =>
    by_cases hclosed : client.phase = .closed
    · rw [lost_of_closed hclosed]
      exact .inl ⟨rfl, rfl, .inl⟩
    · rw [lost_eq hclosed] at hlogon
      cases hlogon
  | served _ hready hflight => exact absurd hlogon (hnext hflight (.inl hready))
  | turned hflight hready => exact absurd hlogon (hnext hflight hready)
  | @finished _ flight flight' hflight htask =>
    have hbusy : client.phase = flight'.task.phase := by rw [htask, hsound.busy flight hflight]
    rcases finish_cases { client with awaiting := false, inFlight := none } flight' with
      ⟨hinFlight, statements, cleanup, hstep⟩ | ⟨-, hstep⟩ <;> rw [hstep] at hlogon
    · exact absurd hlogon (hnext rfl (.inr (hbusy.trans hinFlight)))
    · cases hlogon

/-- Who logs on, and with what, never changes. -/
lemma Transition.fixed {event : Event} {step : Step} (h : client.Transition event step)
    (hsound : client.Sound) :
    step.client.primitives = client.primitives ∧ step.client.credentials = client.credentials := by
  have hnext : ∀ {other : Client}, other.inFlight = none →
      (other.phase = .ready ∨ other.phase = .inFlight) →
        other.startNext.client.primitives = other.primitives ∧
          other.startNext.client.credentials = other.credentials := by
    intro other hflight hready
    rcases startNext_cases hflight hready with ⟨-, hstep⟩ | ⟨task, -, hstep⟩ <;> rw [hstep] <;>
      exact ⟨rfl, rfl⟩
  cases h with
  | quiet _ halike => exact ⟨halike.primitives.symm, halike.credentials.symm⟩
  | setup _ hstep => cases hstep <;> exact ⟨rfl, rfl⟩
  | failed =>
    cases hover : client.phase.isOver
    · rw [fail_eq _ hover]
      exact ⟨rfl, rfl⟩
    · rw [fail_of_over _ hover]
      exact ⟨rfl, rfl⟩
  | lost =>
    by_cases hclosed : client.phase = .closed
    · rw [lost_of_closed hclosed]
      exact ⟨rfl, rfl⟩
    · rw [lost_eq hclosed]
      exact ⟨rfl, rfl⟩
  | served _ hready hflight => exact hnext hflight (.inl hready)
  | turned hflight hready => exact hnext hflight hready
  | @finished _ flight flight' hflight htask =>
    have hbusy : client.phase = flight'.task.phase := by rw [htask, hsound.busy flight hflight]
    rcases finish_cases { client with awaiting := false, inFlight := none } flight' with
      ⟨hinFlight, statements, cleanup, hstep⟩ | ⟨-, hstep⟩ <;> rw [hstep]
    · exact hnext rfl (.inr (hbusy.trans hinFlight))
    · exact ⟨rfl, rfl⟩
  | _ => exact ⟨rfl, rfl⟩

/-! ## Runs -/

/-- What a client tells of the moments that have led to it. -/
structure Progress (credentials : Credentials) (moments : List Moment) (client : Client) :
    Prop where
  standard : client.primitives = Primitives.standard
  sender : client.credentials = credentials
  /-- The milestones behind it are the first ones, in their order. -/
  ordered : moments.filterMap Moment.milestone? <+: Milestone.all
  /-- Their number is the one its phase counts. -/
  counted : client.phase.isOver = false →
    moments.filterMap Moment.milestone? = Milestone.all.take client.phase.progress
  /-- Parameters that it has noted have come during this step of the logon. -/
  seen : ∀ step, client.phase = .authenticating step → client.parametersSeen = true →
    ∃ moment ∈ moments, moment.Brings step
  /-- In the second step it holds the verifier whose proof was sent. -/
  proved : client.phase = .authenticating .two → ∃ verifier, client.verifier = some verifier ∧
    ∃ moment ∈ moments, moment.step.action = .send (.logonProof credentials verifier)

lemma milestones_concat (moments : List Moment) (moment : Moment) :
    (moments ++ [moment]).filterMap Moment.milestone? =
      moments.filterMap Moment.milestone? ++ moment.milestone?.toList := by
  rw [List.filterMap_append]
  rcases hmilestone : moment.milestone? with _ | milestone <;> simp [hmilestone]

/-- What a client tells of a run is true of the run that is one moment longer. -/
lemma Progress.next {credentials : Credentials} {moments : List Moment} {moment : Moment}
    (h : Progress credentials moments moment.before) (hsound : moment.before.Sound)
    (hevent : moment.event ≠ .opened) :
    Progress credentials (moments ++ [moment]) moment.step.client := by
  have htransition : moment.before.Transition moment.event moment.step :=
    react_transition hsound.spare moment.event
  obtain ⟨hprimitives, hcredentials⟩ := htransition.fixed hsound
  have hlogsOn := htransition.logsOn hsound
  have hmilestones := milestones_concat moments moment
  have hmem : ∀ earlier ∈ moments, earlier ∈ moments ++ [moment] :=
    fun _ => List.mem_append_left _
  have hnow : moment ∈ moments ++ [moment] := List.mem_append_right _ (List.mem_singleton_self _)
  have hstays : moment.milestone? = none →
      (moments ++ [moment]).filterMap Moment.milestone? = moments.filterMap Moment.milestone? := by
    intro hnone
    rw [hmilestones, hnone, Option.toList_none, List.append_nil]
  have hadvances : moment.before.Advances moment.step →
      (moments ++ [moment]).filterMap Moment.milestone? =
        Milestone.all.take moment.step.client.phase.progress := by
    rintro ⟨hover, -, hprogress, hnext⟩
    rw [hmilestones, Moment.milestone?, h.counted hover, hnext, hprogress, List.take_add_one]
  refine ⟨hprimitives.trans h.standard, hcredentials.trans h.sender, ?_, ?_, ?_, ?_⟩
  · rcases htransition.progress hsound hevent with ⟨hnone, -, -⟩ | hnext
    · rw [hstays hnone]
      exact h.ordered
    · rw [hadvances hnext]
      exact List.take_prefix _ _
  · intro hover
    rcases htransition.progress hsound hevent with ⟨hnone, hphase, -⟩ | hnext
    · obtain ⟨hover', hprogress⟩ := hphase.resolve_left (by simp [hover])
      rw [hstays hnone, hprogress]
      exact h.counted hover'
    · exact hadvances hnext
  · intro step hphase hseen
    rcases hlogsOn (by rw [hphase]; rfl) with hgoes | hbegins
    · rcases hgoes.seen hseen with hseen | ⟨data, hdata⟩
      · obtain ⟨earlier, hearlier, hbrings⟩ := h.seen step (hgoes.phase.trans hphase) hseen
        exact ⟨earlier, hmem earlier hearlier, hbrings⟩
      · exact ⟨moment, hnow, data, hdata, hgoes.phase.trans hphase⟩
    · rw [hbegins.unseen] at hseen
      cases hseen
  · intro hphase
    rcases hlogsOn (by rw [hphase]; rfl) with hgoes | hbegins
    · obtain ⟨verifier, hverifier, earlier, hearlier, hsent⟩ :=
        h.proved (hgoes.phase.trans hphase)
      exact ⟨verifier, hgoes.verifier ▸ hverifier, earlier, hmem earlier hearlier, hsent⟩
    · obtain ⟨verifier, hverifier, hsent⟩ := hbegins.proof hphase
      exact ⟨verifier, hverifier, moment, hnow, h.sender ▸ hsent⟩

/-- A new client that has asked for a connection has the first milestone behind it. -/
lemma progress_opened (credentials : Credentials) (random : RandomSource) (cacheSize : Nat) :
    Progress credentials ((new credentials random cacheSize).moments [.opened])
      ((new credentials random cacheSize).after [.opened]) where
  standard := rfl
  sender := rfl
  ordered := ⟨_, rfl⟩
  counted _ := rfl
  seen _ hphase := by cases hphase
  proved hphase := by cases hphase

/-- **A run tells** by its client which milestones are behind it. -/
lemma progress_after (credentials : Credentials) (random : RandomSource) (cacheSize : Nat)
    {events : List Event} (honce : Event.opened ∉ events) :
    Progress credentials ((new credentials random cacheSize).moments (.opened :: events))
      ((new credentials random cacheSize).after (.opened :: events)) := by
  induction events using List.reverseRecOn with
  | nil => exact progress_opened credentials random cacheSize
  | append_singleton events event ih =>
    simp only [List.mem_append, List.mem_singleton, not_or] at honce
    obtain ⟨hevents, hevent⟩ := honce
    rw [← List.cons_append, moments_concat, after_concat]
    have hsound := sound_after credentials random cacheSize (.opened :: events)
    let moment : Moment := ⟨(new credentials random cacheSize).after (.opened :: events), event⟩
    have hnext : Progress credentials (_ ++ [moment]) moment.step.client :=
      (ih hevents).next hsound (Ne.symm hevent)
    exact hnext

/-- A client that serves tasks has been logged on before. -/
lemma Progress.established {credentials : Credentials} {moments : List Moment}
    (h : Progress credentials moments client) (hserves : client.phase.serves = true) :
    ∃ moment ∈ moments, ∃ session, moment.step.action = .established session := by
  obtain ⟨hover, hprogress⟩ := Phase.progress_of_serves hserves
  have hmilestones := h.counted hover
  rw [hprogress, List.take_length] at hmilestones
  have hmem : Milestone.established ∈ moments.filterMap Moment.milestone? := by
    rw [hmilestones]
    decide
  obtain ⟨moment, hmoment, hestablished⟩ := List.mem_filterMap.1 hmem
  refine ⟨moment, hmoment, ?_⟩
  unfold Moment.milestone? at hestablished
  cases haction : moment.step.action with
  | established session => exact ⟨session, rfl⟩
  | send request =>
    rw [haction] at hestablished
    cases request <;> cases hestablished
  | _ =>
    rw [haction] at hestablished
    cases hestablished

/-- **The logon takes its steps in order, and nothing is served before it is done.** Let the
transport of a new client be opened once, and let anything else befall it, in any order:

* the milestones that it passes are the first ones of all six, each once and in their order;
* the proof of the password is sent only after parameters have come during the first step of the
  logon, and it is the one that is computed from what the server has sent so far;
* the user is logged on only after parameters have come during the second step of the logon, and the
  verifier whose proof was sent accepts what the server has sent so far;
* no request for a task is sent before the user is logged on, and in no phase before that tasks are
  served. -/
theorem logon_in_order (credentials : Credentials) (random : RandomSource) (cacheSize : Nat)
    {events : List Event} (honce : Event.opened ∉ events) :
    let moments := (new credentials random cacheSize).moments (.opened :: events)
    (moments.filterMap Moment.milestone? <+: Milestone.all) ∧
    (∀ past moment rest sender verifier, moments = past ++ moment :: rest →
      moment.step.action = .send (.logonProof sender verifier) →
        sender = credentials ∧ (∃ earlier ∈ past, earlier.Brings .one) ∧
        ∃ random, Verifier.generate Primitives.standard credentials moment.before.session
          moment.before.random = (.ok verifier, random)) ∧
    (∀ past moment rest session, moments = past ++ moment :: rest →
      moment.step.action = .established session →
        session = moment.before.session ∧ (∃ earlier ∈ past, earlier.Brings .two) ∧
        ∃ proof ∈ past, ∃ verifier, proof.step.action = .send (.logonProof credentials verifier) ∧
          verifier.check Primitives.standard session = .ok ()) ∧
    (∀ past moment rest, moments = past ++ moment :: rest →
      (moment.asks = true ∨ moment.before.phase.serves = true →
        ∃ earlier ∈ past, ∃ session, earlier.step.action = .established session) ∧
      (moment.step.client.phase.serves = true →
        ∃ earlier ∈ past ++ [moment], ∃ session, earlier.step.action = .established session)) := by
  intro moments
  -- every moment but the first is a step of a client that tells of the moments before it
  have hmoment : ∀ {past moment rest}, moments = past ++ moment :: rest →
      (past = [] ∧ moment = ⟨new credentials random cacheSize, .opened⟩) ∨
      (Progress credentials past moment.before ∧ moment.before.Sound ∧
        moment.before.Transition moment.event moment.step ∧ moment.event ≠ .opened) := by
    intro past moment rest hsplit
    rcases past with _ | ⟨first, past⟩
    · obtain ⟨rfl, -⟩ := List.cons.inj hsplit
      exact .inl ⟨rfl, rfl⟩
    · obtain ⟨earlier, later, hevents, hpast, hbefore, -⟩ := moments_eq_append hsplit
      rcases earlier with _ | ⟨event, earlier⟩
      · cases hpast
      · obtain ⟨rfl, htail⟩ := List.cons.inj hevents
        have hparts : Event.opened ∉ earlier ++ moment.event :: later := by
          intro hmem
          exact honce (by rw [htail]; exact hmem)
        simp only [List.mem_append, List.mem_cons, not_or] at hparts
        obtain ⟨hearlier, hevent, -⟩ := hparts
        have hsound : moment.before.Sound :=
          hbefore ▸ sound_after credentials random cacheSize (.opened :: earlier)
        refine .inr ⟨?_, hsound, react_transition hsound.spare moment.event, Ne.symm hevent⟩
        rw [hpast, hbefore]
        exact progress_after credentials random cacheSize hearlier
  refine ⟨(progress_after credentials random cacheSize honce).ordered, ?_, ?_, ?_⟩
  · intro past moment rest sender verifier hsplit hsent
    rcases hmoment hsplit with ⟨-, rfl⟩ | ⟨hprogress, hsound, htransition, -⟩
    · cases hsent
    · obtain ⟨hsender, hphase, hseen, hverifier⟩ := htransition.logonProof hsound hsent
      rw [hprogress.standard, hprogress.sender] at hverifier
      exact ⟨hsender.trans hprogress.sender, hprogress.seen .one hphase hseen, hverifier⟩
  · intro past moment rest session hsplit haction
    rcases hmoment hsplit with ⟨-, rfl⟩ | ⟨hprogress, hsound, htransition, -⟩
    · cases haction
    · have hdone := htransition.logonDone hsound haction
      obtain rfl : session = moment.before.session :=
        Action.established.inj (haction.symm.trans hdone.action)
      obtain ⟨verifier, hverifier, proof, hproof, hsent⟩ := hprogress.proved hdone.phase
      have haccepted := hdone.accepted
      rw [checkServer, hverifier, hprogress.standard] at haccepted
      exact ⟨rfl, hprogress.seen .two hdone.phase hdone.seen, proof, hproof, verifier, hsent,
        haccepted⟩
  · intro past moment rest hsplit
    rcases hmoment hsplit with ⟨-, rfl⟩ | ⟨hprogress, hsound, htransition, hevent⟩
    · refine ⟨?_, fun hserves => by cases hserves⟩
      rintro (hasks | hserves)
      · cases hasks
      · cases hserves
    · refine ⟨?_, (hprogress.next hsound hevent).established⟩
      rintro (hasks | hserves)
      · exact hprogress.established (htransition.serves_of_asks hsound hasks)
      · exact hprogress.established hserves

/-- A logon that succeeds passes all milestones. -/
theorem logon_in_order_sample :
    Event.opened ∉ sampleLogon.tail ∧
      (sample.moments (.opened :: sampleLogon.tail)).filterMap Moment.milestone? =
        Milestone.all ∧
      (sample.moments (.opened :: sampleLogon.tail)).filterMap Moment.milestone? <+:
        Milestone.all := by
  have honce : Event.opened ∉ sampleLogon.tail := by simp [sampleLogon]
  exact ⟨honce, by decide +kernel, (logon_in_order _ _ _ honce).1⟩

end Client

end TnsClient
