import TnsClient.Proofs.Client.Invariant

set_option autoImplicit false

/-!
# One round trip at a time

From the request of a task to the end of its answer the client is occupied: a task is in flight, or
the connection is over. An occupied client sends no request, and only the end of an answer makes it
free again. So between two requests of tasks an answer has come to its end.

## Main definitions

* `TnsClient.Moment.asks`, `TnsClient.Moment.starts` — a request is sent for a task, and with it a
  task is started.
* `TnsClient.Moment.answers` — the end of an answer comes.
* `TnsClient.Client.Occupied` — a task is in flight, or the connection is over.

## Main results

* `TnsClient.Client.Transition.occupied` — a step keeps a client occupied and sends nothing, unless
  an answer has come to its end.
* `TnsClient.Client.answered_between` — between two requests of tasks an answer comes to its end.
-/

namespace TnsClient

/-- Whether a request starts a task. -/
def Request.startsTask : Request → Bool
  | .ping | .statement _ | .lob _ | .logoff => true
  | _ => false

/-- Whether a request is one for a task: it starts the task, or asks for more rows. -/
def Request.isTask : Request → Bool
  | .fetch .. => true
  | request => request.startsTask

/-- Whether an action sends a request for a task. -/
def Action.asksTask : Action → Bool
  | .send request => request.isTask
  | _ => false

/-- Whether an action sends a request that starts a task. -/
def Action.startsTask : Action → Bool
  | .send request => request.startsTask
  | _ => false

/-- Whether a request for a task is sent. -/
def Moment.asks (moment : Moment) : Bool := moment.step.action.asksTask

/-- Whether a request is sent that starts a task. -/
def Moment.starts (moment : Moment) : Bool := moment.step.action.startsTask

/-- Whether the end of an answer comes. -/
def Moment.answers (moment : Moment) : Bool :=
  match moment.event with
  | .message message => Client.endsAnswer moment.before.capabilities.endOfResponse message
  | _ => false

/-- The end of an answer comes with a message. -/
lemma Moment.message_of_answers {moment : Moment} (h : moment.answers = true) :
    ∃ message, moment.event = .message message ∧
      Client.endsAnswer moment.before.capabilities.endOfResponse message = true := by
  unfold answers at h
  split at h
  · next message hevent => exact ⟨message, hevent, h⟩
  · cases h

lemma Request.startsTask_begin (entry : Option CachedStatement) (task : Task) :
    (task.begin entry).task.request.startsTask = true := by
  cases task <;> rfl

namespace Client

variable {client : Client}

/-- The requests of the negotiation and of the logon are for no task. -/
lemma SetupStep.isTask {other : Client} {request : Request} (h : client.SetupStep other request) :
    request.isTask = false := by
  cases h <;> rfl

lemma SetupStep.startsTask {other : Client} {request : Request}
    (h : client.SetupStep other request) : request.startsTask = false := by
  cases h <;> rfl

/-- A request for more rows starts no task. -/
lemma startsTask_of_fetch? {flight : InFlight} {request : Request}
    (h : flight.fetch? = some request) : request.startsTask = false := by
  obtain ⟨-, -, -, rfl⟩ := fetch?_eq_some h
  rfl

/-- A task is in flight, or the connection is over. -/
def Occupied (client : Client) : Prop :=
  client.inFlight.isSome = true ∨ client.phase.isOver = true

/-- A client that logs on, or is ready and has nothing in flight, is not occupied. -/
lemma Occupied.absurd {phase : Phase} (h : client.Occupied) (hflight : client.inFlight = none)
    (hphase : client.phase = phase) (hover : phase.isOver = false) : False := by
  rcases h with h | h
  · simp [hflight] at h
  · simp [hphase, hover] at h

/-- **An occupied client** stays so and sends nothing for a task, unless the end of an answer
comes. -/
theorem Transition.occupied {event : Event} {step : Step} (h : client.Transition event step)
    (hsound : client.Sound) (hoccupied : client.Occupied)
    (hopen : ∀ message, event = .message message →
      endsAnswer client.capabilities.endOfResponse message = false) :
    step.client.Occupied ∧ ∀ request, step.action = .send request → request.isTask = false := by
  cases h with
  | quiet _ halike haction =>
    refine ⟨by rwa [Occupied, ← halike.inFlight, ← halike.phase], fun request hsend => ?_⟩
    rcases haction with rfl | rfl <;> cases hsend
  | abandoned | resent | refused | joinedWaiting | waited | cancelled =>
    exact ⟨hoccupied, fun request hsend => by cases hsend⟩
  | setup _ hstep =>
    obtain ⟨hflight, -, -, hover, -⟩ := hstep.frame hsound
    exact (hoccupied.absurd hflight rfl hover).elim
  | established hphase =>
    have hflight := hsound.inFlight_eq_none (by simp [hphase]) (by simp [hphase])
    exact (hoccupied.absurd hflight hphase rfl).elim
  | heard | joinedFlight => exact ⟨.inl rfl, fun request hsend => by cases hsend⟩
  | failed =>
    cases hover : client.phase.isOver
    · rw [fail_eq _ hover]
      exact ⟨.inr rfl, fun request hsend => by cases hsend⟩
    · rw [fail_of_over _ hover]
      exact ⟨hoccupied, fun request hsend => by cases hsend⟩
  | lost =>
    by_cases hclosed : client.phase = .closed
    · rw [lost_of_closed hclosed]
      exact ⟨hoccupied, fun request hsend => by cases hsend⟩
    · rw [lost_eq hclosed]
      exact ⟨.inr rfl, fun request hsend => by cases hsend⟩
  | served _ hphase hflight => exact (hoccupied.absurd hflight hphase rfl).elim
  | turned hflight hphase =>
    exact (hoccupied.absurd hflight (hsound.idle_of_turn hflight hphase).1 rfl).elim
  | fetched _ _ hends | finished _ _ hends => simp [hopen _ rfl] at hends

/-- A client that has started the next task is occupied. -/
lemma startNext_occupied (hflight : client.inFlight = none)
    (hphase : client.phase = .ready ∨ client.phase = .inFlight) {request : Request}
    (hsend : client.startNext.action = .send request) : client.startNext.client.Occupied := by
  rcases startNext_cases hflight hphase with ⟨-, hstep⟩ | ⟨task, -, hstep⟩
  · simp [hstep] at hsend
  · rw [hstep]
    exact .inl rfl

/-- **Sending a request for a task** leaves the client occupied. -/
theorem Transition.occupies {event : Event} {step : Step} (h : client.Transition event step)
    (hsound : client.Sound) {request : Request} (hsend : step.action = .send request)
    (htask : request.isTask = true) : step.client.Occupied := by
  cases h with
  | quiet _ _ haction => rcases haction with rfl | rfl <;> cases hsend
  | setup _ hstep =>
    obtain rfl := Action.send.inj hsend
    simp [hstep.isTask] at htask
  | failed =>
    cases hover : client.phase.isOver
    · rw [fail_eq _ hover] at hsend
      cases hsend
    · rw [fail_of_over _ hover] at hsend
      cases hsend
  | lost =>
    by_cases hclosed : client.phase = .closed
    · rw [lost_of_closed hclosed] at hsend
      cases hsend
    · rw [lost_eq hclosed] at hsend
      cases hsend
  | abandoned | resent | established | heard | refused | joinedFlight | joinedWaiting | waited
  | cancelled => cases hsend
  | served _ hphase hflight => exact startNext_occupied hflight (.inl hphase) hsend
  | turned hflight hphase => exact startNext_occupied hflight hphase hsend
  | fetched => exact .inl rfl
  | @finished _ flight flight' hflight htask =>
    have hphase : client.phase = flight'.task.phase := by rw [htask, hsound.busy flight hflight]
    rcases finish_cases { client with awaiting := false, inFlight := none } flight' with
      ⟨hinFlight, statements, cleanup, hstep⟩ | ⟨-, hstep⟩ <;> rw [hstep] at hsend ⊢
    · exact startNext_occupied rfl (.inr (hphase.trans hinFlight)) hsend
    · cases hsend

/-! ## Runs -/

/-- A client stays occupied as long as no answer comes to its end. -/
lemma Occupied.after (hsound : client.Sound) (hoccupied : client.Occupied) {events : List Event}
    (hopen : ∀ moment ∈ client.moments events, moment.answers = false) :
    (client.after events).Sound ∧ (client.after events).Occupied := by
  induction events generalizing client with
  | nil => exact ⟨hsound, hoccupied⟩
  | cons event events ih =>
    have htransition := react_transition hsound.spare event
    have hfirst := hopen ⟨client, event⟩ (List.mem_cons_self)
    have hnext := htransition.occupied hsound hoccupied fun message hevent => by
      simpa [Moment.answers, hevent] using hfirst
    exact ih (htransition.sound hsound) hnext.1 fun moment hmem =>
      hopen moment (List.mem_cons_of_mem _ hmem)

/-- **Between two requests of tasks** an answer comes to its end; it may be the end of an answer
that the second request is sent upon.

**Proof sketch.** The first request leaves the client occupied, and the second is not sent by an
occupied client unless it is sent upon the end of an answer. -/
theorem answered_between {credentials : Credentials} {random : RandomSource} {cacheSize : Nat}
    {events : List Event} {past between rest : List Moment} {first second : Moment}
    (h : (new credentials random cacheSize).moments events =
      past ++ first :: (between ++ second :: rest))
    (hfirst : first.asks = true) (hsecond : second.asks = true) :
    ∃ moment ∈ between ++ [second], moment.answers = true := by
  by_contra hnone
  have hopen : ∀ moment ∈ between ++ [second], moment.answers = false := by
    intro moment hmem
    simpa using fun hanswers => hnone ⟨moment, hmem, hanswers⟩
  have hasks : ∀ moment : Moment, moment.asks = true →
      ∃ request, moment.step.action = .send request ∧ request.isTask = true := by
    intro moment hasks
    unfold Moment.asks Action.asksTask at hasks
    split at hasks
    · next request hsend => exact ⟨request, hsend, hasks⟩
    · cases hasks
  obtain ⟨request, hsend, htask⟩ := hasks first hfirst
  obtain ⟨request', hsend', htask'⟩ := hasks second hsecond
  obtain ⟨hsound, htransition⟩ := transition_of_mem
    (h ▸ List.mem_append_right past List.mem_cons_self : first ∈ _)
  have hoccupied := htransition.occupies hsound hsend htask
  obtain ⟨-, later, -, -, -, hlater⟩ := moments_eq_append h
  obtain ⟨middle, -, -, hmiddle, hbefore, -⟩ := moments_eq_append hlater.symm
  obtain ⟨hsound', hoccupied'⟩ := hoccupied.after (htransition.sound hsound) fun moment hmem =>
    hopen moment (List.mem_append_left _ (hmiddle ▸ hmem))
  rw [← hbefore] at hsound' hoccupied'
  have hlast := hopen second (List.mem_append_right _ (List.mem_singleton_self _))
  have hquiet := (react_transition hsound'.spare second.event).occupied hsound' hoccupied'
    fun message hevent => by simpa [Moment.answers, hevent] using hlast
  simp [hquiet.2 request' hsend'] at htask'

end Client

end TnsClient
