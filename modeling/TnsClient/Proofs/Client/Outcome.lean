import Mathlib.Data.List.Induction
import TnsClient.Proofs.Cache.Contents
import TnsClient.Proofs.Client.Conservation
import TnsClient.Proofs.Client.RoundTrip

set_option autoImplicit false

/-!
# What an outcome depends on

A task in flight listens to the messages of its answer and to nothing else. So its outcome can be
computed beside the client, from what the task asks for, from the cursor that was kept for its text
when it was started, from whether ends of answers are marked, and from the messages.

## Main definitions

* `TnsClient.InFlight.listen` — what a message comes to for a task in flight.
* `TnsClient.Task.reply` — what some messages come to for a task.
* `TnsClient.Moment.Starts` — a task is started.

## Main results

* `TnsClient.Client.handle_eq_complete` — what the end of an answer comes to, in one equation.
* `TnsClient.Client.handle_hears` — a client with a task in flight lets it listen.
* `TnsClient.Client.listens_between` — a task in flight has listened since it was started.
* `TnsClient.Client.outcome_eq_reply` — the outcome of a task is its reply.
-/

namespace TnsClient

/-! ## Listening -/

/-- A task without its callers: what it asks for. -/
def Task.unclaimed : Task → Task
  | .ping _ => .ping []
  | .statement request _ => .statement request 0
  | .lob request _ => .lob request 0
  | .close _ => .close 0

/-- A task with its callers, of which a ping may get more. -/
inductive Task.Extends : Task → Task → Prop
  /-- No callers were added. -/
  | refl (task : Task) : Extends task task
  /-- A ping was joined by others. -/
  | ping (handles more : List Handle) : Extends (.ping handles) (.ping (handles ++ more))

namespace InFlight

/-- A task in flight without its callers. -/
def unclaimed (flight : InFlight) : InFlight := { flight with task := flight.task.unclaimed }

/-- What a message comes to for a task in flight: the outcome if it is done, and else the task in
flight as it goes on. At the end of an answer it goes on if there are more rows to fetch. -/
def listen (marked : Bool) (flight : InFlight) (message : ServerMessage) :
    Except Outcome InFlight :=
  let flight := flight.hear message
  if Client.endsAnswer marked message then
    match flight.fetch? with
    | some _ => .ok { flight with moreRows := false }
    | none => .error flight.outcome
  else .ok flight

end InFlight

/-- What some messages come to for a task, where it is given whether ends of answers are marked, and
which cursor is kept for the text of the task. -/
def Task.reply (task : Task) (marked : Bool) (entry : Option CachedStatement)
    (messages : List ServerMessage) : Except Outcome InFlight :=
  messages.foldlM (InFlight.listen marked) (task.unclaimed.begin entry)

/-- The message of an event. -/
def Event.message? : Event → Option ServerMessage
  | .message heard => some heard
  | _ => none

/-- The messages of some moments. -/
def messagesOf (moments : List Moment) : List ServerMessage :=
  moments.filterMap fun moment => moment.event.message?

/-- A task is started: its request is sent, and it is in flight with the cursor that is kept for its
text. Looking for this cursor has not changed which one is kept. -/
def Moment.Starts (moment : Moment) (task : Task) : Prop :=
  let flight := task.begin (moment.step.client.entry task)
  moment.step.action = .send flight.task.request ∧ moment.step.client.inFlight = some flight

/-- A task in flight gets its reply at the end of an answer: either more rows are fetched, and
nobody learns anything, or its callers learn the outcome. Whoever else learns anything then learns
that the connection is closed. -/
def Moment.Gets (moment : Moment) (flight : InFlight) : Except Outcome InFlight → Prop
  | .ok _ => moment.step.resolved = []
  | .error outcome => ∃ others, moment.step.resolved = flight.task.resolve outcome ++ others ∧
      ∀ other ∈ others, other.outcome = .error .closed

lemma Task.Extends.trans {one two three : Task} (h : one.Extends two) (h' : two.Extends three) :
    one.Extends three := by
  cases h with
  | refl => exact h'
  | ping handles more =>
    cases h' with
    | refl => exact .ping handles more
    | ping _ more' => exact List.append_assoc handles more more' ▸ .ping handles (more ++ more')

lemma Task.begin_unclaimed (entry : Option CachedStatement) (task : Task) :
    task.unclaimed.begin entry = (task.begin entry).unclaimed := by
  cases task <;> rfl

namespace InFlight

variable {flight : InFlight} {marked : Bool} {message : ServerMessage}

/-- What a message brings does not depend on who waits. -/
lemma hear_unclaimed (flight : InFlight) (message : ServerMessage) :
    flight.unclaimed.hear message = (flight.hear message).unclaimed := by
  cases message with
  | error block =>
    show flight.unclaimed.record block = (flight.record block).unclaimed
    rcases flight with ⟨task, _, _, _, _, _⟩
    unfold record
    dsimp only
    cases task <;> split_ifs <;> rfl
  | _ => rfl

lemma fetch?_unclaimed (flight : InFlight) : flight.unclaimed.fetch? = flight.fetch? := by
  rcases flight with ⟨task, _, _, _, _ | _, _⟩ <;> cases task <;> rfl

lemma outcome_unclaimed (flight : InFlight) : flight.unclaimed.outcome = flight.outcome := by
  rcases flight with ⟨task, _, _, _, _ | _, _⟩ <;> cases task <;> rfl

/-- **Listening** does not depend on who waits. -/
lemma listen_unclaimed (marked : Bool) (flight : InFlight) (message : ServerMessage) :
    flight.unclaimed.listen marked message = (flight.listen marked message).map unclaimed := by
  simp only [listen, hear_unclaimed, fetch?_unclaimed, outcome_unclaimed]
  split
  · split <;> rfl
  · rfl

/-- A task that goes on is the same task. -/
lemma listen_task {flight' : InFlight} (h : flight.listen marked message = .ok flight') :
    flight'.task = flight.task := by
  simp only [listen] at h
  split at h
  · split at h
    · cases h
      exact hear_task flight message
    · cases h
  · cases h
    exact hear_task flight message

/-- A message that brings nothing and ends nothing. -/
lemma listen_of_open (hends : Client.endsAnswer marked message = false) :
    flight.listen marked message = .ok (flight.hear message) := by
  simp [listen, hends]

end InFlight

namespace Client

/-! ## A client lets its task listen -/

/-- What a message comes to for a client with a task in flight: the connection fails, or the task
goes on, or it is done. -/
inductive Hears (client : Client) (flight : InFlight) (message : ServerMessage) : Step → Prop
  /-- The message was not expected. -/
  | fails (error : ClientError)
      (hopen : endsAnswer client.capabilities.endOfResponse message = false) :
    Hears client flight message (client.fail error)
  /-- The task goes on. -/
  | goesOn {step : Step} {flight' : InFlight}
      (hlisten : flight.listen client.capabilities.endOfResponse message = .ok flight')
      (hflight : step.client.inFlight = some flight')
      (hcapabilities : step.client.capabilities = client.capabilities)
      (hresolved : step.resolved = []) :
    Hears client flight message step
  /-- The task is done, and its callers learn the outcome. -/
  | ends {step : Step} {outcome : Outcome} {others : List Resolution}
      (hlisten : flight.listen client.capabilities.endOfResponse message = .error outcome)
      (hresolved : step.resolved = flight.task.resolve outcome ++ others)
      (hothers : ∀ other ∈ others, other.outcome = .error .closed)
      (hnext : ∀ flight', step.client.inFlight = some flight' →
        ∃ request, step.action = .send request ∧ request.startsTask = true) :
    Hears client flight message step

variable {client : Client}

/-- Starting the next task resolves those that are passed over. -/
lemma startNext_closed (hflight : client.inFlight = none)
    (hphase : client.phase = .ready ∨ client.phase = .inFlight) :
    ∀ other ∈ client.startNext.resolved, other.outcome = .error .closed := by
  rw [(startNext_front hflight hphase).2]
  exact fun other => Task.outcome_of_mem_fail

/-- If a task is in flight once the next task was to be started, its request was sent. -/
lemma startNext_starts (hflight : client.inFlight = none)
    (hphase : client.phase = .ready ∨ client.phase = .inFlight) :
    ∀ flight', client.startNext.client.inFlight = some flight' →
      ∃ request, client.startNext.action = .send request ∧ request.startsTask = true := by
  intro flight' hflight'
  rcases startNext_cases hflight hphase with ⟨-, hstep⟩ | ⟨task, -, hstep⟩
  · simp [hstep, hflight] at hflight'
  · rw [hstep]
    exact ⟨_, rfl, Request.startsTask_begin _ task⟩

/-- The end of an answer finds a client that waits for it. -/
lemma answered_eq_complete {flight flight' : InFlight} (hsound : client.Sound)
    (hflight : client.inFlight = some flight) (htask : flight'.task = flight.task) :
    ({ client with inFlight := some flight' } : Client).answered =
      ({ client with inFlight := some flight' } : Client).complete := by
  have hphase : client.phase = flight'.task.phase := by rw [htask, hsound.busy flight hflight]
  have hawaiting : client.awaiting = true := (hsound.phase_of_inFlight hflight).2.2
  rcases flight'.task.phase_cases with htask | htask <;>
    simp [answered, hawaiting, hphase, htask]

/-- **The end of an answer**: the task in flight hears the message, and then the answer is over. -/
lemma handle_eq_complete {flight : InFlight} {message : ServerMessage} (hsound : client.Sound)
    (hflight : client.inFlight = some flight)
    (hends : endsAnswer client.capabilities.endOfResponse message = true) :
    client.handle message =
      ({ client with inFlight := some (flight.hear message) } : Client).complete := by
  obtain ⟨-, hlogon, -⟩ := hsound.phase_of_inFlight hflight
  rw [← answered_eq_complete hsound hflight (flight.hear_task message)]
  have hsame : ({ client with inFlight := some flight } : Client) = client := by rw [← hflight]
  cases message with
  | status status =>
    have hmarked : client.capabilities.endOfResponse = false := by simpa [endsAnswer] using hends
    show client.answeredUnlessMarked = ({ client with inFlight := some flight } : Client).answered
    simp [answeredUnlessMarked, hmarked, hsame]
  | error block =>
    have hmarked : client.capabilities.endOfResponse = false := by simpa [endsAnswer] using hends
    show client.errorBlock block =
      ({ client with inFlight := some (flight.record block) } : Client).answered
    simp [errorBlock, answeredUnlessMarked, hlogon, hflight, hmarked]
  | endOfResponse =>
    show client.answered = ({ client with inFlight := some flight } : Client).answered
    rw [hsame]
  | _ => simp [endsAnswer] at hends

/-- The answer is over, and the task in flight has heard its last message. -/
lemma complete_hears {flight : InFlight} {message : ServerMessage} (hsound : client.Sound)
    (hflight : client.inFlight = some flight)
    (hends : endsAnswer client.capabilities.endOfResponse message = true) :
    client.Hears flight message
      ({ client with inFlight := some (flight.hear message) } : Client).complete := by
  have htask : (flight.hear message).task = flight.task := flight.hear_task message
  have hphase : client.phase = (flight.hear message).task.phase := by
    rw [htask, hsound.busy flight hflight]
  unfold complete
  rcases hfetch : (flight.hear message).fetch? with _ | request
  · have hlisten : flight.listen client.capabilities.endOfResponse message =
        .error (flight.hear message).outcome := by
      simp [InFlight.listen, hends, hfetch]
    simp only [hfetch]
    rcases finish_cases { client with awaiting := false, inFlight := none } (flight.hear message)
      with ⟨hinFlight, statements, cleanup, hstep⟩ | ⟨-, hstep⟩ <;> rw [hstep, htask]
    · have hturn := hphase.trans hinFlight
      exact .ends hlisten rfl (startNext_closed rfl (.inr hturn))
        (startNext_starts rfl (.inr hturn))
    · exact .ends hlisten rfl (fun other => Task.outcome_of_mem_fail) (by simp)
  · have hlisten : flight.listen client.capabilities.endOfResponse message =
        .ok { flight.hear message with moreRows := false } := by
      simp [InFlight.listen, hends, hfetch]
    simp only [hfetch]
    exact .goesOn hlisten rfl rfl rfl

/-- **A client with a task in flight** lets it listen to every message. -/
lemma handle_hears {flight : InFlight} (hsound : client.Sound)
    (hflight : client.inFlight = some flight) (message : ServerMessage) :
    client.Hears flight message (client.handle message) := by
  cases hends : endsAnswer client.capabilities.endOfResponse message
  swap
  · rw [handle_eq_complete hsound hflight hends]
    exact complete_hears hsound hflight hends
  obtain ⟨hover, hlogon, -⟩ := hsound.phase_of_inFlight hflight
  have hphase : ∀ phase, phase ≠ .inFlight → phase ≠ .closing → client.phase ≠ phase := by
    intro phase hinFlight hclosing heq
    rw [← heq, hsound.busy flight hflight] at hinFlight hclosing
    rcases flight.task.phase_cases with h | h <;> simp [h] at hinFlight hclosing
  -- a message that changes nothing but what is known of the task
  have hheard : ∀ {step : Step}, step.client.inFlight = some (flight.hear message) →
      step.client.capabilities = client.capabilities → step.resolved = [] →
        client.Hears flight message step :=
    .goesOn (InFlight.listen_of_open hends)
  cases message with
  | accept accept =>
    show client.Hears _ _ (client.accepted accept)
    rw [accepted, if_pos (hphase _ (by simp) (by simp))]
    exact .fails _ rfl
  | refuse refusal => exact .fails _ rfl
  | redirect address => exact .fails _ rfl
  | marker kind =>
    show client.Hears _ _ (client.marker kind)
    unfold marker
    split_ifs <;> exact hheard hflight rfl rfl
  | resend =>
    show client.Hears _ _ client.resend
    unfold resend
    rcases client.lastRequest with _ | request
    · exact .fails _ rfl
    · exact hheard hflight rfl rfl
  | serverInfo info =>
    show client.Hears _ _ (client.described info)
    rw [described, if_pos (hphase _ (by simp) (by simp))]
    exact .fails _ rfl
  | dataTypes =>
    show client.Hears _ _ client.agreed
    rw [agreed, if_pos (hphase _ (by simp) (by simp))]
    exact .fails _ rfl
  | authParameters data =>
    show client.Hears _ _ (client.logonParameters data)
    rw [logonParameters, hlogon]
    exact .fails _ rfl
  | status status =>
    have hmarked : client.capabilities.endOfResponse = true := by simpa [endsAnswer] using hends
    show client.Hears _ _ client.answeredUnlessMarked
    rw [answeredUnlessMarked, if_pos hmarked]
    exact hheard hflight rfl rfl
  | error block =>
    have hmarked : client.capabilities.endOfResponse = true := by simpa [endsAnswer] using hends
    show client.Hears _ _ (client.errorBlock block)
    rw [errorBlock, hlogon, if_neg (by simp), hflight]
    simpa [answeredUnlessMarked, hmarked] using hheard rfl rfl rfl
  | warning block =>
    exact hheard (by simp [handle, warning, idle, hflight, InFlight.hear]) rfl rfl
  | statementParameters _ | lobParameters _ | description _ | row _ | lobData _ =>
    simp only [handle, collect, hflight]
    exact hheard rfl rfl rfl
  | piggyback piggyback => cases piggyback <;> exact hheard hflight rfl rfl
  | control _ | rowHeader | bitVector | flushOutBinds => exact hheard hflight rfl rfl
  | endOfResponse => cases hends

/-! ## Starting -/

/-- A task that has been launched finds the cursor that it has found. -/
lemma entry_launched (client : Client) (task : Task) :
    (client.launched task).entry task = client.entry task := by
  cases task with
  | statement request handle =>
    show (client.consulted (.statement request handle)).find? request.sql = _
    dsimp only [consulted]
    split_ifs
    · rfl
    · exact StatementCache.find?_get? client.statements request.sql
  | _ => rfl

/-- The task in front is started with the cursor that is kept for its text. -/
lemma startNext_begins (hflight : client.inFlight = none)
    (hphase : client.phase = .ready ∨ client.phase = .inFlight) {task : Task}
    (hfront : client.front.task = some task) :
    let flight := task.begin (client.startNext.client.entry task)
    client.startNext.action = .send flight.task.request ∧
      client.startNext.client.inFlight = some flight := by
  rcases startNext_cases hflight hphase with ⟨hnone, -⟩ | ⟨task', hsome, hstep⟩
  · simp [hfront] at hnone
  · obtain rfl := Option.some.inj (hfront.symm.trans hsome)
    rw [hstep]
    dsimp only
    rw [entry_launched]
    exact ⟨rfl, rfl⟩

/-- If starting the next task sends anything, it is the request of a task. -/
lemma exists_begins_of_startsTask (hflight : client.inFlight = none)
    (hphase : client.phase = .ready ∨ client.phase = .inFlight)
    (hstarts : client.startNext.action.startsTask = true) :
    ∃ task : Task, let flight := task.begin (client.startNext.client.entry task)
      client.startNext.action = .send flight.task.request ∧
        client.startNext.client.inFlight = some flight := by
  rcases startNext_cases hflight hphase with ⟨-, hstep⟩ | ⟨task, hfront, -⟩
  · simp [hstep, Action.startsTask] at hstarts
  · exact ⟨task, startNext_begins hflight hphase hfront⟩

/-- **A request that starts a task** is the request of a task that is then in flight. -/
lemma Transition.begins {event : Event} {step : Step} (h : client.Transition event step)
    (hsound : client.Sound) (hstarts : step.action.startsTask = true) :
    ∃ task : Task, let flight := task.begin (step.client.entry task)
      step.action = .send flight.task.request ∧ step.client.inFlight = some flight := by
  cases h with
  | quiet _ _ haction => rcases haction with rfl | rfl <;> cases hstarts
  | setup _ hstep =>
    exact absurd (hstep.startsTask.symm.trans hstarts) (by simp)
  | failed =>
    cases hover : client.phase.isOver
    · rw [fail_eq _ hover] at hstarts
      cases hstarts
    · rw [fail_of_over _ hover] at hstarts
      cases hstarts
  | lost =>
    by_cases hclosed : client.phase = .closed
    · rw [lost_of_closed hclosed] at hstarts
      cases hstarts
    · rw [lost_eq hclosed] at hstarts
      cases hstarts
  | abandoned | resent | established | heard | refused | joinedFlight | joinedWaiting | waited
  | cancelled => cases hstarts
  | served _ hphase hflight => exact exists_begins_of_startsTask hflight (.inl hphase) hstarts
  | turned hflight hphase => exact exists_begins_of_startsTask hflight hphase hstarts
  | fetched _ _ _ hfetch =>
    exact absurd ((startsTask_of_fetch? hfetch).symm.trans hstarts) (by simp)
  | @finished _ flight flight' hflight htask =>
    have hphase : client.phase = flight'.task.phase := by rw [htask, hsound.busy flight hflight]
    rcases finish_cases { client with awaiting := false, inFlight := none } flight' with
      ⟨hinFlight, statements, cleanup, hstep⟩ | ⟨-, hstep⟩ <;> rw [hstep] at hstarts ⊢
    · exact exists_begins_of_startsTask rfl (.inr (hphase.trans hinFlight)) hstarts
    · cases hstarts

/-- A client with nothing in flight can only come to have a task in flight by starting it. -/
lemma Transition.starts_of_inFlight {event : Event} {step : Step} (h : client.Transition event step)
    (hsound : client.Sound) (hnone : client.inFlight = none) {flight : InFlight}
    (hflight : step.client.inFlight = some flight) :
    ∃ request, step.action = .send request ∧ request.startsTask = true := by
  cases h with
  | quiet _ halike => simp [← halike.inFlight, hnone] at hflight
  | setup _ hstep =>
    obtain ⟨-, hflight', -⟩ := hstep.frame hsound
    simp [send, hflight'] at hflight
  | failed =>
    cases hover : client.phase.isOver
    · simp [fail_eq _ hover] at hflight
    · simp [fail_of_over _ hover, idle, hnone] at hflight
  | lost =>
    by_cases hclosed : client.phase = .closed
    · simp [lost_of_closed hclosed, idle, hnone] at hflight
    · simp [lost_eq hclosed] at hflight
  | served _ hphase hflight' => exact startNext_starts hflight' (.inl hphase) _ hflight
  | turned hflight' hphase => exact startNext_starts hflight' hphase _ hflight
  | heard hflight' | joinedFlight _ hflight' | fetched hflight' | finished hflight' =>
    simp [hnone] at hflight'
  | abandoned | resent | established | refused | joinedWaiting | waited | cancelled =>
    exact absurd (hnone.symm.trans hflight) (by simp)

/-- A task in flight goes on over events that are no messages. -/
lemma Transition.inFlight_of_silent {event : Event} {step : Step}
    (h : client.Transition event step) (hsound : client.Sound) (hsilent : event.message? = none)
    {flight flight' : InFlight} (hflight : client.inFlight = some flight)
    (hflight' : step.client.inFlight = some flight') :
    step.client.capabilities = client.capabilities ∧ flight'.unclaimed = flight.unclaimed ∧
      flight.task.Extends flight'.task := by
  have hsame : step.client.inFlight = client.inFlight →
      flight'.unclaimed = flight.unclaimed ∧ flight.task.Extends flight'.task := by
    intro heq
    rw [hflight', hflight] at heq
    obtain rfl := Option.some.inj heq
    exact ⟨rfl, .refl _⟩
  obtain ⟨hover, -, -⟩ := hsound.phase_of_inFlight hflight
  cases h with
  | quiet _ halike => exact ⟨halike.capabilities.symm, hsame halike.inFlight.symm⟩
  | abandoned | refused | joinedWaiting | waited | cancelled => exact ⟨rfl, hsame rfl⟩
  | setup _ hstep =>
    obtain ⟨hnone, -⟩ := hstep.frame hsound
    simp [hflight] at hnone
  | failed => simp [fail_eq _ hover] at hflight'
  | lost =>
    have hclosed : client.phase ≠ .closed := by
      intro hclosed
      simp [hclosed, Phase.isOver] at hover
    simp [lost_eq hclosed] at hflight'
  | @joinedFlight handles others flying hphase hflying htask =>
    obtain rfl := Option.some.inj (hflying.symm.trans hflight)
    obtain rfl := Option.some.inj hflight'
    refine ⟨rfl, ?_, ?_⟩
    · simp only [InFlight.unclaimed, htask]
      rfl
    · rw [htask]
      exact .ping others handles
  | served _ _ hnone | turned hnone => simp [hflight] at hnone
  | resent | established | heard | fetched | finished => cases hsilent

/-! ## Runs -/

/-- One event of a run in which a task is in flight from before until after it. -/
lemma react_listens (hsound : client.Sound) {event : Event}
    (hstarts : Moment.starts ⟨client, event⟩ = false) {flight' : InFlight}
    (hflight' : (client.react event).client.inFlight = some flight') :
    ∃ flight, client.inFlight = some flight ∧
      (client.react event).client.capabilities = client.capabilities ∧
      flight.task.Extends flight'.task ∧
      event.message?.toList.foldlM (InFlight.listen client.capabilities.endOfResponse)
        flight.unclaimed = .ok flight'.unclaimed := by
  have htransition := react_transition hsound.spare event
  have hquiet : ∀ request, (client.react event).action = .send request →
      request.startsTask = false := by
    intro request hsend
    have hstep : (Moment.mk client event).step.action = .send request := hsend
    simpa [Moment.starts, Action.startsTask, hstep] using hstarts
  rcases hflight : client.inFlight with _ | flight
  · obtain ⟨request, hsend, hrequest⟩ := htransition.starts_of_inFlight hsound hflight hflight'
    simp [hquiet request hsend] at hrequest
  refine ⟨flight, rfl, ?_⟩
  rcases hmessage : event.message? with _ | message
  · obtain ⟨hcapabilities, hsame, hextends⟩ :=
      htransition.inFlight_of_silent hsound hmessage hflight hflight'
    exact ⟨hcapabilities, hextends, by rw [hsame]; rfl⟩
  · obtain rfl : event = .message message := by
      cases event <;> simp_all [Event.message?]
    have hhears : client.Hears flight message (client.react (.message message)) :=
      handle_hears hsound hflight message
    generalize client.react (.message message) = step at hhears hflight' hquiet ⊢
    cases hhears with
    | fails error =>
      simp [fail_eq error (hsound.phase_of_inFlight hflight).1] at hflight'
    | goesOn hlisten hgoes hcapabilities =>
      obtain rfl := Option.some.inj (hgoes.symm.trans hflight')
      refine ⟨hcapabilities, ?_, ?_⟩
      · rw [InFlight.listen_task hlisten]
        exact .refl _
      · simp only [Option.toList_some, List.foldlM_cons, List.foldlM_nil]
        rw [InFlight.listen_unclaimed, hlisten]
        rfl
    | ends _ _ _ hnext =>
      obtain ⟨request, hsend, hrequest⟩ := hnext flight' hflight'
      simp [hquiet request hsend] at hrequest

lemma messagesOf_concat (moments : List Moment) (moment : Moment) :
    messagesOf (moments ++ [moment]) = messagesOf moments ++ moment.event.message?.toList := by
  unfold messagesOf
  rw [List.filterMap_append]
  rcases hmessage : moment.event.message? with _ | message <;> simp [hmessage]

/-- **A task in flight** has listened to the messages since it was started, and to nothing else. -/
lemma listens_after (hsound : client.Sound) {flight : InFlight}
    (hflight : client.inFlight = some flight) {events : List Event}
    (hstarts : ∀ moment ∈ client.moments events, moment.starts = false) {flight' : InFlight}
    (hflight' : (client.after events).inFlight = some flight') :
    (client.after events).capabilities = client.capabilities ∧
      flight.task.Extends flight'.task ∧
      (messagesOf (client.moments events)).foldlM
        (InFlight.listen client.capabilities.endOfResponse) flight.unclaimed =
          .ok flight'.unclaimed := by
  induction events using List.reverseRecOn generalizing flight' with
  | nil =>
    obtain rfl := Option.some.inj (hflight.symm.trans hflight')
    exact ⟨rfl, .refl _, rfl⟩
  | append_singleton events event ih =>
    rw [after_concat] at hflight' ⊢
    rw [moments_concat] at hstarts ⊢
    have hlast := hstarts _ (List.mem_append_right _ (List.mem_singleton_self _))
    obtain ⟨flying, hflying, hcapabilities, hextends, hlisten⟩ :=
      react_listens (hsound.after events) hlast hflight'
    obtain ⟨hcapabilities', hextends', hlistens⟩ :=
      ih (fun moment hmem => hstarts moment (List.mem_append_left _ hmem)) hflying
    refine ⟨hcapabilities.trans hcapabilities', hextends'.trans hextends, ?_⟩
    rw [messagesOf_concat, List.foldlM_append, hlistens]
    rwa [hcapabilities'] at hlisten

/-- **Between two moments**: from the moment at which a task is started, as long as no other task is,
a moment that finds a task in flight finds this one, perhaps with more callers. It has listened to
the messages since. -/
lemma listens_between {credentials : Credentials} {random : RandomSource} {cacheSize : Nat}
    {events : List Event} {past between rest : List Moment} {first last : Moment} {task : Task}
    {flight : InFlight}
    (h : (new credentials random cacheSize).moments events =
      past ++ first :: (between ++ last :: rest))
    (hstarts : first.Starts task) (hbetween : ∀ moment ∈ between, moment.starts = false)
    (hflight : last.before.inFlight = some flight) :
    let client := first.step.client
    let begun := task.begin (client.entry task)
    last.before.Sound ∧ last.before.capabilities = client.capabilities ∧
      begun.task.Extends flight.task ∧
      (messagesOf between).foldlM (InFlight.listen client.capabilities.endOfResponse)
        begun.unclaimed = .ok flight.unclaimed := by
  intro client begun
  obtain ⟨hsound, htransition⟩ := transition_of_mem
    (h ▸ List.mem_append_right past List.mem_cons_self : first ∈ _)
  have hsound : client.Sound := htransition.sound hsound
  obtain ⟨-, later, -, -, -, hlater⟩ := moments_eq_append h
  obtain ⟨middle, -, -, rfl, hbefore, -⟩ := moments_eq_append hlater.symm
  rw [hbefore] at hflight ⊢
  exact ⟨hsound.after middle, listens_after hsound hstarts.2 hbetween hflight⟩

/-- **The outcome of a task is its reply.** From the moment at which a task is started, as long as
no other task is, let the end of an answer find a task in flight. Then it is this task, perhaps with
more callers, if it is a ping. What it gets is the reply to what the task asks for, with the cursor
that was kept for its text when it was started, over the messages since.

**Proof sketch.** Up to the last message the reply is the task in flight, since the client lets it
listen to each message; the last message then comes to the same for both. -/
theorem outcome_eq_reply {credentials : Credentials} {random : RandomSource} {cacheSize : Nat}
    {events : List Event} {past between rest : List Moment} {first last : Moment} {task : Task}
    {flight : InFlight}
    (h : (new credentials random cacheSize).moments events =
      past ++ first :: (between ++ last :: rest))
    (hstarts : first.Starts task) (hbetween : ∀ moment ∈ between, moment.starts = false)
    (hflight : last.before.inFlight = some flight) (hanswers : last.answers = true) :
    let client := first.step.client
    let entry := client.entry task
    (task.begin entry).task.Extends flight.task ∧
      last.Gets flight (task.reply client.capabilities.endOfResponse entry
        (messagesOf (between ++ [last]))) := by
  intro client entry
  obtain ⟨hsound, hcapabilities, hextends, hlistens⟩ :=
    listens_between h hstarts hbetween hflight
  refine ⟨hextends, ?_⟩
  obtain ⟨message, hevent, hends⟩ := Moment.message_of_answers hanswers
  have hreply :
      task.reply client.capabilities.endOfResponse entry (messagesOf (between ++ [last])) =
        (flight.listen last.before.capabilities.endOfResponse message).map InFlight.unclaimed := by
    show List.foldlM _ _ _ = _
    rw [Task.begin_unclaimed, messagesOf_concat, List.foldlM_append, hlistens, hevent,
      ← InFlight.listen_unclaimed, hcapabilities]
    simp only [Event.message?, Option.toList_some, List.foldlM_cons, List.foldlM_nil, bind_pure]
    rfl
  have hhears : last.before.Hears flight message last.step := by
    rw [Moment.step, hevent]
    exact handle_hears hsound hflight message
  rw [hreply]
  unfold Moment.Gets
  generalize last.step = step at hhears ⊢
  cases hhears with
  | fails error hopen => simp [hends] at hopen
  | goesOn hlisten _ _ hresolved =>
    rw [hlisten]
    exact hresolved
  | @ends _ outcome others hlisten hresolved hothers =>
    rw [hlisten]
    exact ⟨others, hresolved, hothers⟩

end Client

end TnsClient
