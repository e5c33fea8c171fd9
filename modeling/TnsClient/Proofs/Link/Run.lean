import Mathlib.Data.List.Induction
import TnsClient.Link
import TnsClient.Proofs.Client.Resend
import TnsClient.Proofs.Client.RoundTrip

set_option autoImplicit false

/-!
# Runs of a link

Whatever befalls a link comes to its client as an event, and what the client then wants done is done
at once. A request for a task takes with it what there is to clean up, and a connection that is
closed is lost; both are events of the client again. So a run of a link is a run of its client, and
all that is known of runs of clients is true of it.

## Main definitions

* `TnsClient.Occurrence` — what can befall a link; `TnsClient.Link.befall` — what it comes to.
* `TnsClient.Link.event?` — the event that an occurrence is for the client.
* `TnsClient.Action.follows` — the events that doing what the client wants brings about.
* `TnsClient.Deed`, `TnsClient.Link.deeds` — the single steps of a run.
* `TnsClient.Link.Orderly` — how far a link has come is what the phase of its client tells.

## Main results

* `TnsClient.Link.Orderly.befall` — an orderly link stays orderly, and its client has had the
  events.
* `TnsClient.Link.connect_run` — so a run of a link that has asked for a connection is a run of a
  new client.
-/

namespace TnsClient

/-- What can befall a link. -/
inductive Occurrence where
  /-- A caller says something. -/
  | command (command : Command)
  /-- A message has come. -/
  | message (message : ServerMessage)
  /-- Work that was submitted meanwhile may be started. -/
  | turn
  /-- What has come cannot be read, or the transport has failed. -/
  | failed (error : ClientError)
  /-- The server's stream has ended. -/
  | ended
  /-- There is no session within the time allowed. -/
  | timedOut (milliseconds : Nat)
  /-- A caller stops waiting. -/
  | abandoned (handle : Handle)

/-- The handles that come with a task that is submitted. -/
def Occurrence.handles : Occurrence → List Handle
  | command (.submit _ task) => task.handles
  | _ => []

/-! ## How far a link has come -/

/-- How far a link has come when its client is in a phase. -/
def Phase.stage : Phase → Stage
  | ready | inFlight | closing => .serving
  | closed | errored => .finished
  | _ => .logon

/-- How far a link has come once what the client wants is done. -/
def Action.stage (before : Stage) : Action → Stage
  | established _ => .serving
  | close _ => .finished
  | _ => before

/-- What doing what the client wants brings about for the client: with the request of a task goes
out what there is to clean up, and a connection that is closed is lost. -/
def Action.follows : Action → List Event
  | send request => if request.isTask then [.takeCleanup] else []
  | close _ => [.lost]
  | _ => []

lemma Action.follows_send (request : Request) :
    (Action.send request).follows = if request.isTask then [.takeCleanup] else [] := rfl

lemma Action.follows_handles (action : Action) : action.follows.flatMap Event.handles = [] := by
  cases action with
  | send request =>
    rw [follows_send]
    split_ifs <;> rfl
  | _ => rfl

namespace Client

variable {client : Client} {event : Event} {step : Step}

lemma startNext_stage (hflight : client.inFlight = none)
    (hphase : client.phase = .ready ∨ client.phase = .inFlight) :
    client.startNext.client.phase.stage = client.startNext.action.stage client.phase.stage := by
  have hserving : client.phase.stage = .serving := by rcases hphase with h | h <;> rw [h] <;> rfl
  rw [hserving]
  rcases startNext_cases hflight hphase with ⟨-, hstep⟩ | ⟨task, -, hstep⟩ <;> rw [hstep]
  · rfl
  · cases task <;> rfl

/-- **How far a step leads**: the end of the logon begins the service, and closing ends it. -/
lemma Transition.stage (h : client.Transition event step) (hsound : client.Sound)
    (hevent : event ≠ .lost) :
    step.client.phase.stage = step.action.stage client.phase.stage := by
  cases h with
  | quiet _ halike haction => rcases haction with rfl | rfl <;> rw [halike.phase] <;> rfl
  | setup _ hstep =>
    cases hstep with
    | connect => rfl
    | protocol _ hphase | dataTypes _ hphase | logonStart hphase | logonProof _ _ hphase =>
      rw [hphase]
      rfl
  | failed =>
    cases hover : client.phase.isOver
    · rw [fail_eq _ hover]
      rfl
    · rw [fail_of_over _ hover]
      rfl
  | lost => exact absurd rfl hevent
  | served _ hphase hflight => exact startNext_stage hflight (.inl hphase)
  | turned hflight hphase => exact startNext_stage hflight hphase
  | @finished _ flight flight' hflight htask =>
    have hphase : client.phase = flight'.task.phase := by rw [htask, hsound.busy flight hflight]
    rcases finish_cases { client with awaiting := false, inFlight := none } flight' with
      ⟨hinFlight, statements, cleanup, hstep⟩ | ⟨-, hstep⟩ <;> rw [hstep]
    · exact startNext_stage rfl (.inr (hphase.trans hinFlight))
    · rfl
  | abandoned | resent | established | heard | refused | joinedFlight | joinedWaiting | waited
  | cancelled | fetched => rfl

lemma startNext_resends {request : Request} (haction : client.startNext.action = .resend request)
    (hflight : client.inFlight = none) (hphase : client.phase = .ready ∨ client.phase = .inFlight) :
    False := by
  rcases startNext_cases hflight hphase with ⟨-, hstep⟩ | ⟨task, -, hstep⟩ <;>
    simp [hstep] at haction

/-- Nothing is to be done about a transport that is gone. -/
lemma lost_action (client : Client) : client.lost.action = .wait := by
  unfold lost
  split_ifs <;> rfl

/-- What is sent again is the last request, and nothing else comes of it. -/
lemma Transition.resends (h : client.Transition event step) (hsound : client.Sound)
    {request : Request} (haction : step.action = .resend request) :
    client.lastRequest = some request ∧ step = { client, action := .resend request } := by
  cases h with
  | quiet _ _ hquiet => exact absurd haction (by rcases hquiet with rfl | rfl <;> simp)
  | resent hlast =>
    obtain rfl := Action.resend.inj haction
    exact ⟨hlast, rfl⟩
  | failed =>
    unfold Client.fail at haction
    split_ifs at haction
    cases haction
  | lost =>
    rw [lost_action] at haction
    cases haction
  | served _ hphase hflight => exact (startNext_resends haction hflight (.inl hphase)).elim
  | turned hflight hphase => exact (startNext_resends haction hflight hphase).elim
  | @finished _ flight flight' hflight htask =>
    have hphase : client.phase = flight'.task.phase := by rw [htask, hsound.busy flight hflight]
    rcases finish_cases { client with awaiting := false, inFlight := none } flight' with
      ⟨hinFlight, statements, cleanup, hstep⟩ | ⟨-, hstep⟩ <;> rw [hstep] at haction
    · exact (startNext_resends haction rfl (.inr (hphase.trans hinFlight))).elim
    · cases haction
  | _ => cases haction

/-- A connection that is lost is closed, and the last request is what it was. -/
lemma lost_frame (client : Client) :
    client.lost.client.phase = .closed ∧ client.lost.client.lastRequest = client.lastRequest := by
  by_cases hclosed : client.phase = .closed
  · rw [lost_of_closed hclosed]
    exact ⟨hclosed, rfl⟩
  · rw [lost_eq hclosed]
    exact ⟨rfl, rfl⟩

/-- An event and what follows from doing what the client wants. -/
def eventsOf (client : Client) (event : Event) : List Event :=
  event :: (client.react event).action.follows

lemma eventsOf_lost (client : Client) : client.eventsOf .lost = [.lost] := by
  rw [eventsOf, show (client.react .lost).action = .wait from client.lost_action]
  rfl

/-- What follows from a step leads no further than the step. -/
lemma after_follows {action : Action} {before : Stage}
    (hstage : client.phase.stage = action.stage before) :
    (client.after action.follows).phase.stage = action.stage before ∧
      (client.after action.follows).lastRequest = client.lastRequest := by
  cases action with
  | send request =>
    rw [Action.follows_send]
    split_ifs <;> exact ⟨hstage, rfl⟩
  | close error =>
    obtain ⟨hphase, hlast⟩ := client.lost_frame
    exact ⟨congrArg Phase.stage hphase, hlast⟩
  | _ => exact ⟨hstage, rfl⟩

/-- What handles learn in some events. -/
def resolutions (client : Client) (events : List Event) : List Resolution :=
  (client.moments events).flatMap fun moment => moment.step.resolved

/-- Sending a request resolves nothing. -/
lemma resolutions_send (client : Client) (request : Request) :
    client.resolutions (Action.send request).follows = [] := by
  rw [Action.follows_send]
  split_ifs <;> rfl

end Client

/-! ## Links -/

namespace Link

variable {link : Link}

/-- What an occurrence comes to. -/
def befall (link : Link) : Occurrence → Link
  | .command command => link.command command
  | .message message => if link.isFinished then link else link.hear message
  | .turn => if link.isFinished then link else link.act link.client.startNext
  | .failed error => if link.isFinished then link else link.fail error
  | .ended => link.ended
  | .timedOut milliseconds => link.timeOut milliseconds
  | .abandoned handle => link.abandon handle

/-- What one occurrence after the other comes to. -/
def run (link : Link) (occurrences : List Occurrence) : Link := occurrences.foldl befall link

/-- The event that an occurrence is for the client, if it is one. -/
def event? (link : Link) : Occurrence → Option Event
  | .command (.submit _ task) => some (.submit task)
  | .command (.cancel ticket) =>
    if link.isFinished then none else (link.tickets.lookup ticket).map .cancel
  | .command (.releaseLob locator) => if link.isFinished then none else some (.releaseLob locator)
  | .message message => if link.isFinished then none else some (.message message)
  | .turn => if link.isFinished then none else some .next
  | .failed error => if link.isFinished then none else some (.fail error)
  | .ended =>
    match link.stage with
    | .logon => some (.fail .closed)
    | .serving => some .lost
    | .finished => none
  | .timedOut _ => if link.stage = .logon then some .lost else none
  | .abandoned handle => some (.abandon handle)

/-- The events that an occurrence is for the client in the end. -/
def events (link : Link) (occurrence : Occurrence) : List Event :=
  match link.event? occurrence with
  | some event => link.client.eventsOf event
  | none => []

/-- **An orderly link.** How far it has come is what the phase of its client tells, and what the
client would send again has been written. -/
structure Orderly (link : Link) : Prop where
  sound : link.client.Sound
  stage : link.stage = link.client.phase.stage
  repeatable : link.client.lastRequest.isSome = true → link.lastRequest.isSome = true

/-! ### Doing what the client wants -/

lemma transmit_frame (link : Link) (request : Request) :
    (link.transmit request).client = link.client.after (Action.send request).follows ∧
      (link.transmit request).resolved = link.resolved ∧
      (link.transmit request).stage = link.stage ∧
      (link.transmit request).tickets = link.tickets ∧
      (link.transmit request).lastRequest.isSome = true := by
  cases request <;> exact ⟨rfl, rfl, rfl, rfl, rfl⟩

/-- What doing what the client wants comes to. -/
structure Performed (before after : Link) (action : Action) : Prop where
  client : after.client = before.client.after action.follows
  resolved : after.resolved = before.resolved ++ before.client.resolutions action.follows
  stage : after.stage = action.stage before.stage
  tickets : after.tickets = before.tickets
  repeatable : before.lastRequest.isSome = true ∨ (∃ request, action = .send request) →
    after.lastRequest.isSome = true

/-- Closing writes a last packet, if anything, and then the client is told. -/
lemma close_frame (link : Link) (error : Option ClientError) :
    (link.close error).client = link.client.lost.client ∧
      (link.close error).resolved = link.resolved ++ link.client.lost.resolved ∧
      (link.close error).stage = .finished ∧ (link.close error).tickets = link.tickets ∧
      (link.close error).lastRequest = link.lastRequest := by
  unfold close
  split <;> exact ⟨rfl, rfl, rfl, rfl, rfl⟩

lemma perform_performed (link : Link) {action : Action}
    (hrepeat : ∀ request, action = .resend request → link.lastRequest.isSome = true) :
    link.Performed (link.perform action) action := by
  cases action with
  | send request =>
    obtain ⟨hclient, hresolved, hstage, htickets, hlast⟩ := link.transmit_frame request
    refine ⟨hclient, ?_, hstage, htickets, fun _ => hlast⟩
    rw [Client.resolutions_send, List.append_nil]
    exact hresolved
  | resend request =>
    obtain ⟨packets, hpackets⟩ := Option.isSome_iff_exists.1 (hrepeat request rfl)
    have hperform : link.perform (.resend request) = link.write packets := by
      simp [perform, hpackets]
    rw [hperform]
    exact ⟨rfl, (List.append_nil _).symm, rfl, rfl, fun _ => hrepeat request rfl⟩
  | close error =>
    obtain ⟨hclient, hresolved, hstage, htickets, hlast⟩ := link.close_frame error
    refine ⟨hclient, hresolved.trans ?_, hstage, htickets, fun h => ?_⟩
    · exact congrArg _ (List.append_nil _).symm
    · exact (congrArg Option.isSome hlast).trans (h.resolve_right (by simp))
  | _ => exact ⟨rfl, (List.append_nil _).symm, rfl, rfl, fun h => h.resolve_right (by simp)⟩

/-! ### Occurrences -/

/-- What an occurrence comes to, where it is an event for the client. -/
structure Told (before after : Link) (events : List Event) : Prop where
  client : after.client = before.client.after events
  resolved : after.resolved = before.resolved ++ before.client.resolutions events
  orderly : after.Orderly

/-- An event, and what the client then wants. -/
lemma Orderly.act (h : link.Orderly) (event : Event) (hevent : event ≠ .lost) :
    link.Told (link.act (link.client.react event)) (link.client.eventsOf event) ∧
      (link.act (link.client.react event)).tickets = link.tickets := by
  have htransition := Client.react_transition h.sound.spare event
  have hsent := htransition.lastRequest h.sound
  have hperformed : (link.adopt (link.client.react event)).Performed
      (link.act (link.client.react event)) (link.client.react event).action :=
    perform_performed _ fun request haction =>
      h.repeatable (by rw [(htransition.resends h.sound haction).1]; rfl)
  obtain ⟨hstage, hlast⟩ := Client.after_follows (htransition.stage h.sound hevent)
  refine ⟨⟨hperformed.client, hperformed.resolved.trans (List.append_assoc _ _ _), ?_, ?_, ?_⟩,
    hperformed.tickets⟩
  · rw [hperformed.client]
    exact (htransition.sound h.sound).after _
  · rw [hperformed.stage, hperformed.client]
    exact (congrArg (Action.stage · _) h.stage).trans hstage.symm
  · intro hsome
    rw [hperformed.client] at hsome
    have hsome : ((link.client.react event).action.sent link.client.lastRequest).isSome = true :=
      (congrArg Option.isSome (hlast.trans hsent)).symm.trans hsome
    refine hperformed.repeatable ?_
    cases haction : (link.client.react event).action with
    | send request => exact .inr ⟨request, rfl⟩
    | established session => simp [haction, Action.sent] at hsome
    | _ => exact .inl (h.repeatable (by simpa [haction, Action.sent] using hsome))

/-- The transport is gone. -/
lemma Orderly.finish (h : link.Orderly) : link.Told link.finish (link.client.eventsOf .lost) where
  client := by rw [Client.eventsOf_lost]; rfl
  resolved := by rw [Client.eventsOf_lost]; exact congrArg _ (List.append_nil _).symm
  orderly :=
    { sound := h.sound.after [.lost]
      stage := (congrArg Phase.stage link.client.lost_frame.1).symm
      repeatable := fun hsome =>
        h.repeatable ((congrArg Option.isSome link.client.lost_frame.2).symm.trans hsome) }

/-- A link that is not finished has a client that is not over. -/
lemma Orderly.isOver (h : link.Orderly) : link.client.phase.isOver = link.isFinished := by
  rw [isFinished, h.stage]
  cases link.client.phase <;> rfl

/-- A connection that cannot go on is closed. -/
lemma Orderly.fail_eq (h : link.Orderly) (hstage : link.isFinished = false) (error : ClientError) :
    link.fail error = link.act (link.client.react (.fail error)) := by
  have hover : link.client.phase.isOver = false := h.isOver.trans hstage
  show _ = (link.adopt (link.client.fail error)).perform (link.client.fail error).action
  rw [show (link.client.fail error).action = .close (some error) by rw [Client.fail_eq _ hover]]
  rfl

lemma Told.refl (h : link.Orderly) : link.Told link [] :=
  ⟨rfl, (List.append_nil _).symm, h⟩

/-- Where links differ in nothing but what the client does not see, the same is told of them. -/
lemma Told.congr {before before' after after' : Link} {events : List Event}
    (h : before.Told after events) (hclient : before'.client = before.client)
    (hresolved : before'.resolved = before.resolved) (hclient' : after'.client = after.client)
    (hresolved' : after'.resolved = after.resolved) (hstage : after'.stage = after.stage)
    (hlast : after'.lastRequest = after.lastRequest) : before'.Told after' events where
  client := by rw [hclient, hclient', h.client]
  resolved := by rw [hclient, hresolved, hresolved', h.resolved]
  orderly :=
    { sound := by rw [hclient']; exact h.orderly.sound
      stage := by rw [hclient', hstage]; exact h.orderly.stage
      repeatable := by rw [hclient', hlast]; exact h.orderly.repeatable }

/-- An event that the client does not answer. -/
lemma Orderly.idle (h : link.Orderly) {event : Event} {client : Client}
    (hreact : link.client.react event = client.idle) (hevent : event ≠ .lost) :
    link.Told { link with client } [event] := by
  have hact := (h.act event hevent).1
  rw [Client.eventsOf, hreact] at hact
  exact hact.congr rfl rfl rfl (List.append_nil _).symm rfl rfl

/-- The tickets when a task has been submitted. -/
def ticketed (link : Link) (ticket : Nat) (task : Task) : List (Nat × TaskId) :=
  ((link.client.submit task).id.map fun id => (ticket, id)).toList ++
    link.tickets.filter fun (_, id) => (link.client.submit task).step.client.queue.contains id

/-- Submitting a task is an event for the client, whatever becomes of the tickets. -/
lemma submit_eq (link : Link) (ticket : Nat) (task : Task) :
    link.submit ticket task =
      { link with tickets := link.ticketed ticket task }.act
        (link.client.react (.submit task)) := by
  unfold Link.submit ticketed
  dsimp only
  rcases (link.client.submit task).id with _ | id <;> rfl

/-- The client of a link that is finished refuses a task. -/
lemma Orderly.react_submit (h : link.Orderly) (hfinished : link.isFinished = true) (task : Task) :
    link.client.react (.submit task) =
      { client := link.client, resolved := task.fail .closed } := by
  have hrefuses : link.client.phase.refusesTasks = true := by
    have hover := h.isOver.trans hfinished
    revert hover
    cases link.client.phase <;> simp [Phase.isOver, Phase.refusesTasks]
  simp [Client.react, Client.submit, hrefuses]

/-- A link that is finished refuses a task. -/
lemma Orderly.refuse (h : link.Orderly) (hfinished : link.isFinished = true) (task : Task) :
    link.Told { link with resolved := link.resolved ++ task.fail .closed }
      (link.client.eventsOf (.submit task)) := by
  have hact := (h.act (.submit task) (by simp)).1
  rw [h.react_submit hfinished] at hact
  exact hact.congr rfl rfl rfl rfl rfl rfl

/-- **Whatever befalls an orderly link** is a run of events for its client, and leaves the link
orderly. -/
theorem Orderly.befall (h : link.Orderly) (occurrence : Occurrence) :
    link.Told (link.befall occurrence) (link.events occurrence) := by
  -- nothing comes of what is left out once the connection is over
  have hlater : ∀ {after : Link} {event : Event}, (link.isFinished = false →
      link.Told after (link.client.eventsOf event)) →
        link.Told (if link.isFinished then link else after)
          (match if link.isFinished then none else some event with
            | some event => link.client.eventsOf event
            | none => []) := by
    intro after event htold
    cases hfinished : link.isFinished
    · exact htold hfinished
    · exact Told.refl h
  cases occurrence with
  | command command =>
    cases command with
    | submit ticket task =>
      show link.Told (link.command (.submit ticket task)) (link.client.eventsOf (.submit task))
      unfold Link.command
      cases hfinished : link.isFinished
      · dsimp only
        rw [submit_eq]
        have hticketed : ({ link with tickets := link.ticketed ticket task } : Link).Orderly :=
          ⟨h.sound, h.stage, h.repeatable⟩
        exact (hticketed.act (.submit task) (by simp)).1.congr rfl rfl rfl rfl rfl rfl
      · exact h.refuse hfinished task
    | cancel ticket =>
      show link.Told (link.command (.cancel ticket)) _
      unfold Link.command events event?
      cases hfinished : link.isFinished
      · dsimp only
        unfold Link.cancel
        rcases hlookup : link.tickets.lookup ticket with _ | id
        · simpa [hlookup] using Told.refl h
        · have hkept : ({ link with
              tickets := link.tickets.filter fun (other, _) => other != ticket } : Link).Orderly :=
            ⟨h.sound, h.stage, h.repeatable⟩
          have hact := (hkept.act (.cancel id) (by simp)).1
          simpa [hlookup, Client.react] using
            @Told.congr _ link _ _ _ hact rfl rfl rfl rfl rfl rfl
      · exact Told.refl h
    | releaseLob locator =>
      show link.Told (link.command (.releaseLob locator)) _
      unfold Link.command
      unfold events event?
      cases hfinished : link.isFinished
      · exact h.idle rfl (by simp)
      · exact Told.refl h
  | message message =>
    refine hlater fun _ => ?_
    have hheard : ({ link with
        heard := link.heard ++ [(message, (link.client.handle message).action)] } : Link).Orderly :=
      ⟨h.sound, h.stage, h.repeatable⟩
    exact (hheard.act (.message message) (by simp)).1.congr rfl rfl rfl rfl rfl rfl
  | turn => exact hlater fun _ => (h.act .next (by simp)).1
  | failed error =>
    refine hlater fun hfinished => ?_
    rw [h.fail_eq hfinished]
    exact (h.act (.fail error) (by simp)).1
  | ended =>
    show link.Told link.ended _
    unfold ended events event?
    cases hstage : link.stage with
    | logon =>
      dsimp only
      rw [h.fail_eq (by rw [isFinished, hstage]; rfl)]
      exact (h.act (.fail .closed) (by simp)).1
    | serving => exact h.finish
    | finished => exact Told.refl h
  | timedOut milliseconds =>
    show link.Told (link.timeOut milliseconds) _
    unfold timeOut events event?
    cases hstage : link.stage with
    | logon => exact h.finish.congr rfl rfl rfl rfl rfl rfl
    | serving => exact Told.refl h
    | finished => exact Told.refl h
  | abandoned handle => exact h.idle rfl (by simp)

/-! ### Runs -/

@[simp] lemma run_nil (link : Link) : link.run [] = link := rfl

@[simp] lemma run_cons (link : Link) (occurrence : Occurrence) (rest : List Occurrence) :
    link.run (occurrence :: rest) = (link.befall occurrence).run rest := rfl

lemma run_append (link : Link) (occurrences more : List Occurrence) :
    link.run (occurrences ++ more) = (link.run occurrences).run more := by
  simp [run, List.foldl_append]

lemma run_concat (link : Link) (occurrences : List Occurrence) (occurrence : Occurrence) :
    link.run (occurrences ++ [occurrence]) = (link.run occurrences).befall occurrence := by
  rw [run_append]
  rfl

/-- The events that a run is for the client. -/
def history (link : Link) : List Occurrence → List Event
  | [] => []
  | occurrence :: rest => link.events occurrence ++ (link.befall occurrence).history rest

/-- The moments that a run is for the client. -/
def moments (link : Link) (occurrences : List Occurrence) : List Moment :=
  link.client.moments (link.history occurrences)

lemma history_append (link : Link) (occurrences more : List Occurrence) :
    link.history (occurrences ++ more) =
      link.history occurrences ++ (link.run occurrences).history more := by
  induction occurrences generalizing link with
  | nil => rfl
  | cons occurrence rest ih =>
    rw [List.cons_append, history, ih, history, List.append_assoc]
    rfl

end Link

/-- A single step of a run: something befalls a link. -/
structure Deed where
  /-- The link. -/
  before : Link
  /-- What befalls it. -/
  occurrence : Occurrence

namespace Deed

/-- The link afterwards. -/
def after (deed : Deed) : Link := deed.before.befall deed.occurrence

/-- What the client wants done. -/
def action (deed : Deed) : Action :=
  match deed.before.event? deed.occurrence with
  | some event => (deed.before.client.react event).action
  | none => .wait

end Deed

namespace Link

variable {link : Link}

/-- The single steps of a run. -/
def deeds (link : Link) : List Occurrence → List Deed
  | [] => []
  | occurrence :: rest => ⟨link, occurrence⟩ :: (link.befall occurrence).deeds rest

lemma deeds_append (link : Link) (occurrences more : List Occurrence) :
    link.deeds (occurrences ++ more) =
      link.deeds occurrences ++ (link.run occurrences).deeds more := by
  induction occurrences generalizing link with
  | nil => rfl
  | cons occurrence rest ih =>
    rw [List.cons_append, deeds, ih]
    rfl

lemma deeds_concat (link : Link) (occurrences : List Occurrence) (occurrence : Occurrence) :
    link.deeds (occurrences ++ [occurrence]) =
      link.deeds occurrences ++ [⟨link.run occurrences, occurrence⟩] := by
  rw [deeds_append]
  rfl

/-- **A run of an orderly link** is a run of its client, and leaves the link orderly. -/
theorem Orderly.run (h : link.Orderly) (occurrences : List Occurrence) :
    link.Told (link.run occurrences) (link.history occurrences) := by
  induction occurrences generalizing link with
  | nil => exact Told.refl h
  | cons occurrence rest ih =>
    have hfirst := h.befall occurrence
    have hrest := ih hfirst.orderly
    refine ⟨?_, ?_, hrest.orderly⟩
    · rw [run_cons, hrest.client, hfirst.client, history, Client.after_append]
    · rw [run_cons, hrest.resolved, hfirst.resolved, hfirst.client, history,
        Client.resolutions, Client.resolutions, Client.resolutions, Client.moments_append,
        List.flatMap_append, List.append_assoc]

/-- What has come before a single step of a run, and what comes after it, are runs as well. -/
lemma deeds_eq_append {occurrences : List Occurrence} {past rest : List Deed} {deed : Deed}
    (h : link.deeds occurrences = past ++ deed :: rest) :
    ∃ earlier later, occurrences = earlier ++ deed.occurrence :: later ∧
      past = link.deeds earlier ∧ deed.before = link.run earlier ∧
      rest = deed.after.deeds later := by
  induction past generalizing link occurrences with
  | nil =>
    cases occurrences with
    | nil => cases h
    | cons occurrence later =>
      obtain ⟨rfl, rfl⟩ := List.cons.inj h
      exact ⟨[], later, rfl, rfl, rfl, rfl⟩
  | cons first past ih =>
    cases occurrences with
    | nil => cases h
    | cons occurrence occurrences =>
      obtain ⟨rfl, htail⟩ := List.cons.inj h
      obtain ⟨earlier, later, rfl, rfl, hbefore, rfl⟩ := ih htail
      exact ⟨occurrence :: earlier, later, rfl, rfl, hbefore, rfl⟩

/-- What is no submission is no submission for the client. -/
lemma event?_handles (link : Link) (occurrence : Occurrence) :
    (link.event? occurrence).elim [] Event.handles = occurrence.handles := by
  unfold event?
  cases occurrence with
  | command command =>
    cases command with
    | submit ticket task => rfl
    | cancel ticket =>
      dsimp only
      split_ifs
      · rfl
      · rcases link.tickets.lookup ticket with _ | id <;> rfl
    | releaseLob locator =>
      dsimp only
      split_ifs <;> rfl
  | ended =>
    dsimp only
    cases link.stage <;> rfl
  | abandoned handle => rfl
  | _ =>
    dsimp only
    split_ifs <;> rfl

/-- The handles that come with the events of an occurrence are those that come with it. -/
lemma events_handles (link : Link) (occurrence : Occurrence) :
    (link.events occurrence).flatMap Event.handles = occurrence.handles := by
  rw [← event?_handles link occurrence, events]
  rcases link.event? occurrence with _ | event
  · rfl
  · simp [Client.eventsOf, Action.follows_handles]

lemma history_handles (link : Link) (occurrences : List Occurrence) :
    (link.history occurrences).flatMap Event.handles = occurrences.flatMap Occurrence.handles := by
  induction occurrences generalizing link with
  | nil => rfl
  | cons occurrence rest ih =>
    rw [history, List.flatMap_append, events_handles, ih, List.flatMap_cons]

/-- A link that has asked for a connection is orderly. -/
lemma orderly_connect (options : ConnectOptions) (random : RandomSource) :
    (connect options random).Orderly where
  sound := (Client.sound_new options.credentials random options.cacheSize).after [.opened]
  stage := rfl
  repeatable _ := rfl

/-- **A run of a link** that has asked for a connection is a run of a new client. -/
theorem connect_run (options : ConnectOptions) (random : RandomSource)
    (occurrences : List Occurrence) :
    let start := connect options random
    let client := Client.new options.credentials random options.cacheSize
    let events := .opened :: start.history occurrences
    (start.run occurrences).Orderly ∧
      (start.run occurrences).client = client.after events ∧
      (start.run occurrences).resolved = client.resolutions events := by
  intro start client events
  have hrun := (orderly_connect options random).run occurrences
  exact ⟨hrun.orderly, hrun.client, hrun.resolved⟩

/-- A logon, from the accepted connection to the first turn. -/
def sampleEstablished : List Occurrence :=
  [.message (.accept ⟨315, 0, 0, 8192, 0⟩),
    .message (.serverInfo { version := 6, banner := "", charset := 873 }), .message .dataTypes,
    .message (.authParameters sampleChallenge), .message (.status ⟨0, 0⟩),
    .message (.authParameters .empty), .message (.status ⟨0, 0⟩), .turn]

end Link

end TnsClient
