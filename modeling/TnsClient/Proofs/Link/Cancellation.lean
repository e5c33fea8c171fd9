import TnsClient.Proofs.Client.Order
import TnsClient.Proofs.Link.Reading
import TnsClient.Proofs.Link.Tickets

set_option autoImplicit false

/-!
# Cancelling

A caller that cancels its task names it by its ticket, at any time: the task may wait, be in flight,
or be done for, and messages, other callers and failures may have come in between. What becomes of
it depends on nothing but whether a request for the task has been written.

## Main definitions

* `TnsClient.Deed.AsksFor` — a request for the task of a handle is written.

## Main results

* `TnsClient.Link.run_conserves` — what was submitted to a link is resolved, in flight or waiting.
* `TnsClient.Link.asked_run` — what is in flight was asked for.
* `TnsClient.Link.resolved_or_flying_of_asksFor` — what was asked for is in flight or resolved.
* `TnsClient.Link.cancel_unsent_or_nothing` — a statement that was not sent is cancelled, and
  cancelling anything else comes to nothing.
-/

namespace TnsClient

/-- A request for the task of a handle is written: it is a request for a task, and the task of the
handle is then in flight. -/
def Deed.AsksFor (deed : Deed) (handle : Handle) : Prop :=
  ∃ request flight, deed.action = .send request ∧ request.isTask = true ∧
    deed.after.client.inFlight = some flight ∧ handle ∈ flight.task.handles

/-- A task is found by any of its handles, if no handle comes twice. -/
lemma eq_of_mem_handles {submitted : List (Nat × Task)}
    (hhandles : (submitted.flatMap fun entry => entry.2.handles).Nodup) {one other : Nat × Task}
    (hone : one ∈ submitted) (hother : other ∈ submitted) {handle : Handle}
    (hmem : handle ∈ one.2.handles) (hmem' : handle ∈ other.2.handles) : one = other := by
  by_contra hne
  have hdisjoint := (List.nodup_flatMap.1 hhandles).2
  have hsymm : Std.Symm (Function.onFun List.Disjoint fun entry : Nat × Task => entry.2.handles) :=
    ⟨fun _ _ => List.Disjoint.symm⟩
  exact hdisjoint.forall hone hother hne hmem hmem'

lemma submissions_handles (occurrences : List Occurrence) :
    (submissions occurrences).flatMap (fun entry => entry.2.handles) =
      occurrences.flatMap Occurrence.handles := by
  induction occurrences with
  | nil => rfl
  | cons occurrence rest ih =>
    rw [List.flatMap_cons, ← ih]
    unfold submissions
    cases occurrence with
    | command command => cases command <;> rfl
    | _ => rfl

namespace Client

variable {client : Client} {events : List Event}

lemma mem_flying_iff {handle : Handle} : handle ∈ client.flying ↔
    ∃ flight, client.inFlight = some flight ∧ handle ∈ flight.task.handles := by
  rcases hflight : client.inFlight with _ | flight <;> simp [flying, hflight]

lemma mem_waiting_iff {handle : Handle} : handle ∈ client.waiting ↔
    ∃ id task, client.queue.task? id = some task ∧ handle ∈ task.handles := by
  simp only [waiting, List.mem_flatMap, TaskQueue.mem_tasks_iff]
  constructor
  · rintro ⟨task, ⟨id, htask⟩, hhandle⟩
    exact ⟨id, task, htask, hhandle⟩
  · rintro ⟨id, task, htask, hhandle⟩
    exact ⟨task, ⟨id, htask⟩, hhandle⟩

/-- What is held after some events has been held before or has been submitted. -/
lemma after_holds (hsound : client.Sound) {handle : Handle} {ping : Bool}
    (hholds : (client.after events).Holds handle ping) :
    client.Holds handle ping ∨
      ∃ task, .submit task ∈ events ∧ handle ∈ task.handles ∧ task.isPing = ping := by
  induction events generalizing client with
  | nil => exact .inl hholds
  | cons event rest ih =>
    have htransition := react_transition hsound.spare event
    rcases ih (htransition.sound hsound) hholds with hbefore | ⟨task, hmem, hhandle⟩
    · rcases htransition.holds hsound hbefore with hbefore | ⟨task, rfl, hhandle⟩
      · exact .inl hbefore
      · exact .inr ⟨task, by simp, hhandle⟩
    · exact .inr ⟨task, by simp [hmem], hhandle⟩

/-- What is in flight before some events is in flight after them or has learned its outcome. -/
lemma after_flying_or_learned (hsound : client.Sound) {handle : Handle}
    (hflying : handle ∈ client.flying) : handle ∈ (client.after events).flying ∨
      handle ∈ (client.resolutions events).map Resolution.handle := by
  induction events generalizing client with
  | nil => exact .inl hflying
  | cons event rest ih =>
    have htransition := react_transition hsound.spare event
    have hresolutions : client.resolutions (event :: rest) =
        (client.react event).resolved ++ (client.react event).client.resolutions rest := rfl
    rw [hresolutions, List.map_append, List.mem_append]
    rcases htransition.flying_or_learned hsound hflying with hstays | hlearned
    · exact (ih (htransition.sound hsound) hstays).imp_right .inr
    · exact .inr (.inl hlearned)

/-- Doing what the client wants puts nothing in flight. -/
lemma after_follows_inFlight {action : Action} {flight : InFlight}
    (h : (client.after action.follows).inFlight = some flight) : client.inFlight = some flight := by
  cases action with
  | send request =>
    rw [Action.follows_send] at h
    split_ifs at h <;> exact h
  | close error =>
    have hlost : client.lost.client.inFlight = some flight := h
    by_cases hclosed : client.phase = .closed
    · rwa [lost_of_closed hclosed] at hlost
    · rw [lost_eq hclosed] at hlost
      cases hlost
  | _ => exact h

end Client

namespace Link

variable {link : Link} {options : ConnectOptions} {random : RandomSource}
  {occurrences : List Occurrence} {handle : Handle}

lemma outcome?_isSome :
    (link.outcome? handle).isSome = true ↔ handle ∈ link.resolved.map Resolution.handle := by
  simp [outcome?, List.find?_isSome]

/-! ## Where the tasks of a run are -/

/-- **No handle is lost** by a link: those of the tasks that were submitted have learned their
outcome, are in flight, or wait. -/
theorem run_conserves (options : ConnectOptions) (random : RandomSource)
    (occurrences : List Occurrence) :
    let link := (connect options random).run occurrences
    ((submissions occurrences).flatMap fun entry => entry.2.handles).Perm
      (link.resolved.map Resolution.handle ++ (link.client.flying ++ link.client.waiting)) := by
  intro link
  obtain ⟨-, hclient, hresolved⟩ := connect_run options random occurrences
  have hconserve := Client.moments_conserve options.credentials random options.cacheSize
    (.opened :: (connect options random).history occurrences)
  rw [List.flatMap_cons, history_handles, ← hclient] at hconserve
  rw [submissions_handles, hresolved, Client.resolutions, List.map_flatMap]
  exact hconserve

/-- So no handle learns its outcome twice, and none that has learned it is in flight or waits. -/
lemma run_nodup (options : ConnectOptions) (random : RandomSource)
    (hhandles : ((submissions occurrences).flatMap fun entry => entry.2.handles).Nodup)
    (hlink : link = (connect options random).run occurrences) :
    (link.resolved.map Resolution.handle ++ (link.client.flying ++ link.client.waiting)).Nodup := by
  subst hlink
  exact (run_conserves options random occurrences).nodup_iff.1 hhandles

lemma mem_submissions_of_history {task : Task} (h : .submit task ∈ link.history occurrences) :
    ∃ ticket, (ticket, task) ∈ submissions occurrences := by
  induction occurrences generalizing link with
  | nil => cases h
  | cons occurrence rest ih =>
    rcases List.mem_append.1 h with hfirst | hrest
    · obtain ⟨ticket, hsome⟩ := submission?_of_mem_events hfirst
      exact ⟨ticket, List.mem_filterMap.2 ⟨occurrence, by simp, hsome⟩⟩
    · obtain ⟨ticket, hmem⟩ := ih hrest
      obtain ⟨found, hfound, hsome⟩ := List.mem_filterMap.1 hmem
      exact ⟨ticket, List.mem_filterMap.2 ⟨found, by simp [hfound], hsome⟩⟩

/-- What a link holds was submitted, and as the ping that it is, or as something else. -/
lemma holds_run {ping : Bool}
    (h : ((connect options random).run occurrences).client.Holds handle ping) :
    ∃ entry ∈ submissions occurrences, handle ∈ entry.2.handles ∧ entry.2.isPing = ping := by
  obtain ⟨-, hclient, -⟩ := connect_run options random occurrences
  rw [hclient] at h
  rcases Client.after_holds (Client.sound_new _ _ _) h with ⟨task, hmem, -⟩ | ⟨task, hmem, htask⟩
  · cases hmem
  · obtain ⟨ticket, hsubmitted⟩ := mem_submissions_of_history
      ((List.mem_cons.1 hmem).resolve_left (by simp))
    exact ⟨(ticket, task), hsubmitted, htask⟩

/-- What is in flight after an occurrence, unless it is a ping, was in flight before, or is asked
for. -/
lemma Orderly.asked (h : link.Orderly) {occurrence : Occurrence} {flight : InFlight}
    (hflight : (link.befall occurrence).client.inFlight = some flight)
    (hping : flight.task.isPing = false) :
    (∀ handle ∈ flight.task.handles, (Deed.mk link occurrence).AsksFor handle) ∨
      ∃ before, link.client.inFlight = some before ∧ before.task = flight.task := by
  have hclient := (h.befall occurrence).client
  rw [hclient, events] at hflight
  rcases hevent : link.event? occurrence with _ | event
  · exact .inr ⟨flight, by simpa [hevent] using hflight, rfl⟩
  · simp only [hevent, Client.eventsOf, Client.after_cons] at hflight
    have hstep := Client.after_follows_inFlight hflight
    have htransition := Client.react_transition h.sound.spare event
    refine (htransition.asks_or_flies h.sound hstep hping).imp_left fun hasks handle hmem => ?_
    have haction : (Deed.mk link occurrence).action = (link.client.react event).action := by
      simp only [Deed.action, hevent]
    cases hsend : (link.client.react event).action with
    | send request =>
      rw [hsend] at hasks haction
      refine ⟨request, flight, haction, hasks, ?_, hmem⟩
      show (link.befall occurrence).client.inFlight = some flight
      rw [hclient, events, hevent]
      exact hflight
    | _ => simp [hsend, Action.asksTask] at hasks

/-- **What is in flight**, unless it is a ping, was asked for. -/
lemma asked_run {flight : InFlight}
    (hflight : ((connect options random).run occurrences).client.inFlight = some flight)
    (hping : flight.task.isPing = false) (hmem : handle ∈ flight.task.handles) :
    ∃ deed ∈ (connect options random).deeds occurrences, deed.AsksFor handle := by
  induction occurrences using List.reverseRecOn generalizing flight with
  | nil => cases hflight
  | append_singleton occurrences occurrence ih =>
    rw [run_concat] at hflight
    rw [deeds_concat]
    obtain ⟨horderly, -⟩ := connect_run options random occurrences
    rcases horderly.asked hflight hping with hasks | ⟨before, hbefore, htask⟩
    · exact ⟨_, by simp, hasks handle hmem⟩
    · obtain ⟨deed, hdeed, hasks⟩ := ih hbefore (by rwa [htask]) (by rwa [htask])
      exact ⟨deed, List.mem_append_left _ hdeed, hasks⟩

/-- **What was asked for** is in flight or has learned its outcome. -/
lemma resolved_or_flying_of_asksFor {deed : Deed}
    (hdeed : deed ∈ (connect options random).deeds occurrences) (hasks : deed.AsksFor handle) :
    let link := (connect options random).run occurrences
    handle ∈ link.resolved.map Resolution.handle ∨ handle ∈ link.client.flying := by
  intro link
  obtain ⟨past, rest, hsplit⟩ := List.append_of_mem hdeed
  obtain ⟨earlier, later, rfl, -, hbefore, -⟩ := deeds_eq_append hsplit
  obtain ⟨-, flight, -, -, hflight, hmem⟩ := hasks
  have horderly : deed.after.Orderly := by
    rw [Deed.after, hbefore]
    exact ((orderly_connect options random).run earlier).orderly.befall _ |>.orderly
  have hlink : link = deed.after.run later := by
    rw [Deed.after, hbefore]
    exact run_append _ earlier _
  have htold := horderly.run later
  rw [hlink, htold.resolved, htold.client, List.map_append, List.mem_append]
  rcases Client.after_flying_or_learned horderly.sound
    (Client.mem_flying_iff.2 ⟨flight, hflight, hmem⟩) with hflying | hlearned
  · exact .inr hflying
  · exact .inl (.inr hlearned)

/-! ## Cancelling -/

/-- A statement that was submitted, is not resolved and was not asked for waits under its ticket. -/
lemma waits_of_unsent {ticket : Nat} {request : StatementRequest}
    (hkept : Kept (submissions occurrences) ((connect options random).run occurrences))
    (hhandles : ((submissions occurrences).flatMap fun entry => entry.2.handles).Nodup)
    (hsubmitted : (ticket, .statement request handle) ∈ submissions occurrences)
    (hopen : ((connect options random).run occurrences).outcome? handle = none)
    (hunsent : ∀ deed ∈ (connect options random).deeds occurrences, ¬deed.AsksFor handle) :
    let link := (connect options random).run occurrences
    ∃ id, link.tickets.lookup ticket = some id ∧
      link.client.queue.task? id = some (.statement request handle) := by
  intro link
  -- whatever holds the handle is no ping, for the handle was submitted with a statement
  have hkind : ∀ {task : Task}, task ∈ link.client.held → handle ∈ task.handles →
      task.isPing = false := by
    intro task hmem hhandle
    obtain ⟨entry, hentry, hhandle', hping⟩ := holds_run ⟨task, hmem, hhandle, rfl⟩
    obtain rfl := eq_of_mem_handles hhandles hsubmitted hentry List.mem_cons_self hhandle'
    exact hping.symm
  have hplace : handle ∈ link.resolved.map Resolution.handle ++
      (link.client.flying ++ link.client.waiting) :=
    (run_conserves options random occurrences).mem_iff.1
      (List.mem_flatMap.2 ⟨_, hsubmitted, List.mem_cons_self⟩)
  have hunresolved : handle ∉ link.resolved.map Resolution.handle := by
    rw [← outcome?_isSome, hopen]
    simp
  rw [List.mem_append, List.mem_append] at hplace
  rcases hplace.resolve_left hunresolved with hflying | hwaiting
  · obtain ⟨flight, hflight, hmem⟩ := Client.mem_flying_iff.1 hflying
    have hping := hkind (List.mem_append_left _ (by simp [hflight])) hmem
    obtain ⟨deed, hdeed, hasks⟩ := asked_run hflight hping hmem
    exact absurd hasks (hunsent deed hdeed)
  · obtain ⟨id, task, htask, hmem⟩ := Client.mem_waiting_iff.1 hwaiting
    have hping := hkind (List.mem_append_right _ (TaskQueue.mem_tasks_iff.2 ⟨id, htask⟩)) hmem
    obtain ⟨ticket', hticket⟩ := hkept.register.ticketed id task htask
    obtain ⟨task', hsubmitted', hvacated | ⟨waiting, hwaiting, hextends⟩⟩ :=
      hkept.register.known ticket' id hticket
    · rw [hvacated.task?_eq_none] at htask
      cases htask
    · obtain rfl := Option.some.inj (htask.symm.trans hwaiting)
      cases hextends with
      | refl =>
        -- the ticket that is found is that of the statement, for nobody else has its handle
        obtain ⟨rfl, rfl⟩ := Prod.mk.inj
          (eq_of_mem_handles hhandles hsubmitted hsubmitted' List.mem_cons_self hmem)
        exact ⟨id, hkept.register.lookup_eq_some_iff.2 hticket, htask⟩
      | ping => cases hping

/-- A task one of whose handles is resolved or in flight does not wait under its ticket. -/
lemma gone_of_sent {ticket : Nat} {task : Task} {id : TaskId}
    (hkept : Kept (submissions occurrences) ((connect options random).run occurrences))
    (htickets : ((submissions occurrences).map Prod.fst).Nodup)
    (hhandles : ((submissions occurrences).flatMap fun entry => entry.2.handles).Nodup)
    (hsubmitted : (ticket, task) ∈ submissions occurrences) (hmem : handle ∈ task.handles)
    (hsent : handle ∈ ((connect options random).run occurrences).resolved.map Resolution.handle ∨
      handle ∈ ((connect options random).run occurrences).client.flying)
    (hlookup : ((connect options random).run occurrences).tickets.lookup ticket = some id) :
    ((connect options random).run occurrences).client.queue.task? id = none := by
  obtain ⟨task', hsubmitted', hvacated | ⟨waiting, hwaiting, hextends⟩⟩ :=
    hkept.register.known ticket id (hkept.register.lookup_eq_some_iff.1 hlookup)
  · exact hvacated.task?_eq_none
  · obtain rfl : task = task' := congrArg Prod.snd
      (List.inj_on_of_nodup_map htickets hsubmitted hsubmitted' rfl)
    have hstays : handle ∈ waiting.handles := by
      cases hextends with
      | refl => exact hmem
      | ping => exact List.mem_append_left _ hmem
    have hapart := run_nodup options random hhandles rfl
    rw [← List.append_assoc] at hapart
    refine absurd (Client.mem_waiting_iff.2 ⟨id, waiting, hwaiting, hstays⟩) fun hwaits => ?_
    exact List.disjoint_of_nodup_append hapart (List.mem_append.2 hsent) hwaits

/-- The queue of a run is in order, as long as fewer than `2 ^ 32` tasks of one and the same slot
are cancelled. -/
lemma ordered_run (past more : List Occurrence)
    (hfew : ∀ index,
      cancellations ((connect options random).moments (past ++ more)) index < UInt32.size) :
    ((connect options random).run past).client.queue.Ordered := by
  obtain ⟨-, hclient, -⟩ := connect_run options random past
  rw [hclient]
  refine Client.ordered_after _ _ _ _ fun index => lt_of_le_of_lt ?_ (hfew index)
  unfold cancellations moments
  rw [history_append, Client.moments_append]
  simp only [Client.moments, List.filterMap_append, List.countP_append]
  exact Nat.le_add_right _ _

/-- A link at which somebody waits is not finished. -/
lemma Orderly.unfinished (h : link.Orderly) (hwaiting : handle ∈ link.client.waiting) :
    link.isFinished = false := by
  by_contra hfinished
  have hover := h.isOver.trans (Bool.eq_true_of_not_eq_false hfinished)
  rw [(h.sound.nothing_pending hover).2] at hwaiting
  cases hwaiting

/-- Forgetting a ticket leaves the others known. -/
lemma lookup_without {ticket other : Nat} (hne : other ≠ ticket) :
    (link.without ticket).lookup other = link.tickets.lookup other := by
  unfold without
  induction link.tickets with
  | nil => rfl
  | cons entry rest ih =>
    by_cases hkept : entry.1 = ticket
    · have hother : (other == entry.1) = false := by simpa [hkept] using hne
      rw [List.filter_cons_of_neg (by simpa using hkept), List.lookup_cons, hother]
      exact ih
    · rw [List.filter_cons_of_pos (by simpa using hkept), List.lookup_cons, List.lookup_cons, ih]

/-- Cancelling sends nothing. -/
lemma action_cancel (link : Link) (ticket : Nat) :
    (Deed.mk link (.command (.cancel ticket))).action = .wait := by
  have hcancel : ∀ id, (link.client.react (.cancel id)).action = .wait := by
    intro id
    show (link.client.cancel id).2.action = .wait
    unfold Client.cancel
    split <;> rfl
  simp only [Deed.action, event?]
  cases link.isFinished
  · rcases link.tickets.lookup ticket with _ | id
    · rfl
    · exact hcancel id
  · rfl

/-- What is resolved stays as it is. -/
lemma Orderly.outcome?_run (h : link.Orderly) {outcome : Outcome}
    (houtcome : link.outcome? handle = some outcome) (more : List Occurrence) :
    (link.run more).outcome? handle = some outcome := by
  unfold outcome? at houtcome ⊢
  obtain ⟨resolution, hfind, rfl⟩ := Option.map_eq_some_iff.1 houtcome
  rw [(h.run more).resolved, List.find?_append, hfind]
  rfl

/-- Whoever is resolved is never asked for. -/
lemma not_asksFor_of_resolved {past more : List Occurrence} {deed : Deed}
    (hhandles : ((submissions (past ++ more)).flatMap fun entry => entry.2.handles).Nodup)
    (hresolved : (((connect options random).run past).outcome? handle).isSome = true)
    (hdeed : deed ∈ ((connect options random).run past).deeds more) : ¬deed.AsksFor handle := by
  rintro ⟨-, flight, -, -, hflight, hmem⟩
  obtain ⟨before, rest, hsplit⟩ := List.append_of_mem hdeed
  obtain ⟨earlier, later, rfl, -, hbefore, -⟩ := deeds_eq_append hsplit
  have hafter : deed.after =
      (connect options random).run (past ++ (earlier ++ [deed.occurrence])) := by
    rw [Deed.after, hbefore, run_append, run_concat]
  have horderly := ((orderly_connect options random).run past).orderly
  obtain ⟨outcome, houtcome⟩ := Option.isSome_iff_exists.1 hresolved
  have hstays : (deed.after.outcome? handle).isSome = true := by
    rw [hafter, run_append, horderly.outcome?_run houtcome]
    rfl
  have hpart : ((submissions (past ++ (earlier ++ [deed.occurrence]))).flatMap
      fun entry => entry.2.handles).Nodup := by
    refine hhandles.sublist ?_
    rw [submissions_handles, submissions_handles]
    simp
  have hapart := run_nodup options random hpart hafter
  exact List.disjoint_of_nodup_append hapart (outcome?_isSome.1 hstays)
    (List.mem_append_left _ (Client.mem_flying_iff.2 ⟨flight, hflight, hmem⟩))

/-- A statement that waits under its ticket learns that it is cancelled, and nothing else comes of
cancelling it but that it is left out of the tasks that wait. -/
lemma cancel_waiting {ticket : Nat} {id : TaskId} {request : StatementRequest}
    (hordered : link.client.queue.Ordered) (hfinished : link.isFinished = false)
    (hlookup : link.tickets.lookup ticket = some id)
    (hwaits : link.client.queue.task? id = some (.statement request handle))
    (hopen : link.outcome? handle = none) :
    let next := link.befall (.command (.cancel ticket))
    next.resolved = link.resolved ++ [⟨handle, .error .cancelled⟩] ∧
      next.written = link.written ∧
      next.client.inFlight = link.client.inFlight ∧
      (∃ front back, link.client.line = front ++ .statement request handle :: back ∧
        next.client.line = front ++ back) ∧
      next.outcome? handle = some (.error .cancelled) := by
  intro next
  obtain ⟨rest, hremove⟩ : ∃ rest,
      link.client.queue.remove id = some (.statement request handle, rest) :=
    ⟨_, TaskQueue.remove_eq_some_iff.2 ⟨hwaits, rfl⟩⟩
  have hnext : next = _ := befall_cancel_of_waiting hfinished hlookup hremove
  have hresolved : next.resolved = link.resolved ++ [⟨handle, .error .cancelled⟩] := by
    rw [hnext]
    rfl
  obtain ⟨front, back, hline, hshort⟩ := TaskQueue.remove_toList hordered hremove
  refine ⟨hresolved, by rw [hnext], by rw [hnext],
    ⟨front.map Prod.snd, back.map Prod.snd, ?_, ?_⟩, ?_⟩
  · rw [Client.line, hline]
    simp
  · rw [hnext, Client.line, hshort, List.map_append]
  · have hnone := Option.map_eq_none_iff.1 hopen
    rw [outcome?, hresolved, List.find?_append, hnone]
    simp

/-- Where nothing waits under a ticket, cancelling it does no more than to forget the ticket. -/
lemma cancel_gone {ticket : Nat}
    (hgone : ∀ id, link.tickets.lookup ticket = some id → link.client.queue.task? id = none) :
    let next := link.befall (.command (.cancel ticket))
    next = { link with tickets := next.tickets } ∧
      ∀ other ≠ ticket, next.tickets.lookup other = link.tickets.lookup other := by
  intro next
  cases hfinished : link.isFinished
  · cases hlookup : link.tickets.lookup ticket with
    | none =>
      have hnext : next = link := befall_cancel_of_unknown hlookup
      rw [hnext]
      exact ⟨rfl, fun _ _ => rfl⟩
    | some id =>
      have hnext : next = _ := befall_cancel_of_gone hfinished hlookup (hgone id hlookup)
      rw [hnext]
      exact ⟨rfl, fun other hne => lookup_without hne⟩
  · have hnext : next = link := befall_cancel_of_finished hfinished ticket
    rw [hnext]
    exact ⟨rfl, fun _ _ => rfl⟩

/-- **Cancelling works until the request is written, and then comes to nothing.** Whatever befalls a
link after its logon, in any order, where no two tasks are submitted under one ticket or with one
handle, and fewer than `2 ^ 32` tasks of one and the same slot of the queue are cancelled; when the
task of a ticket is cancelled:

* a statement that was submitted under the ticket, that has not learned its outcome and no request
  for which has been written learns that it is cancelled, and nobody learns anything else; nothing
  is written; what is in flight stays as it is, and of the tasks that wait this one is left out; and
  no request for the statement is written and no other outcome comes to it, whatever befalls the
  link afterwards;
* if a handle of the task that was submitted under the ticket has learned its outcome, or a request
  for it has been written, then nothing changes but that the ticket is forgotten. -/
theorem cancel_unsent_or_nothing (options : ConnectOptions) (random : RandomSource)
    (occurrences : List Occurrence)
    (hlogon : ∀ deed ∈ (connect options random).deeds occurrences, ∀ command,
      deed.occurrence = .command command → deed.before.stage ≠ .logon)
    (htickets : ((submissions occurrences).map Prod.fst).Nodup)
    (hhandles : ((submissions occurrences).flatMap fun entry => entry.2.handles).Nodup)
    (hfew : ∀ index,
      cancellations ((connect options random).moments occurrences) index < UInt32.size) :
    let start := connect options random
    ∀ past ticket more, occurrences = past ++ .command (.cancel ticket) :: more →
      let link := start.run past
      let next := link.befall (.command (.cancel ticket))
      (∀ request handle, (ticket, .statement request handle) ∈ submissions past →
        link.outcome? handle = none → (∀ deed ∈ start.deeds past, ¬deed.AsksFor handle) →
          next.resolved = link.resolved ++ [⟨handle, .error .cancelled⟩] ∧
          next.written = link.written ∧
          next.client.inFlight = link.client.inFlight ∧
          (∃ front back, link.client.line = front ++ .statement request handle :: back ∧
            next.client.line = front ++ back) ∧
          (start.run occurrences).outcome? handle = some (.error .cancelled) ∧
          ∀ deed ∈ start.deeds occurrences, ¬deed.AsksFor handle) ∧
      (∀ task handle, (ticket, task) ∈ submissions past → handle ∈ task.handles →
        ((link.outcome? handle).isSome = true ∨ ∃ deed ∈ start.deeds past, deed.AsksFor handle) →
          next = { link with tickets := next.tickets } ∧
          ∀ other ≠ ticket, next.tickets.lookup other = link.tickets.lookup other) := by
  intro start past ticket more hsplit link next
  subst hsplit
  have hsubmissions : submissions (past ++ .command (.cancel ticket) :: more) =
      submissions past ++ submissions more := by
    rw [submissions_append]
    rfl
  have hpast : ((submissions past).map Prod.fst).Nodup := by
    rw [hsubmissions, List.map_append] at htickets
    exact htickets.of_append_left
  have hpast' : ((submissions past).flatMap fun entry => entry.2.handles).Nodup := by
    rw [hsubmissions, List.flatMap_append] at hhandles
    exact hhandles.of_append_left
  have hkept : Kept (submissions past) link := by
    rw [deeds_append] at hlogon
    exact kept_run options random (fun deed hmem => hlogon deed (List.mem_append_left _ hmem)) hpast
  refine ⟨fun request handle hsubmitted hopen hunsent => ?_,
    fun task handle hsubmitted hmem hsent => ?_⟩
  · obtain ⟨id, hlookup, hwaits⟩ := waits_of_unsent hkept hpast' hsubmitted hopen hunsent
    have hunfinished : link.isFinished = false := hkept.orderly.unfinished
      (Client.mem_waiting_iff.2 ⟨id, _, hwaits, List.mem_cons_self⟩)
    obtain ⟨hresolved, hwritten, hflight, hline, houtcome⟩ :=
      cancel_waiting (ordered_run past _ hfew) hunfinished hlookup hwaits hopen
    refine ⟨hresolved, hwritten, hflight, hline, ?_, ?_⟩
    · rw [run_append, run_cons]
      exact (hkept.orderly.befall _).orderly.outcome?_run houtcome more
    · intro deed hdeed
      rw [deeds_append, List.mem_append, deeds, List.mem_cons] at hdeed
      rcases hdeed with hdeed | rfl | hdeed
      · exact hunsent deed hdeed
      · rintro ⟨request', -, hsend, -⟩
        rw [action_cancel] at hsend
        cases hsend
      · have hnow : next = start.run (past ++ [.command (.cancel ticket)]) := (run_concat ..).symm
        rw [show link.befall _ = next from rfl, hnow] at hdeed
        refine not_asksFor_of_resolved (by simpa using hhandles) ?_ hdeed
        rw [← hnow, houtcome]
        rfl
  · refine cancel_gone fun id hlookup => ?_
    have hsent' : handle ∈ link.resolved.map Resolution.handle ∨ handle ∈ link.client.flying := by
      rcases hsent with hresolved | ⟨deed, hdeed, hasks⟩
      · exact .inl (outcome?_isSome.1 hresolved)
      · exact resolved_or_flying_of_asksFor hdeed hasks
    exact gone_of_sent hkept hpast hpast' hsubmitted hmem hsent' hlookup

/-- A logon, two statements and a ping; the second statement is cancelled, and then the first. -/
def sampleCancellations : List Occurrence :=
  sampleEstablished ++
    [.command (.submit 1 (.statement (.ofSql "select 1 from dual" [] {}) 11)),
      .command (.submit 2 (.statement (.ofSql "select 2 from dual" [] {}) 12)),
      .command (.submit 3 (.ping [13])), .command (.cancel 2), .command (.cancel 1)]

/-- The statement that waits is cancelled, and the one in flight is not. -/
theorem cancel_unsent_or_nothing_sample :
    let link := sample.run (sampleCancellations.take 11)
    let later := sample.run (sampleCancellations.take 12)
    (∀ deed ∈ sample.deeds sampleCancellations, ∀ command,
        deed.occurrence = .command command → deed.before.stage ≠ .logon) ∧
      ((submissions sampleCancellations).map Prod.fst).Nodup ∧
      ((submissions sampleCancellations).flatMap fun entry => entry.2.handles).Nodup ∧
      (∀ index, cancellations (sample.moments sampleCancellations) index < UInt32.size) ∧
      (link.befall (.command (.cancel 2))).resolved =
        link.resolved ++ [⟨12, .error .cancelled⟩] ∧
      later.befall (.command (.cancel 1)) =
        { later with tickets := (later.befall (.command (.cancel 1))).tickets } := by
  intro link later
  have hreads : ∀ deed ∈ sample.deeds sampleCancellations,
      deed.before.stage = .logon → deed.occurrence.isRead = true := by decide +kernel
  have hlogon : ∀ deed ∈ sample.deeds sampleCancellations, ∀ command,
      deed.occurrence = .command command → deed.before.stage ≠ .logon := by
    intro deed hmem command hcommand hstage
    have hread := hreads deed hmem hstage
    rw [hcommand] at hread
    cases hread
  have htickets : ((submissions sampleCancellations).map Prod.fst).Nodup := by decide +kernel
  have hhandles : ((submissions sampleCancellations).flatMap
      fun entry => entry.2.handles).Nodup := by decide +kernel
  have hfew : ∀ index,
      cancellations (sample.moments sampleCancellations) index < UInt32.size := by
    intro index
    refine lt_of_le_of_lt List.countP_le_length ?_
    decide +kernel
  have hcancel := cancel_unsent_or_nothing _ _ sampleCancellations hlogon htickets hhandles hfew
  refine ⟨hlogon, htickets, hhandles, hfew, ?_, ?_⟩
  · have hopen : link.outcome? 12 = none := by
      have hnone : (link.outcome? 12).isNone = true := by decide +kernel
      exact Option.isNone_iff_eq_none.1 hnone
    have hunsent : ∀ deed ∈ sample.deeds (sampleCancellations.take 11), ¬deed.AsksFor 12 := by
      have hnever : ∀ deed ∈ sample.deeds (sampleCancellations.take 11),
          12 ∉ deed.after.client.flying := by decide +kernel
      rintro deed hdeed ⟨_, flight, -, -, hflight, hmem⟩
      exact hnever deed hdeed (Client.mem_flying_iff.2 ⟨flight, hflight, hmem⟩)
    exact ((hcancel (sampleCancellations.take 11) 2 [.command (.cancel 1)] rfl).1
      (.ofSql "select 2 from dual" [] {}) 12 (by decide +kernel) hopen hunsent).1
  · have hasked : ∃ deed ∈ sample.deeds (sampleCancellations.take 12), deed.AsksFor 11 := by
      have hflying : 11 ∈ later.client.flying := by decide +kernel
      have hping : (later.client.inFlight.all fun flight => !flight.task.isPing) = true := by
        decide +kernel
      obtain ⟨flight, hflight, hmem⟩ := Client.mem_flying_iff.1 hflying
      obtain ⟨options, random, hsample⟩ : ∃ options random, sample = connect options random :=
        ⟨_, _, rfl⟩
      have hkind : flight.task.isPing = false := by simpa [hflight] using hping
      simp only [later, hsample] at hflight ⊢
      exact asked_run hflight hkind hmem
    exact ((hcancel (sampleCancellations.take 12) 1 [] rfl).2
      (.statement (.ofSql "select 1 from dual" [] {}) 11) 11 (by decide +kernel)
      List.mem_cons_self (.inr hasked)).1

end Link

end TnsClient
