import TnsClient.Proofs.Client.Outcome
import TnsClient.Proofs.Client.Whereabouts
import TnsClient.Proofs.Link.Run

set_option autoImplicit false

/-!
# What tickets stand for

A caller names its task by a ticket, and the link keeps the id of the task as long as it may wait.
An id is of a slot that other tasks may have had before and others may have afterwards, and tickets
are only looked through when the next task is submitted; in between a task may have been started,
have been cancelled or have been given up. Still a ticket is never the ticket of somebody else's
task: the slot of its id is as the task has left it until a task is submitted, and then the ticket
is forgotten before the slot can be had by another task.

## Main definitions

* `TnsClient.submissions` — the tasks that are submitted, with their tickets.
* `TnsClient.Link.Register` — what the tickets of a link stand for.

## Main results

* `TnsClient.Link.Register.submit` — submitting a task keeps the register.
* `TnsClient.Link.Kept.befall` — whatever befalls a link keeps it.
* `TnsClient.Link.kept_run` — so it is kept by every run in which no ticket comes twice.
-/

namespace TnsClient

/-- The task that an occurrence submits, with its ticket. -/
def Occurrence.submission? : Occurrence → Option (Nat × Task)
  | command (.submit ticket task) => some (ticket, task)
  | _ => none

/-- The tasks that are submitted, with their tickets. -/
def submissions (occurrences : List Occurrence) : List (Nat × Task) :=
  occurrences.filterMap Occurrence.submission?

lemma Occurrence.eq_submit {occurrence : Occurrence} {ticket : Nat} {task : Task}
    (h : occurrence.submission? = some (ticket, task)) :
    occurrence = .command (.submit ticket task) := by
  unfold submission? at h
  split at h
  · obtain ⟨rfl, rfl⟩ := Prod.mk.inj (Option.some.inj h)
    rfl
  · cases h

lemma submissions_append (occurrences more : List Occurrence) :
    submissions (occurrences ++ more) = submissions occurrences ++ submissions more :=
  List.filterMap_append

lemma submissions_concat (occurrences : List Occurrence) (occurrence : Occurrence) :
    submissions (occurrences ++ [occurrence]) =
      submissions occurrences ++ occurrence.submission?.toList := by
  rw [submissions_append]
  unfold submissions
  rcases h : occurrence.submission? with _ | entry <;> simp [h]

/-! ## Events without a submission -/

lemma Action.not_mem_follows (action : Action) (task : Task) : .submit task ∉ action.follows := by
  cases action with
  | send request =>
    rw [follows_send]
    split_ifs <;> simp
  | _ => simp [follows]

namespace Client

variable {client : Client} {events : List Event}

lemma after_shrinks (hsound : client.Sound) (hevents : ∀ task, .submit task ∉ events) :
    client.queue.Shrinks (client.after events).queue := by
  induction events generalizing client with
  | nil => exact .refl _
  | cons event rest ih =>
    have htransition := react_transition hsound.spare event
    have hfirst := htransition.shrinks hsound fun task heq => hevents task (by simp [heq])
    exact hfirst.trans
      (ih (htransition.sound hsound) fun task hmem => hevents task (by simp [hmem]))

lemma IdleIfFree.after (h : client.IdleIfFree) (hsound : client.Sound)
    (hevents : ∀ task, .submit task ∉ events) : (client.after events).IdleIfFree := by
  induction events generalizing client with
  | nil => exact h
  | cons event rest ih =>
    have htransition := react_transition hsound.spare event
    have hfirst := htransition.idleIfFree hsound h
      fun task heq => absurd (heq ▸ List.mem_cons_self) (hevents task)
    exact ih hfirst (htransition.sound hsound) fun task hmem => hevents task (by simp [hmem])

end Client

namespace Link

variable {link : Link}

/-- Only a submission is one for the client. -/
lemma submission?_of_mem_events {occurrence : Occurrence} {task : Task}
    (h : .submit task ∈ link.events occurrence) :
    ∃ ticket, occurrence.submission? = some (ticket, task) := by
  have hevent : link.event? occurrence = some (.submit task) := by
    unfold events at h
    rcases hevent : link.event? occurrence with _ | event
    · simp [hevent] at h
    · simp only [hevent, Client.eventsOf] at h
      rcases List.mem_cons.1 h with rfl | hmem
      · rfl
      · exact absurd hmem (Action.not_mem_follows _ task)
  unfold event? at hevent
  cases occurrence with
  | command command =>
    cases command with
    | submit ticket task' =>
      obtain rfl := Event.submit.inj (Option.some.inj hevent)
      exact ⟨ticket, rfl⟩
    | cancel ticket =>
      dsimp only at hevent
      split_ifs at hevent
      obtain ⟨id, -, heq⟩ := Option.map_eq_some_iff.1 hevent
      cases heq
    | releaseLob locator =>
      dsimp only at hevent
      split_ifs at hevent
      cases hevent
  | ended =>
    dsimp only at hevent
    split at hevent <;> cases hevent
  | abandoned handle => cases hevent
  | _ =>
    dsimp only at hevent
    split_ifs at hevent
    cases hevent

/-! ## The register -/

/-- **What tickets stand for**, where it is given which tasks were submitted. No ticket comes twice;
the id that is kept for one was that of its task, which either waits, with those that have joined
it, or has left its slot empty; and every task that waits has a ticket. -/
structure Register (submitted : List (Nat × Task)) (tickets : List (Nat × TaskId))
    (queue : TaskQueue Task) : Prop where
  distinct : (tickets.map Prod.fst).Nodup
  known : ∀ ticket id, (ticket, id) ∈ tickets → ∃ task, (ticket, task) ∈ submitted ∧
    (queue.Vacated id ∨ ∃ waiting, queue.task? id = some waiting ∧ task.Extends waiting)
  ticketed : ∀ id waiting, queue.task? id = some waiting → ∃ ticket, (ticket, id) ∈ tickets

namespace Register

variable {submitted : List (Nat × Task)} {tickets : List (Nat × TaskId)}
  {queue other : TaskQueue Task}

/-- Taking tasks out of the queue. -/
lemma shrinks (h : Register submitted tickets queue) (hshrinks : queue.Shrinks other) :
    Register submitted tickets other where
  distinct := h.distinct
  known ticket id hmem := by
    obtain ⟨task, hsubmitted, hvacated | ⟨waiting, hwaiting, hextends⟩⟩ := h.known ticket id hmem
    · exact ⟨task, hsubmitted, .inl (hshrinks.vacated hvacated)⟩
    · refine ⟨task, hsubmitted, ?_⟩
      rcases hshrinks.settle hwaiting with hstays | hvacated
      · exact .inr ⟨waiting, hstays, hextends⟩
      · exact .inl hvacated
  ticketed id waiting hwaiting := h.ticketed id waiting (hshrinks.task?_eq_some hwaiting)

/-- Submitting more. -/
lemma mono (h : Register submitted tickets queue) (more : List (Nat × Task)) :
    Register (submitted ++ more) tickets queue where
  distinct := h.distinct
  known ticket id hmem := by
    obtain ⟨task, hsubmitted, hplace⟩ := h.known ticket id hmem
    exact ⟨task, List.mem_append_left _ hsubmitted, hplace⟩
  ticketed := h.ticketed

/-- Forgetting the tickets of tasks that no longer wait. -/
lemma prune (h : Register submitted tickets queue) :
    Register submitted (tickets.filter fun (_, id) => queue.contains id) queue where
  distinct := h.distinct.sublist (List.filter_sublist.map _)
  known ticket id hmem := h.known ticket id (List.mem_of_mem_filter hmem)
  ticketed id waiting hwaiting := by
    obtain ⟨ticket, hmem⟩ := h.ticketed id waiting hwaiting
    exact ⟨ticket, List.mem_filter.2 ⟨hmem, by simp [TaskQueue.contains, hwaiting]⟩⟩

/-- A ping that joins one that waits. -/
lemma join (h : Register submitted tickets queue) {found : TaskId} {handles : List Handle}
    (hfound : queue.task? found = some (.ping handles)) (more : List Handle) :
    Register submitted tickets (queue.replace found (.ping (handles ++ more))) where
  distinct := h.distinct
  known ticket id hmem := by
    obtain ⟨task, hsubmitted, hvacated | ⟨waiting, hwaiting, hextends⟩⟩ := h.known ticket id hmem
    · exact ⟨task, hsubmitted, .inl (hvacated.replace hfound _)⟩
    · refine ⟨task, hsubmitted, .inr ?_⟩
      by_cases hid : id = found
      · subst hid
        obtain rfl := Option.some.inj (hwaiting.symm.trans hfound)
        exact ⟨_, by rw [TaskQueue.task?_replace hfound, if_pos rfl],
          hextends.trans (.ping handles more)⟩
      · exact ⟨waiting, by rwa [TaskQueue.task?_replace hfound, if_neg hid], hextends⟩
  ticketed id waiting hwaiting := by
    rw [TaskQueue.task?_replace hfound] at hwaiting
    split_ifs at hwaiting with hid
    · exact hid ▸ h.ticketed found _ hfound
    · exact h.ticketed id waiting hwaiting

/-- A task that comes to wait. The tickets that are kept are of tasks that wait, and none of them
can have waited under the new id. -/
lemma push (h : Register submitted tickets queue) (hqueue : queue.WellFormed) {ticket : Nat}
    (hnew : ∀ task, (ticket, task) ∉ submitted) (task : Task) :
    Register (submitted ++ [(ticket, task)])
      ((ticket, (queue.push task).1) ::
        tickets.filter fun (_, id) => (queue.push task).2.contains id) (queue.push task).2 where
  distinct := by
    refine List.nodup_cons.2 ⟨fun hmem => ?_, h.distinct.sublist (List.filter_sublist.map _)⟩
    obtain ⟨⟨ticket', id⟩, hkept, rfl⟩ := List.mem_map.1 hmem
    obtain ⟨task', hsubmitted, -⟩ := h.known _ id (List.mem_of_mem_filter hkept)
    exact hnew task' hsubmitted
  known ticket' id hmem := by
    rcases List.mem_cons.1 hmem with heq | hkept
    · obtain ⟨rfl, rfl⟩ := Prod.mk.inj heq
      exact ⟨task, by simp,
        .inr ⟨task, by rw [TaskQueue.task?_push hqueue, if_pos rfl], .refl task⟩⟩
    · obtain ⟨hmem, hcontains⟩ := List.mem_filter.1 hkept
      obtain ⟨waiting, hwaiting⟩ := Option.isSome_iff_exists.1 hcontains
      obtain ⟨task', hsubmitted, hplace⟩ := h.known ticket' id hmem
      have hid : id ≠ (queue.push task).1 := by
        rcases hplace with hvacated | ⟨waiting', hwaiting', -⟩
        · exact hvacated.ne_push task
        · intro heq
          rw [heq, TaskQueue.task?_push_fst hqueue task] at hwaiting'
          cases hwaiting'
      have hold : queue.task? id = some waiting := by
        rwa [TaskQueue.task?_push hqueue, if_neg hid] at hwaiting
      refine ⟨task', List.mem_append_left _ hsubmitted, ?_⟩
      rcases hplace with hvacated | ⟨waiting', hwaiting', hextends⟩
      · rw [hvacated.task?_eq_none] at hold
        cases hold
      · obtain rfl := Option.some.inj (hold.symm.trans hwaiting')
        exact .inr ⟨waiting, hwaiting, hextends⟩
  ticketed id waiting hwaiting := by
    by_cases hid : id = (queue.push task).1
    · exact ⟨ticket, by simp [hid]⟩
    · have hold := hwaiting
      rw [TaskQueue.task?_push hqueue, if_neg hid] at hold
      obtain ⟨ticket', hmem⟩ := h.ticketed id waiting hold
      exact ⟨ticket', List.mem_cons_of_mem _
        (List.mem_filter.2 ⟨hmem, by simp [TaskQueue.contains, hwaiting]⟩)⟩

/-- Nothing is left to be known when no task waits. -/
lemma empty (h : Register submitted tickets queue) (hempty : other.tasks = []) :
    Register submitted (tickets.filter fun (_, id) => other.contains id) other := by
  have hnone : ∀ id waiting, other.task? id ≠ some waiting := by
    intro id waiting hwaiting
    have hmem := TaskQueue.mem_tasks_iff.2 ⟨id, hwaiting⟩
    rw [hempty] at hmem
    cases hmem
  refine ⟨h.distinct.sublist (List.filter_sublist.map _), fun ticket id hmem => ?_,
    fun id waiting hwaiting => absurd hwaiting (hnone id waiting)⟩
  obtain ⟨waiting, hwaiting⟩ := Option.isSome_iff_exists.1 (List.mem_filter.1 hmem).2
  exact absurd hwaiting (hnone id waiting)

/-- What is found under a ticket is kept for it. -/
lemma lookup_eq_some_iff (h : Register submitted tickets queue) {ticket : Nat} {id : TaskId} :
    tickets.lookup ticket = some id ↔ (ticket, id) ∈ tickets := by
  refine ⟨fun hlookup => ?_, fun hmem => ?_⟩
  · obtain ⟨front, back, rfl, -⟩ := List.lookup_eq_some_iff.1 hlookup
    simp
  · obtain ⟨front, back, rfl⟩ := List.append_of_mem hmem
    refine List.lookup_eq_some_iff.2 ⟨front, back, rfl, fun other hother => ?_⟩
    have hdistinct := h.distinct
    rw [List.map_append, List.map_cons, List.nodup_append] at hdistinct
    have hne := hdistinct.2.2 _ (List.mem_map_of_mem hother) ticket (by simp)
    simpa using Ne.symm hne

/-- Cancelling the task of a ticket. -/
lemma cancel (h : Register submitted tickets queue) {ticket : Nat} {id : TaskId}
    (hlookup : tickets.lookup ticket = some id) (hshrinks : queue.Shrinks other)
    (hgone : other.task? id = none) :
    Register submitted (tickets.filter fun (kept, _) => kept != ticket) other where
  distinct := h.distinct.sublist (List.filter_sublist.map _)
  known kept id' hmem := (h.shrinks hshrinks).known kept id' (List.mem_of_mem_filter hmem)
  ticketed id' waiting hwaiting := by
    obtain ⟨kept, hmem⟩ := (h.shrinks hshrinks).ticketed id' waiting hwaiting
    refine ⟨kept, List.mem_filter.2 ⟨hmem, ?_⟩⟩
    have hne : kept ≠ ticket := by
      rintro rfl
      obtain rfl := Option.some.inj (hlookup.symm.trans (h.lookup_eq_some_iff.2 hmem))
      rw [hgone] at hwaiting
      cases hwaiting
    simpa using hne

/-- **Submitting a task** keeps the register, if its ticket is new and no task waits on a client
that is free. -/
lemma submit (h : Register submitted link.tickets link.client.queue) (hsound : link.client.Sound)
    (hidle : link.client.IdleIfFree) {ticket : Nat} (hnew : ∀ task, (ticket, task) ∉ submitted)
    (task : Task) :
    Register (submitted ++ [(ticket, task)]) (link.ticketed ticket task)
      (link.client.submit task).step.client.queue := by
  have hcases := link.client.submit_cases task
  unfold Link.ticketed
  generalize link.client.submit task = submission at hcases ⊢
  cases hcases with
  | refused | joinedFlight => exact h.prune.mono _
  | joinedWaiting _ hwaiting => exact (h.join hwaiting _).prune.mono _
  | waited => exact h.push hsound.queue hnew task
  | served hphase hflight =>
    have hpushed := TaskQueue.push_tasks hsound.queue task
    rw [hidle hflight] at hpushed
    let pushed : Client := { link.client with queue := (link.client.queue.push task).2 }
    have hempty : pushed.startNext.client.queue.tasks = [] :=
      Client.startNext_tasks (TaskQueue.push_wellFormed hsound.queue task) hflight (.inl hphase)
        hpushed.length_eq
    exact (h.empty hempty).mono _

end Register

/-! ## Every occurrence -/

/-- The tickets without one of them. -/
def without (link : Link) (ticket : Nat) : List (Nat × TaskId) :=
  link.tickets.filter fun (kept, _) => kept != ticket

/-- A task that waits is taken out of the queue, and its callers learn that it is cancelled. -/
lemma befall_cancel_of_waiting {ticket : Nat} {id : TaskId} {task : Task} {rest : TaskQueue Task}
    (hfinished : link.isFinished = false) (hlookup : link.tickets.lookup ticket = some id)
    (hremove : link.client.queue.remove id = some (task, rest)) :
    link.befall (.command (.cancel ticket)) =
      { link with
        client := { link.client with queue := rest }
        tickets := link.without ticket
        resolved := link.resolved ++ task.fail .cancelled } := by
  simp only [befall, Link.command, hfinished, Link.cancel, hlookup, Client.cancel, hremove]
  rfl

/-- Of a task that no longer waits only the ticket is forgotten. -/
lemma befall_cancel_of_gone {ticket : Nat} {id : TaskId} (hfinished : link.isFinished = false)
    (hlookup : link.tickets.lookup ticket = some id) (hgone : link.client.queue.task? id = none) :
    link.befall (.command (.cancel ticket)) = { link with tickets := link.without ticket } := by
  simp only [befall, Link.command, hfinished, Link.cancel, hlookup, Client.cancel,
    TaskQueue.remove_eq_none_iff.2 hgone]
  simp only [act, adopt, Client.idle, List.append_nil]
  rfl

/-- Nothing comes of a ticket that is not known. -/
lemma befall_cancel_of_unknown {ticket : Nat} (hlookup : link.tickets.lookup ticket = none) :
    link.befall (.command (.cancel ticket)) = link := by
  unfold befall Link.command
  cases link.isFinished
  · simp only [Link.cancel, hlookup]
  · rfl

lemma befall_cancel_of_finished (hfinished : link.isFinished = true) (ticket : Nat) :
    link.befall (.command (.cancel ticket)) = link := by
  simp only [befall, Link.command, hfinished]

/-- What is neither a submission nor a cancellation leaves the tickets alone. -/
lemma befall_tickets (h : link.Orderly) {occurrence : Occurrence}
    (hsubmit : occurrence.submission? = none)
    (hcancel : ∀ ticket, occurrence ≠ .command (.cancel ticket)) :
    (link.befall occurrence).tickets = link.tickets := by
  have hfail : ∀ error, link.isFinished = false → (link.fail error).tickets = link.tickets := by
    intro error hfinished
    rw [h.fail_eq hfinished]
    exact (h.act (.fail error) (by simp)).2
  cases occurrence with
  | command command =>
    cases command with
    | submit ticket task => cases hsubmit
    | cancel ticket => exact absurd rfl (hcancel ticket)
    | releaseLob locator =>
      unfold befall Link.command
      cases link.isFinished <;> rfl
  | message message =>
    unfold befall
    dsimp only
    split_ifs
    · rfl
    · have hheard : ({ link with
          heard := link.heard ++ [(message, (link.client.handle message).action)] } :
            Link).Orderly :=
        ⟨h.sound, h.stage, h.repeatable⟩
      exact (hheard.act (.message message) (by simp)).2
  | turn =>
    unfold befall
    dsimp only
    split_ifs
    · rfl
    · exact (h.act .next (by simp)).2
  | failed error =>
    unfold befall
    dsimp only
    split_ifs with hfinished
    · rfl
    · exact hfail error (by simpa using hfinished)
  | ended =>
    unfold befall ended
    dsimp only
    split
    · exact hfail _ (by simp [isFinished, *])
    · rfl
    · rfl
  | timedOut milliseconds =>
    unfold befall timeOut
    dsimp only
    split <;> rfl
  | abandoned handle => rfl

/-- What a link needs for its tickets to stand for the tasks that were submitted. -/
structure Kept (submitted : List (Nat × Task)) (link : Link) : Prop where
  orderly : link.Orderly
  idle : link.client.IdleIfFree
  register : Register submitted link.tickets link.client.queue

/-- **Whatever befalls a link** keeps the register, if tasks come after the logon and under new
tickets. -/
lemma Kept.befall {submitted : List (Nat × Task)} (h : Kept submitted link)
    (occurrence : Occurrence)
    (hlogon : ∀ command, occurrence = .command command → link.stage ≠ .logon)
    (hnew : ∀ ticket task, occurrence.submission? = some (ticket, task) →
      ∀ other, (ticket, other) ∉ submitted) :
    Kept (submitted ++ occurrence.submission?.toList) (link.befall occurrence) := by
  have htold := h.orderly.befall occurrence
  have hsound := h.orderly.sound
  cases hsubmission : occurrence.submission? with
  | some entry =>
    obtain ⟨ticket, task⟩ := entry
    obtain rfl := occurrence.eq_submit hsubmission
    have hphase : link.client.phase.isOver = true ∨ link.client.phase.serves = true := by
      have hstage := hlogon _ rfl
      rw [h.orderly.stage] at hstage
      revert hstage
      cases link.client.phase <;> simp [Phase.stage, Phase.isOver, Phase.serves]
    have htransition := Client.react_transition hsound.spare (.submit task)
    have hfollows := (link.client.react (.submit task)).action.not_mem_follows
    have hstep := htransition.sound hsound
    refine ⟨htold.orderly, ?_, ?_⟩
    · rw [htold.client]
      exact (htransition.idleIfFree hsound h.idle fun _ _ => hphase).after hstep hfollows
    · rw [htold.client]
      have hshrinks := Client.after_shrinks hstep hfollows
      cases hfinished : link.isFinished
      · have hticketed : ({ link with tickets := link.ticketed ticket task } : Link).Orderly :=
          ⟨hsound, h.orderly.stage, h.orderly.repeatable⟩
        have htickets : (link.befall (.command (.submit ticket task))).tickets =
            link.ticketed ticket task := by
          simp only [Link.befall, Link.command, hfinished, submit_eq]
          exact (hticketed.act (.submit task) (by simp)).2
        rw [htickets]
        exact (h.register.submit hsound h.idle (hnew ticket task hsubmission) task).shrinks hshrinks
      · have htickets : (link.befall (.command (.submit ticket task))).tickets = link.tickets := by
          simp only [Link.befall, Link.command, hfinished]
        rw [htickets, ← htold.client]
        simp only [Link.befall, Link.command, hfinished]
        exact h.register.mono _
  | none =>
    have hevents : ∀ task, .submit task ∉ link.events occurrence := by
      intro task hmem
      obtain ⟨ticket, hsome⟩ := submission?_of_mem_events hmem
      cases hsubmission.symm.trans hsome
    have hshrinks := Client.after_shrinks hsound hevents
    rw [← htold.client] at hshrinks
    refine ⟨htold.orderly, by rw [htold.client]; exact h.idle.after hsound hevents, ?_⟩
    rw [Option.toList_none, List.append_nil]
    by_cases hcancel : ∃ ticket, occurrence = .command (.cancel ticket)
    · obtain ⟨ticket, rfl⟩ := hcancel
      cases hfinished : link.isFinished
      · cases hlookup : link.tickets.lookup ticket with
        | none =>
          rw [befall_cancel_of_unknown hlookup]
          exact h.register
        | some id =>
          cases hremove : link.client.queue.remove id with
          | none =>
            have hgone := TaskQueue.remove_eq_none_iff.1 hremove
            rw [befall_cancel_of_gone hfinished hlookup hgone]
            exact h.register.cancel hlookup (.refl _) hgone
          | some entry =>
            obtain ⟨task, rest⟩ := entry
            rw [befall_cancel_of_waiting hfinished hlookup hremove]
            exact h.register.cancel hlookup (TaskQueue.remove_shrinks hremove)
              (by rw [TaskQueue.task?_remove hremove, if_pos rfl])
      · rw [befall_cancel_of_finished hfinished]
        exact h.register
    · rw [befall_tickets h.orderly hsubmission fun ticket heq => hcancel ⟨ticket, heq⟩]
      exact h.register.shrinks hshrinks

/-! ## Every run -/

/-- **The tickets of a run** stand for the tasks that were submitted, if tasks come after the logon
and no ticket comes twice.

**Proof sketch.** Induction on the run. In the beginning there are no tickets and no tasks. -/
theorem kept_run (options : ConnectOptions) (random : RandomSource) {occurrences : List Occurrence}
    (hlogon : ∀ deed ∈ (connect options random).deeds occurrences, ∀ command,
      deed.occurrence = .command command → deed.before.stage ≠ .logon)
    (htickets : ((submissions occurrences).map Prod.fst).Nodup) :
    Kept (submissions occurrences) ((connect options random).run occurrences) := by
  induction occurrences using List.reverseRecOn with
  | nil =>
    refine ⟨orderly_connect options random, fun _ => rfl, List.nodup_nil, ?_, ?_⟩
    · intro ticket id hmem
      cases hmem
    · intro id waiting hwaiting
      cases hwaiting
  | append_singleton occurrences occurrence ih =>
    rw [submissions_concat] at htickets ⊢
    rw [List.map_append, List.nodup_append] at htickets
    rw [deeds_concat] at hlogon
    have hkept := ih (fun deed hmem => hlogon deed (List.mem_append_left _ hmem)) htickets.1
    rw [run_concat]
    have hlast := hlogon ⟨(connect options random).run occurrences, occurrence⟩ (by simp)
    refine hkept.befall occurrence hlast fun ticket task heq other hmem => ?_
    exact htickets.2.2 ticket (List.mem_map_of_mem hmem) ticket (by simp [heq]) rfl

end Link

end TnsClient
