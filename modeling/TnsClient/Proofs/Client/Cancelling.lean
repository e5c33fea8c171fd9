import TnsClient.Proofs.Client.Pings

set_option autoImplicit false

/-!
# What cancelling takes out

An id stands for the task that was submitted when it was returned. As long as this task waits it can
be cancelled, and the id finds no other one: its slot goes to the next generation whenever a task is
taken out of it. Cancelling takes out the task with all of its callers, and so a ping with those
that have joined it; everything else is left as it was.

## Main definitions

* `TnsClient.Client.QueueChange` — what becomes of the tasks that wait at a step.
* `TnsClient.Moment.Returns` — a caller gets an id for a task.
* `TnsClient.removals` — how many tasks were taken out of a slot.

## Main results

* `TnsClient.Client.Transition.queue_change` — every step is one of the changes to the queue.
* `TnsClient.Client.waits_since` — a task that has waited ever since has its callers and those that
  have joined.
* `TnsClient.Client.submitted_of_waits` — a task that waits was submitted.
* `TnsClient.Client.cancel_one_task` — what cancelling takes out.
-/

namespace TnsClient

/-- A caller submits a task and gets an id for it. -/
def Moment.Returns (moment : Moment) (task : Task) (id : TaskId) : Prop :=
  moment.event = .submit task ∧ (moment.before.submit task).id = some id

/-- Whether a task is taken out of the slot at this position. -/
def Moment.empties (moment : Moment) (index : Nat) : Bool :=
  moment.step.client.queue.generation index != moment.before.queue.generation index

/-- How many tasks were taken out of the slot at this position. -/
def removals (moments : List Moment) (index : Nat) : Nat :=
  moments.countP fun moment => moment.empties index

namespace Client

variable {client : Client} {event : Event} {step : Step} {after : TaskQueue Task}

/-! ## What becomes of the tasks that wait -/

/-- What becomes of the tasks that wait at a step. -/
inductive QueueChange (client : Client) (event : Event) (after : TaskQueue Task) : Prop
  /-- Tasks are taken out at most, and no ping that waits is joined. -/
  | shrinks (hshrinks : client.queue.Shrinks after)
      (hjoins : ∀ task ∈ client.queue.tasks, task.joined (Moment.joins ⟨client, event⟩) = task)
  /-- A ping that waits is joined. -/
  | joined {id : TaskId} {handles : List Handle}
      (hwaiting : client.queue.task? id = some (.ping handles))
      (hafter : after =
        client.queue.replace id (.ping (handles ++ Moment.joins ⟨client, event⟩)))
  /-- A task lines up, and then tasks are taken out at most. -/
  | linedUp {task : Task} (hevent : event = .submit task)
      (hshrinks : (client.queue.push task).2.Shrinks after)
      (hjoins : Moment.joins ⟨client, event⟩ = [])

/-- **Every step** is one of the changes to the queue. -/
theorem Transition.queue_change (h : client.Transition event step) (hsound : client.Sound)
    (hone : client.pings.length ≤ 1) : client.QueueChange event step.client.queue := by
  by_cases hevent : ∀ task, event ≠ .submit task
  · have hjoins : Moment.joins ⟨client, event⟩ = [] := Moment.joins_of_ne hevent
    exact .shrinks (h.shrinks hsound hevent) (by simp [hjoins])
  cases h with
  | quiet hother | setup hother | failed _ hother => exact absurd hother hevent
  | abandoned | resent | established | heard | lost | turned | cancelled | fetched | finished =>
    exact absurd (by simp) hevent
  | @refused task hphase =>
    have hjoins : Moment.joins ⟨client, .submit task⟩ = [] := by
      cases task <;> simp [Moment.joins, hphase]
    exact .shrinks (.refl _) (by simp [hjoins])
  | @joinedFlight handles others flight hphase hflight htask =>
    -- no ping waits, since one is in flight
    obtain ⟨-, hnone⟩ := filter_tasks_of_flying hone hflight (by rw [htask]; rfl)
    refine .shrinks (.refl _) fun task hmem => Task.joined_of_not_isPing ?_ _
    simpa using List.filter_eq_nil_iff.1 hnone task hmem
  | @joinedWaiting handles others id hphase hwaiting =>
    have hfound := TaskQueue.task?_of_find? hwaiting
    have hpings := (pings_of_waiting hone (TaskQueue.mem_tasks_iff.2 ⟨id, hfound⟩) rfl).1
    have hholds : client.holdsPing = true := (holdsPing_iff hsound.queue).2 (by simp [hpings])
    refine .joined hfound ?_
    rw [joins_of_holdsPing hphase hholds]
    rfl
  | waited _ halone => exact .linedUp rfl (.refl _) (joins_of_alone halone)
  | @served task halone hphase hflight =>
    exact .linedUp rfl (@startNext_shrinks (client.lineUp task) hflight (.inl hphase))
      (joins_of_alone halone)

/-- What befalls a client with one ping at most is one of the changes to its queue. -/
lemma react_queueChange (hsound : client.Sound) (hone : client.pings.length ≤ 1) (event : Event) :
    client.QueueChange event (client.react event).client.queue :=
  (react_transition hsound.spare event).queue_change hsound hone

/-- A step takes a slot to its next generation at most. -/
lemma QueueChange.generation (h : client.QueueChange event after)
    (hqueue : client.queue.WellFormed) (index : Nat) :
    after.generation index = client.queue.generation index ∨
      after.generation index = client.queue.generation index + 1 := by
  cases h with
  | shrinks hshrinks => exact hshrinks.generation index
  | joined hwaiting hafter =>
    rw [hafter]
    exact .inl (TaskQueue.replace_generation hwaiting _ index)
  | @linedUp task _ hshrinks =>
    rw [← TaskQueue.push_generation hqueue task index]
    exact hshrinks.generation index

/-- A task that waits has waited before, or it has just been submitted. -/
lemma QueueChange.origin (h : client.QueueChange event after) (hqueue : client.queue.WellFormed)
    {id : TaskId} {task : Task} (htask : after.task? id = some task) :
    client.queue.contains id = true ∨ event = .submit task ∧ id = (client.queue.push task).1 := by
  unfold TaskQueue.contains
  cases h with
  | shrinks hshrinks => exact .inl (by rw [hshrinks.task?_eq_some htask]; rfl)
  | @joined found handles hwaiting hafter =>
    left
    rw [hafter, TaskQueue.task?_replace hwaiting] at htask
    split_ifs at htask with heq
    · rw [heq, hwaiting]
      rfl
    · rw [htask]
      rfl
  | @linedUp other hevent hshrinks =>
    have hpushed := hshrinks.task?_eq_some htask
    rw [TaskQueue.task?_push hqueue] at hpushed
    split_ifs at hpushed with heq
    · obtain rfl := Option.some.inj hpushed
      exact .inr ⟨hevent, heq⟩
    · rw [hpushed]
      exact .inl rfl

/-- Two pings do not wait. -/
lemma eq_of_isPing (hone : client.pings.length ≤ 1) {id other : TaskId} {task ping : Task}
    (htask : client.queue.task? id = some task) (hping : task.isPing = true)
    (hother : client.queue.task? other = some ping) (hping' : ping.isPing = true) :
    id = other := by
  by_contra hne
  obtain ⟨-, -, htasks⟩ :=
    pings_of_waiting hone (TaskQueue.mem_tasks_iff.2 ⟨other, hother⟩) hping'
  -- without the one there is still the other
  obtain ⟨rest, hremove⟩ : ∃ rest, client.queue.remove other = some (ping, rest) :=
    ⟨_, TaskQueue.remove_eq_some_iff.2 ⟨hother, rfl⟩⟩
  have hstill : rest.task? id = some task := by
    rw [TaskQueue.task?_remove hremove, if_neg hne, htask]
  have hperm := (TaskQueue.remove_tasks hremove).filter Task.isPing
  rw [htasks, List.filter_cons_of_pos hping'] at hperm
  have hnone := hperm.cons_inv.nil_eq
  have hmem : task ∈ rest.tasks.filter Task.isPing :=
    List.mem_filter.2 ⟨TaskQueue.mem_tasks_iff.2 ⟨id, hstill⟩, hping⟩
  rw [← hnone] at hmem
  cases hmem

/-- **A task that has waited** waits with whoever has joined it, or its slot is vacated. -/
lemma QueueChange.keeps (h : client.QueueChange event after) (hqueue : client.queue.WellFormed)
    (hone : client.pings.length ≤ 1) {id : TaskId} {task : Task}
    (htask : client.queue.task? id = some task) :
    after.task? id = some (task.joined (Moment.joins ⟨client, event⟩)) ∨ after.Vacated id := by
  cases h with
  | shrinks hshrinks hjoins =>
    rw [hjoins task (TaskQueue.mem_tasks_iff.2 ⟨id, htask⟩)]
    exact hshrinks.settle htask
  | @joined found handles hwaiting hafter =>
    left
    rw [hafter, TaskQueue.task?_replace hwaiting]
    split_ifs with heq
    · rw [heq, hwaiting] at htask
      obtain rfl := Option.some.inj htask
      rfl
    · rw [htask, Task.joined_of_not_isPing]
      by_contra hping
      exact heq (eq_of_isPing hone htask (by simpa using hping) hwaiting rfl)
  | linedUp _ hshrinks hjoins =>
    rw [hjoins, Task.joined_nil]
    refine hshrinks.settle ?_
    rw [TaskQueue.task?_push hqueue, if_neg, htask]
    rintro rfl
    rw [TaskQueue.task?_push_fst hqueue] at htask
    cases htask

/-! ## Runs -/

/-- A slot counts how many tasks were taken out of it. -/
lemma generation_after (hsound : client.Sound) (hone : client.pings.length ≤ 1)
    (events : List Event) (index : Nat) :
    (client.after events).queue.generation index = client.queue.generation index +
      UInt32.ofNat (removals (client.moments events) index) := by
  induction events using List.reverseRecOn with
  | nil => simp [removals]
  | append_singleton events event ih =>
    let moment : Moment := ⟨client.after events, event⟩
    have hbefore : moment.before.Sound := hsound.after events
    have hchange : moment.before.QueueChange event moment.step.client.queue :=
      react_queueChange hbefore (pings_le_one_after hsound hone events) event
    have hremovals : removals (client.moments (events ++ [event])) index =
        removals (client.moments events) index + if moment.empties index then 1 else 0 := by
      unfold removals
      rw [moments_concat, List.countP_append, List.countP_singleton]
    rw [hremovals, after_concat]
    rcases hchange.generation hbefore.queue index with hsame | hnext
    · have hkept : moment.empties index = false := by simpa [Moment.empties] using hsame
      rw [hkept]
      exact hsame.trans ih
    · have hemptied : moment.empties index = true := by simp [Moment.empties, hnext]
      rw [hemptied, if_pos rfl, UInt32.ofNat_add, ← UInt32.add_assoc, ← ih]
      exact hnext

/-- A task that has waited all the time waits with whoever has joined it. -/
lemma waits_since (hsound : client.Sound) (hone : client.pings.length ≤ 1) {id : TaskId}
    {task : Task} (htask : client.queue.task? id = some task) {events : List Event}
    (hstays : ∀ moment ∈ client.moments events,
      moment.step.client.queue.contains id = true) :
    (client.after events).queue.task? id =
      some (task.joined ((client.moments events).flatMap Moment.joins)) := by
  induction events using List.reverseRecOn with
  | nil => simpa using htask
  | append_singleton events event ih =>
    rw [moments_concat, List.forall_mem_append, List.forall_mem_singleton] at hstays
    rw [moments_concat, after_concat, List.flatMap_append, List.flatMap_singleton,
      ← Task.joined_joined]
    let moment : Moment := ⟨client.after events, event⟩
    have hbefore : moment.before.Sound := hsound.after events
    have hchange : moment.before.QueueChange event moment.step.client.queue :=
      react_queueChange hbefore (pings_le_one_after hsound hone events) event
    refine (hchange.keeps hbefore.queue (pings_le_one_after hsound hone events)
      (ih hstays.1)).resolve_right fun hvacated => ?_
    have hcontains : moment.step.client.queue.contains id = true := hstays.2
    rw [TaskQueue.contains, hvacated.task?_eq_none] at hcontains
    cases hcontains

/-- A task stays where it waits as long as no task is taken out of its slot. -/
lemma stays_of_not_removed (hsound : client.Sound) (hone : client.pings.length ≤ 1) {id : TaskId}
    (hwaits : client.queue.contains id = true) {events : List Event}
    (hnone : removals (client.moments events) id.index = 0) :
    ∀ moment ∈ client.moments events, moment.step.client.queue.contains id = true := by
  induction events generalizing client with
  | nil => simp
  | cons event events ih =>
    have htransition := react_transition hsound.spare event
    have hchange := react_queueChange hsound hone event
    obtain ⟨task, htask⟩ := Option.isSome_iff_exists.1 hwaits
    rw [removals, moments, List.countP_cons, Nat.add_eq_zero_iff] at hnone
    have hkept : (Moment.mk client event).empties id.index = false := by simpa using hnone.2
    have hstays : (client.react event).client.queue.contains id = true := by
      rcases hchange.keeps hsound.queue hone htask with hstill | hvacated
      · rw [TaskQueue.contains, hstill]
        rfl
      · have hnext : (client.react event).client.queue.generation id.index =
            client.queue.generation id.index := by
          simpa [Moment.empties, Moment.step] using hkept
        rw [hvacated.generation, TaskQueue.generation_of_task? htask] at hnext
        simp at hnext
    rw [moments, List.forall_mem_cons]
    exact ⟨hstays, ih (htransition.sound hsound) (htransition.pings_le_one hsound hone) hstays
      hnone.1⟩

/-- **An id finds its task** only, as long as fewer than `2 ^ 32` tasks were taken out of its slot
since: once the task is gone, it finds none. -/
lemma task?_of_removed (hsound : client.Sound) (hone : client.pings.length ≤ 1) {id : TaskId}
    (hwaits : client.queue.contains id = true) {events : List Event}
    (hfew : removals (client.moments events) id.index < UInt32.size)
    (hgone : ∃ moment ∈ client.moments events, moment.step.client.queue.contains id = false) :
    (client.after events).queue.task? id = none := by
  obtain ⟨task, htask⟩ := Option.isSome_iff_exists.1 hwaits
  have hgeneration := generation_after hsound hone events id.index
  rw [TaskQueue.generation_of_task? htask] at hgeneration
  rcases hfound : (client.after events).queue.task? id with _ | other
  · rfl
  -- a task under this id has its generation, so that none was taken out of the slot
  rw [TaskQueue.generation_of_task? hfound, UInt32.left_eq_add] at hgeneration
  have hnone : 0 = removals (client.moments events) id.index :=
    TaskQueue.eq_of_ofNat_eq hgeneration.symm (Nat.zero_le _) (by simpa using hfew)
  obtain ⟨moment, hmem, hfalse⟩ := hgone
  simp [stays_of_not_removed hsound hone hwaits hnone.symm moment hmem] at hfalse

/-- The id of a task that has just come to wait is the one it was put in the queue with. -/
lemma Queues.id_eq {moment : Moment} {task : Task} {id : TaskId}
    (hchange : moment.before.QueueChange moment.event moment.step.client.queue)
    (hqueue : moment.before.queue.WellFormed) (h : moment.Queues task id) :
    id = (moment.before.queue.push task).1 := by
  rcases hchange.origin hqueue h.2 with hwaits | ⟨-, heq⟩
  · rw [TaskQueue.contains, h.1] at hwaits
    cases hwaits
  · exact heq

section

variable (credentials : Credentials) (random : RandomSource) (cacheSize : Nat)

/-- **A task that waits was submitted**, and has waited since then. -/
theorem submitted_of_waits (events : List Event) {id : TaskId}
    (hwaits : ((new credentials random cacheSize).after events).queue.contains id = true) :
    ∃ past first later task,
      (new credentials random cacheSize).moments events = past ++ first :: later ∧
        first.event = .submit task ∧ first.Queues task id ∧
        ∀ moment ∈ first :: later, moment.step.client.queue.contains id = true := by
  induction events using List.reverseRecOn with
  | nil => simp [new, TaskQueue.contains, TaskQueue.task?] at hwaits
  | append_singleton events event ih =>
    let moment : Moment := ⟨(new credentials random cacheSize).after events, event⟩
    have hsound : moment.before.Sound := sound_after credentials random cacheSize events
    have hone : moment.before.pings.length ≤ 1 := pings_le_one credentials random cacheSize events
    have hchange : moment.before.QueueChange event moment.step.client.queue :=
      react_queueChange hsound hone event
    rw [after_concat] at hwaits
    rw [moments_concat]
    obtain ⟨task, htask⟩ := Option.isSome_iff_exists.1 hwaits
    rcases hchange.origin hsound.queue htask with hstill | ⟨hevent, rfl⟩
    · obtain ⟨past, first, later, task, hsplit, hsubmit, hqueues, hstays⟩ := ih hstill
      refine ⟨past, first, later ++ [moment], task, ?_, hsubmit, hqueues, ?_⟩
      · rw [hsplit, List.append_assoc, List.cons_append]
      · rw [← List.cons_append, List.forall_mem_append, List.forall_mem_singleton]
        exact ⟨hstays, hwaits⟩
    · refine ⟨_, moment, [], task, rfl, hevent, ⟨TaskQueue.task?_push_fst hsound.queue task, htask⟩,
        ?_⟩
      rw [List.forall_mem_singleton]
      exact hwaits

/-- A task that waits waits under the id that its caller got, or it was the turn of another one when
it was submitted. -/
lemma returns_or_turnDue {moment : Moment} {task : Task} {id : TaskId}
    (hsound : moment.before.Sound) (hone : moment.before.pings.length ≤ 1)
    (hevent : moment.event = .submit task) (hqueues : moment.Queues task id) :
    moment.Returns task id ∨ moment.before.TurnDue := by
  obtain ⟨client, event⟩ := moment
  obtain rfl : event = .submit task := hevent
  have hchange := react_queueChange hsound hone (.submit task)
  have hpushed := Queues.id_eq hchange hsound.queue hqueues
  have htold : client.Told task (client.submit task).id := submit_told hsound task
  generalize htells : (client.submit task).id = told at htold
  cases htold with
  | disposed _ hgone => exact absurd hqueues (hgone id)
  | waits hwaits =>
    rw [Queues.id_eq hchange hsound.queue hwaits, ← hpushed] at htells
    exact .inl ⟨rfl, htells⟩
  | overtaken _ hdue => exact .inr hdue

end

/-! ## Cancelling -/

/-- The id of a task that does not wait cancels nothing. -/
lemma cancel_of_not_waits {id : TaskId} (h : client.queue.task? id = none) :
    client.cancel id = (false, client.idle) := by
  unfold cancel
  rw [TaskQueue.remove_eq_none_iff.2 h]

/-- A task that waits is taken out, and its callers learn that it was cancelled. All others are
left, in their order. -/
lemma cancel_of_waits (hqueue : client.queue.WellFormed) {id : TaskId} {task : Task}
    (h : client.queue.task? id = some task) :
    ∃ front back rest, client.pendingTasks = front ++ task :: back ∧
      client.cancel id =
        (true, { client := { client with queue := rest }, resolved := task.fail .cancelled }) ∧
      ({ client with queue := rest } : Client).pendingTasks = front ++ back ∧
      ∀ other, rest.task? other = if other = id then none else client.queue.task? other := by
  obtain ⟨rest, hcancel, hothers⟩ := cancels_of_waits h
  obtain ⟨left, hremove⟩ : ∃ rest, client.queue.remove id = some (task, rest) :=
    ⟨_, TaskQueue.remove_eq_some_iff.2 ⟨h, rfl⟩⟩
  obtain rfl : left = rest := by
    rw [cancel, hremove] at hcancel
    exact congrArg (fun step => step.2.client.queue) hcancel
  obtain ⟨front, back, hall, hrest⟩ := TaskQueue.remove_drain hqueue hremove
  refine ⟨(client.inFlight.map InFlight.task).toList ++ front, back, left, ?_, hcancel, ?_, hothers⟩
  · rw [pendingTasks, hall, List.append_assoc]
  · rw [pendingTasks, hrest, List.append_assoc]

/-- What the moment leaves at which a caller gets an id, and what comes of it. -/
lemma returned_of_moments_eq {credentials : Credentials} {random : RandomSource} {cacheSize : Nat}
    {events : List Event} {past later : List Moment} {first : Moment} {task : Task} {id : TaskId}
    (h : (new credentials random cacheSize).moments events = past ++ first :: later)
    (hreturns : first.Returns task id) :
    ∃ events', later = first.step.client.moments events' ∧
      (new credentials random cacheSize).after events = first.step.client.after events' ∧
      first.step.client.Sound ∧ first.step.client.pings.length ≤ 1 ∧
      first.step.client.queue.task? id = some task := by
  obtain ⟨before, event⟩ := first
  obtain ⟨hevent, hid⟩ := hreturns
  obtain ⟨earlier, events', rfl, -, hbefore, hlater⟩ := moments_eq_append h
  obtain rfl : event = .submit task := hevent
  have hbefore : before = (new credentials random cacheSize).after earlier := hbefore
  have hsound : before.Sound := hbefore ▸ sound_after credentials random cacheSize earlier
  have hone : before.pings.length ≤ 1 := hbefore ▸ pings_le_one credentials random cacheSize earlier
  have htransition := react_transition hsound.spare (.submit task)
  refine ⟨events', hlater, ?_, htransition.sound hsound, htransition.pings_le_one hsound hone, ?_⟩
  · rw [after_append, ← hbefore]
    rfl
  · have htold : before.Told task (before.submit task).id := submit_told hsound task
    rw [hid] at htold
    cases htold with
    | waits hqueues => exact hqueues.2

/-- **Cancelling takes out one task.** Whatever has befallen a new client, in any order, let an id
be cancelled.

* If a caller got it for a task and this task has waited ever since, the task is taken out with all
  of its callers. These are those that it was submitted with and, if it is a ping, those of the
  pings that have joined it since. They learn that it was cancelled, and nobody else learns
  anything. All other tasks are pending as before and in the same order, and nothing else of the
  client changes.
* If a caller got it for a task which has not waited all the time since, nothing is cancelled, and
  nothing changes; here fewer than `2 ^ 32` tasks were taken out of its slot since.
* If no caller got it, nothing is cancelled and nothing changes either, unless it is the id of a
  task that has waited since it was submitted and which got no id, because it was the turn of
  another one.

**Proof sketch.** No step brings another task under the id of one that waits, and only one that is
submitted comes to wait; what befalls a task that waits is that it is joined, as the only ping, or
taken out. Taking it out takes its slot to the next generation, so the id finds nothing until
generations have come round. -/
theorem cancel_one_task (credentials : Credentials) (random : RandomSource) (cacheSize : Nat)
    (events : List Event) (id : TaskId) :
    let moments := (new credentials random cacheSize).moments events
    let client := (new credentials random cacheSize).after events
    (∀ past first later task, moments = past ++ first :: later → first.Returns task id →
      (∀ moment ∈ first :: later, moment.step.client.queue.contains id = true) →
      let joining := if task.isPing then later.flatMap Moment.joins else []
      ∃ waiting front back rest,
        waiting.handles = task.handles ++ joining ∧
          client.pendingTasks = front ++ waiting :: back ∧
          client.cancel id = (true,
            { client := { client with queue := rest }, resolved := waiting.fail .cancelled }) ∧
          ({ client with queue := rest } : Client).pendingTasks = front ++ back ∧
          ∀ other, rest.task? other = if other = id then none else client.queue.task? other) ∧
    (∀ past first later task, moments = past ++ first :: later → first.Returns task id →
      (∃ moment ∈ later, moment.step.client.queue.contains id = false) →
      removals later id.index < UInt32.size → client.cancel id = (false, client.idle)) ∧
    ((∀ moment ∈ moments, ∀ task, ¬moment.Returns task id) →
      client.cancel id = (false, client.idle) ∨
      ∃ past first later task, moments = past ++ first :: later ∧ first.event = .submit task ∧
        first.Queues task id ∧ first.before.TurnDue ∧
        ∀ moment ∈ first :: later, moment.step.client.queue.contains id = true) := by
  intro moments client
  have hsound : client.Sound := sound_after credentials random cacheSize events
  refine ⟨fun past first later task h hreturns hstays => ?_,
    fun past first later task h hreturns hgone hfew => ?_, fun hnone => ?_⟩
  · obtain ⟨events', rfl, hclient, hfirst, hfirst', htask⟩ := returned_of_moments_eq h hreturns
    have hwaits := waits_since hfirst hfirst' htask (List.forall_mem_cons.1 hstays).2
    rw [← hclient] at hwaits
    obtain ⟨front, back, rest, hcancel⟩ := cancel_of_waits hsound.queue hwaits
    exact ⟨_, front, back, rest, Task.joined_handles task _, hcancel⟩
  · obtain ⟨events', rfl, hclient, hfirst, hfirst', htask⟩ := returned_of_moments_eq h hreturns
    have hwaits : first.step.client.queue.contains id = true := by
      rw [TaskQueue.contains, htask]
      rfl
    have hgone := task?_of_removed hfirst hfirst' hwaits hfew hgone
    rw [← hclient] at hgone
    exact cancel_of_not_waits hgone
  · cases hwaits : client.queue.contains id
    · left
      exact cancel_of_not_waits (by simpa [TaskQueue.contains] using hwaits)
    · right
      obtain ⟨past, first, later, task, h, hevent, hqueues, hstays⟩ :=
        submitted_of_waits credentials random cacheSize events hwaits
      obtain ⟨earlier, -, -, -, hbefore, -⟩ := moments_eq_append h
      have hmem : first ∈ moments := by
        rw [show moments = past ++ first :: later from h]
        exact List.mem_append_right _ List.mem_cons_self
      refine ⟨past, first, later, task, h, hevent, hqueues, ?_, hstays⟩
      exact (returns_or_turnDue (hbefore ▸ sound_after credentials random cacheSize earlier)
        (hbefore ▸ pings_le_one credentials random cacheSize earlier) hevent hqueues).resolve_left
        (hnone first hmem task)

/-- A ping that was joined by another one is cancelled with it, though the other one was submitted
apart from it. -/
theorem cancel_one_task_joined :
    let statement : Task := .statement (.ofSql "select a from t" [] {}) 1
    let client := sample.after (sampleLogon ++ [.next, .submit statement])
    let first := client.submit (.ping [2])
    let second := first.step.client.submit (.ping [3])
    ∃ id, first.id = some id ∧ second.step.client.queue.contains id = true ∧
      (second.step.client.cancel id).1 = true ∧
      (second.step.client.cancel id).2.resolved =
        [⟨2, .error .cancelled⟩, ⟨3, .error .cancelled⟩] ∧
      (second.step.client.cancel id).2.client.waiting = [] := by
  intro statement client first second
  have hwaits : second.step.client.queue.task? ⟨0, 1⟩ = some (.ping [2, 3]) := by decide +kernel
  obtain ⟨rest, hcancel, -⟩ := cancels_of_waits hwaits
  refine ⟨⟨0, 1⟩, by decide +kernel, by decide +kernel, ?_, ?_, by decide +kernel⟩ <;> rw [hcancel]
  rfl

/-- A ping waits behind a statement and is joined by another one. Its id cancels both, and then
nothing more. -/
theorem cancel_one_task_sample :
    let statement : Task := .statement (.ofSql "select a from t" [] {}) 1
    let past := sampleLogon ++ [.next, .submit statement]
    let first : Moment := ⟨sample.after past, .submit (.ping [2])⟩
    let id : TaskId := ⟨0, 1⟩
    let client := sample.after (past ++ [first.event, .submit (.ping [3])])
    let cancelled := sample.after (past ++ [first.event, .submit (.ping [3]), .cancel id])
    first.Returns (.ping [2]) id ∧
      (∃ waiting : Task, waiting.handles = [2, 3] ∧
        (client.cancel id).2.resolved = waiting.fail .cancelled) ∧
      cancelled.cancel id = (false, cancelled.idle) := by
  intro statement past first id client cancelled
  have hreturns : first.Returns (.ping [2]) id := ⟨rfl, by decide +kernel⟩
  have hsplit : ∀ later, sample.moments (past ++ first.event :: later) =
      sample.moments past ++ first :: first.step.client.moments later :=
    fun later => sample.moments_append past (first.event :: later)
  have hstays : ∀ moment ∈ first :: first.step.client.moments [.submit (.ping [3])],
      moment.step.client.queue.contains id = true := by
    refine List.forall_mem_cons.2 ⟨by decide +kernel, List.forall_mem_cons.2 ⟨?_, by simp⟩⟩
    decide +kernel
  have hfirst := (cancel_one_task sample.credentials sample.random 1
    (past ++ [first.event, .submit (.ping [3])]) id).1 _ _ _ _ (hsplit _) hreturns hstays
  obtain ⟨waiting, _, _, _, hhandles, -, hcancel, -⟩ := hfirst
  have hsecond := (cancel_one_task sample.credentials sample.random 1
    (past ++ [first.event, .submit (.ping [3]), .cancel id]) id).2.1 _ _ _ _ (hsplit _) hreturns
    ⟨_, List.mem_cons_of_mem _ List.mem_cons_self, by decide +kernel⟩ (by decide +kernel)
  refine ⟨hreturns, ⟨waiting, ?_, congrArg (fun step => step.2.resolved) hcancel⟩, hsecond⟩
  rw [hhandles]
  decide +kernel

end Client

end TnsClient
