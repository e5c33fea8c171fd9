import Mathlib.Data.List.Induction
import TnsClient.Proofs.Client.Ledger
import TnsClient.Proofs.Queue.Order

set_option autoImplicit false

/-!
# In which order tasks are started

Tasks are started in the order in which they were submitted. What is left out has been cancelled, or
was passed over because nobody waited for it any more, or has joined an earlier ping, or the
connection ended before its turn came. A ledger of the tasks of a run shows all of this at once.

The generations of ids come round after `2 ^ 32` times. So the order of a run is that of submission
as long as fewer tasks than this are cancelled that had one and the same slot; with so many, a task
may overtake others (`TnsClient.TaskQueue.rounds_overtake`).

## Main definitions

* `TnsClient.Moment.takes?`, `TnsClient.Moment.cancels?`, `TnsClient.Moment.PassesOver` — what
  becomes of tasks at a moment.
* `TnsClient.cancellations` — how many tasks of a slot a run has cancelled.
* `TnsClient.Client.Booked` — a ledger agrees with a run.

## Main results

* `TnsClient.Client.ordered_after` — no id stands twice in the order of a queue.
* `TnsClient.Client.Booked.next`, `TnsClient.Client.booked_after` — there is a ledger of every run.
* `TnsClient.Client.one_at_a_time_in_order` — tasks are served one at a time and in order, and each
  gets its own reply.
-/

namespace TnsClient

/-! ## What becomes of tasks -/

namespace Client

/-- The tasks that wait, in order. -/
def line (client : Client) : List Task := client.queue.toList.map Prod.snd

/-- Whether a ping is in flight or waits. -/
def holdsPing (client : Client) : Bool :=
  (client.inFlight.any fun flight => flight.task.isPing) || client.line.any Task.isPing

end Client

/-- The task that is taken: it is submitted to a connection that takes tasks, and it is no ping that
joins another. -/
def Moment.takes? (moment : Moment) : Option Task :=
  match moment.event with
  | .submit task =>
    if moment.before.phase.refusesTasks || task.isPing && moment.before.holdsPing then none
    else some task
  | _ => none

/-- The task that is cancelled, and its id. -/
def Moment.cancels? (moment : Moment) : Option (TaskId × Task) :=
  match moment.event with
  | .cancel id => moment.before.queue.waiting? id
  | _ => none

/-- A task is passed over: nobody waits for it, and its callers learn that the connection is
closed. -/
def Moment.PassesOver (moment : Moment) (task : Task) : Prop :=
  task.isAbandoned moment.before.abandoned = true ∧
    ∀ handle ∈ task.handles, ⟨handle, .error .closed⟩ ∈ moment.step.resolved

/-- How many tasks were cancelled that had the slot at this position. -/
def cancellations (moments : List Moment) (index : Nat) : Nat :=
  (moments.filterMap Moment.cancels?).countP fun entry => entry.1.index == index

lemma Moment.takes?_of_ne {moment : Moment} (h : ∀ task, moment.event ≠ .submit task) :
    moment.takes? = none := by
  unfold takes?
  split
  · next task hevent => exact absurd hevent (h task)
  · rfl

/-- A moment cancels a task by taking it out of the queue, and comes to nothing else. -/
lemma Moment.cancels?_eq_some {moment : Moment} {id : TaskId} {task : Task}
    (h : moment.cancels? = some (id, task)) :
    moment.event = .cancel id ∧ ∃ queue, moment.before.queue.remove id = some (task, queue) ∧
      moment.step =
        { client := { moment.before with queue }, resolved := task.fail .cancelled } := by
  unfold cancels? at h
  split at h
  · next id' hevent =>
    obtain ⟨task', htask, heq⟩ := Option.map_eq_some_iff.1 h
    obtain ⟨rfl, rfl⟩ := Prod.mk.inj heq
    have hremove := TaskQueue.remove_eq_some_iff.2 ⟨htask, rfl⟩
    refine ⟨hevent, _, hremove, ?_⟩
    rw [Moment.step, hevent]
    show (moment.before.cancel id').2 = _
    rw [Client.cancel, hremove]
  · cases h

lemma cancellations_concat (moments : List Moment) (moment : Moment) (index : Nat) :
    cancellations (moments ++ [moment]) index = cancellations moments index +
      moment.cancels?.toList.countP fun entry => entry.1.index == index := by
  unfold cancellations
  rw [List.filterMap_append, List.countP_append]
  rcases hcancels : moment.cancels? with _ | entry <;> simp [hcancels]

namespace Client

variable {client : Client}

/-! ## The queue of a run -/

/-- A ping that joins no other finds none. -/
lemma holdsPing_of_joinPing? {handles : List Handle} (h : client.joinPing? handles = none) :
    client.holdsPing = false := by
  have hjoin : ∀ task : Task, (∀ joined, task.join? handles ≠ some joined) →
      task.isPing = false := by
    intro task hnone
    cases task with
    | ping others => simp [Task.join?] at hnone
    | _ => rfl
  unfold joinPing? at h
  rw [Option.orElse_eq_orElse, Option.orElse_eq_or, Option.or_eq_none_iff] at h
  obtain ⟨hflight, hwaiting⟩ := h
  unfold holdsPing
  rw [Bool.or_eq_false_iff]
  constructor
  · rcases hbusy : client.inFlight with _ | flight
    · rfl
    · refine hjoin flight.task ?_
      simpa [joinFlight?, hbusy] using hflight
  · rcases hfind : client.queue.find? Task.isPing with _ | ⟨id, task⟩
    · rw [TaskQueue.find?, List.find?_eq_none] at hfind
      rw [line, List.any_map, List.any_eq_false]
      exact hfind
    · have hping : task.isPing = true := by
        simpa using List.find?_some hfind
      have hnone : ∀ joined, task.join? handles ≠ some joined := by
        simpa [joinWaiting?, hfind] using hwaiting
      simp [hjoin task hnone] at hping

lemma startNext_stamped {taken : Nat → Nat} (hstamped : client.queue.Stamped taken)
    (hfew : ∀ index, taken index < UInt32.size) (hflight : client.inFlight = none)
    (hphase : client.phase = .ready ∨ client.phase = .inFlight) :
    client.startNext.client.queue.Stamped taken := by
  rw [(startNext_front hflight hphase).1]
  exact TaskQueue.popSkipping_stamped hstamped hfew (Task.isAbandoned client.abandoned)

/-- A step that cancels nothing takes no task out of the midst of the queue. -/
lemma Transition.stamped {event : Event} {step : Step} (h : client.Transition event step)
    (hsound : client.Sound) {taken : Nat → Nat} (hfew : ∀ index, taken index < UInt32.size)
    (hstamped : client.queue.Stamped taken)
    (hkeeps : Moment.cancels? ⟨client, event⟩ = none) : step.client.queue.Stamped taken := by
  have hdrained : client.queue.drain.2.Stamped taken :=
    TaskQueue.popSkipping_stamped hstamped hfew _
  cases h with
  | quiet _ halike => exact halike.queue ▸ hstamped
  | setup _ hstep =>
    obtain ⟨-, -, hqueue, -⟩ := hstep.frame hsound
    exact hqueue.symm ▸ hstamped
  | failed =>
    cases hover : client.phase.isOver
    · rw [fail_eq _ hover]
      exact hdrained
    · rw [fail_of_over _ hover]
      exact hstamped
  | lost =>
    by_cases hclosed : client.phase = .closed
    · rw [lost_of_closed hclosed]
      exact hstamped
    · rw [lost_eq hclosed]
      exact hdrained
  | joinedWaiting _ hwaiting =>
    exact TaskQueue.replace_stamped hstamped (TaskQueue.task?_of_find? hwaiting) _
  | waited => exact TaskQueue.push_stamped hsound.queue hstamped _
  | served _ hphase hflight =>
    exact startNext_stamped (TaskQueue.push_stamped hsound.queue hstamped _) hfew hflight
      (.inl hphase)
  | turned hflight hphase => exact startNext_stamped hstamped hfew hflight hphase
  | cancelled hremove =>
    have htask := (TaskQueue.remove_eq_some_iff.1 hremove).1
    simp [Moment.cancels?, TaskQueue.waiting?, htask] at hkeeps
  | @finished _ flight flight' hflight htask =>
    have hphase : client.phase = flight'.task.phase := by rw [htask, hsound.busy flight hflight]
    rcases finish_cases { client with awaiting := false, inFlight := none } flight' with
      ⟨hinFlight, statements, cleanup, hstep⟩ | ⟨-, hstep⟩ <;> rw [hstep]
    · exact startNext_stamped hstamped hfew rfl (.inr (hphase.trans hinFlight))
    · exact hdrained
  | abandoned | resent | established | heard | refused | joinedFlight | fetched => exact hstamped

/-- The queue of a run counts the tasks that were taken out of its midst. -/
lemma stamped_after (credentials : Credentials) (random : RandomSource) (cacheSize : Nat)
    (events : List Event)
    (hfew : ∀ index,
      cancellations ((new credentials random cacheSize).moments events) index < UInt32.size) :
    ((new credentials random cacheSize).after events).queue.Stamped
      (cancellations ((new credentials random cacheSize).moments events)) := by
  induction events using List.reverseRecOn with
  | nil => exact TaskQueue.stamped_empty _
  | append_singleton events event ih =>
    rw [moments_concat] at hfew
    rw [moments_concat, after_concat]
    set client := (new credentials random cacheSize).after events
    have hless : ∀ index, cancellations ((new credentials random cacheSize).moments events) index ≤
        cancellations ((new credentials random cacheSize).moments events ++ [⟨client, event⟩])
          index := fun index => by
      rw [cancellations_concat]
      exact Nat.le_add_right _ _
    have hfew' := fun index => Nat.lt_of_le_of_lt (hless index) (hfew index)
    have hsound : client.Sound := sound_after credentials random cacheSize events
    rcases hcancels : Moment.cancels? ⟨client, event⟩ with _ | ⟨id, task⟩
    · exact ((react_transition hsound.spare event).stamped hsound hfew' (ih hfew') hcancels).mono
        hless
    · obtain ⟨-, queue, hremove, hstep⟩ := Moment.cancels?_eq_some hcancels
      have hstep : client.react event = _ := hstep
      rw [hstep]
      refine (TaskQueue.remove_stamped (ih hfew') hremove).mono fun index => ?_
      rw [cancellations_concat, hcancels]
      by_cases hindex : index = id.index
      · simp [hindex]
      · simp [hindex]

/-- **No id stands twice** in the order of the queue of a run, as long as fewer than `2 ^ 32` tasks
of one and the same slot are cancelled. -/
theorem ordered_after (credentials : Credentials) (random : RandomSource) (cacheSize : Nat)
    (events : List Event)
    (hfew : ∀ index,
      cancellations ((new credentials random cacheSize).moments events) index < UInt32.size) :
    ((new credentials random cacheSize).after events).queue.Ordered :=
  (stamped_after credentials random cacheSize events hfew).ordered
    (sound_after credentials random cacheSize events).queue hfew

/-! ## The ledger of a run -/

/-- **A ledger agrees with a run.** -/
def Booked (moments : List Moment) (client : Client) : Prop :=
  ∃ gone left, Ledger (moments.filterMap Moment.takes?) (moments.filter Moment.starts)
    ((moments.filterMap Moment.cancels?).map Prod.snd)
    (fun task => ∃ moment ∈ moments, moment.PassesOver task) client.line client.phase.isOver
    gone left

/-- A ledger of a run goes on with what becomes of tasks at the next moment. -/
lemma Booked.concat {moments : List Moment} {moment : Moment}
    (h : ∃ gone left, Ledger (moments.filterMap Moment.takes? ++ moment.takes?.toList)
      (moments.filter Moment.starts ++ [moment].filter Moment.starts)
      ((moments.filterMap Moment.cancels?).map Prod.snd ++ moment.cancels?.toList.map Prod.snd)
      (fun task => (∃ earlier ∈ moments, earlier.PassesOver task) ∨ moment.PassesOver task)
      client.line client.phase.isOver gone left) : Booked (moments ++ [moment]) client := by
  obtain ⟨gone, left, h⟩ := h
  refine ⟨gone, left, ?_⟩
  have htoList : ∀ {β : Type} (f : Moment → Option β),
      (moments ++ [moment]).filterMap f = moments.filterMap f ++ (f moment).toList := by
    intro β f
    rw [List.filterMap_append]
    rcases hmoment : f moment with _ | value <;> simp [hmoment]
  rw [htoList, htoList, List.map_append, List.filter_append]
  refine h.mono (fun task hpassed => ?_) id
  rcases hpassed with ⟨earlier, hmem, hpassed⟩ | hpassed
  · exact ⟨earlier, List.mem_append_left _ hmem, hpassed⟩
  · exact ⟨moment, List.mem_append_right _ (List.mem_singleton_self _), hpassed⟩

/-- A moment at which nothing becomes of any task, but all that wait may be dropped. -/
lemma Booked.quiet {moments : List Moment} {moment : Moment} {other : Client}
    (h : Booked moments client) (htakes : moment.takes? = none) (hstarts : moment.starts = false)
    (hcancels : moment.cancels? = none)
    (hline : (other.line = client.line ∧ (client.phase.isOver = true → other.phase.isOver = true)) ∨
      (other.line = [] ∧ other.phase.isOver = true)) :
    Booked (moments ++ [moment]) other := by
  obtain ⟨gone, left, h⟩ := h
  refine Booked.concat ?_
  rw [htakes, hcancels, List.filter_cons_of_neg (by simp [hstarts])]
  simp only [Option.toList_none, List.filter_nil, List.map_nil, List.append_nil]
  rcases hline with ⟨hline, hover⟩ | ⟨hline, hover⟩
  · rw [hline]
    exact ⟨gone, left, h.mono (fun _ => .inl) hover⟩
  · rw [hline, hover]
    exact (h.mono (fun _ => .inl) fun _ => rfl).settle (List.append_nil _).symm (.inr ⟨rfl, rfl⟩)

/-- The line of a client whose queue is drained is empty. -/
lemma drained_line (hqueue : client.queue.WellFormed) :
    client.queue.drain.2.toList.map Prod.snd = [] := by
  obtain ⟨-, hempty, -⟩ := TaskQueue.drain_tasks hqueue
  rw [TaskQueue.toList_eq_nil hempty]
  rfl

/-- **The turn of the next task.** At a moment at which it is to be started, the tasks in front for
which nobody waits are passed over, and the first for which somebody does is started. -/
lemma Booked.turn {moments : List Moment} (moment : Moment) (client : Client)
    (first : List Resolution)
    (hstep : moment.step =
      { client.startNext with resolved := first ++ client.startNext.resolved })
    (h : ∃ gone left, Ledger (moments.filterMap Moment.takes? ++ moment.takes?.toList)
      (moments.filter Moment.starts)
      ((moments.filterMap Moment.cancels?).map Prod.snd ++ moment.cancels?.toList.map Prod.snd)
      (fun task => ∃ earlier ∈ moments, earlier.PassesOver task) client.line client.phase.isOver
      gone left)
    (hqueue : client.queue.WellFormed) (hnodup : client.queue.order.Nodup)
    (hflight : client.inFlight = none) (hphase : client.phase = .ready ∨ client.phase = .inFlight)
    (habandoned : client.abandoned = moment.before.abandoned) :
    Booked (moments ++ [moment]) moment.step.client := by
  obtain ⟨_, _, h⟩ := h
  refine Booked.concat ?_
  have hline : client.line = client.front.skipped ++ client.front.task.toList ++
      client.front.queue.toList.map Prod.snd :=
    TaskQueue.popSkipping_toList hnodup (Task.isAbandoned client.abandoned)
  have hresolved := (startNext_front hflight hphase).2
  have hpassed : ∀ task ∈ client.front.skipped,
      (∃ earlier ∈ moments, earlier.PassesOver task) ∨ moment.PassesOver task := by
    intro task hmem
    refine .inr ⟨habandoned ▸ (front_splits hqueue).skipped task hmem, fun handle hhandle => ?_⟩
    rw [hstep, hresolved]
    exact List.mem_append_right _
      (List.mem_flatMap.2 ⟨task, hmem, List.mem_map.2 ⟨handle, hhandle, rfl⟩⟩)
  have hover : client.phase.isOver = false := by rcases hphase with h | h <;> rw [h] <;> rfl
  obtain ⟨gone, left, h⟩ := (h.mono (fun _ => .inl) id).settle
    (hline.trans (List.append_assoc _ _ _)) (.inl ⟨rfl, hpassed⟩)
  rw [hover] at h
  rcases startNext_cases hflight hphase with ⟨hfront, hnext⟩ | ⟨task, hfront, hnext⟩
  · have hstarts : moment.starts = false := by
      rw [Moment.starts, hstep, hnext]
      rfl
    rw [hfront] at h
    rw [hstep, hnext, List.filter_cons_of_neg (by simp [hstarts])]
    exact ⟨gone, left, by simpa [line, Phase.isOver] using h⟩
  · have hstarts : moment.Starts task := by
      unfold Moment.Starts
      rw [hstep]
      exact startNext_begins hflight hphase hfront
    have hsent : moment.starts = true := by
      rw [Moment.starts, hstarts.1]
      exact Request.startsTask_begin _ task
    have hover' : task.phase.isOver = false := by
      rcases task.phase_cases with hphase | hphase <;> rw [hphase] <;> rfl
    rw [hfront] at h
    obtain ⟨gone, left, h⟩ := h.start rfl hstarts
    rw [hstep, hnext, List.filter_cons_of_pos hsent]
    exact ⟨gone, left, by simpa [line, launched, hover'] using h⟩

/-- A ping is taken only if it joins no other. -/
lemma takes?_submit {task : Task} (hphase : client.phase.refusesTasks = false)
    (halone : ∀ handles, task = .ping handles → client.joinPing? handles = none) :
    Moment.takes? ⟨client, .submit task⟩ = some task := by
  have hjoins : (task.isPing && client.holdsPing) = false := by
    cases task with
    | ping handles => simp [holdsPing_of_joinPing? (halone handles rfl)]
    | _ => rfl
  simp [Moment.takes?, hphase, hjoins]

/-- A task that waits is cancelled. -/
lemma Booked.cancelled {moments : List Moment} (h : Booked moments client)
    (hqueue : client.queue.Ordered) {event : Event} {id : TaskId} {task : Task}
    (hcancels : Moment.cancels? ⟨client, event⟩ = some (id, task)) :
    Booked (moments ++ [⟨client, event⟩]) (client.react event).client := by
  obtain ⟨gone, left, h⟩ := h
  obtain ⟨hevent, queue, hremove, hstep⟩ := Moment.cancels?_eq_some hcancels
  have hevent : event = .cancel id := hevent
  have hstep : client.react event = _ := hstep
  obtain ⟨front, back, hfull, hrest⟩ := TaskQueue.remove_toList hqueue hremove
  have hline : client.line = front.map Prod.snd ++ task :: back.map Prod.snd := by
    simp [line, hfull]
  obtain ⟨left, h⟩ := h.cancel hline
  refine Booked.concat ⟨gone, left, ?_⟩
  have hstarts : Moment.starts ⟨client, event⟩ = false := by
    rw [Moment.starts, Moment.step, hstep]
    rfl
  have htakes : Moment.takes? ⟨client, event⟩ = none := by
    rw [hevent]
    rfl
  rw [hcancels, htakes, List.filter_cons_of_neg (by simp [hstarts]), hstep]
  refine Ledger.mono ?_ (fun _ => .inl) fun hover => hover
  simpa [line, hrest] using h

/-- A ping joins one that waits: the ping in the ledger that waits has its callers too. -/
lemma Booked.joined {moments : List Moment} (h : Booked moments client)
    (hqueue : client.queue.Ordered) {handles others : List Handle} {id : TaskId}
    (hwaiting : client.queue.find? Task.isPing = some (id, .ping others))
    (hstep : Moment.step ⟨client, .submit (.ping handles)⟩ =
      idle { client with queue := client.queue.replace id (.ping (others ++ handles)) }) :
    Booked (moments ++ [⟨client, .submit (.ping handles)⟩])
      { client with queue := client.queue.replace id (.ping (others ++ handles)) } := by
  obtain ⟨gone, left, h⟩ := h
  obtain ⟨front, back, hfull, hreplaced⟩ := TaskQueue.replace_toList hqueue
    (TaskQueue.task?_of_find? hwaiting) (.ping (others ++ handles))
  have hline : client.line = front.map Prod.snd ++ .ping others :: back.map Prod.snd := by
    simp [line, hfull]
  obtain ⟨left, h⟩ := h.join hline (.ping others handles)
  refine Booked.concat ⟨gone, left, ?_⟩
  have hstarts : Moment.starts ⟨client, .submit (.ping handles)⟩ = false := by
    rw [Moment.starts, hstep]
    rfl
  have htakes : Moment.takes? ⟨client, .submit (.ping handles)⟩ = none := by
    simp [Moment.takes?, holdsPing, hline, Task.isPing]
  have hcancels : Moment.cancels? ⟨client, .submit (.ping handles)⟩ = none := rfl
  rw [hcancels, htakes, List.filter_cons_of_neg (by simp [hstarts])]
  refine Ledger.mono ?_ (fun _ => .inl) fun hover => hover
  simpa [line, hreplaced] using h

/-- A task that is taken goes to the end of the line. -/
lemma Booked.waited {moments : List Moment} (h : Booked moments client)
    (hqueue : client.queue.Ordered) {task : Task} (hphase : client.phase.refusesTasks = false)
    (halone : ∀ handles, task = .ping handles → client.joinPing? handles = none)
    (hstep : Moment.step ⟨client, .submit task⟩ =
      idle { client with queue := (client.queue.push task).2 }) :
    Booked (moments ++ [⟨client, .submit task⟩])
      { client with queue := (client.queue.push task).2 } := by
  obtain ⟨gone, left, h⟩ := h
  refine Booked.concat ⟨gone, left ++ [⟨task, .waiting⟩], ?_⟩
  have hstarts : Moment.starts ⟨client, .submit task⟩ = false := by
    rw [Moment.starts, hstep]
    rfl
  have hcancels : Moment.cancels? ⟨client, .submit task⟩ = none := rfl
  rw [hcancels, takes?_submit hphase halone, List.filter_cons_of_neg (by simp [hstarts])]
  refine Ledger.mono ?_ (fun _ => .inl) fun hover => hover
  simpa [line, TaskQueue.push_toList hqueue] using h.take task

/-- A task that is taken by an idle client is behind the ones that wait, and the turn of the first
of them has come. -/
lemma Booked.served {moments : List Moment} (h : Booked moments client)
    (hsound : client.queue.WellFormed) (hqueue : client.queue.Ordered) {task : Task}
    (halone : ∀ handles, task = .ping handles → client.joinPing? handles = none)
    (hphase : client.phase = .ready) (hflight : client.inFlight = none)
    (hstep : Moment.step ⟨client, .submit task⟩ =
      startNext { client with queue := (client.queue.push task).2 }) :
    Booked (moments ++ [⟨client, .submit task⟩])
      (Moment.step ⟨client, .submit task⟩).client := by
  obtain ⟨gone, left, h⟩ := h
  have hrefuses : client.phase.refusesTasks = false := by rw [hphase]; rfl
  have hline : ({ client with queue := (client.queue.push task).2 } : Client).line =
      client.line ++ [task] := by
    simp [line, TaskQueue.push_toList hqueue]
  refine Booked.turn _ { client with queue := (client.queue.push task).2 } [] hstep ?_
    (TaskQueue.push_wellFormed hsound task) (TaskQueue.push_nodup hqueue task) hflight
    (.inl hphase) rfl
  have hcancels : Moment.cancels? ⟨client, .submit task⟩ = none := rfl
  refine ⟨gone, left ++ [⟨task, .waiting⟩], ?_⟩
  rw [hcancels, takes?_submit hrefuses halone, hline]
  simpa using h.take task

/-- **Whatever happens**, there is a ledger of it. -/
theorem Booked.next {moments : List Moment} (h : Booked moments client) (hsound : client.Sound)
    (hqueue : client.queue.Ordered) (event : Event) :
    Booked (moments ++ [⟨client, event⟩]) (client.react event).client := by
  rcases hcancels : Moment.cancels? ⟨client, event⟩ with _ | ⟨id, task⟩
  swap
  · exact h.cancelled hqueue hcancels
  have htransition := react_transition hsound.spare event
  have hdrained := drained_line hsound.queue
  generalize hstep : client.react event = step at htransition ⊢
  have hmoment : Moment.step ⟨client, event⟩ = step := hstep
  cases htransition with
  | quiet hevent halike haction =>
    refine h.quiet (Moment.takes?_of_ne hevent) ?_ hcancels (.inl ⟨?_, ?_⟩)
    · rw [Moment.starts, hmoment]
      rcases haction with rfl | rfl <;> rfl
    · rw [line, ← halike.queue]
      rfl
    · rw [halike.phase]
      exact id
  | abandoned | resent | heard =>
    exact h.quiet rfl (by rw [Moment.starts, hmoment]; rfl) hcancels (.inl ⟨rfl, id⟩)
  | established hphase =>
    refine h.quiet rfl (by rw [Moment.starts, hmoment]; rfl) hcancels (.inl ⟨rfl, ?_⟩)
    simp [hphase, Phase.isOver]
  | setup hevent hsetup =>
    obtain ⟨-, -, hsame, hover, -⟩ := hsetup.frame hsound
    refine h.quiet (Moment.takes?_of_ne hevent) ?_ hcancels (.inl ⟨?_, by simp [hover]⟩)
    · rw [Moment.starts, hmoment]
      exact hsetup.startsTask
    · simp [line, send, hsame]
  | failed _ hevent =>
    have htakes : Moment.takes? ⟨client, event⟩ = none := Moment.takes?_of_ne hevent
    cases hover : client.phase.isOver
    · rw [fail_eq _ hover] at hmoment ⊢
      exact h.quiet htakes (by rw [Moment.starts, hmoment]; rfl) hcancels (.inr ⟨hdrained, rfl⟩)
    · rw [fail_of_over _ hover] at hmoment ⊢
      exact h.quiet htakes (by rw [Moment.starts, hmoment]; rfl) hcancels (.inl ⟨rfl, id⟩)
  | lost =>
    by_cases hclosed : client.phase = .closed
    · rw [lost_of_closed hclosed] at hmoment ⊢
      exact h.quiet rfl (by rw [Moment.starts, hmoment]; rfl) hcancels (.inl ⟨rfl, id⟩)
    · rw [lost_eq hclosed] at hmoment ⊢
      exact h.quiet rfl (by rw [Moment.starts, hmoment]; rfl) hcancels (.inr ⟨hdrained, rfl⟩)
  | refused hphase =>
    exact h.quiet (by simp [Moment.takes?, hphase]) (by rw [Moment.starts, hmoment]; rfl) hcancels
      (.inl ⟨rfl, id⟩)
  | joinedFlight _ hflight htask =>
    refine h.quiet ?_ (by rw [Moment.starts, hmoment]; rfl) hcancels (.inl ⟨rfl, id⟩)
    simp [Moment.takes?, holdsPing, hflight, htask, Task.isPing]
  | fetched _ _ _ hfetch =>
    refine h.quiet rfl ?_ hcancels (.inl ⟨rfl, id⟩)
    rw [Moment.starts, hmoment]
    exact startsTask_of_fetch? hfetch
  | joinedWaiting _ hwaiting => exact h.joined hqueue hwaiting hmoment
  | waited hphase halone => exact h.waited hqueue hphase halone hmoment
  | served halone hphase hflight =>
    rw [← hmoment]
    exact h.served hsound.queue hqueue halone hphase hflight hmoment
  | turned hflight hphase =>
    obtain ⟨gone, left, h⟩ := h
    rw [← hmoment]
    refine Booked.turn _ client [] hmoment ⟨gone, left, ?_⟩ hsound.queue hqueue.nodup hflight
      hphase rfl
    rw [hcancels]
    simpa [Moment.takes?] using h
  | cancelled hremove =>
    have htask := (TaskQueue.remove_eq_some_iff.1 hremove).1
    simp [Moment.cancels?, TaskQueue.waiting?, htask] at hcancels
  | @finished message flight flight' hflight htask =>
    have hphase : client.phase = flight'.task.phase := by rw [htask, hsound.busy flight hflight]
    rcases finish_cases { client with awaiting := false, inFlight := none } flight' with
      ⟨hinFlight, statements, cleanup, hfinish⟩ | ⟨-, hfinish⟩
    · obtain ⟨gone, left, h⟩ := h
      rw [← hmoment]
      rw [hfinish] at hmoment
      refine Booked.turn _ _ _ hmoment ⟨gone, left, ?_⟩ hsound.queue hqueue.nodup rfl
        (.inr (hphase.trans hinFlight)) rfl
      rw [hcancels]
      simpa [Moment.takes?, line] using h
    · rw [hfinish] at hmoment ⊢
      exact h.quiet rfl (by rw [Moment.starts, hmoment]; rfl) hcancels (.inr ⟨hdrained, rfl⟩)

/-! ## Every run -/

/-- **There is a ledger of every run** in which fewer than `2 ^ 32` tasks of one and the same slot
are cancelled.

**Proof sketch.** Induction on the run. In the beginning nothing is in the ledger, and with the ids
apart every kind of step is one that a ledger can go on with. -/
theorem booked_after (credentials : Credentials) (random : RandomSource) (cacheSize : Nat)
    (events : List Event)
    (hfew : ∀ index,
      cancellations ((new credentials random cacheSize).moments events) index < UInt32.size) :
    Booked ((new credentials random cacheSize).moments events)
      ((new credentials random cacheSize).after events) := by
  induction events using List.reverseRecOn with
  | nil => exact ⟨[], [], Ledger.empty _⟩
  | append_singleton events event ih =>
    rw [moments_concat] at hfew
    rw [moments_concat, after_concat]
    have hfew' : ∀ index,
        cancellations ((new credentials random cacheSize).moments events) index < UInt32.size := by
      intro index
      have h := hfew index
      rw [cancellations_concat] at h
      omega
    exact (ih hfew').next (sound_after credentials random cacheSize events)
      (ordered_after credentials random cacheSize events hfew') event

/-- **One round trip at a time, in order.** Whatever befalls a new client, in any order:

* between two requests of tasks an answer comes to its end, so no request is sent while an earlier
  one is unanswered;
* tasks are started in the order in which they were submitted, the ones left out being those that
  were cancelled, those that were passed over at their turn because nobody waited for them any more,
  pings that joined an earlier ping, and those that were given up with the connection; here fewer
  than `2 ^ 32` tasks of one and the same slot are cancelled, so that no id comes twice;
* every request that starts a task is that of a task; and from the moment at which it is sent until
  another task is started, the end of an answer finds this task in flight, and what it gets depends
  only on what it asks for, on whether ends of answers are marked, on the cursor that was kept for
  its text when it was started, and on the messages since. -/
theorem one_at_a_time_in_order (credentials : Credentials) (random : RandomSource)
    (cacheSize : Nat) (events : List Event) :
    let moments := (new credentials random cacheSize).moments events
    (∀ past first between second rest, moments = past ++ first :: (between ++ second :: rest) →
      first.asks = true → second.asks = true →
        ∃ moment ∈ between ++ [second], moment.answers = true) ∧
    ((∀ index, cancellations moments index < UInt32.size) →
      ∃ gone left, Ledger (moments.filterMap Moment.takes?) (moments.filter Moment.starts)
        ((moments.filterMap Moment.cancels?).map Prod.snd)
        (fun task => ∃ moment ∈ moments, moment.PassesOver task)
        ((new credentials random cacheSize).after events).line
        ((new credentials random cacheSize).after events).phase.isOver gone left) ∧
    (∀ moment ∈ moments, moment.starts = true → ∃ task, moment.Starts task) ∧
    (∀ past first between last rest task flight,
      moments = past ++ first :: (between ++ last :: rest) →
      first.Starts task → (∀ moment ∈ between, moment.starts = false) →
      last.before.inFlight = some flight → last.answers = true →
        let entry := first.step.client.entry task
        let marked := first.step.client.capabilities.endOfResponse
        (task.begin entry).task.Extends flight.task ∧
          last.Gets flight (task.reply marked entry (messagesOf (between ++ [last])))) := by
  refine ⟨fun past first between second rest h hfirst hsecond => ?_, fun hfew => ?_,
    fun moment hmem hstarts => ?_,
    fun past first between last rest task flight h hstarts hbetween hflight hanswers => ?_⟩
  · exact answered_between h hfirst hsecond
  · exact booked_after credentials random cacheSize events hfew
  · obtain ⟨hsound, htransition⟩ := transition_of_mem hmem
    exact htransition.begins hsound hstarts
  · exact outcome_eq_reply h hstarts hbetween hflight hanswers

end Client

end TnsClient
