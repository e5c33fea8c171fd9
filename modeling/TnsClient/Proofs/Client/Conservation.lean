import Mathlib.Data.List.Induction
import TnsClient.Proofs.Client.Invariant

set_option autoImplicit false

/-!
# No handle is lost

Every handle that comes with a task learns its outcome exactly once, or its task is in flight or
waits. A step moves handles between these places, and this is proved for each kind of step; a run
then adds up. What a connection that is over still does is said here as well: it holds nothing, it
takes nothing, and it stays over.

## Main definitions

* `TnsClient.Client.flying`, `TnsClient.Client.waiting` — the handles of the task in flight, and of
  the tasks that wait.
* `TnsClient.Client.Step.learned` — the handles that learn their outcome.

## Main results

* `TnsClient.Client.Transition.conserves` — a step loses no handle and doubles none.
* `TnsClient.Client.handles_conserved` — nor does a run, and nothing waits on a connection that is
  over.
-/

namespace TnsClient

lemma Task.resolve_handles (task : Task) (outcome : Outcome) :
    (task.resolve outcome).map Resolution.handle = task.handles := by
  simp [Task.resolve, Function.comp_def]

lemma Task.fail_handles (tasks : List Task) (error : ClientError) :
    (tasks.flatMap fun task => task.fail error).map Resolution.handle =
      tasks.flatMap Task.handles := by
  simp [List.map_flatMap, Task.fail, Task.resolve_handles]

lemma Task.outcome_of_mem_fail {tasks : List Task} {error : ClientError} {resolution : Resolution}
    (h : resolution ∈ tasks.flatMap fun task => task.fail error) :
    resolution.outcome = .error error := by
  obtain ⟨task, -, hmem⟩ := List.mem_flatMap.1 h
  obtain ⟨handle, -, rfl⟩ := List.mem_map.1 hmem
  rfl

namespace Client

/-- The handles of the task in flight. -/
def flying (client : Client) : List Handle :=
  (client.inFlight.map InFlight.task).toList.flatMap Task.handles

/-- The handles of the tasks that wait. -/
def waiting (client : Client) : List Handle := client.queue.tasks.flatMap Task.handles

/-- The handles that learn their outcome. -/
def Step.learned (step : Step) : List Handle := step.resolved.map Resolution.handle

variable {client : Client}

/-! ## One step -/

/-- The tasks that a connection gives up are those in flight and waiting. -/
lemma pendingTasks_handles (hqueue : client.queue.WellFormed) :
    (client.pendingTasks.flatMap Task.handles).Perm (client.flying ++ client.waiting) := by
  obtain ⟨hdrained, -, -⟩ := TaskQueue.drain_tasks hqueue
  unfold pendingTasks flying waiting
  rw [List.flatMap_append]
  exact (hdrained.symm.flatMap_right _).append_left _

/-- Failing resolves whatever is pending. -/
lemma fail_conserves (hsound : client.Sound) (error : ClientError) :
    (client.flying ++ client.waiting).Perm
      ((client.fail error).learned ++
        ((client.fail error).client.flying ++ (client.fail error).client.waiting)) := by
  cases hover : client.phase.isOver
  · obtain ⟨-, hempty, -⟩ := TaskQueue.drain_tasks hsound.queue
    rw [fail_eq error hover]
    simpa [Step.learned, Task.fail_handles, flying, waiting, hempty] using
      (pendingTasks_handles hsound.queue).symm
  · rw [fail_of_over error hover]
    exact List.Perm.refl _

/-- So does losing the connection. -/
lemma lost_conserves (hsound : client.Sound) :
    (client.flying ++ client.waiting).Perm
      (client.lost.learned ++ (client.lost.client.flying ++ client.lost.client.waiting)) := by
  by_cases hclosed : client.phase = .closed
  · rw [lost_of_closed hclosed]
    exact List.Perm.refl _
  · obtain ⟨-, hempty, -⟩ := TaskQueue.drain_tasks hsound.queue
    rw [lost_eq hclosed]
    simpa [Step.learned, Task.fail_handles, flying, waiting, hempty] using
      (pendingTasks_handles hsound.queue).symm

/-- Starting the next task resolves the tasks passed over and moves one task into flight. -/
lemma startNext_conserves (client : Client) (hqueue : client.queue.WellFormed)
    (hflight : client.inFlight = none)
    (hphase : client.phase = .ready ∨ client.phase = .inFlight) :
    client.waiting.Perm
      (client.startNext.learned ++
        (client.startNext.client.flying ++ client.startNext.client.waiting)) := by
  have hsplits := ((front_splits hqueue).tasks_perm.flatMap_right Task.handles)
  rcases startNext_cases hflight hphase with ⟨htask, hstep⟩ | ⟨task, htask, hstep⟩ <;> rw [hstep]
  · simpa [Step.learned, passedOver, Task.fail_handles, flying, waiting, hflight, htask] using
      hsplits
  · simpa [Step.learned, passedOver, Task.fail_handles, flying, waiting, launched, htask] using
      hsplits

/-- The end of a task resolves it, and moves the next one into flight or gives up all others. -/
lemma finish_conserves (client : Client) (hqueue : client.queue.WellFormed)
    (hflight : client.inFlight = none)
    {flight : InFlight} (hphase : client.phase = flight.task.phase) :
    (flight.task.handles ++ client.waiting).Perm
      ((client.finish flight).learned ++
        ((client.finish flight).client.flying ++ (client.finish flight).client.waiting)) := by
  rcases client.finish_cases flight with ⟨hinFlight, statements, cleanup, hstep⟩ | ⟨-, hstep⟩ <;>
    rw [hstep]
  · have hstart : client.waiting.Perm _ := startNext_conserves
      { client with statements, cleanup } hqueue hflight
      (.inr (hphase.trans hinFlight))
    simpa [Step.learned, Task.resolve_handles] using hstart.append_left flight.task.handles
  · obtain ⟨hdrained, hempty, -⟩ := TaskQueue.drain_tasks hqueue
    simpa [Step.learned, Task.resolve_handles, Task.fail_handles, flying, waiting, hempty,
      hflight] using (hdrained.flatMap_right Task.handles).append_left flight.task.handles

lemma Event.handles_eq_nil {event : Event} (h : ∀ task, event ≠ .submit task) :
    event.handles = [] := by
  cases event with
  | submit task => exact absurd rfl (h task)
  | _ => rfl

/-- **A step loses no handle and doubles none**: the handles that the event brings and those that
were pending are those that learn their outcome and those that are pending afterwards. -/
theorem Transition.conserves {event : Event} {step : Step} (h : client.Transition event step)
    (hsound : client.Sound) :
    (event.handles ++ (client.flying ++ client.waiting)).Perm
      (step.learned ++ (step.client.flying ++ step.client.waiting)) := by
  have hrefl := List.Perm.refl (client.flying ++ client.waiting)
  cases h with
  | quiet hevent halike =>
    simp [Event.handles_eq_nil hevent, Step.learned, flying, waiting, halike.inFlight,
      halike.queue]
  | abandoned => exact hrefl
  | resent => exact hrefl
  | setup hevent hstep =>
    obtain ⟨hflight, hflight', hqueue, -, -⟩ := hstep.frame hsound
    simp [Event.handles_eq_nil hevent, Step.learned, send, flying, waiting, hflight, hflight',
      hqueue]
  | established => exact hrefl
  | heard hflight htask => simp [Event.handles, Step.learned, idle, flying, waiting, hflight, htask]
  | failed _ hevent =>
    rw [Event.handles_eq_nil hevent]
    exact fail_conserves hsound _
  | lost => exact lost_conserves hsound
  | @refused task =>
    simp [Event.handles, Step.learned, Task.fail, Task.resolve_handles]
  | @joinedFlight handles others flight hphase hflight htask =>
    have hcomm : (handles ++ others).Perm (others ++ handles) := List.perm_append_comm
    simpa [Event.handles, Step.learned, idle, flying, waiting, hflight, htask, Task.handles] using
      hcomm.append_right client.waiting
  | @joinedWaiting handles others id hphase hwaiting =>
    have hperm := (TaskQueue.replace_tasks (TaskQueue.task?_of_find? hwaiting)
      (.ping (others ++ handles))).flatMap_right Task.handles
    refine List.perm_iff_count.2 fun handle => ?_
    have hcount := List.perm_iff_count.1 hperm handle
    simp only [List.flatMap_cons, Task.handles, List.append_assoc, List.count_append,
      Event.handles, flying, waiting, Step.learned, idle, List.map_nil, List.nil_append] at hcount ⊢
    omega
  | @waited task =>
    have hperm := (TaskQueue.push_tasks hsound.queue task).flatMap_right Task.handles
    refine List.perm_iff_count.2 fun handle => ?_
    have hcount := List.perm_iff_count.1 hperm handle
    simp only [List.flatMap_append, List.flatMap_cons, List.flatMap_nil, List.append_nil,
      List.count_append, Event.handles, flying, waiting, Step.learned, idle, List.map_nil,
      List.nil_append] at hcount ⊢
    omega
  | @served task _ hphase hflight =>
    have hpush := (TaskQueue.push_tasks hsound.queue task).flatMap_right Task.handles
    have hstart := startNext_conserves
      { client with queue := (client.queue.push task).2 }
      (TaskQueue.push_wellFormed hsound.queue task) hflight (.inl hphase)
    refine List.Perm.trans ?_ hstart
    refine List.Perm.trans ?_ hpush.symm
    simpa [Event.handles, flying, waiting, hflight] using List.perm_append_comm
  | turned hflight hphase =>
    simpa [Event.handles, flying, hflight] using
      startNext_conserves client hsound.queue hflight hphase
  | cancelled hremove =>
    have hperm := (TaskQueue.remove_tasks hremove).flatMap_right Task.handles
    refine List.perm_iff_count.2 fun handle => ?_
    have hcount := List.perm_iff_count.1 hperm handle
    simp only [List.flatMap_cons, List.count_append, Event.handles, flying, waiting,
      List.nil_append, Step.learned, Task.fail, Task.resolve_handles] at hcount ⊢
    omega
  | fetched hflight htask =>
    simp [Event.handles, Step.learned, send, flying, waiting, hflight, htask]
  | @finished message flight flight' hflight htask =>
    have hfinish : (flight'.task.handles ++ client.waiting).Perm _ := finish_conserves
      { client with awaiting := false, inFlight := none } hsound.queue rfl
      (by rw [htask, hsound.busy flight hflight])
    simpa [Event.handles, flying, hflight, htask] using hfinish

/-! ## A connection that is over -/

/-- Nothing is pending on a connection that is over. -/
lemma Sound.nothing_pending (hsound : client.Sound) (hover : client.phase.isOver = true) :
    client.flying = [] ∧ client.waiting = [] := by
  simp [flying, waiting, hsound.inFlight_of_over hover, hsound.ended hover]

/-- **A connection that is over stays over**: its phase changes at most because the transport of a
connection that has failed is gone too. -/
lemma Transition.phase_of_over {event : Event} {step : Step} (h : client.Transition event step)
    (hsound : client.Sound) (hover : client.phase.isOver = true) :
    step.client.phase = client.phase ∨
      (event = .lost ∧ client.phase = .errored ∧ step.client.phase = .closed) := by
  have hflight := hsound.inFlight_of_over hover
  cases h with
  | quiet _ halike => exact .inl halike.phase.symm
  | abandoned | resent | refused | heard | joinedFlight | joinedWaiting | waited | cancelled
  | fetched => exact .inl rfl
  | setup _ hstep => simpa [hover] using (hstep.frame hsound).2.2.2.1
  | established hphase => simp [hphase, Phase.isOver] at hover
  | failed =>
    rw [fail_of_over _ hover]
    exact .inl rfl
  | lost =>
    by_cases hclosed : client.phase = .closed
    · rw [lost_of_closed hclosed]
      exact .inl rfl
    · rw [lost_eq hclosed]
      refine .inr ⟨rfl, ?_, rfl⟩
      cases hphase : client.phase <;> simp_all [Phase.isOver]
  | served _ hphase => simp [hphase, Phase.isOver] at hover
  | turned _ hphase => rcases hphase with hphase | hphase <;> simp [hphase, Phase.isOver] at hover
  | finished hflight' => simp [hflight] at hflight'

lemma Transition.isOver_of_over {event : Event} {step : Step} (h : client.Transition event step)
    (hsound : client.Sound) (hover : client.phase.isOver = true) :
    step.client.phase.isOver = true := by
  rcases h.phase_of_over hsound hover with hsame | ⟨-, -, hclosed⟩
  · rwa [hsame]
  · rw [hclosed]
    rfl

/-! ## Runs -/

/-- The steps of a run add up: what was submitted has been learned or is pending. -/
lemma moments_conserve (credentials : Credentials) (random : RandomSource) (cacheSize : Nat)
    (events : List Event) :
    (events.flatMap Event.handles).Perm
      (((new credentials random cacheSize).moments events).flatMap
          (fun moment => moment.step.learned) ++
        (((new credentials random cacheSize).after events).flying ++
          ((new credentials random cacheSize).after events).waiting)) := by
  induction events using List.reverseRecOn with
  | nil => exact List.Perm.refl _
  | append_singleton events event ih =>
    have hbefore := sound_after credentials random cacheSize events
    have hstep := (react_transition hbefore.spare event).conserves hbefore
    refine List.perm_iff_count.2 fun handle => ?_
    have hpast := List.perm_iff_count.1 ih handle
    have hnow := List.perm_iff_count.1 hstep handle
    simp only [List.flatMap_append, List.flatMap_cons, List.flatMap_nil, List.append_nil,
      List.count_append, moments_concat, after_concat, Moment.step] at hpast hnow ⊢
    omega

/-- **No run loses a handle.** Whatever befalls a new client, in any order:

* the handles that were submitted, those of pings that joined another one included, are those that
  have learned their outcome, those of the task in flight and those of the tasks that wait, each as
  often as it was submitted;
* on a connection that is closed or has failed nothing is pending, and it stays as it is, unless it
  has failed and the transport is lost, which closes it;
* a connection that is about to end or has ended takes no task, and says so at once;
* a failure gives its reason to every handle that was pending and leaves nothing in flight and
  nothing in the queue. -/
theorem handles_conserved (credentials : Credentials) (random : RandomSource) (cacheSize : Nat)
    (events : List Event) :
    let moments := (new credentials random cacheSize).moments events
    let client := (new credentials random cacheSize).after events
    (events.flatMap Event.handles).Perm
        (moments.flatMap (fun moment => moment.step.learned) ++ (client.flying ++ client.waiting)) ∧
      (client.phase.isOver = true →
        (client.flying = [] ∧ client.waiting = []) ∧
        ∀ event, (client.react event).client.phase = client.phase ∨
          (event = .lost ∧ client.phase = .errored ∧
            (client.react event).client.phase = .closed)) ∧
      (client.phase.refusesTasks = true → ∀ task,
        client.submit task = ⟨none, { client, resolved := task.fail .closed }⟩) ∧
      (client.phase.isOver = false → ∀ error,
        (client.fail error).learned.Perm (client.flying ++ client.waiting) ∧
        (∀ resolution ∈ (client.fail error).resolved, resolution.outcome = .error error) ∧
        (client.fail error).client.inFlight = none ∧
        (client.fail error).client.queue.tasks = [] ∧
        (client.fail error).client.queue.isEmpty = true) := by
  intro moments client
  have hsound : client.Sound := sound_after credentials random cacheSize events
  refine ⟨?_, fun hover => ⟨hsound.nothing_pending hover, fun event => ?_⟩, fun hrefuses task => ?_,
    fun hover error => ?_⟩
  · exact moments_conserve credentials random cacheSize events
  · exact (react_transition hsound.spare event).phase_of_over hsound hover
  · simp [submit, hrefuses]
  · have hconserves := fail_conserves hsound error
    obtain ⟨-, hempty, hdrained⟩ := TaskQueue.drain_tasks hsound.queue
    rw [fail_eq error hover] at hconserves ⊢
    refine ⟨?_, fun resolution hmem => Task.outcome_of_mem_fail hmem, rfl, hempty, ?_⟩
    · simpa [flying, waiting, hempty] using hconserves.symm
    · simp [TaskQueue.isEmpty, hdrained.counted, hempty]

end Client

end TnsClient
