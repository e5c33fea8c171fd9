import TnsClient.Proofs.Client.Conservation
import TnsClient.Proofs.Client.LogonOrder
import TnsClient.Proofs.Client.RoundTrip
import TnsClient.Proofs.Queue.Slots

set_option autoImplicit false

/-!
# Where a task is

A task comes in by being submitted, waits, is in flight once its request has been sent, and is gone
once its handles have learned what became of it. Here it is told, kind of step by kind of step, how
a task may get from one of these places to the next: none comes into the queue but by being
submitted, none gets into flight without a request, and none leaves it untold.

## Main definitions

* `TnsClient.Client.held` — the tasks that are in flight or wait; `TnsClient.Client.Holds` — a
  handle is with one of them.
* `TnsClient.Client.IdleIfFree` — no task waits unless one is in flight.

## Main results

* `TnsClient.Client.submit_cases` — what submitting a task comes to, with the id that it gets.
* `TnsClient.Client.Transition.shrinks` — no other event adds to the queue.
* `TnsClient.Client.Transition.holds` — handles stay with tasks of their kind.
* `TnsClient.Client.Transition.flying_or_learned` — what is in flight stays there or is told.
* `TnsClient.Client.Transition.asks_or_flies` — what is in flight was asked for.
* `TnsClient.Client.Transition.idleIfFree` — a client that is free finds nothing to do.
-/

namespace TnsClient

lemma Task.begin_isPing (entry : Option CachedStatement) (task : Task) :
    (task.begin entry).task.isPing = task.isPing := by
  cases task <;> rfl

namespace Client

variable {client : Client} {event : Event} {step : Step}

/-- The tasks that are in flight or wait. -/
def held (client : Client) : List Task :=
  (client.inFlight.map InFlight.task).toList ++ client.queue.tasks

/-- No task waits unless one is in flight. -/
def IdleIfFree (client : Client) : Prop := client.inFlight = none → client.queue.tasks = []

/-! ## Submitting -/

/-- What submitting a task comes to. -/
inductive Submits (client : Client) (task : Task) : Submission → Prop
  /-- It is not taken any more. -/
  | refused (hphase : client.phase.refusesTasks = true) :
    Submits client task ⟨none, { client, resolved := task.fail .closed }⟩
  /-- It is a ping that joins the one in flight. -/
  | joinedFlight {handles others : List Handle} {flight : InFlight} (htask : task = .ping handles)
      (hflight : client.inFlight = some flight) (hping : flight.task = .ping others) :
    Submits client task ⟨none, { client with
      inFlight := some { flight with task := .ping (others ++ handles) } : Client }.idle⟩
  /-- It is a ping that joins one that waits. -/
  | joinedWaiting {handles others : List Handle} {id : TaskId} (htask : task = .ping handles)
      (hwaiting : client.queue.task? id = some (.ping others)) :
    Submits client task ⟨none, { client with
      queue := client.queue.replace id (.ping (others ++ handles)) : Client }.idle⟩
  /-- The turn of the first task has come. -/
  | served (hphase : client.phase = .ready) (hflight : client.inFlight = none) :
    Submits client task
      ⟨none, { client with queue := (client.queue.push task).2 : Client }.startNext⟩
  /-- It waits. -/
  | waited (hphase : client.phase.refusesTasks = false)
      (hnext : ¬(client.phase = .ready ∧ client.inFlight = none)) :
    Submits client task ⟨some (client.queue.push task).1,
      { client with queue := (client.queue.push task).2 : Client }.idle⟩

/-- **What submitting a task comes to**, with the id that it gets. -/
theorem submit_cases (client : Client) (task : Task) :
    client.Submits task (client.submit task) := by
  -- a task that joins no other waits, and may be served at once
  have hwait : client.phase.refusesTasks = false →
      client.Submits task (client.wait task) := by
    intro hphase
    unfold wait
    dsimp only
    split_ifs with hnext
    · exact .served hnext.1 (by simpa [isBusy] using hnext.2)
    · exact .waited hphase (by simpa [isBusy] using hnext)
  unfold submit
  cases hphase : client.phase.refusesTasks
  swap
  · simpa using Submits.refused hphase
  simp only [Bool.false_eq_true, if_false]
  cases task with
  | ping handles =>
    dsimp only
    rcases hjoin : client.joinPing? handles with _ | joined
    · exact hwait hphase
    · rcases joinPing?_cases hjoin with
        ⟨flight, others, hflight, hping, rfl⟩ | ⟨id, others, hwaiting, rfl⟩
      · exact .joinedFlight rfl hflight hping
      · exact .joinedWaiting rfl (TaskQueue.task?_of_find? hwaiting)
  | _ => exact hwait hphase

/-! ## The queue -/

lemma startNext_shrinks (hflight : client.inFlight = none)
    (hphase : client.phase = .ready ∨ client.phase = .inFlight) :
    client.queue.Shrinks client.startNext.client.queue := by
  rw [(startNext_front hflight hphase).1]
  exact client.queue.popSkipping_shrinks (Task.isAbandoned client.abandoned)

/-- **No event but a submission** adds to the queue. -/
theorem Transition.shrinks (h : client.Transition event step) (hsound : client.Sound)
    (hevent : ∀ task, event ≠ .submit task) : client.queue.Shrinks step.client.queue := by
  have hdrained : client.queue.Shrinks client.queue.drain.2 :=
    client.queue.popSkipping_shrinks fun _ => true
  have hrefl := TaskQueue.Shrinks.refl client.queue
  cases h with
  | quiet _ halike => exact halike.queue ▸ hrefl
  | setup _ hstep =>
    obtain ⟨-, -, hqueue, -⟩ := hstep.frame hsound
    exact hrefl.congr rfl (congrArg TaskQueue.slots hqueue)
  | failed =>
    cases hover : client.phase.isOver
    · rw [fail_eq _ hover]
      exact hdrained
    · rw [fail_of_over _ hover]
      exact hrefl
  | lost =>
    by_cases hclosed : client.phase = .closed
    · rw [lost_of_closed hclosed]
      exact hrefl
    · rw [lost_eq hclosed]
      exact hdrained
  | turned hflight hphase => exact startNext_shrinks hflight hphase
  | cancelled hremove => exact TaskQueue.remove_shrinks hremove
  | @finished _ flight flight' hflight htask =>
    have hphase : client.phase = flight'.task.phase := by rw [htask, hsound.busy flight hflight]
    rcases finish_cases { client with awaiting := false, inFlight := none } flight' with
      ⟨hinFlight, statements, cleanup, hstep⟩ | ⟨-, hstep⟩ <;> rw [hstep]
    · let settled : Client :=
        { client with awaiting := false, inFlight := none, statements, cleanup }
      exact @startNext_shrinks settled rfl (.inr (hphase.trans hinFlight))
    · exact hdrained
  | refused | joinedFlight | joinedWaiting | waited | served => exact absurd rfl (hevent _)
  | abandoned | resent | established | heard | fetched => exact hrefl

/-! ## What is held -/

/-- A handle is with a task that is in flight or waits and is a ping or not. -/
def Holds (client : Client) (handle : Handle) (ping : Bool) : Prop :=
  ∃ task ∈ client.held, handle ∈ task.handles ∧ task.isPing = ping

lemma holds_of_queue {task : Task} (hmem : task ∈ client.queue.tasks) {handle : Handle}
    (hhandle : handle ∈ task.handles) : client.Holds handle task.isPing :=
  ⟨task, List.mem_append_right _ hmem, hhandle, rfl⟩

lemma holds_of_inFlight {flight : InFlight} (hflight : client.inFlight = some flight)
    {handle : Handle} (hhandle : handle ∈ flight.task.handles) :
    client.Holds handle flight.task.isPing :=
  ⟨flight.task, List.mem_append_left _ (by simp [hflight]), hhandle, rfl⟩

/-- What is held after a step has been held before. -/
lemma Holds.of_subset {other : Client} {handle : Handle} {ping : Bool}
    (h : other.Holds handle ping) (hflight : ∀ flight, other.inFlight = some flight →
      ∃ flight', client.inFlight = some flight' ∧ flight'.task = flight.task)
    (hqueue : ∀ task ∈ other.queue.tasks, task ∈ client.queue.tasks) :
    client.Holds handle ping := by
  obtain ⟨task, hmem, hhandle, rfl⟩ := h
  rcases List.mem_append.1 hmem with hfound | hwaiting
  · obtain ⟨flight, hother, rfl⟩ := Option.map_eq_some_iff.1 (Option.mem_toList.1 hfound)
    obtain ⟨flight', hsame, htask⟩ := hflight flight hother
    rw [← htask] at hhandle ⊢
    exact holds_of_inFlight hsame hhandle
  · exact holds_of_queue (hqueue task hwaiting) hhandle

/-- Starting the next task moves one from the queue into flight. -/
lemma startNext_holds {handle : Handle} {ping : Bool}
    (h : client.startNext.client.Holds handle ping) (hqueue : client.queue.WellFormed)
    (hflight : client.inFlight = none) (hphase : client.phase = .ready ∨ client.phase = .inFlight) :
    client.Holds handle ping := by
  have hshrinks := startNext_shrinks hflight hphase
  have hsplits := (front_splits hqueue).tasks_perm
  rcases startNext_cases hflight hphase with ⟨-, hstep⟩ | ⟨task, hfront, hstep⟩
  · refine h.of_subset (fun flight hother => ?_) fun task => hshrinks.mem_tasks
    rw [hstep] at hother
    exact absurd hother (by simp [hflight])
  · obtain ⟨other, hmem, hhandle, rfl⟩ := h
    rcases List.mem_append.1 hmem with hfound | hwaiting
    · obtain ⟨flight, hother, rfl⟩ := Option.map_eq_some_iff.1 (Option.mem_toList.1 hfound)
      rw [hstep] at hother
      obtain rfl := Option.some.inj hother
      have htask : task ∈ client.queue.tasks :=
        hsplits.mem_iff.2 (List.mem_append_left _ (List.mem_append_right _ (by simp [hfront])))
      rw [Task.begin_handles] at hhandle
      rw [Task.begin_isPing]
      exact holds_of_queue htask hhandle
    · exact holds_of_queue (hshrinks.mem_tasks hwaiting) hhandle

/-- **Handles stay with tasks of their kind**: what a client holds after a step it has held before,
or it has been submitted. -/
theorem Transition.holds (h : client.Transition event step) (hsound : client.Sound)
    {handle : Handle} {ping : Bool} (hholds : step.client.Holds handle ping) :
    client.Holds handle ping ∨
      ∃ task, event = .submit task ∧ handle ∈ task.handles ∧ task.isPing = ping := by
  -- a task that is submitted and waits is one more
  have hpushed : ∀ {task : Task},
      ({ client with queue := (client.queue.push task).2 } : Client).Holds handle ping →
        client.Holds handle ping ∨
          ∃ task', Event.submit task = .submit task' ∧ handle ∈ task'.handles ∧
            task'.isPing = ping := by
    rintro task ⟨other, hmem, hhandle, rfl⟩
    rcases List.mem_append.1 hmem with hflying | hmem
    · exact .inl ⟨other, List.mem_append_left _ hflying, hhandle, rfl⟩
    · have hmem := (TaskQueue.push_tasks hsound.queue task).mem_iff.1 hmem
      rcases List.mem_append.1 hmem with hold | hnew
      · exact .inl (holds_of_queue hold hhandle)
      · obtain rfl := List.mem_singleton.1 hnew
        exact .inr ⟨other, rfl, hhandle, rfl⟩
  have hdrained : ∀ {other : Client}, other.inFlight = none → other.queue = client.queue.drain.2 →
      other.Holds handle ping → client.Holds handle ping := by
    intro other hflight hqueue hother
    obtain ⟨-, hempty, -⟩ := TaskQueue.drain_tasks hsound.queue
    exact hother.of_subset (by simp [hflight]) (by simp [hqueue, hempty])
  cases h with
  | quiet _ halike =>
    exact .inl (hholds.of_subset (fun flight hother => ⟨flight, halike.inFlight.trans hother, rfl⟩)
      fun task hmem => by rwa [halike.queue])
  | setup _ hstep =>
    obtain ⟨-, hflight, hqueue, -⟩ := hstep.frame hsound
    refine .inl (hholds.of_subset (fun flight hother => ?_) fun task hmem => ?_)
    · exact absurd (hflight.symm.trans hother) (by simp)
    · exact hqueue ▸ hmem
  | heard hflight htask | fetched hflight htask =>
    refine .inl (hholds.of_subset (fun flight hother => ⟨_, hflight, ?_⟩) fun _ => id)
    obtain rfl := Option.some.inj hother
    exact htask.symm
  | failed =>
    cases hover : client.phase.isOver
    · rw [fail_eq _ hover] at hholds
      exact .inl (hdrained rfl rfl hholds)
    · rw [fail_of_over _ hover] at hholds
      exact .inl hholds
  | lost =>
    by_cases hclosed : client.phase = .closed
    · rw [lost_of_closed hclosed] at hholds
      exact .inl hholds
    · rw [lost_eq hclosed] at hholds
      exact .inl (hdrained rfl rfl hholds)
  | @joinedFlight handles others flight _ hflight htask =>
    obtain ⟨task, hmem, hhandle, rfl⟩ := hholds
    rcases List.mem_append.1 hmem with hfound | hwaiting
    · obtain rfl := List.mem_singleton.1 hfound
      rcases List.mem_append.1 hhandle with hold | hnew
      · left
        have hmem : handle ∈ flight.task.handles := by
          rw [htask]
          exact hold
        have hheld := holds_of_inFlight hflight hmem
        rwa [htask] at hheld
      · exact .inr ⟨_, rfl, hnew, rfl⟩
    · exact .inl ⟨task, List.mem_append_right _ hwaiting, hhandle, rfl⟩
  | @joinedWaiting handles others id _ hwaiting =>
    have hfound := TaskQueue.task?_of_find? hwaiting
    have hreplaced := TaskQueue.replace_tasks hfound (.ping (others ++ handles))
    obtain ⟨task, hmem, hhandle, rfl⟩ := hholds
    rcases List.mem_append.1 hmem with hflying | hmem
    · exact .inl ⟨task, List.mem_append_left _ hflying, hhandle, rfl⟩
    · rcases List.mem_cons.1 (hreplaced.mem_iff.2 (List.mem_cons_of_mem _ hmem)) with rfl | hmem
      · rcases List.mem_append.1 hhandle with hold | hnew
        · exact .inl (holds_of_queue (TaskQueue.mem_tasks_iff.2 ⟨id, hfound⟩) hold)
        · exact .inr ⟨_, rfl, hnew, rfl⟩
      · exact .inl (holds_of_queue hmem hhandle)
  | waited => exact hpushed hholds
  | served _ hphase hflight =>
    exact hpushed (startNext_holds hholds (TaskQueue.push_wellFormed hsound.queue _) hflight
      (.inl hphase))
  | turned hflight hphase => exact .inl (startNext_holds hholds hsound.queue hflight hphase)
  | cancelled hremove =>
    have hperm := TaskQueue.remove_tasks hremove
    exact .inl (hholds.of_subset (fun flight hother => ⟨flight, hother, rfl⟩) fun task hmem =>
      hperm.mem_iff.2 (List.mem_cons_of_mem _ hmem))
  | @finished _ flight flight' hflight htask =>
    have hphase : client.phase = flight'.task.phase := by rw [htask, hsound.busy flight hflight]
    rcases finish_cases { client with awaiting := false, inFlight := none } flight' with
      ⟨hinFlight, statements, cleanup, hstep⟩ | ⟨-, hstep⟩ <;> rw [hstep] at hholds
    · have hbefore := startNext_holds hholds hsound.queue rfl (.inr (hphase.trans hinFlight))
      exact .inl (hbefore.of_subset (by simp) fun _ => id)
    · exact .inl (hdrained rfl rfl hholds)
  | abandoned | resent | established | refused => exact .inl hholds

/-! ## What is in flight -/

/-- **What is in flight** stays in flight, or its handles are told. -/
theorem Transition.flying_or_learned (h : client.Transition event step) (hsound : client.Sound)
    {handle : Handle} (hflying : handle ∈ client.flying) :
    handle ∈ step.client.flying ∨ handle ∈ step.learned := by
  have hpending : ∀ error, handle ∈
      (client.pendingTasks.flatMap fun task => task.fail error).map Resolution.handle := by
    intro error
    rw [Task.fail_handles, pendingTasks, List.flatMap_append]
    exact List.mem_append_left _ hflying
  cases h with
  | quiet _ halike =>
    left
    rwa [flying, ← halike.inFlight]
  | setup _ hstep =>
    obtain ⟨hflight, -⟩ := hstep.frame hsound
    simp [flying, hflight] at hflying
  | heard hflight htask | fetched hflight htask =>
    left
    simpa [flying, hflight, htask, send, idle] using hflying
  | failed =>
    cases hover : client.phase.isOver
    · rw [fail_eq _ hover]
      exact .inr (hpending _)
    · rw [fail_of_over _ hover]
      exact .inl hflying
  | lost =>
    by_cases hclosed : client.phase = .closed
    · rw [lost_of_closed hclosed]
      exact .inl hflying
    · rw [lost_eq hclosed]
      exact .inr (hpending _)
  | joinedFlight _ hflight htask =>
    left
    simp only [flying, hflight, Option.map_some, Option.toList_some, List.flatMap_cons,
      List.flatMap_nil, List.append_nil, htask, Task.handles, idle] at hflying ⊢
    exact List.mem_append_left _ hflying
  | served _ _ hflight | turned hflight => simp [flying, hflight] at hflying
  | @finished _ flight flight' hflight htask =>
    right
    have hmem : handle ∈ flight'.task.handles := by
      rw [htask]
      simpa [flying, hflight] using hflying
    have hresolved : handle ∈ (flight'.task.resolve flight'.outcome).map Resolution.handle := by
      rwa [Task.resolve_handles]
    rcases finish_cases { client with awaiting := false, inFlight := none } flight' with
      ⟨-, statements, cleanup, hstep⟩ | ⟨-, hstep⟩ <;>
      rw [hstep, Step.learned, List.map_append] <;>
      exact List.mem_append_left _ hresolved
  | abandoned | resent | established | refused | joinedWaiting | waited | cancelled =>
    exact .inl hflying

/-- What the next task is started with is a request for it. -/
lemma startNext_asks (hflight : client.inFlight = none)
    (hphase : client.phase = .ready ∨ client.phase = .inFlight) {flight : InFlight}
    (hnext : client.startNext.client.inFlight = some flight) :
    client.startNext.action.asksTask = true := by
  rcases startNext_cases hflight hphase with ⟨-, hstep⟩ | ⟨task, -, hstep⟩ <;> rw [hstep] at hnext ⊢
  · exact absurd (hflight.symm.trans hnext) (by simp)
  · cases task <;> rfl

/-- **What is in flight** was asked for at this step, or was in flight before; only a ping can have
been joined by another. -/
theorem Transition.asks_or_flies (h : client.Transition event step) (hsound : client.Sound)
    {flight : InFlight} (hflight : step.client.inFlight = some flight)
    (hping : flight.task.isPing = false) :
    step.action.asksTask = true ∨
      ∃ before, client.inFlight = some before ∧ before.task = flight.task := by
  cases h with
  | quiet _ halike => exact .inr ⟨flight, halike.inFlight.trans hflight, rfl⟩
  | setup _ hstep =>
    obtain ⟨-, hnone, -⟩ := hstep.frame hsound
    exact absurd (hnone.symm.trans hflight) (by simp)
  | heard hbefore htask =>
    obtain rfl := Option.some.inj hflight
    exact .inr ⟨_, hbefore, htask.symm⟩
  | failed =>
    cases hover : client.phase.isOver
    · rw [fail_eq _ hover] at hflight
      cases hflight
    · rw [fail_of_over _ hover] at hflight
      exact .inr ⟨flight, hflight, rfl⟩
  | lost =>
    by_cases hclosed : client.phase = .closed
    · rw [lost_of_closed hclosed] at hflight
      exact .inr ⟨flight, hflight, rfl⟩
    · rw [lost_eq hclosed] at hflight
      cases hflight
  | joinedFlight =>
    obtain rfl := Option.some.inj hflight
    cases hping
  | served _ hphase hnone => exact .inl (startNext_asks hnone (.inl hphase) hflight)
  | turned hnone hphase => exact .inl (startNext_asks hnone hphase hflight)
  | fetched _ _ _ hfetch =>
    obtain ⟨statement, handle, -, rfl⟩ := fetch?_eq_some hfetch
    exact .inl rfl
  | @finished _ flight₀ flight' hbefore htask =>
    have hphase : client.phase = flight'.task.phase := by rw [htask, hsound.busy flight₀ hbefore]
    rcases finish_cases { client with awaiting := false, inFlight := none } flight' with
      ⟨hinFlight, statements, cleanup, hstep⟩ | ⟨-, hstep⟩ <;> rw [hstep] at hflight ⊢
    · let settled : Client :=
        { client with awaiting := false, inFlight := none, statements, cleanup }
      exact .inl (@startNext_asks settled rfl (.inr (hphase.trans hinFlight)) flight hflight)
    · cases hflight
  | abandoned | resent | established | refused | joinedWaiting | waited | cancelled =>
    exact .inr ⟨flight, hflight, rfl⟩

/-! ## A client that is free -/

lemma startNext_idleIfFree (hqueue : client.queue.WellFormed) (hflight : client.inFlight = none)
    (hphase : client.phase = .ready ∨ client.phase = .inFlight) :
    client.startNext.client.IdleIfFree := by
  rcases startNext_cases hflight hphase with ⟨hnone, hstep⟩ | ⟨task, -, hstep⟩ <;> rw [hstep]
  · exact fun _ => (front_splits hqueue).exhausted hnone
  · exact fun hfree => by cases hfree

/-- Where only one task waits, none is left behind. -/
lemma startNext_tasks (hqueue : client.queue.WellFormed) (hflight : client.inFlight = none)
    (hphase : client.phase = .ready ∨ client.phase = .inFlight)
    (hsingle : client.queue.tasks.length = 1) : client.startNext.client.queue.tasks = [] := by
  have hsplits := front_splits hqueue
  rcases startNext_cases hflight hphase with ⟨hnone, hstep⟩ | ⟨task, hfront, hstep⟩ <;> rw [hstep]
  · exact hsplits.exhausted hnone
  · have hlength := hsplits.tasks_perm.length_eq
    rw [hfront, List.length_append, List.length_append, hsingle] at hlength
    have hrest : client.front.queue.tasks.length = 0 := by simp at hlength; omega
    exact List.eq_nil_of_length_eq_zero hrest

/-- **A client that is free finds nothing to do**, if tasks are submitted once the logon is done. -/
theorem Transition.idleIfFree (h : client.Transition event step) (hsound : client.Sound)
    (hidle : client.IdleIfFree)
    (hserving : ∀ task, event = .submit task → client.phase.isOver = true ∨
      client.phase.serves = true) : step.client.IdleIfFree := by
  obtain ⟨-, hdrained, -⟩ := TaskQueue.drain_tasks hsound.queue
  cases h with
  | quiet _ halike => rwa [IdleIfFree, ← halike.inFlight, ← halike.queue]
  | setup _ hstep =>
    obtain ⟨hnone, -, hqueue, -⟩ := hstep.frame hsound
    intro _
    rw [← hidle hnone, ← hqueue]
    rfl
  | failed =>
    cases hover : client.phase.isOver
    · rw [fail_eq _ hover]
      exact fun _ => hdrained
    · rw [fail_of_over _ hover]
      exact hidle
  | lost =>
    by_cases hclosed : client.phase = .closed
    · rw [lost_of_closed hclosed]
      exact hidle
    · rw [lost_eq hclosed]
      exact fun _ => hdrained
  | joinedWaiting _ hwaiting =>
    intro hfree
    have hmem := TaskQueue.mem_tasks_iff.2 ⟨_, TaskQueue.task?_of_find? hwaiting⟩
    rw [hidle hfree] at hmem
    cases hmem
  | waited hphase _ hnext =>
    -- a client that takes tasks and has none in flight is ready, and would have started this one
    intro hfree
    have hserves : client.phase.serves = true :=
      (hserving _ rfl).resolve_left (by simp [Phase.not_isOver_of_takes hphase])
    have hready : client.phase = .ready := by
      have hspare := (hsound.spare hfree).1
      revert hphase hserves hspare
      cases client.phase <;> simp [Phase.refusesTasks, Phase.serves]
    exact absurd ⟨hready, hfree⟩ hnext
  | served _ hphase hflight =>
    exact startNext_idleIfFree (TaskQueue.push_wellFormed hsound.queue _) hflight (.inl hphase)
  | turned hflight hphase => exact startNext_idleIfFree hsound.queue hflight hphase
  | cancelled hremove =>
    intro hfree
    refine List.eq_nil_iff_forall_not_mem.2 fun task hmem => ?_
    have hmem := (TaskQueue.remove_shrinks hremove).mem_tasks hmem
    rw [hidle hfree] at hmem
    cases hmem
  | @finished _ flight flight' hflight htask =>
    have hphase : client.phase = flight'.task.phase := by rw [htask, hsound.busy flight hflight]
    rcases finish_cases { client with awaiting := false, inFlight := none } flight' with
      ⟨hinFlight, statements, cleanup, hstep⟩ | ⟨-, hstep⟩ <;> rw [hstep]
    · exact startNext_idleIfFree hsound.queue rfl (.inr (hphase.trans hinFlight))
    · exact fun _ => hdrained
  | heard | joinedFlight | fetched => exact fun hfree => by cases hfree
  | abandoned | resent | established | refused => exact hidle

end Client

end TnsClient
