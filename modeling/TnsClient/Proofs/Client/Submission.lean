import TnsClient.Proofs.Client.Order
import TnsClient.Proofs.Client.Whereabouts

set_option autoImplicit false

/-!
# What a caller is told of a submission

A task that waits has an id, by which its caller may cancel it; a task that is served at once needs
none. So the caller should get an id just if its task waits. It does, unless the client is ready and
finds tasks in the queue, which have been submitted before the user was logged on: then it serves
the first of these, and the task that was submitted gets no id, though it waits.

## Main definitions

* `TnsClient.Moment.Queues` — a submitted task waits under an id.
* `TnsClient.Moment.Disposes` — it need not wait.
* `TnsClient.Client.TurnDue` — it is the turn of a task that waits.

## Main results

* `TnsClient.Client.submit_told` — a task that is submitted need not wait, waits under its id, or
  waits without it because it is the turn of another one.
* `TnsClient.Client.id_of_submission` — what the id of a submission tells.
-/

namespace TnsClient

/-- The submitted task waits: it is found under an id under which nothing was found before. -/
def Moment.Queues (moment : Moment) (task : Task) (id : TaskId) : Prop :=
  moment.before.queue.task? id = none ∧ moment.step.client.queue.task? id = some task

/-- The submitted task need not wait. -/
inductive Moment.Disposes (moment : Moment) (task : Task) : Prop
  /-- No task is taken any more, and its callers learn so. -/
  | refused (hphase : moment.before.phase.refusesTasks = true)
      (hresolved : moment.step.resolved = task.fail .closed)
  /-- It joins a ping. -/
  | joined (hping : task.isPing = true) (hholds : moment.before.holdsPing = true)
  /-- It is started. -/
  | started (hstarts : moment.Starts task)
  /-- It is passed over, since nobody waits for it. -/
  | passedOver (hpasses : moment.PassesOver task)

namespace Client

/-- It is the turn of a task that waits. -/
def TurnDue (client : Client) : Prop :=
  client.phase = .ready ∧ client.inFlight = none ∧
    ∃ task ∈ client.queue.tasks, task.isAbandoned client.abandoned = false

/-- The task of an id is cancelled: it is taken out of the queue and no other is, and its callers
learn so. -/
def Cancels (client : Client) (id : TaskId) (task : Task) : Prop :=
  ∃ rest, client.cancel id =
      (true, { client := { client with queue := rest }, resolved := task.fail .cancelled }) ∧
    ∀ other, rest.task? other = if other = id then none else client.queue.task? other

/-- The client with a task behind all others. -/
def lineUp (client : Client) (task : Task) : Client :=
  { client with queue := (client.queue.push task).2 }

variable {client : Client} {task : Task} {id : TaskId}

/-- A task that waits can be cancelled. -/
lemma cancels_of_waits (h : client.queue.task? id = some task) : client.Cancels id task := by
  have hremove := TaskQueue.remove_eq_some_iff.2 ⟨h, rfl⟩
  refine ⟨_, ?_, TaskQueue.task?_remove hremove⟩
  rw [cancel, hremove]

/-! ## What submitting a task comes to -/

/-- A ping that joins another one finds it. -/
lemma holdsPing_of_joins {handles : List Handle} {joined : Client}
    (h : client.joinPing? handles = some joined) : client.holdsPing = true := by
  unfold holdsPing
  rw [Bool.or_eq_true]
  rcases joinPing?_cases h with ⟨flight, others, hflight, hping, -⟩ | ⟨id, others, hfind, -⟩
  · left
    simp [hflight, hping, Task.isPing]
  · right
    have hmem : (id, Task.ping others) ∈ client.queue.toList := List.mem_of_find?_eq_some hfind
    exact List.any_eq_true.2 ⟨.ping others, List.mem_map_of_mem hmem, rfl⟩

/-- A task that is taken lines up; a client that is ready then starts the first task. -/
lemma submit_of_takes (htakes : Moment.takes? ⟨client, .submit task⟩ = some task) :
    client.submit task =
      if client.phase = .ready ∧ client.inFlight = none then
        ⟨none, (client.lineUp task).startNext⟩
      else ⟨some (client.queue.push task).1, (client.lineUp task).idle⟩ := by
  obtain ⟨hphase, halone⟩ : client.phase.refusesTasks = false ∧
      (task.isPing = true → client.holdsPing = false) := by
    simpa [Moment.takes?] using htakes
  have hwait : client.wait task =
      if client.phase = .ready ∧ client.inFlight = none then
        ⟨none, (client.lineUp task).startNext⟩
      else ⟨some (client.queue.push task).1, (client.lineUp task).idle⟩ := by
    simp [wait, lineUp, isBusy]
  unfold submit
  rw [if_neg (by simp [hphase])]
  cases task with
  | ping handles =>
    dsimp only
    rcases hjoin : client.joinPing? handles with _ | joined
    · exact hwait
    · exact absurd (holdsPing_of_joins hjoin) (by simp [halone rfl])
  | _ => exact hwait

/-- A task that is not taken is refused, or it joins a ping. It gets no id, and does not wait. -/
lemma submit_of_not_takes (htakes : Moment.takes? ⟨client, .submit task⟩ = none) :
    (client.submit task).id = none ∧ Moment.Disposes ⟨client, .submit task⟩ task ∧
      ∀ id, ¬Moment.Queues ⟨client, .submit task⟩ task id := by
  cases hphase : client.phase.refusesTasks
  swap
  · have hsubmit : client.submit task = ⟨none, { client, resolved := task.fail .closed }⟩ := by
      unfold submit
      rw [if_pos hphase]
    have hstep : Moment.step ⟨client, .submit task⟩ =
        { client, resolved := task.fail .closed } := congrArg Submission.step hsubmit
    refine ⟨by rw [hsubmit], .refused hphase (by rw [hstep]), fun id hqueues => ?_⟩
    obtain ⟨hnone, hsome⟩ := hqueues
    rw [hstep, hnone] at hsome
    cases hsome
  obtain ⟨hping, hholds⟩ : task.isPing = true ∧ client.holdsPing = true := by
    simpa [Moment.takes?, hphase] using htakes
  cases task with
  | ping handles =>
    rcases hjoin : client.joinPing? handles with _ | joined
    · simp [holdsPing_of_joinPing? hjoin] at hholds
    have hsubmit : client.submit (.ping handles) = ⟨none, joined.idle⟩ := by
      unfold submit
      rw [if_neg (by simp [hphase])]
      simp only [hjoin]
    have hstep : Moment.step ⟨client, .submit (.ping handles)⟩ = joined.idle :=
      congrArg Submission.step hsubmit
    refine ⟨by rw [hsubmit], .joined hping hholds, fun id hqueues => ?_⟩
    obtain ⟨hnone, hsome⟩ := hqueues
    rw [hstep] at hsome
    rcases joinPing?_cases hjoin with
      ⟨flight, others, -, -, rfl⟩ | ⟨found, others, hfind, rfl⟩
    · exact absurd (hnone.symm.trans hsome) (by simp)
    · have hfound := TaskQueue.task?_of_find? hfind
      have hne : id ≠ found := by
        rintro rfl
        exact absurd (hnone.symm.trans hfound) (by simp)
      have hsame := TaskQueue.task?_replace hfound (.ping (others ++ handles)) id
      rw [if_neg hne] at hsame
      exact absurd (hnone.symm.trans (hsame.symm.trans hsome)) (by simp)
  | _ => cases hping

/-! ## Where the submitted task is -/

/-- A task that has lined up is found under the id that it was given. -/
lemma lineUp_task? (hsound : client.Sound) (task : Task) :
    (client.lineUp task).queue.task? (client.queue.push task).1 = some task := by
  rw [lineUp, TaskQueue.task?_push hsound.queue, if_pos rfl]

/-- If it waits, it does so under this id. -/
lemma queues_iff_of_shrinks (hsound : client.Sound)
    (hshrinks : (client.lineUp task).queue.Shrinks (client.submit task).step.client.queue) :
    (∃ id, Moment.Queues ⟨client, .submit task⟩ task id) ↔
      (client.submit task).step.client.queue.task? (client.queue.push task).1 = some task := by
  constructor
  · rintro ⟨id, hnone, hsome⟩
    have hpushed := hshrinks.task?_eq_some hsome
    rw [lineUp, TaskQueue.task?_push hsound.queue, hnone] at hpushed
    split_ifs at hpushed with hid
    rwa [← hid]
  · intro hsome
    exact ⟨_, TaskQueue.task?_push_fst hsound.queue task, hsome⟩

/-- If it is gone once the first task was started, it was this one, or it was passed over. -/
lemma disposes_of_gone (hsound : client.Sound) (hready : client.phase = .ready)
    (hflight : client.inFlight = none)
    (hstep : (client.submit task).step = (client.lineUp task).startNext)
    (hgone : (client.submit task).step.client.queue.task? (client.queue.push task).1 ≠
      some task) : Moment.Disposes ⟨client, .submit task⟩ task := by
  have hstep' : Moment.step ⟨client, .submit task⟩ = (client.lineUp task).startNext := hstep
  obtain ⟨hqueue, hresolved⟩ := @startNext_front (client.lineUp task) hflight (.inl hready)
  rw [hstep, hqueue] at hgone
  rcases TaskQueue.popFrom_settles (Task.isAbandoned client.abandoned)
      (client.lineUp task).queue.order _ (lineUp_task? hsound task) with
    hstill | ⟨-, hskipped | htaken⟩
  · exact absurd hstill hgone
  · have hsplits := @front_splits (client.lineUp task) (TaskQueue.push_wellFormed hsound.queue task)
    refine .passedOver ⟨hsplits.skipped task hskipped, fun handle hhandle => ?_⟩
    rw [hstep', hresolved]
    exact List.mem_flatMap.2 ⟨task, hskipped, List.mem_map.2 ⟨handle, hhandle, rfl⟩⟩
  · refine .started ?_
    unfold Moment.Starts
    rw [hstep']
    exact @startNext_begins (client.lineUp task) hflight (.inl hready) task htaken

/-- If it waits once the first task was started, that was another one, whose turn it was. -/
lemma turnDue_of_waits (hsound : client.Sound) (hready : client.phase = .ready)
    (hflight : client.inFlight = none)
    (hwaits : (client.lineUp task).startNext.client.queue.task? (client.queue.push task).1 =
      some task) : client.TurnDue := by
  have hsplits := @front_splits (client.lineUp task) (TaskQueue.push_wellFormed hsound.queue task)
  rw [(@startNext_front (client.lineUp task) hflight (.inl hready)).1] at hwaits
  rcases hfront : (client.lineUp task).front.task with _ | other
  · have hmem := TaskQueue.mem_tasks_iff.2 ⟨_, hwaits⟩
    rw [hsplits.exhausted hfront] at hmem
    cases hmem
  · obtain ⟨id, hother, hgone⟩ := TaskQueue.popFrom_taken _ _ _ hfront
    have hne : id ≠ (client.queue.push task).1 := by
      rintro rfl
      exact absurd (hgone.symm.trans hwaits) (by simp)
    rw [lineUp, TaskQueue.task?_push hsound.queue, if_neg hne] at hother
    exact ⟨hready, hflight, other, TaskQueue.mem_tasks_iff.2 ⟨id, hother⟩,
      hsplits.kept other hfront⟩

/-- If it is the turn of another task, the one that has lined up waits. -/
lemma waits_of_turnDue (hqueue : client.queue.Ordered) (hsound : client.Sound)
    (hdue : client.TurnDue) (task : Task) :
    (client.lineUp task).startNext.client.queue.task? (client.queue.push task).1 = some task := by
  obtain ⟨hready, hflight, other, hmem, hkept⟩ := hdue
  obtain ⟨id, hother⟩ := TaskQueue.mem_tasks_iff.1 hmem
  have hlisted := hsound.queue.listed id other hother
  have hne : id ≠ (client.queue.push task).1 := fun heq => hqueue.fresh task (heq ▸ hlisted)
  have hother' : (client.lineUp task).queue.task? id = some other := by
    rw [lineUp, TaskQueue.task?_push hsound.queue, if_neg hne, hother]
  have hstays := TaskQueue.popFrom_stays [(client.queue.push task).1] (hqueue.fresh task) hlisted
    hother' hkept
  rw [(@startNext_front (client.lineUp task) hflight (.inl hready)).1, front,
    TaskQueue.popSkipping, show (client.lineUp task).queue.order = _ from
      TaskQueue.push_order client.queue task]
  exact hstays.trans (lineUp_task? hsound task)

/-- What a caller is told of a submission: the id of its task, if it gets one. -/
inductive Told (client : Client) (task : Task) : Option TaskId → Prop
  /-- The task need not wait. -/
  | disposed (hdisposes : Moment.Disposes ⟨client, .submit task⟩ task)
      (hgone : ∀ id, ¬Moment.Queues ⟨client, .submit task⟩ task id) : Told client task none
  /-- The task waits. -/
  | waits {id : TaskId} (hqueues : Moment.Queues ⟨client, .submit task⟩ task id)
      (hnext : ¬client.TurnDue)
      (hcallers : task.handles ≠ [] → ¬Moment.Disposes ⟨client, .submit task⟩ task) :
    Told client task (some id)
  /-- The task waits, since it was the turn of another one. -/
  | overtaken {id : TaskId} (hqueues : Moment.Queues ⟨client, .submit task⟩ task id)
      (hdue : client.TurnDue) : Told client task none

/-- A task that lines up with a client that is not ready waits, and so need not be disposed of. -/
lemma told_of_busy (hsound : client.Sound)
    (htakes : Moment.takes? ⟨client, .submit task⟩ = some task)
    (hnext : ¬(client.phase = .ready ∧ client.inFlight = none)) :
    client.Told task (client.submit task).id := by
  have hsubmit := submit_of_takes htakes
  rw [if_neg hnext] at hsubmit
  have hstep : Moment.step ⟨client, .submit task⟩ = (client.lineUp task).idle :=
    congrArg Submission.step hsubmit
  have hwaits : Moment.Queues ⟨client, .submit task⟩ task (client.queue.push task).1 := by
    refine ⟨TaskQueue.task?_push_fst hsound.queue task, ?_⟩
    rw [hstep]
    exact lineUp_task? hsound task
  rw [hsubmit]
  refine .waits hwaits (fun hdue => hnext ⟨hdue.1, hdue.2.1⟩) fun hcallers hdisposes => ?_
  cases hdisposes with
  | refused hphase =>
    have hphase : client.phase.refusesTasks = true := hphase
    simp [Moment.takes?, hphase] at htakes
  | joined hping hholds =>
    have hholds : client.holdsPing = true := hholds
    simp [Moment.takes?, hping, hholds] at htakes
  | started hstarts =>
    have hsent := hstarts.1
    rw [hstep] at hsent
    cases hsent
  | passedOver hpasses =>
    obtain ⟨handle, hhandle⟩ := List.exists_mem_of_ne_nil _ hcallers
    have htold := hpasses.2 handle hhandle
    rw [hstep] at htold
    cases htold

/-- A task that lines up with a client that is ready waits if it is the turn of another one. -/
lemma told_of_ready (hsound : client.Sound)
    (htakes : Moment.takes? ⟨client, .submit task⟩ = some task) (hready : client.phase = .ready)
    (hflight : client.inFlight = none) : client.Told task (client.submit task).id := by
  have hsubmit := submit_of_takes htakes
  rw [if_pos ⟨hready, hflight⟩] at hsubmit
  have hstep : (client.submit task).step = (client.lineUp task).startNext :=
    congrArg Submission.step hsubmit
  have hshrinks := @startNext_shrinks (client.lineUp task) hflight (.inl hready)
  rw [← hstep] at hshrinks
  have hqueues := queues_iff_of_shrinks hsound hshrinks
  rw [show (client.submit task).id = none by rw [hsubmit]]
  by_cases hwaits : (client.submit task).step.client.queue.task? (client.queue.push task).1 =
      some task
  · obtain ⟨id, hid⟩ := hqueues.2 hwaits
    rw [hstep] at hwaits
    exact .overtaken hid (turnDue_of_waits hsound hready hflight hwaits)
  · exact .disposed (disposes_of_gone hsound hready hflight hstep hwaits)
      (not_exists.1 (mt hqueues.1 hwaits))

/-- **What a caller is told** of a submission. -/
lemma submit_told (hsound : client.Sound) (task : Task) :
    client.Told task (client.submit task).id := by
  rcases htakes : Moment.takes? ⟨client, .submit task⟩ with _ | taken
  · obtain ⟨hnone, hdisposes, hgone⟩ := submit_of_not_takes htakes
    rw [hnone]
    exact .disposed hdisposes hgone
  · obtain rfl : task = taken := by
      unfold Moment.takes? at htakes
      dsimp only at htakes
      split_ifs at htakes
      exact Option.some.inj htakes
    by_cases hnext : client.phase = .ready ∧ client.inFlight = none
    · exact told_of_ready hsound htakes hnext.1 hnext.2
    · exact told_of_busy hsound htakes hnext

/-! ## When it is the turn of a task that waits -/

/-- Behind the logon tasks are served until the connection is over. -/
lemma Transition.serves_or_over {event : Event} {step : Step} (h : client.Transition event step)
    (hsound : client.Sound) (hserves : client.phase.isOver = true ∨ client.phase.serves = true) :
    step.client.phase.isOver = true ∨ step.client.phase.serves = true := by
  rcases h.passes hsound with hstays | ⟨other, request, hstep, -, rfl⟩ | hdone
  · rcases hstays.phase with hover | ⟨hover, hprogress⟩
    · exact .inl hover
    · obtain ⟨-, hbehind⟩ := Phase.progress_of_serves (hserves.resolve_left (by simp [hover]))
      rw [hbehind] at hprogress
      revert hprogress
      rcases step.client.phase with _ | _ | _ | ⟨_ | _⟩ | _ | _ | _ | _ | _ <;>
        simp [Phase.progress, Phase.isOver, Phase.serves, Milestone.all]
  · cases hstep with
    | connect hphase | protocol _ hphase | dataTypes _ hphase | logonStart hphase
    | logonProof _ _ hphase => simp [hphase, Phase.isOver, Phase.serves] at hserves
  · simp [hdone.phase, Phase.isOver, Phase.serves] at hserves

/-- A client that is free behind the logon finds nothing to do ever after. -/
lemma IdleIfFree.lasts (h : client.IdleIfFree) (hsound : client.Sound)
    (hserves : client.phase.isOver = true ∨ client.phase.serves = true) (events : List Event) :
    (client.after events).IdleIfFree := by
  induction events generalizing client with
  | nil => exact h
  | cons event rest ih =>
    have htransition := react_transition hsound.spare event
    exact ih (htransition.idleIfFree hsound h fun _ _ => hserves) (htransition.sound hsound)
      (htransition.serves_or_over hsound hserves)

/-- Where the next task was started once the user was logged on, it is never the turn of a task that
waits. -/
lemma not_turnDue_after_next (hsound : client.Sound) (hready : client.phase = .ready)
    (events : List Event) : ¬(client.after (.next :: events)).TurnDue := by
  have hflight := hsound.inFlight_eq_none (by simp [hready]) (by simp [hready])
  have hserves := (startNext_serves hflight (.inl hready)).2
  have hsound' := sound_startNext hsound.queue hflight
    (hsound.idle_of_turn hflight (.inl hready)).2 (.inl hready)
  have hidle := (startNext_idleIfFree hsound.queue hflight (.inl hready)).lasts hsound'
    (.inr hserves) events
  rintro ⟨-, hfree, other, hmem, -⟩
  rw [show (client.after (.next :: events)).queue.tasks = [] from hidle hfree] at hmem
  cases hmem

/-- **What the id of a submission tells.** Whatever has befallen a new client, let a task be submitted
to it:

* if it gets an id, it waits under this id, and may be cancelled by it;
* if it gets none, it need not wait or waits all the same; and a task that has callers and need not
  wait gets none;
* unless it is the turn of another task that waits, it gets an id exactly if it waits;
* if it is, and the task joins no ping, it waits and gets no id; here fewer than `2 ^ 32` tasks of
  one and the same slot were cancelled, so that no id comes twice;
* it is not the turn of a task that waits, if the next task was to be started once the user was
  logged on.

**Proof sketch.** A task that is taken lines up behind the others. Unless the client is ready it
waits there and gets its id. A client that is ready starts the first task in line for which somebody
waits; this is the one that was submitted, or it was passed over, unless there is another in front
of it. -/
theorem id_of_submission (credentials : Credentials) (random : RandomSource) (cacheSize : Nat)
    (events : List Event) (task : Task) :
    let moments := (new credentials random cacheSize).moments events
    let client := (new credentials random cacheSize).after events
    let moment : Moment := ⟨client, .submit task⟩
    let submitted := (client.submit task).id
    (∀ id, submitted = some id →
      moment.Queues task id ∧ moment.step.client.queue.contains id = true ∧
        moment.step.client.Cancels id task) ∧
    (submitted = none → moment.Disposes task ∨ ∃ id, moment.Queues task id) ∧
    (task.handles ≠ [] → moment.Disposes task → submitted = none) ∧
    (¬client.TurnDue → (submitted.isSome = true ↔ ∃ id, moment.Queues task id)) ∧
    ((∀ index, cancellations moments index < UInt32.size) → moment.takes? = some task →
      client.TurnDue → submitted = none ∧ ∃ id, moment.Queues task id) ∧
    (∀ earlier later, events = earlier ++ .next :: later →
      ((new credentials random cacheSize).after earlier).phase = .ready → ¬client.TurnDue) := by
  intro moments client moment submitted
  have hsound : client.Sound := sound_after credentials random cacheSize events
  have htold : client.Told task submitted := submit_told hsound task
  refine ⟨fun id hid => ?_, fun hnone => ?_, fun hcallers hdisposes => ?_, fun hnext => ?_,
    fun hfew htakes hdue => ?_, fun earlier later hevents hready => ?_⟩
  · rw [hid] at htold
    cases htold with
    | waits hqueues =>
      exact ⟨hqueues, Option.isSome_iff_exists.2 ⟨_, hqueues.2⟩, cancels_of_waits hqueues.2⟩
  · rw [hnone] at htold
    cases htold with
    | disposed hdisposes => exact .inl hdisposes
    | overtaken hqueues => exact .inr ⟨_, hqueues⟩
  · generalize submitted = told at htold ⊢
    cases htold with
    | waits _ _ hwaits => exact absurd hdisposes (hwaits hcallers)
    | _ => rfl
  · generalize submitted = told at htold ⊢
    cases htold with
    | disposed _ hgone => simpa using hgone
    | waits hqueues => simpa using ⟨_, hqueues⟩
    | overtaken _ hdue => exact absurd hdue hnext
  · have hordered : client.queue.Ordered := ordered_after credentials random cacheSize events hfew
    have hwaits := waits_of_turnDue hordered hsound hdue task
    have hsubmit := submit_of_takes htakes
    rw [if_pos ⟨hdue.1, hdue.2.1⟩] at hsubmit
    refine ⟨congrArg Submission.id hsubmit, _, TaskQueue.task?_push_fst hsound.queue task, ?_⟩
    rw [show moment.step = _ from congrArg Submission.step hsubmit]
    exact hwaits
  · have hafter := not_turnDue_after_next (sound_after credentials random cacheSize earlier) hready
      later
    rwa [← after_append, ← hevents] at hafter

/-- A ping that was submitted during the logon still waits when a statement is submitted: the ping is
started, and the statement waits without an id. -/
theorem id_of_submission_overtaken :
    let statement : Task := .statement (.ofSql "select a from t" [] {}) 1
    let client := sample.after (.opened :: .submit (.ping [0]) :: sampleLogon.tail)
    let submission := client.submit statement
    client.phase = .ready ∧ client.line = [.ping [0]] ∧ submission.id = none ∧
      submission.step.action = .send .ping ∧ submission.step.client.line = [statement] := by
  decide +kernel

end Client

end TnsClient
