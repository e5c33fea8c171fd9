import TnsClient.Proofs.Client.Submission
import TnsClient.Proofs.Client.Verdict

set_option autoImplicit false

/-!
# Pings collapse

A ping asks for nothing but an answer. So one that is submitted while another is in flight or waits
joins it, and one round trip serves the callers of both. Here a ping is followed from the moment at
which it is taken: whatever happens, a client holds no second one, its handles are those of all
pings that have joined it since, its request is sent once, and the answer to that request is what
all of its callers get.

## Main definitions

* `TnsClient.Moment.joins` — the handles that join a ping at a moment; `TnsClient.Task.joined` is a
  task with more handles.
* `TnsClient.Client.pings` — the pings that are in flight or wait.

## Main results

* `TnsClient.Client.Transition.pings` — what becomes of the pings at a step.
* `TnsClient.Client.pings_after` — the callers of a ping are its own and those that have joined it.
* `TnsClient.Client.pings_collapse` — its callers share one round trip.
-/

namespace TnsClient

/-! ## Joining -/

/-- The handles that join a ping: they come with a ping that is submitted to a connection that takes
tasks and has one already. -/
def Moment.joins (moment : Moment) : List Handle :=
  match moment.event with
  | .submit (.ping handles) =>
    if moment.before.phase.refusesTasks || !moment.before.holdsPing then [] else handles
  | _ => []

lemma Moment.joins_of_ne {moment : Moment} (h : ∀ task, moment.event ≠ .submit task) :
    moment.joins = [] := by
  unfold joins
  split
  · next handles hevent => exact absurd hevent (h _)
  · rfl

namespace Task

/-- A task with more handles, if it takes any. -/
def joined (task : Task) (handles : List Handle) : Task := (task.join? handles).getD task

variable {task : Task}

@[simp] lemma joined_nil (task : Task) : task.joined [] = task := by
  cases task <;> simp [joined, join?]

lemma joined_joined (task : Task) (handles more : List Handle) :
    (task.joined handles).joined more = task.joined (handles ++ more) := by
  cases task <;> simp [joined, join?]

lemma joined_of_not_isPing (h : task.isPing = false) (handles : List Handle) :
    task.joined handles = task := by
  cases task with
  | ping others => cases h
  | _ => rfl

/-- Only a ping gets more handles. -/
lemma joined_handles (task : Task) (handles : List Handle) :
    (task.joined handles).handles = task.handles ++ if task.isPing then handles else [] := by
  cases task <;> simp [joined, join?, Task.handles, isPing]

lemma Extends.isPing {one other : Task} (h : one.Extends other) : one.isPing = other.isPing := by
  cases h <;> rfl

lemma filter_begin (entry : Option CachedStatement) (task : Task) :
    [(task.begin entry).task].filter isPing = [task].filter isPing := by
  cases task <;> rfl

end Task

namespace Client

variable {client : Client} {event : Event} {step : Step}

/-- The pings that are in flight or wait. -/
def pings (client : Client) : List Task := client.held.filter Task.isPing

lemma isPing_of_mem_pings {task : Task} (h : task ∈ client.pings) : task.isPing = true :=
  (List.mem_filter.1 h).2

/-- The tasks in line are those that wait. -/
lemma mem_line_iff (hqueue : client.queue.WellFormed) {task : Task} :
    task ∈ client.line ↔ task ∈ client.queue.tasks := by
  rw [line, TaskQueue.toList_tasks, List.mem_filterMap, TaskQueue.mem_tasks_iff]
  constructor
  · rintro ⟨id, -, hid⟩
    exact ⟨id, hid⟩
  · rintro ⟨id, hid⟩
    exact ⟨id, hqueue.listed id task hid, hid⟩

/-- A ping is held if one is in flight or waits. -/
lemma holdsPing_eq_false_iff (hqueue : client.queue.WellFormed) :
    client.holdsPing = false ↔ client.pings = [] := by
  unfold holdsPing pings held
  rw [Bool.or_eq_false_iff, List.filter_append, List.append_eq_nil_iff]
  refine and_congr ?_ ?_
  · rcases client.inFlight with _ | flight <;> simp [List.filter_cons]
  · simp only [List.any_eq_false, mem_line_iff hqueue, List.filter_eq_nil_iff]

lemma holdsPing_iff (hqueue : client.queue.WellFormed) :
    client.holdsPing = true ↔ client.pings ≠ [] := by
  rw [Ne, ← holdsPing_eq_false_iff hqueue, Bool.not_eq_false]

/-! ## What becomes of the pings at a step -/

/-- A list of at most one thing is in one order only. -/
lemma eq_of_perm_of_length_le_one {α : Type} {one other : List α} (h : one.Perm other)
    (hone : one.length ≤ 1) : other = one := by
  rcases one with _ | ⟨first, _ | ⟨second, rest⟩⟩
  · exact h.nil_eq.symm
  · exact h.singleton_eq.symm
  · simp at hone

/-- Of at most one thing, what is left is all or nothing. -/
lemma eq_nil_or_eq_of_perm {α : Type} {all gone left : List α} (h : all.Perm (gone ++ left))
    (hall : all.length ≤ 1) : left = [] ∨ left = all := by
  have heq := eq_of_perm_of_length_le_one h hall
  rcases gone with _ | ⟨first, gone⟩
  · exact .inr heq
  · left
    have hlength := congrArg List.length heq
    simp only [List.cons_append, List.length_cons, List.length_append] at hlength
    exact List.eq_nil_of_length_eq_zero (by omega)

/-- Starting the next task moves a ping into flight or passes it over. -/
lemma startNext_pings (hqueue : client.queue.WellFormed) (hflight : client.inFlight = none)
    (hphase : client.phase = .ready ∨ client.phase = .inFlight) :
    ∃ gone, client.pings.Perm (gone ++ client.startNext.client.pings) := by
  have hsplits := (front_splits hqueue).tasks_perm.filter Task.isPing
  rw [List.append_assoc, List.filter_append] at hsplits
  refine ⟨client.front.skipped.filter Task.isPing, ?_⟩
  have hpings : client.pings = client.queue.tasks.filter Task.isPing := by
    simp [pings, held, hflight]
  rw [hpings]
  refine hsplits.trans (List.Perm.append_left _ ?_)
  rcases startNext_cases hflight hphase with ⟨hfront, hstep⟩ | ⟨task, hfront, hstep⟩ <;>
    rw [hstep, hfront]
  · simp [pings, held, hflight]
  · show (([task] ++ client.front.queue.tasks).filter Task.isPing).Perm
      (([(task.begin (client.entry task)).task] ++ client.front.queue.tasks).filter Task.isPing)
    rw [List.filter_append, List.filter_append, Task.filter_begin]

/-- A task that lines up is held besides the others. -/
lemma lineUp_pings (hqueue : client.queue.WellFormed) (task : Task) :
    (client.lineUp task).pings.Perm (client.pings ++ [task].filter Task.isPing) := by
  have hpushed := (TaskQueue.push_tasks hqueue task).filter Task.isPing
  rw [List.filter_append] at hpushed
  unfold pings held
  rw [List.filter_append, List.filter_append, List.append_assoc]
  exact hpushed.append_left _

/-- A task that is alone lines up as the only ping, if it is one. -/
lemma lineUp_alone {task : Task} (hsound : client.Sound) (hone : client.pings.length ≤ 1)
    (halone : ∀ handles, task = .ping handles → client.joinPing? handles = none) :
    (client.lineUp task).pings = client.pings ∨
      client.pings = [] ∧ (client.lineUp task).pings = [task] := by
  have hperm := lineUp_pings hsound.queue task
  cases hping : task.isPing
  · left
    rw [List.filter_singleton, hping] at hperm
    exact eq_of_perm_of_length_le_one (by simpa using hperm.symm) hone
  · right
    obtain ⟨handles, rfl⟩ : ∃ handles, task = .ping handles := by
      cases task with
      | ping handles => exact ⟨handles, rfl⟩
      | _ => cases hping
    have hnone := (holdsPing_eq_false_iff hsound.queue).1
      (holdsPing_of_joinPing? (halone handles rfl))
    rw [hnone] at hperm
    have hperm : [Task.ping handles].Perm (client.lineUp (.ping handles)).pings := hperm.symm
    exact ⟨hnone, hperm.singleton_eq.symm⟩

/-- Nobody joins a task that is alone. -/
lemma joins_of_alone {task : Task}
    (halone : ∀ handles, task = .ping handles → client.joinPing? handles = none) :
    Moment.joins ⟨client, .submit task⟩ = [] := by
  cases task with
  | ping handles => simp [Moment.joins, holdsPing_of_joinPing? (halone handles rfl)]
  | _ => rfl

/-- A ping that joins another one brings its handles. -/
lemma joins_of_holdsPing (hphase : client.phase.refusesTasks = false)
    (hholds : client.holdsPing = true) (handles : List Handle) :
    Moment.joins ⟨client, .submit (.ping handles)⟩ = handles := by
  simp [Moment.joins, hphase, hholds]

/-- If a ping is in flight, none waits. -/
lemma filter_tasks_of_flying (hone : client.pings.length ≤ 1) {flight : InFlight}
    (hflight : client.inFlight = some flight) (hping : flight.task.isPing = true) :
    client.pings = [flight.task] ∧ client.queue.tasks.filter Task.isPing = [] := by
  have hpings : client.pings = flight.task :: client.queue.tasks.filter Task.isPing := by
    simp [pings, held, hflight, hping]
  have hnone : client.queue.tasks.filter Task.isPing = [] := by
    rw [hpings, List.length_cons] at hone
    exact List.eq_nil_of_length_eq_zero (by omega)
  exact ⟨by rw [hpings, hnone], hnone⟩

/-- A client that has given up all tasks holds no ping. -/
lemma pings_of_drained {other : Client} (hqueue : client.queue.WellFormed)
    (hflight : other.inFlight = none) (hdrained : other.queue = client.queue.drain.2) :
    other.pings = [] := by
  obtain ⟨-, hempty, -⟩ := TaskQueue.drain_tasks hqueue
  simp [pings, held, hflight, hdrained, hempty]

/-- If a ping waits, it is the only one, and none is in flight. -/
lemma pings_of_waiting (hone : client.pings.length ≤ 1) {task : Task}
    (hmem : task ∈ client.queue.tasks) (hping : task.isPing = true) :
    client.pings = [task] ∧
      (client.inFlight.map InFlight.task).toList.filter Task.isPing = [] ∧
      client.queue.tasks.filter Task.isPing = [task] := by
  have hwaits : task ∈ client.queue.tasks.filter Task.isPing := List.mem_filter.2 ⟨hmem, hping⟩
  have hpings : client.pings = (client.inFlight.map InFlight.task).toList.filter Task.isPing ++
      client.queue.tasks.filter Task.isPing := List.filter_append ..
  have hlength := List.length_pos_of_mem hwaits
  rw [hpings, List.length_append] at hone
  have hnone := List.eq_nil_of_length_eq_zero
    (show ((client.inFlight.map InFlight.task).toList.filter Task.isPing).length = 0 by omega)
  obtain ⟨other, hother⟩ := List.length_eq_one_iff.1
    (show (client.queue.tasks.filter Task.isPing).length = 1 by omega)
  rw [hother, List.mem_singleton] at hwaits
  rw [← hwaits] at hother
  exact ⟨by rw [hpings, hnone, hother, List.nil_append], hnone, hother⟩

/-- **What becomes of the pings at a step**: the one that is held goes, or is held with whoever has
joined it; or there was none, and one is taken. -/
theorem Transition.pings (h : client.Transition event step) (hsound : client.Sound)
    (hone : client.pings.length ≤ 1) :
    step.client.pings = [] ∨
      step.client.pings =
        client.pings.map (fun task => task.joined (Moment.joins ⟨client, event⟩)) ∨
      client.pings = [] ∧ ∃ task, Moment.takes? ⟨client, event⟩ = some task ∧
        step.client.pings = [task] := by
  have hsame : ∀ {other : Client}, Moment.joins ⟨client, event⟩ = [] →
      other.pings = client.pings → other.pings =
        client.pings.map (fun task => task.joined (Moment.joins ⟨client, event⟩)) := by
    intro other hjoins hpings
    simp [hjoins, hpings]
  cases h with
  | quiet hevent halike =>
    refine .inr (.inl (hsame (Moment.joins_of_ne hevent) ?_))
    rw [Client.pings, Client.pings, held, held, halike.inFlight, halike.queue]
  | abandoned | resent | established => exact .inr (.inl (hsame rfl rfl))
  | setup hevent hstep =>
    obtain ⟨hflight, hflight', hqueue, -⟩ := hstep.frame hsound
    refine .inr (.inl (hsame (Moment.joins_of_ne hevent) ?_))
    simp [Client.pings, held, send, hflight, hflight', hqueue]
  | heard hflight htask | fetched hflight htask =>
    refine .inr (.inl (hsame rfl ?_))
    simp [Client.pings, held, idle, send, hflight, htask]
  | failed _ hevent =>
    cases hover : client.phase.isOver
    · rw [fail_eq _ hover]
      exact .inl (pings_of_drained hsound.queue rfl rfl)
    · rw [fail_of_over _ hover]
      exact .inr (.inl (hsame (Moment.joins_of_ne hevent) rfl))
  | lost =>
    by_cases hclosed : client.phase = .closed
    · rw [lost_of_closed hclosed]
      exact .inr (.inl (hsame rfl rfl))
    · rw [lost_eq hclosed]
      exact .inl (pings_of_drained hsound.queue rfl rfl)
  | @refused task hphase =>
    refine .inr (.inl (hsame ?_ rfl))
    cases task <;> simp [Moment.joins, hphase]
  | @joinedFlight handles others flight hphase hflight htask =>
    obtain ⟨hpings, hnone⟩ := filter_tasks_of_flying hone hflight (by rw [htask]; rfl)
    have hholds : client.holdsPing = true := (holdsPing_iff hsound.queue).2 (by simp [hpings])
    refine .inr (.inl ?_)
    rw [hpings, joins_of_holdsPing hphase hholds, htask]
    show (Task.ping (others ++ handles) :: client.queue.tasks).filter Task.isPing = _
    rw [List.filter_cons_of_pos rfl, hnone]
    rfl
  | @joinedWaiting handles others id hphase hwaiting =>
    have hfound := TaskQueue.task?_of_find? hwaiting
    obtain ⟨hpings, hnone, hqueue⟩ :=
      pings_of_waiting hone (TaskQueue.mem_tasks_iff.2 ⟨id, hfound⟩) rfl
    have hholds : client.holdsPing = true := (holdsPing_iff hsound.queue).2 (by simp [hpings])
    have hperm := (TaskQueue.replace_tasks hfound (.ping (others ++ handles))).filter Task.isPing
    rw [List.filter_cons_of_pos rfl, List.filter_cons_of_pos rfl, hqueue] at hperm
    have hreplaced := ((List.Perm.swap _ _ _).trans hperm).cons_inv.singleton_eq
    refine .inr (.inl ?_)
    rw [hpings, joins_of_holdsPing hphase hholds]
    show ((client.inFlight.map InFlight.task).toList ++
      (client.queue.replace id (.ping (others ++ handles))).tasks).filter Task.isPing = _
    rw [List.filter_append, hnone, ← hreplaced]
    rfl
  | waited hphase halone =>
    rcases lineUp_alone hsound hone halone with hpings | ⟨hnone, hpings⟩
    · exact .inr (.inl (hsame (joins_of_alone halone) hpings))
    · exact .inr (.inr ⟨hnone, _, takes?_submit hphase halone, hpings⟩)
  | @served task halone hphase hflight =>
    have hqueue := TaskQueue.push_wellFormed hsound.queue task
    obtain ⟨gone, hperm⟩ := @startNext_pings (client.lineUp task) hqueue hflight (.inl hphase)
    rcases lineUp_alone hsound hone halone with hpings | ⟨hnone, hpings⟩
    · rcases eq_nil_or_eq_of_perm hperm (by rw [hpings]; exact hone) with hgone | hleft
      · exact .inl hgone
      · exact .inr (.inl (hsame (joins_of_alone halone) (hleft.trans hpings)))
    · rcases eq_nil_or_eq_of_perm hperm (by rw [hpings]; simp) with hgone | hleft
      · exact .inl hgone
      · exact .inr (.inr ⟨hnone, task, takes?_submit (by rw [hphase]; rfl) halone,
          hleft.trans hpings⟩)
  | turned hflight hphase =>
    obtain ⟨gone, hperm⟩ := startNext_pings hsound.queue hflight hphase
    exact (eq_nil_or_eq_of_perm hperm hone).imp_right fun hleft => .inl (hsame rfl hleft)
  | @cancelled id task rest hremove =>
    have hperm := ((TaskQueue.remove_tasks hremove).append_left
      (client.inFlight.map InFlight.task).toList).trans List.perm_middle
    have hpings : client.pings.Perm _ := hperm.filter Task.isPing
    rw [← List.singleton_append, List.filter_append [task]] at hpings
    exact (eq_nil_or_eq_of_perm hpings hone).imp_right fun hleft => .inl (hsame rfl hleft)
  | @finished _ flight flight' hflight htask =>
    have hphase : client.phase = flight'.task.phase := by rw [htask, hsound.busy flight hflight]
    rcases finish_cases { client with awaiting := false, inFlight := none } flight' with
      ⟨hinFlight, statements, cleanup, hstep⟩ | ⟨-, hstep⟩ <;> rw [hstep]
    · obtain ⟨gone, hperm⟩ := @startNext_pings
        { client with awaiting := false, inFlight := none, statements, cleanup } hsound.queue rfl
        (.inr (hphase.trans hinFlight))
      have hpings : client.pings =
          [flight.task].filter Task.isPing ++ client.queue.tasks.filter Task.isPing := by
        rw [Client.pings, held, hflight, List.filter_append]
        rfl
      have hall := hpings ▸ hperm.append_left ([flight.task].filter Task.isPing)
      rw [← List.append_assoc] at hall
      exact (eq_nil_or_eq_of_perm hall hone).imp_right fun hleft => .inl (hsame rfl hleft)
    · exact .inl (pings_of_drained hsound.queue rfl rfl)

/-- A client with a ping at most holds one at most after every step. -/
lemma Transition.pings_le_one (h : client.Transition event step) (hsound : client.Sound)
    (hone : client.pings.length ≤ 1) : step.client.pings.length ≤ 1 := by
  rcases h.pings hsound hone with hgone | hleft | ⟨-, task, -, htaken⟩
  · simp [hgone]
  · rw [hleft, List.length_map]
    exact hone
  · simp [htaken]

/-- A client with a ping at most holds one at most after any events. -/
lemma pings_le_one_after (hsound : client.Sound) (hone : client.pings.length ≤ 1)
    (events : List Event) : (client.after events).pings.length ≤ 1 := by
  induction events generalizing client with
  | nil => exact hone
  | cons event events ih =>
    have htransition := react_transition hsound.spare event
    exact ih (htransition.sound hsound) (htransition.pings_le_one hsound hone)

/-! ## The callers of a ping -/

section

variable (credentials : Credentials) (random : RandomSource) (cacheSize : Nat)

/-- A new client holds one ping at most after any events. -/
lemma pings_le_one (events : List Event) :
    ((new credentials random cacheSize).after events).pings.length ≤ 1 :=
  pings_le_one_after (sound_new credentials random cacheSize) (by simp [pings, held, new]) events

/-- A task that is taken is a ping only if none is held. -/
lemma pings_of_takes? {moment : Moment} {handles : List Handle}
    (hqueue : moment.before.queue.WellFormed)
    (h : moment.takes? = some (.ping handles)) : moment.before.pings = [] := by
  rw [← holdsPing_eq_false_iff hqueue]
  unfold Moment.takes? at h
  split at h
  · next task hevent =>
    split_ifs at h with hjoins
    obtain rfl := Option.some.inj h
    simp only [Bool.or_eq_true, not_or, Task.isPing, Bool.true_and, Bool.not_eq_true] at hjoins
    exact hjoins.2
  · cases h

/-- **The callers of a ping** are those it was submitted with and those that have joined since. A
ping has been held from then on. -/
theorem pings_after (events : List Event) :
    let moments := (new credentials random cacheSize).moments events
    let client := (new credentials random cacheSize).after events
    client.pings = [] ∨ ∃ past first between handles,
      moments = past ++ first :: between ∧ first.takes? = some (.ping handles) ∧
        (∀ moment ∈ first :: between, moment.step.client.holdsPing = true) ∧
        client.pings = [.ping (handles ++ between.flatMap Moment.joins)] := by
  induction events using List.reverseRecOn with
  | nil => exact .inl rfl
  | append_singleton events event ih =>
    intro moments client
    let moment : Moment := ⟨(new credentials random cacheSize).after events, event⟩
    have hsound : moment.before.Sound := sound_after credentials random cacheSize events
    have hone : moment.before.pings.length ≤ 1 := pings_le_one credentials random cacheSize events
    have htransition : moment.before.Transition event moment.step :=
      react_transition hsound.spare event
    have hholds : moment.step.client.pings ≠ [] → moment.step.client.holdsPing = true :=
      (holdsPing_iff (htransition.sound hsound).queue).2
    rw [show client = moment.step.client from after_concat ..,
      show moments = (new credentials random cacheSize).moments events ++ [moment] from
        moments_concat ..]
    rcases htransition.pings hsound hone with hgone | hleft | ⟨hnone, task, htakes, hheld⟩
    · exact .inl hgone
    · -- the ping that was held before is held with whoever has joined it
      rcases ih with hnone | ⟨past, first, between, handles, hsplit, htakes, hbetween, hheld⟩
      · left
        rwa [hnone] at hleft
      · right
        have hpings : moment.step.client.pings =
            [.ping (handles ++ (between ++ [moment]).flatMap Moment.joins)] := by
          refine hleft.trans ?_
          rw [hheld]
          simp [Task.joined, Task.join?, moment]
        refine ⟨past, first, between ++ [moment], handles, ?_, htakes, ?_, hpings⟩
        · rw [hsplit, List.append_assoc, List.cons_append]
        · rw [← List.cons_append, List.forall_mem_append, List.forall_mem_singleton]
          exact ⟨hbetween, hholds (by simp [hpings])⟩
    · right
      obtain ⟨handles, rfl⟩ : ∃ handles, task = .ping handles := by
        have hping := isPing_of_mem_pings (hheld ▸ List.mem_singleton_self task)
        cases task with
        | ping handles => exact ⟨handles, rfl⟩
        | _ => cases hping
      refine ⟨_, moment, [], handles, rfl, htakes, ?_, by simpa using hheld⟩
      rw [List.forall_mem_singleton]
      exact hholds (by simp [hheld])

end

/-! ## The round trip of a ping -/

/-- **A ping in flight** stays in flight as long as a ping is held, and no other task is started. -/
lemma Transition.ping_flies (h : client.Transition event step) (hsound : client.Sound)
    (hone : client.pings.length ≤ 1) {flight : InFlight} (hflight : client.inFlight = some flight)
    (hping : flight.task.isPing = true) (hholds : step.client.pings ≠ []) :
    step.action.startsTask = false ∧
      ∃ flight', step.client.inFlight = some flight' ∧ flight'.task.isPing = true := by
  obtain ⟨hover, hlogon, -⟩ := hsound.phase_of_inFlight hflight
  obtain ⟨-, hnone⟩ := filter_tasks_of_flying hone hflight hping
  cases h with
  | quiet _ halike haction =>
    refine ⟨?_, flight, halike.inFlight ▸ hflight, hping⟩
    rcases haction with rfl | rfl <;> rfl
  | abandoned | resent | refused | joinedWaiting | waited | cancelled =>
    exact ⟨rfl, flight, hflight, hping⟩
  | setup _ hstep => simp [(hstep.frame hsound).1] at hflight
  | established hphase => simp [hphase, Phase.isLogon] at hlogon
  | @heard _ flying flight' hflying htask =>
    obtain rfl := Option.some.inj (hflying.symm.trans hflight)
    exact ⟨rfl, flight', rfl, htask ▸ hping⟩
  | failed =>
    rw [fail_eq _ hover] at hholds
    exact absurd (pings_of_drained hsound.queue rfl rfl) hholds
  | lost =>
    have hclosed : client.phase ≠ .closed := fun hclosed => by simp [hclosed, Phase.isOver] at hover
    rw [lost_eq hclosed] at hholds
    exact absurd (pings_of_drained hsound.queue rfl rfl) hholds
  | joinedFlight => exact ⟨rfl, _, rfl, rfl⟩
  | served _ _ hfree | turned hfree => simp [hfree] at hflight
  | @fetched _ flying flight' _ hflying htask _ hfetch =>
    obtain rfl := Option.some.inj (hflying.symm.trans hflight)
    obtain ⟨statement, handle, hstatement, -⟩ := fetch?_eq_some hfetch
    rw [← htask, hstatement] at hping
    cases hping
  | @finished _ flying flight' hflying htask =>
    have hphase : client.phase = flight'.task.phase := by rw [htask, hsound.busy flying hflying]
    rcases finish_cases { client with awaiting := false, inFlight := none } flight' with
      ⟨hinFlight, statements, cleanup, hstep⟩ | ⟨-, hstep⟩ <;> rw [hstep] at hholds
    · obtain ⟨gone, hperm⟩ := @startNext_pings
        { client with awaiting := false, inFlight := none, statements, cleanup } hsound.queue rfl
        (.inr (hphase.trans hinFlight))
      have hempty : ({ client with awaiting := false, inFlight := none, statements, cleanup } :
          Client).pings = [] := hnone
      rw [hempty] at hperm
      exact absurd (List.append_eq_nil_iff.1 hperm.nil_eq.symm).2 hholds
    · exact absurd (pings_of_drained hsound.queue rfl rfl) hholds

/-- The request of a ping goes out once over some moments, and no task is started afterwards. -/
def SentOnce (moments : List Moment) : Prop :=
  ∃ front request back handles, moments = front ++ request :: back ∧
    request.Starts (.ping handles) ∧
    (∀ moment ∈ front ++ back, moment.step.action ≠ .send .ping) ∧
    ∀ moment ∈ back, moment.starts = false

/-- A moment at which the request of a ping goes out starts a ping. -/
lemma starts_of_send_ping {moment : Moment}
    (h : moment.before.Transition moment.event moment.step) (hsound : moment.before.Sound)
    (hsend : moment.step.action = .send .ping) : ∃ handles, moment.Starts (.ping handles) := by
  obtain ⟨task, hrequest, hflight⟩ := h.begins hsound (by rw [hsend]; rfl)
  cases task with
  | ping handles => exact ⟨handles, hrequest, hflight⟩
  | _ => cases hsend.symm.trans hrequest

/-- If no ping is in flight and none goes out, none comes to be in flight. -/
lemma not_flying_of_not_send {moment : Moment}
    (h : moment.before.Transition moment.event moment.step) (hsound : moment.before.Sound)
    (hnone : ∀ flight, moment.before.inFlight = some flight → flight.task.isPing = false)
    (hsend : moment.step.action ≠ .send .ping) {flight : InFlight}
    (hflight : moment.step.client.inFlight = some flight) : flight.task.isPing = false := by
  cases hstarts : moment.starts
  · obtain ⟨flying, hflying, -, hextends, -⟩ := react_listens hsound hstarts hflight
    exact hextends.isPing ▸ hnone flying hflying
  · obtain ⟨task, hrequest, hbegun⟩ := h.begins hsound hstarts
    obtain rfl := Option.some.inj (hbegun.symm.trans hflight)
    cases task with
    | ping handles => exact absurd hrequest hsend
    | _ => rfl

/-- As long as a ping is held, it waits and none goes out, or it is in flight and has gone out once.

**Proof sketch.** Induction on the moments. A ping that waits goes on waiting unless its request is
sent; then it is in flight, and stays so, and no task is started any more. -/
lemma waits_or_sent (hsound : client.Sound) (hone : client.pings.length ≤ 1)
    (hnone : ∀ flight, client.inFlight = some flight → flight.task.isPing = false)
    (events : List Event)
    (hholds : ∀ moment ∈ client.moments events, moment.step.client.holdsPing = true) :
    ((∀ flight, (client.after events).inFlight = some flight → flight.task.isPing = false) ∧
      ∀ moment ∈ client.moments events, moment.step.action ≠ .send .ping) ∨
    (∃ flight, (client.after events).inFlight = some flight ∧ flight.task.isPing = true) ∧
      SentOnce (client.moments events) := by
  induction events using List.reverseRecOn with
  | nil => exact .inl ⟨hnone, by simp⟩
  | append_singleton events event ih =>
    rw [moments_concat] at hholds ⊢
    rw [after_concat]
    rw [List.forall_mem_append, List.forall_mem_singleton] at hholds
    let moment : Moment := ⟨client.after events, event⟩
    have hbefore : moment.before.Sound := hsound.after events
    have htransition : moment.before.Transition event moment.step :=
      react_transition hbefore.spare event
    rcases ih hholds.1 with ⟨hfree, hquiet⟩ | ⟨⟨flight, hflight, hping⟩, hsent⟩
    · by_cases hsend : moment.step.action = .send .ping
      · right
        obtain ⟨handles, hstarts⟩ := starts_of_send_ping htransition hbefore hsend
        refine ⟨⟨_, hstarts.2, rfl⟩, client.moments events, moment, [], handles, rfl, hstarts, ?_,
          by simp⟩
        rwa [List.append_nil]
      · left
        refine ⟨fun flight => not_flying_of_not_send htransition hbefore hfree hsend, ?_⟩
        rw [List.forall_mem_append, List.forall_mem_singleton]
        exact ⟨hquiet, hsend⟩
    · right
      have hheld := (holdsPing_iff (htransition.sound hbefore).queue).1 hholds.2
      obtain ⟨hstarts, hflies⟩ := htransition.ping_flies hbefore
        (pings_le_one_after hsound hone events) hflight hping hheld
      obtain ⟨front, request, back, handles, hsplit, hrequest, hquiet, hback⟩ := hsent
      refine ⟨hflies, front, request, back ++ [moment], handles, ?_, hrequest, ?_, ?_⟩
      · rw [hsplit, List.append_assoc, List.cons_append]
      · rw [← List.append_assoc, List.forall_mem_append, List.forall_mem_singleton]
        refine ⟨hquiet, fun hsend => ?_⟩
        rw [hsend] at hstarts
        cases hstarts
      · rw [List.forall_mem_append, List.forall_mem_singleton]
        exact ⟨hback, hstarts⟩

/-- **Pings collapse.** Whatever has befallen a new client, in any order, it holds one ping at most,
in flight or in the queue. Let the end of an answer find a ping in flight. Then there is a moment at
which this ping was taken, such that since then

* a ping was held all the time, and its callers are those it was submitted with and those of all
  pings that were submitted to the client while it took tasks;
* the request of a ping was sent once, and since then no task was started;
* the end of the answer is the end of the ping: all of its callers learn the same, be it the failure
  that was reported last since the request was sent, or, if there was none, that it has succeeded.
  Whoever else learns anything then learns that the connection is closed.

**Proof sketch.** A step leaves the ping that is held, adds those that join it, or takes it away;
only where there is none another one is taken. While it waits no request of a ping is sent, and once
it was sent the ping is in flight until an answer comes to its end. So this answer is all that it
has listened to. -/
theorem pings_collapse (credentials : Credentials) (random : RandomSource) (cacheSize : Nat)
    (events : List Event) :
    ((new credentials random cacheSize).after events).pings.length ≤ 1 ∧
      ∀ past last rest flight,
        (new credentials random cacheSize).moments events = past ++ last :: rest →
        last.before.inFlight = some flight → flight.task.isPing = true → last.answers = true →
        ∃ earlier first between handles,
          past = earlier ++ first :: between ∧ first.takes? = some (.ping handles) ∧
            (∀ moment ∈ first :: between, moment.step.client.holdsPing = true) ∧
            flight.task = .ping (handles ++ between.flatMap Moment.joins) ∧
            ∃ front request back begun,
              first :: between = front ++ request :: back ∧ request.Starts (.ping begun) ∧
                (∀ moment ∈ front ++ back, moment.step.action ≠ .send .ping) ∧
                (∀ moment ∈ back, moment.starts = false) ∧
                last.Decides flight none
                  (lastSaid ServerMessage.failure? (messagesOf (back ++ [last]))) := by
  have hone := pings_le_one credentials random cacheSize
  refine ⟨hone events, fun past last rest flight h hflight hping hanswers => ?_⟩
  obtain ⟨before, -, -, rfl, hlast, -⟩ := moments_eq_append h
  have hflying := (filter_tasks_of_flying (hlast ▸ hone before) hflight hping).1
  rw [hlast] at hflying
  rcases pings_after credentials random cacheSize before with
    hgone | ⟨earlier, first, between, handles, hsplit, htakes, hholds, hpings⟩
  · simp [hgone] at hflying
  obtain ⟨start, later, rfl, rfl, hfirst, rfl⟩ := moments_eq_append hsplit
  have hsound : first.before.Sound := hfirst ▸ sound_after credentials random cacheSize start
  have hfree : ∀ flight, first.before.inFlight = some flight → flight.task.isPing = false := by
    intro flight hbusy
    have hnone := pings_of_takes? hsound.queue htakes
    cases hflies : flight.task.isPing
    · rfl
    · simp [pings, held, hbusy, hflies] at hnone
  have hlast' : last.before = first.before.after (first.event :: later) := by
    rw [hlast, after_append, ← hfirst]
  rcases waits_or_sent hsound (hfirst ▸ hone start) hfree (first.event :: later) hholds with
    ⟨hwaits, -⟩ | ⟨-, front, request, back, begun, hwindow, hrequest, hquiet, hback⟩
  · rw [← hlast'] at hwaits
    simp [hwaits flight hflight] at hping
  · refine ⟨_, first, _, handles, hsplit, htakes, hholds, ?_, front, request, back, begun, hwindow,
      hrequest, hquiet, hback, ?_⟩
    · rw [hflying] at hpings
      exact List.singleton_inj.1 hpings
    · have hwindow : first :: first.step.client.moments later = front ++ request :: back := hwindow
      have hrun : (new credentials random cacheSize).moments events =
          ((new credentials random cacheSize).moments start ++ front) ++
            request :: (back ++ last :: rest) := by
        rw [h, hsplit, hwindow]
        simp
      exact (decides_between hrun hrequest hback hflight).2.2 hanswers

/-- Two pings wait behind a statement, and a third is submitted once they are in flight: the end of
the answer decides over all three. -/
theorem pings_collapse_sample :
    let statement : Task := .statement (.ofSql "select a from t" [] {}) 1
    let past := sampleLogon ++ [.submit statement, .submit (.ping [2]), .submit (.ping [3]),
      .message (.status ⟨0, 0⟩), .submit (.ping [4])]
    let last : Moment := ⟨sample.after past, .message (.status ⟨0, 0⟩)⟩
    let flight : InFlight := { task := .ping [2, 3, 4] }
    last.before.inFlight = some flight ∧
      ∃ heard, last.Decides flight none (lastSaid ServerMessage.failure? heard) := by
  intro statement past last flight
  have h : sample.moments (past ++ [last.event]) = sample.moments past ++ last :: [] :=
    sample.moments_append past [last.event]
  have hflight : last.before.inFlight = some flight := by decide +kernel
  obtain ⟨_, _, _, _, -, -, -, -, _, _, back, _, -, -, -, -, hdecides⟩ :=
    (pings_collapse sample.credentials sample.random 1 (past ++ [last.event])).2 _ _ _ _ h hflight
      rfl (by decide +kernel)
  exact ⟨hflight, _, hdecides⟩

end Client

end TnsClient
