import TnsClient.Proofs.Queue.Listing

set_option autoImplicit false

/-!
# Ids that come round

The generation of a slot is a number of 32 bits. If the task in a slot is taken out and another one
is put there `2 ^ 32` times, while an id of the slot stands in the order, then this id is given
anew. It finds the task that came last, and when it reaches the front, this task is taken out ahead
of all that were added before it. So a queue is the list of its tasks only below this bound.

## Main definitions

* `TnsClient.TaskId.later` — the id of a slot that was emptied some times more.
* `TnsClient.TaskQueue.rounds` — the task in a slot is taken out and another one added, one time
  after the other.

## Main results

* `TnsClient.TaskQueue.rounds_task?`, `TnsClient.TaskQueue.rounds_order`,
  `TnsClient.TaskQueue.rounds_ids`, `TnsClient.TaskQueue.rounds_removals` — what some rounds come
  to.
* `TnsClient.TaskQueue.rounds_overtake` — after `2 ^ 32` of them the last task is the first.
* `TnsClient.TaskQueue.rounds_repeat` — and an id was given twice.
-/

namespace TnsClient

namespace TaskId

/-- The id that a slot gives when it was emptied `count` times more. -/
def later (id : TaskId) (count : Nat) : TaskId :=
  { id with generation := id.generation + UInt32.ofNat count }

lemma later_later (id : TaskId) (one other : Nat) :
    (id.later one).later other = id.later (one + other) := by
  simp [later, UInt32.ofNat_add, UInt32.add_assoc]

/-- **Ids come round** when their slot was emptied `2 ^ 32` times. -/
lemma later_size (id : TaskId) : id.later (2 ^ 32) = id := by
  have hzero : UInt32.ofNat (2 ^ 32) = 0 := rfl
  simp only [later, hzero, UInt32.add_zero]

end TaskId

namespace TaskQueue

variable {α : Type} {queue : TaskQueue α} {id : TaskId} {old : α}

/-! ## One round -/

/-- Takes out the task of a slot and adds another one, which goes into the same slot, time after
time. -/
def rounds (id : TaskId) : List α → List (Operation α)
  | [] => []
  | task :: rest => .remove id :: .push task :: rounds (id.later 1) rest

/-- A queue with another task in a slot, under the next id of it. -/
def refill (queue : TaskQueue α) (id : TaskId) (task : α) : TaskQueue α :=
  { queue with
    slots := queue.slots.set id.index ⟨id.generation + 1, some task⟩
    order := queue.order ++ [id.later 1]
    size := queue.size - 1 + 1 }

/-- The slot emptied last is the first to be filled again. -/
lemma push_of_remove {rest : TaskQueue α} (h : queue.remove id = some (old, rest)) (task : α) :
    rest.push task = (id.later 1, queue.refill id task) := by
  obtain ⟨htask, rfl⟩ := remove_eq_some_iff.1 h
  have hlt := index_lt_of_task? htask
  simp [push, refill, TaskId.later, hlt]

lemma task?_refill (h : queue.task? id = some old) (task : α) :
    (queue.refill id task).task? (id.later 1) = some task := by
  rw [refill, task?_set (index_lt_of_task? h)]
  simp [TaskId.later]

lemma exists_remove_eq (h : queue.task? id = some old) :
    ∃ rest, queue.remove id = some (old, rest) :=
  ⟨_, remove_eq_some_iff.2 ⟨h, rfl⟩⟩

/-- **One round** gives the next id of the slot. -/
lemma run_rounds_cons (h : queue.task? id = some old) (task : α) (tasks : List α) :
    queue.run (rounds id (task :: tasks)) =
      (.removed (some old) :: .given (id.later 1) ::
          ((queue.refill id task).run (rounds (id.later 1) tasks)).1,
        ((queue.refill id task).run (rounds (id.later 1) tasks)).2) := by
  obtain ⟨rest, hremove⟩ := exists_remove_eq h
  simp only [rounds, run, step, hremove, push_of_remove hremove]

lemma refill_wellFormed (hq : queue.WellFormed) (h : queue.task? id = some old) (task : α) :
    (queue.refill id task).WellFormed := by
  obtain ⟨rest, hremove⟩ := exists_remove_eq h
  have hpushed := push_wellFormed (remove_wellFormed hq hremove) task
  rwa [push_of_remove hremove] at hpushed

/-! ## Many rounds -/

/-- The ids of a slot behind one of them. -/
def laterIds (id : TaskId) (count : Nat) : List TaskId :=
  (List.range count).map fun passed => id.later (passed + 1)

lemma laterIds_succ (id : TaskId) (count : Nat) :
    laterIds id (count + 1) = id.later 1 :: laterIds (id.later 1) count := by
  rw [laterIds, laterIds, List.range_succ_eq_map, List.map_cons, List.map_map]
  congr 1
  refine List.map_congr_left fun passed _ => ?_
  rw [Function.comp_apply, TaskId.later_later, Nat.succ_eq_add_one, Nat.add_comm 1]

/-- The task that came last is found under the last id. -/
lemma rounds_task? (h : queue.task? id = some old) (tasks : List α) :
    (queue.run (rounds id tasks)).2.task? (id.later tasks.length) =
      some (tasks.getLastD old) := by
  induction tasks generalizing queue id old with
  | nil =>
    have hsame : id.later 0 = id := by simp [TaskId.later]
    rw [List.length_nil, hsame]
    exact h
  | cons task tasks ih =>
    have hlast := ih (task?_refill h task)
    rw [TaskId.later_later, Nat.add_comm 1] at hlast
    rw [run_rounds_cons h, List.length_cons, List.getLastD_cons]
    exact hlast

/-- All ids stay behind in the order. -/
lemma rounds_order (h : queue.task? id = some old) (tasks : List α) :
    (queue.run (rounds id tasks)).2.order = queue.order ++ laterIds id tasks.length := by
  induction tasks generalizing queue id old with
  | nil => exact (List.append_nil _).symm
  | cons task tasks ih =>
    rw [run_rounds_cons h, ih (task?_refill h task), List.length_cons, laterIds_succ, refill,
      List.append_assoc]
    rfl

/-- The ids that are given. -/
lemma rounds_ids (h : queue.task? id = some old) (tasks : List α) :
    (queue.run (rounds id tasks)).1.filterMap Answer.id? = laterIds id tasks.length := by
  induction tasks generalizing queue id old with
  | nil => rfl
  | cons task tasks ih =>
    rw [run_rounds_cons h, List.length_cons, laterIds_succ, ← ih (task?_refill h task)]
    rfl

/-- **The slot is emptied each time**, and no other is. -/
lemma rounds_removals (hq : queue.WellFormed) (h : queue.task? id = some old) (tasks : List α)
    (index : Nat) :
    queue.removals index (rounds id tasks) = if index = id.index then tasks.length else 0 := by
  induction tasks generalizing queue id old with
  | nil => simp [rounds, removals]
  | cons task tasks ih =>
    obtain ⟨rest, hremove⟩ := exists_remove_eq h
    have hpush : rest.emptied (rest.push task).2 index = 0 := by
      refine emptied_eq_zero fun hfilled => ?_
      rw [push_filled (remove_wellFormed hq hremove), hfilled, Bool.or_true]
    have hrest := ih (refill_wellFormed hq h task) (task?_refill h task)
    simp only [rounds, removals, step, hremove, remove_emptied hremove, hpush]
    rw [push_of_remove hremove, hrest, List.length_cons]
    show _ + (0 + if index = id.index then _ else _) = _
    split_ifs <;> omega

/-! ## All generations -/

/-- **The last is the first.** If the task at the front is taken out, another one is added, and so
on until the generations of the slot have come round, then the id at the front finds the task that
came last, and this is taken out ahead of all that waited all the time. -/
theorem rounds_overtake (h : queue.task? id = some old) (hfront : queue.order.head? = some id)
    {tasks : List α} (hcount : tasks.length = 2 ^ 32) :
    (queue.run (rounds id tasks)).2.task? id = some (tasks.getLastD old) ∧
      (queue.run (rounds id tasks)).2.popFront.1 = some (tasks.getLastD old) := by
  have htask := rounds_task? h tasks
  rw [hcount, TaskId.later_size] at htask
  obtain ⟨rest, hrest⟩ : ∃ rest, queue.order = id :: rest := by
    rcases horder : queue.order with _ | ⟨first, rest⟩
    · simp [horder] at hfront
    · rw [horder, List.head?_cons, Option.some.injEq] at hfront
      exact ⟨rest, by rw [hfront]⟩
  obtain ⟨left, hremove⟩ := exists_remove_eq htask
  refine ⟨htask, ?_⟩
  unfold popFront popSkipping
  rw [rounds_order h, hrest, List.cons_append]
  simp [popFrom, hremove]

/-- **An id is given twice** in the course of `2 ^ 32` rounds, which empty no slot more often than
that: that no slot is emptied so often is all that keeps ids apart. -/
theorem rounds_repeat (first : α) {tasks : List α} (hcount : tasks.length = 2 ^ 32) :
    (∀ index, removals index ({} : TaskQueue α) (.push first :: rounds ⟨0, 0⟩ tasks) ≤ 2 ^ 32) ∧
      ¬ ((({} : TaskQueue α).run (.push first :: rounds ⟨0, 0⟩ tasks)).1.filterMap
          Answer.id?).Nodup := by
  have hq := push_wellFormed (wellFormed_empty (α := α)) first
  have htask : (({} : TaskQueue α).push first).2.task? ⟨0, 0⟩ = some first := rfl
  refine ⟨fun index => ?_, fun hnodup => ?_⟩
  · have hfirst : ({} : TaskQueue α).emptied (({} : TaskQueue α).push first).2 index = 0 :=
      emptied_eq_zero (by simp [filled])
    rw [removals, step, hfirst, rounds_removals hq htask, hcount, Nat.zero_add]
    split_ifs
    · exact Nat.le_refl _
    · exact Nat.zero_le _
  · -- the last id is the first one
    have hids := rounds_ids htask tasks
    have hmem : (⟨0, 0⟩ : TaskId) ∈ laterIds ⟨0, 0⟩ tasks.length := by
      refine List.mem_map.2 ⟨2 ^ 32 - 1, List.mem_range.2 (by omega), ?_⟩
      exact TaskId.later_size _
    rw [← hids] at hmem
    exact (List.nodup_cons.1 hnodup).1 hmem

end TaskQueue

end TnsClient
