import Mathlib.Data.List.Perm.Basic
import Mathlib.Tactic.Lemma
import TnsClient.Client.TaskQueue

set_option autoImplicit false

/-!
# What a queue holds

The tasks of a queue are those in its slots, whatever the list of ids says. Every operation moves
exactly one task, or takes tasks off the front one after the other; none is lost and none is
doubled, also once generations have come round. What carries this is that empty slots are listed
once, and that the id of every task stands in the order. The size is the number of tasks throughout.

## Main definitions

* `TnsClient.TaskQueue.tasks` — the tasks in the slots.
* `TnsClient.TaskQueue.WellFormed` — the slots, the free list and the order agree.

## Main results

* `TnsClient.TaskQueue.push_tasks`, `TnsClient.TaskQueue.remove_tasks`,
  `TnsClient.TaskQueue.replace_tasks` — what adding, taking out and replacing do to the tasks.
* `TnsClient.TaskQueue.popSkipping_splits` — taking tasks off the front shares them out.
* `TnsClient.TaskQueue.drain_tasks` — draining takes out every task.
-/

namespace TnsClient.TaskQueue

variable {α : Type}

/-- The tasks in the slots. -/
def tasks (queue : TaskQueue α) : List α := queue.slots.filterMap Slot.task

/-- Slots, free list and order agree: a position on the free list is there once and its slot is
empty, the id of every task stands in the order, and the size is the number of tasks. -/
structure WellFormed (queue : TaskQueue α) : Prop where
  free_nodup : queue.free.Nodup
  free_empty : ∀ index ∈ queue.free, ∃ generation,
    queue.slots[index]? = some ⟨generation, none⟩
  listed : ∀ id task, queue.task? id = some task → id ∈ queue.order
  counted : queue.size = queue.tasks.length

/-! ## Slots -/

lemma task?_eq_some_iff {queue : TaskQueue α} {id : TaskId} {task : α} :
    queue.task? id = some task ↔
      queue.slots[id.index]? = some ⟨id.generation, some task⟩ := by
  unfold task?
  rcases h : queue.slots[id.index]? with _ | ⟨generation, content⟩
  · simp
  · by_cases hg : generation = id.generation <;> simp [hg]

/-- Putting another content into a slot exchanges the one for the other. -/
lemma set_tasks_perm {slots : List (Slot α)} {index : Nat} {old : Slot α}
    (h : slots[index]? = some old) (new : Slot α) :
    (new.task.toList ++ slots.filterMap Slot.task).Perm
      (old.task.toList ++ (slots.set index new).filterMap Slot.task) := by
  obtain ⟨hlt, rfl⟩ := List.getElem?_eq_some_iff.1 h
  have hcons : ∀ (slot : Slot α) (rest : List (Slot α)),
      (slot :: rest).filterMap Slot.task = slot.task.toList ++ rest.filterMap Slot.task := by
    rintro ⟨_, _ | _⟩ rest <;> simp
  have hold := ((List.getElem_cons_eraseIdx_perm hlt).filterMap Slot.task).symm
  have hnew := ((List.set_perm_cons_eraseIdx hlt new).filterMap Slot.task).symm
  rw [hcons] at hold hnew
  refine (hold.append_left _).trans (List.Perm.trans ?_ (hnew.append_left _))
  rw [← List.append_assoc, ← List.append_assoc]
  exact List.perm_append_comm.append_right _

/-- A slot that is written to holds what was written; the others hold what they held. -/
lemma task?_set {queue : TaskQueue α} {index : Nat} {slot : Slot α} {id : TaskId}
    {free : List Nat} {order : List TaskId} {size : Nat} (hlt : index < queue.slots.length) :
    task? { slots := queue.slots.set index slot, free, order, size } id =
      if id.index = index then (if slot.generation = id.generation then slot.task else none)
      else queue.task? id := by
  unfold task?
  by_cases h : id.index = index
  · subst h
    simp [hlt]
  · simp [h, Ne.symm h]

lemma index_lt_of_task? {queue : TaskQueue α} {id : TaskId} {task : α}
    (h : queue.task? id = some task) : id.index < queue.slots.length :=
  (List.getElem?_eq_some_iff.1 (task?_eq_some_iff.1 h)).1

/-- The position of a task is not free. -/
lemma WellFormed.index_not_mem_free {queue : TaskQueue α} (hq : queue.WellFormed) {id : TaskId}
    {task : α} (h : queue.task? id = some task) : id.index ∉ queue.free := by
  intro hmem
  obtain ⟨generation, hslot⟩ := hq.free_empty _ hmem
  rw [task?_eq_some_iff.1 h] at hslot
  simp at hslot

/-- A task that is found waits under its id. -/
lemma task?_of_find? {queue : TaskQueue α} {kind : α → Bool} {id : TaskId} {task : α}
    (h : queue.find? kind = some (id, task)) : queue.task? id = some task := by
  have hmem := List.mem_of_find?_eq_some h
  obtain ⟨other, -, hother⟩ := List.mem_filterMap.1 hmem
  obtain ⟨found, hfound, heq⟩ := Option.map_eq_some_iff.1 hother
  obtain ⟨rfl, rfl⟩ := Prod.mk.inj heq
  exact hfound

/-- A queue that has held nothing is well formed. -/
lemma wellFormed_empty : ({} : TaskQueue α).WellFormed where
  free_nodup := List.nodup_nil
  free_empty := by simp
  listed := by simp [task?]
  counted := rfl

@[simp] lemma tasks_empty : ({} : TaskQueue α).tasks = [] := rfl

/-! ## Adding -/

/-- **Adding** a task adds just that task.

**Proof sketch.** On a free position the slot was empty, so writing to it adds its new content;
without one the new slot stands behind all others. -/
lemma push_tasks {queue : TaskQueue α} (hq : queue.WellFormed) (task : α) :
    (queue.push task).2.tasks.Perm (queue.tasks ++ [task]) := by
  unfold push tasks
  rcases hfree : queue.free with _ | ⟨index, free⟩
  · simp
  · obtain ⟨generation, hslot⟩ := hq.free_empty index (by simp [hfree])
    have h := set_tasks_perm hslot ⟨generation, some task⟩
    simp only [hslot, Option.map_some, Option.getD_some]
    exact (h.symm.trans (by simpa using (List.perm_append_singleton _ _).symm))

/-- The id of a task that is added finds it. -/
lemma task?_push {queue : TaskQueue α} (hq : queue.WellFormed) (task : α) (id : TaskId) :
    (queue.push task).2.task? id =
      if id = (queue.push task).1 then some task else queue.task? id := by
  rcases id with ⟨at', generation⟩
  unfold push
  rcases hfree : queue.free with _ | ⟨index, free⟩
  · simp only [task?, TaskId.mk.injEq, List.getElem?_append]
    by_cases hlt : at' < queue.slots.length
    · simp [hlt, Nat.ne_of_lt hlt]
    · by_cases heq : at' = queue.slots.length
      · subst heq
        by_cases hg : generation = 0 <;> simp [hg, eq_comm]
      · have hsub : at' - queue.slots.length ≠ 0 := by omega
        simp [hlt, heq, hsub]
  · obtain ⟨old, hslot⟩ := hq.free_empty index (by simp [hfree])
    have hlt := (List.getElem?_eq_some_iff.1 hslot).1
    simp only [hslot, Option.map_some, Option.getD_some, task?_set hlt, TaskId.mk.injEq]
    by_cases h : at' = index
    · subst h
      by_cases hg : old = generation
      · simp [hg]
      · simp [hg, Ne.symm hg, task?, hslot]
    · simp [h]

lemma push_order (queue : TaskQueue α) (task : α) :
    (queue.push task).2.order = queue.order ++ [(queue.push task).1] := by
  unfold push
  rcases queue.free with _ | ⟨index, free⟩ <;> rfl

lemma push_wellFormed {queue : TaskQueue α} (hq : queue.WellFormed) (task : α) :
    (queue.push task).2.WellFormed where
  free_nodup := by
    have h := hq.free_nodup
    unfold push
    rcases hfree : queue.free with _ | ⟨index, free⟩
    · simp
    · rw [hfree] at h
      exact (List.nodup_cons.1 h).2
  free_empty := by
    intro position hmem
    have h := hq.free_nodup
    unfold push at hmem ⊢
    rcases hfree : queue.free with _ | ⟨index, free⟩
    · simp [hfree] at hmem
    · simp only [hfree] at h hmem ⊢
      have hne : index ≠ position := fun heq => (List.nodup_cons.1 h).1 (heq ▸ hmem)
      simpa [hne] using hq.free_empty position (by simp [hfree, hmem])
  listed := by
    intro id found h
    rw [push_order]
    rw [task?_push hq] at h
    by_cases heq : id = (queue.push task).1
    · simp [heq]
    · rw [if_neg heq] at h
      exact List.mem_append_left _ (hq.listed id found h)
  counted := by
    have hsize : (queue.push task).2.size = queue.size + 1 := by
      unfold push
      rcases queue.free with _ | ⟨index, free⟩ <;> rfl
    rw [hsize, hq.counted, (push_tasks hq task).length_eq]
    simp

/-! ## Replacing -/

lemma replace_eq {queue : TaskQueue α} {id : TaskId} {old : α} (h : queue.task? id = some old)
    (new : α) : queue.replace id new =
      { queue with slots := queue.slots.set id.index ⟨id.generation, some new⟩ } := by
  simp [replace, contains, h]

/-- Replacing a task exchanges the one for the other. -/
lemma replace_tasks {queue : TaskQueue α} {id : TaskId} {old : α}
    (h : queue.task? id = some old) (new : α) :
    (new :: queue.tasks).Perm (old :: (queue.replace id new).tasks) := by
  rw [replace_eq h]
  simpa [tasks] using
    set_tasks_perm (task?_eq_some_iff.1 h) ⟨id.generation, some new⟩

lemma task?_replace {queue : TaskQueue α} {id : TaskId} {old : α}
    (h : queue.task? id = some old) (new : α) (other : TaskId) :
    (queue.replace id new).task? other = if other = id then some new else queue.task? other := by
  rw [replace_eq h, task?_set (index_lt_of_task? h)]
  have hslot := task?_eq_some_iff.1 h
  rcases id with ⟨index, generation⟩
  rcases other with ⟨at', generation'⟩
  simp only [TaskId.mk.injEq]
  by_cases hi : at' = index
  · subst hi
    by_cases hg : generation = generation'
    · simp [hg]
    · have : queue.task? ⟨at', generation'⟩ = none := by simp [task?, hslot, hg]
      simp [hg, Ne.symm hg, this]
  · simp [hi]

lemma replace_wellFormed {queue : TaskQueue α} (hq : queue.WellFormed) {id : TaskId} {old : α}
    (h : queue.task? id = some old) (new : α) : (queue.replace id new).WellFormed where
  free_nodup := by simpa [replace_eq h] using hq.free_nodup
  free_empty := by
    intro index hmem
    simp only [replace_eq h] at hmem ⊢
    have hne : id.index ≠ index := fun heq => hq.index_not_mem_free h (heq ▸ hmem)
    simpa [hne] using hq.free_empty index hmem
  listed := by
    intro other found hother
    have horder : (queue.replace id new).order = queue.order := by simp [replace_eq h]
    rw [horder]
    rw [task?_replace h] at hother
    by_cases heq : other = id
    · exact heq ▸ hq.listed id old h
    · rw [if_neg heq] at hother
      exact hq.listed other found hother
  counted := by
    have hlength := (replace_tasks h new).length_eq
    have hsize : (queue.replace id new).size = queue.size := by simp [replace_eq h]
    rw [hsize, hq.counted]
    simpa using hlength

/-! ## Taking out -/

lemma remove_eq_some_iff {queue rest : TaskQueue α} {id : TaskId} {task : α} :
    queue.remove id = some (task, rest) ↔ queue.task? id = some task ∧
      rest = { queue with
        slots := queue.slots.set id.index ⟨id.generation + 1, none⟩
        free := id.index :: queue.free
        size := queue.size - 1 } := by
  unfold remove
  rcases queue.task? id with _ | found
  · simp
  · simp only [Option.map_some, Option.some.injEq, Prod.mk.injEq]
    exact and_congr_right fun _ => eq_comm

lemma remove_eq_none_iff {queue : TaskQueue α} {id : TaskId} :
    queue.remove id = none ↔ queue.task? id = none := by
  simp [remove]

/-- **Taking out** a task takes out just that task. -/
lemma remove_tasks {queue rest : TaskQueue α} {id : TaskId} {task : α}
    (h : queue.remove id = some (task, rest)) : queue.tasks.Perm (task :: rest.tasks) := by
  obtain ⟨htask, rfl⟩ := remove_eq_some_iff.1 h
  simpa [tasks] using
    set_tasks_perm (task?_eq_some_iff.1 htask) ⟨id.generation + 1, none⟩

/-- Only the task that is taken out cannot be found any more. -/
lemma task?_remove {queue rest : TaskQueue α} {id : TaskId} {task : α}
    (h : queue.remove id = some (task, rest)) (other : TaskId) :
    rest.task? other = if other = id then none else queue.task? other := by
  obtain ⟨htask, rfl⟩ := remove_eq_some_iff.1 h
  rw [task?_set (index_lt_of_task? htask)]
  have hslot := task?_eq_some_iff.1 htask
  rcases id with ⟨index, generation⟩
  rcases other with ⟨at', generation'⟩
  simp only [TaskId.mk.injEq]
  by_cases hi : at' = index
  · subst hi
    by_cases hg : generation' = generation
    · simp [hg]
    · have : queue.task? ⟨at', generation'⟩ = none := by
        simp [task?, hslot, Ne.symm hg]
      simp [hg, this]
  · simp [hi]

lemma remove_order {queue rest : TaskQueue α} {id : TaskId} {task : α}
    (h : queue.remove id = some (task, rest)) : rest.order = queue.order := by
  obtain ⟨-, rfl⟩ := remove_eq_some_iff.1 h
  rfl

lemma remove_wellFormed {queue rest : TaskQueue α} (hq : queue.WellFormed) {id : TaskId}
    {task : α} (h : queue.remove id = some (task, rest)) : rest.WellFormed where
  free_nodup := by
    obtain ⟨htask, rfl⟩ := remove_eq_some_iff.1 h
    exact List.nodup_cons.2 ⟨hq.index_not_mem_free htask, hq.free_nodup⟩
  free_empty := by
    obtain ⟨htask, rfl⟩ := remove_eq_some_iff.1 h
    intro index hmem
    by_cases heq : index = id.index
    · subst heq
      exact ⟨id.generation + 1, by simp [index_lt_of_task? htask]⟩
    · have hmem : index ∈ queue.free := by simpa [heq] using hmem
      simpa [Ne.symm heq] using hq.free_empty index hmem
  listed := by
    intro other found hother
    rw [remove_order h]
    rw [task?_remove h] at hother
    by_cases heq : other = id
    · simp [heq] at hother
    · rw [if_neg heq] at hother
      exact hq.listed other found hother
  counted := by
    have hlength := (remove_tasks h).length_eq
    have hsize : rest.size = queue.size - 1 := by
      obtain ⟨-, rfl⟩ := remove_eq_some_iff.1 h
      rfl
    rw [hsize, hq.counted, hlength]
    simp

/-! ## Taking off the front -/

/-- The tasks of a queue are shared out between those passed over, the one taken and the rest; what
is passed over is to be skipped, what is taken is not, and nothing is taken only if nothing is
left. -/
structure Front.Splits (front : Front α) (skip : α → Bool) (held : List α) : Prop where
  tasks_perm : held.Perm (front.skipped ++ front.task.toList ++ front.queue.tasks)
  wellFormed : front.queue.WellFormed
  skipped : ∀ task ∈ front.skipped, skip task = true
  kept : ∀ task ∈ front.task, skip task = false
  exhausted : front.task = none → front.queue.tasks = []

/-- A well-formed queue without ids holds nothing. -/
lemma WellFormed.tasks_eq_nil {queue : TaskQueue α} (hq : queue.WellFormed)
    (horder : queue.order = []) : queue.tasks = [] := by
  rw [tasks, List.filterMap_eq_nil_iff]
  rintro ⟨generation, content⟩ hmem
  obtain ⟨index, hlt, hslot⟩ := List.mem_iff_getElem.1 hmem
  rcases content with _ | task
  · rfl
  · have hfound : queue.task? ⟨index, generation⟩ = some task :=
      task?_eq_some_iff.2 (List.getElem?_eq_some_iff.2 ⟨hlt, hslot⟩)
    simpa [horder] using hq.listed _ _ hfound

/-- **Taking tasks off the front** in the order of some ids, which have to be those of all tasks.

**Proof sketch.** Induction on the ids, for the queue in which they are the order. An id without a
task can go from the order, for no task has it. A task that is taken out leaves a well-formed queue,
in whose order its id is of no use any more. -/
lemma popFrom_splits (skip : α → Bool) (ids : List TaskId) :
    ∀ queue : TaskQueue α, ({ queue with order := ids } : TaskQueue α).WellFormed →
      (popFrom skip queue ids).Splits skip queue.tasks := by
  -- an id that finds nothing need not stand in the order
  have hdrop : ∀ (queue : TaskQueue α) (id : TaskId) (rest : List TaskId),
      ({ queue with order := id :: rest } : TaskQueue α).WellFormed → queue.task? id = none →
        ({ queue with order := rest } : TaskQueue α).WellFormed := by
    intro queue id rest hq hid
    refine ⟨hq.free_nodup, hq.free_empty, fun other task hother => ?_, hq.counted⟩
    rcases List.mem_cons.1 (hq.listed other task hother) with rfl | hmem
    · exact absurd (hid.symm.trans hother) (by simp)
    · exact hmem
  induction ids with
  | nil =>
    intro queue hq
    exact ⟨by simp [popFrom, tasks], hq, by simp [popFrom], by simp [popFrom],
      fun _ => hq.tasks_eq_nil rfl⟩
  | cons id rest ih =>
    intro queue hq
    rcases hid : queue.remove id with _ | ⟨task, queue'⟩
    · simpa only [popFrom, hid] using ih queue (hdrop queue id rest hq (remove_eq_none_iff.1 hid))
    · have hremove : ({ queue with order := id :: rest } : TaskQueue α).remove id =
          some (task, { queue' with order := id :: rest }) := by
        obtain ⟨htask, rfl⟩ := remove_eq_some_iff.1 hid
        exact remove_eq_some_iff.2 ⟨htask, rfl⟩
      have hgone : queue'.task? id = none := by simp [task?_remove hid]
      have hrest : ({ queue' with order := rest } : TaskQueue α).WellFormed :=
        hdrop queue' id rest (remove_wellFormed hq hremove) hgone
      have hperm := remove_tasks hid
      by_cases hskip : skip task = true
      · have h := ih queue' hrest
        simp only [popFrom, hid, hskip, if_true]
        exact ⟨hperm.trans (h.tasks_perm.cons task), h.wellFormed,
          by simpa [hskip] using h.skipped, h.kept, h.exhausted⟩
      · simp only [popFrom, hid, hskip, Bool.false_eq_true, if_false]
        exact ⟨by simpa [tasks] using hperm, hrest, by simp, by simpa using hskip, by simp⟩

lemma popSkipping_splits {queue : TaskQueue α} (hq : queue.WellFormed) (skip : α → Bool) :
    (queue.popSkipping skip).Splits skip queue.tasks :=
  popFrom_splits skip queue.order queue hq

/-- **Draining** takes out every task and leaves none. -/
lemma drain_tasks {queue : TaskQueue α} (hq : queue.WellFormed) :
    queue.tasks.Perm queue.drain.1 ∧ queue.drain.2.tasks = [] ∧ queue.drain.2.WellFormed := by
  have h := popSkipping_splits hq fun _ => true
  have hnone : (queue.popSkipping fun _ => true).task = none := by
    rcases htask : (queue.popSkipping fun _ => true).task with _ | task
    · rfl
    · simpa using h.kept task htask
  have hempty := h.exhausted hnone
  refine ⟨?_, hempty, h.wellFormed⟩
  simpa [drain, hnone, hempty] using h.tasks_perm

end TnsClient.TaskQueue
