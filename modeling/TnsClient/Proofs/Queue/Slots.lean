import Mathlib.Logic.Function.Basic
import TnsClient.Proofs.Queue.Contents

set_option autoImplicit false

/-!
# What becomes of the slots of a queue

As long as no task is added, a slot is left as it is, or it is emptied and goes to its next
generation. So the slot of a task that is gone stays empty, one generation ahead of the id of the
task, until another task is added. The id of that one is another id.

## Main definitions

* `TnsClient.TaskQueue.Vacated` — the slot of an id was emptied and not filled again.
* `TnsClient.TaskQueue.Shrinks` — slots are left as they are or are emptied.
* `TnsClient.TaskQueue.generation` — the generation of a slot.
* `TnsClient.TaskQueue.foundBy` — the tasks that some ids find one after the other.

## Main results

* `TnsClient.TaskQueue.popSkipping_shrinks`, `TnsClient.TaskQueue.remove_shrinks` — taking out.
* `TnsClient.TaskQueue.popFrom_settles`, `TnsClient.TaskQueue.popFrom_stays` — what becomes of one
  task when others are taken off the front, and when nothing does.
* `TnsClient.TaskQueue.Vacated.ne_push` — the id of a task that is gone is not given at once.
* `TnsClient.TaskQueue.remove_drain` — taking out a task leaves the others in their order.
-/

namespace TnsClient.TaskQueue

variable {α : Type} {queue other third : TaskQueue α}

/-- The task of an id is gone: its slot was emptied and not filled again. -/
def Vacated (queue : TaskQueue α) (id : TaskId) : Prop :=
  queue.slots[id.index]? = some ⟨id.generation + 1, none⟩

/-- Slots are left as they are, or are emptied. -/
structure Shrinks (queue other : TaskQueue α) : Prop where
  length : other.slots.length = queue.slots.length
  slot : ∀ (index : Nat) (slot : Slot α), queue.slots[index]? = some slot →
    other.slots[index]? = some slot ∨
      slot.task.isSome = true ∧ other.slots[index]? = some ⟨slot.generation + 1, none⟩

lemma Vacated.task?_eq_none {id : TaskId} (h : queue.Vacated id) : queue.task? id = none := by
  rcases htask : queue.task? id with _ | task
  · rfl
  · rw [task?_eq_some_iff, h] at htask
    simp at htask

/-- A task waits under an id. -/
lemma mem_tasks_iff {task : α} : task ∈ queue.tasks ↔ ∃ id, queue.task? id = some task := by
  simp only [tasks, List.mem_filterMap, task?_eq_some_iff]
  constructor
  · rintro ⟨⟨generation, content⟩, hmem, rfl⟩
    obtain ⟨index, hslot⟩ := List.mem_iff_getElem?.1 hmem
    exact ⟨⟨index, generation⟩, hslot⟩
  · rintro ⟨id, hslot⟩
    exact ⟨_, List.mem_of_getElem? hslot, rfl⟩

/-! ## Taking out -/

namespace Shrinks

lemma refl (queue : TaskQueue α) : queue.Shrinks queue := ⟨rfl, fun _ _ => .inl⟩

lemma trans (h : queue.Shrinks other) (h' : other.Shrinks third) : queue.Shrinks third := by
  refine ⟨h'.length.trans h.length, fun index slot hslot => ?_⟩
  rcases h.slot index slot hslot with hsame | ⟨hfilled, hemptied⟩
  · exact h'.slot index slot hsame
  · rcases h'.slot index _ hemptied with hsame | ⟨hnone, -⟩
    · exact .inr ⟨hfilled, hsame⟩
    · cases hnone

/-- Only the slots count. -/
lemma congr {queue' other' : TaskQueue α} (h : queue.Shrinks other)
    (hqueue : queue'.slots = queue.slots) (hother : other'.slots = other.slots) :
    queue'.Shrinks other' :=
  ⟨by rw [hqueue, hother]; exact h.length, by rw [hqueue, hother]; exact h.slot⟩

/-- A task that waits has waited before. -/
lemma task?_eq_some (h : queue.Shrinks other) {id : TaskId} {task : α}
    (htask : other.task? id = some task) : queue.task? id = some task := by
  rw [task?_eq_some_iff] at htask ⊢
  have hlt : id.index < queue.slots.length := by
    rw [← h.length]
    exact (List.getElem?_eq_some_iff.1 htask).1
  obtain ⟨slot, hslot⟩ : ∃ slot, queue.slots[id.index]? = some slot :=
    ⟨_, List.getElem?_eq_getElem hlt⟩
  rcases h.slot id.index slot hslot with hsame | ⟨-, hemptied⟩
  · rw [hslot, ← htask, hsame]
  · rw [hemptied] at htask
    simp at htask

/-- A task that has waited waits, or its slot is vacated. -/
lemma settle (h : queue.Shrinks other) {id : TaskId} {task : α}
    (htask : queue.task? id = some task) : other.task? id = some task ∨ other.Vacated id := by
  rw [task?_eq_some_iff] at htask ⊢
  exact (h.slot id.index _ htask).imp_right And.right

/-- A slot that is vacated stays so. -/
lemma vacated (h : queue.Shrinks other) {id : TaskId} (hvacated : queue.Vacated id) :
    other.Vacated id := by
  rcases h.slot id.index _ hvacated with hsame | ⟨hfilled, -⟩
  · exact hsame
  · cases hfilled

/-- No task comes in. -/
lemma mem_tasks (h : queue.Shrinks other) {task : α} (hmem : task ∈ other.tasks) :
    task ∈ queue.tasks := by
  obtain ⟨id, htask⟩ := mem_tasks_iff.1 hmem
  exact mem_tasks_iff.2 ⟨id, h.task?_eq_some htask⟩

end Shrinks

lemma remove_shrinks {rest : TaskQueue α} {id : TaskId} {task : α}
    (h : queue.remove id = some (task, rest)) : queue.Shrinks rest := by
  obtain ⟨htask, rfl⟩ := remove_eq_some_iff.1 h
  have hslot := task?_eq_some_iff.1 htask
  refine ⟨by simp, fun index slot hget => ?_⟩
  by_cases hindex : index = id.index
  · subst hindex
    obtain rfl := Option.some.inj (hslot.symm.trans hget)
    exact .inr ⟨rfl, by simp [index_lt_of_task? htask]⟩
  · left
    simpa [Ne.symm hindex] using hget

lemma popFrom_shrinks (skip : α → Bool) (ids : List TaskId) (queue : TaskQueue α) :
    queue.Shrinks (popFrom skip queue ids).queue := by
  induction ids generalizing queue with
  | nil => exact (Shrinks.refl queue).congr rfl rfl
  | cons id rest ih =>
    rcases hid : queue.remove id with _ | ⟨task, queue'⟩
    · simpa only [popFrom, hid] using ih queue
    · have hremoved := remove_shrinks hid
      by_cases hskip : skip task = true
      · simpa only [popFrom, hid, hskip, if_true] using hremoved.trans (ih queue')
      · simp only [popFrom, hid, hskip, Bool.false_eq_true, if_false]
        exact hremoved.congr rfl rfl

lemma popSkipping_shrinks (queue : TaskQueue α) (skip : α → Bool) :
    queue.Shrinks (queue.popSkipping skip).queue :=
  popFrom_shrinks skip queue.order queue

/-- A task that waits goes on waiting under its id, or it is gone: then it was passed over or
taken. -/
lemma popFrom_settles (skip : α → Bool) (ids : List TaskId) (queue : TaskQueue α) {id : TaskId}
    {task : α} (htask : queue.task? id = some task) :
    (popFrom skip queue ids).queue.task? id = some task ∨
      (popFrom skip queue ids).queue.task? id = none ∧
        (task ∈ (popFrom skip queue ids).skipped ∨ (popFrom skip queue ids).task = some task) := by
  induction ids generalizing queue with
  | nil => exact .inl htask
  | cons first rest ih =>
    rcases hfirst : queue.remove first with _ | ⟨removed, queue'⟩
    · simpa only [popFrom, hfirst] using ih queue htask
    have hleft := task?_remove hfirst id
    by_cases hid : id = first
    · -- it is its turn, and then its slot stays empty
      subst hid
      obtain rfl := Option.some.inj ((remove_eq_some_iff.1 hfirst).1.symm.trans htask)
      have hgone : queue'.task? id = none := by simpa using hleft
      by_cases hskip : skip removed = true
      · simp only [popFrom, hfirst, hskip, if_true]
        refine .inr ⟨Option.eq_none_iff_forall_ne_some.2 fun other hother => ?_,
          .inl List.mem_cons_self⟩
        have hback := (popFrom_shrinks skip rest queue').task?_eq_some hother
        simp [hgone] at hback
      · simp only [popFrom, hfirst, hskip, Bool.false_eq_true, if_false]
        exact .inr ⟨hgone, .inr trivial⟩
    · have hstill : queue'.task? id = some task := by rw [hleft, if_neg hid, htask]
      by_cases hskip : skip removed = true
      · simp only [popFrom, hfirst, hskip, if_true]
        rcases ih queue' hstill with hwaits | ⟨hgone, hpassed | htaken⟩
        · exact .inl hwaits
        · exact .inr ⟨hgone, .inl (List.mem_cons_of_mem _ hpassed)⟩
        · exact .inr ⟨hgone, .inr htaken⟩
      · simp only [popFrom, hfirst, hskip, Bool.false_eq_true, if_false]
        exact .inl hstill

/-- What is taken has waited under an id, under which nothing waits any more. -/
lemma popFrom_taken (skip : α → Bool) (ids : List TaskId) (queue : TaskQueue α) {task : α}
    (htaken : (popFrom skip queue ids).task = some task) :
    ∃ id, queue.task? id = some task ∧ (popFrom skip queue ids).queue.task? id = none := by
  induction ids generalizing queue with
  | nil => cases htaken
  | cons first rest ih =>
    rcases hfirst : queue.remove first with _ | ⟨removed, queue'⟩
    · simp only [popFrom, hfirst] at htaken ⊢
      exact ih queue htaken
    by_cases hskip : skip removed = true
    · simp only [popFrom, hfirst, hskip, if_true] at htaken ⊢
      obtain ⟨id, htask, hgone⟩ := ih queue' htaken
      exact ⟨id, (remove_shrinks hfirst).task?_eq_some htask, hgone⟩
    · simp only [popFrom, hfirst, hskip, Bool.false_eq_true, if_false, Option.some.injEq]
        at htaken ⊢
      subst htaken
      exact ⟨first, (remove_eq_some_iff.1 hfirst).1, (task?_remove hfirst first).trans (if_pos rfl)⟩

/-- Nothing comes off from behind a task that is not to be skipped. -/
lemma popFrom_stays {skip : α → Bool} {front : List TaskId} (back : List TaskId)
    {queue : TaskQueue α} {id other : TaskId} {task : α} (hid : id ∉ front) (hother : other ∈ front)
    (htask : queue.task? other = some task) (hskip : skip task = false) :
    (popFrom skip queue (front ++ back)).queue.task? id = queue.task? id := by
  induction front generalizing queue with
  | nil => cases hother
  | cons first rest ih =>
    obtain ⟨hne, hrest⟩ := not_or.1 (mt List.mem_cons.2 hid)
    rw [List.cons_append]
    rcases hfirst : queue.remove first with _ | ⟨removed, queue'⟩
    · -- the task that is not to be skipped is not the first one, which is none
      have hlater : other ∈ rest := by
        refine (List.mem_cons.1 hother).resolve_left fun heq => ?_
        rw [heq, remove_eq_none_iff.1 hfirst] at htask
        cases htask
      simpa only [popFrom, hfirst] using ih hrest hlater htask
    have hsame : queue'.task? id = queue.task? id := by rw [task?_remove hfirst, if_neg hne]
    by_cases hpassed : skip removed = true
    · have hfound := (remove_eq_some_iff.1 hfirst).1
      have hother' : other ≠ first := by
        rintro rfl
        obtain rfl := Option.some.inj (hfound.symm.trans htask)
        simp [hskip] at hpassed
      have hlater : other ∈ rest := (List.mem_cons.1 hother).resolve_left hother'
      have hstill : queue'.task? other = some task := by
        rw [task?_remove hfirst, if_neg hother', htask]
      simp only [popFrom, hfirst, hpassed, if_true]
      exact (ih hrest hlater hstill).trans hsame
    · simp only [popFrom, hfirst, hpassed, Bool.false_eq_true, if_false]
      exact hsame

/-! ## Replacing -/

/-- Where a task waits and is replaced, no slot is vacated, and none is filled that was. -/
lemma Vacated.replace {id found : TaskId} {old : α} (h : queue.Vacated id)
    (hfound : queue.task? found = some old) (new : α) : (queue.replace found new).Vacated id := by
  have hindex : found.index ≠ id.index := by
    intro heq
    have hslot := task?_eq_some_iff.1 hfound
    rw [heq, h] at hslot
    simp at hslot
  rw [replace_eq hfound]
  exact (List.getElem?_set_ne hindex).trans h

/-! ## Adding -/

/-- No task waits under the id of the next task. -/
lemma task?_push_fst (hq : queue.WellFormed) (task : α) :
    queue.task? (queue.push task).1 = none := by
  unfold push
  rcases hfree : queue.free with _ | ⟨index, free⟩
  · simp [task?]
  · obtain ⟨generation, hslot⟩ := hq.free_empty index (by simp [hfree])
    simp [task?, hslot]

/-- **The id of a task that is gone** is not the id of the next task. -/
lemma Vacated.ne_push {id : TaskId} (h : queue.Vacated id) (task : α) :
    id ≠ (queue.push task).1 := by
  have hlt : id.index < queue.slots.length := (List.getElem?_eq_some_iff.1 h).1
  intro heq
  unfold push at heq
  rcases hfree : queue.free with _ | ⟨index, free⟩
  · simp only [hfree] at heq
    rw [heq] at hlt
    exact Nat.lt_irrefl _ hlt
  · -- the slot is the same, but it is a generation ahead of the id
    simp only [hfree] at heq
    obtain ⟨hindex, hgeneration⟩ := TaskId.mk.inj heq
    rw [Vacated, hindex] at h
    rw [h] at hgeneration
    simp at hgeneration

/-! ## Generations -/

/-- The generation of the slot at a position, which is the first one until the slot is there. It
goes up when a task is taken out of the slot, and only then. -/
def generation (queue : TaskQueue α) (index : Nat) : UInt32 :=
  (queue.slots[index]?.map Slot.generation).getD 0

lemma generation_of_task? {id : TaskId} {task : α} (h : queue.task? id = some task) :
    queue.generation id.index = id.generation := by
  simp [generation, task?_eq_some_iff.1 h]

lemma Vacated.generation {id : TaskId} (h : queue.Vacated id) :
    queue.generation id.index = id.generation + 1 := by
  unfold Vacated at h
  simp [TaskQueue.generation, h]

/-- Taking out takes a slot to its next generation at most. -/
lemma Shrinks.generation (h : queue.Shrinks other) (index : Nat) :
    other.generation index = queue.generation index ∨
      other.generation index = queue.generation index + 1 := by
  unfold TaskQueue.generation
  rcases hslot : queue.slots[index]? with _ | slot
  · have hlt : other.slots.length ≤ index := by
      rw [h.length]
      exact List.getElem?_eq_none_iff.1 hslot
    simp [List.getElem?_eq_none hlt]
  · rcases h.slot index slot hslot with hsame | ⟨-, hemptied⟩
    · simp [hsame]
    · simp [hemptied]

lemma replace_generation {found : TaskId} {old : α} (hfound : queue.task? found = some old)
    (new : α) (index : Nat) :
    (queue.replace found new).generation index = queue.generation index := by
  have hslot := task?_eq_some_iff.1 hfound
  rw [replace_eq hfound]
  unfold generation
  by_cases hindex : found.index = index
  · subst hindex
    rw [List.getElem?_set_self (index_lt_of_task? hfound), hslot]
    rfl
  · simp [List.getElem?_set_ne hindex]

lemma push_generation (hq : queue.WellFormed) (task : α) (index : Nat) :
    (queue.push task).2.generation index = queue.generation index := by
  unfold push generation
  rcases hfree : queue.free with _ | ⟨position, free⟩
  · by_cases hlt : index < queue.slots.length
    · simp [List.getElem?_append_left hlt]
    · rcases Nat.lt_or_eq_of_le (Nat.le_of_not_lt hlt) with hgt | heq
      · have hle := Nat.le_of_lt hgt
        simp [List.getElem?_eq_none hle, List.getElem?_append_right hle, Nat.sub_ne_zero_of_lt hgt]
      · subst heq
        simp
  · obtain ⟨old, hslot⟩ := hq.free_empty position (by simp [hfree])
    have hlt := (List.getElem?_eq_some_iff.1 hslot).1
    by_cases hindex : position = index
    · subst hindex
      simp [hlt]
    · simp [hslot, List.getElem?_set_ne hindex]

/-! ## What draining brings -/

/-- The tasks that some ids find one after the other, where it is given what they find at first. A
task that was found is not found again. -/
def foundBy (lookup : TaskId → Option α) : List TaskId → List α
  | [] => []
  | id :: ids =>
    match lookup id with
    | none => foundBy lookup ids
    | some task => task :: foundBy (Function.update lookup id none) ids

lemma task?_remove_eq_update {rest : TaskQueue α} {id : TaskId} {task : α}
    (h : queue.remove id = some (task, rest)) :
    rest.task? = Function.update queue.task? id none := by
  funext found
  rw [task?_remove h, Function.update_apply]

/-- Draining brings the tasks that the ids in the order find. -/
lemma drain_eq_foundBy (queue : TaskQueue α) : queue.drain.1 = foundBy queue.task? queue.order := by
  have hpops : ∀ (ids : List TaskId) (queue : TaskQueue α),
      (popFrom (fun _ => true) queue ids).skipped = foundBy queue.task? ids := by
    intro ids
    induction ids with
    | nil => exact fun _ => rfl
    | cons id ids ih =>
      intro queue
      rcases hid : queue.remove id with _ | ⟨task, rest⟩
      · simp only [popFrom, hid, foundBy, remove_eq_none_iff.1 hid]
        exact ih queue
      · simp only [popFrom, hid, foundBy, (remove_eq_some_iff.1 hid).1, if_true]
        rw [ih rest, task?_remove_eq_update hid]
  exact hpops queue.order queue

/-- If one id finds nothing any more, its task is missing, and all others are found in the order in
which they were.

**Proof sketch.** Induction on the ids. Once the id has had its turn both sides look alike; until
then both find the same, and what they find is forgotten on both sides. -/
lemma foundBy_update {id : TaskId} {task : α} {ids : List TaskId} (hmem : id ∈ ids) :
    ∀ {lookup : TaskId → Option α}, lookup id = some task →
      ∃ front back, foundBy lookup ids = front ++ task :: back ∧
        foundBy (Function.update lookup id none) ids = front ++ back := by
  induction ids with
  | nil => cases hmem
  | cons first ids ih =>
    intro lookup hlookup
    by_cases hfirst : first = id
    · subst hfirst
      exact ⟨[], foundBy (Function.update lookup first none) ids, by simp [foundBy, hlookup],
        by simp [foundBy]⟩
    have hlater : id ∈ ids := (List.mem_cons.1 hmem).resolve_left (Ne.symm hfirst)
    have hsame : Function.update lookup id none first = lookup first :=
      Function.update_of_ne hfirst none lookup
    rcases hfound : lookup first with _ | other
    · obtain ⟨front, back, hall, hrest⟩ := ih hlater hlookup
      exact ⟨front, back, by simpa [foundBy, hfound] using hall,
        by simpa [foundBy, hsame, hfound] using hrest⟩
    · have hstill : Function.update lookup first none id = some task := by
        rw [Function.update_of_ne (Ne.symm hfirst), hlookup]
      obtain ⟨front, back, hall, hrest⟩ := ih hlater hstill
      refine ⟨other :: front, back, by simp [foundBy, hfound, hall], ?_⟩
      simp only [foundBy, hsame, hfound, List.cons_append]
      rw [Function.update_comm (Ne.symm hfirst), hrest]

/-- **Taking out** a task leaves the others in the order in which draining brings them, also where
ids stand in the order twice. -/
lemma remove_drain (hq : queue.WellFormed) {rest : TaskQueue α} {id : TaskId} {task : α}
    (h : queue.remove id = some (task, rest)) :
    ∃ front back, queue.drain.1 = front ++ task :: back ∧ rest.drain.1 = front ++ back := by
  have htask := (remove_eq_some_iff.1 h).1
  rw [drain_eq_foundBy, drain_eq_foundBy, remove_order h, task?_remove_eq_update h]
  exact foundBy_update (hq.listed id task htask) htask

end TnsClient.TaskQueue
