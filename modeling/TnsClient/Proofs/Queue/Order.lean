import Mathlib.Data.List.Nodup
import TnsClient.Proofs.Queue.Contents

set_option autoImplicit false

/-!
# In which order a queue holds its tasks

As long as no id stands in the order twice, a queue is the list of its tasks: adding appends, taking
out erases, replacing replaces in place, and taking off the front takes from the front. Generations
come round after `2 ^ 32` times, so an old id could be given anew while it stands in the order.
An id leaves the order when it reaches the front; until then the tasks of its slot can only be taken
out from the midst of the queue, so fewer than `2 ^ 32` of these for each slot keep the ids apart.
With as many as that, a task may overtake others: see `TnsClient.TaskQueue.rounds_overtake`.

## Main definitions

* `TnsClient.TaskQueue.Ordered` — no id stands in the order twice, nor does the next one.
* `TnsClient.TaskQueue.Stamped` — the generations in the order, counted without coming round.

## Main results

* `TnsClient.TaskQueue.push_toList`, `TnsClient.TaskQueue.remove_toList`,
  `TnsClient.TaskQueue.replace_toList`, `TnsClient.TaskQueue.popSkipping_toList` — what the
  operations do to the list.
* `TnsClient.TaskQueue.Stamped.ordered` — with few enough taken out of the midst, ids are unique.
-/

namespace TnsClient.TaskQueue

variable {α : Type}

/-- No id stands in the order twice, and the id of the next task does not stand in it. -/
structure Ordered (queue : TaskQueue α) : Prop extends WellFormed queue where
  nodup : queue.order.Nodup
  fresh : ∀ task, (queue.push task).1 ∉ queue.order

/-- The id and the task of an id, if it waits. -/
def waiting? (queue : TaskQueue α) (id : TaskId) : Option (TaskId × α) :=
  (queue.task? id).map fun task => (id, task)

lemma toList_eq (queue : TaskQueue α) : queue.toList = queue.order.filterMap queue.waiting? := rfl

lemma waiting?_eq_some {queue : TaskQueue α} {id : TaskId} {task : α}
    (h : queue.task? id = some task) : queue.waiting? id = some (id, task) := by
  simp [waiting?, h]

lemma waiting?_eq_none {queue : TaskQueue α} {id : TaskId} (h : queue.task? id = none) :
    queue.waiting? id = none := by
  simp [waiting?, h]

/-- The tasks of the list are those of the ids in the order. -/
lemma toList_tasks (queue : TaskQueue α) :
    queue.toList.map Prod.snd = queue.order.filterMap queue.task? := by
  rw [toList, List.map_filterMap]
  refine List.filterMap_congr fun id _ => ?_
  rcases queue.task? id with _ | task <;> rfl

/-! ## The queue as a list -/

/-- **Adding** a task appends it. -/
lemma push_toList {queue : TaskQueue α} (hq : queue.Ordered) (task : α) :
    (queue.push task).2.toList = queue.toList ++ [((queue.push task).1, task)] := by
  have hnew : (queue.push task).2.waiting? (queue.push task).1 = some ((queue.push task).1, task) :=
    waiting?_eq_some (by simp [task?_push hq.toWellFormed])
  have hold : ∀ id ∈ queue.order, (queue.push task).2.waiting? id = queue.waiting? id := by
    intro id hmem
    have hne : id ≠ (queue.push task).1 := fun heq => hq.fresh task (heq ▸ hmem)
    simp [waiting?, task?_push hq.toWellFormed, hne]
  rw [toList_eq, toList_eq, push_order, List.filterMap_append, List.filterMap_congr hold]
  simp [hnew]

lemma push_nodup {queue : TaskQueue α} (hq : queue.Ordered) (task : α) :
    (queue.push task).2.order.Nodup := by
  rw [push_order, List.nodup_append]
  refine ⟨hq.nodup, List.nodup_singleton _, fun id hmem other hother heq => hq.fresh task ?_⟩
  rw [List.mem_singleton] at hother
  rwa [← hother, ← heq]

/-- The order around the id of a task. -/
lemma Ordered.order_eq {queue : TaskQueue α} (hq : queue.Ordered) {id : TaskId} {task : α}
    (h : queue.task? id = some task) :
    ∃ front back, queue.order = front ++ id :: back ∧ id ∉ front ∧ id ∉ back := by
  obtain ⟨front, back, horder⟩ := List.append_of_mem (hq.listed id task h)
  have hnodup := hq.nodup
  rw [horder, List.nodup_middle, List.nodup_cons, List.mem_append, not_or] at hnodup
  exact ⟨front, back, horder, hnodup.1⟩

/-- A queue that differs from another in one place is a list that differs in one place. -/
lemma Ordered.toList_split {queue other : TaskQueue α} (hq : queue.Ordered) {id : TaskId} {task : α}
    (h : queue.task? id = some task) (horder : other.order = queue.order)
    (hothers : ∀ id', id' ≠ id → other.task? id' = queue.task? id') :
    ∃ front back, queue.toList = front ++ (id, task) :: back ∧
      other.toList = front ++ (other.waiting? id).toList ++ back := by
  obtain ⟨front, back, hsplit, hfront, hback⟩ := hq.order_eq h
  have hsame : ∀ ids : List TaskId, id ∉ ids →
      ids.filterMap other.waiting? = ids.filterMap queue.waiting? := by
    intro ids hids
    refine List.filterMap_congr fun id' hmem => ?_
    rw [waiting?, waiting?, hothers id' fun heq => hids (heq ▸ hmem)]
  refine ⟨front.filterMap queue.waiting?, back.filterMap queue.waiting?, ?_, ?_⟩
  · rw [toList_eq, hsplit, List.filterMap_append,
      List.filterMap_cons_some (waiting?_eq_some h)]
  · rw [toList_eq, horder, hsplit, List.filterMap_append, hsame front hfront]
    rcases hentry : other.waiting? id with _ | pair
    · rw [List.filterMap_cons_none hentry, hsame back hback]
      simp
    · rw [List.filterMap_cons_some hentry, hsame back hback]
      simp

/-- **Taking out** a task erases it. -/
lemma remove_toList {queue rest : TaskQueue α} (hq : queue.Ordered) {id : TaskId} {task : α}
    (h : queue.remove id = some (task, rest)) :
    ∃ front back, queue.toList = front ++ (id, task) :: back ∧ rest.toList = front ++ back := by
  have hgone : rest.waiting? id = none := waiting?_eq_none (by simp [task?_remove h])
  obtain ⟨front, back, hqueue, hrest⟩ := hq.toList_split (remove_eq_some_iff.1 h).1
    (remove_order h) fun id' hne => by simp [task?_remove h, hne]
  exact ⟨front, back, hqueue, by simpa [hgone] using hrest⟩

/-- **Replacing** a task leaves the others and its place as they are. -/
lemma replace_toList {queue : TaskQueue α} (hq : queue.Ordered) {id : TaskId} {old : α}
    (h : queue.task? id = some old) (new : α) :
    ∃ front back, queue.toList = front ++ (id, old) :: back ∧
      (queue.replace id new).toList = front ++ (id, new) :: back := by
  have hnew : (queue.replace id new).waiting? id = some (id, new) :=
    waiting?_eq_some (by simp [task?_replace h])
  obtain ⟨front, back, hqueue, hreplaced⟩ := hq.toList_split h
    (by simp [replace_eq h] : (queue.replace id new).order = queue.order)
    fun id' hne => by simp [task?_replace h, hne]
  exact ⟨front, back, hqueue, by simpa [hnew] using hreplaced⟩

/-- Taking tasks off the front in the order of some ids, none of which comes twice.

**Proof sketch.** Induction on the ids; a task that is taken out does not come again. -/
lemma popFrom_toList (skip : α → Bool) (ids : List TaskId) :
    ∀ queue : TaskQueue α, ids.Nodup →
      ids.filterMap queue.task? = (popFrom skip queue ids).skipped ++
        (popFrom skip queue ids).task.toList ++
        (popFrom skip queue ids).queue.toList.map Prod.snd := by
  induction ids with
  | nil =>
    intro queue _
    rfl
  | cons id rest ih =>
    intro queue hnodup
    obtain ⟨hid, hrest⟩ := List.nodup_cons.1 hnodup
    rcases hremove : queue.remove id with _ | ⟨task, queue'⟩
    · rw [List.filterMap_cons_none (remove_eq_none_iff.1 hremove)]
      simpa only [popFrom, hremove] using ih queue hrest
    · have hsame : rest.filterMap queue'.task? = rest.filterMap queue.task? := by
        refine List.filterMap_congr fun id' hmem => ?_
        have hne : id' ≠ id := fun heq => hid (heq ▸ hmem)
        simp [task?_remove hremove, hne]
      rw [List.filterMap_cons_some (remove_eq_some_iff.1 hremove).1, ← hsame]
      by_cases hskip : skip task = true
      · simp only [popFrom, hremove, hskip, if_true, List.cons_append, List.cons.injEq, true_and]
        exact ih queue' hrest
      · simp only [popFrom, hremove, hskip, Bool.false_eq_true, if_false, List.nil_append,
          Option.toList_some, List.cons_append, List.cons.injEq, true_and]
        exact (toList_tasks { queue' with order := rest }).symm

/-- **Taking tasks off the front** takes them from the front of the list. -/
lemma popSkipping_toList {queue : TaskQueue α} (hnodup : queue.order.Nodup) (skip : α → Bool) :
    queue.toList.map Prod.snd = (queue.popSkipping skip).skipped ++
      (queue.popSkipping skip).task.toList ++
      (queue.popSkipping skip).queue.toList.map Prod.snd := by
  rw [toList_tasks]
  exact popFrom_toList skip queue.order queue hnodup

/-- A queue without tasks is the empty list. -/
lemma toList_eq_nil {queue : TaskQueue α} (h : queue.tasks = []) : queue.toList = [] := by
  rw [toList, List.filterMap_eq_nil_iff]
  intro id _
  rcases htask : queue.task? id with _ | task
  · rfl
  · have hmem : task ∈ queue.tasks := List.mem_filterMap.2
      ⟨_, List.mem_of_getElem? (task?_eq_some_iff.1 htask), rfl⟩
    simp [h] at hmem

/-! ## Generations -/

/-- The id of a slot at the given count of its generations, which come round. -/
def stampId (stamp : Nat × Nat) : TaskId := ⟨stamp.1, UInt32.ofNat stamp.2⟩

/-- The order with generations that do not come round. Those of one slot ascend; none is ahead of
its slot, nor behind it by more than the tasks of the slot that were taken out of the midst; and a
slot without a task is ahead of all of them. -/
structure StampedBy (queue : TaskQueue α) (taken epoch : Nat → Nat) (stamps : List (Nat × Nat)) :
    Prop where
  order : queue.order = stamps.map stampId
  generation : ∀ index slot, queue.slots[index]? = some slot →
    slot.generation = UInt32.ofNat (epoch index)
  known : ∀ stamp ∈ stamps, stamp.1 < queue.slots.length
  ascending : stamps.Pairwise fun earlier later => earlier.1 = later.1 → earlier.2 < later.2
  past : ∀ stamp ∈ stamps, stamp.2 ≤ epoch stamp.1 ∧ epoch stamp.1 ≤ stamp.2 + taken stamp.1
  empty : ∀ stamp ∈ stamps, ∀ generation, queue.slots[stamp.1]? = some ⟨generation, none⟩ →
    stamp.2 < epoch stamp.1

/-- The order is one of generations that do not come round, where it is given how many tasks of each
slot were taken out of the midst. -/
def Stamped (queue : TaskQueue α) (taken : Nat → Nat) : Prop :=
  ∃ epoch stamps, queue.StampedBy taken epoch stamps

lemma stamped_empty (taken : Nat → Nat) : ({} : TaskQueue α).Stamped taken :=
  ⟨fun _ => 0, [], rfl, by simp, by simp, by simp, by simp, by simp⟩

/-- Within `2 ^ 32` generations, which one it is can be told. -/
lemma eq_of_ofNat_eq {one other : Nat} (h : UInt32.ofNat one = UInt32.ofNat other)
    (hle : one ≤ other) (hlt : other < one + UInt32.size) : one = other := by
  have hmod := congrArg UInt32.toNat h
  simp only [UInt32.toNat_ofNat'] at hmod
  unfold UInt32.size at hlt
  omega

/-- **With few enough tasks taken out of the midst** ids are unique. -/
lemma Stamped.ordered {queue : TaskQueue α} {taken : Nat → Nat} (hq : queue.WellFormed)
    (h : queue.Stamped taken) (hfew : ∀ index, taken index < UInt32.size) : queue.Ordered := by
  obtain ⟨epoch, stamps, h⟩ := h
  refine ⟨hq, ?_, fun task hmem => ?_⟩
  · rw [h.order, List.Nodup, List.pairwise_map]
    refine h.ascending.imp_of_mem fun {earlier later} hearlier hlater hlt heq => ?_
    obtain ⟨hindex, hgeneration⟩ := TaskId.mk.inj heq
    have hpast := h.past earlier hearlier
    have hpast' := h.past later hlater
    have hbound := hfew earlier.1
    have hlt := hlt hindex
    rw [← hindex] at hpast'
    have := eq_of_ofNat_eq hgeneration (Nat.le_of_lt hlt) (by omega)
    omega
  · rw [h.order, List.mem_map] at hmem
    obtain ⟨stamp, hstamp, hid⟩ := hmem
    unfold push at hid
    rcases hfree : queue.free with _ | ⟨index, free⟩
    · simp only [hfree, stampId, TaskId.mk.injEq] at hid
      have := h.known stamp hstamp
      omega
    · obtain ⟨generation, hslot⟩ := hq.free_empty index (by simp [hfree])
      simp only [hfree, hslot, Option.map_some, Option.getD_some, stampId, TaskId.mk.injEq] at hid
      obtain ⟨rfl, hgeneration⟩ := hid
      have hlt := h.empty stamp hstamp generation hslot
      have hpast := h.past stamp hstamp
      have hbound := hfew stamp.1
      rw [show generation = _ from h.generation _ _ hslot] at hgeneration
      have := eq_of_ofNat_eq hgeneration (Nat.le_of_lt hlt) (by omega)
      omega

/-- A task of the slot that the order knows is of its present generation. -/
lemma StampedBy.eq_epoch {queue : TaskQueue α} {taken epoch : Nat → Nat} {stamps : List (Nat × Nat)}
    (h : queue.StampedBy taken epoch stamps) (hfew : ∀ index, taken index < UInt32.size)
    {stamp : Nat × Nat} (hmem : stamp ∈ stamps) {task : α}
    (htask : queue.task? (stampId stamp) = some task) : stamp.2 = epoch stamp.1 := by
  have hgeneration : UInt32.ofNat stamp.2 = UInt32.ofNat (epoch stamp.1) :=
    h.generation _ _ (task?_eq_some_iff.1 htask)
  have hpast := h.past stamp hmem
  have hbound := hfew stamp.1
  exact eq_of_ofNat_eq hgeneration hpast.1 (by omega)

/-- Emptying a slot takes it to its next generation. -/
lemma StampedBy.set {queue : TaskQueue α} {taken taken' epoch : Nat → Nat}
    {stamps kept : List (Nat × Nat)} (h : queue.StampedBy taken epoch stamps) {id : TaskId}
    {task : α} (htask : queue.task? id = some task) (hkept : kept.Sublist stamps)
    (htaken : ∀ stamp ∈ kept,
      taken stamp.1 + (if stamp.1 = id.index then 1 else 0) ≤ taken' stamp.1)
    {free : List Nat} {size : Nat} :
    StampedBy { slots := queue.slots.set id.index ⟨id.generation + 1, none⟩, free,
                order := kept.map stampId, size }
      taken' (fun index => epoch index + if index = id.index then 1 else 0) kept := by
  have hslot := task?_eq_some_iff.1 htask
  have hlt := index_lt_of_task? htask
  refine ⟨rfl, fun index slot hget => ?_, fun stamp hmem => ?_, h.ascending.sublist hkept,
    fun stamp hmem => ?_, fun stamp hmem generation hget => ?_⟩
  · by_cases hindex : index = id.index
    · subst hindex
      simp only [List.getElem?_set_self hlt, Option.some.injEq] at hget
      subst hget
      rw [if_pos rfl, UInt32.ofNat_add, ← h.generation _ _ hslot]
      rfl
    · rw [List.getElem?_set_ne (Ne.symm hindex)] at hget
      simpa [hindex] using h.generation index slot hget
  · simpa using h.known stamp (hkept.subset hmem)
  · have hpast := h.past stamp (hkept.subset hmem)
    have := htaken stamp hmem
    omega
  · have hpast := h.past stamp (hkept.subset hmem)
    by_cases hindex : stamp.1 = id.index
    · simp only [hindex, if_true]
      rw [hindex] at hpast
      omega
    · rw [List.getElem?_set_ne (Ne.symm hindex)] at hget
      simpa [hindex] using h.empty stamp (hkept.subset hmem) generation hget

/-- Taking a task out of the midst counts for its slot. -/
lemma remove_stamped {queue rest : TaskQueue α} {taken : Nat → Nat} (h : queue.Stamped taken)
    {id : TaskId} {task : α} (hremove : queue.remove id = some (task, rest)) :
    rest.Stamped fun index => taken index + if index = id.index then 1 else 0 := by
  obtain ⟨epoch, stamps, h⟩ := h
  obtain ⟨htask, rfl⟩ := remove_eq_some_iff.1 hremove
  refine ⟨fun index => epoch index + if index = id.index then 1 else 0, stamps, ?_⟩
  rw [h.order]
  exact h.set htask (List.Sublist.refl stamps) fun stamp _ => Nat.le_refl _

/-- Replacing a task changes no generation. -/
lemma replace_stamped {queue : TaskQueue α} {taken : Nat → Nat} (h : queue.Stamped taken)
    {id : TaskId} {old : α} (htask : queue.task? id = some old) (new : α) :
    (queue.replace id new).Stamped taken := by
  obtain ⟨epoch, stamps, h⟩ := h
  have hslot := task?_eq_some_iff.1 htask
  have hlt := index_lt_of_task? htask
  rw [replace_eq htask]
  refine ⟨epoch, stamps, h.order, fun index slot hget => ?_, fun stamp hmem => ?_, h.ascending,
    h.past, fun stamp hmem generation hget => ?_⟩
  · by_cases hindex : index = id.index
    · subst hindex
      simp only [List.getElem?_set_self hlt, Option.some.injEq] at hget
      subst hget
      exact h.generation id.index ⟨id.generation, some old⟩ hslot
    · rw [List.getElem?_set_ne (Ne.symm hindex)] at hget
      exact h.generation index slot hget
  · simpa using h.known stamp hmem
  · by_cases hindex : stamp.1 = id.index
    · rw [hindex, List.getElem?_set_self hlt] at hget
      simp at hget
    · rw [List.getElem?_set_ne (Ne.symm hindex)] at hget
      exact h.empty stamp hmem generation hget

/-- Adding a task stamps it with the present generation of its slot. -/
lemma push_stamped {queue : TaskQueue α} {taken : Nat → Nat} (hq : queue.WellFormed)
    (h : queue.Stamped taken) (task : α) : (queue.push task).2.Stamped taken := by
  obtain ⟨epoch, stamps, h⟩ := h
  unfold push
  rcases hfree : queue.free with _ | ⟨index, free⟩
  · -- a slot of its own, which no stamp knows
    have hne : ∀ stamp ∈ stamps, stamp.1 ≠ queue.slots.length :=
      fun stamp hmem => Nat.ne_of_lt (h.known stamp hmem)
    refine ⟨fun index => if index = queue.slots.length then 0 else epoch index,
      stamps ++ [(queue.slots.length, 0)], by simp [h.order, stampId], fun index slot hget => ?_,
      fun stamp hmem => ?_, ?_, fun stamp hmem => ?_, fun stamp hmem generation hget => ?_⟩
    · by_cases hlt : index < queue.slots.length
      · rw [List.getElem?_append_left hlt] at hget
        simpa [Nat.ne_of_lt hlt] using h.generation index slot hget
      · have hindex : index = queue.slots.length := by
          have := (List.getElem?_eq_some_iff.1 hget).1
          simp at this
          omega
        subst hindex
        simp only [List.getElem?_concat_length, Option.some.injEq] at hget
        subst hget
        simp
    · rcases List.mem_append.1 hmem with hold | hnew
      · simpa using Nat.lt_succ_of_lt (h.known stamp hold)
      · simp [List.mem_singleton.1 hnew]
    · refine List.pairwise_append.2 ⟨h.ascending, List.pairwise_singleton _ _, ?_⟩
      intro earlier hearlier later hlater heq
      rw [List.mem_singleton.1 hlater] at heq
      exact absurd heq (hne earlier hearlier)
    · rcases List.mem_append.1 hmem with hold | hnew
      · simpa [hne stamp hold] using h.past stamp hold
      · simp [List.mem_singleton.1 hnew]
    · rcases List.mem_append.1 hmem with hold | hnew
      · rw [List.getElem?_append_left (h.known stamp hold)] at hget
        simpa [hne stamp hold] using h.empty stamp hold generation hget
      · rw [List.mem_singleton.1 hnew, List.getElem?_concat_length] at hget
        simp at hget
  · obtain ⟨generation, hslot⟩ := hq.free_empty index (by simp [hfree])
    have hlt := (List.getElem?_eq_some_iff.1 hslot).1
    have hgeneration : generation = UInt32.ofNat (epoch index) := h.generation _ _ hslot
    simp only [hslot, Option.map_some, Option.getD_some]
    refine ⟨epoch, stamps ++ [(index, epoch index)], by simp [h.order, stampId, hgeneration],
      fun index' slot hget => ?_, fun stamp hmem => ?_, ?_, fun stamp hmem => ?_,
      fun stamp hmem generation' hget => ?_⟩
    · by_cases hindex : index' = index
      · subst hindex
        simp only [List.getElem?_set_self hlt, Option.some.injEq] at hget
        subst hget
        exact hgeneration
      · rw [List.getElem?_set_ne (Ne.symm hindex)] at hget
        exact h.generation index' slot hget
    · rw [List.length_set]
      rcases List.mem_append.1 hmem with hold | hnew
      · exact h.known stamp hold
      · rw [List.mem_singleton.1 hnew]
        exact hlt
    · refine List.pairwise_append.2 ⟨h.ascending, List.pairwise_singleton _ _, ?_⟩
      intro earlier hearlier later hlater heq
      rw [List.mem_singleton.1 hlater] at heq ⊢
      have hslot' : queue.slots[earlier.1]? = some ⟨generation, none⟩ := by rw [heq, hslot]
      have hlt := h.empty earlier hearlier generation hslot'
      rwa [heq] at hlt
    · rcases List.mem_append.1 hmem with hold | hnew
      · exact h.past stamp hold
      · simp [List.mem_singleton.1 hnew]
    · have hindex : stamp.1 ≠ index := by
        intro hindex
        rw [hindex, List.getElem?_set_self hlt] at hget
        simp at hget
      rw [List.getElem?_set_ne (Ne.symm hindex)] at hget
      rcases List.mem_append.1 hmem with hold | hnew
      · exact h.empty stamp hold generation' hget
      · exact absurd (by rw [List.mem_singleton.1 hnew]) hindex

/-- Fewer ids in the order change no generation. -/
lemma StampedBy.sublist {queue : TaskQueue α} {taken epoch : Nat → Nat}
    {stamps kept : List (Nat × Nat)} (h : queue.StampedBy taken epoch stamps)
    (hkept : kept.Sublist stamps) :
    StampedBy { queue with order := kept.map stampId } taken epoch kept :=
  ⟨rfl, h.generation, fun stamp hmem => h.known stamp (hkept.subset hmem),
    h.ascending.sublist hkept, fun stamp hmem => h.past stamp (hkept.subset hmem),
    fun stamp hmem => h.empty stamp (hkept.subset hmem)⟩

/-- Taking tasks off the front takes their ids out of the order, so nothing counts for their slots.

**Proof sketch.** Induction on the ids. A task at the front is of the present generation of its
slot, and the other ids of the slot, which come behind it, would be ahead of the slot. -/
lemma popFrom_stamped (skip : α → Bool) (taken : Nat → Nat)
    (hfew : ∀ index, taken index < UInt32.size) (stamps : List (Nat × Nat)) :
    ∀ (queue : TaskQueue α) (epoch : Nat → Nat),
      StampedBy { queue with order := stamps.map stampId } taken epoch stamps →
        (popFrom skip queue (stamps.map stampId)).queue.Stamped taken := by
  induction stamps with
  | nil =>
    intro queue epoch h
    exact ⟨epoch, [], h⟩
  | cons stamp stamps ih =>
    intro queue epoch h
    rcases hremove : queue.remove (stampId stamp) with _ | ⟨task, queue'⟩
    · simpa only [List.map_cons, popFrom, hremove] using
        ih queue epoch (h.sublist (List.sublist_cons_self _ _))
    · obtain ⟨htask, rfl⟩ := remove_eq_some_iff.1 hremove
      have hepoch := h.eq_epoch hfew (List.mem_cons_self) htask
      have hothers : ∀ other ∈ stamps, other.1 ≠ (stampId stamp).index := by
        intro other hmem heq
        have hlt := List.rel_of_pairwise_cons h.ascending hmem heq.symm
        have hpast := h.past other (List.mem_cons_of_mem _ hmem)
        rw [show other.1 = stamp.1 from heq] at hpast
        omega
      have hcount : ∀ other ∈ stamps,
          taken other.1 + (if other.1 = (stampId stamp).index then 1 else 0) ≤ taken other.1 := by
        intro other hmem
        simp [hothers other hmem]
      by_cases hskip : skip task = true
      · simp only [List.map_cons, popFrom, hremove, hskip, if_true]
        exact ih _ _ (h.set htask (List.sublist_cons_self _ _) hcount)
      · simp only [List.map_cons, popFrom, hremove, hskip, Bool.false_eq_true, if_false]
        exact ⟨_, _, h.set htask (List.sublist_cons_self _ _) hcount⟩

lemma popSkipping_stamped {queue : TaskQueue α} {taken : Nat → Nat} (h : queue.Stamped taken)
    (hfew : ∀ index, taken index < UInt32.size) (skip : α → Bool) :
    (queue.popSkipping skip).queue.Stamped taken := by
  obtain ⟨epoch, stamps, h⟩ := h
  unfold popSkipping
  rw [h.order]
  refine popFrom_stamped skip taken hfew stamps queue epoch ?_
  rwa [← h.order]

/-- What is known of how many tasks were taken out of the midst may be more. -/
lemma Stamped.mono {queue : TaskQueue α} {taken taken' : Nat → Nat} (h : queue.Stamped taken)
    (hle : ∀ index, taken index ≤ taken' index) : queue.Stamped taken' := by
  obtain ⟨epoch, stamps, h⟩ := h
  refine ⟨epoch, stamps, h.order, h.generation, h.known, h.ascending, fun stamp hmem => ?_, h.empty⟩
  have hpast := h.past stamp hmem
  have := hle stamp.1
  omega

end TnsClient.TaskQueue
