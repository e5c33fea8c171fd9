import Mathlib.Data.List.Nodup
import TnsClient.Proofs.Queue.Order
import TnsClient.Proofs.Queue.Slots

set_option autoImplicit false

/-!
# Ids that are given once

The id of a task is its slot with the generation of that slot. An id that was given before could
only be given again once the generations of its slot have come round, that is, after the slot was
emptied `2 ^ 32` times. Until then every id that was ever given is behind its slot, or is that of
the task in it, so that neither the next id nor one in the order comes twice.

## Main definitions

* `TnsClient.TaskQueue.filled` — there is a task in the slot at a position.
* `TnsClient.TaskQueue.emptied` — how often a slot is emptied from one queue to another.
* `TnsClient.TaskQueue.Unrepeated` — the ids that were ever given are all different.

## Main results

* `TnsClient.TaskQueue.Unrepeated.push` — the next id was not given before.
* `TnsClient.TaskQueue.Unrepeated.shrink` — taking out repeats no id, as long as no generation comes
  round.
* `TnsClient.TaskQueue.Unrepeated.ordered` — such a queue is the list of its tasks.
-/

namespace TnsClient.TaskQueue

variable {α : Type} {queue other : TaskQueue α} {given : List TaskId} {index : Nat}

/-! ## Filled slots -/

/-- Whether there is a task in the slot at a position. -/
def filled (queue : TaskQueue α) (index : Nat) : Bool :=
  (queue.slots[index]?.bind Slot.task).isSome

lemma filled_of_task? {id : TaskId} {task : α} (h : queue.task? id = some task) :
    queue.filled id.index = true := by
  rw [filled, task?_eq_some_iff.1 h]
  rfl

lemma index_lt_of_filled (h : queue.filled index = true) : index < queue.slots.length := by
  by_contra hge
  rw [filled, List.getElem?_eq_none (Nat.le_of_not_lt hge)] at h
  cases h

/-- A slot on the free list has no task. -/
lemma WellFormed.filled_of_free (hq : queue.WellFormed) (h : index ∈ queue.free) :
    queue.filled index = false := by
  obtain ⟨generation, hslot⟩ := hq.free_empty index h
  rw [filled, hslot]
  rfl

/-- The next task goes into a slot without one, and its id has the generation of the slot. -/
lemma push_fst_unfilled (hq : queue.WellFormed) (task : α) :
    queue.filled (queue.push task).1.index = false ∧
      (queue.push task).1.generation = queue.generation (queue.push task).1.index := by
  unfold push
  rcases hfree : queue.free with _ | ⟨index, free⟩
  · simp [filled, generation]
  · exact ⟨hq.filled_of_free (by simp [hfree]), rfl⟩

/-- Adding a task fills its slot and no other. -/
lemma push_filled (hq : queue.WellFormed) (task : α) (index : Nat) :
    (queue.push task).2.filled index =
      (decide (index = (queue.push task).1.index) || queue.filled index) := by
  unfold push filled
  rcases hfree : queue.free with _ | ⟨position, free⟩
  · rcases Nat.lt_trichotomy index queue.slots.length with hlt | rfl | hgt
    · simp [List.getElem?_append_left hlt, Nat.ne_of_lt hlt]
    · simp
    · have hle := Nat.le_of_lt hgt
      simp [List.getElem?_append_right hle, List.getElem?_eq_none hle, Nat.sub_ne_zero_of_lt hgt,
        Nat.ne_of_gt hgt]
  · obtain ⟨generation, hslot⟩ := hq.free_empty position (by simp [hfree])
    have hlt := (List.getElem?_eq_some_iff.1 hslot).1
    by_cases hindex : index = position
    · subst hindex
      simp [hlt]
    · simp [hindex, List.getElem?_set_ne (Ne.symm hindex)]

/-- Slots do not go away. -/
lemma length_le_push (queue : TaskQueue α) (task : α) :
    queue.slots.length ≤ (queue.push task).2.slots.length := by
  unfold push
  rcases queue.free with _ | ⟨index, free⟩ <;> simp

/-- Putting another task in the place of one fills and empties no slot. -/
lemma replace_filled {id : TaskId} {old : α} (h : queue.task? id = some old) (new : α)
    (index : Nat) : (queue.replace id new).filled index = queue.filled index := by
  rw [replace_eq h]
  by_cases hindex : id.index = index
  · subst hindex
    rw [filled_of_task? h, filled, List.getElem?_set_self (index_lt_of_task? h)]
    rfl
  · rw [filled, List.getElem?_set_ne hindex, filled]

/-! ## Emptied slots -/

/-- How often the slot at a position is emptied from one queue to another. No operation that empties
slots fills any, so that one of them empties a slot once at most. -/
def emptied (queue other : TaskQueue α) (index : Nat) : Nat :=
  if queue.filled index && !other.filled index then 1 else 0

lemma emptied_le_one (queue other : TaskQueue α) (index : Nat) :
    queue.emptied other index ≤ 1 := by
  unfold emptied
  split
  · exact Nat.le_refl 1
  · exact Nat.zero_le 1

/-- What stays filled is not emptied. -/
lemma emptied_eq_zero (h : queue.filled index = true → other.filled index = true) :
    queue.emptied other index = 0 := by
  rw [emptied, if_neg]
  intro hboth
  rw [Bool.and_eq_true, Bool.not_eq_true'] at hboth
  rw [h hboth.1] at hboth
  exact Bool.noConfusion hboth.2

/-- Taking out a task empties its slot and no other. -/
lemma remove_emptied {id : TaskId} {task : α} (h : queue.remove id = some (task, other))
    (index : Nat) : queue.emptied other index = if index = id.index then 1 else 0 := by
  obtain ⟨htask, rfl⟩ := remove_eq_some_iff.1 h
  by_cases hindex : index = id.index
  · subst hindex
    rw [emptied, filled_of_task? htask, if_pos rfl]
    simp [filled, index_lt_of_task? htask]
  · rw [if_neg hindex]
    apply emptied_eq_zero
    intro hfilled
    rwa [filled, List.getElem?_set_ne (Ne.symm hindex)]

/-- **Taking out** leaves a slot as it is, or empties it and takes it to its next generation. -/
lemma Shrinks.emptied_cases (h : queue.Shrinks other) (index : Nat) :
    (queue.emptied other index = 0 ∧ other.filled index = queue.filled index ∧
      other.generation index = queue.generation index) ∨
    (queue.emptied other index = 1 ∧ queue.filled index = true ∧ other.filled index = false ∧
      other.generation index = queue.generation index + 1) := by
  unfold emptied filled TaskQueue.generation
  rcases hslot : queue.slots[index]? with _ | slot
  · have hlt : other.slots.length ≤ index := by
      rw [h.length]
      exact List.getElem?_eq_none_iff.1 hslot
    simp [List.getElem?_eq_none hlt]
  · rcases h.slot index slot hslot with hsame | ⟨hfilled, hemptied⟩
    · rcases slot with ⟨generation, _ | task⟩ <;> simp [hsame]
    · simp [hfilled, hemptied]

/-- The generation of a slot counts how often it was emptied, until it comes round. -/
lemma Shrinks.generation_toNat (h : queue.Shrinks other)
    (hfew : (queue.generation index).toNat + queue.emptied other index < UInt32.size) :
    (other.generation index).toNat =
      (queue.generation index).toNat + queue.emptied other index := by
  rcases h.emptied_cases index with ⟨hzero, -, hsame⟩ | ⟨hone, -, -, hnext⟩
  · rw [hsame, hzero, Nat.add_zero]
  · rw [hone] at hfew ⊢
    rw [hnext, UInt32.toNat_add, UInt32.toNat_one]
    exact Nat.mod_eq_of_lt hfew

/-- Taking tasks off the front leaves the ids at the back. -/
lemma popFrom_order_suffix (skip : α → Bool) (ids : List TaskId) (queue : TaskQueue α) :
    (popFrom skip queue ids).queue.order <:+ ids := by
  induction ids generalizing queue with
  | nil => exact List.suffix_refl []
  | cons id rest ih =>
    have hrest : rest <:+ id :: rest := List.suffix_cons id rest
    rcases hid : queue.remove id with _ | ⟨task, queue'⟩
    · simp only [popFrom, hid]
      exact (ih queue).trans hrest
    · by_cases hskip : skip task = true
      · simp only [popFrom, hid, hskip, if_true]
        exact (ih queue').trans hrest
      · simp only [popFrom, hid, hskip, Bool.false_eq_true, if_false]
        exact hrest

/-! ## Ids that were given -/

/-- The ids that were ever given are all different, those in the order come as they were given, and
none is ahead of its slot; a slot without a task is ahead of all of them. -/
structure Unrepeated (queue : TaskQueue α) (given : List TaskId) : Prop extends
    WellFormed queue where
  distinct : given.Nodup
  sublist : queue.order.Sublist given
  known : ∀ id ∈ given, id.index < queue.slots.length
  past : ∀ id ∈ given, id.generation.toNat ≤ (queue.generation id.index).toNat
  behind : ∀ id ∈ given, queue.filled id.index = false →
    id.generation.toNat < (queue.generation id.index).toNat

namespace Unrepeated

/-- Before anything was added, no id was given. -/
lemma empty : Unrepeated ({} : TaskQueue α) [] where
  toWellFormed := wellFormed_empty
  distinct := List.nodup_nil
  sublist := List.Sublist.refl []
  known := by simp
  past := by simp
  behind := by simp

/-- **The next id** was not given before: its slot is empty, and so ahead of all ids that were given
for it. -/
lemma push_fst_not_mem (h : queue.Unrepeated given) (task : α) :
    (queue.push task).1 ∉ given := by
  intro hmem
  obtain ⟨hunfilled, hgeneration⟩ := push_fst_unfilled h.toWellFormed task
  have hlt := h.behind _ hmem hunfilled
  rw [hgeneration] at hlt
  exact Nat.lt_irrefl _ hlt

/-- No id stands in the order twice, nor does the next one. -/
lemma ordered (h : queue.Unrepeated given) : queue.Ordered where
  toWellFormed := h.toWellFormed
  nodup := h.distinct.sublist h.sublist
  fresh task hmem := h.push_fst_not_mem task (h.sublist.subset hmem)

/-- **Adding** a task gives an id that was not given before. -/
lemma push (h : queue.Unrepeated given) (task : α) :
    (queue.push task).2.Unrepeated (given ++ [(queue.push task).1]) := by
  have hq := h.toWellFormed
  have hnew : (queue.push task).2.filled (queue.push task).1.index = true := by
    rw [push_filled hq, decide_eq_true rfl, Bool.true_or]
  refine ⟨push_wellFormed hq task, ?_, ?_, ?_, ?_, ?_⟩
  · rw [← List.concat_eq_append]
    exact h.distinct.concat (h.push_fst_not_mem task)
  · rw [push_order]
    exact h.sublist.append_right _
  · intro id hmem
    rcases List.mem_append.1 hmem with hold | hlast
    · exact Nat.lt_of_lt_of_le (h.known id hold) (length_le_push queue task)
    · rw [List.mem_singleton.1 hlast]
      exact index_lt_of_filled hnew
  · intro id hmem
    rw [push_generation hq]
    rcases List.mem_append.1 hmem with hold | hlast
    · exact h.past id hold
    · rw [List.mem_singleton.1 hlast]
      exact Nat.le_of_eq (congrArg UInt32.toNat (push_fst_unfilled hq task).2)
  · intro id hmem hunfilled
    rw [push_filled hq, Bool.or_eq_false_iff, decide_eq_false_iff_not] at hunfilled
    rw [push_generation hq]
    rcases List.mem_append.1 hmem with hold | hlast
    · exact h.behind id hold hunfilled.2
    · exact absurd (by rw [List.mem_singleton.1 hlast]) hunfilled.1

/-- **Taking out** repeats no id, as long as no generation comes round. -/
lemma shrink (h : queue.Unrepeated given) (hother : other.WellFormed)
    (hshrinks : queue.Shrinks other) (horder : other.order.Sublist queue.order)
    (hfew : ∀ index, (queue.generation index).toNat + queue.emptied other index < UInt32.size) :
    other.Unrepeated given := by
  refine ⟨hother, h.distinct, horder.trans h.sublist, ?_, ?_, ?_⟩
  · intro id hmem
    rw [hshrinks.length]
    exact h.known id hmem
  · intro id hmem
    rw [hshrinks.generation_toNat (hfew id.index)]
    exact Nat.le_trans (h.past id hmem) (Nat.le_add_right _ _)
  · intro id hmem hunfilled
    rw [hshrinks.generation_toNat (hfew id.index)]
    rcases hshrinks.emptied_cases id.index with ⟨hzero, hsame, -⟩ | ⟨hone, -⟩
    · rw [hzero, Nat.add_zero]
      exact h.behind id hmem (hsame ▸ hunfilled)
    · rw [hone]
      exact Nat.lt_succ_of_le (h.past id hmem)

/-- Putting another task in the place of one gives no id. -/
lemma replace (h : queue.Unrepeated given) {id : TaskId} {old : α}
    (hfound : queue.task? id = some old) (new : α) :
    (queue.replace id new).Unrepeated given := by
  have horder : (queue.replace id new).order = queue.order := by rw [replace_eq hfound]
  have hlength : (queue.replace id new).slots.length = queue.slots.length := by
    rw [replace_eq hfound, List.length_set]
  refine ⟨replace_wellFormed h.toWellFormed hfound new, h.distinct, ?_, ?_, ?_, ?_⟩
  · rw [horder]
    exact h.sublist
  · intro given hmem
    rw [hlength]
    exact h.known given hmem
  · intro given hmem
    rw [replace_generation hfound]
    exact h.past given hmem
  · intro given hmem hunfilled
    rw [replace_filled hfound] at hunfilled
    rw [replace_generation hfound]
    exact h.behind given hmem hunfilled

end Unrepeated

end TnsClient.TaskQueue
