import Mathlib.Algebra.Group.Nat.Defs
import Mathlib.Data.List.Nodup
import TnsClient.Proofs.Queue.Freshness

set_option autoImplicit false

/-!
# A queue is a list of tasks

Whoever uses a queue sees no slots and no generations, but a list of tasks, each with the id that it
was given. Here this list is a machine of its own, which answers every operation on the queue, and
which never gives an id that it has given before. Whatever operations are made on a queue, one after
the other, its answers are those of the list, as long as no slot is emptied `2 ^ 32` times.

## Main definitions

* `TnsClient.TaskQueue.Operation`, `TnsClient.TaskQueue.Answer` — what can be asked of a queue, and
  what it says.
* `TnsClient.TaskQueue.step`, `TnsClient.TaskQueue.run` — a queue at work.
* `TnsClient.TaskQueue.removals` — how often a slot is emptied.
* `TnsClient.TaskQueue.Listing.Step`, `TnsClient.TaskQueue.Listing.Run` — the list at work.

## Main results

* `TnsClient.TaskQueue.popFront_eq`, `TnsClient.TaskQueue.find?_eq_walk` — the first task, and the
  first one of a kind, are found by walking along the ids.
* `TnsClient.TaskQueue.Unrepeated.step_listing` — an operation answers as the list does.
* `TnsClient.TaskQueue.run_answers_as_list` — so do all operations of a run, and no id is given
  twice.
-/

namespace TnsClient.TaskQueue

variable {α : Type} {queue : TaskQueue α} {given : List TaskId}

/-! ## Walking along the ids -/

/-- Takes out the task of the first of some ids that finds one, and leaves the ids behind it. -/
def popEntryFrom (queue : TaskQueue α) : List TaskId → Option (TaskId × α) × TaskQueue α
  | [] => (none, { queue with order := [] })
  | id :: rest =>
    match queue.remove id with
    | none => popEntryFrom queue rest
    | some (task, queue) => (some (id, task), { queue with order := rest })

/-- Takes out the first task together with its id. -/
def popEntry (queue : TaskQueue α) : Option (TaskId × α) × TaskQueue α :=
  queue.popEntryFrom queue.order

lemma popFrom_eq_popEntryFrom (ids : List TaskId) (queue : TaskQueue α) :
    (popFrom (fun _ => false) queue ids).task = (queue.popEntryFrom ids).1.map Prod.snd ∧
      (popFrom (fun _ => false) queue ids).queue = (queue.popEntryFrom ids).2 := by
  induction ids with
  | nil => exact ⟨rfl, rfl⟩
  | cons id rest ih =>
    rcases hid : queue.remove id with _ | ⟨task, queue'⟩
    · simpa only [popFrom, popEntryFrom, hid] using ih
    · simp [popFrom, popEntryFrom, hid]

/-- **The first task** comes off the front with its id, behind ids that find nothing. -/
theorem popFront_eq (queue : TaskQueue α) :
    queue.popFront = (queue.popEntry.1.map Prod.snd, queue.popEntry.2) := by
  obtain ⟨htask, hqueue⟩ := popFrom_eq_popEntryFrom queue.order queue
  exact Prod.ext htask hqueue

lemma find?_eq (queue : TaskQueue α) (kind : α → Bool) :
    queue.find? kind = queue.toList.find? fun entry => kind entry.2 := rfl

/-- **The first task of a kind** is that of the first id that finds one of the kind. -/
theorem find?_eq_walk (queue : TaskQueue α) (kind : α → Bool) :
    queue.find? kind =
      (queue.order.find? fun id => (queue.task? id).any kind).bind queue.waiting? := by
  have hkind : ∀ id, (queue.waiting? id).any (fun entry => kind entry.2) =
      (queue.task? id).any kind := by
    intro id
    exact Option.any_map
  rw [find?_eq, toList_eq, List.find?_filterMap]
  simp only [hkind]

/-! ## The list of a queue -/

/-- The ids in the list are some of those in the order. -/
lemma toList_ids_sublist (queue : TaskQueue α) :
    (queue.toList.map Prod.fst).Sublist queue.order := by
  rw [toList_eq]
  induction queue.order with
  | nil => exact List.Sublist.slnil
  | cons id rest ih =>
    rcases htask : queue.task? id with _ | task
    · rw [List.filterMap_cons_none (waiting?_eq_none htask)]
      exact ih.cons id
    · rw [List.filterMap_cons_some (waiting?_eq_some htask)]
      exact ih.cons_cons id

/-- Each task of the list has an id of its own. -/
lemma Ordered.ids_nodup (hq : queue.Ordered) : (queue.toList.map Prod.fst).Nodup :=
  hq.nodup.sublist queue.toList_ids_sublist

/-- **An id** finds in the slots what it finds in the list. -/
lemma lookup_toList (hq : queue.WellFormed) (id : TaskId) :
    queue.toList.lookup id = queue.task? id := by
  have hlookup : ∀ ids : List TaskId, (queue.task? id ≠ none → id ∈ ids) →
      (ids.filterMap queue.waiting?).lookup id = queue.task? id := by
    intro ids
    induction ids with
    | nil =>
      intro hlisted
      rcases htask : queue.task? id with _ | task
      · rfl
      · exact absurd (hlisted (by simp [htask])) List.not_mem_nil
    | cons first rest ih =>
      intro hlisted
      rcases hfirst : queue.task? first with _ | task
      · rw [List.filterMap_cons_none (waiting?_eq_none hfirst)]
        apply ih
        intro hfound
        refine (List.mem_cons.1 (hlisted hfound)).resolve_left ?_
        rintro rfl
        exact hfound hfirst
      · rw [List.filterMap_cons_some (waiting?_eq_some hfirst), List.lookup_cons]
        by_cases hid : id = first
        · rw [hid, hfirst]
          simp
        · simp only [beq_false_of_ne hid]
          apply ih
          intro hfound
          exact (List.mem_cons.1 (hlisted hfound)).resolve_left hid
  rw [toList_eq]
  apply hlookup
  intro hfound
  obtain ⟨task, htask⟩ := Option.ne_none_iff_exists'.1 hfound
  exact hq.listed id task htask

/-- Draining brings the tasks of the list and leaves none. -/
lemma Ordered.drain_eq (hq : queue.Ordered) :
    queue.drain.1 = queue.toList.map Prod.snd ∧ queue.drain.2.toList = [] := by
  have hempty : queue.drain.2.toList = [] := toList_eq_nil (drain_tasks hq.toWellFormed).2.1
  have hnone : (queue.popSkipping fun _ => true).task = none := by
    apply Option.eq_none_iff_forall_not_mem.2
    intro task hmem
    exact Bool.noConfusion ((popSkipping_splits hq.toWellFormed _).kept task hmem)
  refine ⟨?_, hempty⟩
  have hlist := popSkipping_toList hq.nodup fun _ => true
  change _ = _ ++ _ ++ queue.drain.2.toList.map Prod.snd at hlist
  rw [hnone, hempty, Option.toList_none, List.map_nil, List.append_nil, List.append_nil] at hlist
  exact hlist.symm

/-- The size of a queue is that of its list. -/
lemma Ordered.size_eq (hq : queue.Ordered) : queue.size = queue.toList.length := by
  rw [hq.counted, (drain_tasks hq.toWellFormed).1.length_eq, hq.drain_eq.1, List.length_map]

/-- Taking out the first task takes it off the list. -/
lemma Ordered.popEntry_eq (hq : queue.Ordered) :
    queue.popEntry.1 = queue.toList.head? ∧ queue.popEntry.2.toList = queue.toList.tail := by
  have hpops : ∀ (ids : List TaskId) (queue : TaskQueue α), ids.Nodup →
      (queue.popEntryFrom ids).1 = (ids.filterMap queue.waiting?).head? ∧
        (queue.popEntryFrom ids).2.toList = (ids.filterMap queue.waiting?).tail := by
    intro ids
    induction ids with
    | nil => exact fun queue _ => ⟨rfl, rfl⟩
    | cons id rest ih =>
      intro queue hnodup
      obtain ⟨hid, hrest⟩ := List.nodup_cons.1 hnodup
      rcases hremove : queue.remove id with _ | ⟨task, queue'⟩
      · rw [List.filterMap_cons_none (waiting?_eq_none (remove_eq_none_iff.1 hremove))]
        simpa only [popEntryFrom, hremove] using ih queue hrest
      · rw [List.filterMap_cons_some (waiting?_eq_some (remove_eq_some_iff.1 hremove).1)]
        simp only [popEntryFrom, hremove, List.head?_cons, List.tail_cons, true_and]
        refine List.filterMap_congr fun other hmem => ?_
        have hne : other ≠ id := fun heq => hid (heq ▸ hmem)
        change (queue'.task? other).map _ = _
        rw [task?_remove hremove, if_neg hne, waiting?]
  exact hpops queue.order queue hq.nodup

/-- Where an id finds nothing, no task of the list has it. -/
lemma eraseP_toList (hq : queue.WellFormed) {id : TaskId} (h : queue.task? id = none) :
    (queue.toList.eraseP fun entry => entry.1 == id) = queue.toList := by
  apply List.eraseP_of_forall_not
  intro entry hmem heq
  rw [← lookup_toList hq, List.lookup_eq_none_iff] at h
  rw [beq_iff_eq] at heq
  exact absurd (h entry hmem) (by simp [heq])

/-- The list of a queue from which a task is taken out. -/
lemma Ordered.remove_eraseP (hq : queue.Ordered) {rest : TaskQueue α} {id : TaskId} {task : α}
    (h : queue.remove id = some (task, rest)) :
    rest.toList = queue.toList.eraseP fun entry => entry.1 == id := by
  obtain ⟨front, back, hqueue, hrest⟩ := remove_toList hq h
  have hnodup := hq.ids_nodup
  rw [hqueue, List.map_append, List.map_cons, List.nodup_middle, List.nodup_cons] at hnodup
  have hfront : ∀ entry ∈ front, ¬ (entry.1 == id) = true := by
    intro entry hmem heq
    rw [beq_iff_eq] at heq
    apply hnodup.1
    rw [← heq]
    exact List.mem_append_left _ (List.mem_map.2 ⟨entry, hmem, rfl⟩)
  rw [hqueue, hrest, List.eraseP_append_right _ hfront, List.eraseP_cons_of_pos]
  exact beq_self_eq_true id

/-! ## Changing the first task of a kind -/

/-- A list with its first task of a kind changed. -/
def amendFirst (kind : α → Bool) (change : α → α) : List (TaskId × α) → List (TaskId × α)
  | [] => []
  | (id, task) :: rest =>
    if kind task then (id, change task) :: rest else (id, task) :: amendFirst kind change rest

/-- Where no task is of the kind, none is changed. -/
lemma amendFirst_of_find?_eq_none {kind : α → Bool} (change : α → α)
    {entries : List (TaskId × α)} (h : (entries.find? fun entry => kind entry.2) = none) :
    amendFirst kind change entries = entries := by
  induction entries with
  | nil => rfl
  | cons entry rest ih =>
    rw [List.find?_cons] at h
    by_cases hkind : kind entry.2 = true
    · simp [hkind] at h
    · simp only [hkind] at h
      rw [amendFirst, if_neg hkind, ih h]

/-- Where the ids are all different, the task is changed that has the id of the one found. -/
lemma amendFirst_of_find?_eq_some {kind : α → Bool} (change : α → α)
    {entries : List (TaskId × α)} (hnodup : (entries.map Prod.fst).Nodup) {id : TaskId} {task : α}
    (h : (entries.find? fun entry => kind entry.2) = some (id, task)) :
    amendFirst kind change entries =
      entries.map fun entry => if entry.1 = id then (id, change task) else entry := by
  induction entries with
  | nil => cases h
  | cons entry rest ih =>
    obtain ⟨hfirst, hrest⟩ := List.nodup_cons.1 hnodup
    rw [List.find?_cons] at h
    by_cases hkind : kind entry.2 = true
    · simp only [hkind, Option.some.injEq] at h
      subst h
      have hothers : ∀ other ∈ rest, other.1 ≠ id := by
        rintro other hmem rfl
        exact hfirst (List.mem_map.2 ⟨other, hmem, rfl⟩)
      rw [amendFirst, if_pos hkind, List.map_cons, if_pos rfl]
      congr 1
      refine (List.map_id rest).symm.trans (List.map_congr_left fun other hmem => ?_)
      rw [if_neg (hothers other hmem)]
      rfl
    · simp only [hkind] at h
      have hne : entry.1 ≠ id := by
        rintro rfl
        exact hfirst (List.mem_map.2 ⟨_, List.mem_of_find?_eq_some h, rfl⟩)
      rw [amendFirst, if_neg hkind, List.map_cons, if_neg hne, ih hrest h]

/-- The list of a queue in which a task is replaced. -/
lemma replace_map {id : TaskId} {old : α} (h : queue.task? id = some old) (new : α) :
    (queue.replace id new).toList =
      queue.toList.map fun entry => if entry.1 = id then (id, new) else entry := by
  have horder : (queue.replace id new).order = queue.order := by rw [replace_eq h]
  rw [toList_eq, toList_eq, horder, List.map_filterMap]
  refine List.filterMap_congr fun other _ => ?_
  rw [waiting?, waiting?, task?_replace h]
  by_cases hother : other = id
  · subst hother
    simp [h]
  · rcases queue.task? other with _ | task <;> simp [hother]

/-! ## What is asked of a queue -/

/-- An operation on a queue. -/
inductive Operation (α : Type) where
  /-- Adds a task. -/
  | push (task : α)
  /-- Takes out the task of an id. -/
  | remove (id : TaskId)
  /-- Takes out the first task. -/
  | popFront
  /-- Asks whether the task of an id waits. -/
  | contains (id : TaskId)
  /-- Changes the first task of a kind. -/
  | amend (kind : α → Bool) (change : α → α)
  /-- Takes out all tasks. -/
  | drain
  /-- Asks how many tasks wait. -/
  | length

/-- What is answered to an operation. -/
inductive Answer (α : Type) where
  /-- The id of the task that was added. -/
  | given (id : TaskId)
  /-- The task that was taken out, if it was there. -/
  | removed (task : Option α)
  /-- The task that was taken out or found, if there was one, and its id. -/
  | found (entry : Option (TaskId × α))
  /-- Whether the task waits. -/
  | whether (waits : Bool)
  /-- The tasks that were taken out. -/
  | drained (tasks : List α)
  /-- How many tasks wait. -/
  | count (size : Nat)
  deriving DecidableEq, Repr

/-- The id that an answer gives to a task. -/
def Answer.id? : Answer α → Option TaskId
  | .given id => some id
  | _ => none

/-- What a queue answers to an operation, and what becomes of it. -/
def step (queue : TaskQueue α) : Operation α → Answer α × TaskQueue α
  | .push task => (.given (queue.push task).1, (queue.push task).2)
  | .remove id =>
    match queue.remove id with
    | none => (.removed none, queue)
    | some (task, rest) => (.removed (some task), rest)
  | .popFront => (.found queue.popEntry.1, queue.popEntry.2)
  | .contains id => (.whether (queue.contains id), queue)
  | .amend kind change =>
    match queue.find? kind with
    | none => (.found none, queue)
    | some (id, task) => (.found (some (id, task)), queue.replace id (change task))
  | .drain => (.drained queue.drain.1, queue.drain.2)
  | .length => (.count queue.size, queue)

/-- What a queue answers to operations one after the other, and what becomes of it. -/
def run (queue : TaskQueue α) : List (Operation α) → List (Answer α) × TaskQueue α
  | [] => ([], queue)
  | operation :: rest =>
    let next := queue.step operation
    let last := run next.2 rest
    (next.1 :: last.1, last.2)

/-- How often the slot at a position is emptied in the course of some operations. -/
def removals (index : Nat) (queue : TaskQueue α) : List (Operation α) → Nat
  | [] => 0
  | operation :: rest =>
    queue.emptied (queue.step operation).2 index + removals index (queue.step operation).2 rest

/-- Each operation empties a slot once at most. -/
lemma removals_le_length (index : Nat) (queue : TaskQueue α) (operations : List (Operation α)) :
    queue.removals index operations ≤ operations.length := by
  induction operations generalizing queue with
  | nil => exact Nat.le_refl 0
  | cons operation rest ih =>
    have hfirst := queue.emptied_le_one (queue.step operation).2 index
    have hrest := ih (queue.step operation).2
    rw [removals, List.length_cons]
    omega

/-! ## The list at work -/

/-- A list of tasks that wait, each with its id, and all ids that were ever given. -/
structure Listing (α : Type) where
  /-- The ids that were given. -/
  given : List TaskId
  /-- The tasks that wait, in order. -/
  entries : List (TaskId × α)

namespace Listing

/-- What a list answers to an operation, and what becomes of it. A task is appended under any id
that was not given before. -/
inductive Step : Listing α → Operation α → Answer α → Listing α → Prop
  | push (listing : Listing α) (task : α) {id : TaskId} (hfresh : id ∉ listing.given) :
    Step listing (.push task) (.given id)
      ⟨listing.given ++ [id], listing.entries ++ [(id, task)]⟩
  | remove (listing : Listing α) (id : TaskId) :
    Step listing (.remove id) (.removed (listing.entries.lookup id))
      { listing with entries := listing.entries.eraseP fun entry => entry.1 == id }
  | popFront (listing : Listing α) :
    Step listing .popFront (.found listing.entries.head?)
      { listing with entries := listing.entries.tail }
  | contains (listing : Listing α) (id : TaskId) :
    Step listing (.contains id) (.whether (listing.entries.lookup id).isSome) listing
  | amend (listing : Listing α) (kind : α → Bool) (change : α → α) :
    Step listing (.amend kind change)
      (.found (listing.entries.find? fun entry => kind entry.2))
      { listing with entries := amendFirst kind change listing.entries }
  | drain (listing : Listing α) :
    Step listing .drain (.drained (listing.entries.map Prod.snd)) { listing with entries := [] }
  | length (listing : Listing α) :
    Step listing .length (.count listing.entries.length) listing

/-- What a list answers to operations one after the other, and what becomes of it. -/
inductive Run : Listing α → List (Operation α) → List (Answer α) → Listing α → Prop
  | nil (listing : Listing α) : Run listing [] [] listing
  | cons {listing next last : Listing α} {operation : Operation α} {answer : Answer α}
    {operations : List (Operation α)} {answers : List (Answer α)}
    (hstep : Step listing operation answer next) (hrun : Run next operations answers last) :
    Run listing (operation :: operations) (answer :: answers) last

end Listing

/-! ## What an operation changes -/

/-- **An operation** adds a task, puts one in the place of another, or gives no id and empties
slots at most. -/
lemma step_cases (hq : queue.WellFormed) (operation : Operation α) :
    (∃ task, operation = .push task) ∨
    ((queue.step operation).1.id? = none ∧ ∃ id old new, queue.task? id = some old ∧
      (queue.step operation).2 = queue.replace id new) ∨
    ((queue.step operation).1.id? = none ∧ (queue.step operation).2.WellFormed ∧
      queue.Shrinks (queue.step operation).2 ∧
      (queue.step operation).2.order.Sublist queue.order) := by
  have hpops : ∀ skip : α → Bool, (queue.popSkipping skip).queue.WellFormed ∧
      queue.Shrinks (queue.popSkipping skip).queue ∧
      (queue.popSkipping skip).queue.order.Sublist queue.order := fun skip =>
    ⟨(popSkipping_splits hq skip).wellFormed, popSkipping_shrinks queue skip,
      (popFrom_order_suffix skip queue.order queue).sublist⟩
  cases operation with
  | push task => exact .inl ⟨task, rfl⟩
  | remove id =>
    refine .inr (.inr ?_)
    rcases hremove : queue.remove id with _ | ⟨task, rest⟩
    · simp only [step, hremove]
      exact ⟨rfl, hq, Shrinks.refl queue, List.Sublist.refl _⟩
    · simp only [step, hremove]
      refine ⟨rfl, remove_wellFormed hq hremove, remove_shrinks hremove, ?_⟩
      rw [remove_order hremove]
  | popFront =>
    have hqueue : queue.popEntry.2 = (queue.popSkipping fun _ => false).queue :=
      (congrArg Prod.snd queue.popFront_eq).symm
    refine .inr (.inr ⟨rfl, ?_⟩)
    change queue.popEntry.2.WellFormed ∧ queue.Shrinks queue.popEntry.2 ∧
      queue.popEntry.2.order.Sublist queue.order
    rw [hqueue]
    exact hpops _
  | contains id => exact .inr (.inr ⟨rfl, hq, Shrinks.refl queue, List.Sublist.refl _⟩)
  | amend kind change =>
    rcases hfind : queue.find? kind with _ | ⟨id, task⟩
    · simp only [step, hfind]
      exact .inr (.inr ⟨rfl, hq, Shrinks.refl queue, List.Sublist.refl _⟩)
    · simp only [step, hfind]
      exact .inr (.inl ⟨rfl, id, task, change task, task?_of_find? hfind, rfl⟩)
  | drain => exact .inr (.inr ⟨rfl, hpops _⟩)
  | length => exact .inr (.inr ⟨rfl, hq, Shrinks.refl queue, List.Sublist.refl _⟩)

/-- **The generation** of a slot goes up if an operation empties the slot, and only then. -/
lemma step_generation (hq : queue.WellFormed) (operation : Operation α) {index : Nat}
    (hfew : (queue.generation index).toNat +
      queue.emptied (queue.step operation).2 index < UInt32.size) :
    ((queue.step operation).2.generation index).toNat =
      (queue.generation index).toNat + queue.emptied (queue.step operation).2 index := by
  rcases step_cases hq operation with ⟨task, rfl⟩ | ⟨-, id, old, new, hfound, hqueue⟩ |
    ⟨-, -, hshrinks, -⟩
  · change ((queue.push task).2.generation index).toNat =
      _ + queue.emptied (queue.push task).2 index
    rw [push_generation hq, emptied_eq_zero, Nat.add_zero]
    intro hfilled
    rw [push_filled hq, hfilled, Bool.or_true]
  · rw [hqueue, replace_generation hfound, emptied_eq_zero, Nat.add_zero]
    intro hfilled
    rw [replace_filled hfound, hfilled]
  · exact hshrinks.generation_toNat hfew

/-- The ids that were given stay different, and an operation gives at most one more. -/
lemma Unrepeated.step (h : queue.Unrepeated given) (operation : Operation α)
    (hfew : ∀ index, (queue.generation index).toNat +
      queue.emptied (queue.step operation).2 index < UInt32.size) :
    (queue.step operation).2.Unrepeated
      (given ++ (queue.step operation).1.id?.toList) := by
  rcases step_cases h.toWellFormed operation with ⟨task, rfl⟩ |
    ⟨hnone, id, old, new, hfound, hqueue⟩ | ⟨hnone, hother, hshrinks, horder⟩
  · exact h.push task
  · rw [hnone, Option.toList_none, List.append_nil, hqueue]
    exact h.replace hfound new
  · rw [hnone, Option.toList_none, List.append_nil]
    exact h.shrink hother hshrinks horder hfew

/-! ## The queue and the list -/

/-- An answer that gives no id leaves the ids that were given. -/
lemma Listing.Step.of_quiet {operation : Operation α} {answer : Answer α}
    {entries rest : List (TaskId × α)} (hquiet : answer.id? = none)
    (h : Listing.Step ⟨given, entries⟩ operation answer ⟨given, rest⟩) :
    Listing.Step ⟨given, entries⟩ operation answer ⟨given ++ answer.id?.toList, rest⟩ := by
  rw [hquiet, Option.toList_none, List.append_nil]
  exact h

/-- **An operation** on a queue is answered as on its list, and does the same to both. -/
lemma Unrepeated.step_listing (h : queue.Unrepeated given) (operation : Operation α) :
    Listing.Step ⟨given, queue.toList⟩ operation (queue.step operation).1
      ⟨given ++ (queue.step operation).1.id?.toList, (queue.step operation).2.toList⟩ := by
  have hq := h.toWellFormed
  cases operation with
  | push task =>
    change Listing.Step _ _ _ ⟨_, (queue.push task).2.toList⟩
    rw [push_toList h.ordered]
    exact Listing.Step.push ⟨given, queue.toList⟩ task (h.push_fst_not_mem task)
  | remove id =>
    have hlist := Listing.Step.remove ⟨given, queue.toList⟩ id
    rw [lookup_toList hq] at hlist
    rcases hremove : queue.remove id with _ | ⟨task, rest⟩
    · have hnone := remove_eq_none_iff.1 hremove
      simp only [hnone, eraseP_toList hq hnone] at hlist
      simp only [TaskQueue.step, hremove]
      exact hlist.of_quiet rfl
    · have hsome := (remove_eq_some_iff.1 hremove).1
      simp only [hsome, ← h.ordered.remove_eraseP hremove] at hlist
      simp only [TaskQueue.step, hremove]
      exact hlist.of_quiet rfl
  | popFront =>
    obtain ⟨hentry, hrest⟩ := h.ordered.popEntry_eq
    apply Listing.Step.of_quiet rfl
    simp only [TaskQueue.step, hentry, hrest]
    exact Listing.Step.popFront ⟨given, queue.toList⟩
  | contains id =>
    apply Listing.Step.of_quiet rfl
    simp only [TaskQueue.step, contains, ← lookup_toList hq]
    exact Listing.Step.contains ⟨given, queue.toList⟩ id
  | amend kind change =>
    have hlist := Listing.Step.amend ⟨given, queue.toList⟩ kind change
    rcases hfind : queue.find? kind with _ | ⟨id, task⟩
    · rw [find?_eq] at hfind
      simp only [hfind, amendFirst_of_find?_eq_none change hfind] at hlist
      simp only [TaskQueue.step, find?_eq, hfind]
      exact hlist.of_quiet rfl
    · have hreplaced := replace_map (task?_of_find? hfind) (change task)
      rw [find?_eq] at hfind
      simp only [hfind, amendFirst_of_find?_eq_some change h.ordered.ids_nodup hfind,
        ← hreplaced] at hlist
      simp only [TaskQueue.step, find?_eq, hfind]
      exact hlist.of_quiet rfl
  | drain =>
    obtain ⟨htasks, hempty⟩ := h.ordered.drain_eq
    apply Listing.Step.of_quiet rfl
    simp only [TaskQueue.step, htasks, hempty]
    exact Listing.Step.drain ⟨given, queue.toList⟩
  | length =>
    apply Listing.Step.of_quiet rfl
    simp only [TaskQueue.step, h.ordered.size_eq]
    exact Listing.Step.length ⟨given, queue.toList⟩

/-- **A run**, from any queue whose generations do not come round in its course. -/
lemma Unrepeated.run_listing (h : queue.Unrepeated given) (operations : List (Operation α))
    (hfew : ∀ index, (queue.generation index).toNat + queue.removals index operations <
      UInt32.size) :
    (queue.run operations).2.Unrepeated
        (given ++ (queue.run operations).1.filterMap Answer.id?) ∧
      Listing.Run ⟨given, queue.toList⟩ operations (queue.run operations).1
        ⟨given ++ (queue.run operations).1.filterMap Answer.id?, (queue.run operations).2.toList⟩ := by
  induction operations generalizing queue given with
  | nil =>
    simp only [run, List.filterMap_nil, List.append_nil]
    exact ⟨h, Listing.Run.nil _⟩
  | cons operation rest ih =>
    have hfirst : ∀ index, (queue.generation index).toNat +
        queue.emptied (queue.step operation).2 index < UInt32.size := by
      intro index
      have := hfew index
      rw [removals] at this
      omega
    have hrest : ∀ index, ((queue.step operation).2.generation index).toNat +
        (queue.step operation).2.removals index rest < UInt32.size := by
      intro index
      have := hfew index
      rw [removals] at this
      rw [step_generation h.toWellFormed operation (hfirst index)]
      omega
    obtain ⟨hlast, hrun⟩ := ih (h.step operation hfirst) hrest
    have hgiven : given ++ (queue.step operation).1.id?.toList ++
        ((queue.step operation).2.run rest).1.filterMap Answer.id? =
          given ++ (queue.run (operation :: rest)).1.filterMap Answer.id? := by
      rw [run, List.append_assoc, List.filterMap_cons]
      rcases (queue.step operation).1.id? with _ | id <;> rfl
    rw [hgiven] at hlast hrun
    exact ⟨hlast, Listing.Run.cons (h.step_listing operation) hrun⟩

/-- **A queue is a list of tasks in the order in which they came.** Where no slot is emptied
`2 ^ 32` times, all operations on a queue that was empty are answered as on the list, the ids that
are given are all different, and the tasks of the list are those of the queue in the end. -/
theorem run_answers_as_list (operations : List (Operation α))
    (hfew : ∀ index, removals index ({} : TaskQueue α) operations < 2 ^ 32) :
    ((({} : TaskQueue α).run operations).1.filterMap Answer.id?).Nodup ∧
      Listing.Run ⟨[], []⟩ operations (({} : TaskQueue α).run operations).1
        ⟨(({} : TaskQueue α).run operations).1.filterMap Answer.id?,
          (({} : TaskQueue α).run operations).2.toList⟩ := by
  have hstart : ∀ index, (({} : TaskQueue α).generation index).toNat +
      removals index ({} : TaskQueue α) operations < UInt32.size := by
    intro index
    have hzero : (({} : TaskQueue α).generation index).toNat = 0 := by simp [generation]
    rw [hzero, Nat.zero_add]
    exact hfew index
  obtain ⟨hlast, hrun⟩ := Unrepeated.empty.run_listing operations hstart
  rw [List.nil_append] at hlast hrun
  exact ⟨hlast.distinct, hrun⟩

/-- A slot is filled again, and its old id neither finds the new task nor is in its way. -/
theorem run_answers_as_list_reused_slot :
    [TaskId.mk 0 0, ⟨1, 0⟩, ⟨0, 1⟩].Nodup ∧
      Listing.Run ⟨[], []⟩
        [.push 1, .push 2, .remove ⟨0, 0⟩, .push 3, .remove ⟨0, 0⟩, .amend (2 < ·) (· + 1), .popFront]
        [.given ⟨0, 0⟩, .given ⟨1, 0⟩, .removed (some 1), .given ⟨0, 1⟩, .removed none,
          .found (some (⟨0, 1⟩, 3)), .found (some (⟨1, 0⟩, 2))]
        ⟨[⟨0, 0⟩, ⟨1, 0⟩, ⟨0, 1⟩], [(⟨0, 1⟩, 4)]⟩ := by
  have hfew : ∀ index, removals index ({} : TaskQueue Nat)
      [.push 1, .push 2, .remove ⟨0, 0⟩, .push 3, .remove ⟨0, 0⟩, .amend (2 < ·) (· + 1),
        .popFront] < 2 ^ 32 := by
    intro index
    exact Nat.lt_of_le_of_lt (removals_le_length index _ _) (by decide)
  exact run_answers_as_list _ hfew

end TnsClient.TaskQueue
