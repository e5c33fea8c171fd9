set_option autoImplicit false

/-!
# Queues of tasks

Tasks wait in the order in which they came, but any of them may be taken out by its id. A task sits
in a slot; the id names the slot and its generation, which goes up each time the slot is emptied, so
that an old id does not find the task that has its slot now. The order of tasks is a list of ids in
which the ids of tasks that were taken out stay behind until they reach the front.

## Main definitions

* `TnsClient.TaskQueue` — a queue of tasks of some type.
* `TnsClient.TaskQueue.toList` — the tasks that wait, in order.
* `TnsClient.TaskQueue.push`, `TnsClient.TaskQueue.remove`, `TnsClient.TaskQueue.popFront`,
  `TnsClient.TaskQueue.drain` — adding and taking out.
-/

namespace TnsClient

/-- The id of a task. The position stands for a number of 32 bits, which it is as long as fewer than
`2 ^ 32` tasks wait at once, since a slot is only added where all others have a task. -/
structure TaskId where
  /-- The position of its slot. -/
  index : Nat
  /-- The generation of the slot when the task was put into it. -/
  generation : UInt32
  deriving DecidableEq, Repr

/-- A slot for a task. -/
structure Slot (α : Type) where
  /-- How often the slot was emptied. -/
  generation : UInt32
  /-- The task in the slot. -/
  task : Option α
  deriving DecidableEq, Repr

/-- A queue of tasks. -/
structure TaskQueue (α : Type) where
  /-- The slots. -/
  slots : List (Slot α) := []
  /-- The positions of empty slots, the one emptied last in front. -/
  free : List Nat := []
  /-- The ids in the order of their tasks, and old ids. -/
  order : List TaskId := []
  /-- The number of tasks. -/
  size : Nat := 0
  deriving DecidableEq, Repr

namespace TaskQueue

variable {α : Type}

/-! ## Looking -/

/-- The task of an id, if it waits. -/
def task? (queue : TaskQueue α) (id : TaskId) : Option α := do
  let slot ← queue.slots[id.index]?
  if slot.generation = id.generation then slot.task else none

/-- Whether the task of an id waits. -/
def contains (queue : TaskQueue α) (id : TaskId) : Bool := (queue.task? id).isSome

/-- The tasks that wait and their ids, in order. -/
def toList (queue : TaskQueue α) : List (TaskId × α) :=
  queue.order.filterMap fun id => (queue.task? id).map fun task => (id, task)

/-- Whether no task waits. -/
def isEmpty (queue : TaskQueue α) : Bool := queue.size == 0

/-- The first task of a kind, and its id. -/
def find? (queue : TaskQueue α) (kind : α → Bool) : Option (TaskId × α) :=
  queue.toList.find? fun (_, task) => kind task

/-! ## Adding -/

/-- Adds a task behind all others, in the slot emptied last or in a new one. -/
def push (queue : TaskQueue α) (task : α) : TaskId × TaskQueue α :=
  match queue.free with
  | index :: free =>
    let generation := (queue.slots[index]?.map Slot.generation).getD 0
    let id : TaskId := ⟨index, generation⟩
    (id, {
      slots := queue.slots.set index ⟨generation, some task⟩
      free
      order := queue.order ++ [id]
      size := queue.size + 1 })
  | [] =>
    let id : TaskId := ⟨queue.slots.length, 0⟩
    (id, { queue with
      slots := queue.slots ++ [⟨0, some task⟩]
      order := queue.order ++ [id]
      size := queue.size + 1 })

/-- Puts another task in the place of one that waits. -/
def replace (queue : TaskQueue α) (id : TaskId) (task : α) : TaskQueue α :=
  if queue.contains id then
    { queue with slots := queue.slots.set id.index ⟨id.generation, some task⟩ }
  else queue

/-! ## Taking out -/

/-- Takes out the task of an id. -/
def remove (queue : TaskQueue α) (id : TaskId) : Option (α × TaskQueue α) :=
  (queue.task? id).map fun task => (task, { queue with
    slots := queue.slots.set id.index ⟨id.generation + 1, none⟩
    free := id.index :: queue.free
    size := queue.size - 1 })

/-- What comes off the front of a queue. -/
structure Front (α : Type) where
  /-- The tasks that were passed over. -/
  skipped : List α
  /-- The first task that was not. -/
  task : Option α
  /-- What is left. -/
  queue : TaskQueue α

/-- Takes tasks off the front as long as they are to be skipped, and then one more, where the ids
in order are given. -/
def popFrom (skip : α → Bool) (queue : TaskQueue α) : List TaskId → Front α
  | [] => ⟨[], none, { queue with order := [] }⟩
  | id :: rest =>
    match queue.remove id with
    | none => popFrom skip queue rest
    | some (task, queue) =>
      if skip task then
        let front := popFrom skip queue rest
        { front with skipped := task :: front.skipped }
      else ⟨[], some task, { queue with order := rest }⟩

/-- Takes tasks off the front as long as they are to be skipped, and then one more. -/
def popSkipping (queue : TaskQueue α) (skip : α → Bool) : Front α :=
  popFrom skip queue queue.order

/-- Takes out the first task. -/
def popFront (queue : TaskQueue α) : Option α × TaskQueue α :=
  let front := queue.popSkipping fun _ => false
  (front.task, front.queue)

/-- Takes out all tasks, in order. -/
def drain (queue : TaskQueue α) : List α × TaskQueue α :=
  let front := queue.popSkipping fun _ => true
  (front.skipped, front.queue)

end TaskQueue

end TnsClient
