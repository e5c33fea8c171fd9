import Mathlib.Data.List.Forall2
import TnsClient.Proofs.Client.Outcome

set_option autoImplicit false

/-!
# A ledger of tasks

A ledger has an entry for every task that a client has taken, in the order in which they were
submitted, and says of each what has become of it. The entries come in two parts: no task of the
first part waits any more, and no task of the second has been started. So whatever is started next
comes behind all that were started before.

## Main definitions

* `TnsClient.Fate`, `TnsClient.Entry` — what has become of a task.
* `TnsClient.tasksOf` — the tasks that have met a fate, in order.
* `TnsClient.Ledger` — the entries agree with what has happened.

## Main results

* `TnsClient.Ledger.take`, `TnsClient.Ledger.join`, `TnsClient.Ledger.cancel`,
  `TnsClient.Ledger.settle`, `TnsClient.Ledger.start` — what can happen to a ledger.
-/

namespace TnsClient

/-- What has become of a task. -/
inductive Fate where
  /-- It waits. -/
  | waiting
  /-- It was started. -/
  | started
  /-- It was cancelled. -/
  | cancelled
  /-- It was passed over when its turn came. -/
  | passedOver
  /-- It was given up when the connection ended. -/
  | dropped
  deriving DecidableEq

/-- A task and what has become of it. -/
structure Entry where
  /-- The task, with its callers. -/
  task : Task
  /-- What has become of it. -/
  fate : Fate

/-- The tasks that have met a fate, in the order of their entries. -/
def tasksOf (fate : Fate) (entries : List Entry) : List Task :=
  entries.filterMap fun entry => if entry.fate = fate then some entry.task else none

/-- If the task of an entry waits, it meets its fate. -/
def Entry.settle (fate : Fate) (entry : Entry) : Entry :=
  if entry.fate = .waiting then { entry with fate } else entry

/-- Whether a task still waits, or was taken out while it did. -/
def Entry.IsOpen (entry : Entry) : Prop := entry.fate = .waiting ∨ entry.fate = .cancelled

/-- **The entries agree with what has happened**: with the tasks taken, in order; with the moments
at which tasks were started, in order; with the tasks cancelled; with the tasks that were passed
over when their turn came; with those that wait in line, in order; and with whether the connection
is over. -/
structure Ledger (taken : List Task) (starts : List Moment) (cancelled : List Task)
    (passed : Task → Prop) (line : List Task) (ended : Bool) (gone left : List Entry) : Prop where
  taken : List.Forall₂ Task.Extends taken ((gone ++ left).map Entry.task)
  started : List.Forall₂ Moment.Starts starts (tasksOf .started (gone ++ left))
  cancelled : (tasksOf .cancelled (gone ++ left)).Perm cancelled
  passedOver : ∀ task ∈ tasksOf .passedOver (gone ++ left), passed task
  dropped : tasksOf .dropped (gone ++ left) ≠ [] → ended = true
  waiting : tasksOf .waiting left = line
  gone : tasksOf .waiting gone = []
  left : ∀ entry ∈ left, entry.IsOpen

/-- Tasks may get more callers again and again. -/
lemma forall₂_extends_trans {one two three : List Task} (h : List.Forall₂ Task.Extends one two)
    (h' : List.Forall₂ Task.Extends two three) : List.Forall₂ Task.Extends one three := by
  induction h generalizing three with
  | nil => exact h'
  | cons hfirst _ ih =>
    cases h' with
    | cons hfirst' hrest => exact .cons (hfirst.trans hfirst') (ih hrest)

/-! ## Tasks by their fate -/

section

variable {fate other : Fate} {entries : List Entry}

@[simp] lemma tasksOf_nil (fate : Fate) : tasksOf fate [] = [] := rfl

@[simp] lemma tasksOf_append (fate : Fate) (entries more : List Entry) :
    tasksOf fate (entries ++ more) = tasksOf fate entries ++ tasksOf fate more :=
  List.filterMap_append

@[simp] lemma tasksOf_cons_self (task : Task) (fate : Fate) (entries : List Entry) :
    tasksOf fate (⟨task, fate⟩ :: entries) = task :: tasksOf fate entries := by
  simp [tasksOf]

lemma tasksOf_cons_of_ne (task : Task) (h : other ≠ fate) (entries : List Entry) :
    tasksOf fate (⟨task, other⟩ :: entries) = tasksOf fate entries := by
  simp [tasksOf, h]

/-- Open entries meet no fate but one of two. -/
lemma tasksOf_eq_nil (hopen : ∀ entry ∈ entries, entry.IsOpen) (hwaiting : fate ≠ .waiting)
    (hcancelled : fate ≠ .cancelled) : tasksOf fate entries = [] := by
  refine List.filterMap_eq_nil_iff.2 fun entry hmem => if_neg ?_
  rcases hopen entry hmem with h | h <;> rw [h]
  exacts [hwaiting.symm, hcancelled.symm]

/-- A task that has met a fate has an entry. -/
lemma tasksOf_split {task : Task} {front back : List Task}
    (h : tasksOf fate entries = front ++ task :: back) :
    ∃ before after, entries = before ++ ⟨task, fate⟩ :: after ∧
      tasksOf fate before = front ∧ tasksOf fate after = back := by
  obtain ⟨before, rest, rfl, hbefore, hrest⟩ := List.filterMap_eq_append_iff.1 h
  obtain ⟨skipped, entry, after, rfl, hskipped, hentry, hafter⟩ :=
    List.filterMap_eq_cons_iff.1 hrest
  obtain ⟨hfate, rfl⟩ := ite_eq_iff.1 hentry |>.resolve_right (by simp)
    |>.imp_right Option.some.inj
  refine ⟨before ++ skipped, after, ?_, ?_, hafter⟩
  · rw [← hfate, List.append_assoc]
  · rw [tasksOf_append, show tasksOf fate before = front from hbefore,
      show tasksOf fate skipped = [] from List.filterMap_eq_nil_iff.2 hskipped, List.append_nil]

lemma settle_task (fate : Fate) (entries : List Entry) :
    (entries.map (Entry.settle fate)).map Entry.task = entries.map Entry.task := by
  rw [List.map_map]
  refine List.map_congr_left fun entry _ => ?_
  simp only [Function.comp_apply, Entry.settle]
  split_ifs <;> rfl

/-- Settling moves the tasks that wait to their fate. -/
lemma tasksOf_settle_self (hopen : ∀ entry ∈ entries, entry.IsOpen)
    (hcancelled : fate ≠ .cancelled) :
    tasksOf fate (entries.map (Entry.settle fate)) = tasksOf .waiting entries := by
  rw [tasksOf, List.filterMap_map]
  refine List.filterMap_congr fun entry hmem => ?_
  rcases hopen entry hmem with h | h <;> simp [Entry.settle, h, hcancelled.symm]

lemma tasksOf_settle_waiting (hwaiting : fate ≠ .waiting) :
    tasksOf .waiting (entries.map (Entry.settle fate)) = [] := by
  rw [tasksOf, List.filterMap_map, List.filterMap_eq_nil_iff]
  intro entry _
  by_cases h : entry.fate = .waiting <;> simp [Entry.settle, h, hwaiting]

lemma tasksOf_settle_of_ne (hne : other ≠ fate) (hwaiting : other ≠ .waiting) :
    tasksOf other (entries.map (Entry.settle fate)) = tasksOf other entries := by
  rw [tasksOf, List.filterMap_map]
  refine List.filterMap_congr fun entry _ => ?_
  by_cases h : entry.fate = .waiting <;> simp [Entry.settle, h, hne.symm, hwaiting.symm]

end

/-! ## What can happen -/

namespace Ledger

variable {taken : List Task} {starts : List Moment} {cancelled : List Task} {passed : Task → Prop}
  {line : List Task} {ended : Bool} {gone left : List Entry}

lemma empty (passed : Task → Prop) : Ledger [] [] [] passed [] false [] [] where
  taken := .nil
  started := .nil
  cancelled := .refl _
  passedOver := by simp
  dropped := by simp
  waiting := rfl
  gone := rfl
  left := by simp

/-- More may have been passed over, and the connection may be over by now. -/
lemma mono (h : Ledger taken starts cancelled passed line ended gone left) {passed' : Task → Prop}
    (hpassed : ∀ task, passed task → passed' task) {ended' : Bool}
    (hover : ended = true → ended' = true) :
    Ledger taken starts cancelled passed' line ended' gone left :=
  { h with
    passedOver := fun task hmem => hpassed task (h.passedOver task hmem)
    dropped := fun hne => hover (h.dropped hne) }

/-- **A task is taken** and waits behind all others. -/
lemma take (h : Ledger taken starts cancelled passed line ended gone left) (task : Task) :
    Ledger (taken ++ [task]) starts cancelled passed (line ++ [task]) ended gone
      (left ++ [⟨task, .waiting⟩]) := by
  have hsame : ∀ fate, fate ≠ .waiting →
      tasksOf fate (gone ++ (left ++ [⟨task, .waiting⟩])) = tasksOf fate (gone ++ left) := by
    intro fate hne
    simp [tasksOf_cons_of_ne task hne.symm]
  refine ⟨?_, ?_, ?_, ?_, ?_, by simp [h.waiting], h.gone, fun entry hmem => ?_⟩
  · rw [← List.append_assoc, List.map_append]
    exact List.rel_append h.taken (.cons (.refl task) .nil)
  · rw [hsame _ (by simp)]
    exact h.started
  · rw [hsame _ (by simp)]
    exact h.cancelled
  · rw [hsame _ (by simp)]
    exact h.passedOver
  · rw [hsame _ (by simp)]
    exact h.dropped
  · rcases List.mem_append.1 hmem with hold | hnew
    · exact h.left entry hold
    · rw [List.mem_singleton.1 hnew]
      exact .inl rfl

/-- **A task that waits is changed** in its place: it gets more callers, or it meets its fate. -/
lemma change (h : Ledger taken starts cancelled passed line ended gone left) {task : Task}
    {front back : List Task} (hline : line = front ++ task :: back) :
    ∃ before after, left = before ++ ⟨task, .waiting⟩ :: after ∧
      tasksOf .waiting before = front ∧ tasksOf .waiting after = back ∧
      (∀ entry ∈ before, entry.IsOpen) ∧ (∀ entry ∈ after, entry.IsOpen) := by
  obtain ⟨before, after, rfl, hbefore, hafter⟩ := tasksOf_split (h.waiting.trans hline)
  exact ⟨before, after, rfl, hbefore, hafter,
    fun entry hmem => h.left entry (List.mem_append_left _ hmem),
    fun entry hmem => h.left entry (List.mem_append_right _ (List.mem_cons_of_mem _ hmem))⟩

/-- **A ping that waits is joined** by others. -/
lemma join (h : Ledger taken starts cancelled passed line ended gone left) {task task' : Task}
    {front back : List Task} (hline : line = front ++ task :: back)
    (hextends : task.Extends task') :
    ∃ left', Ledger taken starts cancelled passed (front ++ task' :: back) ended gone left' := by
  obtain ⟨before, after, rfl, hbefore, hafter, hopen, hopen'⟩ := h.change hline
  have hsame : ∀ fate, fate ≠ .waiting →
      tasksOf fate (gone ++ (before ++ ⟨task', .waiting⟩ :: after)) =
        tasksOf fate (gone ++ (before ++ ⟨task, .waiting⟩ :: after)) := by
    intro fate hne
    simp [tasksOf_cons_of_ne _ hne.symm]
  refine ⟨before ++ ⟨task', .waiting⟩ :: after, ?_, ?_, ?_, ?_, ?_, by simp [hbefore, hafter],
    h.gone, fun entry hmem => ?_⟩
  · refine forall₂_extends_trans h.taken ?_
    simp only [List.map_append, List.map_cons]
    have hrefl : ∀ tasks, List.Forall₂ Task.Extends tasks tasks :=
      fun tasks => List.forall₂_same.2 fun task _ => .refl task
    exact List.rel_append (hrefl _) (List.rel_append (hrefl _) (.cons hextends (hrefl _)))
  · rw [hsame _ (by simp)]
    exact h.started
  · rw [hsame _ (by simp)]
    exact h.cancelled
  · rw [hsame _ (by simp)]
    exact h.passedOver
  · rw [hsame _ (by simp)]
    exact h.dropped
  · rcases List.mem_append.1 hmem with hold | hold
    · exact hopen entry hold
    · rcases List.mem_cons.1 hold with rfl | hold
      · exact .inl rfl
      · exact hopen' entry hold

/-- **A task that waits is cancelled.** -/
lemma cancel (h : Ledger taken starts cancelled passed line ended gone left) {task : Task}
    {front back : List Task} (hline : line = front ++ task :: back) :
    ∃ left', Ledger taken starts (cancelled ++ [task]) passed (front ++ back) ended gone left' := by
  obtain ⟨before, after, rfl, hbefore, hafter, hopen, hopen'⟩ := h.change hline
  have hsame : ∀ fate, fate ≠ .waiting → fate ≠ .cancelled →
      tasksOf fate (gone ++ (before ++ ⟨task, .cancelled⟩ :: after)) =
        tasksOf fate (gone ++ (before ++ ⟨task, .waiting⟩ :: after)) := by
    intro fate hwaiting hcancelled
    simp [tasksOf_cons_of_ne _ hwaiting.symm, tasksOf_cons_of_ne _ hcancelled.symm]
  refine ⟨before ++ ⟨task, .cancelled⟩ :: after, ?_, ?_, ?_, ?_, ?_, ?_, h.gone,
    fun entry hmem => ?_⟩
  · simpa using h.taken
  · rw [hsame _ (by simp) (by simp)]
    exact h.started
  · refine List.Perm.trans ?_ (h.cancelled.append_right [task])
    simp only [tasksOf_append, tasksOf_cons_self, List.append_assoc,
      tasksOf_cons_of_ne task (show Fate.waiting ≠ .cancelled by simp)]
    exact (List.perm_append_singleton _ _).symm.append_left _ |>.append_left _
  · rw [hsame _ (by simp) (by simp)]
    exact h.passedOver
  · rw [hsame _ (by simp) (by simp)]
    exact h.dropped
  · rw [tasksOf_append, tasksOf_cons_of_ne task (by simp), hbefore, hafter]
  · rcases List.mem_append.1 hmem with hold | hold
    · exact hopen entry hold
    · rcases List.mem_cons.1 hold with rfl | hold
      · exact .inr rfl
      · exact hopen' entry hold

/-- **The tasks at the front of the line are given up**: they are passed over, or dropped because
the connection is over. -/
lemma settle (h : Ledger taken starts cancelled passed line ended gone left) {fate : Fate}
    {skipped rest : List Task} (hline : line = skipped ++ rest)
    (hfate : (fate = .passedOver ∧ ∀ task ∈ skipped, passed task) ∨
      (fate = .dropped ∧ ended = true)) :
    ∃ gone' left', Ledger taken starts cancelled passed rest ended gone' left' := by
  obtain ⟨before, after, rfl, hbefore, hafter⟩ :=
    List.filterMap_eq_append_iff.1 (h.waiting.trans hline)
  have hbefore : tasksOf .waiting before = skipped := hbefore
  have hopen : ∀ entry ∈ before, entry.IsOpen :=
    fun entry hmem => h.left entry (List.mem_append_left _ hmem)
  have hwaiting : fate ≠ .waiting := by rcases hfate with ⟨rfl, -⟩ | ⟨rfl, -⟩ <;> simp
  have hstarted : fate ≠ .started := by rcases hfate with ⟨rfl, -⟩ | ⟨rfl, -⟩ <;> simp
  have hcancelled : fate ≠ .cancelled := by rcases hfate with ⟨rfl, -⟩ | ⟨rfl, -⟩ <;> simp
  have hsame : ∀ other, other ≠ fate → other ≠ .waiting →
      tasksOf other (gone ++ before.map (Entry.settle fate) ++ after) =
        tasksOf other (gone ++ (before ++ after)) := by
    intro other hne hother
    simp [tasksOf_settle_of_ne hne hother]
  have hmet : ∀ task ∈ tasksOf fate (gone ++ before.map (Entry.settle fate) ++ after),
      task ∈ tasksOf fate (gone ++ (before ++ after)) ∨ task ∈ skipped := by
    intro task hmem
    simp only [tasksOf_append, tasksOf_settle_self hopen hcancelled, hbefore, List.mem_append]
      at hmem ⊢
    tauto
  refine ⟨gone ++ before.map (Entry.settle fate), after, ?_, ?_, ?_, fun task hmem => ?_,
    fun hne => ?_, hafter, ?_, fun entry hmem => h.left entry (List.mem_append_right _ hmem)⟩
  · simpa only [List.map_append, settle_task, List.append_assoc] using h.taken
  · rw [hsame _ hstarted.symm (by simp)]
    exact h.started
  · rw [hsame _ hcancelled.symm (by simp)]
    exact h.cancelled
  · rcases hfate with ⟨rfl, hpassed⟩ | ⟨rfl, -⟩
    · exact (hmet task hmem).elim (h.passedOver task) (hpassed task)
    · rw [hsame _ (by simp) (by simp)] at hmem
      exact h.passedOver task hmem
  · rcases hfate with ⟨rfl, -⟩ | ⟨-, hover⟩
    · rw [hsame _ (by simp) (by simp)] at hne
      exact h.dropped hne
    · exact hover
  · rw [tasksOf_append, h.gone, tasksOf_settle_waiting hwaiting, List.nil_append]

/-- **The first task in line is started.** -/
lemma start (h : Ledger taken starts cancelled passed line ended gone left) {task : Task}
    {rest : List Task} (hline : line = task :: rest) {moment : Moment}
    (hstarts : moment.Starts task) :
    ∃ gone' left', Ledger taken (starts ++ [moment]) cancelled passed rest ended gone' left' := by
  obtain ⟨before, after, rfl, hbefore, hafter, hopen, hopen'⟩ :=
    h.change (show line = [] ++ task :: rest from hline)
  have hsame : ∀ fate, fate ≠ .waiting → fate ≠ .started →
      tasksOf fate (gone ++ (before ++ [⟨task, .started⟩]) ++ after) =
        tasksOf fate (gone ++ (before ++ ⟨task, .waiting⟩ :: after)) := by
    intro fate hwaiting hstarted
    simp [tasksOf_cons_of_ne _ hwaiting.symm, tasksOf_cons_of_ne _ hstarted.symm]
  refine ⟨gone ++ (before ++ [⟨task, .started⟩]), after, ?_, ?_, ?_, ?_, ?_, hafter, ?_, hopen'⟩
  · simpa using h.taken
  · -- nothing that still waits, or was cancelled, has been started
    have hstarted := h.started
    simp only [tasksOf_append, tasksOf_cons_self, tasksOf_nil,
      tasksOf_cons_of_ne task (show Fate.waiting ≠ .started by simp),
      tasksOf_eq_nil hopen (show Fate.started ≠ .waiting by simp) (by simp),
      tasksOf_eq_nil hopen' (show Fate.started ≠ .waiting by simp) (by simp), List.append_nil,
      List.nil_append] at hstarted ⊢
    exact List.rel_append hstarted (.cons hstarts .nil)
  · rw [hsame _ (by simp) (by simp)]
    exact h.cancelled
  · rw [hsame _ (by simp) (by simp)]
    exact h.passedOver
  · rw [hsame _ (by simp) (by simp)]
    exact h.dropped
  · rw [tasksOf_append, tasksOf_append, h.gone, hbefore, tasksOf_cons_of_ne task (by simp)]
    rfl

end Ledger

end TnsClient
