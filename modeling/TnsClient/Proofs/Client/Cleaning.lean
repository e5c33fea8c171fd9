import Mathlib.Data.List.Induction
import Mathlib.Data.List.Nodup
import TnsClient.Proofs.Client.Whereabouts

set_option autoImplicit false

/-!
# What there is to clean up

A client has cursors closed when a statement is done: the one that the statement has used, or one
that has to make room for it, or, behind a failure, whatever was kept for its text. Callers give
back temporary large objects. All of these wait until a request takes them along. Here it is told
event by event which of them come in, and nothing but a request that takes them lets them go.

## Main definitions

* `TnsClient.Cleanup.due` — what waits once some cursors were closed and some objects given back.
* `TnsClient.Client.done?` — the task that is done with an event.
* `TnsClient.Client.closes`, `TnsClient.Client.frees` — the cursors that are closed with an event,
  and the objects that are given back.

## Main results

* `TnsClient.Cleanup.due_cursors` — the cursors that are due were closed, and are due once.
* `TnsClient.Client.react_cleanup` — what an event brings that is to be cleaned up.
-/

namespace TnsClient

/-! ## What waits -/

namespace Cleanup

/-- **What is due** once some cursors were closed and some temporary large objects were given back:
each cursor once, in the order in which they came first, but for those that are none, and every
object. -/
def due (closed : List UInt16) (freed : List Bytes) : Cleanup where
  cursors := (closed.filter (· ≠ 0)).eraseDups
  lobs := freed
  lobSize := freed.flatten.length

/-- A cursor that comes in is one more, unless it is none or waits already. -/
lemma closeCursor_due (closed : List UInt16) (freed : List Bytes) (cursor : UInt16) :
    (due closed freed).closeCursor cursor = due (closed ++ [cursor]) freed := by
  unfold closeCursor due
  by_cases hzero : cursor = 0
  · simp [hzero]
  · have hone : ([cursor].filter (· ≠ 0)) = [cursor] := by simp [hzero]
    rw [List.filter_append, hone, List.eraseDups_append]
    by_cases hold : cursor ∈ closed
    · simp [hzero, hold, List.removeAll]
    · simp [hzero, hold, List.removeAll, List.eraseDups_cons]

lemma foldl_closeCursor_due (closed more : List UInt16) (freed : List Bytes) :
    more.foldl closeCursor (due closed freed) = due (closed ++ more) freed := by
  induction more generalizing closed with
  | nil => rw [List.append_nil]; rfl
  | cons cursor rest ih => rw [List.foldl_cons, closeCursor_due, ih, ← List.append_cons]

lemma freeLob_due (closed : List UInt16) (freed : List Bytes) (locator : Bytes) :
    (due closed freed).freeLob locator = due closed (freed ++ [locator]) := by
  simp [freeLob, due]

lemma foldl_freeLob_due (closed : List UInt16) (freed more : List Bytes) :
    more.foldl freeLob (due closed freed) = due closed (freed ++ more) := by
  induction more generalizing freed with
  | nil => rw [List.append_nil]; rfl
  | cons locator rest ih => rw [List.foldl_cons, freeLob_due, ih, ← List.append_cons]

/-- The cursors that are due are cursors, each once. -/
lemma due_cursors (closed : List UInt16) (freed : List Bytes) :
    (due closed freed).cursors.Nodup ∧ ∀ cursor,
      cursor ∈ (due closed freed).cursors ↔ cursor ∈ closed ∧ cursor ≠ 0 := by
  refine ⟨?_, fun cursor => by simp [due]⟩
  induction closed using List.reverseRecOn with
  | nil => exact List.nodup_nil
  | append_singleton closed cursor ih =>
    rw [← closeCursor_due]
    unfold closeCursor
    split_ifs with hknown
    · exact ih
    · have hnew : cursor ∉ (due closed freed).cursors := fun hmem => hknown (.inr hmem)
      refine List.nodup_append.2 ⟨ih, List.pairwise_singleton _ _, fun other hmem last hlast => ?_⟩
      rw [List.mem_singleton.1 hlast]
      exact ne_of_mem_of_not_mem hmem hnew

/-- There are fewer than `2 ^ 16` cursors. -/
lemma length_cursors_lt (closed : List UInt16) (freed : List Bytes) :
    (due closed freed).cursors.length < UInt32.size := by
  have hnodup : ((due closed freed).cursors.map UInt16.toNat).Nodup :=
    List.Nodup.map (fun _ _ => UInt16.toNat_inj.1) (due_cursors closed freed).1
  have hsubset : (due closed freed).cursors.map UInt16.toNat ⊆ List.range UInt16.size := by
    intro value hmem
    obtain ⟨cursor, -, rfl⟩ := List.mem_map.1 hmem
    exact List.mem_range.2 cursor.toNat_lt
  have hlength := (List.subperm_of_subset hnodup hsubset).length_le
  rw [List.length_map, List.length_range] at hlength
  exact Nat.lt_of_le_of_lt hlength (by decide)

end Cleanup

/-! ## What events bring -/

namespace Client

variable {client : Client} {flight : InFlight} {event : Event} {message : ServerMessage}

/-- The cursors that are closed when a task is done, in this order. Behind a failure these are the
cursor that is kept for the text of the statement and the one that it has used; and otherwise the
one that it has used, or, if that is kept, the one that it takes the place of. -/
def discards (client : Client) (flight : InFlight) : List UInt16 :=
  match flight.task with
  | .statement request _ =>
    let cursor := flight.result.cursor
    if flight.failure.isSome then (client.statements.remove request.sql).1.toList ++ [cursor]
    else if cursor = 0 then []
    else if request.kind.isCacheable then
      (client.statements.insert request.sql ⟨cursor, flight.result.columns⟩).1.toList
    else [cursor]
  | _ => []

/-- The task that is done with an event, with all that was heard for it: a message ends its answer,
and no more rows are fetched for it. -/
def done? (client : Client) : Event → Option InFlight
  | .message message => do
    let flight ← client.inFlight
    let heard := flight.hear message
    if endsAnswer client.capabilities.endOfResponse message && heard.fetch?.isNone then heard
    else none
  | _ => none

/-- The cursors that are closed with an event, in this order. -/
def closes (client : Client) (event : Event) : List UInt16 :=
  (client.done? event).elim [] client.discards

/-- The temporary large objects that are given back with an event. -/
def frees : Event → List Bytes
  | .releaseLob locator => [locator]
  | _ => []

/-- Where a task is done, the cursors that are closed come in. -/
lemma settleCursor_cleanup (client : Client) (flight : InFlight) :
    (client.settleCursor flight).cleanup =
      (client.discards flight).foldl Cleanup.closeCursor client.cleanup := by
  unfold settleCursor discards
  cases flight.task with
  | statement request handle =>
    dsimp only
    split_ifs
    · unfold dropCursor
      dsimp only
      rcases (client.statements.remove request.sql).1 with _ | cursor <;> rfl
    · unfold keepCursor
      rw [if_pos ‹_›]
      rfl
    · unfold keepCursor
      rw [if_neg ‹_›, if_pos ‹_›]
      dsimp only
      rcases (client.statements.insert request.sql
        ⟨flight.result.cursor, flight.result.columns⟩).1 with _ | cursor <;> rfl
    · unfold keepCursor
      rw [if_neg ‹_›, if_neg ‹_›]
      rfl
  | _ => rfl

lemma fail_cleanup (client : Client) (error : ClientError) :
    (client.fail error).client.cleanup = client.cleanup := by
  unfold fail
  split_ifs <;> rfl

lemma lost_cleanup (client : Client) : client.lost.client.cleanup = client.cleanup := by
  unfold lost
  split_ifs <;> rfl

lemma startNext_cleanup (client : Client) : client.startNext.client.cleanup = client.cleanup := by
  unfold startNext
  split_ifs
  · rfl
  · dsimp only
    split
    · rw [start_eq]
      rfl
    · rfl

lemma finish_cleanup (client : Client) (flight : InFlight) :
    (client.finish flight).client.cleanup =
      (client.discards flight).foldl Cleanup.closeCursor client.cleanup := by
  rw [← settleCursor_cleanup]
  rcases flight.task.phase_cases with hphase | hphase
  · rw [finish_of_inFlight _ hphase]
    exact startNext_cleanup _
  · rw [finish_close _ hphase]
    unfold settleCursor
    cases htask : flight.task with
    | close handle => rfl
    | _ => simp [htask, Task.phase] at hphase

lemma logonAnswered_cleanup (client : Client) (step : LogonStep) :
    (client.logonAnswered step).client.cleanup = client.cleanup := by
  unfold logonAnswered
  split_ifs
  · rfl
  · cases step with
    | one =>
      show Client.cleanup (proveSelf _).client = _
      unfold proveSelf
      dsimp only
      split
      · rw [fail_cleanup]
      · rfl
    | two =>
      show Client.cleanup (finishLogon _).client = _
      unfold finishLogon
      split
      · exact fail_cleanup _ _
      · rfl

/-- The end of an answer closes cursors only where a task is in flight. -/
lemma answered_cleanup_of_spare (hflight : client.inFlight = none) :
    client.answered.client.cleanup = client.cleanup := by
  rcases client.answered_cases with h | ⟨step, -, -, h⟩ | ⟨-, h⟩ <;> rw [h]
  · rfl
  · exact logonAnswered_cleanup client step
  · simp only [complete, hflight]
    rfl

/-- The end of an answer closes the cursors of the task in flight, if that is done. -/
lemma answered_cleanup (hflight : client.inFlight = some flight)
    (hawaiting : client.awaiting = true)
    (hphase : client.phase = .inFlight ∨ client.phase = .closing) :
    client.answered.client.cleanup =
      (if flight.fetch?.isNone then client.discards flight else []).foldl Cleanup.closeCursor
        client.cleanup := by
  have hanswered : client.answered = client.complete := by
    unfold answered
    rcases hphase with hphase | hphase <;> simp [hawaiting, hphase]
  rw [hanswered]
  unfold complete
  rcases hfetch : flight.fetch? with _ | request
  · simp only [hflight, hfetch]
    exact finish_cleanup { client with awaiting := false, inFlight := none } flight
  · simp only [hflight, hfetch]
    rfl

/-- A message that ends no answer closes nothing. -/
lemma closes_of_open (hopen : endsAnswer client.capabilities.endOfResponse message = false) :
    client.closes (.message message) = [] := by
  unfold closes done?
  rcases client.inFlight with _ | flight <;> simp [hopen]

lemma closes_of_spare (hflight : client.inFlight = none) (event : Event) :
    client.closes event = [] := by
  cases event <;> simp [closes, done?, hflight]

/-- A message that ends an answer closes the cursors of the task in flight, if that is done. -/
lemma closes_of_ends (hflight : client.inFlight = some flight)
    (hends : endsAnswer client.capabilities.endOfResponse message = true) :
    client.closes (.message message) =
      if (flight.hear message).fetch?.isNone then client.discards (flight.hear message)
      else [] := by
  simp only [closes, done?, hflight, hends, Bool.true_and]
  show Option.elim
    (if (flight.hear message).fetch?.isNone then some (flight.hear message) else none)
    [] client.discards = _
  split_ifs <;> rfl

/-- A message brings something for the task in flight, if there is one, and with it the answer is
over. -/
lemma answered_closes (message : ServerMessage) (hsound : client.Sound)
    (hends : endsAnswer client.capabilities.endOfResponse message = true) :
    let heard : Client :=
      { client with inFlight := client.inFlight.map fun flight => flight.hear message }
    heard.answered.client.cleanup =
      (client.closes (.message message)).foldl Cleanup.closeCursor client.cleanup := by
  rcases hflight : client.inFlight with _ | flight
  · rw [closes_of_spare hflight]
    exact answered_cleanup_of_spare rfl
  · obtain ⟨-, -, hawaiting⟩ := hsound.phase_of_inFlight hflight
    have hphase := flight.task.phase_cases
    rw [← hsound.busy flight hflight] at hphase
    rw [closes_of_ends hflight hends]
    let heard : Client := { client with inFlight := some (flight.hear message) }
    exact @answered_cleanup heard (flight.hear message) rfl hawaiting hphase

/-- An answer is over with a message that brings nothing. -/
lemma silent_closes (hsound : client.Sound)
    (hsilent : ∀ flight : InFlight, flight.hear message = flight)
    (hends : endsAnswer client.capabilities.endOfResponse message = true) :
    client.answered.client.cleanup =
      (client.closes (.message message)).foldl Cleanup.closeCursor client.cleanup := by
  have h := answered_closes message hsound hends
  simpa [hsilent] using h

/-- What is collected for a task in flight is nothing to be cleaned up. -/
lemma collect_cleanup (client : Client) (unexpected : Unexpected) (change : InFlight → InFlight) :
    (client.collect unexpected change).client.cleanup = client.cleanup := by
  unfold collect
  split
  · rfl
  · exact fail_cleanup _ _

/-- What a message brings that is to be closed. -/
lemma handle_cleanup (hsound : client.Sound) (message : ServerMessage) :
    (client.handle message).client.cleanup =
      (client.closes (.message message)).foldl Cleanup.closeCursor client.cleanup := by
  -- most messages end no answer
  have hopen : endsAnswer client.capabilities.endOfResponse message = false →
      (client.handle message).client.cleanup = client.cleanup →
        (client.handle message).client.cleanup =
          (client.closes (.message message)).foldl Cleanup.closeCursor client.cleanup := by
    intro hopen hsame
    rw [closes_of_open hopen]
    exact hsame
  cases message with
  | accept accept =>
    refine hopen rfl ?_
    show (client.accepted accept).client.cleanup = _
    unfold accepted
    split_ifs <;> first | exact fail_cleanup _ _ | rfl
  | refuse refusal => exact hopen rfl (fail_cleanup _ _)
  | redirect address => exact hopen rfl (fail_cleanup _ _)
  | marker kind =>
    refine hopen rfl ?_
    show (client.marker kind).client.cleanup = _
    unfold marker
    split_ifs <;> rfl
  | resend =>
    refine hopen rfl ?_
    show client.resend.client.cleanup = _
    unfold resend
    split
    · rfl
    · exact fail_cleanup _ _
  | serverInfo info =>
    refine hopen rfl ?_
    show (client.described info).client.cleanup = _
    unfold described
    split_ifs
    · exact fail_cleanup _ _
    · rfl
  | dataTypes =>
    refine hopen rfl ?_
    show client.agreed.client.cleanup = _
    unfold agreed
    split_ifs
    · exact fail_cleanup _ _
    · rfl
  | authParameters data =>
    refine hopen rfl ?_
    show (client.logonParameters data).client.cleanup = _
    unfold logonParameters
    split_ifs
    · rfl
    · exact fail_cleanup _ _
  | statementParameters | lobParameters | description | row | lobData =>
    exact hopen rfl (collect_cleanup _ _ _)
  | piggyback piggyback =>
    refine hopen rfl ?_
    cases piggyback <;> rfl
  | control | warning | rowHeader | bitVector | flushOutBinds => exact hopen rfl rfl
  | endOfResponse => exact silent_closes hsound (fun _ => rfl) rfl
  | status status =>
    show client.answeredUnlessMarked.client.cleanup = _
    unfold answeredUnlessMarked
    cases hmarked : client.capabilities.endOfResponse
    · exact silent_closes hsound (fun _ => rfl) (by simp [hmarked, endsAnswer])
    · rw [closes_of_open (by simp [hmarked, endsAnswer])]
      rfl
  | error block =>
    show (client.errorBlock block).client.cleanup = _
    unfold errorBlock answeredUnlessMarked
    rcases hflight : client.inFlight with _ | flight
    · rw [closes_of_spare hflight]
      dsimp only
      split_ifs
      · exact fail_cleanup _ _
      · rfl
      · exact answered_cleanup_of_spare hflight
      · rfl
    · obtain ⟨-, hlogon, -⟩ := hsound.phase_of_inFlight hflight
      rw [if_neg (by simp [hlogon])]
      dsimp only
      split_ifs with hmarked
      · rw [closes_of_open (by simp [hmarked, endsAnswer])]
        rfl
      · have hanswered := answered_closes (.error block) hsound
          (by simpa [endsAnswer] using hmarked)
        rw [hflight] at hanswered
        exact hanswered

/-- **What an event brings** that is to be cleaned up: the cursors that are closed with it, and the
objects that are given back. -/
theorem react_cleanup (hsound : client.Sound) (hevent : event ≠ .takeCleanup) :
    (client.react event).client.cleanup =
      (frees event).foldl Cleanup.freeLob
        ((client.closes event).foldl Cleanup.closeCursor client.cleanup) := by
  cases event with
  | message message => exact handle_cleanup hsound message
  | opened =>
    show client.opened.client.cleanup = client.cleanup
    unfold opened
    split_ifs <;> rfl
  | submit task =>
    show (client.submit task).step.client.cleanup = client.cleanup
    have hcases := client.submit_cases task
    generalize client.submit task = submission at hcases ⊢
    cases hcases with
    | served => exact startNext_cleanup _
    | _ => rfl
  | cancel id =>
    show (client.cancel id).2.client.cleanup = client.cleanup
    unfold cancel
    split <;> rfl
  | next => exact startNext_cleanup client
  | fail error => exact fail_cleanup client error
  | lost => exact lost_cleanup client
  | abandon handle | releaseLob locator => rfl
  | takeCleanup => exact absurd rfl hevent

end Client

end TnsClient
