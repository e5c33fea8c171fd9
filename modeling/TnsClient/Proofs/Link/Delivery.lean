import Mathlib.Data.List.DropRight
import TnsClient.Proofs.Link.Fragments
import TnsClient.Proofs.Link.Writing

set_option autoImplicit false

/-!
# How what there is to clean up is delivered

What there is to clean up waits for the next request of a task. That request takes along all of it,
in calls that are not answered, and then nothing waits. So what came in behind the request before is
what goes out, once: no other request takes anything along, and a request that is written once more
is what it was.

## Main definitions

* `TnsClient.Deed.closes`, `TnsClient.Deed.frees` — what comes in at a step.
* `TnsClient.Deed.unasked` — the steps behind the last one that sends a request of a task.
* `TnsClient.Cleanup.Complete`, `TnsClient.Deed.Delivers`, `TnsClient.Deed.Repeats` — what is to be
  cleaned up is neither more nor less than what came in, and is said to be; it is delivered when a
  request of a task is sent; and what is written once more.

## Main results

* `TnsClient.Link.run_due` — what waits behind a run.
* `TnsClient.Link.cleanup_delivered_once` — what there is to clean up is delivered once.
-/

namespace TnsClient

/-! ## What comes in -/

namespace Deed

/-- The cursors that are closed at a step, in this order. -/
def closes (deed : Deed) : List UInt16 := deed.event?.elim [] deed.before.client.closes

/-- The temporary large objects that are given back at a step. -/
def frees (deed : Deed) : List Bytes := deed.event?.elim [] Client.frees

/-- What is due behind some steps. -/
def due (deeds : List Deed) : Cleanup := .due (deeds.flatMap closes) (deeds.flatMap frees)

/-- The steps behind the last one that sends a request of a task. -/
def unasked (deeds : List Deed) : List Deed := deeds.rtakeWhile fun deed => !deed.asks

end Deed

/-- **What is to be cleaned up is complete**: the cursors are those that were closed, each once, but
for those that are none, and the objects are those that were given back, each as often. In the calls
that clean up as many come as are said to come, if the length of the locators can be said. -/
structure Cleanup.Complete (cleanup : Cleanup) (closed : List UInt16) (freed : List Bytes) :
    Prop where
  nodup : cleanup.cursors.Nodup
  cursors : ∀ cursor, cursor ∈ cleanup.cursors ↔ cursor ∈ closed ∧ cursor ≠ 0
  lobs : cleanup.lobs = freed
  closing : Decode.closedCursors.Reads (closeArguments cleanup.cursors)
    (cleanup.cursors.map UInt16.toUInt32)
  freeing : freed.flatten.length < UInt32.size →
    Decode.freedLocators.Reads (freeArguments cleanup.lobs cleanup.lobSize) freed.flatten

/-- What is due is complete. -/
lemma Cleanup.complete_due (closed : List UInt16) (freed : List Bytes) :
    (due closed freed).Complete closed freed where
  nodup := (due_cursors closed freed).1
  cursors := (due_cursors closed freed).2
  lobs := rfl
  closing := closeArguments_reads (length_cursors_lt closed freed)
  freeing := freeArguments_reads

namespace Client

/-- With a request of a task goes what waits, and with nothing else. -/
lemma after_follows_cleanup (client : Client) (action : Action) :
    (client.after action.follows).cleanup = if action.asksTask then {} else client.cleanup := by
  cases action with
  | send request =>
    rw [Action.follows_send]
    show _ = if request.isTask = true then _ else _
    split_ifs <;> rfl
  | close error => exact client.lost_cleanup
  | _ => rfl

end Client

/-! ## Single steps -/

namespace Deed

/-- **A step delivers** what is due: the cursors that are closed at the step come in one after the
other, and then the objects that are given back. Where a request of a task is sent, what is due goes
in front of the call that is answered, and nothing waits afterwards. All other calls are answered,
and what is due waits. Where there are calls, they are what is written, each with its number. -/
structure Delivers (deed : Deed) (due : Cleanup) : Prop where
  gathers : deed.step.client.cleanup =
    deed.frees.foldl Cleanup.freeLob
      (deed.closes.foldl Cleanup.closeCursor deed.before.client.cleanup)
  asking : deed.asks = true →
    (∃ call, call.kind = MessageKind.function ∧ deed.calls = due.calls ++ [call]) ∧
      deed.after.client.cleanup = {}
  waiting : deed.asks = false →
    (∀ call ∈ deed.calls, call.kind = MessageKind.function) ∧ deed.after.client.cleanup = due
  octets : deed.calls ≠ [] →
    deed.octets = [deed.before.encoder.capabilities.packets
      (deed.numbered.flatMap fun entry => deed.before.encoder.callOctets entry.2 entry.1)]

/-- **A step repeats** the last request: there is no call, what waits goes on waiting, and what is
written are the packets that were written last for a request. -/
structure Repeats (deed : Deed) (requests : List Bytes) : Prop where
  calls : deed.calls = []
  waits : deed.after.client.cleanup = deed.before.client.cleanup
  octets : ∃ packets, requests.getLast? = some packets ∧ deed.octets = [packets]

end Deed

namespace Link

variable {link : Link} {deed : Deed}

/-- What befalls a link never is that what waits is taken. -/
lemma event?_ne_takeCleanup (link : Link) (occurrence : Occurrence) {event : Event}
    (hevent : link.event? occurrence = some event) : event ≠ .takeCleanup := by
  rintro rfl
  unfold event? at hevent
  cases occurrence with
  | command command =>
    cases command with
    | submit ticket task => cases hevent
    | cancel ticket =>
      dsimp only at hevent
      split_ifs at hevent
      obtain ⟨_, -, heq⟩ := Option.map_eq_some_iff.1 hevent
      cases heq
    | releaseLob locator =>
      dsimp only at hevent
      split_ifs at hevent
      cases hevent
  | ended =>
    cases hstage : link.stage <;> simp [hstage] at hevent
  | abandoned handle => cases hevent
  | _ =>
    dsimp only at hevent
    split_ifs at hevent
    cases hevent

/-- The client behind a step is that of the step, once what it wants is done. -/
lemma Orderly.after_client (h : deed.before.Orderly) :
    deed.after.client = deed.step.client.after deed.action.follows := by
  have htold := (h.befall deed.occurrence).client
  rw [deed.action_eq]
  unfold Deed.step Deed.event?
  unfold events at htold
  rcases hevent : deed.before.event? deed.occurrence with _ | event
  all_goals
    rw [hevent] at htold
    exact htold

/-- What comes in at a step. -/
lemma Orderly.gathers (h : deed.before.Orderly) :
    deed.step.client.cleanup =
      deed.frees.foldl Cleanup.freeLob
        (deed.closes.foldl Cleanup.closeCursor deed.before.client.cleanup) := by
  unfold Deed.step Deed.frees Deed.closes
  rcases hevent : deed.event? with _ | event
  · rfl
  · exact Client.react_cleanup h.sound (deed.before.event?_ne_takeCleanup _ hevent)

/-- **What a step delivers** is what was due in front of it and what comes in. -/
theorem Orderly.delivers (h : deed.before.Orderly) {earlier : List Deed}
    (hdue : deed.before.client.cleanup = Deed.due earlier) :
    deed.Delivers (Deed.due (earlier ++ [deed])) := by
  have hstep : deed.step.client.cleanup = Deed.due (earlier ++ [deed]) := by
    rw [h.gathers, hdue, Deed.due, Cleanup.foldl_closeCursor_due, Cleanup.foldl_freeLob_due]
    simp [Deed.due]
  have hafter : deed.after.client.cleanup =
      if deed.asks then {} else Deed.due (earlier ++ [deed]) := by
    rw [h.after_client, Client.after_follows_cleanup, hstep]
    rfl
  refine ⟨h.gathers, fun hasks => ?_,
    fun hwaits => ⟨?_, by rw [hafter, if_neg (by simp [hwaits])]⟩, Deed.octets_of_calls⟩
  · obtain ⟨request, haction, htask⟩ :
        ∃ request, deed.action = .send request ∧ request.isTask = true := by
      unfold Deed.asks at hasks
      cases haction : deed.action with
      | send request => exact ⟨request, rfl, by simpa [haction, Action.asksTask] using hasks⟩
      | _ => simp [haction, Action.asksTask] at hasks
    obtain ⟨call, hcall, hkind⟩ :=
      Request.exists_function htask deed.before.encoder.capabilities
    refine ⟨⟨call, hkind, ?_⟩, by rw [hafter, if_pos hasks]⟩
    simp only [Deed.calls, haction, Request.calls, htask, hcall, hstep, if_true,
      Option.toList_some]
  · intro call hmem
    unfold Deed.calls at hmem
    cases haction : deed.action with
    | send request =>
      have htask : request.isTask = false := by
        simpa [Deed.asks, haction, Action.asksTask] using hwaits
      rw [haction] at hmem
      simp only [Request.calls, htask, Bool.false_eq_true, if_false, List.nil_append,
        Option.mem_toList] at hmem
      exact Request.function?_kind hmem
    | _ => simp [haction] at hmem

/-! ## Runs -/

/-- **What waits behind a run** is what has come in since a request of a task was sent. -/
theorem run_due (options : ConnectOptions) (random : RandomSource)
    (occurrences : List Occurrence) :
    ((connect options random).run occurrences).client.cleanup =
      Deed.due (Deed.unasked ((connect options random).deeds occurrences)) := by
  induction occurrences using List.reverseRecOn with
  | nil => rfl
  | append_singleton earlier occurrence ih =>
    let deed : Deed := ⟨(connect options random).run earlier, occurrence⟩
    have horderly := ((orderly_connect options random).run earlier).orderly
    have hdelivers := @Orderly.delivers deed horderly _ ih
    rw [run_concat, deeds_concat]
    show deed.after.client.cleanup = Deed.due (Deed.unasked (_ ++ [deed]))
    unfold Deed.unasked at hdelivers ⊢
    rw [List.rtakeWhile_concat]
    cases hasks : deed.asks <;> simp only [Bool.not_false, Bool.not_true, Bool.false_eq_true,
      if_true, if_false]
    · exact (hdelivers.waiting hasks).2
    · exact (hdelivers.asking hasks).2

/-- The requests of a run are remembered one after the other. -/
lemma run_remembers (options : ConnectOptions) (random : RandomSource)
    (occurrences : List Occurrence) :
    let start := connect options random
    (start.run occurrences).lastRequest =
      (start.written ++ (start.deeds occurrences).filterMap Deed.request?).getLast? := by
  intro start
  rw [@Orderly.run_lastRequest start (orderly_connect options random) 0 rfl occurrences,
    List.getLast?_append]
  rfl

/-- **What there is to clean up is delivered once.** Say that a link asks for a connection. At each
step of a run that sends a request of a task, the request takes along what has come in since the
last such request, this step included: each cursor that was closed, once, and each temporary large
object that was given back. They go in calls of their own, in front of the call that is answered,
with as many cursors and octets of locators as are said to come, and nothing waits afterwards. At
all other steps what has come in waits, and all calls are answered. A request that is written once
more makes no calls and takes nothing along: it is octet by octet what was written before. All that
is written is what the steps write. Throughout the run the numbers of the calls are 1 to 255 over
and over.

**Proof sketch.** By induction on the run what waits is what is due behind the steps since a request
of a task was sent; so is what a step delivers. What is written, and the numbers, follow from what a
single step writes, since the first call of each request has the number behind the last one. -/
theorem cleanup_delivered_once (options : ConnectOptions) (random : RandomSource)
    (occurrences : List Occurrence) :
    let start := connect options random
    let deeds := start.deeds occurrences
    (∀ past deed rest, deeds = past ++ deed :: rest →
      let recent := Deed.unasked past ++ [deed]
      (Deed.due recent).Complete (recent.flatMap Deed.closes) (recent.flatMap Deed.frees) ∧
        deed.Delivers (Deed.due recent) ∧
        ∀ request, deed.action = .resend request →
          deed.Repeats (start.written ++ past.filterMap Deed.request?)) ∧
      (start.run occurrences).written = start.written ++ deeds.flatMap Deed.octets ∧
      (deeds.flatMap Deed.numbered).map Prod.snd = deeds.flatMap Deed.calls ∧
      (deeds.flatMap Deed.numbered).map Prod.fst =
        (List.range (deeds.flatMap Deed.calls).length).map callNumber ∧
      ∀ entry ∈ deeds.flatMap Deed.numbered, entry.1 ≠ 0 := by
  intro start deeds
  have horderly : start.Orderly := orderly_connect options random
  obtain ⟨hwritten, hnumbered⟩ := @Orderly.run_writes start horderly 0 rfl occurrences
  have hfst : (deeds.flatMap Deed.numbered).map Prod.fst =
      (List.range (deeds.flatMap Deed.calls).length).map callNumber := by
    rw [hnumbered, numberCalls_fst, List.range_eq_range']
  refine ⟨fun past deed rest hsplit => ?_, hwritten, ?_, hfst, fun entry hmem => ?_⟩
  · obtain ⟨earlier, later, -, rfl, hbefore, -⟩ := deeds_eq_append hsplit
    have hnow : deed.before.Orderly := by
      rw [hbefore]
      exact (horderly.run earlier).orderly
    have hdue : deed.before.client.cleanup = Deed.due (Deed.unasked (start.deeds earlier)) := by
      rw [hbefore]
      exact run_due options random earlier
    refine ⟨Cleanup.complete_due _ _, hnow.delivers hdue, fun request haction => ?_⟩
    obtain ⟨hclient, packets, hpackets⟩ := hnow.resends haction
    have hlast : deed.before.lastRequest = _ :=
      (congrArg Link.lastRequest hbefore).trans (run_remembers options random earlier)
    refine ⟨by simp [Deed.calls, haction], ?_, packets, hlast.symm.trans hpackets, ?_⟩
    · rw [hnow.after_client, Client.after_follows_cleanup, haction, hclient]
      rfl
    · simp [Deed.octets, haction, hpackets]
  · rw [hnumbered, numberCalls_snd]
  · have hnumber : entry.1 ∈ (deeds.flatMap Deed.numbered).map Prod.fst :=
      List.mem_map_of_mem hmem
    rw [hfst] at hnumber
    obtain ⟨position, -, heq⟩ := List.mem_map.1 hnumber
    exact heq ▸ callNumber_ne_zero position

/-- A logon and a statement that fails and leaves a cursor behind; then a temporary large object is
given back, and a ping is sent. -/
def sampleCleanups : List Occurrence :=
  sampleEstablished ++
    [.command (.submit 1 (.statement (.ofSql "select b from t" [] {}) 11)),
      .message (.error { number := 942, cursor := 9 }), .command (.releaseLob [1, 2, 3]),
      .command (.submit 2 (.ping [12]))]

/-- The ping takes along the cursor and the object. -/
theorem cleanup_delivered_once_sample :
    let past := sample.deeds (sampleCleanups.take 11)
    let deed : Deed := ⟨sample.run (sampleCleanups.take 11), .command (.submit 2 (.ping [12]))⟩
    sample.deeds sampleCleanups = past ++ deed :: [] ∧ deed.asks = true ∧
      deed.numbered.map Prod.fst = [4, 5, 6] ∧
      (∃ call, call.kind = MessageKind.function ∧
        deed.calls = [.piggyback FunctionCode.closeCursors (Cleanup.closeArguments [9]),
          .piggyback FunctionCode.lob (Cleanup.freeArguments [[1, 2, 3]] 3), call]) ∧
      deed.after.client.cleanup = {} := by
  intro past deed
  have hsplit : sample.deeds sampleCleanups = past ++ deed :: [] :=
    deeds_concat sample (sampleCleanups.take 11) (.command (.submit 2 (.ping [12])))
  have hasks : deed.asks = true := by decide +kernel
  have hnumbers : deed.numbered.map Prod.fst = [4, 5, 6] := by decide +kernel
  have hdue : Deed.due (Deed.unasked past ++ [deed]) = ⟨[9], [[1, 2, 3]], 3⟩ := by decide +kernel
  have hdelivered := (cleanup_delivered_once _ _ sampleCleanups).1 past deed [] hsplit
  obtain ⟨⟨call, hkind, hcalls⟩, hcleared⟩ := hdelivered.2.1.asking hasks
  rw [hdue] at hcalls
  exact ⟨hsplit, hasks, hnumbers, ⟨call, hkind, hcalls⟩, hcleared⟩

end Link

end TnsClient
