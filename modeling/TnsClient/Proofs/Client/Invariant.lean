import TnsClient.Proofs.Client.Transition
import TnsClient.Proofs.Queue.Contents

set_option autoImplicit false

/-!
# What holds of a client at all times

The phase of a client tells whether a task is in flight and whether an answer is due, and once a
connection is over nothing waits on it. This is what one step keeps, and with it every run.

## Main definitions

* `TnsClient.Client.Sound` — phase, task in flight, queue and expected answer agree.

## Main results

* `TnsClient.Client.Transition.sound` — every kind of step keeps this.
* `TnsClient.Client.sound_after` — it holds of a new client after any events.
* `TnsClient.Client.transition_of_mem` — so every moment of a run is one of the kinds of steps.
-/

namespace TnsClient

/-- A connection that takes tasks is not over. -/
lemma Phase.not_isOver_of_takes {phase : Phase} (h : phase.refusesTasks = false) :
    phase.isOver = false := by
  cases phase <;> simp_all [Phase.isOver, Phase.refusesTasks]

namespace Client

/-- Phase, task in flight, queue and expected answer agree. -/
structure Sound (client : Client) : Prop where
  queue : client.queue.WellFormed
  busy : ∀ flight, client.inFlight = some flight → client.phase = flight.task.phase
  spare : client.inFlight = none → client.phase ≠ .inFlight ∧ client.phase ≠ .closing
  awaiting : client.awaiting = true ↔
    client.phase.isLogon = true ∨ client.inFlight.isSome = true
  ended : client.phase.isOver = true → client.queue.tasks = []

lemma sound_new (credentials : Credentials) (random : RandomSource) (cacheSize : Nat) :
    (new credentials random cacheSize).Sound where
  queue := TaskQueue.wellFormed_empty
  busy := by simp [new]
  spare := by simp [new]
  awaiting := by simp [new, Phase.isLogon]
  ended := by simp [new, Phase.isOver]

variable {client : Client}

/-! ## What the phase tells -/

/-- A task is in flight in two phases only. -/
lemma Sound.inFlight_eq_none (h : client.Sound) (hinFlight : client.phase ≠ .inFlight)
    (hclosing : client.phase ≠ .closing) : client.inFlight = none := by
  rcases hflight : client.inFlight with _ | flight
  · rfl
  · rw [h.busy flight hflight] at hinFlight hclosing
    rcases flight.task.phase_cases with hphase | hphase <;> simp [hphase] at hinFlight hclosing

/-- A connection that is over has nothing in flight. -/
lemma Sound.inFlight_of_over (h : client.Sound) (hover : client.phase.isOver = true) :
    client.inFlight = none :=
  h.inFlight_eq_none (fun hphase => by simp [hphase, Phase.isOver] at hover)
    fun hphase => by simp [hphase, Phase.isOver] at hover

/-- A connection with a task in flight is not over, and nobody logs on. -/
lemma Sound.phase_of_inFlight (h : client.Sound) {flight : InFlight}
    (hflight : client.inFlight = some flight) :
    client.phase.isOver = false ∧ client.phase.isLogon = false ∧ client.awaiting = true := by
  refine ⟨?_, ?_, h.awaiting.2 (.inr (by rw [hflight]; rfl))⟩ <;>
    · rw [h.busy flight hflight]
      rcases flight.task.phase_cases with hphase | hphase <;> rw [hphase] <;> rfl

/-- The next task can only be started by a client that is ready and waits for nothing. -/
lemma Sound.idle_of_turn (h : client.Sound) (hflight : client.inFlight = none)
    (hphase : client.phase = .ready ∨ client.phase = .inFlight) :
    client.phase = .ready ∧ client.awaiting = false := by
  have hready : client.phase = .ready := hphase.resolve_right (h.spare hflight).1
  have hawaiting := h.awaiting
  rw [hready, hflight] at hawaiting
  exact ⟨hready, by simpa [Phase.isLogon] using hawaiting⟩

/-! ## The steps that end a connection or start a task -/

/-- **Failing** gives up every task. -/
lemma fail_eq (error : ClientError) (hover : client.phase.isOver = false) :
    client.fail error =
      { client :=
          { client with
            awaiting := false
            inFlight := none
            queue := client.queue.drain.2
            phase := .errored }
        action := .close (some error)
        resolved := client.pendingTasks.flatMap fun task => task.fail error } := by
  simp [fail, hover, failAll]

lemma fail_of_over (error : ClientError) (hover : client.phase.isOver = true) :
    client.fail error = client.idle := by
  simp [fail, hover]

/-- **Losing the connection** gives up every task. -/
lemma lost_eq (hclosed : client.phase ≠ .closed) :
    client.lost =
      { client :=
          { client with
            awaiting := false
            inFlight := none
            queue := client.queue.drain.2
            phase := .closed }
        resolved := client.pendingTasks.flatMap fun task => task.fail .closed } := by
  simp [lost, hclosed, failAll]

lemma lost_of_closed (hclosed : client.phase = .closed) : client.lost = client.idle := by
  simp [lost, hclosed]

/-- A connection that has ended and whose queue is drained is sound. -/
lemma sound_drained (client : Client) (hqueue : client.queue.WellFormed)
    (hflight : client.inFlight = none) (hawaiting : client.awaiting = false) {phase : Phase}
    (hphase : phase.isOver = true) :
    ({ client with queue := client.queue.drain.2, phase } : Client).Sound := by
  obtain ⟨-, hempty, hdrained⟩ := TaskQueue.drain_tasks hqueue
  refine ⟨hdrained, by simp [hflight], ?_, ?_, fun _ => hempty⟩ <;>
    cases phase <;> simp_all [Phase.isOver, Phase.isLogon]

lemma sound_fail (h : client.Sound) (error : ClientError) : (client.fail error).client.Sound := by
  cases hover : client.phase.isOver
  · rw [fail_eq error hover]
    exact sound_drained { client with awaiting := false, inFlight := none } h.queue rfl rfl rfl
  · rw [fail_of_over error hover]
    exact h

lemma sound_lost (h : client.Sound) : client.lost.client.Sound := by
  by_cases hclosed : client.phase = .closed
  · rw [lost_of_closed hclosed]
    exact h
  · rw [lost_eq hclosed]
    exact sound_drained { client with awaiting := false, inFlight := none } h.queue rfl rfl rfl

/-- What comes off the front of a sound queue shares its tasks out. -/
lemma front_splits (hqueue : client.queue.WellFormed) :
    client.front.Splits (Task.isAbandoned client.abandoned) client.queue.tasks :=
  TaskQueue.popSkipping_splits hqueue _

/-- A client that has nothing in flight is sound once the next task is started. -/
lemma sound_startNext (hqueue : client.queue.WellFormed) (hflight : client.inFlight = none)
    (hawaiting : client.awaiting = false)
    (hphase : client.phase = .ready ∨ client.phase = .inFlight) :
    client.startNext.client.Sound := by
  have hsplits := front_splits hqueue
  rcases startNext_cases hflight hphase with ⟨-, hstep⟩ | ⟨task, -, hstep⟩ <;> rw [hstep]
  · refine ⟨hsplits.wellFormed, ?_, ?_, ?_, ?_⟩ <;>
      simp [hflight, hawaiting, Phase.isLogon, Phase.isOver]
  · refine ⟨hsplits.wellFormed, ?_, ?_, ?_, ?_⟩
    · simp [launched]
    · simp [launched]
    · simp [launched]
    · rcases task.phase_cases with hphase | hphase <;> simp [launched, hphase, Phase.isOver]

/-! ## Every step -/

/-- A client that is at the same point of the exchange is as sound. -/
lemma Alike.sound {other : Client} (h : client.Alike other) (hsound : client.Sound) :
    other.Sound := by
  obtain ⟨-, -, hphase, -, -, hawaiting, -, hflight, hqueue, -⟩ := h
  exact ⟨hqueue ▸ hsound.queue, by rw [← hphase, ← hflight]; exact hsound.busy,
    by rw [← hphase, ← hflight]; exact hsound.spare,
    by rw [← hphase, ← hflight, ← hawaiting]; exact hsound.awaiting,
    by rw [← hphase, ← hqueue]; exact hsound.ended⟩

/-- A request of the negotiation or of the logon is sent while nothing is in flight, and leaves
nothing in flight. -/
lemma SetupStep.frame {other : Client} {request : Request} (hsound : client.Sound)
    (h : client.SetupStep other request) :
    client.inFlight = none ∧ other.inFlight = none ∧ other.queue = client.queue ∧
      client.phase.isOver = false ∧ other.phase.isOver = false := by
  cases h with
  | connect hphase =>
    have hflight := hsound.inFlight_eq_none (by simp [hphase]) (by simp [hphase])
    exact ⟨hflight, hflight, rfl, by rw [hphase]; rfl, by rw [hphase]; rfl⟩
  | protocol _ hphase | dataTypes _ hphase | logonStart hphase | logonProof _ _ hphase =>
    have hflight := hsound.inFlight_eq_none (by simp [hphase]) (by simp [hphase])
    exact ⟨hflight, hflight, rfl, by rw [hphase]; rfl, rfl⟩

lemma SetupStep.sound {other : Client} {request : Request} (hsound : client.Sound)
    (h : client.SetupStep other request) : (other.send request).client.Sound := by
  obtain ⟨hflight, hflight', hqueue, -, hover⟩ := h.frame hsound
  have hawaiting := hsound.awaiting
  refine ⟨by simpa [send, hqueue] using hsound.queue, by simp [send, hflight'], fun _ => ?_, ?_,
    by simp [send, hover]⟩
  · cases h <;> simp_all [send, beginStep]
  · cases h <;> simp_all [send, beginStep, expectAnswer, Phase.isLogon]

/-- A queue that takes part in a sound client that is not over may be exchanged for another. -/
lemma Sound.withQueue {queue : TaskQueue Task} (h : client.Sound) (hqueue : queue.WellFormed)
    (hover : client.phase.isOver = true → queue.tasks = []) :
    ({ client with queue } : Client).Sound :=
  ⟨hqueue, h.busy, h.spare, h.awaiting, hover⟩

/-- The task in flight may be exchanged for another that is in flight in the same phase. -/
lemma Sound.withInFlight {flight flight' : InFlight} (h : client.Sound)
    (hflight : client.inFlight = some flight) (htask : flight'.task.phase = flight.task.phase) :
    ({ client with inFlight := some flight' } : Client).Sound := by
  have hawaiting := h.awaiting
  refine ⟨h.queue, ?_, by simp, by simp_all, h.ended⟩
  simpa [htask] using h.busy flight hflight

lemma Sound.withRandom (h : client.Sound) (random : RandomSource) :
    ({ client with random } : Client).Sound :=
  ⟨h.queue, h.busy, h.spare, h.awaiting, h.ended⟩

/-- **Every kind of step** keeps a client sound. -/
theorem Transition.sound {event : Event} {step : Step} (h : client.Transition event step)
    (hsound : client.Sound) : step.client.Sound := by
  cases h with
  | quiet _ halike => exact halike.sound hsound
  | abandoned => exact ⟨hsound.queue, hsound.busy, hsound.spare, hsound.awaiting, hsound.ended⟩
  | resent => exact hsound
  | setup _ hstep => exact hstep.sound hsound
  | established hphase hawaiting =>
    have hflight := hsound.inFlight_eq_none (by simp [hphase]) (by simp [hphase])
    exact ⟨hsound.queue, by simp [hflight], by simp, by simp [hflight, Phase.isLogon],
      by simp [Phase.isOver]⟩
  | heard hflight htask => exact hsound.withInFlight hflight (by rw [htask])
  | failed random => exact (sound_fail hsound _).withRandom random
  | lost => exact sound_lost hsound
  | refused => exact hsound
  | joinedFlight _ hflight htask => exact hsound.withInFlight hflight (by simp [htask, Task.phase])
  | joinedWaiting hphase hwaiting =>
    have hwaiting := TaskQueue.task?_of_find? hwaiting
    refine hsound.withQueue (TaskQueue.replace_wellFormed hsound.queue hwaiting _) fun hover => ?_
    simp [Phase.not_isOver_of_takes hphase] at hover
  | waited hphase =>
    refine hsound.withQueue (TaskQueue.push_wellFormed hsound.queue _) fun hover => ?_
    simp [Phase.not_isOver_of_takes hphase] at hover
  | served _ hphase hflight =>
    obtain ⟨-, hawaiting⟩ := hsound.idle_of_turn hflight (.inl hphase)
    exact sound_startNext (TaskQueue.push_wellFormed hsound.queue _) hflight hawaiting (.inl hphase)
  | turned hflight hphase =>
    obtain ⟨hready, hawaiting⟩ := hsound.idle_of_turn hflight hphase
    exact sound_startNext hsound.queue hflight hawaiting (.inl hready)
  | cancelled hremove =>
    refine hsound.withQueue (TaskQueue.remove_wellFormed hsound.queue hremove) fun hover => ?_
    have hperm := TaskQueue.remove_tasks hremove
    rw [hsound.ended hover] at hperm
    simp at hperm
  | @fetched _ _ flight' _ hflight htask =>
    have h : ({ client with inFlight := some { flight' with moreRows := false } } : Client).Sound :=
      hsound.withInFlight hflight (by rw [htask])
    exact ⟨h.queue, h.busy, h.spare, by simp [send], h.ended⟩
  | @finished _ flight flight' hflight htask =>
    have hphase : client.phase = flight'.task.phase := by rw [htask, hsound.busy flight hflight]
    rcases finish_cases { client with awaiting := false, inFlight := none } flight' with
      ⟨hinFlight, statements, cleanup, hstep⟩ | ⟨-, hstep⟩ <;> rw [hstep]
    · exact sound_startNext hsound.queue rfl rfl (.inr (hphase.trans hinFlight))
    · exact sound_drained { client with awaiting := false, inFlight := none } hsound.queue rfl rfl
        rfl

/-! ## Every run -/

/-- A sound client is sound after any events. -/
lemma Sound.after (h : client.Sound) (events : List Event) : (client.after events).Sound := by
  induction events generalizing client with
  | nil => exact h
  | cons event events ih => exact ih ((react_transition h.spare event).sound h)

/-- **A new client is sound** after any events. -/
theorem sound_after (credentials : Credentials) (random : RandomSource) (cacheSize : Nat)
    (events : List Event) : ((new credentials random cacheSize).after events).Sound :=
  (sound_new credentials random cacheSize).after events

/-- Every moment of a run finds a sound client, and is one of the kinds of steps. -/
lemma transition_of_mem {credentials : Credentials} {random : RandomSource} {cacheSize : Nat}
    {events : List Event} {moment : Moment}
    (h : moment ∈ (new credentials random cacheSize).moments events) :
    moment.before.Sound ∧ moment.before.Transition moment.event moment.step := by
  obtain ⟨past, rest, hsplit⟩ := List.append_of_mem h
  obtain ⟨earlier, -, -, -, hbefore, -⟩ := moments_eq_append hsplit
  have hsound : moment.before.Sound := hbefore ▸ sound_after credentials random cacheSize earlier
  exact ⟨hsound, react_transition hsound.spare moment.event⟩

end Client

end TnsClient
