import Mathlib.Data.List.DropRight
import TnsClient.Proofs.Client.Outcome

set_option autoImplicit false

/-!
# What error blocks decide

An answer may hold many error blocks, and a task may take many answers. The client keeps a failure,
a cursor and a flag beside the task in flight and changes them block by block. What this comes to
can be read off the messages themselves: a task fails with the last failure among them, and it asks
for more rows if the last block of the answer that is over does not say that there are none.

## Main definitions

* `TnsClient.lastSaid` — what the last of some messages says that says anything.
* `TnsClient.InFlight.more?`, `TnsClient.InFlight.calls?` — the request for more rows, as the
  messages call for it.
* `TnsClient.Moment.Decides` — what the end of an answer comes to for a task.

## Main results

* `TnsClient.InFlight.knows_of_listens` — what a task in flight knows is what the messages say.
* `TnsClient.Client.flies_between` — a task stays in flight as long as rows are fetched for it.
* `TnsClient.Client.blocks_decide_outcome` — error blocks decide over the outcome of every task, and
  over the requests that are sent for it.
-/

namespace TnsClient

/-! ## What messages say -/

/-- What the last of some messages says that says anything. -/
def lastSaid {α : Type} (read : ServerMessage → Option α) (messages : List ServerMessage) :
    Option α :=
  (messages.filterMap read).getLast?

namespace ServerMessage

/-- The error block that a message is. -/
def block? : ServerMessage → Option ErrorBlock
  | error block => some block
  | _ => none

/-- The failure that a message reports. -/
def failure? (message : ServerMessage) : Option ErrorBlock :=
  message.block?.filter ErrorBlock.isFailure

/-- The columns that a message describes. -/
def columns? : ServerMessage → Option (List Column)
  | description columns => some columns
  | _ => none

end ServerMessage

/-- Whether an answer leaves open that there are more rows: it has an error block, and the last one
does not end the rows. -/
def leavesRows (answer : List ServerMessage) : Bool :=
  (lastSaid ServerMessage.block? answer).any fun block => !block.endsRows

/-- The messages behind the last end of an answer. -/
def openAnswer (marked : Bool) (messages : List ServerMessage) : List ServerMessage :=
  messages.rtakeWhile fun message => !Client.endsAnswer marked message

/-- The request for more rows that is called for once an answer is over, where the messages that the
task has heard since it was put in flight are given, and those of this answer. The task has to be a
query that has not failed and has a cursor. -/
def InFlight.more? (begun : InFlight) (heard answer : List ServerMessage) : Option Request :=
  match begun.task with
  | .statement request _ =>
    let cursor := (lastSaid ServerMessage.cursor? heard).getD begun.result.cursor
    if lastSaid ServerMessage.failure? heard = none ∧ leavesRows answer ∧ request.kind.isQuery ∧
        cursor ≠ 0 then
      some (.fetch cursor request.options.arraySize
        ((lastSaid ServerMessage.columns? heard).or begun.result.columns))
    else none
  | _ => none

/-- The request for more rows that a moment calls for, where the moments are given that are between
the start of the task and this one. -/
def InFlight.calls? (begun : InFlight) (marked : Bool) (between : List Moment) (last : Moment) :
    Option Request :=
  begun.more? (messagesOf (between ++ [last]))
    (openAnswer marked (messagesOf between) ++ messagesOf [last])

/-- Nothing is sent for a task in flight, and it stays in flight, perhaps with more callers, unless
the connection is over. -/
def Moment.Spares (moment : Moment) (flight : InFlight) : Prop :=
  moment.asks = false ∧
    (moment.step.client.phase.isOver = true ∨
      ∃ flight', moment.step.client.inFlight = some flight' ∧ flight.task.Extends flight'.task)

/-- What the end of an answer comes to for a task in flight, where it is given what request for more
rows is called for, and which failure was reported. The request is sent, and nobody learns anything;
or, if there is none, the callers all learn of the failure, or that the task has succeeded if there
was none either. Whoever else learns anything then learns that the connection is closed, and at most
another task is started. -/
def Moment.Decides (moment : Moment) (flight : InFlight) (more? : Option Request)
    (failure? : Option ErrorBlock) : Prop :=
  match more? with
  | some request =>
    moment.step.action = .send request ∧ moment.step.resolved = [] ∧
      ∃ flight', moment.step.client.inFlight = some flight' ∧ flight'.task = flight.task
  | none =>
    (∀ request, moment.step.action = .send request → request.startsTask = true) ∧
      ∃ outcome others, moment.step.resolved = flight.task.resolve outcome ++ others ∧
        (∀ other ∈ others, other.outcome = .error .closed) ∧
        match failure? with
        | some block => outcome = .error (.server block)
        | none => ∃ reply, outcome = .ok reply

section

variable {α : Type} {read : ServerMessage → Option α} {marked : Bool}
  {messages : List ServerMessage} {message : ServerMessage}

/-- A message that says anything says it last. -/
@[simp] lemma lastSaid_concat :
    lastSaid read (messages ++ [message]) = (read message).or (lastSaid read messages) := by
  unfold lastSaid
  rw [List.filterMap_append, List.getLast?_append]
  cases hread : read message <;> simp [hread]

/-- Behind the end of an answer nothing has come. -/
lemma openAnswer_concat_of_ends (hends : Client.endsAnswer marked message = true) :
    openAnswer marked (messages ++ [message]) = [] := by
  simp [openAnswer, hends]

/-- A message that ends no answer belongs to the one that is open. -/
lemma openAnswer_concat_of_open (hopen : Client.endsAnswer marked message = false) :
    openAnswer marked (messages ++ [message]) = openAnswer marked messages ++ [message] := by
  simp [openAnswer, hopen]

end

/-- A block that ends the rows is no failure. -/
lemma ErrorBlock.isFailure_of_endsRows {block : ErrorBlock} (h : block.endsRows = true) :
    block.isFailure = false := by
  simp [isFailure, h]

namespace InFlight

/-! ## What a task in flight knows -/

/-- What a task in flight knows is what the messages say. Whether there are more rows only matters
as long as no failure was reported. -/
structure Knows (begun : InFlight) (heard answer : List ServerMessage) (flight : InFlight) :
    Prop where
  task : flight.task = begun.task
  failure : flight.failure = lastSaid ServerMessage.failure? heard
  cursor : flight.result.cursor =
    (lastSaid ServerMessage.cursor? heard).getD begun.result.cursor
  columns : flight.result.columns =
    (lastSaid ServerMessage.columns? heard).or begun.result.columns
  moreRows : flight.failure = none →
    flight.moreRows = (leavesRows answer && flight.canFetch flight.result.cursor)

variable {begun flight : InFlight} {heard answer : List ServerMessage} {marked : Bool}

/-- The failure of a task in flight is the one reported last. -/
lemma hear_failure (flight : InFlight) (message : ServerMessage) :
    (flight.hear message).failure = message.failure?.or flight.failure := by
  cases message with
  | error block =>
    show (flight.record block).failure = (Option.filter _ (some block)).or flight.failure
    rw [Option.filter_some]
    unfold record
    cases hends : block.endsRows
    · cases hfailure : block.isFailure <;> simp
    · simp [ErrorBlock.isFailure_of_endsRows hends]
  | _ => rfl

/-- What is known of the columns is what was described last. -/
lemma hear_columns (flight : InFlight) (message : ServerMessage) :
    (flight.hear message).result.columns = message.columns?.or flight.result.columns := by
  cases message with
  | error block =>
    show (flight.record block).result.columns = flight.result.columns
    unfold record
    dsimp only
    split_ifs <;> rfl
  | row values =>
    show (flight.result.push values).columns = flight.result.columns
    unfold QueryResult.push
    split <;> simp_all
  | _ => rfl

/-- As long as no failure was reported, the error block that came last says whether there are more
rows. -/
lemma hear_moreRows (flight : InFlight) (message : ServerMessage)
    (hnone : (flight.hear message).failure = none) :
    (flight.hear message).moreRows =
      match message.block? with
      | some block => !block.endsRows && flight.canFetch (flight.hear message).result.cursor
      | none => flight.moreRows := by
  cases message with
  | error block =>
    have hfailure : block.isFailure = false := by
      simpa [hear_failure, ServerMessage.failure?, ServerMessage.block?] using
        (Option.or_eq_none_iff.1 ((hear_failure flight (.error block)).symm.trans hnone)).1
    show (flight.record block).moreRows =
      (!block.endsRows && flight.canFetch (flight.record block).result.cursor)
    unfold record
    cases hends : block.endsRows
    · simp only [hfailure, Bool.false_eq_true, if_false]
      rfl
    · simp
  | _ => rfl

/-- A task that has only just been put in flight has heard nothing. -/
lemma knows_nil (hfailure : begun.failure = none) (hrows : begun.moreRows = false) :
    begun.Knows [] [] begun :=
  ⟨rfl, hfailure, rfl, rfl, fun _ => hrows⟩

/-- **One message**: a task in flight knows what it says from then on. -/
lemma Knows.hear (h : begun.Knows heard answer flight) (message : ServerMessage) :
    begun.Knows (heard ++ [message]) (answer ++ [message]) (flight.hear message) := by
  refine ⟨?_, ?_, ?_, ?_, fun hnone => ?_⟩
  · rw [hear_task, h.task]
  · rw [hear_failure, lastSaid_concat, h.failure]
  · rw [hear_cursor, lastSaid_concat, Option.getD_or, h.cursor]
  · rw [hear_columns, lastSaid_concat, Option.or_assoc, h.columns]
  · have hcan : ∀ cursor, (flight.hear message).canFetch cursor = flight.canFetch cursor := by
      intro cursor
      unfold canFetch
      rw [hear_task]
    have hflight : flight.failure = none :=
      (Option.or_eq_none_iff.1 ((hear_failure flight message).symm.trans hnone)).2
    rw [hear_moreRows flight message hnone, hcan, leavesRows, lastSaid_concat]
    cases hblock : message.block? with
    | some block => rfl
    | none =>
      -- only error blocks name cursors
      have hcursor : (flight.hear message).result.cursor = flight.result.cursor := by
        rw [hear_cursor]
        cases message <;> first | rfl | cases hblock
      rw [hcursor]
      exact h.moreRows hflight

/-- **All messages**: what a task in flight knows is what the messages say that it has listened to.
Whether there are more rows is left to the answer that is open. -/
lemma knows_of_listens (hfailure : begun.failure = none) (hrows : begun.moreRows = false)
    (h : heard.foldlM (listen marked) begun = .ok flight) :
    begun.Knows heard (openAnswer marked heard) flight := by
  induction heard using List.reverseRecOn generalizing flight with
  | nil =>
    obtain rfl : begun = flight := Except.ok.inj h
    exact knows_nil hfailure hrows
  | append_singleton heard message ih =>
    rw [List.foldlM_append] at h
    rcases hpast : heard.foldlM (listen marked) begun with outcome | flying <;> rw [hpast] at h
    · cases h
    have hlast : flying.listen marked message = .ok flight := (bind_pure _).symm.trans h
    have hknows := (ih hpast).hear message
    cases hends : Client.endsAnswer marked message
    · rw [listen_of_open hends] at hlast
      obtain rfl := Except.ok.inj hlast
      rwa [openAnswer_concat_of_open hends]
    · rw [openAnswer_concat_of_ends hends]
      simp only [listen, hends, if_true] at hlast
      split at hlast
      · obtain rfl := Except.ok.inj hlast
        exact ⟨hknows.task, hknows.failure, hknows.cursor, hknows.columns, fun _ => rfl⟩
      · cases hlast

/-- A task in flight asks for more rows exactly if the messages call for it. -/
lemma Knows.fetch? (h : begun.Knows heard answer flight) :
    flight.fetch? = begun.more? heard answer := by
  obtain ⟨htask, hfailure, hcursor, hcolumns, hrows⟩ := h
  unfold InFlight.fetch? more?
  rw [← htask, ← hfailure, ← hcursor, ← hcolumns]
  rcases hnone : flight.failure with _ | block
  · rw [hrows hnone]
    cases htask : flight.task with
    | statement request handle => simp [canFetch, htask]
    | _ => rfl
  · cases flight.task <;> simp

/-- A task fails with the failure that was reported last, and succeeds if there was none. -/
lemma Knows.outcome (h : begun.Knows heard answer flight) :
    match lastSaid ServerMessage.failure? heard with
    | some block => flight.outcome = .error (.server block)
    | none => ∃ reply, flight.outcome = .ok reply := by
  rw [← h.failure]
  unfold InFlight.outcome
  rcases flight.failure with _ | block
  · cases flight.task <;> exact ⟨_, rfl⟩
  · rfl

lemma more?_unclaimed (begun : InFlight) (heard answer : List ServerMessage) :
    begun.unclaimed.more? heard answer = begun.more? heard answer := by
  rcases begun with ⟨task, _, _, _, _, _⟩
  cases task <;> rfl

/-- A request for more rows starts no task. -/
lemma startsTask_of_more? {begun : InFlight} {request : Request}
    (h : begun.more? heard answer = some request) : request.startsTask = false := by
  unfold more? at h
  split at h
  · dsimp only at h
    split_ifs at h
    obtain rfl := Option.some.inj h
    rfl
  · cases h

/-- No more rows are called for once a failure was reported. -/
lemma more?_of_failure {block : ErrorBlock}
    (h : lastSaid ServerMessage.failure? heard = some block) (begun : InFlight)
    (answer : List ServerMessage) : begun.more? heard answer = none := by
  unfold more?
  split <;> simp [h]

end InFlight

namespace Client

/-! ## What the end of an answer comes to -/

/-- Starting the next task sends the request of a task, or nothing. -/
lemma startsTask_of_startNext {client : Client} (hflight : client.inFlight = none)
    (hphase : client.phase = .ready ∨ client.phase = .inFlight) :
    ∀ request, client.startNext.action = .send request → request.startsTask = true := by
  intro request hsend
  rcases startNext_cases hflight hphase with ⟨-, hstep⟩ | ⟨task, -, hstep⟩ <;> rw [hstep] at hsend
  · cases hsend
  · obtain rfl := Action.send.inj hsend
    exact Request.startsTask_begin _ task

/-- The end of an answer decides over the task in flight by what is known of it then. -/
lemma decides_of_knows {moment : Moment} {begun flight : InFlight} {message : ServerMessage}
    {heard answer : List ServerMessage} (hsound : moment.before.Sound)
    (hflight : moment.before.inFlight = some flight) (hevent : moment.event = .message message)
    (hends : endsAnswer moment.before.capabilities.endOfResponse message = true)
    (hknows : begun.unclaimed.Knows heard answer (flight.hear message).unclaimed) :
    moment.Decides flight (begun.more? heard answer)
      (lastSaid ServerMessage.failure? heard) := by
  have hstep : moment.step =
      ({ moment.before with inFlight := some (flight.hear message) } : Client).complete := by
    rw [Moment.step, hevent]
    exact handle_eq_complete hsound hflight hends
  have htask : (flight.hear message).task = flight.task := flight.hear_task message
  have hphase : moment.before.phase = (flight.hear message).task.phase := by
    rw [htask, hsound.busy flight hflight]
  have hfetch : (flight.hear message).fetch? = begun.more? heard answer := by
    rw [← InFlight.fetch?_unclaimed, hknows.fetch?, InFlight.more?_unclaimed]
  have houtcome := hknows.outcome
  simp only [InFlight.outcome_unclaimed] at houtcome
  unfold Moment.Decides
  rw [← hfetch, hstep]
  unfold complete
  rcases hnext : (flight.hear message).fetch? with _ | request <;> simp only [hnext]
  · rcases finish_cases { moment.before with awaiting := false, inFlight := none }
        (flight.hear message) with ⟨hinFlight, statements, cleanup, hfinish⟩ | ⟨-, hfinish⟩ <;>
      rw [hfinish, htask]
    · have hturn := hphase.trans hinFlight
      exact ⟨startsTask_of_startNext rfl (.inr hturn), _, _, rfl, startNext_closed rfl (.inr hturn),
        houtcome⟩
    · exact ⟨by simp, _, _, rfl, fun other => Task.outcome_of_mem_fail, houtcome⟩
  · exact ⟨rfl, rfl, _, rfl, htask⟩

/-- A moment that sends no request for a task starts none. -/
lemma starts_of_not_asks {moment : Moment} (h : moment.asks = false) : moment.starts = false := by
  unfold Moment.asks Action.asksTask at h
  unfold Moment.starts Action.startsTask
  split at h
  · next request hsend => cases request <;> simp_all [Request.isTask, Request.startsTask]
  · rfl

/-- As long as no answer comes to its end, nothing is asked for, and a task in flight stays so. -/
lemma spares_of_open {moment : Moment} {flight : InFlight} (hsound : moment.before.Sound)
    (hflight : moment.before.inFlight = some flight) (hopen : moment.answers = false) :
    moment.Spares flight := by
  have htransition := react_transition hsound.spare moment.event
  obtain ⟨hoccupied, hquiet⟩ := htransition.occupied hsound (.inl (by rw [hflight]; rfl))
    fun message hevent => by simpa [Moment.answers, hevent] using hopen
  have hasks : moment.asks = false := by
    unfold Moment.asks Action.asksTask
    split
    · next request hsend => exact hquiet request hsend
    · rfl
  refine ⟨hasks, ?_⟩
  rcases hoccupied with hinFlight | hover
  · obtain ⟨flight', hflight'⟩ := Option.isSome_iff_exists.1 hinFlight
    obtain ⟨flying, hflying, -, hextends, -⟩ :=
      react_listens hsound (starts_of_not_asks hasks) hflight'
    obtain rfl := Option.some.inj (hflying.symm.trans hflight)
    exact .inr ⟨flight', hflight', hextends⟩
  · exact .inl hover

section

variable {credentials : Credentials} {random : RandomSource} {cacheSize : Nat} {events : List Event}
  {past between rest : List Moment} {first last : Moment} {task : Task}

/-- What a moment comes to for the task in flight, as long as no other task was started. -/
lemma decides_between {flight : InFlight}
    (h : (new credentials random cacheSize).moments events =
      past ++ first :: (between ++ last :: rest))
    (hstarts : first.Starts task) (hbetween : ∀ moment ∈ between, moment.starts = false)
    (hflight : last.before.inFlight = some flight) :
    let client := first.step.client
    let begun := task.begin (client.entry task)
    begun.task.Extends flight.task ∧
      (last.answers = false → last.Spares flight) ∧
      (last.answers = true → last.Decides flight
        (begun.calls? client.capabilities.endOfResponse between last)
        (lastSaid ServerMessage.failure? (messagesOf (between ++ [last])))) := by
  intro client begun
  obtain ⟨hsound, hcapabilities, hextends, hlistens⟩ :=
    listens_between h hstarts hbetween hflight
  refine ⟨hextends, spares_of_open hsound hflight, fun hanswers => ?_⟩
  obtain ⟨message, hevent, hends⟩ := Moment.message_of_answers hanswers
  have hlast : messagesOf [last] = [message] := by simp [messagesOf, hevent, Event.message?]
  have hheard : messagesOf (between ++ [last]) = messagesOf between ++ [message] := by
    rw [← hlast]
    exact List.filterMap_append
  have hfresh : begun.unclaimed.failure = none ∧ begun.unclaimed.moreRows = false := by
    cases task <;> exact ⟨rfl, rfl⟩
  have hknows := (InFlight.knows_of_listens hfresh.1 hfresh.2 hlistens).hear message
  rw [InFlight.hear_unclaimed] at hknows
  unfold InFlight.calls?
  rw [hheard, hlast]
  exact decides_of_knows hsound hflight hevent hends hknows

/-- A task stays in flight over a moment that does not end the connection and, if it brings the end
of an answer, calls for more rows. -/
lemma flies_on {moment : Moment} {flight : InFlight} {request? : Option Request}
    {failure? : Option ErrorBlock} (hspares : moment.answers = false → moment.Spares flight)
    (hdecides : moment.answers = true → moment.Decides flight request? failure?)
    (hopen : moment.step.client.phase.isOver = false)
    (hmore : moment.answers = true →
      ∃ request, request? = some request ∧ request.startsTask = false) :
    moment.starts = false ∧ moment.step.client.inFlight.isSome = true := by
  cases hanswers : moment.answers
  · obtain ⟨hasks, hover | ⟨flight', hflight', -⟩⟩ := hspares hanswers
    · simp [hover] at hopen
    · exact ⟨starts_of_not_asks hasks, by rw [hflight']; rfl⟩
  · obtain ⟨request, rfl, hrequest⟩ := hmore hanswers
    obtain ⟨hsend, -, flight', hflight', -⟩ := hdecides hanswers
    refine ⟨?_, by rw [hflight']; rfl⟩
    rwa [Moment.starts, hsend]

/-- A task stays in flight as long as the connection is not over and every answer calls for more
rows; no other task is started then.

**Proof sketch.** Induction on the moments since. A moment that brings no end of an answer leaves
the task in flight, and one that does fetches more rows for it. -/
lemma flies_between
    (h : (new credentials random cacheSize).moments events =
      past ++ first :: (between ++ last :: rest))
    (hstarts : first.Starts task) (hopen : last.before.phase.isOver = false) :
    let client := first.step.client
    let begun := task.begin (client.entry task)
    (∀ front moment back, between = front ++ moment :: back → moment.answers = true →
      (begun.calls? client.capabilities.endOfResponse front moment).isSome = true) →
    (∀ moment ∈ between, moment.starts = false) ∧ last.before.inFlight.isSome = true := by
  intro client begun hmore
  induction between using List.reverseRecOn generalizing last rest with
  | nil =>
    rw [before_of_moments_eq h, hstarts.2]
    exact ⟨by simp, rfl⟩
  | append_singleton between moment ih =>
    rw [List.append_assoc, List.singleton_append] at h
    have hsplit : (new credentials random cacheSize).moments events =
        (past ++ first :: between) ++ moment :: last :: rest := by
      rw [h, List.append_assoc, List.cons_append]
    have hnext := before_of_moments_eq hsplit
    obtain ⟨hsound, htransition⟩ := transition_of_mem
      (hsplit ▸ List.mem_append_right _ List.mem_cons_self : moment ∈ _)
    rw [hnext] at hopen ⊢
    have hopen' : moment.before.phase.isOver = false := by
      by_contra hover
      rw [Bool.not_eq_false] at hover
      simp [htransition.isOver_of_over hsound hover] at hopen
    obtain ⟨hquiet, hflying⟩ := ih h hopen' fun front earlier back hsplit =>
      hmore front earlier (back ++ [moment]) (by rw [hsplit, List.append_assoc, List.cons_append])
    obtain ⟨flight, hflight⟩ := Option.isSome_iff_exists.1 hflying
    obtain ⟨-, hspares, hdecides⟩ := decides_between h hstarts hquiet hflight
    obtain ⟨hlast, hflies⟩ := flies_on hspares hdecides hopen fun hanswers => by
      obtain ⟨request, hrequest⟩ :=
        Option.isSome_iff_exists.1 (hmore between moment [] rfl hanswers)
      exact ⟨request, hrequest, InFlight.startsTask_of_more? hrequest⟩
    refine ⟨fun earlier hmem => ?_, hflies⟩
    rcases List.mem_append.1 hmem with hmem | hmem
    · exact hquiet earlier hmem
    · rwa [List.mem_singleton.1 hmem]

end

/-- **Error blocks decide the outcome.** Consider the moment at which a task is started, and any
later one.

* If no other task was started in between, and a task is in flight, it is this task, perhaps with
  more callers, if it is a ping. Unless the later moment brings the end of an answer, nothing is sent
  for the task, and it stays in flight, if the connection does.
* The end of an answer fetches more rows if, and only if, the messages since the start of the task
  call for it: the task is a query, no error block is a failure, the last error block of this answer
  does not end the rows, and the task has a cursor, be it named by an error block or kept for its
  text. One request is sent, with that cursor and the columns described last, and the task stays in
  flight. Otherwise the end of the answer is the end of the task: its callers all learn of the
  failure that was reported last, or that the task has succeeded if there was none.
* The task is in flight, and no other was started, if the connection is not over and every answer
  that has come to its end in between has called for more rows.

**Proof sketch.** What the client keeps beside the task are the last things that were said of its
failure, its cursor and its columns, and for the rows what the last block of the open answer says;
every message keeps this so, and what the end of an answer comes to is read off it. -/
theorem blocks_decide_outcome {credentials : Credentials} {random : RandomSource}
    {cacheSize : Nat} {events : List Event} {past between rest : List Moment}
    {first last : Moment} {task : Task}
    (h : (new credentials random cacheSize).moments events =
      past ++ first :: (between ++ last :: rest))
    (hstarts : first.Starts task) :
    let client := first.step.client
    let marked := client.capabilities.endOfResponse
    let begun := task.begin (client.entry task)
    ((∀ moment ∈ between, moment.starts = false) →
      ∀ flight, last.before.inFlight = some flight →
        begun.task.Extends flight.task ∧
          (last.answers = false → last.Spares flight) ∧
          (last.answers = true → last.Decides flight (begun.calls? marked between last)
            (lastSaid ServerMessage.failure? (messagesOf (between ++ [last]))))) ∧
      (last.before.phase.isOver = false →
        (∀ front moment back, between = front ++ moment :: back → moment.answers = true →
          (begun.calls? marked front moment).isSome = true) →
        (∀ moment ∈ between, moment.starts = false) ∧ last.before.inFlight.isSome = true) := by
  intro client marked begun
  exact ⟨fun hbetween flight hflight => decides_between h hstarts hbetween hflight,
    flies_between h hstarts⟩

/-- A query of which rows are fetched, and which then fails: its caller learns of the failure. -/
theorem blocks_decide_outcome_sample :
    let query : Task := .statement (.ofSql "select a from t" [] {}) 1
    let failure : ErrorBlock := { number := 942, cursor := 7 }
    let first : Moment := ⟨sample.after sampleLogon, .submit query⟩
    let second : Moment := ⟨first.step.client, .message (.error { cursor := 7 })⟩
    let last : Moment := ⟨second.step.client, .message (.error failure)⟩
    let flight : InFlight := { task := query, result := { cursor := 7 } }
    second.step.action = .send (.fetch 7 100 none) ∧ last.before.inFlight = some flight ∧
      last.Decides flight none (some failure) := by
  intro query failure first second last flight
  have h : sample.moments (sampleLogon ++ [first.event, second.event, last.event]) =
      sample.moments sampleLogon ++ first :: ([second] ++ last :: []) :=
    sample.moments_append sampleLogon [first.event, second.event, last.event]
  have hstarts : first.Starts query := ⟨by decide +kernel, by decide +kernel⟩
  have hbetween : ∀ moment ∈ [second], moment.starts = false := by
    rw [List.forall_mem_singleton]
    decide +kernel
  have hflight : last.before.inFlight = some flight := by decide +kernel
  have hanswers : last.answers = true := by decide +kernel
  have hdecides := ((blocks_decide_outcome h hstarts).1 hbetween flight hflight).2.2 hanswers
  have hsaid : lastSaid ServerMessage.failure? (messagesOf ([second] ++ [last])) = some failure := by
    decide +kernel
  refine ⟨by decide +kernel, hflight, ?_⟩
  rwa [InFlight.calls?, InFlight.more?_of_failure hsaid, hsaid] at hdecides

end Client

end TnsClient
