import Mathlib.Data.List.Basic
import Mathlib.Tactic.Lemma
import TnsClient.Proofs.Client.Run

set_option autoImplicit false

/-!
# What a step of a client can do

Many events come to few kinds of steps. This module lists the kinds, and shows once that every event
of every client comes to one of them; what is said of runs is then proved kind by kind, without
looking into the client again.

## Main definitions

* `TnsClient.Task.begin` — the task in flight as it is when it starts; it depends on the task and on
  the cursor that is kept for its text, and on nothing else.
* `TnsClient.InFlight.hear` — what a message brings for a task in flight.
* `TnsClient.Client.Alike` — two clients are at the same point of the exchange.
* `TnsClient.Client.SetupStep` — a request of the negotiation or of the logon is sent.
* `TnsClient.Client.Transition` — the kinds of steps.

## Main results

* `TnsClient.Client.start_eq` — starting a task, in one equation.
* `TnsClient.Client.react_transition` — every event comes to one of the kinds of steps.
-/

namespace TnsClient

/-! ## Starting a task -/

/-- A request with the open cursor of its text, unless it names one itself. -/
def StatementRequest.withEntry (request : StatementRequest) (entry : Option CachedStatement) :
    StatementRequest :=
  if request.cursor ≠ 0 then request
  else
    match entry with
    | none => request
    | some cached => { request with cursor := cached.cursor, columns := cached.columns }

/-- A request that is given the cursor of its text is for the same text. -/
lemma StatementRequest.withEntry_text (request : StatementRequest)
    (entry : Option CachedStatement) :
    (request.withEntry entry).sql = request.sql ∧
      (request.withEntry entry).kind = request.kind := by
  unfold withEntry
  split_ifs
  · exact ⟨rfl, rfl⟩
  · rcases entry with _ | cached <;> exact ⟨rfl, rfl⟩

/-- A request that has no cursor is given that of its text. -/
lemma StatementRequest.withEntry_cursor {request : StatementRequest} (hcursor : request.cursor = 0)
    (entry : Option CachedStatement) :
    (request.withEntry entry).cursor = (entry.map CachedStatement.cursor).getD 0 := by
  unfold withEntry
  rcases entry with _ | cached <;> simp [hcursor]

namespace Task

/-- The phase in which a task is in flight. -/
def phase : Task → Phase
  | close _ => .closing
  | _ => .inFlight

/-- A task as it is put in flight, where the cursor that is kept for its text is given. -/
def begin (entry : Option CachedStatement) : Task → InFlight
  | statement request handle =>
    { task := .statement (request.withEntry entry) handle
      result :=
        { cursor := (request.withEntry entry).cursor
          columns := (request.withEntry entry).columns } }
  | task => { task }

/-- The request that starts a task. -/
def request : Task → Request
  | ping _ => .ping
  | statement request _ => .statement request
  | lob request _ => .lob request
  | close _ => .logoff

/-- The phase of a task in flight is one of two. -/
lemma phase_cases (task : Task) : task.phase = .inFlight ∨ task.phase = .closing := by
  cases task <;> simp [phase]

@[simp] lemma begin_handles (entry : Option CachedStatement) (task : Task) :
    (task.begin entry).task.handles = task.handles := by
  cases task <;> rfl

@[simp] lemma begin_phase (entry : Option CachedStatement) (task : Task) :
    (task.begin entry).task.phase = task.phase := by
  cases task <;> rfl

end Task

namespace Client

/-- The cursor that is kept for the text of a task. -/
def entry (client : Client) : Task → Option CachedStatement
  | .statement request _ => client.statements.find? request.sql
  | _ => none

/-- The cursors that are kept once a task has looked for its own, which is then the one used
last. -/
def consulted (client : Client) : Task → StatementCache
  | .statement request _ =>
    if request.cursor ≠ 0 then client.statements else (client.statements.get? request.sql).2
  | _ => client.statements

/-- **Starting a task** in one equation. -/
lemma start_eq (client : Client) (task : Task) :
    client.start task =
      { client with
        statements := client.consulted task
        awaiting := true
        resetSent := false
        inFlight := some (task.begin (client.entry task))
        phase := task.phase : Client }.send (task.begin (client.entry task)).task.request := by
  cases task with
  | ping handles => rfl
  | lob request handle => rfl
  | close handle => rfl
  | statement request handle =>
    unfold start withCursor
    by_cases hcursor : request.cursor = 0
    · rcases hfind : client.statements.find? request.sql with _ | cached <;>
        simp [hcursor, hfind, StatementCache.get?, launch, expectAnswer, consulted, entry,
          Task.begin, Task.phase, Task.request, StatementRequest.withEntry]
    · simp [hcursor, launch, expectAnswer, consulted, Task.begin, Task.phase, Task.request,
        StatementRequest.withEntry]

/-! ## Taking the next task, and ending one -/

/-- What comes off the front when the next task is taken. -/
def front (client : Client) : TaskQueue.Front Task :=
  client.queue.popSkipping (Task.isAbandoned client.abandoned)

/-- The handles of tasks that are passed over, which learn that the connection is closed. -/
def passedOver (client : Client) : List Resolution :=
  client.front.skipped.flatMap fun task => task.fail .closed

/-- The client that has started a task from the front. -/
def launched (client : Client) (task : Task) : Client :=
  { client with
    queue := client.front.queue
    statements := client.consulted task
    awaiting := true
    resetSent := false
    inFlight := some (task.begin (client.entry task))
    lastRequest := some (task.begin (client.entry task)).task.request
    phase := task.phase }

/-- **Starting the next task**: either nobody waits, or the first task for which somebody waits is
launched. -/
lemma startNext_cases {client : Client} (hflight : client.inFlight = none)
    (hphase : client.phase = .ready ∨ client.phase = .inFlight) :
    (client.front.task = none ∧ client.startNext =
      { client := { client with queue := client.front.queue, phase := .ready }
        resolved := client.passedOver }) ∨
    ∃ task, client.front.task = some task ∧ client.startNext =
      { client := client.launched task
        action := .send (task.begin (client.entry task)).task.request
        resolved := client.passedOver } := by
  have hturn : ¬(client.isBusy = true ∨ client.phase ≠ .ready ∧ client.phase ≠ .inFlight) := by
    rcases hphase with hphase | hphase <;> simp [isBusy, hflight, hphase]
  unfold startNext
  rw [if_neg hturn]
  rcases htask : client.front.task with _ | task
  · left
    unfold front at htask
    simp [front, passedOver, htask]
  · right
    refine ⟨task, rfl, ?_⟩
    unfold front at htask
    simp [front, passedOver, launched, htask, start_eq, send, entry, consulted]

/-- Once the next task was to be started, what is left waits, and what was passed over is told. -/
lemma startNext_front {client : Client} (hflight : client.inFlight = none)
    (hphase : client.phase = .ready ∨ client.phase = .inFlight) :
    client.startNext.client.queue = client.front.queue ∧
      client.startNext.resolved = client.passedOver := by
  rcases startNext_cases hflight hphase with ⟨-, hstep⟩ | ⟨next, -, hstep⟩ <;> rw [hstep]
  · exact ⟨rfl, rfl⟩
  · exact ⟨rfl, rfl⟩

/-- Dealing with the cursor of a task touches the cursors that are kept and what there is to clean
up, and nothing else. -/
lemma settleCursor_eq (client : Client) (flight : InFlight) :
    ∃ statements cleanup, client.settleCursor flight = { client with statements, cleanup } := by
  unfold settleCursor
  rcases flight.task with handles | ⟨request, handle⟩ | ⟨request, handle⟩ | handle
  · exact ⟨_, _, rfl⟩
  · dsimp only
    split_ifs
    · exact ⟨_, _, rfl⟩
    · unfold keepCursor
      split_ifs
      · exact ⟨_, _, rfl⟩
      · exact ⟨_, _, rfl⟩
      · exact ⟨_, _, rfl⟩
  · exact ⟨_, _, rfl⟩
  · exact ⟨_, _, rfl⟩

/-- Behind the end of the session the connection is closed, and whoever waits is told so. -/
lemma finish_close (client : Client) {flight : InFlight} (htask : flight.task.phase = .closing) :
    client.finish flight =
      { client := { client with queue := client.queue.drain.2, phase := .closed }
        action := .close none
        resolved := flight.task.resolve flight.outcome ++
          client.queue.drain.1.flatMap fun task => task.fail .closed } := by
  unfold finish
  cases hclose : flight.task with
  | close handle => simp
  | _ => simp [hclose, Task.phase] at htask

/-- Behind any other task the next one is started. -/
lemma finish_of_inFlight (client : Client) {flight : InFlight}
    (htask : flight.task.phase = .inFlight) :
    client.finish flight =
      { (client.settleCursor flight).startNext with
        resolved := flight.task.resolve flight.outcome ++
          (client.settleCursor flight).startNext.resolved } := by
  unfold finish
  cases hclose : flight.task with
  | close handle => simp [hclose, Task.phase] at htask
  | _ => simp

/-- **The end of a task** in one equation each for its two kinds: behind the end of the session the
connection is closed, and behind any other task the next one is started. -/
lemma finish_cases (client : Client) (flight : InFlight) :
    (flight.task.phase = .inFlight ∧ ∃ statements cleanup, client.finish flight =
      { ({ client with statements, cleanup } : Client).startNext with
        resolved := flight.task.resolve flight.outcome ++
          ({ client with statements, cleanup } : Client).startNext.resolved }) ∨
    (flight.task.phase = .closing ∧ client.finish flight =
      { client := { client with queue := client.queue.drain.2, phase := .closed }
        action := .close none
        resolved := flight.task.resolve flight.outcome ++
          client.queue.drain.1.flatMap fun task => task.fail .closed }) := by
  rcases flight.task.phase_cases with hinFlight | hclosing
  · obtain ⟨statements, cleanup, hsettled⟩ := settleCursor_eq client flight
    exact .inl ⟨hinFlight, statements, cleanup, by rw [finish_of_inFlight _ hinFlight, hsettled]⟩
  · exact .inr ⟨hclosing, finish_close _ hclosing⟩

/-- Rows are fetched for statements only. -/
lemma fetch?_eq_some {flight : InFlight} {request : Request} (h : flight.fetch? = some request) :
    ∃ statement handle, flight.task = .statement statement handle ∧
      request = .fetch flight.result.cursor statement.options.arraySize flight.result.columns := by
  unfold InFlight.fetch? at h
  split at h
  · next statement handle hfailure htask =>
    split_ifs at h
    exact ⟨statement, handle, htask, (Option.some.inj h).symm⟩
  · cases h

end Client

/-! ## Listening -/

/-- The cursor that a message names, if it is an error block that names one. -/
def ServerMessage.cursor? : ServerMessage → Option UInt16
  | .error block => if block.cursor = 0 then none else some block.cursor
  | _ => none

namespace InFlight

/-- What a message brings for a task in flight. -/
def hear (flight : InFlight) : ServerMessage → InFlight
  | .error block => flight.record block
  | .warning block => { flight with result := { flight.result with warning := some block } }
  | .lobParameters parameters => flight.recordLob parameters
  | .description columns => { flight with result := { flight.result with columns := some columns } }
  | .row values => { flight with result := flight.result.push values }
  | .lobData octets => { flight with lobData := some (flight.lobData.getD [] ++ octets) }
  | _ => flight

end InFlight

lemma Client.record_task (flight : InFlight) (block : ErrorBlock) :
    (flight.record block).task = flight.task := by
  unfold InFlight.record
  dsimp only
  split_ifs <;> rfl

lemma InFlight.hear_task (flight : InFlight) (message : ServerMessage) :
    (flight.hear message).task = flight.task := by
  cases message with
  | error block => exact Client.record_task flight block
  | _ => rfl

/-- What is known of the cursor of a task in flight is what was named last. -/
lemma InFlight.hear_cursor (flight : InFlight) (message : ServerMessage) :
    (flight.hear message).result.cursor = message.cursor?.getD flight.result.cursor := by
  cases message with
  | error block =>
    unfold hear record ServerMessage.cursor?
    dsimp only
    by_cases hzero : block.cursor = 0 <;> split_ifs <;> simp_all
  | row values =>
    unfold hear QueryResult.push
    dsimp only
    split <;> rfl
  | _ => rfl

namespace Client

/-! ## Kinds of steps -/

/-- Two clients are at the same point of the exchange: they differ at most in what they know of the
session, in what there is to clean up and in whether a break was acknowledged. -/
structure Alike (one other : Client) : Prop where
  primitives : one.primitives = other.primitives
  credentials : one.credentials = other.credentials
  phase : one.phase = other.phase
  capabilities : one.capabilities = other.capabilities
  verifier : one.verifier = other.verifier
  awaiting : one.awaiting = other.awaiting
  lastRequest : one.lastRequest = other.lastRequest
  inFlight : one.inFlight = other.inFlight
  queue : one.queue = other.queue
  statements : one.statements = other.statements
  abandoned : one.abandoned = other.abandoned

lemma Alike.refl (client : Client) : client.Alike client := by constructor <;> rfl

/-- A request of the negotiation or of the logon is due, and this is the client that sends it. -/
inductive SetupStep (client : Client) : Client → Request → Prop
  /-- The transport is open. -/
  | connect (hphase : client.phase = .connecting) : SetupStep client client .connect
  /-- The listener has accepted the connection. -/
  | protocol (capabilities : Capabilities) (hphase : client.phase = .connecting) :
    SetupStep client { client with capabilities, phase := .protocolNegotiation }
      (.protocol capabilities)
  /-- The server has described itself. -/
  | dataTypes (capabilities : Capabilities) (hphase : client.phase = .protocolNegotiation) :
    SetupStep client { client with capabilities, phase := .dataTypeNegotiation }
      (.dataTypes capabilities)
  /-- The server has described its data types. -/
  | logonStart (hphase : client.phase = .dataTypeNegotiation) :
    SetupStep client (client.beginStep .one) (.logonStart client.credentials)
  /-- The server has sent what the proof is made of. -/
  | logonProof (verifier : Verifier) (random : RandomSource)
      (hphase : client.phase = .authenticating .one) (hawaiting : client.awaiting = true)
      (hseen : client.parametersSeen = true)
      (hverifier : Verifier.generate client.primitives client.credentials client.session
        client.random = (.ok verifier, random)) :
    SetupStep client
      ({ client with awaiting := false, verifier := some verifier, random : Client }.beginStep .two)
      (.logonProof client.credentials verifier)

/-- Whether a message ends the answer to a request: the end mark always does, a status or an error
block does unless ends are marked. -/
def endsAnswer (marked : Bool) : ServerMessage → Bool
  | .endOfResponse => true
  | .status _ | .error _ => !marked
  | _ => false

/-- An event brings nothing for a task in flight. -/
def Unheard (client : Client) (event : Event) : Prop :=
  ∀ message, event = .message message → client.phase.isLogon = false →
    ∀ flight, client.inFlight = some flight → flight.hear message = flight

/-- The kinds of steps. -/
inductive Transition (client : Client) : Event → Step → Prop
  /-- Nothing changes in the exchange. -/
  | quiet {event : Event} {other : Client} {action : Action} (hevent : ∀ task, event ≠ .submit task)
      (halike : client.Alike other) (haction : action = .wait ∨ action = .reset)
      (hseen : other.parametersSeen = true → client.parametersSeen = true ∨
        ∃ data, event = .message (.authParameters data) ∧ client.phase.isLogon = true)
      (hclosing : other.cleanup.cursors = client.cleanup.cursors ∨ other.cleanup.cursors = [])
      (hunheard : client.Unheard event) :
    Transition client event { client := other, action }
  /-- A caller stops waiting. -/
  | abandoned {handle : Handle} : Transition client (.abandon handle) (client.abandon handle).idle
  /-- The last request is sent again. -/
  | resent {request : Request} (hlast : client.lastRequest = some request) :
    Transition client (.message .resend) { client, action := .resend request }
  /-- A request of the negotiation or of the logon is sent. -/
  | setup {event : Event} {other : Client} {request : Request}
      (hevent : ∀ task, event ≠ .submit task) (hstep : client.SetupStep other request)
      (hopened : request = .connect → event = .opened) :
    Transition client event (other.send request)
  /-- The user is logged on. -/
  | established {message : ServerMessage} (hphase : client.phase = .authenticating .two)
      (hawaiting : client.awaiting = true) (hseen : client.parametersSeen = true)
      (hcheck : client.checkServer = .ok ()) :
    Transition client (.message message)
      { client :=
          { client with awaiting := false, verifier := none, lastRequest := none, phase := .ready }
        action := .established client.session }
  /-- A message has brought something for the task in flight. -/
  | heard {message : ServerMessage} {flight flight' : InFlight}
      (hflight : client.inFlight = some flight) (htask : flight'.task = flight.task)
      (hheard : flight' = flight.hear message) :
    Transition client (.message message) { client with inFlight := some flight' : Client }.idle
  /-- The connection cannot go on. Random octets may have been drawn before that was found out. -/
  | failed {event : Event} {error : ClientError} (random : RandomSource)
      (hevent : ∀ task, event ≠ .submit task)
      (hopen : ∀ message, event = .message message →
        endsAnswer client.capabilities.endOfResponse message = false ∨
          client.phase.isLogon = true) :
    Transition client event
      { client.fail error with client := { (client.fail error).client with random } }
  /-- The transport is gone. -/
  | lost : Transition client .lost client.lost
  /-- A task is not taken any more. -/
  | refused {task : Task} (hphase : client.phase.refusesTasks = true) :
    Transition client (.submit task) { client, resolved := task.fail .closed }
  /-- A ping joins the ping in flight. -/
  | joinedFlight {handles others : List Handle} {flight : InFlight}
      (hphase : client.phase.refusesTasks = false) (hflight : client.inFlight = some flight)
      (htask : flight.task = .ping others) :
    Transition client (.submit (.ping handles))
      { client with
        inFlight := some { flight with task := .ping (others ++ handles) } : Client }.idle
  /-- A ping joins a ping that waits. -/
  | joinedWaiting {handles others : List Handle} {id : TaskId}
      (hphase : client.phase.refusesTasks = false)
      (hwaiting : client.queue.find? Task.isPing = some (id, .ping others)) :
    Transition client (.submit (.ping handles))
      { client with queue := client.queue.replace id (.ping (others ++ handles)) : Client }.idle
  /-- A task waits behind the others. -/
  | waited {task : Task} (hphase : client.phase.refusesTasks = false)
      (halone : ∀ handles, task = .ping handles → client.joinPing? handles = none)
      (hnext : ¬(client.phase = .ready ∧ client.inFlight = none)) :
    Transition client (.submit task)
      { client with queue := (client.queue.push task).2 : Client }.idle
  /-- A task waits behind the others, and then the first of them is started. -/
  | served {task : Task}
      (halone : ∀ handles, task = .ping handles → client.joinPing? handles = none)
      (hphase : client.phase = .ready) (hflight : client.inFlight = none) :
    Transition client (.submit task)
      { client with queue := (client.queue.push task).2 : Client }.startNext
  /-- The first task is started. -/
  | turned (hflight : client.inFlight = none)
      (hphase : client.phase = .ready ∨ client.phase = .inFlight) :
    Transition client .next client.startNext
  /-- A task that waits is cancelled. -/
  | cancelled {id : TaskId} {task : Task} {queue : TaskQueue Task}
      (hremove : client.queue.remove id = some (task, queue)) :
    Transition client (.cancel id)
      { client := { client with queue }, resolved := task.fail .cancelled }
  /-- The answer to the task in flight is over, and more rows are fetched for it. -/
  | fetched {message : ServerMessage} {flight flight' : InFlight} {request : Request}
      (hflight : client.inFlight = some flight) (htask : flight'.task = flight.task)
      (hends : endsAnswer client.capabilities.endOfResponse message = true)
      (hfetch : flight'.fetch? = some request) (hheard : flight' = flight.hear message) :
    Transition client (.message message)
      ({ client with
        awaiting := true
        resetSent := false
        inFlight := some { flight' with moreRows := false } : Client }.send request)
  /-- The answer to the task in flight is over, and with it the task. -/
  | finished {message : ServerMessage} {flight flight' : InFlight}
      (hflight : client.inFlight = some flight) (htask : flight'.task = flight.task)
      (hends : endsAnswer client.capabilities.endOfResponse message = true)
      (hfetch : flight'.fetch? = none) (hheard : flight' = flight.hear message) :
    Transition client (.message message)
      ({ client with awaiting := false, inFlight := none : Client }.finish flight')

/-! ## Every event comes to one of them -/

section

variable {client : Client} {message : ServerMessage}

/-- A failure without any drawing. -/
lemma failed_transition {event : Event} {error : ClientError}
    (hevent : ∀ task, event ≠ .submit task)
    (hopen : ∀ message, event = .message message →
      endsAnswer client.capabilities.endOfResponse message = false ∨
        client.phase.isLogon = true) :
    client.Transition event (client.fail error) := by
  have hfailed := @Transition.failed _ _ error client.random hevent hopen
  have hkept : (client.fail error).client.random = client.random := by
    unfold fail failAll
    split_ifs <;> rfl
  rwa [← hkept] at hfailed

/-- A failure does not ask whether an answer was due. -/
lemma fail_awaiting (awaiting : Bool) (error : ClientError) (h : client.phase.isOver = false) :
    ({ client with awaiting } : Client).fail error = client.fail error := by
  simp [fail, failAll, pendingTasks, h]

/-- Nor does it ask how many octets were drawn. -/
lemma fail_drawn (awaiting : Bool) (random : RandomSource) (error : ClientError)
    (h : client.phase.isOver = false) :
    ({ client with awaiting, random } : Client).fail error =
      { client.fail error with client := { (client.fail error).client with random } } := by
  simp [fail, failAll, pendingTasks, h]

/-- A message that brings nothing for any task once the user is logged on. -/
lemma unheard_of_logon
    (hsilent : client.phase.isLogon = false → ∀ flight : InFlight, flight.hear message = flight) :
    client.Unheard (.message message) := by
  intro other hother hlogon flight _
  obtain rfl := Event.message.inj hother
  exact hsilent hlogon flight

lemma idle_transition {event : Event} (hevent : ∀ task, event ≠ .submit task)
    (hunheard : client.Unheard event) : client.Transition event client.idle :=
  .quiet hevent (Alike.refl client) (.inl rfl) .inl (.inl rfl) hunheard

/-- A message that ends no answer was not expected. -/
lemma unexpected_transition {error : ClientError}
    (hopen : endsAnswer client.capabilities.endOfResponse message = false) :
    client.Transition (.message message) (client.fail error) := by
  refine failed_transition (by simp) fun other hother => .inl ?_
  obtain rfl := Event.message.inj hother
  exact hopen

/-- The answer to a step of the logon is over. -/
lemma logonAnswered_transition {step : LogonStep} (hphase : client.phase = .authenticating step)
    (hawaiting : client.awaiting = true) :
    client.Transition (.message message) (client.logonAnswered step) := by
  unfold logonAnswered
  have hover : client.phase.isOver = false := by rw [hphase]; rfl
  have hlogon : client.phase.isLogon = true := by rw [hphase]; rfl
  by_cases hseen : client.parametersSeen = true
  swap
  · have hunheard : client.Unheard (.message message) := fun _ _ hother => by
      simp [hlogon] at hother
    simpa [hseen] using idle_transition (by simp) hunheard
  rw [if_neg (by simp [hseen])]
  cases step with
  | one =>
    unfold proveSelf
    dsimp only
    rcases hgenerate : Verifier.generate client.primitives client.credentials client.session
      client.random with ⟨error | verifier, random⟩
    · show client.Transition _ (({ client with awaiting := false, random } : Client).fail _)
      rw [fail_drawn false random _ hover]
      exact .failed random (by simp) fun _ _ => .inr hlogon
    · exact .setup (by simp) (.logonProof verifier random hphase hawaiting hseen hgenerate)
        (by simp)
  | two =>
    unfold finishLogon
    dsimp only
    rw [show ({ client with awaiting := false } : Client).checkServer = client.checkServer from rfl]
    rcases hcheck : client.checkServer with error | ⟨⟩
    · dsimp only
      rw [fail_awaiting false _ hover]
      exact failed_transition (by simp) fun _ _ => .inr hlogon
    · exact .established hphase hawaiting hseen hcheck

/-- What the end of an answer comes to, if to anything. -/
lemma answered_cases (client : Client) :
    client.answered = client.idle ∨
    (∃ step, client.phase = .authenticating step ∧ client.awaiting = true ∧
      client.answered = client.logonAnswered step) ∨
    ((client.phase = .inFlight ∨ client.phase = .closing) ∧ client.answered = client.complete) := by
  unfold answered
  cases hawaiting : client.awaiting
  · exact .inl rfl
  · cases hphase : client.phase with
    | authenticating step => exact .inr (.inl ⟨step, rfl, rfl, rfl⟩)
    | inFlight => exact .inr (.inr ⟨.inl rfl, rfl⟩)
    | closing => exact .inr (.inr ⟨.inr rfl, rfl⟩)
    | _ => exact .inl rfl

/-- A message has brought something for the task in flight, and with it the answer is over. -/
lemma answered_heard_transition {flight flight' : InFlight}
    (hflight : client.inFlight = some flight) (hheard : flight' = flight.hear message)
    (hlogon : client.phase.isLogon = false)
    (hends : endsAnswer client.capabilities.endOfResponse message = true) :
    client.Transition (.message message)
      ({ client with inFlight := some flight' } : Client).answered := by
  have htask : flight'.task = flight.task := hheard ▸ InFlight.hear_task flight message
  rcases answered_cases { client with inFlight := some flight' } with
    h | ⟨step, hphase, -, -⟩ | ⟨-, h⟩
  · rw [h]
    exact .heard hflight htask hheard
  · have hphase : client.phase = .authenticating step := hphase
    simp [hphase, Phase.isLogon] at hlogon
  · rw [h]
    unfold complete
    rcases hfetch : flight'.fetch? with _ | request
    · simpa [hfetch] using Transition.finished hflight htask hends hfetch hheard
    · simpa [hfetch, expectAnswer] using Transition.fetched hflight htask hends hfetch hheard

/-- An answer is over. -/
lemma answered_transition (hbusy : client.inFlight = none →
      client.phase ≠ .inFlight ∧ client.phase ≠ .closing)
    (hsilent : client.phase.isLogon = false → ∀ flight : InFlight, flight.hear message = flight)
    (hends : endsAnswer client.capabilities.endOfResponse message = true) :
    client.Transition (.message message) client.answered := by
  rcases answered_cases client with h | ⟨step, hphase, hawaiting, h⟩ | ⟨hphase, h⟩
  · rw [h]
    exact idle_transition (by simp) (unheard_of_logon hsilent)
  · rw [h]
    exact logonAnswered_transition hphase hawaiting
  · rcases hflight : client.inFlight with _ | flight
    · obtain ⟨hinFlight, hclosing⟩ := hbusy hflight
      exact absurd hphase (by simp [hinFlight, hclosing])
    · have hlogon : client.phase.isLogon = false := by
        rcases hphase with hphase | hphase <;> rw [hphase] <;> rfl
      have hsame : ({ client with inFlight := some flight } : Client) = client := by rw [← hflight]
      have hstep : client.Transition (.message message)
          ({ client with inFlight := some flight } : Client).answered :=
        answered_heard_transition hflight (hsilent hlogon flight).symm hlogon hends
      rwa [hsame] at hstep

/-- A message that is only of use to a task in flight has come. -/
lemma collect_transition {unexpected : Unexpected} {change : InFlight → InFlight}
    (hheard : ∀ flight, change flight = flight.hear message)
    (hopen : endsAnswer client.capabilities.endOfResponse message = false) :
    client.Transition (.message message) (client.collect unexpected change) := by
  unfold collect
  rcases hflight : client.inFlight with _ | flight
  · exact unexpected_transition hopen
  · exact .heard hflight (by rw [hheard, InFlight.hear_task]) (hheard flight)

/-- A message has come. -/
lemma handle_transition (hbusy : client.inFlight = none →
      client.phase ≠ .inFlight ∧ client.phase ≠ .closing) (message : ServerMessage) :
    client.Transition (.message message) (client.handle message) := by
  -- an error block or a status ends the answer unless ends are marked
  have hunless : ∀ m : ServerMessage,
      (client.phase.isLogon = false → ∀ flight : InFlight, flight.hear m = flight) →
      (client.capabilities.endOfResponse = false →
        endsAnswer client.capabilities.endOfResponse m = true) →
        client.Transition (.message m) client.answeredUnlessMarked := by
    intro m hsilent hends
    unfold answeredUnlessMarked
    cases hmarked : client.capabilities.endOfResponse
    · simpa [hmarked] using answered_transition hbusy hsilent (hends hmarked)
    · simpa [hmarked] using idle_transition (by simp) (unheard_of_logon hsilent)
  cases message with
  | accept accept =>
    show client.Transition _ (client.accepted accept)
    unfold accepted
    split_ifs with hphase hversion hflags
    · exact unexpected_transition rfl
    · exact unexpected_transition rfl
    · exact unexpected_transition rfl
    · exact .setup (by simp) (.protocol _ (by simpa using hphase)) (by simp)
  | refuse refusal => exact unexpected_transition rfl
  | redirect address => exact unexpected_transition rfl
  | marker kind =>
    show client.Transition _ (client.marker kind)
    unfold marker
    split_ifs with hbreak
    · exact .quiet (by simp) (by constructor <;> rfl) (.inr rfl) .inl (.inl rfl)
        (unheard_of_logon fun _ _ => rfl)
    · exact idle_transition (by simp) (unheard_of_logon fun _ _ => rfl)
  | control kind => exact idle_transition (by simp) (unheard_of_logon fun _ _ => rfl)
  | resend =>
    show client.Transition _ (client.resend)
    unfold resend
    rcases hlast : client.lastRequest with _ | request
    · exact unexpected_transition rfl
    · exact .resent hlast
  | serverInfo info =>
    show client.Transition _ (client.described info)
    unfold described
    split_ifs with hphase
    · exact unexpected_transition rfl
    · exact .setup (by simp) (.dataTypes _ (by simpa using hphase)) (by simp)
  | dataTypes =>
    show client.Transition _ (client.agreed)
    unfold agreed
    split_ifs with hphase
    · exact unexpected_transition rfl
    · exact .setup (by simp) (.logonStart (by simpa using hphase)) (by simp)
  | authParameters data =>
    show client.Transition _ (client.logonParameters data)
    unfold logonParameters
    split_ifs with hlogon
    · exact .quiet (by simp) (by constructor <;> rfl) (.inl rfl) (fun _ => .inr ⟨data, rfl, hlogon⟩)
        (.inl rfl) (unheard_of_logon fun _ _ => rfl)
    · exact unexpected_transition rfl
  | statementParameters keywords => exact collect_transition (fun _ => rfl) rfl
  | lobParameters parameters => exact collect_transition (fun _ => rfl) rfl
  | status status => exact hunless _ (fun _ _ => rfl) fun hmarked => by simp [endsAnswer, hmarked]
  | error block =>
    show client.Transition _ (client.errorBlock block)
    unfold errorBlock
    by_cases hlogon : client.phase.isLogon = true
    · rw [if_pos hlogon]
      split_ifs with hfailure
      · exact failed_transition (by simp) fun _ _ => .inr hlogon
      · exact hunless _ (fun hother => by simp [hother] at hlogon) fun hmarked => by
          simp [endsAnswer, hmarked]
    · rw [if_neg hlogon]
      rcases hflight : client.inFlight with _ | flight
      · exact idle_transition (by simp) fun _ _ _ flight hother => by simp [hflight] at hother
      · unfold answeredUnlessMarked
        cases hmarked : client.capabilities.endOfResponse
        · have hstep : client.Transition (.message (.error block))
              ({ client with inFlight := some (flight.record block) } : Client).answered :=
            answered_heard_transition hflight rfl (by simpa using hlogon)
              (by simp [endsAnswer, hmarked])
          simpa [hmarked] using hstep
        · simpa [hmarked] using Transition.heard hflight (record_task flight block) rfl
  | warning block =>
    show client.Transition _ (client.warning block)
    unfold warning
    rcases hflight : client.inFlight with _ | flight
    · exact .quiet (by simp) (by constructor <;> simp [hflight]) (.inl rfl) .inl (.inl rfl)
        fun _ _ _ flight hother => by simp [hflight] at hother
    · exact .heard hflight rfl rfl
  | description columns => exact collect_transition (fun _ => rfl) rfl
  | rowHeader => exact idle_transition (by simp) (unheard_of_logon fun _ _ => rfl)
  | bitVector => exact idle_transition (by simp) (unheard_of_logon fun _ _ => rfl)
  | row values => exact collect_transition (fun _ => rfl) rfl
  | lobData octets => exact collect_transition (fun _ => rfl) rfl
  | piggyback piggyback =>
    cases piggyback <;>
      exact .quiet (by simp) (by constructor <;> rfl) (.inl rfl) .inl (.inl rfl)
        (unheard_of_logon fun _ _ => rfl)
  | flushOutBinds => exact idle_transition (by simp) (unheard_of_logon fun _ _ => rfl)
  | endOfResponse => exact answered_transition hbusy (fun _ _ => rfl) rfl

/-- What a ping joins, if it joins one. -/
lemma joinPing?_cases {handles : List Handle} {joined : Client}
    (h : client.joinPing? handles = some joined) :
    (∃ flight others, client.inFlight = some flight ∧ flight.task = .ping others ∧
      joined =
        { client with inFlight := some { flight with task := .ping (others ++ handles) } }) ∨
    (∃ id others, client.queue.find? Task.isPing = some (id, .ping others) ∧
      joined = { client with queue := client.queue.replace id (.ping (others ++ handles)) }) := by
  have hjoin : ∀ {task task' : Task}, task.join? handles = some task' →
      ∃ others, task = .ping others ∧ task' = .ping (others ++ handles) := by
    intro task task' h
    cases task with
    | ping others => exact ⟨others, rfl, by simpa [Task.join?] using h.symm⟩
    | _ => simp [Task.join?] at h
  unfold joinPing? at h
  rw [Option.orElse_eq_orElse, Option.orElse_eq_or, Option.or_eq_some_iff] at h
  rcases h with h | ⟨-, h⟩
  · obtain ⟨flight, hflight, h⟩ := Option.bind_eq_some_iff.1 h
    obtain ⟨task, htask, h⟩ := Option.bind_eq_some_iff.1 h
    obtain ⟨others, hping, rfl⟩ := hjoin htask
    exact .inl ⟨flight, others, hflight, hping, by simpa using h.symm⟩
  · obtain ⟨⟨id, waiting⟩, hwaiting, h⟩ := Option.bind_eq_some_iff.1 h
    obtain ⟨task, htask, h⟩ := Option.bind_eq_some_iff.1 h
    obtain ⟨others, rfl, rfl⟩ := hjoin htask
    exact .inr ⟨id, others, hwaiting, by simpa using h.symm⟩

/-- A caller submits a task. -/
lemma submit_transition (task : Task) :
    client.Transition (.submit task) (client.submit task).step := by
  -- a task that joins no other waits, and may be served at once
  have hwait : client.phase.refusesTasks = false →
      (∀ handles, task = .ping handles → client.joinPing? handles = none) →
        client.Transition (.submit task) (client.wait task).step := by
    intro hphase halone
    unfold wait
    dsimp only
    split_ifs with hnext
    · exact .served halone hnext.1 (by simpa [isBusy] using hnext.2)
    · exact .waited hphase halone (by simpa [isBusy] using hnext)
  unfold submit
  cases hphase : client.phase.refusesTasks
  swap
  · simpa using Transition.refused hphase
  simp only [Bool.false_eq_true, if_false]
  cases task with
  | statement request handle => exact hwait hphase (by simp)
  | lob request handle => exact hwait hphase (by simp)
  | close handle => exact hwait hphase (by simp)
  | ping handles =>
    dsimp only
    rcases hjoin : client.joinPing? handles with _ | joined
    · exact hwait hphase (by simp [hjoin])
    · rcases joinPing?_cases hjoin with
        ⟨flight, others, hflight, htask, rfl⟩ | ⟨id, others, hwaiting, rfl⟩
      · exact .joinedFlight hphase hflight htask
      · exact .joinedWaiting hphase hwaiting

/-- **Every event** comes to one of the kinds of steps. -/
lemma react_transition (hbusy : client.inFlight = none →
      client.phase ≠ .inFlight ∧ client.phase ≠ .closing) (event : Event) :
    client.Transition event (client.react event) := by
  cases event with
  | opened =>
    show client.Transition _ client.opened
    unfold opened
    split_ifs with hphase
    · exact .setup (by simp) (.connect hphase) fun _ => rfl
    · exact idle_transition (by simp) (by simp [Unheard])
  | message message => exact handle_transition hbusy message
  | submit task => exact submit_transition task
  | cancel id =>
    show client.Transition _ (client.cancel id).2
    unfold cancel
    rcases hremove : client.queue.remove id with _ | ⟨task, queue⟩
    · exact idle_transition (by simp) (by simp [Unheard])
    · exact .cancelled hremove
  | next =>
    by_cases hturn : client.inFlight = none ∧ (client.phase = .ready ∨ client.phase = .inFlight)
    · exact .turned hturn.1 hturn.2
    · show client.Transition _ client.startNext
      unfold startNext
      rw [if_pos (by
        simp only [isBusy]
        rcases hflight : client.inFlight with _ | flight
        · exact .inr (by simpa [hflight] using hturn)
        · exact .inl rfl)]
      exact idle_transition (by simp) (by simp [Unheard])
  | fail error => exact failed_transition (by simp) (by simp)
  | lost => exact .lost
  | abandon handle => exact .abandoned
  | releaseLob locator =>
    exact .quiet (by simp) (by constructor <;> rfl) (.inl rfl) .inl (.inl rfl) (by simp [Unheard])
  | takeCleanup =>
    exact .quiet (by simp) (by constructor <;> rfl) (.inl rfl) .inl (.inr rfl) (by simp [Unheard])

end

end Client

end TnsClient
