import TnsClient.Client.Basic

set_option autoImplicit false

/-!
# Taking tasks and starting them

A task that is submitted waits behind those submitted before, and is started when it is at the front
and nothing is in flight. A ping joins a ping that is in flight or waits. A task whose callers have
all stopped waiting is passed over when its turn comes.

## Main definitions

* `TnsClient.Client.submit` — a caller submits a task.
* `TnsClient.Client.cancel` — a caller cancels a task that waits.
* `TnsClient.Client.startNext` — the next task is started.
-/

namespace TnsClient.Client

/-! ## Starting -/

/-- A request for a statement, with the open cursor of its text unless it has one. -/
def withCursor (client : Client) (request : StatementRequest) : StatementRequest × Client :=
  if request.cursor ≠ 0 then (request, client)
  else
    match client.statements.get? request.sql with
    | (none, statements) => (request, { client with statements })
    | (some cached, statements) =>
      ({ request with cursor := cached.cursor, columns := cached.columns },
        { client with statements })

/-- Puts a task in flight and sends its request. -/
def launch (client : Client) (task : Task) (result : QueryResult) (phase : Phase)
    (request : Request) : Step :=
  { client.expectAnswer with inFlight := some { task, result }, phase }.send request

/-- Starts a task. -/
def start (client : Client) (task : Task) : Step :=
  match task with
  | .ping _ => client.launch task {} .inFlight .ping
  | .statement request handle =>
    let (request, client) := client.withCursor request
    client.launch (.statement request handle)
      { cursor := request.cursor, columns := request.columns } .inFlight (.statement request)
  | .lob request _ => client.launch task {} .inFlight (.lob request)
  | .close _ => client.launch task {} .closing .logoff

/-- Starts the next task for which somebody waits, unless a task is in flight. Those passed over
are given up. -/
def startNext (client : Client) : Step :=
  if client.isBusy ∨ (client.phase ≠ .ready ∧ client.phase ≠ .inFlight) then client.idle
  else
    let front := client.queue.popSkipping (Task.isAbandoned client.abandoned)
    let skipped := front.skipped.flatMap fun task => task.fail .closed
    let client := { client with queue := front.queue }
    match front.task with
    | some task =>
      let step := client.start task
      { step with resolved := skipped ++ step.resolved }
    | none => { client := { client with phase := .ready }, resolved := skipped }

/-! ## Submitting and cancelling -/

/-- A ping joins the ping in flight. -/
def joinFlight? (client : Client) (handles : List Handle) : Option Client := do
  let flight ← client.inFlight
  let task ← flight.task.join? handles
  return { client with inFlight := some { flight with task } }

/-- A ping joins the first ping that waits. -/
def joinWaiting? (client : Client) (handles : List Handle) : Option Client := do
  let (id, waiting) ← client.queue.find? Task.isPing
  let task ← waiting.join? handles
  return { client with queue := client.queue.replace id task }

/-- A ping joins another one, if there is one. -/
def joinPing? (client : Client) (handles : List Handle) : Option Client :=
  client.joinFlight? handles <|> client.joinWaiting? handles

/-- What submitting a task comes to: its id as long as it waits, and the step. -/
structure Submission where
  /-- The id. -/
  id : Option TaskId
  /-- The step. -/
  step : Step

/-- Puts a task behind all others, and starts the next one if none is in flight. -/
def wait (client : Client) (task : Task) : Submission :=
  let (id, queue) := client.queue.push task
  let client := { client with queue }
  if client.phase = .ready ∧ !client.isBusy then ⟨none, client.startNext⟩
  else ⟨some id, client.idle⟩

/-- A caller submits a task. -/
def submit (client : Client) (task : Task) : Submission :=
  if client.phase.refusesTasks then
    ⟨none, { client, resolved := task.fail .closed }⟩
  else
    match task with
    | .ping handles =>
      match client.joinPing? handles with
      | some client => ⟨none, client.idle⟩
      | none => client.wait task
    | task => client.wait task

/-- A caller cancels a task; that succeeds as long as the task waits. -/
def cancel (client : Client) (id : TaskId) : Bool × Step :=
  match client.queue.remove id with
  | some (task, queue) =>
    (true, { client := { client with queue }, resolved := task.fail .cancelled })
  | none => (false, client.idle)

end TnsClient.Client
