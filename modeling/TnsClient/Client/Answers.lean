import TnsClient.Client.Logon
import TnsClient.Client.Tasks
import TnsClient.Encoder.Session
import TnsClient.Message.ServerMessage

set_option autoImplicit false

/-!
# Answers

An answer is a run of messages. What they bring is collected with the task in flight, until the
answer is over: at its end mark if the server marks ends, and otherwise at a status or an error
block. Then the task is resolved, or more rows are fetched for it, or, during logon, the next step
is taken.

## Main definitions

* `TnsClient.InFlight.record` — an error block for the task in flight.
* `TnsClient.Client.complete` — the answer to the task in flight is over.
* `TnsClient.Client.handle` — a message has come.
-/

namespace TnsClient

/-! ## The task in flight -/

namespace InFlight

/-- Whether rows of the task can be fetched from a cursor. -/
def canFetch (flight : InFlight) (cursor : UInt16) : Bool :=
  match flight.task with
  | .statement request _ => request.kind.isQuery && cursor != 0
  | _ => false

/-- Records an error block. A failure is kept; the end of rows is no failure; anything else leaves
open whether there are more rows, and may be a warning. -/
def record (flight : InFlight) (block : ErrorBlock) : InFlight :=
  let cursor := if block.cursor ≠ 0 then block.cursor else flight.result.cursor
  let flight := { flight with
    result := { flight.result with cursor, rowCount := block.rowCount } }
  if block.endsRows then { flight with moreRows := false }
  else if block.isFailure then { flight with moreRows := false, failure := some block }
  else
    { flight with
      moreRows := flight.canFetch cursor
      result := { flight.result with
        warning := if block.isWarning then some block else flight.result.warning } }

/-- Records what an operation on a large object returns. -/
def recordLob (flight : InFlight) (parameters : LobParameters) : InFlight :=
  { flight with lob := { flight.lob with
      locator := parameters.source, dest := parameters.dest, amount := parameters.amount } }

/-- What a task comes to once it needs no more answers. -/
def outcome (flight : InFlight) : Outcome :=
  match flight.failure with
  | some block => .error (.server block)
  | none =>
    match flight.task with
    | .ping _ | .close _ => .ok .done
    | .statement .. => .ok (.statement flight.result)
    | .lob .. => .ok (.lob { flight.lob with data := flight.lobData })

/-- The request for more rows, if they are to be fetched. -/
def fetch? (flight : InFlight) : Option Request :=
  match flight.failure, flight.task with
  | none, .statement request _ =>
    if flight.moreRows then
      some (.fetch flight.result.cursor request.options.arraySize flight.result.columns)
    else none
  | _, _ => none

end InFlight

namespace Client

/-- Keeps the cursor of a statement that has been executed, or has it closed. -/
def keepCursor (client : Client) (request : StatementRequest) (result : QueryResult) : Client :=
  if result.cursor = 0 then client
  else if request.kind.isCacheable then
    let kept : CachedStatement := ⟨result.cursor, result.columns⟩
    let (closing, statements) := client.statements.insert request.sql kept
    { client with statements, cleanup := client.cleanup.closeCursor? closing }
  else { client with cleanup := client.cleanup.closeCursor result.cursor }

/-- Has the cursors of a statement that failed closed. -/
def dropCursor (client : Client) (request : StatementRequest) (result : QueryResult) : Client :=
  let (closing, statements) := client.statements.remove request.sql
  { client with
    statements
    cleanup := (client.cleanup.closeCursor? closing).closeCursor result.cursor }

/-- Deals with the cursor of a task that is done. -/
def settleCursor (client : Client) (flight : InFlight) : Client :=
  match flight.task with
  | .statement request _ =>
    if flight.failure.isSome then client.dropCursor request flight.result
    else client.keepCursor request flight.result
  | _ => client

/-- Resolves a task that is done, and starts the next one, or closes the connection behind the end
of the session. -/
def finish (client : Client) (flight : InFlight) : Step :=
  let resolved := flight.task.resolve flight.outcome
  match flight.task with
  | .close _ =>
    { client := { client with queue := client.queue.drain.2, phase := .closed }
      action := .close none
      resolved := resolved ++ client.queue.drain.1.flatMap fun task => task.fail .closed }
  | _ =>
    let step := (client.settleCursor flight).startNext
    { step with resolved := resolved ++ step.resolved }

/-- The answer to the task in flight is over. -/
def complete (client : Client) : Step :=
  let client := { client with awaiting := false }
  match client.inFlight with
  | none => client.idle
  | some flight =>
    match flight.fetch? with
    | some request =>
      { client.expectAnswer with inFlight := some { flight with moreRows := false } }.send request
    | none => { client with inFlight := none }.finish flight

/-- An answer is over. -/
def answered (client : Client) : Step :=
  if !client.awaiting then client.idle
  else
    match client.phase with
    | .authenticating step => client.logonAnswered step
    | .inFlight | .closing => client.complete
    | _ => client.idle

/-- An answer is over unless its end is marked. -/
def answeredUnlessMarked (client : Client) : Step :=
  if client.capabilities.endOfResponse then client.idle else client.answered

/-! ## Messages -/

/-- Changes what is known of the task in flight, where a message asks for one. -/
def collect (client : Client) (message : Unexpected) (change : InFlight → InFlight) : Step :=
  match client.inFlight with
  | some flight => { client with inFlight := some (change flight) : Client }.idle
  | none => client.unexpected message

/-- Parameters of the logon have come. -/
def logonParameters (client : Client) (data : SessionData) : Step :=
  if client.phase.isLogon then
    { client with parametersSeen := true, session := client.session.extend data : Client }.idle
  else client.unexpected .parameters

/-- An error block has come. A failure during logon ends the connection. -/
def errorBlock (client : Client) (block : ErrorBlock) : Step :=
  if client.phase.isLogon then
    if block.isFailure then client.fail (.server block) else client.answeredUnlessMarked
  else
    match client.inFlight with
    | some flight =>
      { client with inFlight := some (flight.record block) : Client }.answeredUnlessMarked
    | none => client.idle

/-- A warning that stands alone has come. -/
def warning (client : Client) (block : ErrorBlock) : Step :=
  { client with
    inFlight := client.inFlight.map fun flight =>
      { flight with result := { flight.result with warning := some block } } : Client }.idle

/-- A marker has come. A break is acknowledged once during an answer. -/
def marker (client : Client) (kind : UInt8) : Step :=
  if kind = MarkerKind.breakOff ∧ client.awaiting ∧ !client.resetSent then
    { client := { client with resetSent := true }, action := .reset }
  else client.idle

/-- The server asks for the last request again. -/
def resend (client : Client) : Step :=
  match client.lastRequest with
  | some request => { client, action := .resend request }
  | none => client.unexpected .resend

/-- The server has added something of its own accord. -/
def piggyback (client : Client) : Piggyback → Client
  | .transactionId octets => { client with transactionId := some octets }
  | .sessionState session serial => { client with sessionState := some (session, serial) }
  | .skipped _ => client

/-- A message has come. -/
def handle (client : Client) : ServerMessage → Step
  | .accept accept => client.accepted accept
  | .refuse refusal => client.refused refusal
  | .redirect address => client.fail (.redirected address)
  | .marker kind => client.marker kind
  | .control _ => client.idle
  | .resend => client.resend
  | .serverInfo info => client.described info
  | .dataTypes => client.agreed
  | .authParameters data => client.logonParameters data
  | .statementParameters _ => client.collect .parameters id
  | .lobParameters parameters =>
    client.collect .parameters fun flight => flight.recordLob parameters
  | .status _ => client.answeredUnlessMarked
  | .error block => client.errorBlock block
  | .warning block => client.warning block
  | .description columns =>
    client.collect .description fun flight =>
      { flight with result := { flight.result with columns := some columns } }
  | .rowHeader | .bitVector | .flushOutBinds => client.idle
  | .row values =>
    client.collect .row fun flight => { flight with result := flight.result.push values }
  | .lobData octets =>
    client.collect .lobData fun flight =>
      { flight with lobData := some (flight.lobData.getD [] ++ octets) }
  | .piggyback piggyback => (client.piggyback piggyback).idle
  | .endOfResponse => client.answered

end Client

end TnsClient
