import TnsClient.Client.Answers
import TnsClient.ConnectOptions
import TnsClient.Decoder
import TnsClient.Encoder.Lob
import TnsClient.Encoder.Logon

set_option autoImplicit false

/-!
# Links

A link joins a client to a stream of octets. Octets that come in are decoded packet by packet, every
message goes to the client, and what the client wants done is done: requests are encoded and
written, and the decoder is told what kind of answer to expect. A link serves a logon first, then
the commands of callers, until the connection is over. During the logon it hands over one message at
a time, and stops as soon as there is a session; what has been decoded by then is handed over before
the link begins to serve. From then on it hands over whole packets.

## Main definitions

* `TnsClient.Link` — a link; `TnsClient.Link.connect` is one that has asked for a connection.
* `TnsClient.Link.perform` — what the client wants done.
* `TnsClient.Link.logOn`, `TnsClient.Link.begin`, `TnsClient.Link.drain` — reading during the logon,
  between the two, and after it.
* `TnsClient.Link.receive`, `TnsClient.Link.ended` — what comes from the server.
* `TnsClient.Link.command` — what comes from callers.
-/

namespace TnsClient

/-- How far a link has come. -/
inductive Stage where
  /-- There is no session yet. -/
  | logon
  /-- There is a session. -/
  | serving
  /-- The connection is over. -/
  | finished
  deriving DecidableEq, Repr

/-- What a caller says to a link. -/
inductive Command where
  /-- A task is submitted under a ticket. -/
  | submit (ticket : Nat) (task : Task)
  /-- The task of a ticket is cancelled. -/
  | cancel (ticket : Nat)
  /-- A temporary large object is no longer needed. -/
  | releaseLob (locator : Bytes)
  deriving DecidableEq, Repr

/-- A client joined to a stream of octets. -/
structure Link where
  /-- The client. -/
  client : Client
  /-- What the listener is told. -/
  connectData : String
  /-- The greatest number of octets of a packet that the listener is asked for. -/
  sdu : UInt32
  /-- The decoder of what comes in. -/
  decoder : Decoder := {}
  /-- The encoder of what goes out. -/
  encoder : Encoder := {}
  /-- How far the link has come. -/
  stage : Stage := .logon
  /-- What the logon has come to. -/
  logon : Option (Except ClientError SessionData) := none
  /-- The octets that are not decoded. -/
  buffer : Bytes := []
  /-- The messages that are decoded and have not been handed to the client. -/
  pending : List ServerMessage := []
  /-- The messages that the client has had, in order, and what each made it do. -/
  heard : List (ServerMessage × Action) := []
  /-- The packets of the last request. -/
  lastRequest : Option Bytes := none
  /-- What was written, in order: the packets of a request, a marker, or the last packet of all. -/
  written : List Bytes := []
  /-- The tickets of tasks that wait. -/
  tickets : List (Nat × TaskId) := []
  /-- The handles that have learned their outcome, in order. -/
  resolved : List Resolution := []

namespace Link

/-- Whether the connection is over. -/
def isFinished (link : Link) : Bool := link.stage == .finished

/-- What a handle has learned. -/
def outcome? (link : Link) (handle : Handle) : Option Outcome :=
  (link.resolved.find? fun resolution => resolution.handle == handle).map Resolution.outcome

/-! ## Writing -/

/-- Writes octets. -/
def write (link : Link) (octets : Bytes) : Link :=
  { link with written := link.written ++ [octets] }

/-- Writes the packets of a request, which are kept in case the server asks for them again. -/
def writeRequest (link : Link) (packets : Bytes) : Link :=
  { link.write packets with lastRequest := some packets }

/-- Writes the packets of a request that draws numbers for its calls. -/
def writeNumbered (link : Link) (encode : Encoder → Bytes × Encoder) : Link :=
  let (packets, encoder) := encode link.encoder
  { link with encoder }.writeRequest packets

/-- Writes the packets of a request that cleans up. -/
def writeCleaning (link : Link) (encode : Encoder → Cleanup → Bytes × Encoder) : Link :=
  let (cleanup, client) := link.client.takeCleanup
  { link with client }.writeNumbered fun encoder => encode encoder cleanup

/-- Takes over what client and server have agreed on. -/
def install (link : Link) (capabilities : Capabilities) : Link :=
  { link with
    encoder := { link.encoder with capabilities }
    decoder := { link.decoder with capabilities } }

/-- Expects an answer of a kind. -/
def expecting (link : Link) (context : ResponseContext) : Link :=
  { link with decoder := { link.decoder with context } }

/-- Expects rows of columns. -/
def withColumns (link : Link) (columns : Option (List Column)) : Link :=
  { link with decoder := link.decoder.setColumns columns }

/-- Sends a request. -/
def transmit (link : Link) : Request → Link
  | .connect => link.writeRequest (connectPackets link.connectData link.sdu)
  | .protocol capabilities =>
    let link := link.install capabilities
    link.writeRequest link.encoder.protocol
  | .dataTypes capabilities =>
    let link := link.install capabilities
    link.writeRequest link.encoder.dataTypes
  | .logonStart credentials =>
    (link.expecting .authentication).writeNumbered fun encoder => encoder.logonStart credentials
  | .logonProof credentials verifier =>
    (link.expecting .authentication).writeNumbered fun encoder =>
      encoder.logonProof credentials verifier
  | .ping => (link.expecting .statement).writeCleaning Encoder.ping
  | .statement request =>
    ((link.expecting .statement).withColumns request.columns).writeCleaning
      fun encoder cleanup => encoder.execute cleanup request
  | .fetch cursor rows columns =>
    ((link.expecting .statement).withColumns columns).writeCleaning
      fun encoder cleanup => encoder.fetch cleanup cursor rows
  | .lob request =>
    (link.expecting (.lob request.shape)).writeCleaning
      fun encoder cleanup => encoder.lob cleanup request
  | .logoff => (link.expecting .statement).writeCleaning Encoder.logoff

/-! ## Doing what the client wants done -/

/-- The connection is over: whoever still waits learns that it is closed. -/
def finish (link : Link) : Link :=
  let step := link.client.lost
  { link with
    client := step.client
    stage := .finished
    resolved := link.resolved ++ step.resolved }

/-- Closes the connection. If there is an error, or no session, there is no last packet. A logon has
failed then. -/
def close (link : Link) (error : Option ClientError) : Link :=
  match link.stage, error with
  | .logon, error => { link with logon := some (.error (error.getD .closed)) }.finish
  | _, none => (link.write link.encoder.close).finish
  | _, some _ => link.finish

/-- Takes over the client of a step, and what handles have learned. -/
def adopt (link : Link) (step : Client.Step) : Link :=
  { link with client := step.client, resolved := link.resolved ++ step.resolved }

/-- The connection cannot go on. -/
def fail (link : Link) (error : ClientError) : Link :=
  (link.adopt (link.client.fail error)).close (some error)

/-- Does what the client wants done. -/
def perform (link : Link) : Action → Link
  | .wait => link
  | .send request => link.transmit request
  | .established session => { link with stage := .serving, logon := some (.ok session) }
  | .reset => link.write (link.encoder.marker MarkerKind.reset)
  | .resend _ =>
    match link.lastRequest with
    | some packets => link.write packets
    | none => link.fail (.unexpected .resend)
  | .close error => link.close error

/-- Takes a step of the client and does what it wants done. -/
def act (link : Link) (step : Client.Step) : Link := (link.adopt step).perform step.action

/-! ## What comes from the server -/

/-- Hands a message to the client, and does what the client wants done. -/
def hear (link : Link) (message : ServerMessage) : Link :=
  let step := link.client.handle message
  { link with heard := link.heard ++ [(message, step.action)] }.act step

/-- Hands messages to the client one by one, until the connection is over. -/
def deliver (link : Link) : List ServerMessage → Link
  | [] => link
  | message :: rest => if link.isFinished then link else (link.hear message).deliver rest

/-- Hands messages to the client one by one, the decoded ones first, and takes the next packet off
the buffer when there is none left, until there is a session, or no whole packet. -/
def logOn (link : Link) (buffer : Bytes) (pending : List ServerMessage) : Link :=
  match link.stage with
  | .finished => link
  | .serving => { link with buffer, pending }
  | .logon =>
    match pending with
    | message :: pending => (link.hear message).logOn buffer pending
    | [] =>
      let attempt := link.decoder.decode buffer
      let link := { link with decoder := attempt.decoder }
      match h : attempt.result with
      | .error error => link.fail (.protocol error)
      | .ok none => { link with buffer }
      | .ok (some messages) =>
        have : attempt.rest.length < buffer.length := Decoder.length_rest_lt h
        link.logOn attempt.rest messages
termination_by (buffer.length, pending.length)

/-- Takes packets off the buffer and hands all messages of each to the client, as long as there are
whole packets. Once the connection is over, what is left is not looked at. -/
def drain (link : Link) (buffer : Bytes) : Link :=
  let attempt := link.decoder.decode buffer
  let link := { link with decoder := attempt.decoder }
  match h : attempt.result with
  | .error error => link.fail (.protocol error)
  | .ok none => { link with buffer }
  | .ok (some messages) =>
    have : attempt.rest.length < buffer.length := Decoder.length_rest_lt h
    let link := link.deliver messages
    if link.isFinished then link else link.drain attempt.rest
termination_by buffer.length

/-- Begins to serve: hands over what has come behind the last message of the logon, first what is
decoded, and then starts work that has been submitted meanwhile. -/
def begin (link : Link) : Link :=
  let served := { link with buffer := [], pending := [] }.deliver link.pending
  if served.isFinished then served
  else
    let served := served.drain link.buffer
    if served.isFinished then served else served.act served.client.startNext

/-- Octets have come. -/
def receive (link : Link) (octets : Bytes) : Link :=
  let buffer := link.buffer ++ octets
  match link.stage with
  | .logon =>
    let next := { link with buffer := [], pending := [] }.logOn buffer link.pending
    if next.stage = .serving then next.begin else next
  | .serving => { link with buffer := [] }.drain buffer
  | .finished => link

/-- The server's stream has ended. -/
def ended (link : Link) : Link :=
  match link.stage with
  | .logon => link.fail .closed
  | .serving => link.finish
  | .finished => link

/-! ## What comes from callers -/

/-- Forgets the tickets of tasks that no longer wait. -/
def pruneTickets (link : Link) : Link :=
  { link with tickets := link.tickets.filter fun (_, id) => link.client.queue.contains id }

/-- Submits a task under a ticket. -/
def submit (link : Link) (ticket : Nat) (task : Task) : Link :=
  let submission := link.client.submit task
  let link := (link.adopt submission.step).pruneTickets
  let tickets :=
    match submission.id with
    | some id => (ticket, id) :: link.tickets
    | none => link.tickets
  { link with tickets }.perform submission.step.action

/-- Cancels the task of a ticket, if it still waits. -/
def cancel (link : Link) (ticket : Nat) : Link :=
  match link.tickets.lookup ticket with
  | some id =>
    { link with tickets := link.tickets.filter fun (other, _) => other != ticket }.act
      (link.client.cancel id).2
  | none => link

/-- Does what a caller says. When the connection is over, a task is refused at once. -/
def command (link : Link) (command : Command) : Link :=
  match command, link.isFinished with
  | .submit _ task, true => { link with resolved := link.resolved ++ task.fail .closed }
  | .submit ticket task, false => link.submit ticket task
  | .cancel ticket, false => link.cancel ticket
  | .releaseLob locator, false => { link with client := link.client.releaseLob locator }
  | _, true => link

/-- The caller of a handle has stopped waiting. -/
def abandon (link : Link) (handle : Handle) : Link :=
  { link with client := link.client.abandon handle }

/-- There is no session within the time allowed. -/
def timeOut (link : Link) (milliseconds : Nat) : Link :=
  match link.stage with
  | .logon => { link with logon := some (.error (.timeout milliseconds)) }.finish
  | _ => link

/-! ## Connecting -/

/-- A link that has asked for a connection. -/
def connect (options : ConnectOptions) (random : RandomSource) : Link :=
  let link : Link := {
    client := Client.new options.credentials random options.cacheSize
    connectData := options.connectData
    sdu := options.descriptor.sdu }
  link.act link.client.opened

end Link

end TnsClient
