import TnsClient.Client.Basic

set_option autoImplicit false

/-!
# Setting up a connection

The client asks for a connection, describes itself and its data types, names the user and proves the
password, each once the server has answered the step before. An answer to a step of the logon counts
only if it brought parameters.

## Main definitions

* `TnsClient.Client.opened`, `TnsClient.Client.accepted`, `TnsClient.Client.described`,
  `TnsClient.Client.agreed` — the steps of the negotiation.
* `TnsClient.Client.logonAnswered` — the steps of the logon.
-/

namespace TnsClient.Client

/-- The least protocol version that the client can do with. -/
def minVersion : UInt16 := 300

/-- The session flag of a server that demands native encryption. -/
def encryptionRequired : UInt8 := 0x10

/-! ## Negotiation -/

/-- The transport is open. -/
def opened (client : Client) : Step :=
  if client.phase = .connecting then client.send .connect else client.idle

/-- The listener has accepted the connection. -/
def accepted (client : Client) (accept : Accept) : Step :=
  if client.phase ≠ .connecting then client.unexpected .accept
  else if accept.version < minVersion then client.fail (.unsupportedVersion accept.version)
  else if accept.sessionFlags &&& encryptionRequired != 0 then
    client.fail (.connection "server requires native network encryption")
  else
    let capabilities :=
      client.capabilities.withAccept accept.version accept.options accept.sdu accept.flags
    { client with capabilities, phase := .protocolNegotiation }.send (.protocol capabilities)

/-- The listener has refused the connection. -/
def refused (client : Client) (refusal : Refusal) : Step :=
  client.fail (.refused refusal.code? refusal.text)

/-- The server has described itself. -/
def described (client : Client) (info : ServerInfo) : Step :=
  if client.phase ≠ .protocolNegotiation then client.unexpected .serverInfo
  else
    let capabilities :=
      client.capabilities.withProtocol info.build info.runtime info.nationalCharset
    { client with capabilities, phase := .dataTypeNegotiation }.send (.dataTypes capabilities)

/-- Begins a step of the logon. -/
def beginStep (client : Client) (step : LogonStep) : Client :=
  { client.expectAnswer with phase := .authenticating step, parametersSeen := false }

/-- The server has described its data types. -/
def agreed (client : Client) : Step :=
  if client.phase ≠ .dataTypeNegotiation then client.unexpected .dataTypes
  else (client.beginStep .one).send (.logonStart client.credentials)

/-! ## Logon -/

/-- Computes the proof of the password and sends it. What was drawn for it is gone, be there a proof
or not. -/
def proveSelf (client : Client) : Step :=
  let (result, random) :=
    Verifier.generate client.primitives client.credentials client.session client.random
  let client := { client with random }
  match result with
  | .error error => client.fail (.authentication error)
  | .ok verifier =>
    ({ client with verifier := some verifier }.beginStep .two).send
      (.logonProof client.credentials verifier)

/-- Checks the proof that the server may have sent. -/
def checkServer (client : Client) : Except AuthError Unit :=
  match client.verifier with
  | some verifier => verifier.check client.primitives client.session
  | none => .ok ()

/-- Checks the server's proof, and with it the logon is done. -/
def finishLogon (client : Client) : Step :=
  match client.checkServer with
  | .error error => client.fail (.authentication error)
  | .ok () =>
    { client := { client with verifier := none, lastRequest := none, phase := .ready }
      action := .established client.session }

/-- The answer to a step of the logon is over. -/
def logonAnswered (client : Client) (step : LogonStep) : Step :=
  if !client.parametersSeen then client.idle
  else
    let client := { client with awaiting := false }
    match step with
    | .one => client.proveSelf
    | .two => client.finishLogon

end TnsClient.Client
