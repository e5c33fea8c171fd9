import TnsClient.Client.Basic
import TnsClient.Tls

set_option autoImplicit false

/-!
# Options of a connection

A caller says where the service is and who logs on; everything but the user and the service has a
default.

## Main definitions

* `TnsClient.Descriptor` — where a service is; `TnsClient.Descriptor.connectData` is how the
  listener is told.
* `TnsClient.ConnectOptions` — what a connection needs.
* `TnsClient.ConnectDraft` — what a caller says; `TnsClient.ConnectDraft.options` checks it.
-/

namespace TnsClient

/-- How client and server are joined. -/
inductive Transport where
  /-- In the clear. -/
  | tcp
  /-- Encrypted from the first octet on. -/
  | tcps
  deriving DecidableEq, Repr

/-- The name of a transport. -/
def Transport.name : Transport → String
  | tcp => "tcp"
  | tcps => "tcps"

/-! ## Where a service is -/

/-- Where a service is. -/
structure Descriptor where
  /-- The transport. -/
  transport : Transport
  /-- The host. -/
  host : String
  /-- The port of the listener. -/
  port : UInt16
  /-- The service. -/
  service : String
  /-- Whether the session may have been used before. -/
  purity : Purity
  /-- The milliseconds within which there has to be a session. -/
  timeout : Nat
  /-- The greatest number of octets of a packet. -/
  sdu : UInt32
  /-- The settings of an encrypted transport. -/
  tls : Option TlsSettings
  deriving DecidableEq

namespace Descriptor

/-- The address of the listener. -/
def address (descriptor : Descriptor) : String :=
  s!"{descriptor.host}:{descriptor.port.toNat}"

/-- A named entry of connect data, in parentheses. -/
def entry (name content : String) : String := "(" ++ name ++ "=" ++ content ++ ")"

/-- What the listener is told about the purity of the session. -/
def purityEntry : Purity → String
  | .byPool => ""
  | .fresh => entry "POOL_PURITY" "NEW"
  | .reused => entry "POOL_PURITY" "SELF"

/-- What the listener is told. -/
def connectData (descriptor : Descriptor) (identity : ClientIdentity) : String :=
  entry "DESCRIPTION"
    (entry "ADDRESS"
      (entry "PROTOCOL" descriptor.transport.name ++ entry "HOST" descriptor.host ++
        entry "PORT" (toString descriptor.port.toNat)) ++
    entry "CONNECT_DATA"
      (entry "SERVICE_NAME" descriptor.service ++ purityEntry descriptor.purity ++
        entry "CID"
          (entry "PROGRAM" identity.program ++ entry "HOST" identity.machine ++
            entry "USER" identity.osUser)))

end Descriptor

/-! ## Options -/

/-- What a connection needs. -/
structure ConnectOptions where
  /-- Where the service is. -/
  descriptor : Descriptor
  /-- Who logs on, and how. -/
  credentials : Credentials
  /-- The number of cursors that are kept open. -/
  cacheSize : Nat
  deriving DecidableEq

/-- What the listener is told for these options. -/
def ConnectOptions.connectData (options : ConnectOptions) : String :=
  options.descriptor.connectData options.credentials.identity

/-- What a caller says about a connection. -/
structure ConnectDraft where
  /-- The host. -/
  host : String := "127.0.0.1"
  /-- The port of the listener. -/
  port : UInt16 := 1521
  /-- The service, which has to be given. -/
  service : Option String := none
  /-- The user, who has to be given. -/
  user : Option String := none
  /-- The password. -/
  password : Password := Password.ofText ""
  /-- The password that is to take its place. -/
  newPassword : Option Password := none
  /-- The privileges. -/
  mode : LogonMode := LogonMode.none
  /-- Whether the session may have been used before. -/
  purity : Purity := .byPool
  /-- The milliseconds within which there has to be a session. -/
  timeout : Nat := 20000
  /-- The greatest number of octets of a packet. -/
  sdu : UInt32 := 8192
  /-- The settings of an encrypted transport, which is used if they are given. -/
  tls : Option TlsSettings := none
  /-- The number of cursors that are kept open. -/
  cacheSize : Nat := defaultCacheSize
  deriving DecidableEq

namespace ConnectDraft

/-- Something that has to be given. -/
def required {α : Type} (name : String) : Option α → Except ClientError α
  | some value => .ok value
  | none => .error (.connection s!"{name} is required")

/-- The options that a draft amounts to. A missing user is reported before a missing service. -/
def options (draft : ConnectDraft) (identity : ClientIdentity) :
    Except ClientError ConnectOptions := do
  let username ← required "User" draft.user
  let service ← required "Service name" draft.service
  return {
    descriptor := {
      transport := if draft.tls.isSome then .tcps else .tcp
      host := draft.host
      port := draft.port
      service
      purity := draft.purity
      timeout := draft.timeout
      sdu := draft.sdu
      tls := draft.tls }
    credentials := {
      username
      password := draft.password
      newPassword := draft.newPassword
      mode := draft.mode
      purity := draft.purity
      identity }
    cacheSize := draft.cacheSize }

end ConnectDraft

end TnsClient
