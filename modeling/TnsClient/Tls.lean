import TnsClient.Bytes
import TnsClient.Text.Outline

set_option autoImplicit false

/-!
# Settings of an encrypted transport

## Main definitions

* `TnsClient.TlsSettings` — certificates and names for an encrypted transport.
* `TnsClient.TlsSettings.ofFiles` — the settings whose certificates stand in files.
-/

namespace TnsClient

/-- Certificates and names for an encrypted transport. -/
structure TlsSettings where
  /-- The certificate that the server's has to be signed with; the system's are used if none. -/
  caCertificate : Option Bytes := none
  /-- The client's certificate. -/
  clientCertificate : Option Bytes := none
  /-- The key of the client's certificate. -/
  clientKey : Option Bytes := none
  /-- The name that the server's certificate is for; that of the host if none. -/
  serverName : Option String := none
  deriving DecidableEq

namespace TlsSettings

/-- The settings whose certificates stand in files: those of the client are read first, each in
front of its key. Reading them is up to the caller. -/
def ofFiles {m : Type → Type} [Monad m] {Path : Type} (read : Path → m Bytes)
    (ca : Option Path) (client : Option (Path × Path)) : m TlsSettings := do
  let pair ←
    match client with
    | some (certificate, key) => do
      let certificate ← read certificate
      let key ← read key
      pure (some certificate, some key)
    | none => pure (none, none)
  let caCertificate ←
    match ca with
    | some path => some <$> read path
    | none => pure none
  return { caCertificate, clientCertificate := pair.1, clientKey := pair.2 }

/-- The settings on one line, without the contents of the certificates and without the key. -/
def shown (settings : TlsSettings) : String :=
  Text.outlinePart "TlsConfig"
    [("ca_cert", Text.truth settings.caCertificate.isSome),
      ("client_cert", Text.truth settings.clientCertificate.isSome),
      ("server_name", Text.optional (settings.serverName.map Text.quote))]

end TlsSettings

end TnsClient
