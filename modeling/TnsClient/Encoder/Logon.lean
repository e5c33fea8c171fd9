import TnsClient.Encoder.Setup
import TnsClient.Logon.Verifier

set_option autoImplicit false

/-!
# Logging on

A logon takes two calls. The first one names the user and describes the client; the second one
proves the password. Both carry named values with flags.

## Main definitions

* `TnsClient.LogonPair` — a named value with flags.
* `TnsClient.Encoder.logonStart`, `TnsClient.Encoder.logonProof` — the two requests.
-/

namespace TnsClient

/-- A named value with flags. -/
structure LogonPair where
  /-- The name. -/
  name : String
  /-- The text of the value. -/
  value : String
  /-- The flags. -/
  flags : UInt32 := 0
  deriving DecidableEq, Repr

/-- The version of the client. -/
def clientVersion : UInt32 := 0x0E140000

namespace Credentials

/-- The arguments of a call of a logon. -/
def arguments (credentials : Credentials) (mode : UInt32) (pairs : List LogonPair) : Bytes :=
  let user := Utf8.encode credentials.username
  [if user.isEmpty then 0 else 1] ++ Encode.count user.length ++ Encode.ub4 mode ++
    [1] ++ Encode.count pairs.length ++ [1, 1] ++ user ++
    pairs.flatMap fun pair => Encode.keyValue pair.name (Utf8.encode pair.value) pair.flags

/-- The values of the first call, which describe the client. -/
def startPairs (credentials : Credentials) : List LogonPair :=
  let identity := credentials.identity
  [{ name := "AUTH_TERMINAL", value := identity.terminal },
    { name := "AUTH_PROGRAM_NM", value := identity.program },
    { name := "AUTH_MACHINE", value := identity.machine },
    { name := "AUTH_PID", value := toString identity.pid.toNat },
    { name := "AUTH_SID", value := identity.osUser }]

/-- The values of the second call, which prove the password. -/
def proofPairs (credentials : Credentials) (verifier : Verifier) : List LogonPair :=
  [{ name := "AUTH_SESSKEY", value := verifier.sessionKey, flags := 1 },
    { name := "AUTH_PASSWORD", value := verifier.password }] ++
  (verifier.speedyKey.map fun key =>
    { name := "AUTH_PBKDF2_SPEEDY_KEY", value := key : LogonPair }).toList ++
  (verifier.newPassword.map fun password =>
    { name := "AUTH_NEWPASSWORD", value := password : LogonPair }).toList ++
  [{ name := "SESSION_CLIENT_CHARSET", value := toString clientCharset.toNat },
    { name := "SESSION_CLIENT_DRIVER_NAME", value := driverName },
    { name := "SESSION_CLIENT_VERSION", value := toString clientVersion.toNat }] ++
  (if credentials.purity = .byPool then []
    else [{ name := "AUTH_KPPL_PURITY", value := toString credentials.purity.code, flags := 1 }])

end Credentials

namespace Encoder

/-- The packets of the request that begins a logon. -/
def logonStart (encoder : Encoder) (credentials : Credentials) : Bytes × Encoder :=
  encoder.send [.function FunctionCode.logonStart
    (credentials.arguments credentials.firstMode credentials.startPairs)]

/-- The packets of the request that proves the password. -/
def logonProof (encoder : Encoder) (credentials : Credentials) (verifier : Verifier) :
    Bytes × Encoder :=
  encoder.send [.function FunctionCode.logonProof
    (credentials.arguments credentials.secondMode (credentials.proofPairs verifier))]

end Encoder

end TnsClient
