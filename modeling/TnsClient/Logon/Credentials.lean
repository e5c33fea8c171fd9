import TnsClient.Bytes
import TnsClient.Text.Outline
import TnsClient.Text.Utf8

set_option autoImplicit false

/-!
# Credentials

What a logon needs from the caller: who logs on with which password, whether the password is to be
changed, which privileges are asked for, and how the client identifies itself. A password is never
shown.

## Main definitions

* `TnsClient.Credentials` — all of it.
* `TnsClient.LogonMode` — a set of privileges; `TnsClient.LogonMode.wire` is how it is sent.
* `TnsClient.Credentials.firstMode`, `TnsClient.Credentials.secondMode` — the mode bits of the two
  requests of a logon.
-/

namespace TnsClient

/-! ## Passwords -/

/-- A password. -/
structure Password where
  /-- Its octets. -/
  octets : Bytes
  deriving DecidableEq

namespace Password

/-- The password of a text. -/
def ofText (text : String) : Password := ⟨Utf8.encode text⟩

/-- Whether there is nothing in it. -/
def isEmpty (password : Password) : Bool := password.octets.isEmpty

/-- A password on one line, which says nothing about it. -/
def shown (_ : Password) : String := "ObfuscatedPassword(***)"

end Password

/-! ## Privileges -/

/-- A set of privileges, one bit each. -/
structure LogonMode where
  /-- The bits. -/
  bits : UInt32
  deriving DecidableEq, Repr

namespace LogonMode

/-- No privilege. -/
def none : LogonMode := ⟨0⟩

/-- Administration. -/
def sysdba : LogonMode := ⟨0x00000002⟩

/-- Operation. -/
def sysoper : LogonMode := ⟨0x00000004⟩

/-- A preliminary session. -/
def prelim : LogonMode := ⟨0x00000008⟩

/-- Storage management. -/
def sysasm : LogonMode := ⟨0x00008000⟩

/-- Backup. -/
def sysbkp : LogonMode := ⟨0x00020000⟩

/-- Standby databases. -/
def sysdgd : LogonMode := ⟨0x00040000⟩

/-- Key management. -/
def syskmt : LogonMode := ⟨0x00080000⟩

/-- Clusters. -/
def sysrac : LogonMode := ⟨0x00100000⟩

/-- Both sets together. -/
def union (a b : LogonMode) : LogonMode := ⟨a.bits ||| b.bits⟩

/-- Whether a set has all privileges of another one, which has at least one. -/
def contains (mode other : LogonMode) : Bool :=
  other.bits != 0 && mode.bits &&& other.bits == other.bits

/-- The bit of an ordinary logon. -/
def logonBit : UInt32 := 0x00000001

/-- The bit of a password that is changed. -/
def changePasswordBit : UInt32 := 0x00000002

/-- The bit of a request that proves the password. -/
def withPasswordBit : UInt32 := 0x00000100

/-- The privileges and the bits by which they are sent. -/
def elevations : List (LogonMode × UInt32) :=
  [(sysdba, 0x00000020), (sysoper, 0x00000040), (prelim, 0x00000080), (sysasm, 0x00400000),
    (sysbkp, 0x01000000), (sysdgd, 0x02000000), (syskmt, 0x04000000), (sysrac, 0x08000000)]

/-- The bits of a logon with these privileges. It is no ordinary logon if the password is
changed. -/
def wire (mode : LogonMode) (changingPassword : Bool) : UInt32 :=
  elevations.foldl (fun bits (privilege, bit) =>
    if mode.contains privilege then bits ||| bit else bits)
    (if changingPassword then 0 else logonBit)

end LogonMode

/-! ## Sessions of a pool -/

/-- Whether a session out of a pool may have been used before. -/
inductive Purity where
  /-- The pool decides. -/
  | byPool
  /-- It must be new. -/
  | fresh
  /-- It may have been used. -/
  | reused
  deriving DecidableEq, Repr, Inhabited

/-- The number of a purity. -/
def Purity.code : Purity → Nat
  | byPool => 0
  | fresh => 1
  | reused => 2

/-- The name of a purity. -/
def Purity.name : Purity → String
  | byPool => "Default"
  | fresh => "New"
  | reused => "Reuse"

/-! ## Clients -/

/-- How a client identifies itself. -/
structure ClientIdentity where
  /-- The terminal. -/
  terminal : String
  /-- The program. -/
  program : String
  /-- The host it runs on. -/
  machine : String
  /-- The number of its process. -/
  pid : UInt32
  /-- The user that runs it. -/
  osUser : String
  deriving DecidableEq, Repr

/-- What a logon needs from the caller. -/
structure Credentials where
  /-- The user. -/
  username : String
  /-- The password. -/
  password : Password
  /-- The password that is to take its place. -/
  newPassword : Option Password
  /-- The privileges. -/
  mode : LogonMode
  /-- Whether the session may have been used before. -/
  purity : Purity
  /-- How the client identifies itself. -/
  identity : ClientIdentity
  deriving DecidableEq

namespace Credentials

/-- The mode bits of the first request. -/
def firstMode (credentials : Credentials) : UInt32 :=
  credentials.mode.wire credentials.newPassword.isSome

/-- The mode bits of the second request, which proves the password. -/
def secondMode (credentials : Credentials) : UInt32 :=
  let bits := credentials.firstMode ||| LogonMode.withPasswordBit
  if credentials.newPassword.isSome then bits ||| LogonMode.changePasswordBit else bits

/-- Credentials on one line, without the passwords. -/
def shown (credentials : Credentials) : String :=
  Text.outline "AuthContext"
    [("username", Text.quote credentials.username), ("password", Text.quote "***"),
      ("changing_password", Text.truth credentials.newPassword.isSome),
      ("mode", s!"AuthenticationMode({credentials.mode.bits.toNat})"),
      ("purity", credentials.purity.name)]

end Credentials

end TnsClient
