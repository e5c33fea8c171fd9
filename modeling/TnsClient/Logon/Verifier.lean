import TnsClient.Crypto.Aes
import TnsClient.Crypto.BlockChaining
import TnsClient.Crypto.KeyDerivation
import TnsClient.Crypto.Sha1
import TnsClient.Crypto.Sha512
import TnsClient.Logon.Credentials
import TnsClient.Logon.Drawing
import TnsClient.Logon.SessionData
import TnsClient.Text.Blank
import TnsClient.Text.IntegerLiteral

set_option autoImplicit false

/-!
# Proving the password

The server answers the first request of a logon with a challenge: data that went into its copy of
the password hash, one half of a session key, encrypted under that hash, and what is needed to
derive a key from both halves. The client answers with the other half, and with the password,
encrypted under the key derived from both. The server may prove in turn that it has that key.

There are two generations of password hashes. The older one is a SHA-1 digest filled up with zeros,
and its keys take 24 octets. The newer one is cut from a SHA-512 digest of a key that is derived
from the password, and its keys take 32 octets; the client sends that derived key along.

The computation is the same whatever the hash functions and the cipher are, so these are parameters
of it.

## Main definitions

* `TnsClient.Primitives` — the hash functions and the cipher.
* `TnsClient.Challenge` — what the server sent, checked before anything is computed.
* `TnsClient.Verifier` — the answer; `TnsClient.Verifier.derive` computes it, and
  `TnsClient.Verifier.generate` does so with a source of randomness.
* `TnsClient.Verifier.check` — whether the server has proved that it has the key.
-/

namespace TnsClient

/-! ## Errors -/

/-- Why encryption or decryption is impossible. -/
inductive CipherFault where
  /-- The key has neither 24 nor 32 octets. -/
  | invalidKeyLength
  /-- The octets are not whole blocks. -/
  | unaligned
  deriving DecidableEq, Repr

/-- The message for a fault. -/
def CipherFault.message : CipherFault → String
  | invalidKeyLength => "invalid key length"
  | unaligned => "ciphertext is not block aligned"

/-- Why a logon fails on what the server sent. -/
inductive AuthError where
  /-- A parameter is missing. -/
  | missingParameter (name : String)
  /-- A parameter makes no sense. -/
  | invalidParameter (name : String)
  /-- The password hash is of no known generation. -/
  | unsupportedVerifierType (type : UInt32)
  /-- The server has not proved that it has the key. -/
  | serverVerificationFailed
  /-- Encryption or decryption is impossible. -/
  | cipher (fault : CipherFault)
  deriving DecidableEq, Repr

/-- The name of an error, without its circumstances. -/
def AuthError.name : AuthError → String
  | missingParameter _ => "MissingParameter"
  | invalidParameter _ => "InvalidParameter"
  | unsupportedVerifierType _ => "UnsupportedVerifierType"
  | serverVerificationFailed => "ServerVerificationFailed"
  | cipher _ => "Cipher"

/-- The message for an error. -/
def AuthError.message : AuthError → String
  | missingParameter name => s!"Server did not send required parameter {name}"
  | invalidParameter name => s!"Server parameter {name} is malformed"
  | unsupportedVerifierType type =>
    "Unsupported verifier type 0x" ++ String.ofList (Nat.toDigits 16 type.toNat)
  | serverVerificationFailed => "Server response verification failed"
  | cipher fault => "Cipher error: " ++ fault.message

/-! ## Primitives -/

/-- The hash functions and the cipher that a logon uses. -/
structure Primitives where
  /-- The digest of 20 octets. -/
  sha1 : Bytes → Bytes
  /-- The digest of 64 octets. -/
  sha512 : Bytes → Bytes
  /-- A key of some length, derived from a password and a salt. -/
  deriveKey : (password salt : Bytes) → (iterations length : Nat) → Bytes
  /-- The cipher for blocks of 16 octets. -/
  cipher : BlockCipher

namespace Primitives

/-- SHA-1, SHA-512, keys derived with SHA-512, and AES. -/
def standard : Primitives where
  sha1 := Sha1.hash
  sha512 := Sha512.hash
  deriveKey := HashFunction.deriveKey ⟨Sha512.blockSize, Sha512.hash⟩
  cipher := ⟨Aes.encryptBlock, Aes.decryptBlock⟩

/-- Whether the cipher has keys of that length. -/
def isKeyLength (length : Nat) : Bool := length == 24 || length == 32

/-- Encrypts a message, padded to whole blocks. -/
def encrypt (primitives : Primitives) (key message : Bytes) : Except AuthError Bytes :=
  if isKeyLength key.length then .ok (primitives.cipher.encrypt key (padToBlock message))
  else .error (.cipher .invalidKeyLength)

/-- Decrypts whole blocks, leaving any padding in place. -/
def decrypt (primitives : Primitives) (key encrypted : Bytes) : Except AuthError Bytes :=
  if !isKeyLength key.length then .error (.cipher .invalidKeyLength)
  else if encrypted.length % cipherBlockSize ≠ 0 then .error (.cipher .unaligned)
  else .ok (primitives.cipher.decrypt key encrypted)

end Primitives

/-! ## The challenge -/

/-- The generations of password hashes. -/
inductive VerifierGeneration where
  | legacy11g
  | modern12c
  deriving DecidableEq, Repr

namespace VerifierGeneration

/-- The generation of a type of password hash. -/
def ofType (type : UInt32) : Except AuthError VerifierGeneration :=
  if type = 0xB152 ∨ type = 0x1B25 then .ok legacy11g
  else if type = 0x4815 then .ok modern12c
  else .error (.unsupportedVerifierType type)

/-- The octets of keys. -/
def keyLength : VerifierGeneration → Nat
  | legacy11g => 24
  | modern12c => 32

/-- The name of a generation. -/
def name : VerifierGeneration → String
  | legacy11g => "Legacy11g"
  | modern12c => "Modern12c"

end VerifierGeneration

/-- What the server sent in answer to the first request. -/
structure Challenge where
  /-- The generation of the password hash. -/
  generation : VerifierGeneration
  /-- The data that went into the server's copy of the hash. -/
  verifierData : Bytes
  /-- The iterations of the key derivation that the newer hash starts with. -/
  hashIterations : Nat
  /-- The server's half of the session key, encrypted under the hash. -/
  encryptedHalf : Bytes
  /-- The salt of the key that is derived from both halves. -/
  keySalt : Bytes
  /-- The iterations of the derivation of that key. -/
  keyIterations : Nat
  deriving DecidableEq, Repr

namespace Challenge

/-- The text of a parameter that has to be there. -/
def required (data : SessionData) (name : String) : Except AuthError String :=
  match data.value? name with
  | some value => .ok value
  | none => .error (.missingParameter name)

/-- The octets of a parameter in hexadecimal. -/
def octets (data : SessionData) (name : String) : Except AuthError Bytes := do
  match Hex.decode? (← required data name) with
  | some octets => return octets
  | none => throw (.invalidParameter name)

/-- The number in a parameter, which is at least one. -/
def count (data : SessionData) (name : String) : Except AuthError Nat := do
  match Text.readUInt32 (Text.trim (← required data name)).toList with
  | .ok number => if number = 0 then throw (.invalidParameter name) else return number.toNat
  | .error _ => throw (.invalidParameter name)

/-- The challenge in the data that the server sent. The first parameter at fault decides which
error there is. -/
def ofSession (data : SessionData) : Except AuthError Challenge := do
  let _ ← required data "AUTH_VFR_DATA"
  let generation ← VerifierGeneration.ofType ((data.flags? "AUTH_VFR_DATA").getD 0)
  let verifierData ← octets data "AUTH_VFR_DATA"
  let hashIterations ←
    match generation with
    | .modern12c => count data "AUTH_PBKDF2_VGEN_COUNT"
    | .legacy11g => pure 0
  let encryptedHalf ← octets data "AUTH_SESSKEY"
  let keySalt ← octets data "AUTH_PBKDF2_CSK_SALT"
  let keyIterations ← count data "AUTH_PBKDF2_SDER_COUNT"
  return { generation, verifierData, hashIterations, encryptedHalf, keySalt, keyIterations }

/-- The word that the newer hash adds to the salt of its key derivation. -/
def hashSuffix : Bytes := Utf8.encode "AUTH_PBKDF2_SPEEDY_KEY"

/-- The key that the newer hash is made from. -/
def passwordKey (primitives : Primitives) (challenge : Challenge) (password : Bytes) : Bytes :=
  primitives.deriveKey password (challenge.verifierData ++ hashSuffix) challenge.hashIterations 64

/-- The hash of a password. -/
def passwordHash (primitives : Primitives) (challenge : Challenge) (password : Bytes) : Bytes :=
  match challenge.generation with
  | .legacy11g => primitives.sha1 (password ++ challenge.verifierData) ++ [0, 0, 0, 0]
  | .modern12c =>
    (primitives.sha512 (challenge.passwordKey primitives password ++ challenge.verifierData)).take
      32

/-- The key derived from the client's and the server's half of the session key. -/
def comboKey (primitives : Primitives) (challenge : Challenge) (client server : Bytes) : Bytes :=
  let length := challenge.generation.keyLength
  primitives.deriveKey (Utf8.encode (Hex.upper (client.take length ++ server.take length)))
    challenge.keySalt challenge.keyIterations length

end Challenge

/-! ## The answer -/

/-- The client's answer to a challenge. Texts are hexadecimal. -/
structure Verifier where
  /-- The generation of the password hash. -/
  generation : VerifierGeneration
  /-- The client's half of the session key. -/
  sessionKey : String
  /-- The key that the newer hash is made from. -/
  speedyKey : Option String
  /-- The password. -/
  password : String
  /-- The password that is to take its place. -/
  newPassword : Option String
  /-- The key derived from both halves of the session key. -/
  comboKey : Bytes
  deriving DecidableEq

namespace Verifier

/-- The octets of the client's half of the session key. -/
def halfLength : Nat := 32

/-- The hexadecimal digits of the encrypted half that are sent. -/
def sessionKeyDigits : Nat := 64

/-- The octets of the encrypted derived key that are sent. -/
def speedyKeyLength : Nat := 80

/-- The octets of a salt. -/
def saltLength : Nat := 16

/-- A secret behind a salt, encrypted. -/
def encryptSalted (primitives : Primitives) (key salt secret : Bytes) : Except AuthError String :=
  return Hex.upper (← primitives.encrypt key (salt ++ secret))

/-- There has to be enough of the server's half for a key. -/
def enough (challenge : Challenge) (server : Bytes) : Except AuthError Unit :=
  if server.length < challenge.generation.keyLength then .error (.invalidParameter "AUTH_SESSKEY")
  else .ok ()

/-- The key that the newer hash is made from, behind a salt, encrypted. The older hash is made from
no key, and then no salt is drawn. -/
def deriveSpeedyKey (primitives : Primitives) (challenge : Challenge) (password key : Bytes) :
    Drawing AuthError (Option String) :=
  match challenge.generation with
  | .legacy11g => pure none
  | .modern12c => do
    let salt ← Drawing.octets saltLength
    let encrypted ← Drawing.ofExcept
      (primitives.encrypt key (salt ++ challenge.passwordKey primitives password))
    return some (Hex.upper (encrypted.take speedyKeyLength))

/-- The passwords behind a salt, encrypted. -/
def derivePasswords (primitives : Primitives) (credentials : Credentials) (key salt : Bytes) :
    Except AuthError (String × Option String) := do
  let encoded ← encryptSalted primitives key salt credentials.password.octets
  let newEncoded ←
    credentials.newPassword.mapM fun secret => encryptSalted primitives key salt secret.octets
  return (encoded, newEncoded)

/-- The answer to the challenge in the data that the server sent. Random octets are drawn for the
client's half, for the salt of the derived key, if that is sent, and for the salt of the passwords,
in this order, once the challenge has proved to be in order. -/
def derive (primitives : Primitives) (credentials : Credentials) (data : SessionData) :
    Drawing AuthError Verifier := do
  let challenge ← Drawing.ofExcept (Challenge.ofSession data)
  let password := credentials.password.octets
  let hash := challenge.passwordHash primitives password
  let server ← Drawing.ofExcept (primitives.decrypt hash challenge.encryptedHalf)
  let _ ← Drawing.ofExcept (enough challenge server)
  let client ← Drawing.octets halfLength
  let sessionKey ← Drawing.ofExcept (primitives.encrypt hash client)
  let key := challenge.comboKey primitives client server
  let speedyKey ← deriveSpeedyKey primitives challenge password key
  let salt ← Drawing.octets saltLength
  let (encoded, newEncoded) ←
    Drawing.ofExcept (derivePasswords primitives credentials key salt)
  return {
    generation := challenge.generation
    sessionKey := String.ofList ((Hex.upper sessionKey).toList.take sessionKeyDigits)
    speedyKey
    password := encoded
    newPassword := newEncoded
    comboKey := key }

/-- The answer with octets from a source, and what is left of the source. -/
def generate (primitives : Primitives) (credentials : Credentials) (data : SessionData)
    (source : RandomSource) : Except AuthError Verifier × RandomSource :=
  (derive primitives credentials data).run source

/-- The octets by which the server proves that it has the key, behind sixteen others. -/
def serverMark : Bytes := Utf8.encode "SERVER_TO_CLIENT"

/-- Checks the server's proof that it has the key, if it sent one. -/
def check (primitives : Primitives) (verifier : Verifier) (data : SessionData) :
    Except AuthError Unit :=
  match data.value? "AUTH_SVR_RESPONSE" with
  | none => .ok ()
  | some text =>
    match Hex.decode? text with
    | none => .error (.invalidParameter "AUTH_SVR_RESPONSE")
    | some encrypted => do
      let response ← primitives.decrypt verifier.comboKey encrypted
      if (response.drop 16).take 16 ≠ serverMark then
        throw .serverVerificationFailed

/-- A verifier on one line: only the generation, since the rest is key material. -/
def shown (verifier : Verifier) : String :=
  Text.outlinePart "VerifierResponse" [("generation", verifier.generation.name)]

end Verifier

end TnsClient
