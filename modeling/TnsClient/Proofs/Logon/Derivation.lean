import TnsClient.Proofs.Logon.KeyAgreement

set_option autoImplicit false

/-!
# What is drawn for an answer

All that can be wrong with a challenge is found out before a single random octet is drawn for the
answer to it. So the answer is refused with all randomness left where it was, or it is given, and
then it takes as many octets as its generation of password hashes does.

## Main definitions

* `TnsClient.Verifier.counts` — how many octets are drawn, one time after the other.

## Main results

* `TnsClient.Verifier.derive_settles` — the answer fails at once, or draws all that it needs and
  succeeds.
-/

namespace TnsClient

namespace Verifier

/-! ## What it demands and draws -/

/-- The numbers of octets that are drawn for an answer, one time after the other: the client's half,
the salt of the key that the newer hash is made from, and the salt of the passwords. -/
def counts (data : SessionData) : List Nat :=
  32 :: ((if Challenge.hashType data = Challenge.modernType then [16] else []) ++ [16])

/-- The server's half is decrypted if it is whole blocks, and keeps its length. -/
lemma decrypt_checks {key : Bytes} (hkey : Primitives.isKeyLength key.length = true)
    (encrypted : Bytes) :
    Checks [⟨encrypted.length % cipherBlockSize = 0, .cipher .unaligned⟩]
      (Primitives.standard.decrypt key encrypted) fun plain => plain.length = encrypted.length := by
  unfold Primitives.decrypt
  simp only [hkey, Bool.not_true, Bool.false_eq_true, if_false]
  refine .single (fun haligned => ⟨_, if_neg (not_not_intro haligned), ?_⟩) fun hnot => if_pos hnot
  exact Primitives.length_standard_decrypt key haligned

/-- There is enough of the server's half if it is as long as a key. -/
lemma enough_checks (challenge : Challenge) (server : Bytes) :
    Checks [⟨challenge.generation.keyLength ≤ server.length, .invalidParameter "AUTH_SESSKEY"⟩]
      (enough challenge server) fun _ => True :=
  .single (fun hle => ⟨(), if_neg (Nat.not_lt.2 hle), trivial⟩) fun hnot =>
    if_pos (Nat.not_le.1 hnot)

section

variable {primitives : Primitives} {key : Bytes}

/-- The salt of the key that the newer hash is made from is drawn; for the older one there is
none. -/
lemma draws_deriveSpeedyKey (hkey : Primitives.isKeyLength key.length = true) {data : SessionData}
    {challenge : Challenge}
    (hgeneration :
      challenge.generation = .modern12c ↔ Challenge.hashType data = Challenge.modernType)
    (password : Bytes) :
    (deriveSpeedyKey primitives challenge password key).Draws
      (if Challenge.hashType data = Challenge.modernType then [16] else []) := by
  rw [← if_congr hgeneration rfl rfl, deriveSpeedyKey]
  cases challenge.generation with
  | legacy11g => exact Drawing.draws_pure none
  | modern12c =>
    refine (Drawing.draws_octets saltLength).bind fun salt => ?_
    exact (Drawing.draws_ofExcept (Primitives.encrypt_eq_ok hkey _)).bind fun _ =>
      Drawing.draws_pure _

/-- Passwords are encrypted under every key. -/
lemma exists_derivePasswords_eq (hkey : Primitives.isKeyLength key.length = true)
    (credentials : Credentials) (salt : Bytes) :
    ∃ texts, derivePasswords primitives credentials key salt = .ok texts := by
  have hsecret : ∀ secret, encryptSalted primitives key salt secret =
      .ok (Hex.upper (primitives.cipher.encrypt key (padToBlock (salt ++ secret)))) := by
    intro secret
    rw [encryptSalted, Primitives.encrypt_eq_ok hkey]
    rfl
  unfold derivePasswords
  cases credentials.newPassword with
  | none => exact ⟨_, by rw [hsecret]; rfl⟩
  | some secret => exact ⟨_, by simp only [Option.mapM_some, hsecret]; rfl⟩

end

/-- **All or nothing.** The computation fails at once, with the error of the first demand that is
not met; where all are met, it draws all that an answer takes, whatever octets come, and succeeds.

**Proof sketch.** All that can go wrong is checked in front of the first draw. Behind it octets are
only encrypted, under the password hash and under the key derived from both halves, and these have
the lengths of keys whatever octets were drawn. -/
theorem derive_settles (credentials : Credentials) (data : SessionData) :
    (derive .standard credentials data).Settles (Challenge.demands data) (counts data) := by
  have hlawful := Primitives.standard_lawful
  refine Drawing.Settles.bind Challenge.ofSession_checks fun challenge hchallenge => ?_
  obtain ⟨hgeneration, hhalf⟩ := hchallenge
  have hhash := hlawful.isKeyLength_passwordHash challenge credentials.password.octets
  have hlength : Challenge.keyLength data = challenge.generation.keyLength := by
    rw [Challenge.keyLength, ← if_congr hgeneration rfl rfl]
    cases challenge.generation <;> rfl
  unfold Challenge.halfDemands
  rw [hlength, ← hhalf]
  refine Drawing.Settles.bind (decrypt_checks hhash _) fun server hserver => ?_
  rw [← hserver]
  refine Drawing.Settles.bind (enough_checks challenge server) fun _ _ => .of_draws ?_
  refine (Drawing.draws_octets halfLength).bind fun client => ?_
  have hkey := hlawful.isKeyLength_comboKey challenge client server
  refine (Drawing.draws_ofExcept (Primitives.encrypt_eq_ok hhash client)).bind fun sessionKey => ?_
  refine (draws_deriveSpeedyKey hkey hgeneration _).bind fun speedyKey => ?_
  refine (Drawing.draws_octets saltLength).bind fun salt => ?_
  obtain ⟨texts, htexts⟩ := exists_derivePasswords_eq hkey credentials salt
  exact (Drawing.draws_ofExcept htexts).bind fun _ => Drawing.draws_pure _

end Verifier

end TnsClient
