import Mathlib.Tactic.Lemma
import TnsClient.Logon.Verifier
import TnsClient.Proofs.Crypto.Aes
import TnsClient.Proofs.Crypto.BlockChaining

set_option autoImplicit false

/-!
# What a logon takes for granted

The answer to a challenge does not depend on what a hash function makes of its octets, but on how
many octets it makes, and it takes for granted that whoever has a key can read what was encrypted
under it. The primitives in use keep to this.

## Main definitions

* `TnsClient.Primitives.Lawful` — what is taken for granted.

## Main results

* `TnsClient.HashFunction.length_deriveKey` — a derived key has the length asked for.
* `TnsClient.Primitives.standard_lawful` — the primitives in use.
-/

namespace TnsClient

/-! ## Lengths -/

lemma Sha1.length_hash (message : Bytes) : (Sha1.hash message).length = 20 := by
  simp [Sha1.hash, Sha1.State.octets, beBytes32]

lemma Sha512.length_hash (message : Bytes) : (Sha512.hash message).length = 64 := by
  simp [Sha512.hash, Sha512.State.octets, beBytes64]

namespace HashFunction

variable {function : HashFunction} {size : Nat}

/-- Sums of digests are as long as a digest. -/
lemma length_iterateXor {step : Bytes → Bytes} (hstep : ∀ value, (step value).length = size)
    {value sum : Bytes} (hsum : sum.length = size) (count : Nat) :
    (iterateXor step count value sum).length = size := by
  induction count generalizing value sum with
  | zero => exact hsum
  | succ count ih => exact ih (by rw [length_xorBytes, hsum, hstep, Nat.min_self])

/-- A block of a derived key is as long as a digest. -/
lemma length_keyBlock (hhash : ∀ message, (function.hash message).length = size)
    (password salt : Bytes) (iterations number : Nat) :
    (function.keyBlock password salt iterations number).length = size :=
  length_iterateXor (fun _ => hhash _) (hhash _) _

/-- There are enough blocks, since each has at least one octet. -/
lemma length_keyBlocks (hpos : 0 < size) (hhash : ∀ message, (function.hash message).length = size)
    (password salt : Bytes) (iterations number : Nat) {fuel length : Nat} (hfuel : length ≤ fuel) :
    (function.keyBlocks password salt iterations fuel number length).length = length := by
  induction fuel generalizing number length with
  | zero => rw [Nat.le_zero.1 hfuel]; rfl
  | succ fuel ih =>
    have hblock := length_keyBlock hhash password salt iterations number
    rw [keyBlocks]
    split
    · next hzero => rw [hzero]; rfl
    · have hless : length - size ≤ fuel := by omega
      have hrest := ih (number + 1) hless
      rw [List.length_append, List.length_take, hblock, hrest]
      omega

/-- **A derived key** has the length asked for. -/
theorem length_deriveKey (hpos : 0 < size)
    (hhash : ∀ message, (function.hash message).length = size) (password salt : Bytes)
    (iterations length : Nat) :
    (function.deriveKey password salt iterations length).length = length :=
  length_keyBlocks hpos hhash password salt iterations 1 (Nat.le_refl length)

end HashFunction

/-! ## Primitives -/

namespace Primitives

/-- What a logon takes for granted of its primitives: how long digests and derived keys are, and
that the cipher can be inverted under keys of both lengths. -/
structure Lawful (primitives : Primitives) : Prop where
  /-- The digest of the older hash. -/
  length_sha1 : ∀ message, (primitives.sha1 message).length = 20
  /-- The digest of the newer hash. -/
  length_sha512 : ∀ message, (primitives.sha512 message).length = 64
  /-- A derived key. -/
  length_deriveKey : ∀ password salt iterations length,
    (primitives.deriveKey password salt iterations length).length = length
  /-- Whoever has the key can decrypt. -/
  invertibleAt : ∀ key : Bytes, isKeyLength key.length = true → primitives.cipher.InvertibleAt key

/-- **The primitives in use** are as they should be. -/
theorem standard_lawful : standard.Lawful where
  length_sha1 := Sha1.length_hash
  length_sha512 := Sha512.length_hash
  length_deriveKey := HashFunction.length_deriveKey (by decide) Sha512.length_hash
  invertibleAt key _ := {
    length_encryptBlock := fun _ => Aes.length_encryptBlock key
    decryptBlock_encryptBlock := fun _ => Aes.decryptBlock_encryptBlock key }

variable {primitives : Primitives} {key : Bytes}

/-- A message is encrypted after it has been padded. -/
lemma encrypt_eq_ok (hkey : isKeyLength key.length = true) (message : Bytes) :
    primitives.encrypt key message = .ok (primitives.cipher.encrypt key (padToBlock message)) := by
  rw [encrypt, if_pos hkey]

/-- The cipher in use neither adds nor removes octets where it decrypts. -/
lemma length_standard_decrypt (key : Bytes) {encrypted : Bytes}
    (h : encrypted.length % cipherBlockSize = 0) :
    (standard.cipher.decrypt key encrypted).length = encrypted.length :=
  BlockCipher.length_decrypt (fun _ => Aes.length_decryptBlock key) h

end Primitives

end TnsClient
