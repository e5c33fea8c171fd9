import TnsClient.Crypto.KeyDerivation

set_option autoImplicit false

/-!
# Cipher block chaining

Encryption of more than one block with a cipher for one block: each block is combined with the
encryption of the one in front of it, and the first one with an initial block. A message that need
not be whole blocks is padded first, by between one and sixteen octets that each give their number.

## Main definitions

* `TnsClient.BlockCipher` — a cipher for blocks of 16 octets.
* `TnsClient.BlockCipher.encrypt`, `TnsClient.BlockCipher.decrypt` — chaining.
* `TnsClient.padToBlock`, `TnsClient.unpad?` — padding.
-/

namespace TnsClient

/-- The octets of a block. -/
def cipherBlockSize : Nat := 16

/-- A cipher for single blocks. -/
structure BlockCipher where
  /-- Encrypts a block under a key. -/
  encryptBlock : (key block : Bytes) → Bytes
  /-- Decrypts a block under a key. -/
  decryptBlock : (key block : Bytes) → Bytes

namespace BlockCipher

/-- Encrypts blocks behind the encrypted block `before`. -/
def chain (encrypt : Bytes → Bytes) (before : Bytes) : List Bytes → List Bytes
  | [] => []
  | block :: rest =>
    let encrypted := encrypt (xorBytes block before)
    encrypted :: chain encrypt encrypted rest

/-- Decrypts blocks behind the encrypted block `before`. -/
def unchain (decrypt : Bytes → Bytes) (before : Bytes) : List Bytes → List Bytes
  | [] => []
  | encrypted :: rest => xorBytes (decrypt encrypted) before :: unchain decrypt encrypted rest

/-- The initial block: zeros. -/
def zeroBlock : Bytes := List.replicate cipherBlockSize 0

/-- Encrypts whole blocks. -/
def encrypt (cipher : BlockCipher) (key plain : Bytes) : Bytes :=
  (chain (cipher.encryptBlock key) zeroBlock (pieces cipherBlockSize plain)).flatten

/-- Decrypts whole blocks. -/
def decrypt (cipher : BlockCipher) (key encrypted : Bytes) : Bytes :=
  (unchain (cipher.decryptBlock key) zeroBlock (pieces cipherBlockSize encrypted)).flatten

end BlockCipher

/-! ## Padding -/

/-- A message filled up to whole blocks by octets that give their number. -/
def padToBlock (message : Bytes) : Bytes :=
  let missing := cipherBlockSize - message.length % cipherBlockSize
  message ++ List.replicate missing (UInt8.ofNat missing)

end TnsClient
