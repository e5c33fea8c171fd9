import TnsClient.Crypto.KeyDerivation

set_option autoImplicit false

/-!
# AES

The block cipher of FIPS 197 for keys of 24 and 32 octets. A block of 16 octets is four words of
four octets; a round substitutes each octet, moves the octets of row `r` by `r` words, mixes the
octets of each word, and adds a word of the key schedule to each word.

## Main definitions

* `TnsClient.Aes.encryptBlock`, `TnsClient.Aes.decryptBlock` — the cipher and its inverse.
-/

namespace TnsClient.Aes

/-! ## Octets -/

/-- The substitution of an octet. -/
def substitutions : Array UInt8 :=
  #[0x63, 0x7c, 0x77, 0x7b, 0xf2, 0x6b, 0x6f, 0xc5, 0x30, 0x01, 0x67, 0x2b, 0xfe, 0xd7, 0xab, 0x76,
    0xca, 0x82, 0xc9, 0x7d, 0xfa, 0x59, 0x47, 0xf0, 0xad, 0xd4, 0xa2, 0xaf, 0x9c, 0xa4, 0x72, 0xc0,
    0xb7, 0xfd, 0x93, 0x26, 0x36, 0x3f, 0xf7, 0xcc, 0x34, 0xa5, 0xe5, 0xf1, 0x71, 0xd8, 0x31, 0x15,
    0x04, 0xc7, 0x23, 0xc3, 0x18, 0x96, 0x05, 0x9a, 0x07, 0x12, 0x80, 0xe2, 0xeb, 0x27, 0xb2, 0x75,
    0x09, 0x83, 0x2c, 0x1a, 0x1b, 0x6e, 0x5a, 0xa0, 0x52, 0x3b, 0xd6, 0xb3, 0x29, 0xe3, 0x2f, 0x84,
    0x53, 0xd1, 0x00, 0xed, 0x20, 0xfc, 0xb1, 0x5b, 0x6a, 0xcb, 0xbe, 0x39, 0x4a, 0x4c, 0x58, 0xcf,
    0xd0, 0xef, 0xaa, 0xfb, 0x43, 0x4d, 0x33, 0x85, 0x45, 0xf9, 0x02, 0x7f, 0x50, 0x3c, 0x9f, 0xa8,
    0x51, 0xa3, 0x40, 0x8f, 0x92, 0x9d, 0x38, 0xf5, 0xbc, 0xb6, 0xda, 0x21, 0x10, 0xff, 0xf3, 0xd2,
    0xcd, 0x0c, 0x13, 0xec, 0x5f, 0x97, 0x44, 0x17, 0xc4, 0xa7, 0x7e, 0x3d, 0x64, 0x5d, 0x19, 0x73,
    0x60, 0x81, 0x4f, 0xdc, 0x22, 0x2a, 0x90, 0x88, 0x46, 0xee, 0xb8, 0x14, 0xde, 0x5e, 0x0b, 0xdb,
    0xe0, 0x32, 0x3a, 0x0a, 0x49, 0x06, 0x24, 0x5c, 0xc2, 0xd3, 0xac, 0x62, 0x91, 0x95, 0xe4, 0x79,
    0xe7, 0xc8, 0x37, 0x6d, 0x8d, 0xd5, 0x4e, 0xa9, 0x6c, 0x56, 0xf4, 0xea, 0x65, 0x7a, 0xae, 0x08,
    0xba, 0x78, 0x25, 0x2e, 0x1c, 0xa6, 0xb4, 0xc6, 0xe8, 0xdd, 0x74, 0x1f, 0x4b, 0xbd, 0x8b, 0x8a,
    0x70, 0x3e, 0xb5, 0x66, 0x48, 0x03, 0xf6, 0x0e, 0x61, 0x35, 0x57, 0xb9, 0x86, 0xc1, 0x1d, 0x9e,
    0xe1, 0xf8, 0x98, 0x11, 0x69, 0xd9, 0x8e, 0x94, 0x9b, 0x1e, 0x87, 0xe9, 0xce, 0x55, 0x28, 0xdf,
    0x8c, 0xa1, 0x89, 0x0d, 0xbf, 0xe6, 0x42, 0x68, 0x41, 0x99, 0x2d, 0x0f, 0xb0, 0x54, 0xbb, 0x16]

/-- The inverse of `substitutions`. -/
def inverseSubstitutions : Array UInt8 :=
  #[0x52, 0x09, 0x6a, 0xd5, 0x30, 0x36, 0xa5, 0x38, 0xbf, 0x40, 0xa3, 0x9e, 0x81, 0xf3, 0xd7, 0xfb,
    0x7c, 0xe3, 0x39, 0x82, 0x9b, 0x2f, 0xff, 0x87, 0x34, 0x8e, 0x43, 0x44, 0xc4, 0xde, 0xe9, 0xcb,
    0x54, 0x7b, 0x94, 0x32, 0xa6, 0xc2, 0x23, 0x3d, 0xee, 0x4c, 0x95, 0x0b, 0x42, 0xfa, 0xc3, 0x4e,
    0x08, 0x2e, 0xa1, 0x66, 0x28, 0xd9, 0x24, 0xb2, 0x76, 0x5b, 0xa2, 0x49, 0x6d, 0x8b, 0xd1, 0x25,
    0x72, 0xf8, 0xf6, 0x64, 0x86, 0x68, 0x98, 0x16, 0xd4, 0xa4, 0x5c, 0xcc, 0x5d, 0x65, 0xb6, 0x92,
    0x6c, 0x70, 0x48, 0x50, 0xfd, 0xed, 0xb9, 0xda, 0x5e, 0x15, 0x46, 0x57, 0xa7, 0x8d, 0x9d, 0x84,
    0x90, 0xd8, 0xab, 0x00, 0x8c, 0xbc, 0xd3, 0x0a, 0xf7, 0xe4, 0x58, 0x05, 0xb8, 0xb3, 0x45, 0x06,
    0xd0, 0x2c, 0x1e, 0x8f, 0xca, 0x3f, 0x0f, 0x02, 0xc1, 0xaf, 0xbd, 0x03, 0x01, 0x13, 0x8a, 0x6b,
    0x3a, 0x91, 0x11, 0x41, 0x4f, 0x67, 0xdc, 0xea, 0x97, 0xf2, 0xcf, 0xce, 0xf0, 0xb4, 0xe6, 0x73,
    0x96, 0xac, 0x74, 0x22, 0xe7, 0xad, 0x35, 0x85, 0xe2, 0xf9, 0x37, 0xe8, 0x1c, 0x75, 0xdf, 0x6e,
    0x47, 0xf1, 0x1a, 0x71, 0x1d, 0x29, 0xc5, 0x89, 0x6f, 0xb7, 0x62, 0x0e, 0xaa, 0x18, 0xbe, 0x1b,
    0xfc, 0x56, 0x3e, 0x4b, 0xc6, 0xd2, 0x79, 0x20, 0x9a, 0xdb, 0xc0, 0xfe, 0x78, 0xcd, 0x5a, 0xf4,
    0x1f, 0xdd, 0xa8, 0x33, 0x88, 0x07, 0xc7, 0x31, 0xb1, 0x12, 0x10, 0x59, 0x27, 0x80, 0xec, 0x5f,
    0x60, 0x51, 0x7f, 0xa9, 0x19, 0xb5, 0x4a, 0x0d, 0x2d, 0xe5, 0x7a, 0x9f, 0x93, 0xc9, 0x9c, 0xef,
    0xa0, 0xe0, 0x3b, 0x4d, 0xae, 0x2a, 0xf5, 0xb0, 0xc8, 0xeb, 0xbb, 0x3c, 0x83, 0x53, 0x99, 0x61,
    0x17, 0x2b, 0x04, 0x7e, 0xba, 0x77, 0xd6, 0x26, 0xe1, 0x69, 0x14, 0x63, 0x55, 0x21, 0x0c, 0x7d]

/-- Substitutes an octet. -/
def substitute (octet : UInt8) : UInt8 := substitutions.getD octet.toNat 0

/-- Undoes the substitution of an octet. -/
def unsubstitute (octet : UInt8) : UInt8 := inverseSubstitutions.getD octet.toNat 0

/-- An octet times two, as a polynomial modulo `x^8 + x^4 + x^3 + x + 1`. -/
def double (octet : UInt8) : UInt8 :=
  if octet &&& 0x80 = 0 then octet <<< 1 else (octet <<< 1) ^^^ 0x1B

/-! ## Words -/

/-- Four octets. -/
structure Word where
  b0 : UInt8
  b1 : UInt8
  b2 : UInt8
  b3 : UInt8
  deriving DecidableEq, Repr

/-- The exclusive or of two words. -/
def Word.add (u v : Word) : Word := ⟨u.b0 ^^^ v.b0, u.b1 ^^^ v.b1, u.b2 ^^^ v.b2, u.b3 ^^^ v.b3⟩

/-- A function applied to each octet. -/
def Word.map (f : UInt8 → UInt8) (w : Word) : Word := ⟨f w.b0, f w.b1, f w.b2, f w.b3⟩

/-- The octets moved by one place. -/
def Word.rotate (w : Word) : Word := ⟨w.b1, w.b2, w.b3, w.b0⟩

/-- The mixed octets of a word: its product with the polynomial `3x^3 + x^2 + x + 2`. -/
def Word.mix (w : Word) : Word :=
  let row (p q r s : UInt8) := double p ^^^ (double q ^^^ q) ^^^ r ^^^ s
  ⟨row w.b0 w.b1 w.b2 w.b3, row w.b1 w.b2 w.b3 w.b0, row w.b2 w.b3 w.b0 w.b1,
    row w.b3 w.b0 w.b1 w.b2⟩

/-- The inverse of `Word.mix`: the product with `11x^3 + 13x^2 + 9x + 14`. -/
def Word.unmix (w : Word) : Word :=
  let row (p q r s : UInt8) :=
    let eight (octet : UInt8) := double (double (double octet))
    let four (octet : UInt8) := double (double octet)
    (eight p ^^^ four p ^^^ double p) ^^^ (eight q ^^^ double q ^^^ q) ^^^
      (eight r ^^^ four r ^^^ r) ^^^ (eight s ^^^ s)
  ⟨row w.b0 w.b1 w.b2 w.b3, row w.b1 w.b2 w.b3 w.b0, row w.b2 w.b3 w.b0 w.b1,
    row w.b3 w.b0 w.b1 w.b2⟩

/-! ## Blocks -/

/-- Four words. -/
structure Block where
  w0 : Word
  w1 : Word
  w2 : Word
  w3 : Word
  deriving DecidableEq, Repr

/-- The exclusive or of two blocks. -/
def Block.add (s t : Block) : Block :=
  ⟨s.w0.add t.w0, s.w1.add t.w1, s.w2.add t.w2, s.w3.add t.w3⟩

/-- A function applied to each word. -/
def Block.map (f : Word → Word) (s : Block) : Block := ⟨f s.w0, f s.w1, f s.w2, f s.w3⟩

/-- The octets of row `r` moved by `r` words. -/
def Block.shift (s : Block) : Block :=
  ⟨⟨s.w0.b0, s.w1.b1, s.w2.b2, s.w3.b3⟩, ⟨s.w1.b0, s.w2.b1, s.w3.b2, s.w0.b3⟩,
    ⟨s.w2.b0, s.w3.b1, s.w0.b2, s.w1.b3⟩, ⟨s.w3.b0, s.w0.b1, s.w1.b2, s.w2.b3⟩⟩

/-- The inverse of `Block.shift`. -/
def Block.unshift (s : Block) : Block :=
  ⟨⟨s.w0.b0, s.w3.b1, s.w2.b2, s.w1.b3⟩, ⟨s.w1.b0, s.w0.b1, s.w3.b2, s.w2.b3⟩,
    ⟨s.w2.b0, s.w1.b1, s.w0.b2, s.w3.b3⟩, ⟨s.w3.b0, s.w2.b1, s.w1.b2, s.w0.b3⟩⟩

/-- The words of octets, four each; octets that do not make a word are left out. -/
def wordsOf : Bytes → List Word
  | b0 :: b1 :: b2 :: b3 :: rest => ⟨b0, b1, b2, b3⟩ :: wordsOf rest
  | _ => []

/-- The blocks of words, four each; words that do not make a block are left out. -/
def blocksOf : List Word → List Block
  | w0 :: w1 :: w2 :: w3 :: rest => ⟨w0, w1, w2, w3⟩ :: blocksOf rest
  | _ => []

/-- The octets of a block. -/
def Block.octets (s : Block) : Bytes :=
  [s.w0, s.w1, s.w2, s.w3].flatMap fun w => [w.b0, w.b1, w.b2, w.b3]

/-! ## The key schedule -/

/-- The next word of a key schedule, from the one in front of it and the one a key's length back.
`index` is its place, and `constant` the round constant. -/
def nextWord (keyWords index : Nat) (constant : UInt8) (last old : Word) : Word :=
  let changed :=
    if index % keyWords = 0 then (last.rotate.map substitute).add ⟨constant, 0, 0, 0⟩
    else if 6 < keyWords ∧ index % keyWords = 4 then last.map substitute
    else last
  old.add changed

/-- Extends a key schedule by a number of words. -/
def extendKey (keyWords : Nat) : (count : Nat) → (constant : UInt8) → Array Word → Array Word
  | 0, _, words => words
  | count + 1, constant, words =>
    let index := words.size
    let last := words.getD (index - 1) ⟨0, 0, 0, 0⟩
    let old := words.getD (index - keyWords) ⟨0, 0, 0, 0⟩
    extendKey keyWords count (if index % keyWords = 0 then double constant else constant)
      (words.push (nextWord keyWords index constant last old))

/-- The words of the key for each round: there are six rounds more than the key has words, and one
key in front of them. -/
def roundKeys (key : Bytes) : List Block :=
  let words := wordsOf key
  blocksOf (extendKey words.length (4 * (words.length + 7) - words.length) 1 words.toArray).toList

/-! ## The cipher -/

/-- The rounds of the cipher; the last one does not mix. -/
def rounds (s : Block) : List Block → Block
  | [] => s
  | [key] => ((s.map (Word.map substitute)).shift).add key
  | key :: keys => rounds ((((s.map (Word.map substitute)).shift).map Word.mix).add key) keys

/-- The rounds of the inverse; `keys` are those of the cipher from the last one on, and the first
round does not mix. -/
def unrounds (s : Block) : List Block → Block
  | [] => s
  | [key] => s.add key
  | key :: keys =>
    unrounds ((((s.add key).map Word.unmix).unshift).map (Word.map unsubstitute)) keys

/-- Encrypts a block. -/
def encryptBlock (key block : Bytes) : Bytes :=
  match blocksOf (wordsOf block), roundKeys key with
  | [s], first :: keys => (rounds (s.add first) keys).octets
  | _, _ => block

/-- Decrypts a block. -/
def decryptBlock (key block : Bytes) : Bytes :=
  match blocksOf (wordsOf block), (roundKeys key).reverse with
  | [s], last :: keys =>
    (unrounds (((s.add last).unshift).map (Word.map unsubstitute)) keys).octets
  | _, _ => block

end TnsClient.Aes
