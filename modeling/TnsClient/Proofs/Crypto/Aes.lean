import Mathlib.Logic.Basic
import TnsClient.Crypto.Aes

set_option autoImplicit false

/-!
# Decryption of a block undoes its encryption

The inverse cipher takes the rounds of the cipher back one by one, from the last one on. Each of
their steps has an inverse: the substitution of octets by its table, the moving of rows, the
addition of a round key by being an exclusive or, and the mixing of words by arithmetic. That one
needs no table of products: both mixing and its inverse are sums of doubled octets, so they agree
with sums of words, and they commute with the rotation of a word; it is therefore enough to look at
a word whose other octets are zero.

## Main definitions

* `TnsClient.Aes.round`, `TnsClient.Aes.unround` — a round with mixing, and its inverse.

## Main results

* `TnsClient.Aes.unmix_mix` — the inverse of mixing a word.
* `TnsClient.Aes.length_roundKeys` — the number of round keys.
* `TnsClient.Aes.decryptBlock_encryptBlock` — the inverse of the cipher, whatever the key.
-/

namespace TnsClient.Aes

/-! ## Octets -/

/-- The table of inverse substitutions is the inverse of the table of substitutions. -/
lemma unsubstitute_substitute (octet : UInt8) : unsubstitute (substitute octet) = octet := by
  have htables : ∀ i < 256, unsubstitute (substitute (UInt8.ofNat i)) = UInt8.ofNat i := by
    decide +kernel
  simpa using htables octet.toNat octet.toNat_lt

lemma xor_cancel (a b : UInt8) : a ^^^ (a ^^^ b) = b := by
  rw [← UInt8.xor_assoc, UInt8.xor_self, UInt8.zero_xor]

lemma xor_left_comm (a b c : UInt8) : a ^^^ (b ^^^ c) = b ^^^ (a ^^^ c) := by
  rw [← UInt8.xor_assoc, UInt8.xor_comm a, UInt8.xor_assoc]

lemma topBit_xor (a b : UInt8) : (a ^^^ b) &&& 0x80 = (a &&& 0x80) ^^^ (b &&& 0x80) := by
  apply UInt8.toBitVec_inj.mp
  simp only [UInt8.toBitVec_and, UInt8.toBitVec_xor]
  ext i hi
  simp [Bool.and_xor_distrib_right]

lemma topBit_eq (octet : UInt8) : octet &&& 0x80 = 0 ∨ octet &&& 0x80 = 0x80 := by
  have hbits : ∀ i < 256, UInt8.ofNat i &&& 0x80 = 0 ∨ UInt8.ofNat i &&& 0x80 = 0x80 := by
    decide +kernel
  simpa using hbits octet.toNat octet.toNat_lt

lemma double_zero : double 0 = 0 := by decide

/-- Doubling agrees with sums: the polynomial that reduces a product is added as often as there is
a top bit among the summands, and twice is not at all. -/
lemma double_xor (a b : UInt8) : double (a ^^^ b) = double a ^^^ double b := by
  rcases topBit_eq a with ha | ha <;> rcases topBit_eq b with hb | hb <;>
    simp [double, topBit_xor, ha, hb, UInt8.shiftLeft_xor, UInt8.xor_assoc, UInt8.xor_comm,
      xor_left_comm]

/-! ## Words -/

lemma mix_add (u v : Word) : (u.add v).mix = u.mix.add v.mix := by
  simp only [Word.mix, Word.add, double_xor, Word.mk.injEq]
  refine ⟨?_, ?_, ?_, ?_⟩ <;> ac_rfl

lemma unmix_add (u v : Word) : (u.add v).unmix = u.unmix.add v.unmix := by
  simp only [Word.unmix, Word.add, double_xor, Word.mk.injEq]
  refine ⟨?_, ?_, ?_, ?_⟩ <;> ac_rfl

lemma mix_rotate (w : Word) : w.rotate.mix = w.mix.rotate := rfl

lemma unmix_rotate (w : Word) : w.rotate.unmix = w.unmix.rotate := rfl

/-- A word with nothing but a first octet. -/
def single (octet : UInt8) : Word := ⟨octet, 0, 0, 0⟩

/-- Whatever is added up from one octet cancels, but for that octet. -/
lemma unmix_mix_single (octet : UInt8) : (single octet).mix.unmix = single octet := by
  simp only [single, Word.mix, Word.unmix, double_xor, double_zero, UInt8.xor_assoc,
    UInt8.xor_zero, UInt8.zero_xor, UInt8.xor_self, xor_cancel, Word.mk.injEq]
  refine ⟨?_, ?_, ?_, ?_⟩ <;>
    simp only [UInt8.xor_comm, xor_left_comm, xor_cancel, UInt8.xor_self, UInt8.xor_zero]

/-- A word as a sum of rotated words with nothing but a first octet. -/
lemma eq_add_single (w : Word) :
    w = (single w.b0).add ((single w.b1).rotate.rotate.rotate.add
      ((single w.b2).rotate.rotate.add (single w.b3).rotate)) := by
  simp [single, Word.add, Word.rotate]

/-- Unmixing a word undoes its mixing. -/
lemma unmix_mix (w : Word) : w.mix.unmix = w := by
  rw [eq_add_single w]
  simp only [mix_add, unmix_add, mix_rotate, unmix_rotate, unmix_mix_single]

/-! ## Blocks -/

lemma add_add_cancel (s t : Block) : (s.add t).add t = s := by
  simp only [Block.add, Word.add, UInt8.xor_assoc, UInt8.xor_self, UInt8.xor_zero]

lemma unshift_shift (s : Block) : s.shift.unshift = s := rfl

lemma map_unmix_map_mix (s : Block) : (s.map Word.mix).map Word.unmix = s := by
  simp [Block.map, unmix_mix]

lemma map_unsubstitute_map_substitute (s : Block) :
    (s.map (Word.map substitute)).map (Word.map unsubstitute) = s := by
  simp [Block.map, Word.map, unsubstitute_substitute]

lemma length_octets (s : Block) : s.octets.length = 16 := rfl

lemma blocksOf_wordsOf_octets (s : Block) : blocksOf (wordsOf s.octets) = [s] := rfl

/-- Sixteen octets are those of a block. -/
lemma exists_octets_eq {block : Bytes} (h : block.length = 16) : ∃ s : Block, s.octets = block := by
  match block, h with
  | [a0, a1, a2, a3, b0, b1, b2, b3, c0, c1, c2, c3, d0, d1, d2, d3], _ =>
    exact ⟨⟨⟨a0, a1, a2, a3⟩, ⟨b0, b1, b2, b3⟩, ⟨c0, c1, c2, c3⟩, ⟨d0, d1, d2, d3⟩⟩, rfl⟩

/-! ## The key schedule -/

lemma length_wordsOf (octets : Bytes) : (wordsOf octets).length = octets.length / 4 := by
  induction octets using wordsOf.induct with
  | case1 b0 b1 b2 b3 rest ih => simp only [wordsOf, List.length_cons, ih]; omega
  | case2 octets hshort =>
    match octets, hshort with
    | [], _ | [_], _ | [_, _], _ | [_, _, _], _ => simp [wordsOf]
    | b0 :: b1 :: b2 :: b3 :: rest, hshort => exact absurd rfl (hshort b0 b1 b2 b3 rest)

lemma length_blocksOf (words : List Word) : (blocksOf words).length = words.length / 4 := by
  induction words using blocksOf.induct with
  | case1 w0 w1 w2 w3 rest ih => simp only [blocksOf, List.length_cons, ih]; omega
  | case2 words hshort =>
    match words, hshort with
    | [], _ | [_], _ | [_, _], _ | [_, _, _], _ => simp [blocksOf]
    | w0 :: w1 :: w2 :: w3 :: rest, hshort => exact absurd rfl (hshort w0 w1 w2 w3 rest)

lemma size_extendKey (keyWords count : Nat) (constant : UInt8) (words : Array Word) :
    (extendKey keyWords count constant words).size = words.size + count := by
  induction count generalizing constant words with
  | zero => rfl
  | succ count ih => simp only [extendKey, ih, Array.size_push]; omega

/-- There is a key for each round, and one in front of them. -/
theorem length_roundKeys (key : Bytes) : (roundKeys key).length = key.length / 4 + 7 := by
  simp only [roundKeys, length_blocksOf, Array.length_toList, size_extendKey, List.size_toArray,
    length_wordsOf]
  omega

/-! ## Rounds -/

/-- A round that mixes. -/
def round (s key : Block) : Block :=
  (((s.map (Word.map substitute)).shift).map Word.mix).add key

/-- The inverse of a round that mixes. -/
def unround (s key : Block) : Block :=
  (((s.add key).map Word.unmix).unshift).map (Word.map unsubstitute)

lemma rounds_cons (s key : Block) {keys : List Block} (h : keys ≠ []) :
    rounds s (key :: keys) = rounds (round s key) keys := by
  obtain ⟨next, keys, rfl⟩ := List.exists_cons_of_ne_nil h
  simp only [rounds, round]

lemma unrounds_cons (s key : Block) {keys : List Block} (h : keys ≠ []) :
    unrounds s (key :: keys) = unrounds (unround s key) keys := by
  obtain ⟨next, keys, rfl⟩ := List.exists_cons_of_ne_nil h
  -- Both sides unfold to the same recursion; a search for a closed form would open the tables.
  delta unrounds
  rfl

/-- The rounds of the cipher are those that mix, and the last one. -/
lemma rounds_concat (s : Block) (keys : List Block) (last : Block) :
    rounds s (keys ++ [last])
      = (((keys.foldl round s).map (Word.map substitute)).shift).add last := by
  induction keys generalizing s with
  | nil => rfl
  | cons key keys ih => rw [List.cons_append, rounds_cons s key (by simp), ih, List.foldl_cons]

/-- The rounds of the inverse are the inverses of those that mix, and a last key. -/
lemma unrounds_concat (s : Block) (keys : List Block) (first : Block) :
    unrounds s (keys ++ [first]) = (keys.foldl unround s).add first := by
  induction keys generalizing s with
  | nil => rfl
  | cons key keys ih => rw [List.cons_append, unrounds_cons s key (by simp), ih, List.foldl_cons]

lemma unround_round (s key : Block) : unround (round s key) key = s := by
  rw [unround, round, add_add_cancel, map_unmix_map_mix, unshift_shift,
    map_unsubstitute_map_substitute]

/-- Rounds are taken back from the last one on. -/
lemma foldl_unround_foldl_round (s : Block) (keys : List Block) :
    keys.reverse.foldl unround (keys.foldl round s) = s := by
  induction keys generalizing s with
  | nil => rfl
  | cons key keys ih =>
    have hrest := ih (round s key)
    simp only [List.foldl_cons, List.reverse_cons, List.foldl_append, hrest, List.foldl_nil,
      unround_round]

/-! ## The cipher -/

/-- There are at least two round keys: one in front of the rounds, and that of the last round. -/
lemma exists_roundKeys_eq (key : Bytes) :
    ∃ first keys last, roundKeys key = first :: (keys ++ [last]) := by
  have hlength := length_roundKeys key
  rcases hkeys : roundKeys key with _ | ⟨first, rest⟩
  · simp [hkeys] at hlength
  · rcases rest.eq_nil_or_concat with rfl | ⟨keys, last, rfl⟩
    · simp [hkeys] at hlength
    · exact ⟨first, keys, last, by simp⟩

/-- Encryption of a block, from the keys in front, in the midst and at the end. -/
lemma encryptBlock_octets {key : Bytes} {first last : Block} {keys : List Block} (s : Block)
    (hkeys : roundKeys key = first :: (keys ++ [last])) :
    encryptBlock key s.octets
      = ((((keys.foldl round (s.add first)).map (Word.map substitute)).shift).add last).octets := by
  simp only [encryptBlock, blocksOf_wordsOf_octets, hkeys, rounds_concat]

/-- Decryption of a block, from the keys in front, in the midst and at the end. -/
lemma decryptBlock_octets {key : Bytes} {first last : Block} {keys : List Block} (s : Block)
    (hkeys : roundKeys key = first :: (keys ++ [last])) :
    decryptBlock key s.octets
      = ((keys.reverse.foldl unround
          (((s.add last).unshift).map (Word.map unsubstitute))).add first).octets := by
  have hreverse : (roundKeys key).reverse = last :: (keys.reverse ++ [first]) := by simp [hkeys]
  simp only [decryptBlock, blocksOf_wordsOf_octets, hreverse, unrounds_concat]

/-- The encryption of a block is a block. -/
theorem length_encryptBlock (key : Bytes) {block : Bytes} (h : block.length = 16) :
    (encryptBlock key block).length = 16 := by
  obtain ⟨s, rfl⟩ := exists_octets_eq h
  obtain ⟨first, keys, last, hkeys⟩ := exists_roundKeys_eq key
  rw [encryptBlock_octets s hkeys, length_octets]

/-- The decryption of a block is a block. -/
theorem length_decryptBlock (key : Bytes) {block : Bytes} (h : block.length = 16) :
    (decryptBlock key block).length = 16 := by
  obtain ⟨s, rfl⟩ := exists_octets_eq h
  obtain ⟨first, keys, last, hkeys⟩ := exists_roundKeys_eq key
  rw [decryptBlock_octets s hkeys, length_octets]

/-- **Decrypting a block undoes its encryption**, whatever the key. -/
theorem decryptBlock_encryptBlock (key : Bytes) {block : Bytes} (h : block.length = 16) :
    decryptBlock key (encryptBlock key block) = block := by
  obtain ⟨s, rfl⟩ := exists_octets_eq h
  obtain ⟨first, keys, last, hkeys⟩ := exists_roundKeys_eq key
  rw [encryptBlock_octets s hkeys, decryptBlock_octets _ hkeys, add_add_cancel, unshift_shift,
    map_unsubstitute_map_substitute, foldl_unround_foldl_round, add_add_cancel]

end TnsClient.Aes
