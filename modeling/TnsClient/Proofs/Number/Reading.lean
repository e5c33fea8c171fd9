import Mathlib
import TnsClient.Proofs.Bytes
import TnsClient.Proofs.Number.Encoding

set_option autoImplicit false

/-!
# What octets say

The first octet of a number says the sign and the exponent, and the others stand for base-100
digits. What any octets say is told here without regard to the reader, also where no client would
send them; the reader takes the octets that all stand for digits, and makes its text of these. The
octets that a number is laid out as say its sign, its exponent and its digits.

## Main definitions

* `TnsClient.Number.saysNegative`, `TnsClient.Number.saidExponent` — what the first octet says.
* `TnsClient.Number.saidDigits` — what the other octets stand for.

## Main results

* `TnsClient.Number.decode_eq_ok_iff` — what reading comes to.
* `TnsClient.Number.decode_laidOut` — what the octets of digits are read as.
-/

namespace TnsClient.Number

/-! ## What octets say -/

/-- The first octet belongs to a negative number: its top bit is not set. -/
def saysNegative (first : UInt8) : Bool := decide (first.toNat < 128)

/-- The exponent that the first octet says, in excess of 192; the octet of a negative number is
complemented. -/
def saidExponent (first : UInt8) : Int :=
  (if saysNegative first then 255 - (first.toNat : Int) else first.toNat) - 192

/-- The base-100 digit that an octet stands for, be it in range or not. -/
def saidDigit (negative : Bool) (byte : UInt8) : Int :=
  if negative then 101 - (byte.toNat : Int) else byte.toNat - 1

/-- The base-100 digits that the octets behind the first one stand for, without the octet that may
end those of a negative number. -/
def saidDigits (negative : Bool) (mantissa : Bytes) : List Int :=
  (if negative then dropTerminator mantissa else mantissa).map (saidDigit negative)

/-! ## Digits -/

/-- An octet is read as the digit that it stands for, if that is one. -/
lemma pairOf_eq (negative : Bool) (byte : UInt8) :
    pairOf (!negative) byte =
      if 0 ≤ saidDigit negative byte ∧ saidDigit negative byte ≤ 99 then
        .ok (saidDigit negative byte).toNat
      else .error (.invalidDigit byte) := by
  have hall : ∀ value : Fin 256, pairOf (!negative) (UInt8.ofNat value) =
      let digit := saidDigit negative (UInt8.ofNat value)
      if 0 ≤ digit ∧ digit ≤ 99 then .ok digit.toNat
      else .error (.invalidDigit (UInt8.ofNat value)) := by
    cases negative <;> decide +kernel
  simpa using hall ⟨byte.toNat, byte.toNat_lt⟩

/-- **Octets are read** if all of them stand for digits. -/
lemma mapM_pairOf_of_forall {negative : Bool} {octets : Bytes}
    (h : ∀ digit ∈ octets.map (saidDigit negative), 0 ≤ digit ∧ digit ≤ 99) :
    octets.mapM (pairOf (!negative)) =
      .ok ((octets.map (saidDigit negative)).map Int.toNat) := by
  induction octets with
  | nil => rfl
  | cons byte octets ih =>
    rw [List.map_cons, List.forall_mem_cons] at h
    rw [List.mapM_cons, pairOf_eq, if_pos h.1, ih h.2]
    rfl

/-- Octets that are read all stand for digits. -/
lemma forall_of_mapM_pairOf {negative : Bool} {octets : Bytes} {pairs : List Nat}
    (h : octets.mapM (pairOf (!negative)) = .ok pairs) :
    ∀ digit ∈ octets.map (saidDigit negative), 0 ≤ digit ∧ digit ≤ 99 := by
  induction octets generalizing pairs with
  | nil => simp
  | cons byte octets ih =>
    rw [List.mapM_cons, pairOf_eq] at h
    rw [List.map_cons, List.forall_mem_cons]
    split_ifs at h with hdigit
    · rcases hrest : octets.mapM (pairOf (!negative)) with fault | rest
      · rw [hrest] at h
        cases h
      · exact ⟨hdigit, ih hrest⟩
    · cases h

/-! ## What reading comes to -/

/-- The top bit tells the sign. -/
lemma topBit_eq_not_saysNegative (first : UInt8) :
    (first &&& 0x80 != 0) = !saysNegative first := by
  rw [Bool.eq_iff_iff, bne_iff_ne, and_topBit_ne_zero_iff, saysNegative, Bool.not_eq_true',
    decide_eq_false_iff_not, not_lt]

/-- The octet, complemented for a negative number, tells the exponent. -/
lemma exponent_eq_saidExponent (first : UInt8) :
    (((if (!saysNegative first) = true then first else ~~~first).toNat : Nat) : Int) - 192 =
      saidExponent first := by
  have hlt := first.toNat_lt
  unfold saidExponent
  cases saysNegative first
  · simp
  · simp only [Bool.not_true, Bool.false_eq_true, if_false, if_true, UInt8.toNat_not]
    rw [show UInt8.size = 256 from rfl]
    omega

/-- **What reading comes to**, for octets with digits: they are read if all behind the first one
stand for digits, and the text is made of these. -/
theorem decode_eq_ok_iff {first : UInt8} {mantissa : Bytes} (hne : mantissa ≠ []) {text : String} :
    decode (first :: mantissa) = .ok text ↔
      (∀ digit ∈ saidDigits (saysNegative first) mantissa, 0 ≤ digit ∧ digit ≤ 99) ∧
      text = (Decimal.shorten ⟨saysNegative first,
        halves ((saidDigits (saysNegative first) mantissa).map Int.toNat),
        2 * saidExponent first⟩).render := by
  have hchosen : (if (!saysNegative first) = true then mantissa else dropTerminator mantissa) =
      if saysNegative first = true then dropTerminator mantissa else mantissa := by
    cases saysNegative first <;> rfl
  rw [decode, topBit_eq_not_saysNegative, List.isEmpty_eq_false_iff.2 hne,
    if_neg Bool.false_ne_true, exponent_eq_saidExponent, hchosen, Bool.not_not]
  unfold saidDigits
  generalize (if saysNegative first = true then dropTerminator mantissa else mantissa) = octets
  constructor
  · intro h
    rcases hread : octets.mapM (pairOf (!saysNegative first)) with fault | pairs
    · rw [hread] at h
      cases h
    · have hdigits := forall_of_mapM_pairOf hread
      rw [mapM_pairOf_of_forall hdigits] at h
      exact ⟨hdigits, (Except.ok.inj h).symm⟩
  · rintro ⟨hdigits, rfl⟩
    rw [mapM_pairOf_of_forall hdigits]
    rfl

/-! ## What laid out octets say -/

/-- The octet of a base-100 digit as a number. -/
lemma toNat_digitOctet (negative : Bool) {pair : Nat} (h : pair ≤ 99) :
    (digitOctet negative pair).toNat = if negative then 101 - pair else pair + 1 := by
  unfold digitOctet
  refine UInt8.toNat_ofNat_of_lt' (show _ < 256 from ?_)
  split_ifs <;> omega

/-- The octet of sign and exponent as a number. -/
lemma toNat_headOctet (negative : Bool) {exponent : Int} (h : -63 ≤ exponent ∧ exponent ≤ 63) :
    ((headOctet negative exponent).toNat : Int) =
      if negative then 63 - exponent else 192 + exponent := by
  have hhead : (UInt8.ofNat (192 + exponent).toNat).toNat = (192 + exponent).toNat :=
    UInt8.toNat_ofNat_of_lt' (show _ < 256 by omega)
  unfold headOctet
  dsimp only
  split_ifs
  · rw [UInt8.toNat_not, hhead, show UInt8.size = 256 from rfl]
    omega
  · rw [hhead]
    omega

/-- The octet of sign and exponent says both. -/
lemma said_headOctet (negative : Bool) {exponent : Int} (h : -63 ≤ exponent ∧ exponent ≤ 63) :
    saysNegative (headOctet negative exponent) = negative ∧
      saidExponent (headOctet negative exponent) = exponent := by
  have hhead := toNat_headOctet negative h
  have hsign : saysNegative (headOctet negative exponent) = negative := by
    unfold saysNegative
    cases negative
    · rw [if_neg Bool.false_ne_true] at hhead
      exact decide_eq_false (by omega)
    · rw [if_pos rfl] at hhead
      exact decide_eq_true (by omega)
  refine ⟨hsign, ?_⟩
  rw [saidExponent, hsign, hhead]
  split_ifs <;> omega

/-- The octets of digits stand for these; the octet that may end them is none. -/
lemma saidDigits_map_digitOctet (negative : Bool) {pairs : List Nat}
    (h : ∀ pair ∈ pairs, pair ≤ 99) (ended : Prop) [Decidable ended] :
    saidDigits negative (pairs.map (digitOctet negative) ++
      if negative ∧ ended then [terminator] else []) = pairs.map (↑) := by
  have hdigits : (pairs.map (digitOctet negative)).map (saidDigit negative) = pairs.map (↑) := by
    rw [List.map_map]
    refine List.map_congr_left fun pair hmem => ?_
    have hle := h pair hmem
    rw [Function.comp_apply, saidDigit, toNat_digitOctet negative hle]
    cases negative
    · simp
    · simp only [if_true]
      omega
  have hlast : (pairs.map (digitOctet true)).getLast? ≠ some terminator := by
    intro hlast
    obtain ⟨pair, hmem, hpair⟩ := List.mem_map.1 (List.mem_of_getLast? hlast)
    have hoctet := toNat_digitOctet true (h pair hmem)
    rw [hpair, if_pos rfl, show terminator.toNat = 102 from rfl] at hoctet
    omega
  unfold saidDigits
  cases negative
  · simpa using hdigits
  · have hdrop : dropTerminator (pairs.map (digitOctet true) ++
        if ended then [terminator] else []) = pairs.map (digitOctet true) := by
      split_ifs
      · rw [dropTerminator, List.getLast?_concat, if_pos rfl, List.dropLast_concat]
      · rw [List.append_nil, dropTerminator, if_neg hlast]
    simp only [if_true, true_and]
    rw [hdrop, hdigits]

/-- **What the octets of digits are read as**: the same sign, digits and exponent. -/
theorem decode_laidOut (negative : Bool) {exponent : Int} {digits : List Nat}
    (hexponent : -63 ≤ exponent ∧ exponent ≤ 63) (hdigits : ∀ digit ∈ digits, digit < 10)
    (hne : digits ≠ []) (heven : digits.length % 2 = 0) :
    decode (laidOut negative exponent digits) =
      .ok (Decimal.shorten ⟨negative, digits, 2 * exponent⟩).render := by
  obtain ⟨hsign, hplace⟩ := said_headOctet negative hexponent
  have hpairs := le_of_mem_pairUp hdigits
  have hsaid := saidDigits_map_digitOctet negative hpairs ((pairUp digits).length < maxPairs)
  have hempty : pairUp digits ≠ [] := by
    intro hnil
    have hlength := length_pairUp digits
    rw [hnil, List.length_nil] at hlength
    exact hne (List.length_eq_zero_iff.1 (by omega))
  have hcast : ((pairUp digits).map (↑) : List Int).map Int.toNat = pairUp digits := by
    simp [Function.comp_def]
  rw [laidOut, List.cons_append, decode_eq_ok_iff (by simp [hempty]), hsign, hplace, hsaid, hcast,
    halves_pairUp hdigits heven]
  exact ⟨bounds_of_le hpairs, rfl⟩

end TnsClient.Number
