import Mathlib
import TnsClient.Proofs.Number.Scanning

set_option autoImplicit false

/-!
# Encoding within the bits there are

On the way from decimal text to octets every number is computed in 32 or in eight bits. Here the
same is said without regard to bits, and it is shown when the two agree: the digits, the octets and
the exponent always fit, and what does not is the place of the point, close to the ends of 32 bits.
The count of zeros in front is cut down to 32 bits unseen, so that a text with more of them than
that is taken for another value.

## Main definitions

* `TnsClient.Number.Decimal.trimmed`, `TnsClient.Number.Decimal.aligned` — taking zeros off and
  putting them in, whatever the number of bits.
* `TnsClient.Number.Decimal.taken` — what a value with too many zeros in front is taken for.
* `TnsClient.Number.Decimal.Faithful` — it is taken for what it is.
* `TnsClient.Number.pairUp`, `TnsClient.Number.laidOut` — the base-100 digits, and the octets.
* `TnsClient.Number.Decimal.Overflows` — a number on the way does not fit.
* `TnsClient.Number.Decimal.HasOctets` — the octets of a value.
* `TnsClient.Number.InRange` — neither too large nor too close to zero.

## Main results

* `TnsClient.Number.Decimal.value_taken` — by how much the value is missed.
* `TnsClient.Number.encode_eq`, `TnsClient.Number.encode_eq_ok_iff` — what encoding comes to, and
  which octets a text has.
* `TnsClient.Number.encode_overflow_iff` — exactly when a number on the way does not fit; and what
  has octets is taken for a value in range.
* `TnsClient.Number.encode_tiny` — a text that is taken for another value.
-/

namespace TnsClient.Number

/-! ## Zeros -/

namespace Decimal

variable {d : Decimal}

/-- A value without the zeros in front of its digits and behind them. -/
def trimmed (d : Decimal) : Decimal :=
  { d with
    digits := (d.digits.dropWhile (· == 0)).rdropWhile (· == 0)
    point := d.point - d.leadingZeros }

/-- A value whose digits come in pairs on both sides of the point. -/
def aligned (d : Decimal) : Decimal :=
  let digits := if d.point % 2 = 1 then 0 :: d.digits else d.digits
  { d with
    digits := if digits.length % 2 = 1 then digits ++ [0] else digits
    point := if d.point % 2 = 1 then d.point + 1 else d.point }

/-- There are digits, and neither the first nor the last one is zero. -/
structure IsTrimmed (d : Decimal) : Prop where
  ne_nil : d.digits ≠ []
  head : d.digits.head ne_nil ≠ 0
  last : d.digits.getLast ne_nil ≠ 0

/-- Trimming takes off zeros only. -/
lemma digits_eq_trimmed (d : Decimal) :
    ∃ behind, d.digits =
      List.replicate d.leadingZeros 0 ++ (d.trimmed.digits ++ List.replicate behind 0) := by
  have hfront : d.digits.takeWhile (· == 0) = List.replicate d.leadingZeros 0 :=
    List.eq_replicate_of_mem fun digit hmem => by simpa using List.mem_takeWhile_imp hmem
  let significant := d.digits.dropWhile (· == 0)
  have hback : significant.rtakeWhile (· == 0) =
      List.replicate (significant.rtakeWhile (· == 0)).length 0 :=
    List.eq_replicate_of_mem fun digit hmem => by
      simpa using List.mem_takeWhile_imp (List.mem_reverse.1 hmem)
  have hsplit :
      significant = significant.rdropWhile (· == 0) ++ significant.rtakeWhile (· == 0) := by
    rw [List.rdropWhile, List.rtakeWhile, ← List.reverse_append, List.takeWhile_append_dropWhile,
      List.reverse_reverse]
  refine ⟨(significant.rtakeWhile (· == 0)).length, ?_⟩
  rw [← hback, ← hfront]
  exact (List.takeWhile_append_dropWhile ..).symm.trans (congrArg _ hsplit)

/-- Nothing is left only where all digits are zero. -/
lemma trimmed_digits_eq_nil_iff : d.trimmed.digits = [] ↔ ∀ digit ∈ d.digits, digit = 0 := by
  constructor
  · intro hnil digit hmem
    obtain ⟨behind, hdigits⟩ := d.digits_eq_trimmed
    rw [hdigits, hnil, List.nil_append, List.mem_append] at hmem
    exact hmem.elim List.eq_of_mem_replicate List.eq_of_mem_replicate
  · intro hall
    have hnil : d.digits.dropWhile (· == 0) = [] :=
      List.dropWhile_eq_nil_iff.2 fun digit hmem => by simpa using hall digit hmem
    rw [trimmed, hnil]
    rfl

lemma isTrimmed_trimmed (hne : d.trimmed.digits ≠ []) : d.trimmed.IsTrimmed := by
  refine ⟨hne, ?_, fun hlast => List.rdropWhile_last_not (· == 0) _ hne (beq_iff_eq.2 hlast)⟩
  have hfront := List.rdropWhile_prefix (· == 0) (d.digits.dropWhile (· == 0))
  have hne' : d.digits.dropWhile (· == 0) ≠ [] := by
    intro hnil
    rw [trimmed, hnil] at hne
    exact hne rfl
  have hhead : d.trimmed.digits.head hne = (d.digits.dropWhile (· == 0)).head hne' :=
    hfront.head hne
  rw [hhead]
  simpa using List.head_dropWhile_not (· == 0) hne'

lemma HasDigits.trimmed (h : d.HasDigits) : d.trimmed.HasDigits := by
  obtain ⟨behind, hdigits⟩ := d.digits_eq_trimmed
  intro digit hmem
  refine h digit ?_
  rw [hdigits]
  exact List.mem_append_right _ (List.mem_append_left _ hmem)

/-- Zeros around the digits keep the value, as long as the point is moved along. -/
lemma value_pad (negative : Bool) (digits : List Nat) (point : Int) (front back : Nat) :
    value ⟨negative, List.replicate front 0 ++ (digits ++ List.replicate back 0), point + front⟩ =
      value ⟨negative, digits, point⟩ := by
  have hpoint : point + front - ((front + (digits.length + back) : Nat) : Int) =
      point - digits.length + -(back : Int) := by
    push_cast
    ring
  simp only [value, sign, magnitude_append, magnitude_zeros, List.length_append,
    List.length_replicate, hpoint, zpow_add₀ (show (10 : ℚ) ≠ 0 by norm_num), zpow_neg,
    zpow_natCast]
  push_cast
  field_simp
  ring

/-- **Trimming** keeps the value. -/
lemma value_trimmed (d : Decimal) : d.trimmed.value = d.value := by
  obtain ⟨behind, hdigits⟩ := d.digits_eq_trimmed
  have hpad := value_pad d.negative d.trimmed.digits d.trimmed.point d.leadingZeros behind
  rw [← hdigits, show d.trimmed.point + d.leadingZeros = d.point by simp [trimmed]] at hpad
  exact hpad.symm

/-- Without a digit but zeros the value is zero. -/
lemma value_eq_zero (hempty : d.trimmed.digits = []) : d.value = 0 := by
  rw [← value_trimmed, value, hempty, magnitude_nil, Nat.cast_zero, mul_zero, zero_mul]

/-- Aligning puts in a zero at most on either side. -/
lemma aligned_eq (d : Decimal) : ∃ front back, front ≤ 1 ∧ back ≤ 1 ∧ d.aligned =
    ⟨d.negative, List.replicate front 0 ++ (d.digits ++ List.replicate back 0),
      d.point + front⟩ := by
  by_cases hpoint : d.point % 2 = 1 <;> by_cases hlength : d.digits.length % 2 = 1
  · have hnext : (d.digits.length + 1) % 2 ≠ 1 := by omega
    exact ⟨1, 0, by omega, by omega, by simp [aligned, hpoint, hnext]⟩
  · have hnext : (d.digits.length + 1) % 2 = 1 := by omega
    exact ⟨1, 1, by omega, by omega, by simp [aligned, hpoint, hnext]⟩
  · exact ⟨0, 1, by omega, by omega, by simp [aligned, hpoint, hlength]⟩
  · exact ⟨0, 0, by omega, by omega, by simp [aligned, hpoint, hlength]⟩

/-- Aligned digits come in pairs, on both sides of the point. -/
lemma aligned_even (d : Decimal) :
    d.aligned.digits.length % 2 = 0 ∧ d.aligned.point % 2 = 0 := by
  unfold aligned
  refine ⟨?_, ?_⟩
  · dsimp only
    split_ifs <;> simp_all <;> omega
  · dsimp only
    split_ifs <;> omega

lemma HasDigits.aligned (h : d.HasDigits) : d.aligned.HasDigits := by
  obtain ⟨front, back, -, -, haligned⟩ := d.aligned_eq
  intro digit hmem
  rw [haligned] at hmem
  rcases List.mem_append.1 hmem with hmem | hmem
  · rw [List.eq_of_mem_replicate hmem]
    omega
  · rcases List.mem_append.1 hmem with hmem | hmem
    · exact h digit hmem
    · rw [List.eq_of_mem_replicate hmem]
      omega

end Decimal

/-! ## Too many zeros in front -/

/-- What is left of a count when it is cut down to 32 bits falls short of it, if at all, by
`2 ^ 32` at least. -/
lemma wrap32_eq (count : Nat) :
    wrap32 count = count ∧ count < 2 ^ 31 ∨
      wrap32 count + 2 ^ 32 ≤ count ∧ 2 ^ 31 ≤ count := by
  rw [wrap32, Int32.toInt_ofNat', Int.bmod_def, show Int32.size = 2 ^ 32 from rfl]
  omega

namespace Decimal

variable {d : Decimal}

/-- By how many places the point is moved too little when the zeros in front are taken off. -/
def drift (d : Decimal) : Int := d.leadingZeros - wrap32 d.leadingZeros

/-- What a value is taken for: the same digits, with the point where its zeros are miscounted to
be. -/
def taken (d : Decimal) : Decimal := { d with point := d.point + d.drift }

/-- A value is taken for what it is: it is zero, or the number of zeros in front fits 32 bits. -/
def Faithful (d : Decimal) : Prop := d.value = 0 ∨ d.leadingZeros < 2 ^ 31

/-- The point is left where it belongs, or far behind it. -/
lemma drift_cases (d : Decimal) :
    d.drift = 0 ∧ d.leadingZeros < 2 ^ 31 ∨ 2 ^ 32 ≤ d.drift ∧ 2 ^ 31 ≤ d.leadingZeros := by
  have hwrap := wrap32_eq d.leadingZeros
  unfold drift
  omega

lemma HasDigits.taken (h : d.HasDigits) : d.taken.HasDigits := h

lemma taken_of_lt (h : d.leadingZeros < 2 ^ 31) : d.taken = d := by
  have hdrift : d.drift = 0 := by
    have hcases := d.drift_cases
    omega
  rw [taken, hdrift, add_zero]

/-- Where the point is left once the zeros have been taken off. -/
lemma taken_trimmed_point (d : Decimal) :
    d.taken.trimmed.point = d.point - wrap32 d.leadingZeros := by
  have hpoint : d.taken.trimmed.point = d.point + d.drift - d.leadingZeros := rfl
  rw [hpoint, drift]
  ring

lemma taken_trimmed (d : Decimal) :
    d.taken.trimmed = ⟨d.negative, d.trimmed.digits, d.point - wrap32 d.leadingZeros⟩ := by
  rw [← d.taken_trimmed_point]
  rfl

/-- It is off by the drift. -/
lemma taken_trimmed_point_eq_add (d : Decimal) :
    d.taken.trimmed.point = d.trimmed.point + d.drift := by
  rw [taken_trimmed_point]
  simp only [trimmed, drift]
  ring

/-- **By how much the value is missed**: as many powers of ten as places. -/
lemma value_taken (d : Decimal) : d.taken.value = d.value * 10 ^ d.drift := by
  have hplaces : d.point + d.drift - d.digits.length = d.point - d.digits.length + d.drift := by
    ring
  rw [value, value, mul_assoc _ _ (10 ^ d.drift), ← zpow_add₀ (by norm_num), ← hplaces]
  rfl

/-- A value is taken for itself only where it is taken for what it is. -/
lemma value_taken_eq_iff (d : Decimal) : d.taken.value = d.value ↔ d.Faithful := by
  have hdrift : (10 : ℚ) ^ d.drift = 1 ↔ d.leadingZeros < 2 ^ 31 := by
    rw [zpow_eq_one_iff_right₀ (by norm_num) (by norm_num)]
    have hcases := d.drift_cases
    omega
  rw [value_taken, mul_right_eq_self₀, hdrift, or_comm, Faithful]

end Decimal

/-! ## Octets -/

/-- The base-100 digits that decimal digits make in pairs. -/
def pairUp : List Nat → List Nat
  | high :: low :: rest => (10 * high + low) :: pairUp rest
  | _ => []

/-- The octet of a base-100 digit. -/
def digitOctet (negative : Bool) (pair : Nat) : UInt8 :=
  UInt8.ofNat (if negative then 101 - pair else pair + 1)

/-- The octet of sign and exponent. -/
def headOctet (negative : Bool) (exponent : Int) : UInt8 :=
  let head := UInt8.ofNat (192 + exponent).toNat
  if negative then ~~~head else head

/-- The octets of a value, whatever the number of bits. -/
def laidOut (negative : Bool) (exponent : Int) (digits : List Nat) : Bytes :=
  headOctet negative exponent :: (pairUp digits).map (digitOctet negative) ++
    if negative ∧ (pairUp digits).length < maxPairs then [terminator] else []

lemma length_pairUp (digits : List Nat) : (pairUp digits).length = digits.length / 2 := by
  induction digits using pairUp.induct with
  | case1 high low rest ih =>
    rw [pairUp, List.length_cons, ih, List.length_cons, List.length_cons]
    omega
  | case2 digits hshort =>
    match digits, hshort with
    | [], _ | [_], _ => simp [pairUp]
    | high :: low :: rest, hshort => exact absurd rfl (hshort high low rest)

lemma le_of_mem_pairUp {digits : List Nat} (h : ∀ digit ∈ digits, digit < 10) :
    ∀ pair ∈ pairUp digits, pair ≤ 99 := by
  induction digits using pairUp.induct with
  | case1 high low rest ih =>
    obtain ⟨hhigh, hlow, hrest⟩ : high < 10 ∧ low < 10 ∧ ∀ digit ∈ rest, digit < 10 := by
      simpa using h
    rw [pairUp, List.forall_mem_cons]
    exact ⟨by omega, ih hrest⟩
  | case2 digits hshort =>
    rw [pairUp.eq_2 _ hshort]
    exact List.forall_mem_nil _

lemma bounds_of_le {pairs : List Nat} (h : ∀ pair ∈ pairs, pair ≤ 99) :
    ∀ digit ∈ pairs.map (↑), (0 : Int) ≤ digit ∧ digit ≤ 99 := by
  intro digit hmem
  obtain ⟨pair, hpair, rfl⟩ := List.mem_map.1 hmem
  exact ⟨by omega, by exact_mod_cast h pair hpair⟩

/-- Digits that were paired up are taken apart again. -/
lemma halves_pairUp {digits : List Nat} (h : ∀ digit ∈ digits, digit < 10)
    (heven : digits.length % 2 = 0) : halves (pairUp digits) = digits := by
  induction digits using pairUp.induct with
  | case1 high low rest ih =>
    obtain ⟨hhigh, hlow, hrest⟩ : high < 10 ∧ low < 10 ∧ ∀ digit ∈ rest, digit < 10 := by
      simpa using h
    have hrest' : halves (pairUp rest) = rest :=
      ih hrest (by simp only [List.length_cons] at heven; omega)
    rw [pairUp, halves, List.flatMap_cons, ← halves, hrest',
      show (10 * high + low) / 10 = high by omega, show (10 * high + low) % 10 = low by omega]
    rfl
  | case2 digits hshort =>
    rcases digits with _ | ⟨high, _ | ⟨low, rest⟩⟩
    · rfl
    · simp at heven
    · exact absurd rfl (hshort high low rest)

lemma octet_eq_ok (text : String) (value : Nat) (h : value ≤ 0xFF) :
    octet text value = .ok (UInt8.ofNat value) := by
  rw [octet, if_pos (by omega), Int.toNat_natCast]

/-- **The octets of digits** fit. -/
lemma pairOctets_eq (text : String) (negative : Bool) {digits : List Nat}
    (h : ∀ digit ∈ digits, digit < 10) :
    pairOctets text negative digits = .ok ((pairUp digits).map (digitOctet negative)) := by
  induction digits using pairUp.induct with
  | case1 high low rest ih =>
    obtain ⟨hhigh, hlow, hrest⟩ : high < 10 ∧ low < 10 ∧ ∀ digit ∈ rest, digit < 10 := by
      simpa using h
    have htens : octet text (10 * high) = .ok (UInt8.ofNat (10 * high)) := by
      exact_mod_cast octet_eq_ok text (10 * high) (by omega)
    have hpair : octet text ((UInt8.ofNat (10 * high)).toNat + low) =
        .ok (UInt8.ofNat (10 * high + low)) := by
      rw [UInt8.toNat_ofNat_of_lt' (show 10 * high < 256 by omega)]
      exact_mod_cast octet_eq_ok text (10 * high + low) (by omega)
    have hdigit : octet text (if negative then 101 - ((UInt8.ofNat (10 * high + low)).toNat : Int)
        else (UInt8.ofNat (10 * high + low)).toNat + 1) =
          .ok (digitOctet negative (10 * high + low)) := by
      rw [UInt8.toNat_ofNat_of_lt' (show 10 * high + low < 256 by omega), digitOctet]
      cases negative
      · exact_mod_cast octet_eq_ok text (10 * high + low + 1) (by omega)
      · rw [if_pos rfl, if_pos rfl, show (101 : Int) - ((10 * high + low : Nat) : Int) =
          ((101 - (10 * high + low) : Nat) : Int) by omega]
        exact octet_eq_ok text _ (by omega)
    rw [pairOctets, htens]
    dsimp only [bind, Except.bind]
    rw [hpair]
    dsimp only
    rw [hdigit, ih hrest]
    rfl
  | case2 digits hshort =>
    rw [pairOctets.eq_2 _ _ _ hshort, pairUp.eq_2 _ hshort]
    rfl

/-- **The octets of a value** fit, if the exponent is in range. -/
lemma layOut_eq (text : String) (negative : Bool) {exponent : Int} {digits : List Nat}
    (hexponent : -63 ≤ exponent ∧ exponent ≤ 63) (h : ∀ digit ∈ digits, digit < 10) :
    layOut text negative exponent digits = .ok (laidOut negative exponent digits) := by
  have hhead : octet text (192 + exponent) = .ok (UInt8.ofNat (192 + exponent).toNat) := by
    rw [octet, if_pos (by omega)]
  rw [layOut, hhead]
  dsimp only [bind, Except.bind]
  rw [pairOctets_eq text negative h]
  simp [laidOut, headOctet, pure, Except.pure]

/-! ## What does not fit -/

/-- A number on the way to the octets does not fit its bits: when the zeros in front of the digits
are taken off, as many of them as 32 bits hold, the point is moved to where 32 bits do not reach, or
to where they end, and there are digits left in front of which a zero is to be put. -/
def Decimal.Overflows (d : Decimal) : Prop :=
  let point := d.point - wrap32 d.leadingZeros
  point < -0x80000000 ∨ 0x7FFFFFFF < point ∨ (point = 0x7FFFFFFF ∧ ∃ digit ∈ d.digits, digit ≠ 0)

instance (d : Decimal) : Decidable d.Overflows := inferInstanceAs (Decidable (_ ∨ _))

/-- The exponent by which the octets tell where the point is. -/
def Decimal.exponent (d : Decimal) : Int := d.trimmed.aligned.point / 2

variable {text : String} {d : Decimal}

lemma int32_of_fits (text : String) {value : Int} (h : fits32 value = true) :
    int32 text value = .ok value := if_pos h

lemma int32_of_not_fits (text : String) {value : Int} (h : fits32 value = false) :
    int32 text value = .error (.overflow text) := if_neg (by simp [h])

/-- Zeros are taken off, as if the value were what it is taken for, unless the place of the point
does not fit. -/
lemma trim_eq (text : String) (d : Decimal) :
    d.padded.trim text =
      if fits32 d.taken.trimmed.point then .ok d.taken.trimmed else .error (.overflow text) := by
  have hpoint : d.padded.point - wrap32 d.padded.zeros = d.taken.trimmed.point :=
    d.taken_trimmed_point.symm
  unfold Padded.trim
  rw [hpoint]
  cases hfits : fits32 d.taken.trimmed.point
  · rw [int32_of_not_fits text hfits]
    rfl
  · rw [int32_of_fits text hfits]
    rfl

/-- Zeros are put in unless the place of the point does not fit. -/
lemma align_eq (text : String) (d : Decimal) :
    d.align text =
      if d.point % 2 = 1 ∧ fits32 (d.point + 1) = false then .error (.overflow text)
      else .ok d.aligned := by
  unfold Decimal.align Decimal.aligned
  by_cases hodd : d.point % 2 = 1
  · cases hpoint : fits32 (d.point + 1)
    · rw [int32_of_not_fits text hpoint]
      simp [hodd, bind, Except.bind]
    · rw [int32_of_fits text hpoint]
      simp [hodd, bind, Except.bind, pure, Except.pure]
  · simp [hodd, bind, Except.bind, pure, Except.pure]

/-- What is left to do once the zeros have been put in: all of it fits. -/
lemma encode_aligned (text : String) {aligned : Decimal} (hdigits : aligned.HasDigits)
    (hpoint : fits32 aligned.point = true) :
    (do
      if aligned.digits.length / 2 > maxPairs then
        throw (Fault.tooManyDigits text)
      let exponent ← int32 text (aligned.point / 2)
      if exponent < -63 ∨ 63 < exponent then
        throw (Fault.outOfRange text)
      layOut text aligned.negative exponent aligned.digits) =
      if maxPairs < aligned.digits.length / 2 then .error (.tooManyDigits text)
      else if aligned.point / 2 < -63 ∨ 63 < aligned.point / 2 then .error (.outOfRange text)
      else .ok (laidOut aligned.negative (aligned.point / 2) aligned.digits) := by
  have hhalf : fits32 (aligned.point / 2) = true := by
    simp only [fits32, decide_eq_true_eq] at hpoint ⊢
    omega
  split_ifs with hmany hrange
  · rfl
  · simp [int32_of_fits text hhalf, hrange, bind, Except.bind, throw, throwThe,
      MonadExceptOf.throw]
  · simp only [int32_of_fits text hhalf, bind, Except.bind, hrange, if_false]
    exact layOut_eq text aligned.negative (by omega) hdigits

/-- **What encoding comes to**, for a text that was taken apart. -/
theorem encode_eq (h : Decimal.parse text = .ok d) :
    encode text =
      if d.Overflows then .error (.overflow text)
      else if d.taken.trimmed.digits = [] then .ok [0x80]
      else if maxPairs < d.taken.trimmed.aligned.digits.length / 2 then .error (.tooManyDigits text)
      else if d.taken.exponent < -63 ∨ 63 < d.taken.exponent then .error (.outOfRange text)
      else .ok (laidOut d.taken.negative d.taken.exponent d.taken.trimmed.aligned.digits) := by
  have hdigits : d.taken.trimmed.HasDigits := (hasDigits_of_parse h).1.taken.trimmed
  have hnil : d.taken.trimmed.digits = [] ↔ ¬∃ digit ∈ d.digits, digit ≠ 0 := by
    rw [Decimal.trimmed_digits_eq_nil_iff]
    push Not
    rfl
  have hoverflows : d.Overflows ↔ d.taken.trimmed.point < -0x80000000 ∨
      0x7FFFFFFF < d.taken.trimmed.point ∨
        (d.taken.trimmed.point = 0x7FFFFFFF ∧ ∃ digit ∈ d.digits, digit ≠ 0) := by
    rw [d.taken_trimmed_point]
    rfl
  have hnegative : d.taken.negative = d.taken.trimmed.aligned.negative := rfl
  rw [encode_eq_bind, h, hnegative, Decimal.exponent, Except.bind, Padded.octets]
  dsimp only [bind, Except.bind]
  rw [trim_eq]
  generalize d.taken.trimmed = trimmed at hdigits hnil hoverflows ⊢
  by_cases hfits : fits32 trimmed.point = true
  swap
  · have hover : d.Overflows := by
      simp only [fits32, decide_eq_true_eq] at hfits
      rw [hoverflows]
      omega
    rw [if_neg hfits, if_pos hover]
  rw [if_pos hfits]
  dsimp only
  simp only [fits32, decide_eq_true_eq] at hfits
  by_cases hempty : trimmed.digits = []
  · have hover : ¬d.Overflows := by
      have hzero := hnil.1 hempty
      rw [hoverflows]
      rintro (hlow | hhigh | ⟨-, hdigit⟩)
      · omega
      · omega
      · exact hzero hdigit
    rw [if_neg hover, if_pos hempty, hempty]
    rfl
  have hdigit : ∃ digit ∈ d.digits, digit ≠ 0 := by
    by_contra hzero
    exact hempty (hnil.2 hzero)
  rw [if_neg hempty, List.isEmpty_eq_false_iff.2 hempty]
  simp only [Bool.false_eq_true, if_false]
  rw [align_eq]
  by_cases hodd : trimmed.point % 2 = 1 ∧ fits32 (trimmed.point + 1) = false
  · have hover : d.Overflows := by
      simp only [fits32, decide_eq_false_iff_not] at hodd
      exact hoverflows.2 (.inr (.inr ⟨by omega, hdigit⟩))
    rw [if_pos hodd, if_pos hover]
  · have hover : ¬d.Overflows := by
      simp only [fits32, decide_eq_false_iff_not] at hodd
      rw [hoverflows]
      rintro (hlow | hhigh | ⟨hhigh, -⟩) <;> omega
    have hfits' : fits32 trimmed.aligned.point = true := by
      simp only [fits32, decide_eq_false_iff_not] at hodd
      unfold Decimal.aligned
      dsimp only
      split_ifs <;> simp only [fits32, decide_eq_true_eq] <;> omega
    rw [if_neg hodd, if_neg hover]
    exact encode_aligned text hdigits.aligned hfits'

/-- What cannot be taken apart has no octets. -/
lemma encode_of_parse_error {fault : Fault} (h : Decimal.parse text = .error fault) :
    encode text = .error fault := by
  rw [encode_eq_bind, h]
  rfl

/-- **The octets of a value**, whatever the number of bits: one octet for zero, and else those of
its digits, if these are not too many and the exponent is in range. -/
inductive Decimal.HasOctets (d : Decimal) : Bytes → Prop
  /-- No digit is left. -/
  | zero (hempty : d.trimmed.digits = []) : d.HasOctets [0x80]
  /-- There are digits. -/
  | digits (hne : d.trimmed.digits ≠ [])
      (hcount : d.trimmed.aligned.digits.length / 2 ≤ maxPairs)
      (hexponent : -63 ≤ d.exponent ∧ d.exponent ≤ 63) :
    d.HasOctets (laidOut d.negative d.exponent d.trimmed.aligned.digits)

/-- **Which octets a text has**: those of what it is taken for, unless a number does not fit. -/
theorem encode_eq_ok_iff (h : Decimal.parse text = .ok d) {octets : Bytes} :
    encode text = .ok octets ↔ ¬d.Overflows ∧ d.taken.HasOctets octets := by
  rw [encode_eq h]
  constructor
  · intro hencode
    split_ifs at hencode with hover hempty hmany hrange
    · obtain rfl := Except.ok.inj hencode
      exact ⟨hover, .zero hempty⟩
    · obtain rfl := Except.ok.inj hencode
      exact ⟨hover, .digits hempty (by omega) (by omega)⟩
  · rintro ⟨hover, hoctets⟩
    rw [if_neg hover]
    cases hoctets with
    | zero hempty => rw [if_pos hempty]
    | digits hne hcount hexponent => rw [if_neg hne, if_neg (by omega), if_neg (by omega)]

/-- What has octets was taken apart. -/
lemma parse_of_encode {octets : Bytes} (h : encode text = .ok octets) :
    ∃ d, Decimal.parse text = .ok d ∧ ¬d.Overflows ∧ d.taken.HasOctets octets := by
  rcases hparse : Decimal.parse text with fault | d
  · rw [encode_of_parse_error hparse] at h
    cases h
  · exact ⟨d, rfl, (encode_eq_ok_iff hparse).1 h⟩

/-! ## Which texts have octets -/

/-- Nothing overflows where a text is taken apart. -/
lemma fault_of_parse {fault : Fault} (h : Decimal.parse text = .error fault) :
    fault = .notANumber text ∨ fault = .outOfRange text := by
  have hassemble : ∀ negative whole fraction exponent,
      Decimal.assemble text negative whole fraction exponent = .error fault →
        fault = .notANumber text ∨ fault = .outOfRange text := by
    intro negative whole fraction exponent hfault
    cases hvalid : (whole ++ fraction).isEmpty || !(whole ++ fraction).all Char.isDigit with
    | true =>
      unfold Decimal.assemble at hfault
      simp only [hvalid, if_true] at hfault
      exact .inl (Except.error.inj hfault).symm
    | false =>
      rw [Bool.or_eq_false_iff, List.isEmpty_eq_false_iff, Bool.not_eq_false', List.all_eq_true]
        at hvalid
      rw [assemble_eq hvalid.1 hvalid.2] at hfault
      split_ifs at hfault
      exact .inr (Except.error.inj hfault).symm
  rw [parse_eq] at h
  dsimp only at h
  rcases hread : readExponent text (splitAt? isExponentMark (splitSign text.toList).2).2 with
    other | exponent
  · rw [hread] at h
    obtain rfl : other = fault := Except.error.inj h
    cases htail : (splitAt? isExponentMark (splitSign text.toList).2).2 with
    | none =>
      rw [htail] at hread
      cases hread
    | some digits =>
      rw [htail] at hread
      replace hread : (Text.readInt32 digits).mapError (fun _ => Fault.notANumber text) =
        .error other := hread
      cases hinteger : Text.readInt32 digits with
      | ok exponent => simp [hinteger, Except.mapError] at hread
      | error => exact .inl (by simpa [hinteger, Except.mapError] using hread.symm)
  · rw [hread] at h
    exact hassemble _ _ _ _ h

/-- The first digit, where it is not zero, and the place of the point tell how large a value is. -/
lemma Decimal.IsTrimmed.abs_value (h : d.IsTrimmed) (hdigits : d.HasDigits) :
    (10 : ℚ) ^ (d.point - 1) ≤ |d.value| ∧ |d.value| < (10 : ℚ) ^ d.point := by
  have hten : (0 : ℚ) < 10 := by norm_num
  have hscale : (0 : ℚ) < 10 ^ (d.point - d.digits.length) := zpow_pos hten _
  have habs : |d.value| = magnitude d.digits * 10 ^ (d.point - d.digits.length) := by
    rw [Decimal.value, abs_mul, abs_mul, abs_of_pos hscale, Nat.abs_cast, Decimal.sign]
    split_ifs <;> simp
  have hsplit : ∀ shift : Int, (10 : ℚ) ^ (d.point - shift) =
      10 ^ ((d.digits.length : Int) - shift) * 10 ^ (d.point - d.digits.length) := by
    intro shift
    rw [← zpow_add₀ hten.ne']
    congr 1
    ring
  rw [habs]
  constructor
  · rw [hsplit 1]
    refine mul_le_mul_of_nonneg_right ?_ hscale.le
    obtain ⟨first, rest, heq⟩ := List.exists_cons_of_ne_nil h.ne_nil
    have hfirst : 1 ≤ first := by
      have hhead := h.head
      simp only [heq, List.head_cons] at hhead
      omega
    have hlength : ((d.digits.length : Int) - 1) = (rest.length : Int) := by
      rw [heq, List.length_cons]
      push_cast
      ring
    rw [hlength, zpow_natCast, heq, magnitude_cons]
    have hle : 10 ^ rest.length ≤ first * 10 ^ rest.length + magnitude rest :=
      (Nat.le_mul_of_pos_left _ hfirst).trans (Nat.le_add_right _ _)
    exact_mod_cast hle
  · rw [show (10 : ℚ) ^ d.point = 10 ^ (d.point - 0) by rw [sub_zero], hsplit 0]
    refine mul_lt_mul_of_pos_right ?_ hscale
    rw [sub_zero, zpow_natCast]
    exact_mod_cast magnitude_lt hdigits

/-- Neither too large nor too close to zero to have octets. -/
def InRange (value : ℚ) : Prop :=
  value = 0 ∨ (10 : ℚ) ^ (-128 : Int) ≤ |value| ∧ |value| < (10 : ℚ) ^ (126 : Int)

/-- Where the point is without the zeros in front tells whether a value is in range. -/
lemma Decimal.inRange_iff (hdigits : d.HasDigits) (hne : d.trimmed.digits ≠ []) :
    InRange d.value ↔ -127 ≤ d.trimmed.point ∧ d.trimmed.point ≤ 126 := by
  obtain ⟨hlow, hhigh⟩ := (isTrimmed_trimmed hne).abs_value hdigits.trimmed
  rw [value_trimmed] at hlow hhigh
  have hone : (1 : ℚ) < 10 := by norm_num
  have hpos : 0 < |d.value| := (zpow_pos (by norm_num) _).trans_le hlow
  constructor
  · rintro (hzero | ⟨hleast, hgreatest⟩)
    · exact absurd hpos (by simp [hzero])
    · have habove := (zpow_lt_zpow_iff_right₀ hone).1 (hleast.trans_lt hhigh)
      have hbelow := (zpow_lt_zpow_iff_right₀ hone).1 (hlow.trans_lt hgreatest)
      omega
  · rintro ⟨hleast, hgreatest⟩
    exact .inr ⟨(zpow_le_zpow_right₀ hone.le (by omega)).trans hlow,
      hhigh.trans_le (zpow_le_zpow_right₀ hone.le hgreatest)⟩

/-- The exponent that the octets hold does as well. -/
lemma Decimal.inRange_iff_exponent (hdigits : d.HasDigits) (hne : d.trimmed.digits ≠ []) :
    InRange d.value ↔ -63 ≤ d.exponent ∧ d.exponent ≤ 63 := by
  rw [inRange_iff hdigits hne]
  unfold exponent aligned
  dsimp only
  split_ifs <;> omega

lemma Decimal.HasOctets.inRange {octets : Bytes} (h : d.HasOctets octets) (hdigits : d.HasDigits) :
    InRange d.value := by
  cases h with
  | zero hempty => exact .inl (value_eq_zero hempty)
  | digits hne _ hexponent => exact (inRange_iff_exponent hdigits hne).2 hexponent

/-- **What is taken for a value in range** is one just if it is taken for what it is: the point
drifts farther than the range reaches. -/
lemma Decimal.inRange_iff_faithful (hdigits : d.HasDigits) (h : InRange d.taken.value) :
    InRange d.value ↔ d.Faithful := by
  refine ⟨fun hrange => ?_, fun hfaithful => d.value_taken_eq_iff.2 hfaithful ▸ h⟩
  by_cases hempty : d.trimmed.digits = []
  · exact .inl (value_eq_zero hempty)
  · have htaken := (inRange_iff hdigits.taken hempty).1 h
    have hplace := (inRange_iff hdigits hempty).1 hrange
    have hpoint := d.taken_trimmed_point_eq_add
    have hcases := d.drift_cases
    exact .inr (by omega)

/-- **Exactly when a number does not fit**, and what becomes of the other texts: a text has octets
only if it denotes zero or is taken for a value in range, and is reported otherwise. What it denotes
is in range itself if it is taken for what it is, and not otherwise.

**Proof sketch.** `encode_eq` tells what encoding comes to with all checks on the way but the three
of `Decimal.Overflows` taken out; so these are the ones that fail. The octets leave seven bits for
the exponent, which `Decimal.inRange_iff_exponent` turns into a range of values. -/
theorem encode_overflow_iff (text : String) :
    (encode text = .error (.overflow text) ↔ ∃ d, Spells32 text.toList d ∧ d.Overflows) ∧
    (∀ octets, encode text = .ok octets →
      ∃ d, Spells32 text.toList d ∧ (∀ value, Denotes text value ↔ d.value = value) ∧
        InRange d.taken.value ∧ (InRange d.value ↔ d.Faithful)) ∧
    ∀ fault, encode text = .error fault → fault = .overflow text ∨
      fault = .notANumber text ∨ fault = .outOfRange text ∨ fault = .tooManyDigits text := by
  simp only [← parse_eq_ok_iff]
  rcases hparse : Decimal.parse text with fault | d
  · rw [encode_of_parse_error hparse]
    refine ⟨⟨fun h => ?_, fun ⟨d, h, _⟩ => by cases h⟩, fun octets h => (by cases h),
      fun other h => ?_⟩
    · obtain rfl := Except.error.inj h
      rcases fault_of_parse hparse with h | h <;> cases h
    · obtain rfl := Except.error.inj h
      exact .inr ((fault_of_parse hparse).imp_right .inl)
  · have hdigits := (hasDigits_of_parse hparse).1
    refine ⟨⟨fun h => ⟨d, rfl, ?_⟩, fun ⟨other, h, hover⟩ => ?_⟩, fun octets h => ?_,
      fun fault h => ?_⟩
    · rw [encode_eq hparse] at h
      by_contra hover
      rw [if_neg hover] at h
      split_ifs at h <;> cases h
    · obtain rfl := Except.ok.inj h
      rw [encode_eq hparse, if_pos hover]
    · have hrange := ((encode_eq_ok_iff hparse).1 h).2.inRange hdigits.taken
      exact ⟨d, rfl, fun value => denotes_iff hparse, hrange,
        Decimal.inRange_iff_faithful hdigits hrange⟩
    · rw [encode_eq hparse] at h
      split_ifs at h <;> cases h <;> simp

/-- **The greatest exponent** is read, and the point then stands where 32 bits end; aligning it
moves it beyond. -/
theorem encode_greatest_point :
    encode "1e2147483646" = .error (.overflow "1e2147483646") ∧
      encode "1e2147483645" = .error (.outOfRange "1e2147483645") := by
  rw [encode_eq_bind, encode_eq_bind]
  decide +kernel

/-! ## A text that is taken for another -/

/-- A value very close to zero: so many zeros behind the point, a one, and the least exponent. -/
def tiny (count : Nat) : String :=
  String.ofList (['0'] ++ '.' :: (List.replicate count '0' ++ ['1']) ++ "e-2147483648".toList)

/-- What it is taken apart into. -/
def tinyParts (count : Nat) : Decimal := ⟨false, List.replicate (count + 1) 0 ++ [1], -2147483647⟩

lemma spells32_tiny (count : Nat) : Spells32 (tiny count).toList (tinyParts count) := by
  have hread : Text.readInt32 "-2147483648".toList = .ok (-2147483648) := by decide +kernel
  have hexponent : ExponentText "e-2147483648".toList (-2147483648) :=
    .marked rfl ((Text.readInteger_eq_ok_iff (by decide) (by decide)).1 hread).1
  have hdigits : ∀ c ∈ ['0'] ++ (List.replicate count '0' ++ ['1']), c.isDigit = true := by
    intro c hmem
    simp only [List.mem_append, List.mem_singleton, List.mem_replicate] at hmem
    rcases hmem with rfl | ⟨-, rfl⟩ | rfl <;> rfl
  have hspells := Spells32.intro .none (.point ['0'] (List.replicate count '0' ++ ['1']))
    (by simp) hdigits hexponent (by decide) (by decide) (by decide)
  have hvalues : (['0'] ++ (List.replicate count '0' ++ ['1'])).map digitValue =
      List.replicate (count + 1) 0 ++ [1] := by
    rw [List.map_append, List.map_append, List.map_replicate, List.replicate_succ]
    rfl
  rw [hvalues] at hspells
  rw [tiny, String.toList_ofList]
  exact hspells

lemma denotes_tiny (count : Nat) : Denotes (tiny count) (10 ^ (-2147483649 - (count : Int))) := by
  refine (denotes_iff (parse_eq_ok_iff.2 (spells32_tiny count))).2 ?_
  have hplaces : (-2147483647 : Int) - (List.replicate (count + 1) 0 ++ [1]).length =
      -2147483649 - count := by
    rw [List.length_append, List.length_replicate, List.length_singleton]
    push_cast
    ring
  rw [tinyParts, Decimal.value, hplaces, Decimal.sign, magnitude_append, magnitude_zeros]
  simp

lemma zeros_tinyParts (count : Nat) : (tinyParts count).leadingZeros = count + 1 ∧
    (tinyParts count).trimmed.digits = [1] := by
  have hfront : ∀ digit ∈ List.replicate (count + 1) 0, (digit == 0) = true := by simp
  constructor
  · rw [Decimal.leadingZeros, tinyParts, List.takeWhile_append_of_pos hfront]
    simp
  · rw [Decimal.trimmed, tinyParts, List.dropWhile_append_of_pos hfront]
    rfl

/-- **What it is taken for**: with `2 ^ 31` zeros behind the point the count of all zeros is cut
down to a negative number, which moves the point back to the front of the digits. -/
lemma encode_tiny : encode (tiny (2 ^ 31)) = .ok [192, 11] := by
  obtain ⟨hzeros, hdigits⟩ := zeros_tinyParts (2 ^ 31)
  have hpoint : (tinyParts (2 ^ 31)).point - wrap32 (2 ^ 31 + 1) = 0 := by
    show (-2147483647 : Int) - wrap32 (2 ^ 31 + 1) = 0
    decide
  have hover : ¬(tinyParts (2 ^ 31)).Overflows := by
    rw [Decimal.Overflows, hzeros, hpoint]
    decide
  have htaken : (tinyParts (2 ^ 31)).taken.trimmed = ⟨false, [1], 0⟩ := by
    rw [Decimal.taken_trimmed, hdigits, hzeros, hpoint]
    rfl
  have hnegative : (tinyParts (2 ^ 31)).taken.negative = false := rfl
  rw [encode_eq (parse_eq_ok_iff.2 (spells32_tiny (2 ^ 31))), if_neg hover, Decimal.exponent,
    htaken, hnegative]
  decide +kernel

end TnsClient.Number
