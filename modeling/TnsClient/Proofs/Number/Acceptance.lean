import Mathlib
import TnsClient.Proofs.Number.Centesimal

set_option autoImplicit false

/-!
# Which texts have octets

Whether a number has octets is a matter of its value only: it must be zero, or neither too large nor
too close to zero, and it must not need more than twenty base-100 digits. However its text writes
it, zeros that could be left out do not count. So a text has octets if it is a decimal number that
is taken for such a value, unless a number on the way does not fit the bits that it is computed in.

## Main definitions

* `TnsClient.Number.Representable` — the values that have octets.

## Main results

* `TnsClient.Number.Scaled.exists_int_iff` — how many digits a magnitude has, told by its value.
* `TnsClient.Number.Scaled.fits_iff` — a magnitude has octets if its value does.
* `TnsClient.Number.encode_ok_iff` — exactly which texts have octets, and that the others are
  reported.
* `TnsClient.Number.encode_least_point` — a text of the value zero that has none.
-/

namespace TnsClient.Number

/-- The values that have octets: zero, and those that are neither too large nor too close to zero
and are multiples of the twentieth base-100 place, counted from the first one that is not zero. -/
def Representable (value : ℚ) : Prop :=
  value = 0 ∨ (10 : ℚ) ^ (-128 : Int) ≤ |value| ∧ |value| < (10 : ℚ) ^ (126 : Int) ∧
    ∃ exponent : Int, (100 : ℚ) ^ (exponent - 1) ≤ |value| ∧ |value| < (100 : ℚ) ^ exponent ∧
      ∃ whole : Int, value * (100 : ℚ) ^ (20 - exponent) = whole

/-- A sign makes no difference. -/
lemma Representable.neg {value : ℚ} (h : Representable value) : Representable (-value) := by
  rcases h with rfl | ⟨hlow, hhigh, exponent, hplace, hplace', whole, hwhole⟩
  · exact .inl neg_zero
  · refine .inr ⟨by rwa [abs_neg], by rwa [abs_neg], exponent, by rwa [abs_neg], by rwa [abs_neg],
      -whole, ?_⟩
    rw [neg_mul, hwhole, Int.cast_neg]

lemma representable_neg_iff {value : ℚ} : Representable (-value) ↔ Representable value :=
  ⟨fun h => by simpa using h.neg, Representable.neg⟩

/-- Base-100 digits denote a whole number of the last place. -/
lemma centesimal_eq_ofDigits (exponent : Int) (pairs : List Nat) :
    centesimal exponent (pairs.map (↑)) =
      (Nat.ofDigits 100 pairs.reverse : Nat) * 100 ^ (exponent - pairs.length) := by
  induction pairs generalizing exponent with
  | nil => simp
  | cons pair pairs ih =>
    have hplace : (100 : ℚ) ^ (exponent - 1) =
        100 ^ pairs.length * 100 ^ (exponent - 1 - pairs.length) := by
      rw [← zpow_natCast, ← zpow_add₀ hundred_pos.ne']
      congr 1
      ring
    have hlength : exponent - ((pair :: pairs).length : Int) = exponent - 1 - pairs.length := by
      rw [List.length_cons]
      push_cast
      ring
    rw [List.map_cons, centesimal_cons, ih, hplace, List.reverse_cons, Nat.ofDigits_append,
      Nat.ofDigits_singleton, List.length_reverse, hlength]
    push_cast
    ring

namespace Scaled

/-- **How many digits a magnitude has** is told by its value: the last digit is not zero.

**Proof sketch.** The magnitude is a whole number of its last place, and not a hundred times another
one. -/
lemma exists_int_iff (m : Scaled) (count : Nat) :
    (∃ whole : Int, m.value * (100 : ℚ) ^ (count - m.exponent) = whole) ↔
      m.pairs.length ≤ count := by
  obtain ⟨front, last, hpairs⟩ := (List.eq_nil_or_concat' m.pairs).resolve_left m.ne_nil
  have hlast : last ≠ 0 ∧ last ≤ 99 := by
    have hne := m.last_ne
    simp only [hpairs, List.getLast_concat] at hne
    exact ⟨hne, m.le last (by simp [hpairs])⟩
  have hvalue : m.value * (100 : ℚ) ^ (count - m.exponent) =
      (Nat.ofDigits 100 m.pairs.reverse : Nat) * (100 : ℚ) ^ ((count : Int) - m.pairs.length) := by
    rw [value, centesimal_eq_ofDigits, mul_assoc, ← zpow_add₀ hundred_pos.ne']
    congr 2
    ring
  have hmod : Nat.ofDigits 100 m.pairs.reverse % 100 = last := by
    rw [hpairs, List.reverse_concat, Nat.ofDigits_cons]
    omega
  generalize Nat.ofDigits 100 m.pairs.reverse = number at hvalue hmod
  rw [hvalue]
  constructor
  · rintro ⟨whole, hwhole⟩
    by_contra hmany
    obtain ⟨more, hmore⟩ : ∃ more, m.pairs.length = count + (more + 1) :=
      ⟨m.pairs.length - count - 1, by omega⟩
    have hplace : (count : Int) - m.pairs.length = -((more + 1 : Nat) : Int) := by omega
    rw [hplace, zpow_neg, zpow_natCast, ← div_eq_mul_inv, div_eq_iff (by positivity)] at hwhole
    have hhundred : (number : Int) = whole * 100 ^ more * 100 := by
      rw [mul_assoc, ← pow_succ]
      exact_mod_cast hwhole
    omega
  · intro hfew
    obtain ⟨less, rfl⟩ := Nat.exists_eq_add_of_le hfew
    refine ⟨number * 100 ^ less, ?_⟩
    rw [show ((m.pairs.length + less : Nat) : Int) - m.pairs.length = (less : Nat) by omega,
      zpow_natCast]
    push_cast
    ring

/-- **A magnitude has octets** if its value does. -/
lemma fits_iff (m : Scaled) : m.Fits ↔ Representable m.value := by
  obtain ⟨hlow, hhigh⟩ := m.value_bounds
  have hone : (1 : ℚ) < 100 := by norm_num
  have hleast : (10 : ℚ) ^ (-128 : Int) = 100 ^ (-64 : Int) := by norm_num
  have hgreatest : (10 : ℚ) ^ (126 : Int) = 100 ^ (63 : Int) := by norm_num
  have hdigits := m.exists_int_iff 20
  unfold Representable
  rw [abs_of_pos m.value_pos, hleast, hgreatest]
  constructor
  · intro h
    have hexponent := h.exponent
    refine .inr ⟨?_, ?_, m.exponent, hlow, hhigh, ?_⟩
    · exact (zpow_le_zpow_right₀ hone.le (by omega)).trans hlow
    · exact hhigh.trans_le (zpow_le_zpow_right₀ hone.le (by omega))
    · exact hdigits.2 h.length_le
  · rintro (hzero | ⟨hleast, hgreatest, exponent, hplace, hplace', hwhole⟩)
    · exact absurd hzero m.value_pos.ne'
    · have habove := (zpow_lt_zpow_iff_right₀ hone).1 (hleast.trans_lt hhigh)
      have hbelow := (zpow_lt_zpow_iff_right₀ hone).1 (hlow.trans_lt hgreatest)
      have hle := (zpow_lt_zpow_iff_right₀ hone).1 (hlow.trans_lt hplace')
      have hge := (zpow_lt_zpow_iff_right₀ hone).1 (hplace.trans_lt hhigh)
      obtain rfl : exponent = m.exponent := by omega
      exact ⟨by omega, hdigits.1 hwhole⟩

end Scaled

/-- **A value has octets** if it is representable. -/
lemma Decimal.exists_hasOctets_iff {d : Decimal} (hdigits : d.HasDigits) :
    (∃ octets, d.HasOctets octets) ↔ Representable d.value := by
  by_cases hempty : d.trimmed.digits = []
  · exact iff_of_true ⟨_, .zero hempty⟩ (.inl (value_eq_zero hempty))
  · have hfits : (d.scaled hdigits hempty).Fits ↔ Representable d.value := by
      rw [Scaled.fits_iff, value_scaled hdigits hempty, sign]
      split_ifs
      · rw [neg_one_mul, representable_neg_iff]
      · rw [one_mul]
    rw [← hfits, fits_scaled_iff hdigits hempty]
    constructor
    · rintro ⟨octets, hoctets⟩
      cases hoctets with
      | zero hnil => exact absurd hnil hempty
      | digits _ hcount hexponent => exact ⟨hcount, hexponent⟩
    · rintro ⟨hcount, hexponent⟩
      exact ⟨_, .digits hempty hcount hexponent⟩

lemma Representable.inRange {value : ℚ} (h : Representable value) : InRange value :=
  h.imp_right fun ⟨hlow, hhigh, _⟩ => ⟨hlow, hhigh⟩

/-- What is taken for a representable value is one just if it is taken for what it is. -/
lemma Decimal.representable_iff_faithful {d : Decimal} (hdigits : d.HasDigits)
    (h : Representable d.taken.value) : Representable d.value ↔ d.Faithful :=
  ⟨fun hvalue => (inRange_iff_faithful hdigits h.inRange).1 hvalue.inRange,
    fun hfaithful => d.value_taken_eq_iff.2 hfaithful ▸ h⟩

/-- **Which texts have octets**: the decimal numbers that are taken for a value that has, unless a
number on the way does not fit its bits. Every other text is reported. Of what is taken for such a
value just the faithful ones have such a value themselves.

**Proof sketch.** By `parse_eq_ok_iff` the texts that are taken apart are the decimal numbers, and
by `encode_eq_ok_iff` these have octets if the digits and the exponent that are left fit. Trimmed
and aligned, they are the digits and the exponent of the magnitude, so that `Scaled.fits_iff` reads
this off the value. -/
theorem encode_ok_iff (text : String) :
    ((∃ octets, encode text = .ok octets) ↔
      ∃ d, Spells32 text.toList d ∧ Representable d.taken.value ∧ ¬d.Overflows) ∧
    (∀ d, Spells32 text.toList d → Representable d.taken.value →
      (Representable d.value ↔ d.Faithful)) ∧
    ∀ fault, encode text = .error fault →
      fault = .notANumber text ∨ fault = .outOfRange text ∨ fault = .tooManyDigits text ∨
        fault = .overflow text ∧ ∃ d, Spells32 text.toList d ∧ d.Overflows := by
  simp only [← parse_eq_ok_iff]
  refine ⟨⟨?_, ?_⟩, fun d hparse hvalue => ?_, fun fault h => ?_⟩
  · rintro ⟨octets, h⟩
    obtain ⟨d, hparse, hover, hoctets⟩ := parse_of_encode h
    have hdigits := (hasDigits_of_parse hparse).1.taken
    exact ⟨d, hparse, (Decimal.exists_hasOctets_iff hdigits).1 ⟨octets, hoctets⟩, hover⟩
  · rintro ⟨d, hparse, hvalue, hover⟩
    have hdigits := (hasDigits_of_parse hparse).1.taken
    obtain ⟨octets, hoctets⟩ := (Decimal.exists_hasOctets_iff hdigits).2 hvalue
    exact ⟨octets, (encode_eq_ok_iff hparse).2 ⟨hover, hoctets⟩⟩
  · exact Decimal.representable_iff_faithful (hasDigits_of_parse hparse).1 hvalue
  · rcases hparse : Decimal.parse text with other | d
    · rw [encode_of_parse_error hparse] at h
      obtain rfl : other = fault := Except.error.inj h
      exact (fault_of_parse hparse).imp_right .inl
    · rw [encode_eq hparse] at h
      split_ifs at h with hover <;> cases h
      · exact .inr (.inr (.inr ⟨rfl, d, rfl, hover⟩))
      · exact .inr (.inr (.inl rfl))
      · exact .inr (.inl rfl)

/-- **The least exponent** is read, and the point then stands where 32 bits end; taking off the zero
in front moves it beyond, although the value is zero. -/
theorem encode_least_point :
    (∃ d, Spells32 "0.0e-2147483648".toList d ∧ Representable d.value) ∧
      encode "0.0e-2147483648" = .error (.overflow "0.0e-2147483648") := by
  have hparse : Decimal.parse "0.0e-2147483648" = .ok ⟨false, [0, 0], -2147483647⟩ := by
    decide +kernel
  refine ⟨⟨_, parse_eq_ok_iff.1 hparse, .inl (Decimal.value_eq_zero rfl)⟩, ?_⟩
  rw [encode_eq_bind, hparse]
  decide +kernel

end TnsClient.Number
