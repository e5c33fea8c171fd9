import Mathlib
import TnsClient.Proofs.Number.Encoding

set_option autoImplicit false

/-!
# Base-100 digits

The octets of a NUMBER hold an exponent and base-100 digits. What these denote is the sum of the
digits, each times its power of 100. A magnitude other than zero has just one exponent and one list
of digits neither the first nor the last of which is zero, and decimal text that was taken apart is
brought into this form by trimming and aligning it.

## Main definitions

* `TnsClient.Number.centesimal` — the number that base-100 digits denote.
* `TnsClient.Number.Scaled` — a magnitude by its exponent and its digits.
* `TnsClient.Number.Decimal.scaled` — the magnitude of decimal text.

## Main results

* `TnsClient.Number.value_halves` — two decimal digits for each base-100 digit denote the same.
* `TnsClient.Number.Scaled.value_bounds` — the exponent tells how large a magnitude is.
* `TnsClient.Number.Decimal.value_scaled` — bringing decimal text into this form keeps its value.
-/

namespace TnsClient.Number

/-! ## What base-100 digits denote -/

/-- The number that base-100 digits denote, the first of which counts `100 ^ (exponent - 1)`. -/
def centesimal (exponent : Int) (digits : List Int) : ℚ :=
  ∑ i : Fin digits.length, (digits[i] : ℚ) * 100 ^ (exponent - 1 - (i : Nat))

@[simp] lemma centesimal_nil (exponent : Int) : centesimal exponent [] = 0 := rfl

@[simp] lemma centesimal_cons (exponent digit : Int) (digits : List Int) :
    centesimal exponent (digit :: digits) =
      digit * 100 ^ (exponent - 1) + centesimal (exponent - 1) digits := by
  have hplace : ∀ i : Fin digits.length, exponent - 1 - ((i.succ : Nat) : Int) =
      exponent - 1 - 1 - (i : Nat) := by
    intro i
    rw [Fin.val_succ]
    push_cast
    ring
  refine (Fin.sum_univ_succ _).trans ?_
  simp only [hplace]
  simp [centesimal]

lemma hundred_pos : (0 : ℚ) < 100 := by norm_num

lemma hundred_zpow_pos (exponent : Int) : (0 : ℚ) < 100 ^ exponent := zpow_pos hundred_pos _

/-- A power of 100 is a hundred of the next lower one. -/
lemma hundred_zpow_eq (exponent : Int) : (100 : ℚ) ^ exponent = 100 * 100 ^ (exponent - 1) := by
  rw [← zpow_one_add₀ hundred_pos.ne']
  congr 1
  ring

section

variable {exponent : Int} {digits : List Int}

lemma centesimal_nonneg (h : ∀ digit ∈ digits, 0 ≤ digit ∧ digit ≤ 99) :
    0 ≤ centesimal exponent digits := by
  induction digits generalizing exponent with
  | nil => simp
  | cons digit digits ih =>
    obtain ⟨hdigit, hrest⟩ := List.forall_mem_cons.1 h
    rw [centesimal_cons]
    have hfirst : (0 : ℚ) ≤ digit := by exact_mod_cast hdigit.1
    exact add_nonneg (mul_nonneg hfirst (hundred_zpow_pos _).le) (ih hrest)

/-- Base-100 digits denote less than one of the next higher place. -/
lemma centesimal_lt (h : ∀ digit ∈ digits, 0 ≤ digit ∧ digit ≤ 99) :
    centesimal exponent digits < 100 ^ exponent := by
  induction digits generalizing exponent with
  | nil => exact hundred_zpow_pos _
  | cons digit digits ih =>
    obtain ⟨hdigit, hrest⟩ := List.forall_mem_cons.1 h
    have hfirst : (digit : ℚ) ≤ 99 := by exact_mod_cast hdigit.2
    have hplace := hundred_zpow_pos (exponent - 1)
    calc centesimal exponent (digit :: digits)
        = digit * 100 ^ (exponent - 1) + centesimal (exponent - 1) digits := centesimal_cons ..
      _ < 99 * 100 ^ (exponent - 1) + 100 ^ (exponent - 1) :=
          add_lt_add_of_le_of_lt (mul_le_mul_of_nonneg_right hfirst hplace.le) (ih hrest)
      _ = 100 ^ exponent := by
          rw [hundred_zpow_eq exponent]
          ring

lemma centesimal_pos (h : ∀ digit ∈ digits, 0 ≤ digit ∧ digit ≤ 99)
    (hne : ∃ digit ∈ digits, digit ≠ 0) : 0 < centesimal exponent digits := by
  induction digits generalizing exponent with
  | nil => simp at hne
  | cons digit digits ih =>
    obtain ⟨hdigit, hrest⟩ := List.forall_mem_cons.1 h
    have hplace := hundred_zpow_pos (exponent - 1)
    rw [centesimal_cons]
    by_cases hzero : digit = 0
    · have hlater : ∃ digit ∈ digits, digit ≠ 0 := by simpa [hzero] using hne
      simpa [hzero] using ih hrest hlater
    · have hfirst : (0 : ℚ) < digit := by exact_mod_cast lt_of_le_of_ne hdigit.1 (Ne.symm hzero)
      exact add_pos_of_pos_of_nonneg (mul_pos hfirst hplace) (centesimal_nonneg hrest)

end

/-- Decimal digits are worth ten of the next place each. -/
lemma magnitude_mul_cons (digit : Nat) (digits : List Nat) (point : Int) :
    (magnitude (digit :: digits) : ℚ) * 10 ^ (point - (digit :: digits).length) =
      digit * 10 ^ (point - 1) + magnitude digits * 10 ^ (point - 1 - digits.length) := by
  have hplace : point - ((digit :: digits).length : Int) + digits.length = point - 1 := by
    rw [List.length_cons]
    push_cast
    ring
  have hrest : point - ((digit :: digits).length : Int) = point - 1 - digits.length := by
    rw [List.length_cons]
    push_cast
    ring
  rw [magnitude_cons, Nat.cast_add, Nat.cast_mul, add_mul, Nat.cast_pow, mul_assoc,
    ← zpow_natCast, Nat.cast_ofNat, ← zpow_add₀ (by norm_num), add_comm (digits.length : Int),
    hplace, hrest]

/-- **Two decimal digits for each base-100 digit** denote the same. -/
lemma value_halves (negative : Bool) (exponent : Int) (pairs : List Nat) :
    Decimal.value ⟨negative, halves pairs, 2 * exponent⟩ =
      (if negative then -1 else 1) * centesimal exponent (pairs.map (↑)) := by
  have hmagnitude : (magnitude (halves pairs) : ℚ) * 10 ^ (2 * exponent - (halves pairs).length) =
      centesimal exponent (pairs.map (↑)) := by
    induction pairs generalizing exponent with
    | nil => simp [halves]
    | cons pair pairs ih =>
      have hpair : (10 : ℚ) * (pair / 10 : Nat) + (pair % 10 : Nat) = pair := by
        exact_mod_cast Nat.div_add_mod pair 10
      have htens : (10 : ℚ) ^ (2 * exponent - 1) = 10 * 100 ^ (exponent - 1) := by
        rw [show (100 : ℚ) = 10 ^ (2 : Int) by norm_num, ← zpow_mul, ← zpow_one_add₀ (by norm_num)]
        congr 1
        ring
      have hones : (10 : ℚ) ^ (2 * exponent - 1 - 1) = 100 ^ (exponent - 1) := by
        rw [show (100 : ℚ) = 10 ^ (2 : Int) by norm_num, ← zpow_mul]
        congr 1
        ring
      have hrest := ih (exponent - 1)
      rw [show 2 * (exponent - 1) = 2 * exponent - 1 - 1 by ring] at hrest
      rw [halves, List.flatMap_cons, ← halves, List.cons_append, List.singleton_append,
        magnitude_mul_cons, magnitude_mul_cons, htens, hones, hrest, List.map_cons,
        centesimal_cons, Int.cast_natCast, ← hpair]
      ring
  rw [Decimal.value, Decimal.sign, mul_assoc, hmagnitude]

/-! ## Magnitudes -/

/-- A magnitude to base 100: where its digits begin, and the digits, neither the first nor the last
of which is zero. -/
structure Scaled where
  /-- The first digit counts `100 ^ (exponent - 1)`. -/
  exponent : Int
  /-- The base-100 digits, most significant first. -/
  pairs : List Nat
  le : ∀ pair ∈ pairs, pair ≤ 99
  ne_nil : pairs ≠ []
  head_ne : pairs.head ne_nil ≠ 0
  last_ne : pairs.getLast ne_nil ≠ 0

namespace Scaled

/-- The number that a magnitude is. -/
def value (m : Scaled) : ℚ := centesimal m.exponent (m.pairs.map (↑))

/-- The octets of a magnitude with a sign. -/
def octets (negative : Bool) (m : Scaled) : Bytes :=
  headOctet negative m.exponent :: m.pairs.map (digitOctet negative) ++
    if negative ∧ m.pairs.length < maxPairs then [terminator] else []

/-- A magnitude has octets: seven bits hold its exponent, and it has not too many digits. -/
structure Fits (m : Scaled) : Prop where
  exponent : -63 ≤ m.exponent ∧ m.exponent ≤ 63
  length_le : m.pairs.length ≤ maxPairs

lemma digits_bounds (m : Scaled) : ∀ digit ∈ m.pairs.map (↑), (0 : Int) ≤ digit ∧ digit ≤ 99 :=
  bounds_of_le m.le

/-- **The exponent** tells how large a magnitude is. -/
lemma value_bounds (m : Scaled) :
    (100 : ℚ) ^ (m.exponent - 1) ≤ m.value ∧ m.value < 100 ^ m.exponent := by
  have hbounds := m.digits_bounds
  refine ⟨?_, centesimal_lt hbounds⟩
  obtain ⟨first, rest, hpairs⟩ := List.exists_cons_of_ne_nil m.ne_nil
  have hfirst : (1 : ℚ) ≤ first := by
    have hhead := m.head_ne
    simp only [hpairs, List.head_cons] at hhead
    exact_mod_cast Nat.one_le_iff_ne_zero.2 hhead
  rw [hpairs, List.map_cons, List.forall_mem_cons] at hbounds
  rw [value, hpairs, List.map_cons, centesimal_cons]
  have hplace := hundred_zpow_pos (m.exponent - 1)
  calc (100 : ℚ) ^ (m.exponent - 1) = 1 * 100 ^ (m.exponent - 1) := (one_mul _).symm
    _ ≤ first * 100 ^ (m.exponent - 1) := mul_le_mul_of_nonneg_right hfirst hplace.le
    _ ≤ first * 100 ^ (m.exponent - 1) + centesimal (m.exponent - 1) (rest.map (↑)) :=
        le_add_of_nonneg_right (centesimal_nonneg hbounds.2)

lemma value_pos (m : Scaled) : 0 < m.value := (hundred_zpow_pos _).trans_le m.value_bounds.1

end Scaled

/-! ## The magnitude of decimal text -/

/-- The last two of an even number of digits make a base-100 digit. -/
lemma pairUp_append {front : List Nat} (heven : front.length % 2 = 0) (high low : Nat) :
    pairUp (front ++ [high, low]) = pairUp front ++ [10 * high + low] := by
  induction front using pairUp.induct with
  | case1 first second rest ih =>
    rw [List.cons_append, List.cons_append, pairUp, pairUp,
      ih (by simp only [List.length_cons] at heven; omega), List.cons_append]
  | case2 front hshort =>
    rcases front with _ | ⟨first, _ | ⟨second, rest⟩⟩
    · rfl
    · simp at heven
    · exact absurd rfl (hshort first second rest)

namespace Decimal

variable {d : Decimal}

/-- The first base-100 digit is not zero. -/
lemma IsTrimmed.aligned_front (h : d.IsTrimmed) :
    ∃ high low rest, d.aligned.digits = high :: low :: rest ∧ 10 * high + low ≠ 0 := by
  obtain ⟨front, back, hfront, -, haligned⟩ := d.aligned_eq
  obtain ⟨first, rest, hdigits⟩ := List.exists_cons_of_ne_nil h.ne_nil
  have hfirst : first ≠ 0 := by
    have hhead := h.head
    simpa only [hdigits, List.head_cons] using hhead
  have heven := d.aligned_even.1
  rw [haligned, hdigits] at heven ⊢
  obtain rfl | rfl : front = 0 ∨ front = 1 := by omega
  · rcases hmore : rest ++ List.replicate back 0 with _ | ⟨second, more⟩
    · simp [hmore] at heven
    · exact ⟨first, second, more, by simp [hmore], by omega⟩
  · exact ⟨0, first, rest ++ List.replicate back 0, rfl, by omega⟩

/-- The last base-100 digit is not zero. -/
lemma IsTrimmed.aligned_back (h : d.IsTrimmed) :
    ∃ front high low, d.aligned.digits = front ++ [high, low] ∧ front.length % 2 = 0 ∧
      10 * high + low ≠ 0 := by
  obtain ⟨front, back, -, hback, haligned⟩ := d.aligned_eq
  obtain ⟨rest, last, hdigits⟩ := (List.eq_nil_or_concat' d.digits).resolve_left h.ne_nil
  have hlast : last ≠ 0 := by
    have hgetLast := h.last
    simpa only [hdigits, List.getLast_concat] using hgetLast
  have heven := d.aligned_even.1
  have hsplit : d.aligned.digits =
      List.replicate front 0 ++ rest ++ last :: List.replicate back 0 := by
    simp [haligned, hdigits]
  rw [hsplit] at heven ⊢
  generalize List.replicate front 0 ++ rest = body at heven
  obtain rfl | rfl : back = 0 ∨ back = 1 := by omega
  · rcases List.eq_nil_or_concat' body with rfl | ⟨more, high, rfl⟩
    · simp at heven
    · refine ⟨more, high, last, by simp, ?_, by omega⟩
      simp only [List.length_append, List.length_cons, List.length_replicate, List.length_nil]
        at heven
      omega
  · refine ⟨body, last, 0, rfl, ?_, by omega⟩
    simp only [List.length_append, List.length_cons, List.length_replicate] at heven
    omega

/-- The magnitude of decimal text that does not denote zero. -/
def scaled (d : Decimal) (hdigits : d.HasDigits) (hne : d.trimmed.digits ≠ []) : Scaled where
  exponent := d.exponent
  pairs := pairUp d.trimmed.aligned.digits
  le := le_of_mem_pairUp hdigits.trimmed.aligned
  ne_nil := by
    obtain ⟨high, low, rest, hdigits, -⟩ := (isTrimmed_trimmed hne).aligned_front
    simp [hdigits, pairUp]
  head_ne := by
    obtain ⟨high, low, rest, hdigits, hpair⟩ := (isTrimmed_trimmed hne).aligned_front
    simpa only [hdigits, pairUp, List.head_cons] using hpair
  last_ne := by
    obtain ⟨front, high, low, hdigits, heven, hpair⟩ := (isTrimmed_trimmed hne).aligned_back
    simpa only [hdigits, pairUp_append heven, List.getLast_concat] using hpair

variable (hdigits : d.HasDigits) (hne : d.trimmed.digits ≠ [])

/-- **Bringing decimal text into this form** keeps its value. -/
lemma value_scaled : d.value = d.sign * (d.scaled hdigits hne).value := by
  obtain ⟨front, back, -, -, haligned⟩ := d.trimmed.aligned_eq
  obtain ⟨heven, hplace⟩ := d.trimmed.aligned_even
  have hpoint : d.trimmed.point + front = 2 * d.exponent := by
    rw [exponent]
    rw [haligned] at hplace ⊢
    dsimp only at hplace ⊢
    omega
  have hpad := value_pad d.negative d.trimmed.digits d.trimmed.point front back
  have hhalves : halves (pairUp d.trimmed.aligned.digits) = List.replicate front 0 ++
      (d.trimmed.digits ++ List.replicate back 0) := by
    rw [halves_pairUp hdigits.trimmed.aligned heven, haligned]
  rw [hpoint, ← hhalves, value_halves] at hpad
  rw [← value_trimmed]
  exact hpad.symm

/-- A magnitude has octets if the aligned digits are not too many and the exponent is in range. -/
lemma fits_scaled_iff : (d.scaled hdigits hne).Fits ↔
    d.trimmed.aligned.digits.length / 2 ≤ maxPairs ∧ -63 ≤ d.exponent ∧ d.exponent ≤ 63 := by
  rw [← length_pairUp]
  exact ⟨fun h => ⟨h.length_le, h.exponent⟩, fun h => ⟨h.2, h.1⟩⟩

/-- A text that does not denote zero has the octets of its magnitude. -/
lemma laidOut_eq : laidOut d.negative d.exponent d.trimmed.aligned.digits =
    (d.scaled hdigits hne).octets d.negative := rfl

end Decimal

end TnsClient.Number
