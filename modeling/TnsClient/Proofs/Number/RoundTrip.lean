import Mathlib
import TnsClient.Column.Conversion
import TnsClient.Proofs.Number.Reading

set_option autoImplicit false

/-!
# There and back

A number that is sent as decimal text comes back as decimal text, but not as the same one: the text
that comes back has no exponent, no plus sign, and no zero that could be left out. There is one such
text for each value, and the octets of a text are those of the one for its value.

## Main definitions

* `TnsClient.Number.IsPlain` — digits in front of a point and behind it, with no zero too many.
* `TnsClient.Number.PlainText` — the plain decimal text of a value.

## Main results

* `TnsClient.Number.PlainText.unique` — a value has one plain decimal text.
* `TnsClient.Number.encode_plain` — the plain text that octets are read as has these octets.
* `TnsClient.Number.decode_inverts_encode_iff` — octets are read as the plain text of the value that
  their text is taken for, which exactly for the faithful ones is the value that it denotes, and
  integers come back unchanged.
-/

namespace TnsClient.Number

/-! ## Characters and digits -/

lemma isDigit_digitChar {digit : Nat} (h : digit < 10) : (digitChar digit).isDigit = true := by
  have hall : ∀ digit : Fin 10, (digitChar digit).isDigit = true := by decide
  exact hall ⟨digit, h⟩

lemma digitValue_digitChar {digit : Nat} (h : digit < 10) :
    digitValue (digitChar digit) = digit := by
  have hall : ∀ digit : Fin 10, digitValue (digitChar digit) = digit := by decide
  exact hall ⟨digit, h⟩

lemma map_digitValue_digitChar {digits : List Nat} (h : ∀ digit ∈ digits, digit < 10) :
    (digits.map digitChar).map digitValue = digits := by
  rw [List.map_map]
  exact (List.map_congr_left fun digit hmem => digitValue_digitChar (h digit hmem)).trans
    (List.map_id _)

lemma digitChar_digitValue {c : Char} (h : c.isDigit = true) : digitChar (digitValue c) = c := by
  have hbounds := isDigit_bounds h
  have hzero : '0'.toNat = 48 := rfl
  unfold digitChar digitValue
  rw [show '0'.toNat + (c.toNat - '0'.toNat) = c.toNat by omega, Char.ofNat_toNat]

lemma map_digitChar_digitValue {characters : List Char} (h : ∀ c ∈ characters, c.isDigit = true) :
    (characters.map digitValue).map digitChar = characters := by
  rw [List.map_map]
  exact (List.map_congr_left fun c hmem => digitChar_digitValue (h c hmem)).trans (List.map_id _)

lemma magnitude_map_lt {characters : List Char} (h : ∀ c ∈ characters, c.isDigit = true) :
    magnitude (characters.map digitValue) < 10 ^ characters.length := by
  have hdigits : ∀ digit ∈ characters.map digitValue, digit < 10 := by
    intro digit hmem
    obtain ⟨c, hc, rfl⟩ := List.mem_map.1 hmem
    exact digitValue_lt (h c hc)
  have hlt := magnitude_lt hdigits
  rwa [List.length_map] at hlt

/-- As many digits that denote the same number are the same. -/
lemma eq_of_magnitude_eq {one other : List Char} (hone : ∀ c ∈ one, c.isDigit = true)
    (hother : ∀ c ∈ other, c.isDigit = true) (hlength : one.length = other.length)
    (h : magnitude (one.map digitValue) = magnitude (other.map digitValue)) : one = other := by
  have hlt : ∀ {digits : List Char}, (∀ c ∈ digits, c.isDigit = true) →
      ∀ digit ∈ (digits.map digitValue).reverse, digit < 10 := by
    intro digits hdigits digit hmem
    obtain ⟨c, hc, rfl⟩ := List.mem_map.1 (List.mem_reverse.1 hmem)
    exact digitValue_lt (hdigits c hc)
  have hvalues : one.map digitValue = other.map digitValue := List.reverse_injective
    (Nat.ofDigits_inj_of_len_eq (by norm_num) (by simpa using hlength) (hlt hone) (hlt hother) h)
  rw [← map_digitChar_digitValue hone, hvalues, map_digitChar_digitValue hother]

/-! ## Plain decimal text -/

/-- Digits in front of the point and behind it, such that no zero could be left out. -/
structure IsPlain (whole fraction : List Char) : Prop where
  isDigit : ∀ c ∈ whole ++ fraction, c.isDigit = true
  ne_nil : whole ≠ []
  head : whole.head? = some '0' → whole = ['0']
  last : fraction.getLast? ≠ some '0'

/-- **The plain decimal text of a value**: a minus sign for a negative value, digits, and, if there
are digits behind it, a point. -/
def PlainText (text : String) (value : ℚ) : Prop :=
  ∃ whole fraction, IsPlain whole fraction ∧
    |value| * 10 ^ fraction.length = magnitude ((whole ++ fraction).map digitValue) ∧
    text.toList = (if value < 0 then ['-'] else []) ++ whole ++
      (if fraction = [] then [] else '.' :: fraction)

namespace IsPlain

variable {whole fraction other : List Char}

lemma isDigit_whole (h : IsPlain whole fraction) : ∀ c ∈ whole, c.isDigit = true :=
  fun c hmem => h.isDigit c (List.mem_append_left _ hmem)

lemma isDigit_fraction (h : IsPlain whole fraction) : ∀ c ∈ fraction, c.isDigit = true :=
  fun c hmem => h.isDigit c (List.mem_append_right _ hmem)

/-- What has digits behind the point denotes no multiple of ten there. -/
lemma magnitude_mod_ten_ne_zero (h : IsPlain whole fraction) (hne : fraction ≠ []) :
    magnitude ((whole ++ fraction).map digitValue) % 10 ≠ 0 := by
  obtain ⟨front, last, rfl⟩ := (List.eq_nil_or_concat' fraction).resolve_left hne
  have hdigit := h.isDigit_fraction last (by simp)
  rw [← List.append_assoc, List.map_append, List.map_singleton,
    Number.magnitude_mod_ten _ (digitValue_lt hdigit)]
  intro hzero
  refine h.last ?_
  rw [List.getLast?_concat, ← digitChar_digitValue hdigit, hzero]
  rfl

/-- As many digits in front of the point denote different numbers, and so do more of them. -/
lemma length_whole_le (h : IsPlain whole fraction) (hother : ∀ c ∈ other, c.isDigit = true)
    (hne : other ≠ [])
    (hvalue : magnitude (whole.map digitValue) = magnitude (other.map digitValue)) :
    whole.length ≤ other.length := by
  by_contra hlonger
  obtain ⟨first, rest, rfl⟩ := List.exists_cons_of_ne_nil h.ne_nil
  have hlong : other.length ≤ rest.length := by simpa using hlonger
  have hfirst : 1 ≤ digitValue first := by
    by_contra hzero
    have hc : first = '0' := by
      rw [← digitChar_digitValue (h.isDigit_whole first List.mem_cons_self),
        show digitValue first = 0 by omega]
      rfl
    have hrest : rest = [] := by simpa [hc] using h.head (by simp [hc])
    rw [hrest, List.length_nil, Nat.le_zero, List.length_eq_zero_iff] at hlong
    exact hne hlong
  have hlt := magnitude_map_lt hother
  have hle : 10 ^ other.length ≤ magnitude ((first :: rest).map digitValue) := calc
    10 ^ other.length ≤ 10 ^ rest.length := Nat.pow_le_pow_right (by norm_num) hlong
    _ ≤ digitValue first * 10 ^ rest.length := Nat.le_mul_of_pos_left _ hfirst
    _ ≤ magnitude ((first :: rest).map digitValue) := by
      rw [List.map_cons, magnitude_cons, List.length_map]
      exact Nat.le_add_right _ _
  omega

/-- What denotes a value with fewer digits behind the point could leave zeros out. -/
lemma length_fraction_le (h : IsPlain whole fraction) {value : ℚ} {places number : Nat}
    (hvalue : value * 10 ^ fraction.length = magnitude ((whole ++ fraction).map digitValue))
    (hplaces : value * 10 ^ places = number) : fraction.length ≤ places := by
  by_contra hmore
  obtain ⟨more, hmore⟩ : ∃ more, fraction.length = places + (more + 1) :=
    ⟨fraction.length - places - 1, by omega⟩
  rw [hmore, pow_add, ← mul_assoc, hplaces, pow_succ, ← mul_assoc] at hvalue
  have hten : magnitude ((whole ++ fraction).map digitValue) = number * 10 ^ more * 10 := by
    exact_mod_cast hvalue.symm
  refine h.magnitude_mod_ten_ne_zero ?_ (by rw [hten, Nat.mul_mod_left])
  rintro rfl
  exact absurd hmore (by simp)

end IsPlain

/-- **A value has one plain decimal text.**

**Proof sketch.** Of two such texts neither has more digits behind the point, since its last digit
would be a zero then; so both denote the same number of smallest parts. Neither has more digits in
front of the point, since its first digit would be a zero. -/
theorem PlainText.unique {text other : String} {value : ℚ} (h : PlainText text value)
    (h' : PlainText other value) : text = other := by
  obtain ⟨whole, fraction, hplain, hvalue, htext⟩ := h
  obtain ⟨whole', fraction', hplain', hvalue', htext'⟩ := h'
  have hplaces : fraction.length = fraction'.length :=
    Nat.le_antisymm (hplain.length_fraction_le hvalue hvalue')
      (hplain'.length_fraction_le hvalue' hvalue)
  have hparts : magnitude ((whole ++ fraction).map digitValue) =
      magnitude ((whole' ++ fraction').map digitValue) := by
    rw [← hplaces, hvalue] at hvalue'
    exact_mod_cast hvalue'
  rw [List.map_append, List.map_append, magnitude_append, magnitude_append, List.length_map,
    List.length_map, ← hplaces] at hparts
  have hlt := magnitude_map_lt hplain.isDigit_fraction
  have hlt' := magnitude_map_lt hplain'.isDigit_fraction
  rw [← hplaces] at hlt'
  have hbehind : magnitude (fraction.map digitValue) = magnitude (fraction'.map digitValue) := by
    have hmod := congrArg (· % 10 ^ fraction.length) hparts
    simpa [Nat.mul_add_mod', Nat.mod_eq_of_lt hlt, Nat.mod_eq_of_lt hlt'] using hmod
  have hfront : magnitude (whole.map digitValue) = magnitude (whole'.map digitValue) := by
    rw [hbehind, Nat.add_right_cancel_iff] at hparts
    exact Nat.eq_of_mul_eq_mul_right (by positivity) hparts
  have hlength : whole.length = whole'.length :=
    Nat.le_antisymm (hplain.length_whole_le hplain'.isDigit_whole hplain'.ne_nil hfront)
      (hplain'.length_whole_le hplain.isDigit_whole hplain.ne_nil hfront.symm)
  obtain rfl := eq_of_magnitude_eq hplain.isDigit_whole hplain'.isDigit_whole hlength hfront
  obtain rfl := eq_of_magnitude_eq hplain.isDigit_fraction hplain'.isDigit_fraction hplaces hbehind
  rw [← String.toList_inj, htext, htext']

/-- The plain decimal text of a value denotes it. -/
theorem PlainText.denotes {text : String} {value : ℚ} (h : PlainText text value) :
    Denotes text value := by
  obtain ⟨whole, fraction, hplain, hvalue, htext⟩ := h
  have hsign : SignText (if value < 0 then ['-'] else []) (decide (value < 0)) := by
    by_cases hnegative : value < 0 <;>
      simp only [hnegative, if_true, if_false, decide_true, decide_false]
    · exact .minus
    · exact .none
  have hmantissa : MantissaText (whole ++ if fraction = [] then [] else '.' :: fraction)
      whole fraction := by
    split_ifs with hnil
    · rw [hnil, List.append_nil]
      exact .whole whole
    · exact .point whole fraction
  have hspells := Spells.intro hsign hmantissa
    (List.append_ne_nil_of_left_ne_nil hplain.ne_nil fraction) hplain.isDigit .none
  rw [List.append_nil, ← List.append_assoc, ← htext] at hspells
  refine ⟨_, hspells, ?_⟩
  have hpoint : (whole.length : Int) + 0 - ((whole ++ fraction).map digitValue).length =
      -(fraction.length : Int) := by
    rw [List.length_map, List.length_append]
    push_cast
    ring
  rw [Decimal.value, hpoint, zpow_neg, zpow_natCast, ← hvalue, mul_assoc,
    mul_inv_cancel_right₀ (pow_ne_zero _ (by norm_num)), Decimal.sign]
  by_cases hnegative : value < 0
  · simp [hnegative, abs_of_neg]
  · simp [hnegative, abs_of_nonneg (not_lt.1 hnegative)]

/-- A text is the plain decimal text of one value only. -/
lemma PlainText.value_eq {text : String} {value other : ℚ} (h : PlainText text value)
    (h' : PlainText text other) : value = other := by
  obtain ⟨d, hspells, hvalue⟩ := h.denotes
  obtain ⟨d', hspells', hvalue'⟩ := h'.denotes
  rw [← hvalue, ← hvalue', hspells.unique hspells']

lemma plainText_zero : PlainText "0" 0 :=
  ⟨['0'], [], ⟨by simp, by simp, by simp, by simp⟩, by simp [digitValue], by simp⟩

/-! ## From text to plain text -/

namespace Decimal

variable {d : Decimal}

/-- Shortening looks at the front of the digits first, and then at their end. -/
lemma shorten_eq (negative : Bool) {digits : List Nat} (point : Int) {front : Nat}
    (hfront : front ≤ 1) (hne : digits ≠ []) (hhead : digits.head hne ≠ 0) :
    shorten ⟨negative, List.replicate front 0 ++ digits, point + front⟩ =
      ⟨negative, if digits.getLast? = some 0 then digits.dropLast else digits, point⟩ := by
  obtain rfl | rfl : front = 0 ∨ front = 1 := by omega
  · obtain ⟨first, rest, rfl⟩ := List.exists_cons_of_ne_nil hne
    cases first with
    | zero => exact absurd rfl hhead
    | succ first => simp [shorten]
  · simp [shorten]

/-- Shortening takes off the zeros that aligning put in. -/
lemma IsTrimmed.shorten_aligned (h : d.IsTrimmed) : d.aligned.shorten = d := by
  obtain ⟨front, back, hfront, hback, haligned⟩ := d.aligned_eq
  have hne : d.digits ++ List.replicate back 0 ≠ [] := List.append_ne_nil_of_left_ne_nil h.ne_nil _
  have hhead : (d.digits ++ List.replicate back 0).head hne ≠ 0 := by
    rw [List.head_append_of_ne_nil h.ne_nil]
    exact h.head
  have hdigits : (if (d.digits ++ List.replicate back 0).getLast? = some 0
      then (d.digits ++ List.replicate back 0).dropLast else d.digits ++ List.replicate back 0) =
      d.digits := by
    obtain rfl | rfl : back = 0 ∨ back = 1 := by omega
    · have hlast : d.digits.getLast? ≠ some 0 := by
        rw [List.getLast?_eq_some_getLast h.ne_nil]
        simpa using h.last
      simp [hlast]
    · simp
  rw [haligned, shorten_eq d.negative d.point hfront hne hhead, hdigits]

/-- **Plain text is put together of the digits and the zeros around them.** There are zeros in front
only where the point is, and zeros behind only where it is not. -/
lemma plain_eq (hdigits : d.HasDigits) :
    ∃ whole fraction front back, MantissaText (plain d.digits d.point) whole fraction ∧ whole ≠ [] ∧
      (∀ c ∈ whole ++ fraction, c.isDigit = true) ∧
      (whole ++ fraction).map digitValue =
        List.replicate front 0 ++ (d.digits ++ List.replicate back 0) ∧
      (whole.length : Int) = d.point + front ∧ (front = 0 ∨ whole = ['0']) ∧
      (back = 0 ∨ fraction = []) ∧
      (d.digits ≠ [] → plain d.digits d.point =
        whole ++ (if fraction = [] then [] else '.' :: fraction)) := by
  have hisDigit : ∀ c ∈ d.digits.map digitChar, c.isDigit = true := by
    intro c hmem
    obtain ⟨digit, hdigit, rfl⟩ := List.mem_map.1 hmem
    exact isDigit_digitChar (hdigits digit hdigit)
  have hvalues := map_digitValue_digitChar hdigits
  have hnil : d.digits ≠ [] → d.digits.map digitChar ≠ [] := fun hne => by simpa using hne
  have hzeros : ∀ count, (List.replicate count '0').map digitValue = List.replicate count 0 :=
    fun count => List.map_replicate
  have hisZero : ∀ count, ∀ c ∈ List.replicate count '0', c.isDigit = true :=
    fun count c hmem => List.eq_of_mem_replicate hmem ▸ rfl
  unfold plain
  dsimp only
  generalize d.digits.map digitChar = text at hisDigit hvalues hnil ⊢
  split_ifs with hpoint hlength
  -- the point stands in front of the digits
  · refine ⟨['0'], List.replicate (-d.point).toNat '0' ++ text, 1 + (-d.point).toNat, 0,
      .point ['0'] _, by simp, ?_, ?_, ?_, .inr rfl, .inl rfl, fun hne => ?_⟩
    · exact List.forall_mem_append.2 ⟨hisZero 1, List.forall_mem_append.2 ⟨hisZero _, hisDigit⟩⟩
    · rw [List.map_append, List.map_append, hvalues, hzeros, List.replicate_add,
        List.replicate_zero, List.append_nil, List.append_assoc]
      rfl
    · rw [List.length_singleton]
      omega
    · rw [if_neg (List.append_ne_nil_of_right_ne_nil _ (hnil hne))]
      rfl
  -- it stands behind them
  · refine ⟨text ++ List.replicate (d.point.toNat - text.length) '0', [], 0,
      d.point.toNat - text.length, .whole _, fun heq => ?_, ?_, ?_, ?_, .inl rfl, .inr rfl,
      fun _ => ?_⟩
    · have hcount := congrArg List.length heq
      rw [List.length_append, List.length_replicate, List.length_nil] at hcount
      omega
    · rw [List.append_nil]
      exact List.forall_mem_append.2 ⟨hisDigit, hisZero _⟩
    · rw [List.append_nil, List.map_append, hvalues, hzeros]
      rfl
    · rw [List.length_append, List.length_replicate]
      omega
    · rw [if_pos rfl, List.append_nil]
  -- it stands between them
  · have hfraction : text.drop d.point.toNat ≠ [] := by
      rw [Ne, List.drop_eq_nil_iff]
      omega
    refine ⟨text.take d.point.toNat, text.drop d.point.toNat, 0, 0, .point _ _, fun heq => ?_, ?_,
      ?_, ?_, .inl rfl, .inl rfl, fun _ => ?_⟩
    · have hcount := congrArg List.length heq
      rw [List.length_take, List.length_nil] at hcount
      omega
    · rwa [List.take_append_drop]
    · rw [List.take_append_drop, hvalues, List.replicate_zero, List.nil_append, List.append_nil]
    · rw [List.length_take]
      omega
    · rw [if_neg hfraction]

/-- Digits neither end of which is a zero make plain text without a zero too many. -/
lemma IsTrimmed.plain_eq (h : d.IsTrimmed) (hdigits : d.HasDigits) :
    ∃ whole fraction front back, IsPlain whole fraction ∧
      plain d.digits d.point = whole ++ (if fraction = [] then [] else '.' :: fraction) ∧
      (whole ++ fraction).map digitValue =
        List.replicate front 0 ++ (d.digits ++ List.replicate back 0) ∧
      (whole.length : Int) = d.point + front := by
  obtain ⟨whole, fraction, front, back, -, hne, hisDigit, hvalues, hpoint, hfront, hback, htext⟩ :=
    Decimal.plain_eq hdigits
  refine ⟨whole, fraction, front, back, ⟨hisDigit, hne, fun hzero => ?_, fun hzero => ?_⟩,
    htext h.ne_nil, hvalues, hpoint⟩
  · rcases hfront with rfl | hwhole
    · have hhead := congrArg List.head? hvalues
      rw [List.head?_map, List.head?_append_of_ne_nil _ hne, hzero, List.replicate_zero,
        List.nil_append, List.head?_append_of_ne_nil _ h.ne_nil, List.head?_eq_some_head h.ne_nil,
        Option.map_some, Option.some_inj] at hhead
      exact absurd hhead.symm h.head
    · exact hwhole
  · rcases hback with rfl | rfl
    · have hfraction : fraction ≠ [] := by
        rintro rfl
        simp at hzero
      have hlast := congrArg List.getLast? hvalues
      rw [List.getLast?_map, List.getLast?_append_of_ne_nil _ hfraction, hzero,
        List.replicate_zero, List.append_nil, List.getLast?_append_of_ne_nil _ h.ne_nil,
        List.getLast?_eq_some_getLast h.ne_nil, Option.map_some, Option.some_inj] at hlast
      exact h.last hlast.symm
    · simp at hzero

/-- **Plain text** of digits neither end of which is a zero. -/
lemma IsTrimmed.plainText_render (h : d.IsTrimmed) (hdigits : d.HasDigits) :
    PlainText d.render d.value := by
  obtain ⟨whole, fraction, front, back, hplain, htext, hvalues, hpoint⟩ := h.plain_eq hdigits
  have hvalue : d.value = ((if d.negative then -1 else 1) : ℚ) *
      magnitude ((whole ++ fraction).map digitValue) / 10 ^ fraction.length := by
    have hplaces : d.point + front - ((whole ++ fraction).map digitValue).length =
        -(fraction.length : Int) := by
      rw [← hpoint, List.length_map, List.length_append]
      push_cast
      ring
    rw [← value_pad d.negative d.digits d.point front back, ← hvalues, value, hplaces, zpow_neg,
      zpow_natCast, sign, div_eq_mul_inv]
  have hnumber :
      (0 : ℚ) < magnitude ((whole ++ fraction).map digitValue) / 10 ^ fraction.length := by
    refine div_pos (Nat.cast_pos.2 (Nat.pos_of_ne_zero fun hzero => ?_)) (by positivity)
    have hmem : d.digits.head h.ne_nil ∈ (whole ++ fraction).map digitValue := by
      rw [hvalues]
      exact List.mem_append_right _ (List.mem_append_left _ (List.head_mem h.ne_nil))
    exact h.head (magnitude_eq_zero_iff.1 hzero _ hmem)
  rw [mul_div_assoc] at hvalue
  refine ⟨whole, fraction, hplain, ?_, ?_⟩
  · have habs :
        |d.value| = magnitude ((whole ++ fraction).map digitValue) / 10 ^ fraction.length := by
      rw [hvalue, abs_mul, abs_of_pos hnumber]
      split_ifs <;> simp
    rw [habs, div_mul_cancel₀ _ (pow_ne_zero _ (by norm_num))]
  · have hnegative : d.value < 0 ↔ d.negative = true := by
      rw [hvalue]
      split_ifs with hsign
      · simpa [hsign] using hnumber
      · simpa [hsign] using hnumber.le
    rw [render, String.toList_ofList, htext, List.append_assoc]
    simp only [hnegative]

end Decimal

/-- **Octets are read as the plain text** of the digits that they were made of. -/
lemma Decimal.HasOctets.decode {d : Decimal} {octets : Bytes} (h : d.HasOctets octets)
    (hdigits : d.HasDigits) :
    d.trimmed.digits = [] ∧ octets = [0x80] ∨
      d.trimmed.IsTrimmed ∧ Number.decode octets = .ok d.trimmed.render := by
  cases h with
  | zero hempty => exact .inl ⟨hempty, rfl⟩
  | digits hne _ hexponent =>
    have htrimmed := isTrimmed_trimmed hne
    have heven := d.trimmed.aligned_even
    have hne' : d.trimmed.aligned.digits ≠ [] := by
      obtain ⟨front, back, -, -, haligned⟩ := d.trimmed.aligned_eq
      rw [haligned]
      simp [hne]
    have hshorten : shorten ⟨d.negative, d.trimmed.aligned.digits, 2 * d.exponent⟩ = d.trimmed := by
      rw [exponent, show 2 * (d.trimmed.aligned.point / 2) = d.trimmed.aligned.point by omega]
      exact htrimmed.shorten_aligned
    refine .inr ⟨htrimmed, ?_⟩
    rw [decode_laidOut d.negative hexponent hdigits.trimmed.aligned hne' heven.1, hshorten]

/-- The plain text is that of the value. -/
lemma Decimal.HasOctets.plainText {d : Decimal} {octets : Bytes} (h : d.HasOctets octets)
    (hdigits : d.HasDigits) :
    ∃ plain, Number.decode octets = .ok plain ∧ PlainText plain d.value := by
  rcases h.decode hdigits with ⟨hempty, rfl⟩ | ⟨htrimmed, hdecode⟩
  · refine ⟨"0", by decide, ?_⟩
    rw [value_eq_zero hempty]
    exact plainText_zero
  · refine ⟨_, hdecode, ?_⟩
    rw [← value_trimmed]
    exact htrimmed.plainText_render hdigits.trimmed

/-! ## From plain text to text -/

namespace Decimal

variable {d : Decimal}

/-- Trimming takes off the zeros that were put around digits neither end of which is a zero. -/
lemma IsTrimmed.trimmed_pad (h : d.IsTrimmed) (front back : Nat) :
    leadingZeros ⟨d.negative, List.replicate front 0 ++ (d.digits ++ List.replicate back 0),
      d.point + front⟩ = front ∧
    trimmed ⟨d.negative, List.replicate front 0 ++ (d.digits ++ List.replicate back 0),
      d.point + front⟩ = d := by
  have hzeros : ∀ count, ∀ digit ∈ List.replicate count 0, (digit == 0) = true := by simp
  obtain ⟨first, rest, hdigits⟩ := List.exists_cons_of_ne_nil h.ne_nil
  have hfirst : (first == 0) = false := by
    have hhead := h.head
    simpa [hdigits] using hhead
  have hleading : leadingZeros ⟨d.negative, List.replicate front 0 ++
      (d.digits ++ List.replicate back 0), d.point + front⟩ = front := by
    rw [leadingZeros, List.takeWhile_append_of_pos (hzeros front)]
    simp [hdigits, hfirst]
  have hbehind : (d.digits ++ List.replicate back 0).dropWhile (· == 0) =
      d.digits ++ List.replicate back 0 := by
    simp [hdigits, hfirst]
  have hlast : (d.digits ++ List.replicate back 0).rdropWhile (· == 0) = d.digits := by
    have hreverse : d.digits.rdropWhile (· == 0) = d.digits :=
      List.rdropWhile_eq_self_iff.2 fun _ => by simpa using h.last
    rw [List.rdropWhile, List.reverse_append, List.reverse_replicate,
      List.dropWhile_append_of_pos (hzeros back)]
    exact hreverse
  refine ⟨hleading, ?_⟩
  rw [trimmed, hleading, List.dropWhile_append_of_pos (hzeros front), hbehind, hlast,
    add_sub_cancel_right]

/-- Plain text is taken apart into what it was made of, with zeros around it. -/
lemma IsTrimmed.parse_render (h : d.IsTrimmed) (hdigits : d.HasDigits)
    (hpoint : -127 ≤ d.point ∧ d.point ≤ 126) :
    ∃ padded, parse d.render = .ok padded ∧ padded.leadingZeros < 2 ^ 31 ∧ padded.trimmed = d := by
  obtain ⟨whole, fraction, front, back, hmantissa, hne, hisDigit, hvalues, hwhole, hfront, -⟩ :=
    Decimal.plain_eq hdigits
  have hsign : SignText (if d.negative then ['-'] else []) d.negative := by
    cases d.negative
    · exact .none
    · exact .minus
  have hlength : whole.length ≤ 126 := by
    rcases hfront with rfl | rfl
    · omega
    · rw [List.length_singleton]
      omega
  have hspells := Spells32.intro hsign hmantissa (List.append_ne_nil_of_left_ne_nil hne fraction)
    hisDigit .none (by decide) (by omega) (by omega)
  obtain ⟨hzeros, htrimmed⟩ := h.trimmed_pad front back
  rw [List.append_nil, add_zero, hvalues, hwhole] at hspells
  refine ⟨_, parse_eq_ok_iff.2 ?_, ?_, htrimmed⟩
  · rwa [render, String.toList_ofList]
  · omega

/-- Only what is left without the zeros in front and behind matters. -/
lemma HasOctets.congr {other : Decimal} {octets : Bytes} (h : d.HasOctets octets)
    (htrimmed : other.trimmed = d.trimmed) : other.HasOctets octets := by
  have hnegative : other.negative = d.negative := congrArg (·.negative) htrimmed
  have hexponent : other.exponent = d.exponent := by rw [exponent, exponent, htrimmed]
  cases h with
  | zero hempty => exact .zero (htrimmed ▸ hempty)
  | digits hne hcount hrange =>
    rw [← hnegative, ← hexponent, ← htrimmed]
    exact .digits (htrimmed ▸ hne) (htrimmed ▸ hcount) (hexponent ▸ hrange)

end Decimal

/-- **The plain text that octets are read as has these octets.** -/
theorem encode_plain {text plain : String} {octets : Bytes} (h : encode text = .ok octets)
    (hread : decode octets = .ok plain) : encode plain = .ok octets := by
  obtain ⟨d, hparse, -, hoctets⟩ := parse_of_encode h
  have hdigits := (hasDigits_of_parse hparse).1.taken
  rcases hoctets.decode hdigits with ⟨hempty, rfl⟩ | ⟨htrimmed, hdecode⟩
  · have hzero : decode [0x80] = .ok "0" := by decide
    obtain rfl := Except.ok.inj (hzero.symm.trans hread)
    rw [encode_eq_bind]
    decide
  · obtain rfl := Except.ok.inj (hdecode.symm.trans hread)
    have hpoint := (Decimal.inRange_iff hdigits htrimmed.ne_nil).1 (hoctets.inRange hdigits)
    obtain ⟨padded, hpadded, hzeros, htrim⟩ := htrimmed.parse_render hdigits.trimmed hpoint
    have htaken := Decimal.taken_of_lt hzeros
    refine (encode_eq_ok_iff hpadded).2 ⟨fun hover => ?_, htaken.symm ▸ hoctets.congr htrim⟩
    have hplace := padded.taken_trimmed_point
    rw [htaken, htrim] at hplace
    unfold Decimal.Overflows at hover
    omega

/-! ## Integers -/

lemma ofDigitChars_eq (characters : List Char) (value : Nat) :
    Nat.ofDigitChars 10 characters value =
      value * 10 ^ characters.length + magnitude (characters.map digitValue) := by
  induction characters generalizing value with
  | nil => simp
  | cons c characters ih =>
    rw [Nat.ofDigitChars_cons, ih, List.map_cons, magnitude_cons, List.length_map,
      List.length_cons, digitValue]
    ring

/-- The text of an integer: a minus sign for a negative one, and the digits of its magnitude. -/
lemma toList_toString (n : Int) :
    (toString n).toList = (if n < 0 then ['-'] else []) ++ Nat.toDigits 10 n.natAbs := by
  rw [Int.toString_eq_repr, Int.repr_eq_if]
  by_cases hnegative : n < 0
  · rw [if_neg (by omega), if_pos hnegative, String.toList_append, Nat.repr_eq_ofList_toDigits,
      String.toList_ofList, String.toList_ofList, show (-n).toNat = n.natAbs by omega]
  · rw [if_pos (by omega), if_neg hnegative, Nat.repr_eq_ofList_toDigits, String.toList_ofList,
      show n.toNat = n.natAbs by omega, List.nil_append]

lemma isDigit_toDigits (n : Nat) : ∀ c ∈ Nat.toDigits 10 n, c.isDigit = true :=
  fun _ hc => Nat.isDigit_of_mem_toDigits (by decide) (by decide) hc

lemma magnitude_toDigits (n : Nat) : magnitude ((Nat.toDigits 10 n).map digitValue) = n := by
  have h := ofDigitChars_eq (Nat.toDigits 10 n) 0
  rw [Nat.ofDigitChars_ten_toDigits, zero_mul, zero_add] at h
  exact h.symm

/-- An integer of at most nineteen digits is taken apart into its digits. -/
lemma parse_toString {n : Int} (h : n.natAbs < 10 ^ 19) :
    Decimal.parse (toString n) = .ok ⟨decide (n < 0), (Nat.toDigits 10 n.natAbs).map digitValue,
      (Nat.toDigits 10 n.natAbs).length⟩ := by
  have hlength : (Nat.toDigits 10 n.natAbs).length ≤ 19 :=
    (Nat.length_toDigits_le_iff (by norm_num) (by norm_num)).2 h
  have hsign : SignText (if n < 0 then ['-'] else []) (decide (n < 0)) := by
    by_cases hnegative : n < 0 <;>
      simp only [hnegative, if_true, if_false, decide_true, decide_false]
    · exact .minus
    · exact .none
  have htext := toList_toString n
  have hisDigit := isDigit_toDigits n.natAbs
  have hne : Nat.toDigits 10 n.natAbs ≠ [] := Nat.toDigits_ne_nil
  generalize Nat.toDigits 10 n.natAbs = digits at hlength htext hisDigit hne ⊢
  have hfits : fits32 digits.length = true := by
    simp only [fits32, decide_eq_true_eq]
    omega
  rw [← List.append_nil digits] at hisDigit hne
  rw [parse_of_parts hsign (.whole digits) hne hisDigit .none (by rw [htext, List.append_nil]),
    if_pos (by decide), add_zero, hfits, Bool.and_self, if_pos rfl, List.append_nil]

/-- Digits that are few have octets, and are taken for what they are. -/
lemma encode_of_length_le {text : String} {d : Decimal} (h : Decimal.parse text = .ok d)
    (hpoint : d.point = d.digits.length) (hlength : d.digits.length ≤ 38) :
    d.taken = d ∧ ∃ octets, encode text = .ok octets := by
  have hzeros : d.leadingZeros ≤ d.digits.length := (List.takeWhile_prefix _).length_le
  have htaken : d.taken = d := Decimal.taken_of_lt (by omega)
  have hplace := d.taken_trimmed_point
  have htrimmed : d.trimmed.digits.length ≤ d.digits.length := by
    obtain ⟨behind, hdigits⟩ := d.digits_eq_trimmed
    have hcount := congrArg List.length hdigits
    simp only [List.length_append, List.length_replicate] at hcount
    omega
  obtain ⟨front, back, hfront, hback, haligned⟩ := d.trimmed.aligned_eq
  have hpairs : d.trimmed.aligned.digits.length / 2 ≤ maxPairs := by
    rw [haligned]
    simp only [List.length_append, List.length_replicate, maxPairs]
    omega
  have hexponent : -63 ≤ d.exponent ∧ d.exponent ≤ 63 := by
    rw [Decimal.exponent, haligned]
    simp only [Decimal.trimmed]
    omega
  have hover : ¬d.Overflows := by
    rw [htaken] at hplace
    simp only [Decimal.trimmed] at hplace
    unfold Decimal.Overflows
    omega
  obtain ⟨octets, hoctets⟩ : ∃ octets, d.HasOctets octets := by
    by_cases hempty : d.trimmed.digits = []
    · exact ⟨_, .zero hempty⟩
    · exact ⟨_, .digits hempty hpairs hexponent⟩
  exact ⟨htaken, octets, (encode_eq_ok_iff h).2 ⟨hover, htaken.symm ▸ hoctets⟩⟩

/-- The plain text of an integer is an integer literal. -/
lemma PlainText.integerText {text : String} {n : Int} (h : PlainText text n) :
    Text.IntegerText text.toList n := by
  obtain ⟨whole, fraction, hplain, hvalue, htext⟩ := h
  have habs : |(n : ℚ)| = (n.natAbs : Nat) := by
    rw [← Int.cast_abs, Int.abs_eq_natAbs, Int.cast_natCast]
  have hnil : fraction = [] := by
    have hnone : |(n : ℚ)| * 10 ^ 0 = (n.natAbs : Nat) := by rw [pow_zero, mul_one, habs]
    have hplaces := hplain.length_fraction_le hvalue hnone
    exact List.length_eq_zero_iff.1 (Nat.le_zero.1 hplaces)
  rw [hnil, List.length_nil, pow_zero, mul_one, List.append_nil, habs, Nat.cast_inj] at hvalue
  have hnumber : Nat.ofDigitChars 10 whole 0 = n.natAbs := by
    rw [ofDigitChars_eq, zero_mul, zero_add, hvalue]
  rw [htext, if_pos hnil, List.append_nil]
  simp only [Int.cast_lt_zero]
  split_ifs with hnegative
  · have hinteger := Text.IntegerText.minus hplain.ne_nil hplain.isDigit_whole
    rwa [hnumber, show -(n.natAbs : Int) = n by omega] at hinteger
  · have hinteger := Text.IntegerText.unsigned hplain.ne_nil hplain.isDigit_whole
    rwa [hnumber, show (n.natAbs : Int) = n by omega] at hinteger

/-- Integers come back as literals of themselves. -/
lemma integerText_of_encode {n : Int} (h : n.natAbs < 10 ^ 19) :
    ∃ octets plain, encode (toString n) = .ok octets ∧ decode octets = .ok plain ∧
      Text.IntegerText plain.toList n := by
  have hparse := parse_toString h
  have hlength : (Nat.toDigits 10 n.natAbs).length ≤ 19 :=
    (Nat.length_toDigits_le_iff (by norm_num) (by norm_num)).2 h
  obtain ⟨htaken, octets, hencode⟩ := encode_of_length_le hparse (by simp) (by simpa using by omega)
  have hoctets := ((encode_eq_ok_iff hparse).1 hencode).2
  obtain ⟨plain, hdecode, hplain⟩ := hoctets.plainText (hasDigits_of_parse hparse).1.taken
  have hvalue : Decimal.value ⟨decide (n < 0), (Nat.toDigits 10 n.natAbs).map digitValue,
      (Nat.toDigits 10 n.natAbs).length⟩ = n := by
    rw [Decimal.value, Decimal.sign, magnitude_toDigits, List.length_map, sub_self, zpow_zero,
      mul_one]
    by_cases hnegative : n < 0
    · rw [if_pos (by simpa using hnegative)]
      rw [Nat.cast_natAbs, abs_of_neg hnegative]
      simp
    · rw [if_neg (by simpa using hnegative), Nat.cast_natAbs, abs_of_nonneg (not_lt.1 hnegative),
        one_mul]
  rw [htaken, hvalue] at hplain
  exact ⟨octets, plain, hencode, hdecode, hplain.integerText⟩

/-- Integers of 64 bits come back unchanged. -/
lemma fromColumn_toColumn (n : Int64) :
    ∃ octets, toColumn n = .ok (octets, .number) ∧ fromColumn .number octets = .ok n := by
  have hlow := n.le_toInt
  have hhigh := n.toInt_lt
  obtain ⟨octets, plain, hencode, hdecode, hliteral⟩ :=
    integerText_of_encode (n := n.toInt) (by omega)
  have hread : Text.readInteger (-0x8000000000000000) 0x7FFFFFFFFFFFFFFF plain.toList =
      .ok n.toInt :=
    (Text.readInteger_eq_ok_iff (by decide) (by decide)).2 ⟨hliteral, by omega, by omega⟩
  refine ⟨octets, ?_, ?_⟩
  · show ((encode (toString n.toInt)).mapError ConversionError.number).map _ = _
    rw [hencode]
    rfl
  · show (((decode octets).mapError ConversionError.number).map Numeric.mk).bind _ = _
    rw [hdecode]
    show ((Text.readInteger _ _ plain.toList).map Int64.ofInt).mapError ConversionError.integer = _
    rw [hread]
    exact congrArg Except.ok n.ofInt_toInt

/-- Integers of 32 bits come back unchanged. -/
lemma fromColumn_toColumn_int32 (n : Int32) :
    ∃ octets, toColumn n = .ok (octets, .number) ∧ fromColumn .number octets = .ok n := by
  obtain ⟨octets, hto, hfrom⟩ := fromColumn_toColumn n.toInt64
  have hfits : ¬(n.toInt64 < -2147483648 ∨ 2147483647 < n.toInt64) := by
    have hlow := n.le_toInt
    have hhigh := n.toInt_lt
    rw [Int64.lt_iff_toInt_lt, Int64.lt_iff_toInt_lt, Int32.toInt_toInt64]
    have hlowest : (-2147483648 : Int64).toInt = -2147483648 := by decide
    have hhighest : (2147483647 : Int64).toInt = 2147483647 := by decide
    omega
  refine ⟨octets, hto, ?_⟩
  show (fromColumn (α := Int64) .number octets).bind _ = _
  rw [hfrom]
  simp only [Except.bind, if_neg hfits]
  exact congrArg Except.ok n.toInt32_toInt64

/-- **There and back.** Whatever has octets denotes one value, and the octets are read as the plain
text of what it is taken for; that is the plain text of the value itself if this is zero or there
are fewer than `2 ^ 31` zeros in front, and not otherwise. Integers of 64 and of 32 bits have
octets, from which they are read again.

**Proof sketch.** The octets hold sign, exponent and base-100 digits, from which the decimal digits
are read with the zeros that aligning put in (`decode_laidOut`). Shortening takes these off, and
what was trimmed is left, whose value is that which the text is taken for
(`Decimal.value_trimmed`). Neither of its ends is a zero, so its plain text has no zero too many
(`Decimal.IsTrimmed.plainText_render`). The plain text of an integer has no digit behind the point,
and is an integer literal. -/
theorem decode_inverts_encode_iff (text : String) (n : Int64) (m : Int32) :
    (∀ octets, encode text = .ok octets →
      ∃ d plain, Spells32 text.toList d ∧ (∀ value, Denotes text value ↔ d.value = value) ∧
        decode octets = .ok plain ∧ PlainText plain d.taken.value ∧
          (PlainText plain d.value ↔ d.Faithful)) ∧
    (∃ octets, toColumn n = .ok (octets, .number) ∧ fromColumn .number octets = .ok n) ∧
    ∃ octets, toColumn m = .ok (octets, .number) ∧ fromColumn .number octets = .ok m := by
  refine ⟨fun octets h => ?_, fromColumn_toColumn n, fromColumn_toColumn_int32 m⟩
  obtain ⟨d, hparse, -, hoctets⟩ := parse_of_encode h
  obtain ⟨plain, hdecode, hplain⟩ := hoctets.plainText (hasDigits_of_parse hparse).1.taken
  refine ⟨d, plain, parse_eq_ok_iff.1 hparse, fun value => denotes_iff hparse, hdecode, hplain, ?_⟩
  refine Iff.trans ?_ d.value_taken_eq_iff
  constructor
  · exact fun hother => hplain.value_eq hother
  · exact fun hvalue => hvalue ▸ hplain

/-- **A tenth comes back** for a text with `2 ^ 31` zeros behind the point, which denotes a value
far below. -/
theorem decode_encode_tiny : encode (tiny (2 ^ 31)) = .ok [192, 11] ∧
    decode [192, 11] = .ok "0.1" ∧ Denotes (tiny (2 ^ 31)) (10 ^ (-4294967297 : Int)) ∧
    ¬PlainText "0.1" (10 ^ (-4294967297 : Int)) := by
  refine ⟨encode_tiny, by decide +kernel, denotes_tiny (2 ^ 31), fun hplain => ?_⟩
  have htenth : PlainText "0.1" (10 ^ (-1 : Int)) := by
    have hplain : IsPlain ['0'] ['1'] := ⟨by simp, by simp, by simp, by simp⟩
    have hone : magnitude ((['0'] ++ ['1']).map digitValue) = 1 := by decide
    refine ⟨['0'], ['1'], hplain, ?_, ?_⟩
    · rw [hone]
      norm_num
    · rw [if_neg (by norm_num), if_neg (by simp)]
      rfl
  have hvalue := hplain.value_eq htenth
  rw [zpow_right_inj₀ (by norm_num) (by norm_num)] at hvalue
  exact absurd hvalue (by decide)

end TnsClient.Number
