import Mathlib
import TnsClient.Column.Number
import TnsClient.Proofs.Text.IntegerLiteral

set_option autoImplicit false

/-!
# What decimal text denotes

Decimal text is a sign, digits with at most one point among them, and an exponent, of which only the
digits have to be there. It is said here, apart from any reader, which digits and which place of the
point such a text spells, and which rational number it denotes. A reader that keeps all digits, also
the zeros that stand in front, takes apart just these texts, as long as the exponent and the place
of the point fit their bits.

## Main definitions

* `TnsClient.Number.magnitude` — the number that digits denote.
* `TnsClient.Number.Decimal.value` — the value of decimal text that was taken apart.
* `TnsClient.Number.Spells` — how decimal text is put together.
* `TnsClient.Number.Spells32` — the same, for parts that fit their bits.
* `TnsClient.Number.Denotes` — a text denotes a rational number.
* `TnsClient.Number.Decimal.parse` — takes a text apart and keeps all digits.

## Main results

* `TnsClient.Number.Spells.unique` — a text is put together in one way only.
* `TnsClient.Number.spells_of_parse` — what is taken apart was put together so.
* `TnsClient.Number.parse_of_parts` — what is put together so is taken apart, if it fits.
* `TnsClient.Number.parse_eq_ok_iff` — these are the texts that are taken apart.
* `TnsClient.Number.denotes_iff` — a text that is taken apart denotes one number.
-/

namespace TnsClient.Number

/-! ## Digits and values -/

/-- The number that decimal digits denote, most significant first. -/
def magnitude (digits : List Nat) : Nat := Nat.ofDigits 10 digits.reverse

@[simp] lemma magnitude_nil : magnitude [] = 0 := rfl

lemma magnitude_append (front back : List Nat) :
    magnitude (front ++ back) = magnitude front * 10 ^ back.length + magnitude back := by
  rw [magnitude, List.reverse_append, Nat.ofDigits_append, List.length_reverse]
  simp only [magnitude]
  ring

@[simp] lemma magnitude_singleton (digit : Nat) : magnitude [digit] = digit := by
  simp [magnitude]

lemma magnitude_cons (digit : Nat) (digits : List Nat) :
    magnitude (digit :: digits) = digit * 10 ^ digits.length + magnitude digits := by
  simpa using magnitude_append [digit] digits

@[simp] lemma magnitude_zeros (count : Nat) : magnitude (List.replicate count 0) = 0 := by
  induction count with
  | zero => rfl
  | succ count ih => rw [List.replicate_succ, magnitude_cons, ih, zero_mul]

lemma magnitude_lt {digits : List Nat} (h : ∀ digit ∈ digits, digit < 10) :
    magnitude digits < 10 ^ digits.length := by
  have hlt := Nat.ofDigits_lt_base_pow_length (b := 10) (l := digits.reverse) (by norm_num)
    fun digit hmem => h digit (List.mem_reverse.1 hmem)
  rwa [List.length_reverse] at hlt

/-- Digits denote zero only if all of them are zero. -/
lemma magnitude_eq_zero_iff {digits : List Nat} :
    magnitude digits = 0 ↔ ∀ digit ∈ digits, digit = 0 := by
  induction digits with
  | nil => simp
  | cons digit digits ih => simp [magnitude_cons, ih]

/-- The last digit is what is left by ten. -/
lemma magnitude_mod_ten (digits : List Nat) {last : Nat} (h : last < 10) :
    magnitude (digits ++ [last]) % 10 = last := by
  rw [magnitude_append, List.length_singleton, pow_one, magnitude_singleton, Nat.mul_comm,
    Nat.mul_add_mod, Nat.mod_eq_of_lt h]

namespace Decimal

/-- The factor of a sign. -/
def sign (d : Decimal) : ℚ := if d.negative then -1 else 1

/-- The value of decimal text that was taken apart. -/
def value (d : Decimal) : ℚ := d.sign * magnitude d.digits * 10 ^ (d.point - d.digits.length)

/-- All digits are decimal digits. -/
def HasDigits (d : Decimal) : Prop := ∀ digit ∈ d.digits, digit < 10

end Decimal

/-! ## The grammar -/

/-- A sign, and whether it is a minus sign. -/
inductive SignText : List Char → Bool → Prop
  /-- There is none. -/
  | none : SignText [] false
  /-- A plus sign. -/
  | plus : SignText ['+'] false
  /-- A minus sign. -/
  | minus : SignText ['-'] true

/-- Characters with at most one point among them, those in front of it, and those behind it. -/
inductive MantissaText : List Char → List Char → List Char → Prop
  /-- There is no point. -/
  | whole (whole : List Char) : MantissaText whole whole []
  /-- There is one. -/
  | point (whole fraction : List Char) : MantissaText (whole ++ '.' :: fraction) whole fraction

/-- An exponent, and the integer that it denotes. -/
inductive ExponentText : List Char → Int → Prop
  /-- There is none. -/
  | none : ExponentText [] 0
  /-- An integer literal stands behind a mark. -/
  | marked {mark : Char} {digits : List Char} {exponent : Int}
      (hmark : isExponentMark mark = true) (hdigits : Text.IntegerText digits exponent) :
    ExponentText (mark :: digits) exponent

/-- The digit that a character stands for. -/
def digitValue (c : Char) : Nat := c.toNat - '0'.toNat

/-- **How decimal text is put together.** -/
inductive Spells : List Char → Decimal → Prop
  /-- A sign, then digits, then an exponent. -/
  | intro {sign mantissa whole fraction tail : List Char} {negative : Bool} {exponent : Int}
      (hsign : SignText sign negative) (hmantissa : MantissaText mantissa whole fraction)
      (hne : whole ++ fraction ≠ []) (hdigits : ∀ c ∈ whole ++ fraction, c.isDigit = true)
      (htail : ExponentText tail exponent) :
    Spells (sign ++ mantissa ++ tail)
      ⟨negative, (whole ++ fraction).map digitValue, whole.length + exponent⟩

/-- How decimal text is put together from an exponent, a number of digits in front of the point and
a place of the point that fit 32 bits each. -/
inductive Spells32 : List Char → Decimal → Prop
  /-- A sign, then digits, then an exponent. -/
  | intro {sign mantissa whole fraction tail : List Char} {negative : Bool} {exponent : Int}
      (hsign : SignText sign negative) (hmantissa : MantissaText mantissa whole fraction)
      (hne : whole ++ fraction ≠ []) (hdigits : ∀ c ∈ whole ++ fraction, c.isDigit = true)
      (htail : ExponentText tail exponent) (hexponent : fits32 exponent = true)
      (hwhole : (whole.length : Int) ≤ 0x7FFFFFFF)
      (hpoint : whole.length + exponent ≤ 0x7FFFFFFF) :
    Spells32 (sign ++ mantissa ++ tail)
      ⟨negative, (whole ++ fraction).map digitValue, whole.length + exponent⟩

/-- A text denotes a rational number. -/
def Denotes (text : String) (value : ℚ) : Prop := ∃ d, Spells text.toList d ∧ d.value = value

/-! ## Taking text apart -/

/-- A text with its sign taken off, and whether that was a minus sign. -/
def splitSign : List Char → Bool × List Char
  | '-' :: rest => (true, rest)
  | '+' :: rest => (false, rest)
  | text => (false, text)

/-- The digits in front of the point and behind it, and where the exponent moves the point. -/
def Decimal.assemble (text : String) (negative : Bool) (whole fraction : List Char)
    (exponent : Int) : Except Fault Decimal := do
  let characters := whole ++ fraction
  if characters.isEmpty || !characters.all Char.isDigit then
    throw (.notANumber text)
  let digits ← characters.mapM (digitOf text)
  if !(fits32 whole.length && fits32 (whole.length + exponent)) then
    throw (.outOfRange text)
  return ⟨negative, digits.map UInt8.toNat, whole.length + exponent⟩

/-- Takes decimal text apart: a sign, digits with at most one point among them, and an exponent,
of which only the digits have to be there. -/
def Decimal.parse (text : String) : Except Fault Decimal := do
  let (negative, unsigned) := splitSign text.toList
  let (mantissa, tail) := splitAt? isExponentMark unsigned
  let exponent ← readExponent text tail
  let (whole, fraction) := splitAt? (· == '.') mantissa
  assemble text negative whole (fraction.getD []) exponent

section

variable {p : Char → Bool} {before behind : List Char}

lemma splitAt?_of_forall (h : ∀ c ∈ before, p c = false) : splitAt? p before = (before, none) := by
  have hspan : before.span (fun c => !p c) = (before, []) := by
    rw [List.span_eq_takeWhile_dropWhile, List.takeWhile_eq_self_iff.2, List.dropWhile_eq_nil_iff.2]
    all_goals simpa using h
  rw [splitAt?, hspan]

lemma splitAt?_append {c : Char} (h : ∀ c ∈ before, p c = false) (hc : p c = true) :
    splitAt? p (before ++ c :: behind) = (before, some behind) := by
  have hspan : (before ++ c :: behind).span (fun c => !p c) = (before, c :: behind) := by
    rw [List.span_eq_takeWhile_dropWhile, List.takeWhile_append_of_pos (by simpa using h),
      List.dropWhile_append_of_pos (by simpa using h)]
    simp [hc]
  rw [splitAt?, hspan]

/-- A text is cut at the first character of a kind, if there is one. -/
lemma splitAt?_cases (p : Char → Bool) (text : List Char) :
    ((∀ c ∈ text, p c = false) ∧ splitAt? p text = (text, none)) ∨
      ∃ before c behind, text = before ++ c :: behind ∧ (∀ c ∈ before, p c = false) ∧
        p c = true ∧ splitAt? p text = (before, some behind) := by
  induction text with
  | nil => exact .inl ⟨List.forall_mem_nil _, splitAt?_of_forall (List.forall_mem_nil _)⟩
  | cons first rest ih =>
    cases hfirst : p first with
    | true => exact .inr ⟨[], first, rest, rfl, List.forall_mem_nil _, hfirst,
        splitAt?_append (List.forall_mem_nil _) hfirst⟩
    | false =>
      rcases ih with ⟨hrest, -⟩ | ⟨before, c, behind, rfl, hbefore, hc, -⟩
      · have hall : ∀ c ∈ first :: rest, p c = false := List.forall_mem_cons.2 ⟨hfirst, hrest⟩
        exact .inl ⟨hall, splitAt?_of_forall hall⟩
      · have hall : ∀ c ∈ first :: before, p c = false := List.forall_mem_cons.2 ⟨hfirst, hbefore⟩
        exact .inr ⟨first :: before, c, behind, rfl, hall, hc, splitAt?_append hall hc⟩

end

/-- The code of a digit. -/
lemma isDigit_bounds {c : Char} (h : c.isDigit = true) : 48 ≤ c.toNat ∧ c.toNat ≤ 57 := by
  simp only [Char.isDigit, ge_iff_le, Bool.and_eq_true, decide_eq_true_eq,
    UInt32.le_iff_toNat_le] at h
  exact h

lemma digitValue_lt {c : Char} (h : c.isDigit = true) : digitValue c < 10 := by
  have hbounds := isDigit_bounds h
  have hzero : '0'.toNat = 48 := rfl
  unfold digitValue
  omega

/-- Digits are computed in one octet each. -/
lemma mapM_digitOf (text : String) {characters : List Char}
    (h : ∀ c ∈ characters, c.isDigit = true) :
    ∃ octets : Bytes, characters.mapM (digitOf text) = .ok octets ∧
      octets.map UInt8.toNat = characters.map digitValue := by
  induction characters with
  | nil => exact ⟨[], rfl, rfl⟩
  | cons c characters ih =>
    obtain ⟨hc, hrest⟩ := List.forall_mem_cons.1 h
    obtain ⟨octets, hoctets, hmap⟩ := ih hrest
    have hbounds := isDigit_bounds hc
    have hzero : '0'.toNat = 48 := rfl
    have hdigit : digitOf text c = .ok (UInt8.ofNat (digitValue c)) := by
      unfold digitOf octet digitValue
      rw [if_pos (by omega)]
      congr 2
      omega
    refine ⟨UInt8.ofNat (digitValue c) :: octets, ?_, ?_⟩
    · rw [List.mapM_cons, hdigit, hoctets]
      rfl
    · have hlt : digitValue c < UInt8.size := Nat.lt_trans (digitValue_lt hc) (by decide)
      rw [List.map_cons, List.map_cons, hmap, UInt8.toNat_ofNat_of_lt' hlt]

/-- A sign is taken off. -/
lemma splitSign_spec (text : List Char) :
    ∃ sign, SignText sign (splitSign text).1 ∧ text = sign ++ (splitSign text).2 := by
  unfold splitSign
  split
  · exact ⟨['-'], .minus, rfl⟩
  · exact ⟨['+'], .plus, rfl⟩
  · exact ⟨[], .none, rfl⟩

lemma splitSign_append {sign rest : List Char} {negative : Bool} (h : SignText sign negative)
    (hrest : ∀ c ∈ rest.head?, c ≠ '-' ∧ c ≠ '+') :
    splitSign (sign ++ rest) = (negative, rest) := by
  cases h with
  | plus | minus => rfl
  | none =>
    rw [List.nil_append]
    unfold splitSign
    split
    · exact absurd rfl (hrest '-' rfl).1
    · exact absurd rfl (hrest '+' rfl).2
    · rfl

/-! ## The reader and the grammar -/

/-- An integer literal is read if the integer fits 32 bits. -/
lemma readExponent_marked (text : String) {digits : List Char} {exponent : Int}
    (h : Text.IntegerText digits exponent) :
    readExponent text (some digits) =
      if fits32 exponent then .ok exponent else .error (.notANumber text) := by
  have hread := @Text.readInteger_eq_ok_iff (-0x80000000) 0x7FFFFFFF
  show (Text.readInt32 digits).mapError _ = _
  unfold Text.readInt32 fits32
  by_cases hfits : -0x80000000 ≤ exponent ∧ exponent ≤ 0x7FFFFFFF
  · rw [(hread (by decide) (by decide)).2 ⟨h, hfits.1, hfits.2⟩]
    simp [hfits, Except.mapError]
  · rcases hresult : Text.readInteger (-0x80000000) 0x7FFFFFFF digits with fault | other
    · simp [hfits, Except.mapError]
    · obtain ⟨hother, hbounds⟩ := (hread (by decide) (by decide)).1 hresult
      exact absurd (h.unique hother ▸ hbounds) hfits

/-- What is read behind a mark was an integer literal. -/
lemma exponentText_of_readExponent {text : String} {mark : Char} {digits : List Char}
    {exponent : Int} (hmark : isExponentMark mark = true)
    (h : readExponent text (some digits) = .ok exponent) :
    ExponentText (mark :: digits) exponent := by
  replace h : (Text.readInt32 digits).mapError (fun _ => Fault.notANumber text) = .ok exponent := h
  rcases hread : Text.readInt32 digits with fault | result
  · simp [hread, Except.mapError] at h
  · obtain rfl : result = exponent := by simpa [hread, Except.mapError] using h
    exact .marked hmark ((Text.readInteger_eq_ok_iff (by decide) (by decide)).1 hread).1

/-- The digits are put together if there are any, and if the place of the point fits its bits. -/
lemma assemble_eq {text : String} {negative : Bool} {whole fraction : List Char} {exponent : Int}
    (hne : whole ++ fraction ≠ []) (hdigits : ∀ c ∈ whole ++ fraction, c.isDigit = true) :
    Decimal.assemble text negative whole fraction exponent =
      if fits32 whole.length && fits32 (whole.length + exponent) then
        .ok ⟨negative, (whole ++ fraction).map digitValue, whole.length + exponent⟩
      else .error (.outOfRange text) := by
  obtain ⟨octets, hoctets, hmap⟩ := mapM_digitOf text hdigits
  have hvalid : ((whole ++ fraction).isEmpty || !(whole ++ fraction).all Char.isDigit) = false := by
    rw [List.isEmpty_eq_false_iff.2 hne, List.all_eq_true.2 hdigits]
    rfl
  unfold Decimal.assemble
  simp only [hvalid, hoctets, ← hmap]
  cases fits32 whole.length && fits32 (whole.length + exponent) <;> rfl

/-- What is put together has digits. -/
lemma digits_of_assemble {text : String} {negative : Bool} {whole fraction : List Char}
    {exponent : Int} {d : Decimal}
    (h : Decimal.assemble text negative whole fraction exponent = .ok d) :
    whole ++ fraction ≠ [] ∧ ∀ c ∈ whole ++ fraction, c.isDigit = true := by
  unfold Decimal.assemble at h
  cases hvalid : (whole ++ fraction).isEmpty || !(whole ++ fraction).all Char.isDigit with
  | true =>
    simp only [hvalid, if_true] at h
    cases h
  | false =>
    rw [Bool.or_eq_false_iff, List.isEmpty_eq_false_iff, Bool.not_eq_false', List.all_eq_true]
      at hvalid
    exact hvalid

/-- A mantissa is cut at its point. -/
lemma mantissaText_splitAt? (mantissa : List Char) :
    MantissaText mantissa (splitAt? (· == '.') mantissa).1
      ((splitAt? (· == '.') mantissa).2.getD []) := by
  rcases splitAt?_cases (· == '.') mantissa with
    ⟨-, hsplit⟩ | ⟨whole, c, fraction, rfl, -, hpoint, hsplit⟩
  · rw [hsplit]
    exact .whole mantissa
  · obtain rfl : c = '.' := by simpa using hpoint
    rw [hsplit]
    exact .point whole fraction

/-- A mantissa with digits is not empty. -/
lemma MantissaText.ne_nil {mantissa whole fraction : List Char}
    (h : MantissaText mantissa whole fraction) (hne : whole ++ fraction ≠ []) : mantissa ≠ [] := by
  cases h with
  | whole => simpa using hne
  | point => simp

/-- A mantissa consists of digits and a point. -/
lemma MantissaText.isDigit_or_eq {mantissa whole fraction : List Char}
    (h : MantissaText mantissa whole fraction)
    (hdigits : ∀ c ∈ whole ++ fraction, c.isDigit = true) {c : Char} (hmem : c ∈ mantissa) :
    c.isDigit = true ∨ c = '.' := by
  cases h with
  | whole => exact .inl (hdigits c (List.mem_append_left _ hmem))
  | point =>
    rcases List.mem_append.1 hmem with hmem | hmem
    · exact .inl (hdigits c (List.mem_append_left _ hmem))
    · rcases List.mem_cons.1 hmem with rfl | hmem
      · exact .inr rfl
      · exact .inl (hdigits c (List.mem_append_right _ hmem))

/-- A mantissa with digits does not begin with a sign. -/
lemma MantissaText.head?_ne_sign {mantissa whole fraction : List Char}
    (h : MantissaText mantissa whole fraction) (hne : whole ++ fraction ≠ [])
    (hdigits : ∀ c ∈ whole ++ fraction, c.isDigit = true) (tail : List Char) :
    ∀ c ∈ (mantissa ++ tail).head?, c ≠ '-' ∧ c ≠ '+' := by
  intro c hc
  rw [List.head?_append_of_ne_nil _ (h.ne_nil hne)] at hc
  rcases h.isDigit_or_eq hdigits (List.mem_of_mem_head? hc) with hdigit | rfl
  · constructor <;> rintro rfl <;> exact absurd hdigit (by decide)
  · decide

/-- A mantissa has no mark. -/
lemma MantissaText.isExponentMark_eq_false {mantissa whole fraction : List Char}
    (h : MantissaText mantissa whole fraction)
    (hdigits : ∀ c ∈ whole ++ fraction, c.isDigit = true) :
    ∀ c ∈ mantissa, isExponentMark c = false := by
  intro c hc
  rcases h.isDigit_or_eq hdigits hc with hdigit | rfl
  · by_contra hmark
    simp only [isExponentMark, Bool.not_eq_false, Bool.or_eq_true, beq_iff_eq] at hmark
    rcases hmark with rfl | rfl <;> exact absurd hdigit (by decide)
  · decide

lemma splitAt?_mantissa {mantissa whole fraction : List Char}
    (h : MantissaText mantissa whole fraction)
    (hdigits : ∀ c ∈ whole ++ fraction, c.isDigit = true) :
    (splitAt? (· == '.') mantissa).1 = whole ∧
      (splitAt? (· == '.') mantissa).2.getD [] = fraction := by
  have hwhole : ∀ c ∈ whole, (c == '.') = false := by
    intro c hmem
    rw [beq_eq_false_iff_ne]
    rintro rfl
    exact absurd (hdigits _ (List.mem_append_left _ hmem)) (by decide)
  cases h with
  | whole => rw [splitAt?_of_forall hwhole]; exact ⟨rfl, rfl⟩
  | point => rw [splitAt?_append hwhole rfl]; exact ⟨rfl, rfl⟩

/-- A mantissa ends where an exponent begins. -/
lemma ExponentText.splitAt?_fst {before tail : List Char} {exponent : Int}
    (h : ExponentText tail exponent) (hbefore : ∀ c ∈ before, isExponentMark c = false) :
    (splitAt? isExponentMark (before ++ tail)).1 = before := by
  cases h with
  | none => rw [List.append_nil, splitAt?_of_forall hbefore]
  | marked hmark => rw [splitAt?_append hbefore hmark]

/-- An exponent denotes one integer only. -/
lemma ExponentText.unique {tail : List Char} {one other : Int} (h : ExponentText tail one)
    (h' : ExponentText tail other) : one = other := by
  cases h with
  | none =>
    cases h' with
    | none => rfl
  | marked _ hdigits =>
    cases h' with
    | marked _ hdigits' => exact hdigits.unique hdigits'

/-- **A text is put together in one way only.**

**Proof sketch.** A sign is told by the first character, since digits and points are no signs. The
exponent begins at the first mark, and the digits behind the point at the first point. -/
theorem Spells.unique {text : List Char} {d other : Decimal} (h : Spells text d)
    (h' : Spells text other) : d = other := by
  cases h with
  | @intro sign mantissa whole fraction tail negative exponent hsign hmantissa hne hdigits htail =>
    generalize htext : sign ++ mantissa ++ tail = text at h'
    cases h' with
    | intro hsign' hmantissa' hne' hdigits' htail' =>
      rw [List.append_assoc, List.append_assoc] at htext
      have hsplit := congrArg splitSign htext
      rw [splitSign_append hsign (hmantissa.head?_ne_sign hne hdigits _),
        splitSign_append hsign' (hmantissa'.head?_ne_sign hne' hdigits' _)] at hsplit
      obtain ⟨rfl, hunsigned⟩ := Prod.mk.inj hsplit
      have hfront := congrArg (fun text => (splitAt? isExponentMark text).1) hunsigned
      rw [htail.splitAt?_fst (hmantissa.isExponentMark_eq_false hdigits),
        htail'.splitAt?_fst (hmantissa'.isExponentMark_eq_false hdigits')] at hfront
      subst hfront
      obtain rfl := List.append_cancel_left hunsigned
      obtain rfl := htail.unique htail'
      obtain ⟨rfl, rfl⟩ := splitAt?_mantissa hmantissa hdigits
      obtain ⟨rfl, rfl⟩ := splitAt?_mantissa hmantissa' hdigits'
      rfl

/-- A text is taken apart in three steps. -/
lemma parse_eq (text : String) :
    Decimal.parse text =
      let mantissa := splitAt? isExponentMark (splitSign text.toList).2
      let split := splitAt? (· == '.') mantissa.1
      (readExponent text mantissa.2).bind fun exponent =>
        Decimal.assemble text (splitSign text.toList).1 split.1 (split.2.getD []) exponent := rfl

/-- **What is taken apart** was put together so. -/
theorem spells_of_parse {text : String} {d : Decimal} (h : Decimal.parse text = .ok d) :
    Spells text.toList d := by
  obtain ⟨sign, hsign, htext⟩ := splitSign_spec text.toList
  rw [parse_eq] at h
  dsimp only at h
  generalize (splitSign text.toList).1 = negative at hsign h
  generalize (splitSign text.toList).2 = unsigned at htext h
  -- the exponent stands behind the mantissa
  obtain ⟨mantissa, tail, exponent, rfl, htail, h⟩ : ∃ mantissa tail exponent,
      unsigned = mantissa ++ tail ∧ ExponentText tail exponent ∧
      Decimal.assemble text negative (splitAt? (· == '.') mantissa).1
        ((splitAt? (· == '.') mantissa).2.getD []) exponent = .ok d := by
    rcases splitAt?_cases isExponentMark unsigned with
      ⟨-, hsplit⟩ | ⟨mantissa, mark, digits, rfl, -, hmark, hsplit⟩
    · rw [hsplit] at h
      exact ⟨unsigned, [], 0, (List.append_nil _).symm, .none, h⟩
    · rw [hsplit] at h
      rcases hread : readExponent text (some digits) with fault | exponent
      · rw [hread] at h
        cases h
      · rw [hread] at h
        exact ⟨mantissa, _, exponent, rfl, exponentText_of_readExponent hmark hread, h⟩
  obtain ⟨hne, hdigits⟩ := digits_of_assemble h
  rw [assemble_eq hne hdigits] at h
  split_ifs at h
  obtain rfl := Except.ok.inj h
  rw [htext, ← List.append_assoc]
  exact .intro hsign (mantissaText_splitAt? mantissa) hne hdigits htail

/-- **What is put together so** is taken apart, if the exponent and the place of the point fit their
bits. -/
theorem parse_of_parts {text : String} {sign mantissa whole fraction tail : List Char}
    {negative : Bool} {exponent : Int} (hsign : SignText sign negative)
    (hmantissa : MantissaText mantissa whole fraction) (hne : whole ++ fraction ≠ [])
    (hdigits : ∀ c ∈ whole ++ fraction, c.isDigit = true) (htail : ExponentText tail exponent)
    (htext : text.toList = sign ++ mantissa ++ tail) :
    Decimal.parse text =
      if fits32 exponent then
        if fits32 whole.length && fits32 (whole.length + exponent) then
          .ok ⟨negative, (whole ++ fraction).map digitValue, whole.length + exponent⟩
        else .error (.outOfRange text)
      else .error (.notANumber text) := by
  have hunmarked := hmantissa.isExponentMark_eq_false hdigits
  obtain ⟨hwhole, hfraction⟩ := splitAt?_mantissa hmantissa hdigits
  rw [parse_eq, htext, List.append_assoc,
    splitSign_append hsign (hmantissa.head?_ne_sign hne hdigits tail)]
  dsimp only
  cases htail with
  | none =>
    rw [List.append_nil, splitAt?_of_forall hunmarked]
    dsimp only
    rw [hwhole, hfraction]
    exact assemble_eq hne hdigits
  | marked hmark hinteger =>
    rw [splitAt?_append hunmarked hmark]
    dsimp only
    rw [hwhole, hfraction, readExponent_marked text hinteger]
    split_ifs with hexponent hpoint
    · exact (assemble_eq hne hdigits).trans (if_pos hpoint)
    · exact (assemble_eq hne hdigits).trans (if_neg hpoint)
    · rfl

/-- **The texts that are taken apart.** -/
theorem parse_eq_ok_iff {text : String} {d : Decimal} :
    Decimal.parse text = .ok d ↔ Spells32 text.toList d := by
  constructor
  · intro h
    have hspells := spells_of_parse h
    generalize hchars : text.toList = characters at hspells ⊢
    cases hspells with
    | intro hsign hmantissa hne hdigits htail =>
      rw [parse_of_parts hsign hmantissa hne hdigits htail hchars] at h
      split_ifs at h with hexponent hpoint
      simp only [fits32, Bool.and_eq_true, decide_eq_true_eq] at hpoint
      exact .intro hsign hmantissa hne hdigits htail hexponent hpoint.1.2 hpoint.2.2
  · intro h
    generalize hchars : text.toList = characters at h
    cases h with
    | intro hsign hmantissa hne hdigits htail hexponent hwhole hpoint =>
      rw [parse_of_parts hsign hmantissa hne hdigits htail hchars, if_pos hexponent, if_pos]
      simp only [fits32, decide_eq_true_eq] at hexponent
      simp only [fits32, Bool.and_eq_true, decide_eq_true_eq]
      omega

/-- What a text is taken apart into has decimal digits, and the place of its point fits 32 bits. -/
lemma hasDigits_of_parse {text : String} {d : Decimal} (h : Decimal.parse text = .ok d) :
    d.HasDigits ∧ fits32 d.point = true := by
  have hspells := parse_eq_ok_iff.1 h
  generalize text.toList = characters at hspells
  cases hspells with
  | intro _ _ _ hdigits _ hexponent _ hpoint =>
    refine ⟨fun digit hmem => ?_, ?_⟩
    · obtain ⟨c, hc, rfl⟩ := List.mem_map.1 hmem
      exact digitValue_lt (hdigits c hc)
    · simp only [fits32, decide_eq_true_eq] at hexponent ⊢
      omega

/-- A text denotes the value of what it spells, and no other. -/
lemma Spells.denotes_iff {text : String} {d : Decimal} (h : Spells text.toList d) {value : ℚ} :
    Denotes text value ↔ d.value = value := by
  constructor
  · rintro ⟨other, hspells, hvalue⟩
    rw [h.unique hspells, hvalue]
  · exact fun hvalue => ⟨d, h, hvalue⟩

/-- A text that is taken apart denotes the value of what it was taken apart into, and no other. -/
lemma denotes_iff {text : String} {d : Decimal} (h : Decimal.parse text = .ok d) {value : ℚ} :
    Denotes text value ↔ d.value = value := (spells_of_parse h).denotes_iff

end TnsClient.Number
