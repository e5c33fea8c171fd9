import Mathlib.Data.List.TakeWhile
import Mathlib.Tactic.Lemma
import TnsClient.Text.Blank
import TnsClient.Text.IntegerLiteral

set_option autoImplicit false

/-!
# What integer literals are

An integer literal is a sign, which may be left out, and at least one digit. It is said here which
integer such a literal denotes, and that the reader reads just these literals, as long as they
denote an integer within its bounds.

## Main definitions

* `TnsClient.Text.IntegerText` — a literal denotes an integer.

## Main results

* `TnsClient.Text.readInteger_eq_ok_iff` — the reader reads the literals of integers within its
  bounds, and nothing else.
-/

namespace TnsClient.Text

/-- An integer literal denotes an integer. -/
inductive IntegerText : List Char → Int → Prop
  /-- There is no sign. -/
  | unsigned {digits : List Char} (hne : digits ≠ []) (hdigits : ∀ c ∈ digits, c.isDigit = true) :
    IntegerText digits (Nat.ofDigitChars 10 digits 0)
  /-- There is a plus sign. -/
  | plus {digits : List Char} (hne : digits ≠ []) (hdigits : ∀ c ∈ digits, c.isDigit = true) :
    IntegerText ('+' :: digits) (Nat.ofDigitChars 10 digits 0)
  /-- There is a minus sign. -/
  | minus {digits : List Char} (hne : digits ≠ []) (hdigits : ∀ c ∈ digits, c.isDigit = true) :
    IntegerText ('-' :: digits) (-(Nat.ofDigitChars 10 digits 0 : Int))

/-- A literal denotes one integer only. -/
lemma IntegerText.unique {text : List Char} {one other : Int} (h : IntegerText text one)
    (h' : IntegerText text other) : one = other := by
  -- a sign is no digit
  have hplus : ∀ {digits : List Char}, ¬∀ c ∈ '+' :: digits, c.isDigit = true :=
    fun hall => absurd (hall '+' List.mem_cons_self) (by decide)
  have hminus : ∀ {digits : List Char}, ¬∀ c ∈ '-' :: digits, c.isDigit = true :=
    fun hall => absurd (hall '-' List.mem_cons_self) (by decide)
  cases h with
  | unsigned _ hdigits =>
    cases h' with
    | unsigned => rfl
    | plus => exact absurd hdigits hplus
    | minus => exact absurd hdigits hminus
  | plus =>
    cases h' with
    | unsigned _ hdigits => exact absurd hdigits hplus
    | plus => rfl
  | minus =>
    cases h' with
    | unsigned _ hdigits => exact absurd hdigits hminus
    | minus => rfl

/-! ## Digits -/

/-- The value of digits is not below the one that they extend. -/
lemma le_ofDigitChars (digits : List Char) (value : Nat) :
    value ≤ Nat.ofDigitChars 10 digits value := by
  induction digits generalizing value with
  | nil => simp
  | cons c digits ih =>
    rw [Nat.ofDigitChars_cons]
    exact Nat.le_trans (by omega) (ih _)

/-- **Digits extend a value** as long as the result is not too large. -/
lemma readUp_eq_ok_iff {highest result : Int} {digits : List Char} (value : Nat)
    (hvalue : value ≤ highest) :
    readUp highest value digits = .ok result ↔ (∀ c ∈ digits, c.isDigit = true) ∧
      result = Nat.ofDigitChars 10 digits value ∧ result ≤ highest := by
  induction digits generalizing value with
  | nil =>
    simp only [readUp, Except.ok.injEq, Nat.ofDigitChars_nil, List.not_mem_nil, false_implies,
      implies_true, true_and]
    omega
  | cons c digits ih =>
    rw [List.forall_mem_cons, Nat.ofDigitChars_cons, readUp, digit?]
    cases hc : c.isDigit with
    | false => simp
    | true =>
      have hnext : (value : Int) * 10 + ((c.toNat - '0'.toNat : Nat) : Int) =
          ((10 * value + (c.toNat - '0'.toNat) : Nat) : Int) := by
        omega
      simp only [if_true, hnext, true_and]
      split_ifs with hlarge
      · -- what extends a value that is too large is too large as well
        have hle := le_ofDigitChars digits (10 * value + (c.toNat - '0'.toNat))
        simp only [false_iff, not_and]
        omega
      · exact ih _ (by omega)

/-- Digits extend a negative value as long as the result is not too small. -/
lemma readDown_eq_ok_iff {lowest result : Int} {digits : List Char} (value : Nat)
    (hvalue : lowest ≤ -(value : Int)) :
    readDown lowest (-(value : Int)) digits = .ok result ↔ (∀ c ∈ digits, c.isDigit = true) ∧
      result = -(Nat.ofDigitChars 10 digits value : Int) ∧ lowest ≤ result := by
  induction digits generalizing value with
  | nil =>
    simp only [readDown, Except.ok.injEq, Nat.ofDigitChars_nil, List.not_mem_nil, false_implies,
      implies_true, true_and]
    omega
  | cons c digits ih =>
    rw [List.forall_mem_cons, Nat.ofDigitChars_cons, readDown, digit?]
    cases hc : c.isDigit with
    | false => simp
    | true =>
      have hnext : -(value : Int) * 10 - ((c.toNat - '0'.toNat : Nat) : Int) =
          -((10 * value + (c.toNat - '0'.toNat) : Nat) : Int) := by
        omega
      simp only [if_true, hnext, true_and]
      split_ifs with hsmall
      · have hle := le_ofDigitChars digits (10 * value + (c.toNat - '0'.toNat))
        simp only [false_iff, not_and]
        omega
      · exact ih _ (by omega)

/-! ## Literals -/

/-- What begins with a digit has no sign. -/
lemma readInteger_digits (lowest highest : Int) {digits : List Char} (hne : digits ≠ [])
    (hdigits : ∀ c ∈ digits, c.isDigit = true) :
    readInteger lowest highest digits = readUp highest 0 digits := by
  unfold readInteger
  split
  · exact absurd rfl hne
  · exact absurd (hdigits '+' List.mem_cons_self) (by decide)
  · exact absurd (hdigits '-' List.mem_cons_self) (by decide)
  · rfl

/-- **The reader** reads the literals of integers within its bounds, and nothing else. -/
theorem readInteger_eq_ok_iff {lowest highest result : Int} {text : List Char}
    (hlowest : lowest < 0) (hhighest : 0 ≤ highest) :
    readInteger lowest highest text = .ok result ↔
      IntegerText text result ∧ lowest ≤ result ∧ result ≤ highest := by
  have hup := @readUp_eq_ok_iff highest result
  constructor
  · intro h
    unfold readInteger at h
    split at h
    · cases h
    · next c digits =>
      obtain ⟨hdigits, rfl, hle⟩ := (hup 0 hhighest).1 h
      exact ⟨.plus (List.cons_ne_nil c digits) hdigits, by omega, hle⟩
    · next c digits =>
      rw [if_pos hlowest] at h
      obtain ⟨hdigits, rfl, hle⟩ := (readDown_eq_ok_iff 0 (by omega)).1 h
      exact ⟨.minus (List.cons_ne_nil c digits) hdigits, hle, by omega⟩
    · next hempty _ _ =>
      obtain ⟨hdigits, rfl, hle⟩ := (hup 0 hhighest).1 h
      exact ⟨.unsigned hempty hdigits, by omega, hle⟩
  · rintro ⟨htext, hlower, hupper⟩
    cases htext with
    | unsigned hne hdigits =>
      rw [readInteger_digits _ _ hne hdigits]
      exact (hup 0 hhighest).2 ⟨hdigits, rfl, hupper⟩
    | @plus digits hne hdigits =>
      obtain ⟨c, rest, rfl⟩ := List.exists_cons_of_ne_nil hne
      exact (hup 0 hhighest).2 ⟨hdigits, rfl, hupper⟩
    | @minus digits hne hdigits =>
      obtain ⟨c, rest, rfl⟩ := List.exists_cons_of_ne_nil hne
      simp only [readInteger, if_pos hlowest]
      exact (readDown_eq_ok_iff 0 (by omega)).2 ⟨hdigits, rfl, hlower⟩

/-- Where there are no negative values, a minus sign belongs to no literal, and the literals of
positive integers are still read. -/
lemma readInteger_zero_eq_ok_iff {highest result : Int} {text : List Char} (hpos : 0 < result)
    (hhighest : 0 ≤ highest) :
    readInteger 0 highest text = .ok result ↔ IntegerText text result ∧ result ≤ highest := by
  have hup := @readUp_eq_ok_iff highest result
  constructor
  · intro h
    unfold readInteger at h
    split at h
    · cases h
    · next c digits =>
      obtain ⟨hdigits, rfl, hle⟩ := (hup 0 hhighest).1 h
      exact ⟨.plus (List.cons_ne_nil c digits) hdigits, hle⟩
    · cases h
    · next hempty _ _ =>
      obtain ⟨hdigits, rfl, hle⟩ := (hup 0 hhighest).1 h
      exact ⟨.unsigned hempty hdigits, hle⟩
  · rintro ⟨htext, hupper⟩
    cases htext with
    | unsigned hne hdigits =>
      rw [readInteger_digits _ _ hne hdigits]
      exact (hup 0 hhighest).2 ⟨hdigits, rfl, hupper⟩
    | @plus digits hne hdigits =>
      obtain ⟨c, rest, rfl⟩ := List.exists_cons_of_ne_nil hne
      exact (hup 0 hhighest).2 ⟨hdigits, rfl, hupper⟩
    | minus => omega

/-! ## Blanks around a literal -/

/-- A digit is not blank. -/
lemma isBlank_of_isDigit {c : Char} (h : c.isDigit = true) : isBlank c = false := by
  simp only [Char.isDigit, ge_iff_le, Bool.and_eq_true, decide_eq_true_eq,
    UInt32.le_iff_toNat_le] at h
  change 48 ≤ c.toNat ∧ c.toNat ≤ 57 at h
  simp only [isBlank, blanks, List.contains_eq_mem, decide_eq_false_iff_not, List.mem_cons,
    List.not_mem_nil, or_false]
  omega

/-- There is no blank in a literal, and there is no literal without a character. -/
lemma IntegerText.not_isBlank {text : List Char} {number : Int} (h : IntegerText text number) :
    text ≠ [] ∧ ∀ c ∈ text, isBlank c = false := by
  cases h with
  | unsigned hne hdigits => exact ⟨hne, fun c hc => isBlank_of_isDigit (hdigits c hc)⟩
  | plus _ hdigits | minus _ hdigits =>
    refine ⟨List.cons_ne_nil _ _, List.forall_mem_cons.2 ⟨by decide, fun c hc => ?_⟩⟩
    exact isBlank_of_isDigit (hdigits c hc)

/-- Nothing but blanks is trimmed off. -/
lemma exists_eq_trim (text : String) : ∃ front back, (∀ c ∈ front, isBlank c = true) ∧
    (∀ c ∈ back, isBlank c = true) ∧ text.toList = front ++ (trim text).toList ++ back := by
  let rest := text.toList.dropWhile isBlank
  refine ⟨text.toList.takeWhile isBlank, (rest.reverse.takeWhile isBlank).reverse,
    fun c => List.mem_takeWhile_imp, fun c hc => List.mem_takeWhile_imp (List.mem_reverse.1 hc), ?_⟩
  rw [trim, String.toList_ofList, List.append_assoc, ← List.reverse_append,
    List.takeWhile_append_dropWhile, List.reverse_reverse, List.takeWhile_append_dropWhile]

/-- The blanks around characters that are not blank are trimmed off. -/
lemma trim_eq_ofList {text : String} {front literal back : List Char}
    (htext : text.toList = front ++ literal ++ back) (hfront : ∀ c ∈ front, isBlank c = true)
    (hback : ∀ c ∈ back, isBlank c = true) (hne : literal ≠ [])
    (hliteral : ∀ c ∈ literal, isBlank c = false) : trim text = String.ofList literal := by
  obtain ⟨first, literal, rfl⟩ := List.exists_cons_of_ne_nil hne
  have hbegin : text.toList.dropWhile isBlank = first :: literal ++ back := by
    rw [htext, List.append_assoc, List.dropWhile_append_of_pos hfront, List.cons_append,
      List.dropWhile_cons_of_neg (by simp [hliteral first List.mem_cons_self])]
  have hend : (first :: literal).reverse.dropWhile isBlank = (first :: literal).reverse :=
    List.dropWhile_eq_self_iff.2 fun hl => by
      rw [hliteral _ (List.mem_reverse.1 (List.getElem_mem hl))]
      decide
  rw [trim, hbegin, List.reverse_append,
    List.dropWhile_append_of_pos (fun c hc => hback c (List.mem_reverse.1 hc)), hend,
    List.reverse_reverse]

/-- A text is a positive number of 32 bits, with blanks around it. -/
def CountText (text : String) : Prop :=
  ∃ (front literal back : List Char) (number : Nat), text.toList = front ++ literal ++ back ∧
    (∀ c ∈ front, isBlank c = true) ∧ (∀ c ∈ back, isBlank c = true) ∧
    IntegerText literal number ∧ 0 < number ∧ number < UInt32.size

/-- **A text is read as a positive number** if it is one, and no other is. -/
theorem readUInt32_trim_iff {text : String} :
    (∃ number, readUInt32 (trim text).toList = .ok number ∧ number ≠ 0) ↔ CountText text := by
  constructor
  · rintro ⟨number, hread, hne⟩
    unfold readUInt32 at hread
    rcases hvalue : readInteger 0 0xFFFFFFFF (trim text).toList with fault | value
    · rw [hvalue] at hread
      cases hread
    · rw [hvalue] at hread
      cases hread
      have hpos : 0 < value := by
        by_contra hneg
        have hzero : value.toNat = 0 := by omega
        exact hne (congrArg UInt32.ofNat hzero)
      obtain ⟨hliteral, hle⟩ := (readInteger_zero_eq_ok_iff hpos (by decide)).1 hvalue
      obtain ⟨front, back, hfront, hback, htext⟩ := exists_eq_trim text
      have hnat : (value.toNat : Int) = value := Int.toNat_of_nonneg (Int.le_of_lt hpos)
      refine ⟨front, _, back, value.toNat, htext, hfront, hback, hnat ▸ hliteral, by omega, ?_⟩
      unfold UInt32.size
      omega
  · rintro ⟨front, literal, back, number, htext, hfront, hback, hliteral, hpos, hlt⟩
    obtain ⟨hne, hblank⟩ := hliteral.not_isBlank
    have hread : readInteger 0 0xFFFFFFFF literal = .ok (number : Int) :=
      (readInteger_zero_eq_ok_iff (by omega) (by decide)).2 ⟨hliteral, by
        unfold UInt32.size at hlt
        omega⟩
    refine ⟨UInt32.ofNat number, ?_, fun hzero => ?_⟩
    · rw [trim_eq_ofList htext hfront hback hne hblank, String.toList_ofList, readUInt32, hread]
      rfl
    · have hnumber : (UInt32.ofNat number).toNat = number := UInt32.toNat_ofNat_of_lt' hlt
      rw [hzero] at hnumber
      exact absurd hnumber (Nat.ne_of_lt hpos)

end TnsClient.Text
