import TnsClient.Proofs.Number.Literal

set_option autoImplicit false

/-!
# Zeros that are only counted

A decimal text is read by position: its sign and the zeros in front of its digits are passed over,
and only the rest becomes a list of characters. What it is taken apart into is what it would be if
all its characters were kept, with the zeros counted.

## Main definitions

* `TnsClient.Number.Decimal.padded` — decimal text taken apart, with the zeros in front of its
  digits counted.

## Main results

* `TnsClient.Number.charsFrom_passZeros` — what is passed over are zeros, as many as counted.
* `TnsClient.Number.unpad_cases` — how a text is put together from its front and the rest.
* `TnsClient.Number.Padded.parse_eq`, `TnsClient.Number.encode_eq_bind` — counting the zeros, or
  keeping them, comes to the same.
-/

namespace TnsClient.Number

/-! ## Positions -/

section

variable {text : String} {start : text.Pos}

lemma charsFrom_startPos (text : String) : charsFrom text.startPos = text.toList := by
  rw [charsFrom, text.startPos.splits.eq_right text.splits_startPos]

lemma charsFrom_endPos (text : String) : charsFrom text.endPos = [] := by
  rw [charsFrom, text.endPos.splits.eq_right text.splits_endPos]
  rfl

/-- The characters from a position on are the one that stands there, and those behind it. -/
lemma charsFrom_of_ne (h : start ≠ text.endPos) :
    charsFrom start = start.get h :: charsFrom (start.next h) := by
  rw [charsFrom, start.splits.eq_right (start.splits_next_right h), charsFrom]
  simp

/-- A character is passed if it stands at the position. -/
lemma passChar?_eq (c : Char) (start : text.Pos) :
    (passChar? c start = none ∧ (charsFrom start).head? ≠ some c) ∨
      ∃ behind, passChar? c start = some behind ∧ charsFrom start = c :: charsFrom behind := by
  unfold passChar?
  by_cases hend : start = text.endPos
  · subst hend
    simp [charsFrom_endPos]
  · rw [charsFrom_of_ne hend]
    by_cases hget : start.get hend = c
    · simp [hend, hget]
    · simp [hend, hget]

/-- **What is passed over** are zeros, as many as octets: each is one. -/
lemma charsFrom_passZeros (start : text.Pos) :
    charsFrom start =
        List.replicate (octetsBetween start (passZeros start)) '0' ++ charsFrom (passZeros start) ∧
      start.offset.byteIdx ≤ (passZeros start).offset.byteIdx := by
  fun_induction passZeros start with
  | case1 => simp [octetsBetween]
  | case2 start hend hzero ih =>
    have hnext : (start.next hend).offset.byteIdx = start.offset.byteIdx + 1 := by
      have hsize : '0'.utf8Size = 1 := by decide
      rw [String.Pos.byteIdx_offset_next, hzero, hsize]
    have hcount : octetsBetween start (passZeros (start.next hend)) =
        octetsBetween (start.next hend) (passZeros (start.next hend)) + 1 := by
      have hle := ih.2
      unfold octetsBetween
      omega
    refine ⟨?_, (Nat.le_of_lt (hnext ▸ Nat.lt_succ_self _)).trans ih.2⟩
    rw [charsFrom_of_ne hend, hzero, hcount, List.replicate_succ, List.cons_append, ← ih.1]
  | case3 => simp [octetsBetween]

end

/-! ## The front of a text -/

/-- A text that begins with no sign has none. -/
lemma splitSign_of_head? {text : List Char} (hminus : text.head? ≠ some '-')
    (hplus : text.head? ≠ some '+') : splitSign text = (false, text) :=
  splitSign_append .none fun _ hc => ⟨fun heq => hminus (heq ▸ hc), fun heq => hplus (heq ▸ hc)⟩

/-- The sign is taken off. -/
lemma passSign_eq (text : String) :
    splitSign text.toList = ((passSign text).1, charsFrom (passSign text).2) := by
  rw [← charsFrom_startPos, passSign]
  rcases passChar?_eq '-' text.startPos with ⟨hminus, hhead⟩ | ⟨behind, hminus, hchars⟩
  · rw [hminus]
    rcases passChar?_eq '+' text.startPos with ⟨hplus, hhead'⟩ | ⟨behind, hplus, hchars⟩
    · rw [hplus]
      exact splitSign_of_head? hhead hhead'
    · rw [hplus, hchars]
      rfl
  · rw [hminus, hchars]
    rfl

/-- **How a text is put together** behind its sign: zeros and the rest, or zeros, a point, zeros
again, and what stands behind the point in the rest. -/
lemma unpad_cases (text : String) :
    (splitSign text.toList).1 = (unpad text).negative ∧
    (((unpad text).fractionZeros = 0 ∧ (splitSign text.toList).2 =
        List.replicate (unpad text).wholeZeros '0' ++ (unpad text).rest) ∨
      ∃ digits, (unpad text).rest = '.' :: digits ∧ (splitSign text.toList).2 =
        List.replicate (unpad text).wholeZeros '0' ++
          '.' :: (List.replicate (unpad text).fractionZeros '0' ++ digits)) := by
  rw [passSign_eq, unpad]
  dsimp only
  have hwhole := (charsFrom_passZeros (passSign text).2).1
  generalize passZeros (passSign text).2 = rest at hwhole ⊢
  rcases passChar?_eq '.' rest with ⟨hpoint, -⟩ | ⟨behind, hpoint, hchars⟩
  · rw [hpoint]
    exact ⟨rfl, .inl ⟨rfl, hwhole⟩⟩
  · rw [hpoint]
    refine ⟨rfl, .inr ⟨_, rfl, ?_⟩⟩
    rw [hwhole, hchars, (charsFrom_passZeros behind).1]

/-! ## All of it -/

/-- The number of zeros in front of the digits. -/
def Decimal.leadingZeros (d : Decimal) : Nat := (d.digits.takeWhile (· == 0)).length

/-- Decimal text taken apart, with the zeros in front of its digits counted. -/
def Decimal.padded (d : Decimal) : Padded :=
  ⟨{ d with digits := d.digits.dropWhile (· == 0) }, d.leadingZeros⟩

/-- What does not satisfy the property stays in front of the cut. -/
lemma splitAt?_append_left {p : Char → Bool} {front : List Char} (h : ∀ c ∈ front, p c = false)
    (rest : List Char) :
    splitAt? p (front ++ rest) = (front ++ (splitAt? p rest).1, (splitAt? p rest).2) := by
  rcases splitAt?_cases p rest with ⟨hrest, hsplit⟩ | ⟨before, c, behind, rfl, hbefore, hc, hsplit⟩
  · have hall : ∀ c ∈ front ++ rest, p c = false := by
      intro c hmem
      exact (List.mem_append.1 hmem).elim (h c) (hrest c)
    rw [hsplit, splitAt?_of_forall hall]
  · have hall : ∀ c ∈ front ++ before, p c = false := by
      intro c hmem
      exact (List.mem_append.1 hmem).elim (h c) (hbefore c)
    rw [hsplit, ← List.append_assoc, splitAt?_append hall hc]

lemma forall_mem_zeros {p : Char → Bool} (count : Nat) (h : p '0' = false) :
    ∀ c ∈ List.replicate count '0', p c = false := by
  intro c hmem
  rwa [List.eq_of_mem_replicate hmem]

/-- Zeros that stand in front are counted. -/
lemma padded_zeros (negative : Bool) (count : Nat) (digits : List Nat) (point : Int) :
    Decimal.padded ⟨negative, List.replicate count 0 ++ digits, point⟩ =
      ⟨⟨negative, digits.dropWhile (· == 0), point⟩,
        count + (digits.takeWhile (· == 0)).length⟩ := by
  have hzeros : ∀ digit ∈ List.replicate count 0, (digit == 0) = true := by simp
  simp only [Decimal.padded, Decimal.leadingZeros, List.dropWhile_append_of_pos hzeros,
    List.takeWhile_append_of_pos hzeros, List.length_append, List.length_replicate]

/-- Zeros in front make no difference to whether there are digits only. -/
lemma all_isDigit_zeros (count : Nat) (characters : List Char) :
    (List.replicate count '0' ++ characters).all Char.isDigit = characters.all Char.isDigit := by
  have hzeros : (List.replicate count '0').all Char.isDigit = true := by
    rw [List.all_replicate]
    split_ifs <;> rfl
  rw [List.all_append, hzeros, Bool.true_and]

/-- **Counted zeros** count as digits, wherever they stood. -/
lemma assemble_padded (text : String) {front : Unpadded} {whole : List Char}
    (h : front.fractionZeros = 0 ∨ whole = []) (fraction : List Char) (exponent : Int) :
    Padded.assemble text front whole fraction exponent =
      (Decimal.assemble text front.negative (List.replicate front.wholeZeros '0' ++ whole)
        (List.replicate front.fractionZeros '0' ++ fraction) exponent).map Decimal.padded := by
  have hcharacters : List.replicate front.wholeZeros '0' ++ whole ++
      (List.replicate front.fractionZeros '0' ++ fraction) =
        List.replicate (front.wholeZeros + front.fractionZeros) '0' ++ (whole ++ fraction) := by
    rcases h with hnone | rfl
    · simp [hnone]
    · rw [List.append_nil, List.nil_append, ← List.append_assoc, List.replicate_append_replicate]
  have hplaces : (List.replicate front.wholeZeros '0' ++ whole).length =
      front.wholeZeros + whole.length := by
    simp
  unfold Padded.assemble Decimal.assemble
  rw [hcharacters, hplaces]
  generalize front.wholeZeros + front.fractionZeros = passed
  generalize front.wholeZeros + whole.length = places
  generalize whole ++ fraction = characters
  have hempty : (List.replicate passed '0' ++ characters).isEmpty =
      (passed == 0 && characters.isEmpty) := by
    cases passed <;> simp
  dsimp only
  rw [all_isDigit_zeros, hempty]
  cases hvalid : (passed == 0 && characters.isEmpty) || !characters.all Char.isDigit with
  | true => rfl
  | false =>
    have hall : characters.all Char.isDigit = true := by
      rw [Bool.or_eq_false_iff, Bool.not_eq_false'] at hvalid
      exact hvalid.2
    obtain ⟨octets, hoctets, hvalues⟩ := mapM_digitOf text (List.all_eq_true.1 hall)
    obtain ⟨octets', hoctets', hvalues'⟩ := mapM_digitOf text
      (List.all_eq_true.1 ((all_isDigit_zeros passed characters).trans hall))
    have hsame : octets'.map UInt8.toNat = List.replicate passed 0 ++ octets.map UInt8.toNat := by
      rw [hvalues', hvalues, List.map_append, List.map_replicate]
      rfl
    rw [hoctets, hoctets']
    cases hfits : fits32 places && fits32 (places + exponent) with
    | false => rfl
    | true =>
      refine congrArg Except.ok (Eq.symm ?_)
      show Decimal.padded ⟨_, octets'.map UInt8.toNat, _⟩ = _
      rw [hsame, padded_zeros]

/-- Both readers go on alike behind the exponent. -/
lemma bind_assemble_eq {text : String} {front : Unpadded}
    {whole whole' fraction fraction' : List Char} (h : front.fractionZeros = 0 ∨ whole = [])
    (hwhole : whole' = List.replicate front.wholeZeros '0' ++ whole)
    (hfraction : fraction' = List.replicate front.fractionZeros '0' ++ fraction)
    (exponent : Except Fault Int) :
    (exponent.bind fun exponent => Padded.assemble text front whole fraction exponent) =
      (exponent.bind fun exponent =>
        Decimal.assemble text front.negative whole' fraction' exponent).map Decimal.padded := by
  subst hwhole hfraction
  cases exponent with
  | error fault => rfl
  | ok exponent => exact assemble_padded text h fraction exponent

/-- **Counting the zeros, or keeping them, comes to the same.** -/
theorem Padded.parse_eq (text : String) :
    Padded.parse text = (Decimal.parse text).map Decimal.padded := by
  obtain ⟨hnegative, hunsigned⟩ := unpad_cases text
  rw [Number.parse_eq, hnegative]
  show (let front := unpad text
    let mantissa := splitAt? isExponentMark front.rest
    let split := splitAt? (· == '.') mantissa.1
    (readExponent text mantissa.2).bind fun exponent =>
      Padded.assemble text front split.1 (split.2.getD []) exponent) = _
  generalize unpad text = front at hunsigned ⊢
  have hmark (count : Nat) := forall_mem_zeros count (show isExponentMark '0' = false from rfl)
  have hpoint (count : Nat) := @forall_mem_zeros (· == '.') count rfl
  dsimp only
  rcases hunsigned with ⟨hnone, hunsigned⟩ | ⟨digits, hrest, hunsigned⟩
  · -- the zeros stand in front of everything else
    rw [hunsigned, splitAt?_append_left (hmark _)]
    dsimp only
    rw [splitAt?_append_left (hpoint _)]
    exact bind_assemble_eq (.inl hnone) rfl (by rw [hnone]; rfl) _
  · -- the first point stands among them
    have hfront : ∀ c ∈ List.replicate front.wholeZeros '0' ++
        '.' :: List.replicate front.fractionZeros '0', isExponentMark c = false :=
      List.forall_mem_append.2 ⟨hmark _, List.forall_mem_cons.2 ⟨rfl, hmark _⟩⟩
    have hdot : ∀ c ∈ ['.'], isExponentMark c = false := List.forall_mem_singleton.2 rfl
    have hzeros := splitAt?_append_left hfront digits
    have hkept := splitAt?_append_left hdot digits
    rw [List.append_assoc, List.cons_append, List.append_assoc, List.cons_append] at hzeros
    rw [hunsigned, hrest, hzeros, show '.' :: digits = ['.'] ++ digits from rfl, hkept]
    dsimp only
    rw [splitAt?_append (hpoint _) rfl]
    exact bind_assemble_eq (.inr rfl) (List.append_nil _).symm rfl _

/-- So the octets are those of a text all of whose digits are kept. -/
theorem encode_eq_bind (text : String) :
    encode text = (Decimal.parse text).bind fun d => d.padded.octets text := by
  rw [encode, Padded.parse_eq]
  cases Decimal.parse text <;> rfl

end TnsClient.Number
