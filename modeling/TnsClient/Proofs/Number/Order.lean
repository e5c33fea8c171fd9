import Mathlib
import TnsClient.Proofs.Number.Centesimal
import TnsClient.Proofs.Number.RoundTrip

set_option autoImplicit false

/-!
# The order of octets

Octets are compared from the first one on, and octets that end are less than those that go on. The
octets of numbers are made such that they compare as the numbers do: sign and exponent stand in
front, and a greater digit has a greater octet. Of a negative number all this is turned around, and
the octet that ends its digits is greater than that of any digit, so that fewer digits, which make
the greater number, make the greater octets too. A text that is taken for another value than its own
has the octets of that one, and so is out of order.

## Main definitions

* `TnsClient.Number.Scaled.Before` — magnitudes compared by exponent, then digit by digit.
* `TnsClient.Number.CompareAlike` — octets compare as numbers do.
* `TnsClient.Number.Canonical` — the octets of a number.

## Main results

* `TnsClient.Number.Scaled.value_lt` — magnitudes compare by exponent, then digit by digit.
* `TnsClient.Number.Canonical.lt`, `TnsClient.Number.Canonical.unique` — octets compare as numbers.
* `TnsClient.Number.encode_compareAlike` — the octets of texts compare as what the texts are taken
  for, which is what they denote exactly for the faithful ones.
-/

namespace TnsClient.Number

/-! ## The order of magnitudes -/

/-- **Base-100 digits compare one by one**, if the greater ones do not end in a zero. -/
lemma centesimal_lt_of_lt {exponent : Int} {pairs others : List Nat} (h : pairs < others)
    (hle : ∀ pair ∈ pairs, pair ≤ 99) (hle' : ∀ pair ∈ others, pair ≤ 99)
    (hlast : others.getLast? ≠ some 0) :
    centesimal exponent (pairs.map (↑)) < centesimal exponent (others.map (↑)) := by
  replace h : List.Lex (· < ·) pairs others := h
  induction h generalizing exponent with
  | @nil first rest =>
    have hne : first :: rest ≠ [] := List.cons_ne_nil first rest
    refine centesimal_pos (bounds_of_le hle') ⟨_, List.mem_map_of_mem (List.getLast_mem hne), ?_⟩
    rw [List.getLast?_eq_some_getLast hne, Ne, Option.some_inj] at hlast
    exact_mod_cast hlast
  | @cons pair pairs others hrest ih =>
    have hne : others ≠ [] := by
      rintro rfl
      cases hrest
    rw [List.getLast?_cons_of_ne_nil hne] at hlast
    rw [List.map_cons, List.map_cons, centesimal_cons, centesimal_cons]
    have hrest : centesimal (exponent - 1) (pairs.map (↑)) <
        centesimal (exponent - 1) (others.map (↑)) :=
      ih (List.forall_mem_cons.1 hle).2 (List.forall_mem_cons.1 hle').2 hlast
    exact add_lt_add_right hrest _
  | @rel pair pairs other others hlt =>
    have hrest : centesimal (exponent - 1) (pairs.map (↑)) < 100 ^ (exponent - 1) :=
      centesimal_lt (bounds_of_le (List.forall_mem_cons.1 hle).2)
    have hrest' : 0 ≤ centesimal (exponent - 1) (others.map (↑)) :=
      centesimal_nonneg (bounds_of_le (List.forall_mem_cons.1 hle').2)
    have hplace := hundred_zpow_pos (exponent - 1)
    have hnext : (pair : ℚ) + 1 ≤ other := by exact_mod_cast hlt
    rw [List.map_cons, List.map_cons, centesimal_cons, centesimal_cons, Int.cast_natCast,
      Int.cast_natCast]
    calc (pair : ℚ) * 100 ^ (exponent - 1) + centesimal (exponent - 1) (pairs.map (↑))
        < pair * 100 ^ (exponent - 1) + 100 ^ (exponent - 1) := add_lt_add_right hrest _
      _ = (pair + 1) * 100 ^ (exponent - 1) := by ring
      _ ≤ other * 100 ^ (exponent - 1) := mul_le_mul_of_nonneg_right hnext hplace.le
      _ ≤ other * 100 ^ (exponent - 1) + centesimal (exponent - 1) (others.map (↑)) :=
          le_add_of_nonneg_right hrest'

namespace Scaled

variable {m n : Scaled}

/-- Magnitudes compared by exponent, then digit by digit. -/
def Before (m n : Scaled) : Prop :=
  m.exponent < n.exponent ∨ m.exponent = n.exponent ∧ m.pairs < n.pairs

/-- Of two magnitudes one is before the other, unless they are the same. -/
lemma before_trichotomy (m n : Scaled) : m.Before n ∨ m = n ∨ n.Before m := by
  rcases lt_trichotomy m.exponent n.exponent with hlt | heq | hgt
  · exact .inl (.inl hlt)
  · rcases lt_trichotomy m.pairs n.pairs with hlt | hpairs | hgt
    · exact .inl (.inr ⟨heq, hlt⟩)
    · refine .inr (.inl ?_)
      cases m
      cases n
      simp_all
    · exact .inr (.inr (.inr ⟨heq.symm, hgt⟩))
  · exact .inr (.inr (.inl hgt))

/-- **Magnitudes compare by exponent, then digit by digit.** -/
lemma value_lt (h : m.Before n) : m.value < n.value := by
  rcases h with hlt | ⟨heq, hlt⟩
  · calc m.value < 100 ^ m.exponent := m.value_bounds.2
      _ ≤ 100 ^ (n.exponent - 1) := zpow_le_zpow_right₀ (by norm_num) (by omega)
      _ ≤ n.value := n.value_bounds.1
  · unfold value
    rw [heq]
    refine centesimal_lt_of_lt hlt m.le n.le ?_
    rw [List.getLast?_eq_some_getLast n.ne_nil, Ne, Option.some_inj]
    exact n.last_ne

lemma before_of_value_lt (h : m.value < n.value) : m.Before n := by
  rcases before_trichotomy m n with hbefore | rfl | hafter
  · exact hbefore
  · exact absurd h (lt_irrefl _)
  · exact absurd h (lt_asymm (value_lt hafter))

lemma eq_of_value_eq (h : m.value = n.value) : m = n := by
  rcases before_trichotomy m n with hbefore | heq | hafter
  · exact absurd h (value_lt hbefore).ne
  · exact heq
  · exact absurd h (value_lt hafter).ne'

end Scaled

/-! ## The order of octets -/

/-- A greater digit of a positive number has a greater octet. -/
lemma map_digitOctet_lt {pairs others : List Nat} (h : pairs < others)
    (hle : ∀ pair ∈ pairs, pair ≤ 99) (hle' : ∀ pair ∈ others, pair ≤ 99) :
    pairs.map (digitOctet false) < others.map (digitOctet false) := by
  replace h : List.Lex (· < ·) pairs others := h
  induction h with
  | nil => exact List.nil_lt_cons _ _
  | cons _ ih =>
    rw [List.map_cons, List.map_cons, List.cons_lt_cons_iff]
    exact .inr ⟨rfl, ih (List.forall_mem_cons.1 hle).2 (List.forall_mem_cons.1 hle').2⟩
  | rel hlt =>
    rw [List.map_cons, List.map_cons, List.cons_lt_cons_iff, UInt8.lt_iff_toNat_lt,
      toNat_digitOctet false (List.forall_mem_cons.1 hle).1,
      toNat_digitOctet false (List.forall_mem_cons.1 hle').1]
    exact .inl (Nat.add_lt_add_right hlt 1)

/-- The octets behind the first one of a negative number that may have so many digits. -/
def negativeOctets (room : Nat) (pairs : List Nat) : Bytes :=
  pairs.map (digitOctet true) ++ if pairs.length < room then [terminator] else []

/-- A greater digit of a negative number has a less octet, and so do more digits: the octet that
ends fewer of them is greater than that of any digit.

**Proof sketch.** Induction on where the digits differ first. With each digit in front there is room
for one less behind it. -/
lemma negativeOctets_lt {room : Nat} {pairs others : List Nat} (h : pairs < others)
    (hle : ∀ pair ∈ pairs, pair ≤ 99) (hle' : ∀ pair ∈ others, pair ≤ 99)
    (hroom : others.length ≤ room) : negativeOctets room others < negativeOctets room pairs := by
  have hcons : ∀ room pair pairs, negativeOctets (room + 1) (pair :: pairs) =
      digitOctet true pair :: negativeOctets room pairs := by
    intro room pair pairs
    simp [negativeOctets]
  replace h : List.Lex (· < ·) pairs others := h
  induction h generalizing room with
  | nil =>
    obtain ⟨less, rfl⟩ := Nat.exists_eq_add_of_lt (Nat.lt_of_lt_of_le (Nat.zero_lt_succ _) hroom)
    rw [Nat.zero_add, hcons]
    have hnil : negativeOctets (less + 1) [] = [terminator] := by simp [negativeOctets]
    rw [hnil, List.cons_lt_cons_iff, UInt8.lt_iff_toNat_lt,
      toNat_digitOctet true (List.forall_mem_cons.1 hle').1]
    exact .inl (Nat.lt_succ_of_le (Nat.sub_le _ _))
  | cons _ ih =>
    obtain ⟨less, rfl⟩ := Nat.exists_eq_add_of_lt (Nat.lt_of_lt_of_le (Nat.zero_lt_succ _) hroom)
    rw [Nat.zero_add, hcons, hcons, List.cons_lt_cons_iff]
    refine .inr ⟨rfl, ih (List.forall_mem_cons.1 hle).2 (List.forall_mem_cons.1 hle').2 ?_⟩
    simpa using hroom
  | rel hlt =>
    obtain ⟨less, rfl⟩ := Nat.exists_eq_add_of_lt (Nat.lt_of_lt_of_le (Nat.zero_lt_succ _) hroom)
    have hother := (List.forall_mem_cons.1 hle').1
    rw [Nat.zero_add, hcons, hcons, List.cons_lt_cons_iff, UInt8.lt_iff_toNat_lt,
      toNat_digitOctet true (List.forall_mem_cons.1 hle).1, toNat_digitOctet true hother,
      if_pos rfl, if_pos rfl]
    exact .inl (by omega)

/-! ## Octets of numbers -/

namespace Scaled

variable {m n : Scaled}

lemma octets_false (m : Scaled) :
    m.octets false = headOctet false m.exponent :: m.pairs.map (digitOctet false) := by
  simp [octets]

lemma octets_true (m : Scaled) :
    m.octets true = headOctet true m.exponent :: negativeOctets maxPairs m.pairs := by
  simp [octets, negativeOctets]

/-- The octets of positive numbers compare as the magnitudes. -/
lemma octets_lt (h : m.Before n) (hm : m.Fits) (hn : n.Fits) : m.octets false < n.octets false := by
  rw [octets_false, octets_false, List.cons_lt_cons_iff]
  rcases h with hlt | ⟨heq, hlt⟩
  · have hm' := toNat_headOctet false hm.exponent
    have hn' := toNat_headOctet false hn.exponent
    rw [if_neg Bool.false_ne_true] at hm' hn'
    refine .inl ?_
    rw [UInt8.lt_iff_toNat_lt]
    omega
  · exact .inr ⟨by rw [heq], map_digitOctet_lt hlt m.le n.le⟩

/-- The octets of negative numbers compare the other way around. -/
lemma octets_gt (h : m.Before n) (hm : m.Fits) (hn : n.Fits) : n.octets true < m.octets true := by
  rw [octets_true, octets_true, List.cons_lt_cons_iff]
  rcases h with hlt | ⟨heq, hlt⟩
  · have hm' := toNat_headOctet true hm.exponent
    have hn' := toNat_headOctet true hn.exponent
    rw [if_pos rfl] at hm' hn'
    refine .inl ?_
    rw [UInt8.lt_iff_toNat_lt]
    omega
  · exact .inr ⟨by rw [heq], negativeOctets_lt hlt m.le n.le hn.length_le⟩

end Scaled

/-- Octets compare as numbers do. -/
def CompareAlike (value other : ℚ) (octets others : Bytes) : Prop :=
  (value < other ↔ octets < others) ∧ (value = other ↔ octets = others)

/-- **The octets of a number**: one octet for zero, and else those of a magnitude with a sign. -/
inductive Canonical : Bytes → ℚ → Prop
  /-- Zero. -/
  | zero : Canonical [0x80] 0
  /-- A positive number. -/
  | positive (m : Scaled) (hfits : m.Fits) : Canonical (m.octets false) m.value
  /-- A negative number. -/
  | negative (m : Scaled) (hfits : m.Fits) : Canonical (m.octets true) (-m.value)

namespace Canonical

variable {octets others : Bytes} {value other : ℚ}

/-- **Octets compare as numbers.** -/
lemma lt (h : Canonical octets value) (h' : Canonical others other) (hlt : value < other) :
    octets < others := by
  cases h with
  | zero =>
    cases h' with
    | zero => exact absurd hlt (lt_irrefl _)
    | positive n hn =>
      have hhead := toNat_headOctet false hn.exponent
      have hexponent := hn.exponent
      rw [if_neg Bool.false_ne_true] at hhead
      rw [n.octets_false, List.cons_lt_cons_iff, UInt8.lt_iff_toNat_lt]
      exact .inl (show 128 < _ by omega)
    | negative n => exact absurd hlt (by simpa using n.value_pos.le)
  | positive m hm =>
    cases h' with
    | zero => exact absurd hlt (lt_asymm m.value_pos)
    | positive n hn => exact Scaled.octets_lt (Scaled.before_of_value_lt hlt) hm hn
    | negative n => linarith [m.value_pos, n.value_pos]
  | negative m hm =>
    have hhead := toNat_headOctet true hm.exponent
    have hexponent := hm.exponent
    rw [if_pos rfl] at hhead
    cases h' with
    | zero =>
      rw [m.octets_true, List.cons_lt_cons_iff, UInt8.lt_iff_toNat_lt]
      exact .inl (show _ < 128 by omega)
    | positive n hn =>
      have hhead' := toNat_headOctet false hn.exponent
      have hexponent' := hn.exponent
      rw [if_neg Bool.false_ne_true] at hhead'
      rw [m.octets_true, n.octets_false, List.cons_lt_cons_iff, UInt8.lt_iff_toNat_lt]
      exact .inl (by omega)
    | negative n hn =>
      exact Scaled.octets_gt (Scaled.before_of_value_lt (neg_lt_neg_iff.1 hlt)) hn hm

/-- **A number has its octets only.** -/
lemma unique (h : Canonical octets value) (h' : Canonical others other) (heq : value = other) :
    octets = others := by
  cases h with
  | zero =>
    cases h' with
    | zero => rfl
    | positive n => exact absurd heq n.value_pos.ne
    | negative n => linarith [n.value_pos]
  | positive m =>
    cases h' with
    | zero => exact absurd heq m.value_pos.ne'
    | positive n => rw [Scaled.eq_of_value_eq heq]
    | negative n => linarith [m.value_pos, n.value_pos]
  | negative m =>
    cases h' with
    | zero => linarith [m.value_pos]
    | positive n => linarith [m.value_pos, n.value_pos]
    | negative n => rw [Scaled.eq_of_value_eq (neg_inj.1 heq)]

/-- Octets compare as numbers, and are the same if the numbers are. -/
lemma compare (h : Canonical octets value) (h' : Canonical others other) :
    CompareAlike value other octets others := by
  have hirrefl : ¬octets < octets := List.lt_irrefl _
  rcases lt_trichotomy value other with hlt | heq | hgt
  · have horder := h.lt h' hlt
    exact ⟨iff_of_true hlt horder, iff_of_false hlt.ne (by rintro rfl; exact hirrefl horder)⟩
  · obtain rfl := h.unique h' heq
    exact ⟨iff_of_false heq.not_lt hirrefl, iff_of_true heq rfl⟩
  · have horder := h'.lt h hgt
    exact ⟨iff_of_false (lt_asymm hgt) (List.lt_asymm horder),
      iff_of_false hgt.ne' (by rintro rfl; exact hirrefl horder)⟩

end Canonical

/-! ## Texts -/

/-- The octets of a value are those of a number. -/
lemma Decimal.HasOctets.canonical {d : Decimal} {octets : Bytes} (h : d.HasOctets octets)
    (hdigits : d.HasDigits) : Canonical octets d.value := by
  cases h with
  | zero hempty =>
    rw [value_eq_zero hempty]
    exact .zero
  | digits hne hcount hexponent =>
    have hfits : (d.scaled hdigits hne).Fits :=
      (d.fits_scaled_iff hdigits hne).2 ⟨hcount, hexponent⟩
    rw [d.laidOut_eq hdigits hne, d.value_scaled hdigits hne, Decimal.sign]
    cases d.negative
    · simpa using Canonical.positive _ hfits
    · simpa using Canonical.negative _ hfits

/-- What a text is encoded as are the octets of the number that it is taken for. -/
lemma canonical_of_encode {text : String} {octets : Bytes} (h : encode text = .ok octets) :
    ∃ d, Spells32 text.toList d ∧ (∀ value, Denotes text value ↔ d.value = value) ∧
      Canonical octets d.taken.value := by
  obtain ⟨d, hparse, -, hoctets⟩ := parse_of_encode h
  exact ⟨d, parse_eq_ok_iff.1 hparse, fun value => denotes_iff hparse,
    hoctets.canonical (hasDigits_of_parse hparse).1.taken⟩

/-- Whatever has octets has those of a text that is taken for what it is.

**Proof sketch.** It is the plain text that the octets are read as: this denotes what the text is
taken for, and has the same octets. -/
lemma exists_faithful {text : String} {octets : Bytes} (h : encode text = .ok octets) :
    ∃ plain d, encode plain = .ok octets ∧ Spells32 plain.toList d ∧ d.Faithful ∧
      Canonical octets d.value := by
  obtain ⟨d, hparse, -, hoctets⟩ := parse_of_encode h
  have hdigits := (hasDigits_of_parse hparse).1.taken
  obtain ⟨plain, hdecode, hplain⟩ := hoctets.plainText hdigits
  have hencode := encode_plain h hdecode
  obtain ⟨d', hspells, hdenotes, hcanonical'⟩ := canonical_of_encode hencode
  have hcanonical := hoctets.canonical hdigits
  have hvalue : d'.value = d.taken.value := (hdenotes _).1 hplain.denotes
  have htaken : d'.taken.value = d.taken.value := (hcanonical'.compare hcanonical).2.2 rfl
  exact ⟨plain, d', hencode, hspells, d'.value_taken_eq_iff.1 (htaken.trans hvalue.symm),
    hvalue ▸ hcanonical⟩

/-- **The octets of texts compare as what the texts are taken for**: a text that has octets denotes
one number, and is taken for one, which is less than what another text is taken for if, and only if,
its octets are, and the same if, and only if, its octets are the same. What it denotes compares
alike with all texts that are taken for what they are just if it is taken for what it is itself.

**Proof sketch.** The octets are those of a number with a sign, an exponent and digits of which
neither the first nor the last is zero (`canonical_of_encode`). Of such numbers the one with the
greater exponent or, digit by digit, with the first greater digit is greater in magnitude
(`Scaled.value_lt`), and so are its octets, or less if the numbers are negative
(`Scaled.octets_lt`, `Scaled.octets_gt`). There always is a text with the same octets that is taken
for what it is (`exists_faithful`), and no other number compares alike with that one. -/
theorem encode_compareAlike {text : String} {octets : Bytes} (h : encode text = .ok octets) :
    ∃ d, Spells32 text.toList d ∧ (∀ value, Denotes text value ↔ d.value = value) ∧
      (∀ other others, encode other = .ok others →
        ∃ d', Spells32 other.toList d' ∧ (∀ value, Denotes other value ↔ d'.value = value) ∧
          CompareAlike d.taken.value d'.taken.value octets others) ∧
      ((∀ other others d', encode other = .ok others → Spells32 other.toList d' → d'.Faithful →
        CompareAlike d.value d'.value octets others) ↔ d.Faithful) := by
  obtain ⟨d, hspells, hdenotes, hcanonical⟩ := canonical_of_encode h
  refine ⟨d, hspells, hdenotes, fun other others h' => ?_, fun hall => ?_, ?_⟩
  · obtain ⟨d', hspells', hdenotes', hcanonical'⟩ := canonical_of_encode h'
    exact ⟨d', hspells', hdenotes', hcanonical.compare hcanonical'⟩
  · obtain ⟨plain, d', hencode, hspells', hfaithful, hcanonical'⟩ := exists_faithful h
    have hvalue : d.value = d'.value := (hall plain octets d' hencode hspells' hfaithful).2.2 rfl
    have htaken : d.taken.value = d'.value := (hcanonical.compare hcanonical').2.2 rfl
    exact d.value_taken_eq_iff.1 (htaken.trans hvalue.symm)
  · intro hfaithful other others d' h' hspells' hfaithful'
    obtain ⟨other', hother, -, hcanonical'⟩ := canonical_of_encode h'
    obtain rfl : other' = d' := by
      have hparse := parse_eq_ok_iff.2 hother
      exact Except.ok.inj (hparse.symm.trans (parse_eq_ok_iff.2 hspells'))
    rw [← d.value_taken_eq_iff.2 hfaithful, ← other'.value_taken_eq_iff.2 hfaithful']
    exact hcanonical.compare hcanonical'

/-- Of two negative numbers the one with fewer digits is the greater one, by the octet that ends
them. -/
theorem encode_compareAlike_sample :
    encode "-12.05" = .ok [0x3E, 0x59, 0x60, 0x66] ∧ encode "-12" = .ok [0x3E, 0x59, 0x66] ∧
      ∃ d d', Spells32 "-12.05".toList d ∧ Spells32 "-12".toList d' ∧
        d.taken.value < d'.taken.value := by
  have h : encode "-12.05" = .ok [0x3E, 0x59, 0x60, 0x66] := by
    rw [encode_eq_bind]
    decide +kernel
  have h' : encode "-12" = .ok [0x3E, 0x59, 0x66] := by
    rw [encode_eq_bind]
    decide +kernel
  obtain ⟨d, hspells, -, hall, -⟩ := encode_compareAlike h
  obtain ⟨d', hspells', -, hcompare⟩ := hall _ _ h'
  exact ⟨h, h', d, d', hspells, hspells', hcompare.1.2 (by decide)⟩

/-- **Different values, the same octets**: a text with `2 ^ 31` zeros behind the point denotes a
value less than a tenth, and has the octets of a tenth. -/
theorem encode_tiny_eq_tenth : encode (tiny (2 ^ 31)) = .ok [192, 11] ∧
    encode "0.1" = .ok [192, 11] ∧
    ∃ value value', Denotes (tiny (2 ^ 31)) value ∧ Denotes "0.1" value' ∧ value < value' := by
  have hparse : Decimal.parse "0.1" = .ok ⟨false, [0, 1], 1⟩ := by decide +kernel
  have htenth : encode "0.1" = .ok [192, 11] := by
    rw [encode_eq_bind, hparse]
    decide +kernel
  refine ⟨encode_tiny, htenth, _, 10 ^ (-1 : Int), denotes_tiny _, (denotes_iff hparse).2 ?_,
    zpow_lt_zpow_right₀ (by norm_num) (by decide)⟩
  have hone : magnitude [0, 1] = 1 := by decide
  rw [Decimal.value, hone, Decimal.sign]
  norm_num

end TnsClient.Number
