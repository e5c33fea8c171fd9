import Mathlib
import TnsClient.Proofs.Number.Centesimal
import TnsClient.Proofs.Number.RoundTrip

set_option autoImplicit false

/-!
# What octets are read as

A server may send octets that no client would: digits with zeros in front and behind, and more of
them than a number may have. The reader takes all octets that stand for digits, and the text that it
makes denotes the sum of these, each times its power of 100, whatever zeros it leaves out or keeps.

## Main results

* `TnsClient.Number.Decimal.value_shorten` — leaving out zeros keeps the value.
* `TnsClient.Number.Decimal.spells_render` — plain decimal text denotes what it was made of.
* `TnsClient.Number.decode_denotes` — the text that octets are read as denotes what they denote.
-/

namespace TnsClient.Number

namespace Decimal

variable {d : Decimal}

/-- Shortening takes off a zero at most on either side. -/
lemma shorten_pad (d : Decimal) : ∃ front back, d =
    ⟨d.negative, List.replicate front 0 ++ (d.shorten.digits ++ List.replicate back 0),
      d.shorten.point + front⟩ := by
  obtain ⟨negative, digits, point⟩ := d
  obtain ⟨front, rest, place, rfl, rfl, hshorten⟩ : ∃ (front : Nat) (rest : List Nat) (place : Int),
      digits = List.replicate front 0 ++ rest ∧ point = place + (front : Nat) ∧
      shorten ⟨negative, digits, point⟩ =
        ⟨negative, if rest.getLast? = some 0 then rest.dropLast else rest, place⟩ := by
    match digits with
    | [] => exact ⟨0, [], point, rfl, by simp, rfl⟩
    | 0 :: rest => exact ⟨1, rest, point - 1, rfl, by simp, rfl⟩
    | (digit + 1) :: rest => exact ⟨0, (digit + 1) :: rest, point, rfl, by simp, rfl⟩
  rw [hshorten]
  dsimp only
  split_ifs with hlast
  · obtain ⟨rest, rfl⟩ := List.getLast?_eq_some_iff.1 hlast
    exact ⟨front, 1, by simp⟩
  · exact ⟨front, 0, by simp⟩

/-- **Shortening** keeps the value. -/
lemma value_shorten (d : Decimal) : d.shorten.value = d.value := by
  obtain ⟨front, back, hpad⟩ := d.shorten_pad
  conv_rhs => rw [hpad]
  exact (value_pad d.negative d.shorten.digits d.shorten.point front back).symm

lemma HasDigits.shorten (h : d.HasDigits) : d.shorten.HasDigits := by
  obtain ⟨front, back, hpad⟩ := d.shorten_pad
  intro digit hmem
  refine h digit ?_
  rw [hpad]
  exact List.mem_append_right _ (List.mem_append_left _ hmem)

/-- **Plain decimal text** denotes what it was made of. -/
lemma spells_render (h : d.HasDigits) :
    ∃ other, Spells d.render.toList other ∧ other.value = d.value := by
  obtain ⟨whole, fraction, front, back, hmantissa, hne, hisDigit, hvalues, hpoint, -⟩ := plain_eq h
  have hsign : SignText (if d.negative then ['-'] else []) d.negative := by
    cases d.negative
    · exact .none
    · exact .minus
  have hspells := Spells.intro hsign hmantissa (List.append_ne_nil_of_left_ne_nil hne fraction)
    hisDigit .none
  rw [List.append_nil, add_zero, hvalues, hpoint] at hspells
  refine ⟨_, ?_, value_pad d.negative d.digits d.point front back⟩
  rwa [render, String.toList_ofList]

end Decimal

lemma halves_lt {digits : List Int} (h : ∀ digit ∈ digits, 0 ≤ digit ∧ digit ≤ 99) :
    ∀ digit ∈ halves (digits.map Int.toNat), digit < 10 := by
  intro half hmem
  obtain ⟨pair, hpair, hhalf⟩ := List.mem_flatMap.1 hmem
  obtain ⟨digit, hdigit, rfl⟩ := List.mem_map.1 hpair
  have hbounds := h digit hdigit
  simp only [List.mem_cons, List.not_mem_nil, or_false] at hhalf
  omega

/-- The digits that were read denote what the octets denote. -/
lemma value_of_digits {negative : Bool} {exponent : Int} {digits : List Int}
    (h : ∀ digit ∈ digits, 0 ≤ digit ∧ digit ≤ 99) :
    Decimal.value ⟨negative, halves (digits.map Int.toNat), 2 * exponent⟩ =
      (if negative then -1 else 1) * centesimal exponent digits := by
  have hcast : (digits.map Int.toNat).map (↑) = digits := by
    rw [List.map_map]
    exact (List.map_congr_left fun digit hmem => Int.toNat_of_nonneg (h digit hmem).1).trans
      (List.map_id _)
  rw [value_halves, hcast]

/-- **The text that octets are read as denotes what they denote.** Octets with digits are read if,
and only if, all octets behind the first one stand for digits; the text then denotes the sum of
these, each times its power of 100, with the sign of the first octet, and nothing else.

**Proof sketch.** Reading yields the digits that the octets stand for, two decimal digits for each
(`decode_eq_ok_iff`), with the point where the exponent says (`value_halves`). Shortening takes off
zeros and moves the point along (`Decimal.value_shorten`), and plain text has the digits, the point,
and only zeros beside them (`Decimal.spells_render`). -/
theorem decode_denotes {first : UInt8} {mantissa : Bytes} (hne : mantissa ≠ []) :
    ((∃ text, decode (first :: mantissa) = .ok text) ↔
      ∀ digit ∈ saidDigits (saysNegative first) mantissa, 0 ≤ digit ∧ digit ≤ 99) ∧
    ∀ text, decode (first :: mantissa) = .ok text → ∀ value, Denotes text value ↔
      value = (if saysNegative first then -1 else 1) *
        centesimal (saidExponent first) (saidDigits (saysNegative first) mantissa) := by
  refine ⟨⟨?_, fun h => ⟨_, (decode_eq_ok_iff hne).2 ⟨h, rfl⟩⟩⟩, fun text h value => ?_⟩
  · rintro ⟨text, h⟩
    exact ((decode_eq_ok_iff hne).1 h).1
  · obtain ⟨hdigits, rfl⟩ := (decode_eq_ok_iff hne).1 h
    have hhalves : Decimal.HasDigits ⟨saysNegative first,
        halves ((saidDigits (saysNegative first) mantissa).map Int.toNat),
        2 * saidExponent first⟩ := halves_lt hdigits
    obtain ⟨other, hspells, hvalue⟩ := Decimal.spells_render hhalves.shorten
    rw [hspells.denotes_iff, hvalue, Decimal.value_shorten, value_of_digits hdigits, eq_comm]

/-- More digits than a number needs: two of them are zeros, one in front and one behind. -/
theorem decode_denotes_sample :
    decode [0xC2, 0x01, 0x0D, 0x01] = .ok "012.0" ∧
      ∀ value, Denotes "012.0" value ↔ value = 12 := by
  have hdecode : decode [0xC2, 0x01, 0x0D, 0x01] = .ok "012.0" := by decide +kernel
  have hmantissa : ([0x01, 0x0D, 0x01] : Bytes) ≠ [] := by decide
  refine ⟨hdecode, fun value => ?_⟩
  rw [(decode_denotes hmantissa).2 _ hdecode value]
  have hsign : saysNegative 0xC2 = false := by decide
  have hexponent : saidExponent 0xC2 = 2 := by decide
  have hdigits : saidDigits false [0x01, 0x0D, 0x01] = [0, 12, 0] := by decide
  rw [hsign, hexponent, hdigits]
  norm_num

end TnsClient.Number
