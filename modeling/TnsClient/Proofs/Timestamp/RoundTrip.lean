import Mathlib.Data.List.GetD
import TnsClient.Proofs.Timestamp.Decoding
import TnsClient.Proofs.Timestamp.Encoding

set_option autoImplicit false

/-!
# Timestamps that are written and read back

Octets say one timestamp at most. What a timestamp is written as says the timestamp, and what is
read is what the octets say as long as they say an offset in range; so whatever is written is read
back. The converse fails: there are octets that are read as a timestamp that is never written.

## Main results

* `TnsClient.Timestamp.encode_round_trip` — what is written, and that it is read back.
* `TnsClient.Timestamp.decode_valid_iff` — when what is read can be written again.
-/

namespace TnsClient.Timestamp

variable {value : Timestamp} {bytes octets : Bytes}

/-! ## What octets say of what is written -/

/-- Octets say one timestamp at most. -/
lemma SaidBy.unique {other : Timestamp} (h : value.SaidBy bytes) (h' : other.SaidBy bytes) :
    value = other := by
  have hsame : ∀ field field' : UInt8, field.toNat = field'.toNat → field = field' :=
    fun _ _ => UInt8.toNat_inj.1
  rcases value with ⟨year, month, day, hour, minute, second, nanosecond, offset⟩
  rcases other with ⟨year', month', day', hour', minute', second', nanosecond', offset'⟩
  rw [Timestamp.mk.injEq]
  refine ⟨h.year.trans h'.year.symm, hsame _ _ (h.month.trans h'.month.symm),
    hsame _ _ (h.day.trans h'.day.symm), hsame _ _ ?_, hsame _ _ ?_, hsame _ _ ?_,
    UInt32.toNat_inj.1 (h.nanosecond.trans h'.nanosecond.symm), ?_⟩
  · have hhour := h.hour.trans h'.hour.symm
    exact Nat.add_right_cancel hhour
  · have hminute := h.minute.trans h'.minute.symm
    exact Nat.add_right_cancel hminute
  · have hsecond := h.second.trans h'.second.symm
    exact Nat.add_right_cancel hsecond
  · apply Option.map_injective _ (h.offset.trans h'.offset.symm)
    rintro ⟨hours, minutes⟩ ⟨hours', minutes'⟩ heq
    obtain ⟨hhours, hminutes⟩ := Prod.mk.inj heq
    rw [UtcOffset.mk.injEq]
    exact ⟨Int8.toInt_inj.1 hhours, Int8.toInt_inj.1 hminutes⟩

/-- The number at a position of what is written is the one that is meant for it. -/
lemma saidAt_encode (h : value.encode = .ok octets) (position : Nat) :
    (saidAt octets position : Int) = value.numbers.getD position 0 := by
  rw [← numbers_encode h]
  exact (List.getD_map octets 0 fun octet : UInt8 => (octet.toNat : Int)).symm

/-- The fraction of what is written. -/
lemma saidFraction_encode (h : value.encode = .ok octets) :
    saidFraction octets = value.nanosecond.toNat := by
  have hread : beNat (beBytes32 value.nanosecond) = value.nanosecond.toNat :=
    beNat_beBytes value.nanosecond.toNat_lt
  obtain ⟨-, rfl⟩ := encode_eq_ok_iff.1 h
  rcases hoffset : value.offset with _ | offset
  · by_cases hzero : value.nanosecond = 0
    · simp [hzero, saidFraction, dateOctets, fractionLength]
    · rw [if_pos (.inr hzero)]
      exact hread
  · exact hread

/-- The numbers behind the fraction of what is written, if there are any. -/
lemma saidAt_offset_encode (h : value.encode = .ok octets) :
    ((saidAt octets 11 : Int), (saidAt octets 12 : Int)) =
      (value.offset.map fun offset =>
        (offset.hours.toInt + 20, offset.minutes.toInt + 60)).getD (0, 0) := by
  rcases hoffset : value.offset with _ | offset
  · have hshort : octets.length ≤ 11 := by
      rw [length_encode h, hoffset]
      split_ifs <;> simp_all
    unfold saidAt
    rw [List.getD_eq_default _ _ hshort, List.getD_eq_default _ _ (Nat.le_succ_of_le hshort)]
    rfl
  · rw [saidAt_encode h, saidAt_encode h]
    unfold numbers
    rw [hoffset]
    rfl

/-- The offset of what is written. Neither of its numbers is zero. -/
lemma saidOffset?_encode (h : value.encode = .ok octets) :
    saidOffset? octets =
      value.offset.map fun offset => (offset.hours.toInt, offset.minutes.toInt) := by
  have hrange := (encode_eq_ok_iff.1 h).1.offset
  have hnumbers := saidAt_offset_encode h
  unfold saidOffset?
  rcases hoffset : value.offset with _ | offset
  · rw [hoffset] at hnumbers
    have hnone : (saidAt octets 11 : Int) = 0 := (Prod.mk.inj hnumbers).1
    rw [if_pos (by omega)]
    rfl
  · obtain ⟨hhours, hminutes⟩ := hrange offset hoffset
    rw [hoffset] at hnumbers
    obtain ⟨heleven, htwelve⟩ := Prod.mk.inj hnumbers
    rw [if_neg (by omega), heleven, htwelve]
    simp

/-- What is written says the timestamp. -/
lemma saidBy_encode (h : value.encode = .ok octets) : value.SaidBy octets := by
  have hcentury : (saidAt octets 0 : Int) = value.year / 100 + 100 := saidAt_encode h 0
  have hyear : (saidAt octets 1 : Int) = value.year % 100 + 100 := saidAt_encode h 1
  have hmonth : (saidAt octets 2 : Int) = value.month.toNat := saidAt_encode h 2
  have hday : (saidAt octets 3 : Int) = value.day.toNat := saidAt_encode h 3
  have hhour : (saidAt octets 4 : Int) = value.hour.toNat + 1 := saidAt_encode h 4
  have hminute : (saidAt octets 5 : Int) = value.minute.toNat + 1 := saidAt_encode h 5
  have hsecond : (saidAt octets 6 : Int) = value.second.toNat + 1 := saidAt_encode h 6
  refine ⟨?_, by omega, by omega, by omega, by omega, by omega, (saidFraction_encode h).symm,
    (saidOffset?_encode h).symm⟩
  unfold saidYear
  omega

/-- What is written is read. -/
lemma accepted_encode (h : value.encode = .ok octets) : Accepted octets := by
  have hrange := (encode_eq_ok_iff.1 h).1
  have hsaid := saidBy_encode h
  have hhour := hsaid.hour
  have hminute := hsaid.minute
  have hsecond := hsaid.second
  refine ⟨?_, hsaid.month ▸ hrange.month, hsaid.day ▸ hrange.day, ?_, ?_, ?_, ?_⟩
  · rw [length_encode h]
    split_ifs <;> decide
  · have hgreatest := hrange.hour
    omega
  · have hgreatest := hrange.minute
    omega
  · have hgreatest := hrange.second
    omega
  · have heleven := congrArg Prod.fst (saidAt_offset_encode h)
    rcases hoffset : value.offset with _ | offset
    · rw [hoffset] at heleven
      have heleven : (saidAt octets 11 : Int) = 0 := heleven
      omega
    · rw [hoffset] at heleven
      have heleven : (saidAt octets 11 : Int) = offset.hours.toInt + 20 := heleven
      have hhours := (hrange.offset offset hoffset).1
      omega

/-! ## What is written is read back -/

/-- **What is written is read back.** Octets say one timestamp at most, and both the timestamp that
was written and the one that is read are said by these. -/
lemma decode_encode (h : value.encode = .ok octets) : decode octets = .ok value := by
  have haccepted := accepted_encode h
  have hrange := (encode_eq_ok_iff.1 h).1
  refine decode_eq_ok_iff.2 ⟨haccepted, (saidBy_encode h).unique ?_⟩
  rw [readAs_saidBy_iff haccepted, saidOffset?_encode h]
  intro pair hpair
  obtain ⟨offset, hoffset, rfl⟩ := Option.map_eq_some_iff.1 hpair
  have hminutes := (hrange.offset offset hoffset).2.2
  exact hminutes.trans (by decide)

/-- **What is written, and that it is read back.** A timestamp is written if, and only if, every
field is in range. Then it takes 13 octets with an offset, 11 with a fraction and without an offset,
and 7 otherwise; every octet is the number that is meant for it, so nothing is cut off; and the
octets are read as the same timestamp. -/
theorem encode_round_trip (value : Timestamp) :
    ((∃ octets, value.encode = .ok octets) ↔ value.InRange) ∧
      ∀ octets, value.encode = .ok octets →
        octets.length =
            (if value.offset.isSome then 13 else if value.nanosecond ≠ 0 then 11 else 7) ∧
          octets.map (fun octet => (octet.toNat : Int)) = value.numbers ∧
          decode octets = .ok value := by
  constructor
  · constructor
    · rintro ⟨octets, h⟩
      exact (encode_eq_ok_iff.1 h).1
    · intro h
      exact ⟨_, encode_eq_ok_iff.2 ⟨h, rfl⟩⟩
  · intro octets h
    exact ⟨length_encode h, numbers_encode h, decode_encode h⟩

/-- A timestamp of a year before year zero, with the least offset. -/
theorem encode_round_trip_least_offset :
    (⟨-4712, 1, 31, 23, 59, 0, 0, some ⟨-12, -59⟩⟩ : Timestamp).encode =
        .ok [52, 188, 1, 31, 24, 60, 1, 0, 0, 0, 0, 8, 1] ∧
      decode [52, 188, 1, 31, 24, 60, 1, 0, 0, 0, 0, 8, 1] =
        .ok ⟨-4712, 1, 31, 23, 59, 0, 0, some ⟨-12, -59⟩⟩ := by
  have h : (⟨-4712, 1, 31, 23, 59, 0, 0, some ⟨-12, -59⟩⟩ : Timestamp).encode =
      .ok [52, 188, 1, 31, 24, 60, 1, 0, 0, 0, 0, 8, 1] := by decide
  exact ⟨h, ((encode_round_trip _).2 _ h).2.2⟩

/-! ## What is read is written again -/

/-- **When what is read is in range.** Of any octets:

* they are read if, and only if, there are 7 to 11 or 13 of them, the date and the time of day are in
  range, and the offset is not a region;
* what is read is what they say, unless the minutes of the offset are 128 or more;
* it is in range, so that it can be written and is read back, if, and only if, the year, the fraction
  and the offset that they say are in range. -/
theorem decode_valid_iff (bytes : Bytes) :
    ((∃ value, decode bytes = .ok value) ↔ Accepted bytes) ∧
      ∀ value, decode bytes = .ok value →
        (value.SaidBy bytes ↔ ∀ pair ∈ saidOffset? bytes, pair.2 ≤ 127) ∧
        (value.InRange ↔
          (-4712 ≤ saidYear bytes ∧ saidYear bytes ≤ 9999) ∧ saidFraction bytes < 10 ^ 9 ∧
            ∀ pair ∈ saidOffset? bytes,
              (-12 ≤ pair.1 ∧ pair.1 ≤ 14) ∧ -59 ≤ pair.2 ∧ pair.2 ≤ 59) ∧
        ((∃ octets, value.encode = .ok octets ∧ decode octets = .ok value) ↔ value.InRange) := by
  constructor
  · constructor
    · rintro ⟨value, h⟩
      exact (decode_eq_ok_iff.1 h).1
    · intro h
      exact ⟨_, decode_eq_ok_iff.2 ⟨h, rfl⟩⟩
  · intro value h
    obtain ⟨haccepted, rfl⟩ := decode_eq_ok_iff.1 h
    refine ⟨readAs_saidBy_iff haccepted, readAs_inRange_iff haccepted, ?_⟩
    constructor
    · rintro ⟨octets, hencode, -⟩
      exact (encode_eq_ok_iff.1 hencode).1
    · intro hrange
      have hencode := encode_eq_ok_iff.2 ⟨hrange, rfl⟩
      exact ⟨_, hencode, decode_encode hencode⟩

/-- **Octets that are read and should not be**: eight of them; those of the year 15500; a fraction of
more than a second; and an offset of 195 minutes, of which -61 is kept. -/
theorem decode_out_of_range :
    decode [120, 124, 12, 25, 18, 31, 1, 0] = .ok ⟨2024, 12, 25, 17, 30, 0, 0, none⟩ ∧
      decode [255, 100, 1, 1, 1, 1, 1] = .ok ⟨15500, 1, 1, 0, 0, 0, 0, none⟩ ∧
      decode [120, 124, 12, 25, 18, 31, 1, 255, 255, 255, 255] =
        .ok ⟨2024, 12, 25, 17, 30, 0, 4294967295, none⟩ ∧
      decode [120, 124, 12, 25, 18, 31, 1, 0, 0, 0, 0, 20, 255] =
        .ok ⟨2024, 12, 25, 17, 30, 0, 0, some ⟨0, -61⟩⟩ ∧
      (⟨15500, 1, 1, 0, 0, 0, 0, none⟩ : Timestamp).fault? = some .year ∧
      (⟨2024, 12, 25, 17, 30, 0, 4294967295, none⟩ : Timestamp).fault? = some .fraction ∧
      (⟨2024, 12, 25, 17, 30, 0, 0, some ⟨0, -61⟩⟩ : Timestamp).fault? = some .offset := by
  decide

end TnsClient.Timestamp
