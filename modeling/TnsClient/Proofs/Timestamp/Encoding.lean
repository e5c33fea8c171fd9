import Mathlib.Algebra.Group.Nat.Defs
import Mathlib.Data.List.Basic
import Mathlib.Tactic.Lemma
import TnsClient.Column.Timestamp

set_option autoImplicit false

/-!
# What a timestamp is written as

Only a timestamp whose fields are in range is written. The ranges fit the octets: every field, with
what is added to it, is a number that one octet holds, so nothing is cut off where it is narrowed.
The numbers that are written are told here as integers, without regard to octets.

## Main definitions

* `TnsClient.Timestamp.InRange` — every field of a timestamp is in range.
* `TnsClient.Timestamp.numbers` — the numbers that are written, one for each octet.

## Main results

* `TnsClient.Timestamp.encode_eq_ok_iff` — which timestamps are written, and as what.
* `TnsClient.Timestamp.numbers_encode` — every octet is the number that is meant for it.
* `TnsClient.Timestamp.length_encode` — how many octets there are.
-/

namespace TnsClient.Timestamp

variable {value : Timestamp} {octets : Bytes}

/-! ## Ranges -/

/-- Every field is in range. The days of a month are not told apart. -/
structure InRange (value : Timestamp) : Prop where
  year : -4712 ≤ value.year ∧ value.year ≤ 9999
  month : 1 ≤ value.month.toNat ∧ value.month.toNat ≤ 12
  day : 1 ≤ value.day.toNat ∧ value.day.toNat ≤ 31
  hour : value.hour.toNat ≤ 23
  minute : value.minute.toNat ≤ 59
  second : value.second.toNat ≤ 59
  nanosecond : value.nanosecond.toNat < 10 ^ 9
  offset : ∀ offset ∈ value.offset,
    (-12 ≤ offset.hours.toInt ∧ offset.hours.toInt ≤ 14) ∧
      -59 ≤ offset.minutes.toInt ∧ offset.minutes.toInt ≤ 59

/-- An offset is found fault with if it is out of range. -/
lemma offset_out_of_range_iff (offset : UtcOffset) :
    (offset.hours < -12 ∨ 14 < offset.hours ∨ offset.minutes < -59 ∨ 59 < offset.minutes) ↔
      ¬ ((-12 ≤ offset.hours.toInt ∧ offset.hours.toInt ≤ 14) ∧
        -59 ≤ offset.minutes.toInt ∧ offset.minutes.toInt ≤ 59) := by
  have hleast : (-12 : Int8).toInt = -12 ∧ (-59 : Int8).toInt = -59 := by decide
  have hgreatest : (14 : Int8).toInt = 14 ∧ (59 : Int8).toInt = 59 := by decide
  simp only [Int8.lt_iff_toInt_lt, hleast, hgreatest]
  omega

/-- **No fault** is found with a timestamp if, and only if, every field is in range. -/
lemma fault?_eq_none_iff : value.fault? = none ↔ value.InRange := by
  have hsmall : (1 : UInt8).toNat = 1 ∧ (12 : UInt8).toNat = 12 ∧ (31 : UInt8).toNat = 31 ∧
      (23 : UInt8).toNat = 23 ∧ (59 : UInt8).toNat = 59 := by decide
  have hlarge : (999999999 : UInt32).toNat = 999999999 := by decide
  unfold fault?
  simp only [UInt8.lt_iff_toNat_lt, UInt32.lt_iff_toNat_lt, hsmall, hlarge]
  constructor
  · intro h
    split_ifs at h with hyear hdate htime hfraction
    refine ⟨by omega, by omega, by omega, by omega, by omega, by omega, by omega, ?_⟩
    intro offset hoffset
    rw [Option.mem_def.1 hoffset] at h
    dsimp only at h
    split_ifs at h with hout
    rwa [offset_out_of_range_iff, not_not] at hout
  · rintro ⟨hyear, hmonth, hday, hhour, hminute, hsecond, hnanosecond, hoffset⟩
    rw [if_neg (by omega), if_neg (by omega), if_neg (by omega), if_neg (by omega)]
    rcases hzone : value.offset with _ | offset
    · rfl
    · apply if_neg
      rw [offset_out_of_range_iff, not_not]
      exact hoffset offset hzone

/-! ## Octets -/

/-- The numbers that are written, one for each octet: the century and the year of the century in
excess of 100, the time of day in excess of one, the hours of an offset in excess of 20 and its
minutes in excess of 60. The octets of the fraction are those of its 32 bits. -/
def numbers (value : Timestamp) : List Int :=
  [value.year / 100 + 100, value.year % 100 + 100, value.month.toNat, value.day.toNat,
    value.hour.toNat + 1, value.minute.toNat + 1, value.second.toNat + 1] ++
  (if value.offset.isSome ∨ value.nanosecond ≠ 0 then
    (beBytes32 value.nanosecond).map fun octet => (octet.toNat : Int) else []) ++
  (value.offset.map fun offset => [offset.hours.toInt + 20, offset.minutes.toInt + 60]).getD []

/-- A timestamp with an offset has the octets of a fraction, be the fraction zero or not. -/
lemma fractionLength_le_iff :
    fractionLength ≤ value.encodedLength ↔ value.offset.isSome ∨ value.nanosecond ≠ 0 := by
  unfold encodedLength
  by_cases hoffset : value.offset.isSome = true
  · simp [hoffset, fractionLength, offsetLength]
  · by_cases hnanosecond : value.nanosecond = 0
    · simp [hoffset, hnanosecond, fractionLength, dateLength]
    · simp [hoffset, hnanosecond]

/-- **A timestamp is written** if, and only if, every field is in range. -/
lemma encode_eq_ok_iff : value.encode = .ok octets ↔ value.InRange ∧
    octets = dateOctets value ++
      (if value.offset.isSome ∨ value.nanosecond ≠ 0 then beBytes32 value.nanosecond else []) ++
      (value.offset.map offsetOctets).getD [] := by
  unfold encode
  simp only [fractionLength_le_iff]
  rcases hfault : value.fault? with _ | part
  · rw [and_iff_right (fault?_eq_none_iff.1 hfault), Except.ok.injEq]
    exact eq_comm
  · have hout : ¬ value.InRange := by
      intro h
      rw [fault?_eq_none_iff.2 h] at hfault
      cases hfault
    simp [hout]

/-- A number that one octet holds is written as it is. -/
lemma toNat_octet {number : Int} (hleast : 0 ≤ number) (hlt : number < 256) :
    ((octet number).toNat : Int) = number := by
  unfold octet
  rw [UInt8.toNat_ofNat']
  omega

/-- One more than a number that leaves room for it. -/
lemma toNat_succ {field : UInt8} (h : field.toNat < 255) : (field + 1).toNat = field.toNat + 1 := by
  rw [UInt8.toNat_add, UInt8.toNat_one]
  omega

lemma numbers_dateOctets (h : value.InRange) :
    (dateOctets value).map (fun octet => (octet.toNat : Int)) =
      [value.year / 100 + 100, value.year % 100 + 100, value.month.toNat, value.day.toNat,
        value.hour.toNat + 1, value.minute.toNat + 1, value.second.toNat + 1] := by
  obtain ⟨hyear, -, -, hhour, hminute, hsecond, -, -⟩ := h
  unfold dateOctets
  simp only [List.map_cons, List.map_nil]
  rw [toNat_octet (by omega) (by omega), toNat_octet (by omega) (by omega),
    toNat_succ (by omega), toNat_succ (by omega), toNat_succ (by omega)]
  simp

lemma numbers_offsetOctets {offset : UtcOffset} (h : value.InRange)
    (hoffset : value.offset = some offset) :
    (offsetOctets offset).map (fun octet => (octet.toNat : Int)) =
      [offset.hours.toInt + 20, offset.minutes.toInt + 60] := by
  obtain ⟨hhours, hminutes⟩ := h.offset offset hoffset
  unfold offsetOctets
  simp only [List.map_cons, List.map_nil]
  rw [toNat_octet (by omega) (by omega), toNat_octet (by omega) (by omega)]

/-- **Nothing is cut off**: every octet is the number that is meant for it. -/
lemma numbers_encode (h : value.encode = .ok octets) :
    octets.map (fun octet => (octet.toNat : Int)) = value.numbers := by
  obtain ⟨hrange, rfl⟩ := encode_eq_ok_iff.1 h
  unfold numbers
  rw [List.map_append, List.map_append, numbers_dateOctets hrange]
  congr 1
  · congr 1
    split_ifs <;> rfl
  · rcases hoffset : value.offset with _ | offset
    · rfl
    · exact numbers_offsetOctets hrange hoffset

/-- **How many octets** there are, says which parts there are. -/
lemma length_encode (h : value.encode = .ok octets) :
    octets.length =
      if value.offset.isSome then 13 else if value.nanosecond ≠ 0 then 11 else 7 := by
  obtain ⟨-, rfl⟩ := encode_eq_ok_iff.1 h
  rcases value.offset with _ | offset
  · by_cases hnanosecond : value.nanosecond = 0 <;>
      simp [hnanosecond, dateOctets, beBytes32]
  · simp [dateOctets, beBytes32, offsetOctets]

end TnsClient.Timestamp
