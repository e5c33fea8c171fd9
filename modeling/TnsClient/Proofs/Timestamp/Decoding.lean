import Mathlib.Data.List.GetD
import TnsClient.Proofs.Bytes
import TnsClient.Proofs.Timestamp.Encoding
import TnsClient.Proofs.Wire.Form

set_option autoImplicit false

/-!
# What a timestamp is read as

What the octets of a timestamp say is told here as integers, without regard to the reader, also
where no timestamp would be written as these octets. The reader looks at the date and at the time of
day. It looks at neither the year nor the fraction nor the offset, so that it makes timestamps that
are never written; and of the minutes of an offset it keeps what eight bits hold.

## Main definitions

* `TnsClient.Timestamp.saidYear`, `TnsClient.Timestamp.saidFraction`,
  `TnsClient.Timestamp.saidOffset?` — what octets say.
* `TnsClient.Timestamp.Accepted` — which octets are read.
* `TnsClient.Timestamp.SaidBy` — a timestamp is the one that octets say.

## Main results

* `TnsClient.Timestamp.decode_eq_ok_iff` — what reading comes to.
* `TnsClient.Timestamp.readAs_saidBy_iff` — when what is read is what the octets say.
* `TnsClient.Timestamp.readAs_inRange_iff` — when what is read is in range.
-/

namespace TnsClient.Timestamp

variable {value : Timestamp} {bytes rest : Bytes}

/-! ## What octets say -/

/-- The number at a position. -/
def saidAt (bytes : Bytes) (position : Nat) : Nat := (bytes.getD position 0).toNat

/-- The year: the century and the year of the century, each in excess of 100. -/
def saidYear (bytes : Bytes) : Int :=
  ((saidAt bytes 0 : Int) - 100) * 100 + saidAt bytes 1 - 100

/-- The fraction, in nanoseconds. -/
def saidFraction (bytes : Bytes) : Nat :=
  if bytes.length < fractionLength then 0 else beNat ((bytes.drop dateLength).take 4)

/-- The hours and the minutes of the offset, in excess of 20 and of 60. There is none if either
octet is zero or missing. -/
def saidOffset? (bytes : Bytes) : Option (Int × Int) :=
  if saidAt bytes 11 = 0 ∨ saidAt bytes 12 = 0 then none
  else some (saidAt bytes 11 - 20, saidAt bytes 12 - 60)

/-- Octets are read: there are 7 to 11 or 13 of them, the date and the time of day are in range, and
the offset is not a region. -/
structure Accepted (bytes : Bytes) : Prop where
  length : 7 ≤ bytes.length ∧ bytes.length ≤ 11 ∨ bytes.length = 13
  month : 1 ≤ saidAt bytes 2 ∧ saidAt bytes 2 ≤ 12
  day : 1 ≤ saidAt bytes 3 ∧ saidAt bytes 3 ≤ 31
  hour : 1 ≤ saidAt bytes 4 ∧ saidAt bytes 4 ≤ 24
  minute : 1 ≤ saidAt bytes 5 ∧ saidAt bytes 5 ≤ 60
  second : 1 ≤ saidAt bytes 6 ∧ saidAt bytes 6 ≤ 60
  region : saidAt bytes 11 < 128

/-- Every field of a timestamp is what the octets say, nothing being cut off. -/
structure SaidBy (value : Timestamp) (bytes : Bytes) : Prop where
  year : value.year = saidYear bytes
  month : value.month.toNat = saidAt bytes 2
  day : value.day.toNat = saidAt bytes 3
  hour : value.hour.toNat + 1 = saidAt bytes 4
  minute : value.minute.toNat + 1 = saidAt bytes 5
  second : value.second.toNat + 1 = saidAt bytes 6
  nanosecond : value.nanosecond.toNat = saidFraction bytes
  offset : value.offset.map (fun offset => (offset.hours.toInt, offset.minutes.toInt)) =
    saidOffset? bytes

/-- What the reader makes of octets. -/
def readAs (bytes : Bytes) : Timestamp where
  year := saidYear bytes
  month := bytes.getD 2 0
  day := bytes.getD 3 0
  hour := bytes.getD 4 0 - 1
  minute := bytes.getD 5 0 - 1
  second := bytes.getD 6 0 - 1
  nanosecond := UInt32.ofNat (saidFraction bytes)
  offset := (saidOffset? bytes).map fun (hours, minutes) =>
    ⟨Int8.ofInt hours, Int8.ofInt minutes⟩

/-! ## What reading comes to -/

lemma decodeOffset_eq (hours minutes : UInt8) :
    decodeOffset hours minutes =
      if hours.toNat < 128 then
        .ok (if hours.toNat = 0 ∨ minutes.toNat = 0 then none
          else some ⟨Int8.ofInt (hours.toNat - 20), Int8.ofInt (minutes.toNat - 60)⟩)
      else .error .namedRegion := by
  have hzero : ∀ octet : UInt8, octet ≠ 0 ↔ octet.toNat ≠ 0 := by
    intro octet
    rw [Ne, ← UInt8.toNat_inj]
    rfl
  unfold decodeOffset
  by_cases hregion : 128 ≤ hours.toNat
  · rw [if_pos ((and_topBit_ne_zero_iff hours).2 hregion), if_neg (Nat.not_lt.2 hregion)]
  · rw [if_neg (mt (and_topBit_ne_zero_iff hours).1 hregion), if_pos (Nat.lt_of_not_le hregion)]
    simp only [hzero]
    by_cases hnone : hours.toNat = 0 ∨ minutes.toNat = 0
    · rw [if_neg (by omega), if_pos hnone]
    · rw [if_pos (by omega), if_neg hnone]

/-- The offset behind the octets of a date, of which the first four are those of the fraction. -/
def offsetBehind (rest : Bytes) : Except Fault (Option UtcOffset) :=
  match rest.drop 4 with
  | [hours, minutes] => decodeOffset hours minutes
  | _ => .ok none

/-- Where an octet is missing there is no offset, as if it was zero. -/
lemma offsetBehind_eq (hlength : rest.length ≤ 4 ∨ rest.length = 6) :
    offsetBehind rest =
      if (rest.getD 4 0).toNat < 128 then
        .ok (if (rest.getD 4 0).toNat = 0 ∨ (rest.getD 5 0).toNat = 0 then none
          else some ⟨Int8.ofInt ((rest.getD 4 0).toNat - 20),
            Int8.ofInt ((rest.getD 5 0).toNat - 60)⟩)
      else .error .namedRegion := by
  unfold offsetBehind
  rcases hlength with hshort | hlong
  · rw [List.drop_eq_nil_of_le hshort, List.getD_eq_default _ _ hshort]
    rfl
  · obtain ⟨a, b, c, d, hours, minutes, rfl⟩ : ∃ a b c d hours minutes,
        rest = [a, b, c, d, hours, minutes] := by
      match rest, hlong with
      | [a, b, c, d, hours, minutes], _ => exact ⟨a, b, c, d, hours, minutes, rfl⟩
    exact decodeOffset_eq hours minutes

/-- What the reader makes of the fields of a date and of what stands behind them. -/
lemma readAs_cons (century year month day hour minute second : UInt8) (rest : Bytes) :
    readAs (century :: year :: month :: day :: hour :: minute :: second :: rest) = {
      year := ((century.toNat : Int) - 100) * 100 + year.toNat - 100
      month, day
      hour := hour - 1
      minute := minute - 1
      second := second - 1
      nanosecond := if rest.length < 4 then 0 else UInt32.ofNat (beNat (rest.take 4))
      offset := if (rest.getD 4 0).toNat = 0 ∨ (rest.getD 5 0).toNat = 0 then none
        else some ⟨Int8.ofInt ((rest.getD 4 0).toNat - 20),
          Int8.ofInt ((rest.getD 5 0).toNat - 60)⟩ } := by
  have hfraction :
      saidFraction (century :: year :: month :: day :: hour :: minute :: second :: rest) =
        if rest.length < 4 then 0 else beNat (rest.take 4) := by
    unfold saidFraction fractionLength
    have hlength : (century :: year :: month :: day :: hour :: minute :: second :: rest).length =
        rest.length + 7 := rfl
    rw [hlength]
    by_cases hshort : rest.length < 4
    · rw [if_pos (by omega), if_pos hshort]
    · rw [if_neg (by omega), if_neg hshort]
      rfl
  unfold readAs
  rw [hfraction, Timestamp.mk.injEq]
  refine ⟨rfl, rfl, rfl, rfl, rfl, rfl, ?_, ?_⟩
  · split_ifs <;> rfl
  · show Option.map _ (if (rest.getD 4 0).toNat = 0 ∨ (rest.getD 5 0).toNat = 0 then _ else _) = _
    split_ifs <;> rfl

/-- The check of the date. -/
lemma date_out_of_range_iff (month day : UInt8) :
    (month < 1 ∨ 12 < month ∨ day < 1 ∨ 31 < day) ↔
      ¬ ((1 ≤ month.toNat ∧ month.toNat ≤ 12) ∧ 1 ≤ day.toNat ∧ day.toNat ≤ 31) := by
  have hlimits : (1 : UInt8).toNat = 1 ∧ (12 : UInt8).toNat = 12 ∧ (31 : UInt8).toNat = 31 := by
    decide
  simp only [UInt8.lt_iff_toNat_lt, hlimits]
  omega

/-- The check of the time of day. -/
lemma time_out_of_range_iff (hour minute second : UInt8) :
    (hour < 1 ∨ 24 < hour ∨ minute < 1 ∨ 60 < minute ∨ second < 1 ∨ 60 < second) ↔
      ¬ ((1 ≤ hour.toNat ∧ hour.toNat ≤ 24) ∧ (1 ≤ minute.toNat ∧ minute.toNat ≤ 60) ∧
        1 ≤ second.toNat ∧ second.toNat ≤ 60) := by
  have hlimits : (1 : UInt8).toNat = 1 ∧ (24 : UInt8).toNat = 24 ∧ (60 : UInt8).toNat = 60 := by
    decide
  simp only [UInt8.lt_iff_toNat_lt, hlimits]
  omega

/-- **The checks of the reader**, one after the other. -/
lemma decode_cons (century year month day hour minute second : UInt8) (rest : Bytes) :
    decode (century :: year :: month :: day :: hour :: minute :: second :: rest) =
      if rest.length ≤ 4 ∨ rest.length = 6 then
        if (1 ≤ month.toNat ∧ month.toNat ≤ 12) ∧ 1 ≤ day.toNat ∧ day.toNat ≤ 31 then
          if (1 ≤ hour.toNat ∧ hour.toNat ≤ 24) ∧ (1 ≤ minute.toNat ∧ minute.toNat ≤ 60) ∧
              1 ≤ second.toNat ∧ second.toNat ≤ 60 then
            if (rest.getD 4 0).toNat < 128 then
              .ok (readAs (century :: year :: month :: day :: hour :: minute :: second :: rest))
            else .error .namedRegion
          else .error .noTimeOfDay
        else .error (.noDate month day)
      else .error (.length (rest.length + 7)) := by
  by_cases hlength : rest.length ≤ 4 ∨ rest.length = 6
  swap
  · unfold decode
    dsimp only
    rw [if_pos (by omega), if_neg hlength]
    rfl
  unfold decode
  dsimp only
  rw [if_neg (by omega), if_pos hlength]
  by_cases hdate : (1 ≤ month.toNat ∧ month.toNat ≤ 12) ∧ 1 ≤ day.toNat ∧ day.toNat ≤ 31
  swap
  · rw [if_pos ((date_out_of_range_iff month day).2 hdate), if_neg hdate]
    rfl
  rw [if_neg (mt (date_out_of_range_iff month day).1 (not_not.2 hdate)), if_pos hdate]
  by_cases htime : (1 ≤ hour.toNat ∧ hour.toNat ≤ 24) ∧
      (1 ≤ minute.toNat ∧ minute.toNat ≤ 60) ∧ 1 ≤ second.toNat ∧ second.toNat ≤ 60
  swap
  · rw [if_pos ((time_out_of_range_iff hour minute second).2 htime), if_neg htime]
    rfl
  rw [if_neg (mt (time_out_of_range_iff hour minute second).1 (not_not.2 htime)), if_pos htime,
    readAs_cons]
  -- what is left of the reader is the offset, and what is made of it
  have hbind : ∀ make : Option UtcOffset → Timestamp,
      (match rest.drop 4 with
        | [hours, minutes] => decodeOffset hours minutes >>= fun offset => pure (make offset)
        | _ => pure none >>= fun offset => pure (make offset)) =
      offsetBehind rest >>= fun offset => .ok (make offset) := by
    intro make
    unfold offsetBehind
    rcases rest.drop 4 with _ | ⟨hours, _ | ⟨minutes, _ | ⟨other, more⟩⟩⟩ <;> rfl
  refine (hbind _).trans ?_
  rw [offsetBehind_eq hlength]
  by_cases hregion : (rest.getD 4 0).toNat < 128
  · rw [if_pos hregion, if_pos hregion]
    rfl
  · rw [if_neg hregion, if_neg hregion]
    rfl

/-- Octets too few for a date are not read. -/
lemma decode_of_short (h : bytes.length < 7) : decode bytes = .error (.length bytes.length) := by
  match bytes, h with
  | [], _ | [_], _ | [_, _], _ | [_, _, _], _ | [_, _, _, _], _ | [_, _, _, _, _], _
  | [_, _, _, _, _, _], _ => rfl

lemma accepted_cons_iff {century year month day hour minute second : UInt8} :
    Accepted (century :: year :: month :: day :: hour :: minute :: second :: rest) ↔
      (rest.length ≤ 4 ∨ rest.length = 6) ∧
      ((1 ≤ month.toNat ∧ month.toNat ≤ 12) ∧ 1 ≤ day.toNat ∧ day.toNat ≤ 31) ∧
      ((1 ≤ hour.toNat ∧ hour.toNat ≤ 24) ∧ (1 ≤ minute.toNat ∧ minute.toNat ≤ 60) ∧
        1 ≤ second.toNat ∧ second.toNat ≤ 60) ∧ (rest.getD 4 0).toNat < 128 := by
  constructor
  · rintro ⟨hlength, hmonth, hday, hhour, hminute, hsecond, hregion⟩
    simp only [List.length_cons] at hlength
    exact ⟨by omega, ⟨hmonth, hday⟩, ⟨hhour, hminute, hsecond⟩, hregion⟩
  · rintro ⟨hlength, ⟨hmonth, hday⟩, ⟨hhour, hminute, hsecond⟩, hregion⟩
    refine ⟨?_, hmonth, hday, hhour, hminute, hsecond, hregion⟩
    simp only [List.length_cons]
    omega

/-- **What reading comes to.** -/
lemma decode_eq_ok_iff : decode bytes = .ok value ↔ Accepted bytes ∧ value = readAs bytes := by
  rcases Nat.lt_or_ge bytes.length 7 with hshort | hlong
  · rw [decode_of_short hshort]
    constructor
    · intro h
      cases h
    · rintro ⟨haccepted, -⟩
      have hlength := haccepted.length
      omega
  obtain ⟨century, year, month, day, hour, minute, second, rest, rfl⟩ :
      ∃ century year month day hour minute second rest,
        bytes = century :: year :: month :: day :: hour :: minute :: second :: rest := by
    match bytes, hlong with
    | century :: year :: month :: day :: hour :: minute :: second :: rest, _ =>
      exact ⟨century, year, month, day, hour, minute, second, rest, rfl⟩
  rw [decode_cons, accepted_cons_iff]
  generalize readAs _ = result
  split_ifs with hlength hdate htime hregion
  · rw [and_iff_right ⟨hlength, hdate, htime, hregion⟩, Except.ok.injEq]
    exact eq_comm
  · simp only [hregion, and_false, false_and]
  · simp only [htime, and_false, false_and]
  · simp only [hdate, and_false, false_and]
  · simp only [hlength, false_and]

/-! ## When what is read is what the octets say -/

/-- The bounds of an offset that is not a region. -/
lemma bounds_of_saidOffset? (h : Accepted bytes) {pair : Int × Int}
    (hpair : pair ∈ saidOffset? bytes) :
    (-19 ≤ pair.1 ∧ pair.1 ≤ 107) ∧ -59 ≤ pair.2 ∧ pair.2 ≤ 195 := by
  have hregion := h.region
  have hminutes : saidAt bytes 12 < 256 := UInt8.toNat_lt _
  unfold saidOffset? at hpair
  split_ifs at hpair with hnone
  · cases hpair
  · obtain rfl := Option.some.inj hpair
    dsimp only
    omega

/-- Eight bits hold the hours of an offset that is not a region. -/
lemma toInt_ofInt_hours {hours : Int} (hleast : -19 ≤ hours) (hgreatest : hours ≤ 107) :
    (Int8.ofInt hours).toInt = hours :=
  Int8.toInt_ofInt_of_le (by omega) (by omega)

/-- They hold its minutes up to 127, and leave out 256 of more. -/
lemma toInt_ofInt_minutes {minutes : Int} (hleast : -59 ≤ minutes) (hgreatest : minutes ≤ 195) :
    (Int8.ofInt minutes).toInt = if minutes ≤ 127 then minutes else minutes - 256 := by
  rw [Int8.toInt_ofInt, Int.bmod_def, show Int8.size = 256 from rfl]
  split_ifs <;> omega

lemma saidFraction_lt (bytes : Bytes) : saidFraction bytes < 2 ^ 32 := by
  unfold saidFraction
  split_ifs
  · decide
  · calc beNat ((bytes.drop dateLength).take 4)
        < 256 ^ ((bytes.drop dateLength).take 4).length := beNat_lt _
      _ ≤ 256 ^ 4 := Nat.pow_le_pow_right (by decide) (List.length_take_le _ _)
      _ = 2 ^ 32 := by decide

lemma readAs_nanosecond (bytes : Bytes) :
    (readAs bytes).nanosecond.toNat = saidFraction bytes := by
  apply UInt32.toNat_ofNat_of_lt'
  exact saidFraction_lt bytes

/-- One less than a number that is not zero. -/
lemma toNat_pred {field : UInt8} (h : 1 ≤ field.toNat) : (field - 1).toNat + 1 = field.toNat := by
  have hle : (1 : UInt8) ≤ field := UInt8.le_iff_toNat_le.2 h
  rw [UInt8.toNat_sub_of_le _ _ hle, UInt8.toNat_one]
  omega

/-- **What is read is what the octets say**, but for the minutes of an offset from 128 on. -/
lemma readAs_saidBy_iff (h : Accepted bytes) :
    (readAs bytes).SaidBy bytes ↔ ∀ pair ∈ saidOffset? bytes, pair.2 ≤ 127 := by
  have hoffset : (readAs bytes).offset.map
        (fun offset => (offset.hours.toInt, offset.minutes.toInt)) = saidOffset? bytes ↔
      ∀ pair ∈ saidOffset? bytes, pair.2 ≤ 127 := by
    unfold readAs
    rcases hsaid : saidOffset? bytes with _ | ⟨hours, minutes⟩
    · simp
    · obtain ⟨hhours, hminutes⟩ := bounds_of_saidOffset? h hsaid
      simp only [Option.map_some, Option.some.injEq, Prod.mk.injEq, Option.mem_def, forall_eq']
      rw [toInt_ofInt_hours hhours.1 hhours.2, toInt_ofInt_minutes hminutes.1 hminutes.2]
      constructor
      · rintro ⟨-, hkept⟩
        split_ifs at hkept <;> omega
      · intro hsmall
        exact ⟨rfl, if_pos hsmall⟩
  constructor
  · intro hsaid
    exact hoffset.1 hsaid.offset
  · intro hsmall
    exact ⟨rfl, rfl, rfl, toNat_pred h.hour.1, toNat_pred h.minute.1, toNat_pred h.second.1,
      readAs_nanosecond bytes, hoffset.2 hsmall⟩

/-- **What is read is in range** if, and only if, what the octets say of the year, the fraction and
the offset is. -/
lemma readAs_inRange_iff (h : Accepted bytes) :
    (readAs bytes).InRange ↔
      (-4712 ≤ saidYear bytes ∧ saidYear bytes ≤ 9999) ∧ saidFraction bytes < 10 ^ 9 ∧
        ∀ pair ∈ saidOffset? bytes, (-12 ≤ pair.1 ∧ pair.1 ≤ 14) ∧ -59 ≤ pair.2 ∧ pair.2 ≤ 59 := by
  have hoffset : (∀ offset ∈ (readAs bytes).offset,
        (-12 ≤ offset.hours.toInt ∧ offset.hours.toInt ≤ 14) ∧
          -59 ≤ offset.minutes.toInt ∧ offset.minutes.toInt ≤ 59) ↔
      ∀ pair ∈ saidOffset? bytes, (-12 ≤ pair.1 ∧ pair.1 ≤ 14) ∧ -59 ≤ pair.2 ∧ pair.2 ≤ 59 := by
    unfold readAs
    rcases hsaid : saidOffset? bytes with _ | ⟨hours, minutes⟩
    · simp
    · obtain ⟨hhours, hminutes⟩ := bounds_of_saidOffset? h hsaid
      simp only [Option.map_some, Option.mem_def, Option.some.injEq, forall_eq']
      rw [toInt_ofInt_hours hhours.1 hhours.2, toInt_ofInt_minutes hminutes.1 hminutes.2]
      split_ifs <;> omega
  have hhour := toNat_pred h.hour.1
  have hminute := toNat_pred h.minute.1
  have hsecond := toNat_pred h.second.1
  constructor
  · intro hrange
    exact ⟨hrange.year, readAs_nanosecond bytes ▸ hrange.nanosecond, hoffset.1 hrange.offset⟩
  · rintro ⟨hyear, hfraction, hzone⟩
    refine ⟨hyear, h.month, h.day, ?_, ?_, ?_, ?_, hoffset.2 hzone⟩
    · have hgreatest := h.hour.2
      show (bytes.getD 4 0 - 1).toNat ≤ 23
      unfold saidAt at hgreatest
      omega
    · have hgreatest := h.minute.2
      show (bytes.getD 5 0 - 1).toNat ≤ 59
      unfold saidAt at hgreatest
      omega
    · have hgreatest := h.second.2
      show (bytes.getD 6 0 - 1).toNat ≤ 59
      unfold saidAt at hgreatest
      omega
    · rwa [readAs_nanosecond]

end TnsClient.Timestamp
