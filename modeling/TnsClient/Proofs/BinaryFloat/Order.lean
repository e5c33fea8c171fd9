import Mathlib.Data.Nat.Bitwise
import TnsClient.Column.Conversion
import TnsClient.Proofs.Wire.Form

set_option autoImplicit false

/-!
# Binary floating-point values in order

The server compares the octets of BINARY_DOUBLE and BINARY_FLOAT columns without looking into them.
So their octets are not the bit patterns, but the places that the patterns have in the order of sign
and magnitude: from the negative pattern of the greatest magnitude up to negative zero, and from zero
up to the positive pattern of the greatest magnitude. A pattern is one of a row of `2 * half`, where
the second half of the row is negative, and nothing else about floating-point formats matters here.

## Main definitions

* `TnsClient.SignMagnitude`, `TnsClient.SignMagnitude.Before` — a sign with a magnitude, and the
  order in which they stand.
* `TnsClient.SignMagnitude.place`, `TnsClient.SignMagnitude.patternAt` — the place of a pattern, and
  the pattern at a place.
* `TnsClient.Sortable` — octets of a fixed number stand for values, each for one, in their order.

## Main results

* `TnsClient.lt_iff_beNat_lt` — octets of the same number compare as the numbers that they denote.
* `TnsClient.SignMagnitude.place_lt_place_iff` — places compare as sign and magnitude.
* `TnsClient.sortable_binary` — the octets of both formats are sortable.
-/

namespace TnsClient

/-! ## Octets of the same number -/

lemma beNat_cons (octet : UInt8) (octets : Bytes) :
    beNat (octet :: octets) = octet.toNat * 256 ^ octets.length + beNat octets := by
  have hfold : ∀ start, octets.foldl (fun value octet => 256 * value + octet.toNat) start =
      start * 256 ^ octets.length + beNat octets := by
    induction octets with
    | nil => simp [beNat]
    | cons next rest ih =>
      intro start
      have hnext : beNat (next :: rest) = next.toNat * 256 ^ rest.length + beNat rest := by
        simpa [beNat] using ih next.toNat
      rw [List.foldl_cons, ih, hnext, List.length_cons, pow_succ]
      ring
  simpa [beNat] using hfold octet.toNat

/-- **Octets of the same number** compare, from the first one on, as the numbers that they denote. -/
lemma lt_iff_beNat_lt {octets others : Bytes} (h : octets.length = others.length) :
    octets < others ↔ beNat octets < beNat others := by
  induction octets generalizing others with
  | nil =>
    obtain rfl := List.eq_nil_of_length_eq_zero h.symm
    simp
  | cons octet rest ih =>
    rcases others with _ | ⟨other, more⟩
    · simp at h
    · have hlength : rest.length = more.length := by simpa using h
      have hrest := beNat_lt rest
      have hmore := beNat_lt more
      rw [← hlength] at hmore
      rw [List.cons_lt_cons_iff, ih hlength, beNat_cons, beNat_cons, ← hlength,
        UInt8.lt_iff_toNat_lt, ← UInt8.toNat_inj]
      -- what stands behind the first octet is less than one unit of it
      generalize 256 ^ rest.length = unit at hrest hmore ⊢
      rcases lt_trichotomy octet.toNat other.toNat with hlt | heq | hgt
      · have hunit : (octet.toNat + 1) * unit ≤ other.toNat * unit := Nat.mul_le_mul_right unit hlt
        rw [Nat.add_mul, Nat.one_mul] at hunit
        exact iff_of_true (.inl hlt) (by omega)
      · rw [heq]
        simp
      · have hunit : (other.toNat + 1) * unit ≤ octet.toNat * unit := Nat.mul_le_mul_right unit hgt
        rw [Nat.add_mul, Nat.one_mul] at hunit
        exact iff_of_false (by omega) (by omega)

/-- So they are told apart by these numbers. -/
lemma eq_of_beNat_eq {octets others : Bytes} (hlength : octets.length = others.length)
    (h : beNat octets = beNat others) : octets = others := by
  have hnot : ¬octets < others := by rw [lt_iff_beNat_lt hlength, h]; exact lt_irrefl _
  have hnot' : ¬others < octets := by rw [lt_iff_beNat_lt hlength.symm, h]; exact lt_irrefl _
  exact List.le_antisymm (List.not_lt.1 hnot') (List.not_lt.1 hnot)

/-! ## Sign and magnitude -/

/-- A sign with a magnitude. -/
structure SignMagnitude where
  /-- Whether the sign is that of negative values. -/
  negative : Bool
  /-- The magnitude. -/
  magnitude : Nat
  deriving DecidableEq, Repr

namespace SignMagnitude

/-- **The order of sign and magnitude**: negative ones by decreasing magnitude, and then all others
by increasing magnitude. -/
inductive Before : SignMagnitude → SignMagnitude → Prop
  /-- Among negative ones the greater magnitude comes first. -/
  | negative {one other : Nat} (h : other < one) : Before ⟨true, one⟩ ⟨true, other⟩
  /-- Negative ones come before all others. -/
  | across (one other : Nat) : Before ⟨true, one⟩ ⟨false, other⟩
  /-- Among the others the smaller magnitude comes first. -/
  | positive {one other : Nat} (h : one < other) : Before ⟨false, one⟩ ⟨false, other⟩

/-- The sign and the magnitude of one of `2 * half` patterns, of which the second half is
negative. -/
def ofPattern (half pattern : Nat) : SignMagnitude := ⟨decide (half ≤ pattern), pattern % half⟩

/-- The place of a pattern in the order of sign and magnitude. -/
def place (half pattern : Nat) : Nat :=
  if pattern < half then half + pattern else 2 * half - 1 - pattern

/-- The pattern at a place. -/
def patternAt (half place : Nat) : Nat :=
  if place < half then 2 * half - 1 - place else place - half

variable {half : Nat}

lemma ofPattern_of_lt {pattern : Nat} (h : pattern < half) :
    ofPattern half pattern = ⟨false, pattern⟩ := by
  simp [ofPattern, Nat.mod_eq_of_lt h, h]

lemma ofPattern_of_le {pattern : Nat} (h : half ≤ pattern) (hlt : pattern < 2 * half) :
    ofPattern half pattern = ⟨true, pattern - half⟩ := by
  have hmod : pattern % half = pattern - half := by
    rw [Nat.mod_eq_sub_mod h, Nat.mod_eq_of_lt (by omega)]
  simp [ofPattern, hmod, h]

lemma place_lt {pattern : Nat} (h : pattern < 2 * half) : place half pattern < 2 * half := by
  unfold place
  split_ifs <;> omega

lemma patternAt_lt {place : Nat} (h : place < 2 * half) : patternAt half place < 2 * half := by
  unfold patternAt
  split_ifs <;> omega

/-- The pattern at the place of a pattern is this one. -/
lemma patternAt_place {pattern : Nat} (h : pattern < 2 * half) :
    patternAt half (place half pattern) = pattern := by
  unfold patternAt place
  split_ifs <;> omega

/-- The place of the pattern at a place is this one. -/
lemma place_patternAt {spot : Nat} (h : spot < 2 * half) :
    place half (patternAt half spot) = spot := by
  unfold patternAt place
  split_ifs <;> omega

/-- **Places compare as sign and magnitude.** -/
lemma place_lt_place_iff {one other : Nat} (hone : one < 2 * half) (hother : other < 2 * half) :
    place half one < place half other ↔ (ofPattern half one).Before (ofPattern half other) := by
  unfold place
  rcases Nat.lt_or_ge one half with hone' | hone' <;>
    rcases Nat.lt_or_ge other half with hother' | hother'
  · rw [ofPattern_of_lt hone', ofPattern_of_lt hother', if_pos hone', if_pos hother']
    constructor
    · intro h
      exact .positive (by omega)
    · rintro ⟨h⟩
      omega
  · rw [ofPattern_of_lt hone', ofPattern_of_le hother' hother, if_pos hone', if_neg (by omega)]
    exact iff_of_false (by omega) (fun h => by cases h)
  · rw [ofPattern_of_le hone' hone, ofPattern_of_lt hother', if_neg (by omega), if_pos hother']
    exact iff_of_true (by omega) (.across _ _)
  · rw [ofPattern_of_le hone' hone, ofPattern_of_le hother' hother, if_neg (by omega),
      if_neg (by omega)]
    constructor
    · intro h
      exact .negative (by omega)
    · rintro ⟨h⟩
      omega

end SignMagnitude

/-! ## Sortable octets -/

/-- **Octets of a fixed number stand for values, each for one, in their order**: a value is read from
its own octets; all octets of this number are those of the value that is read from them; they compare
as sign and magnitude of the values; and no others are read. -/
structure Sortable {α : Type} (width : Nat) (format : String) (encode : α → Bytes)
    (decode : Bytes → Except ConversionError α) (parts : α → SignMagnitude) : Prop where
  readBack (value : α) : decode (encode value) = .ok value
  onto (octets : Bytes) (h : octets.length = width) :
    ∃ value, decode octets = .ok value ∧ encode value = octets
  order (one other : α) : encode one < encode other ↔ (parts one).Before (parts other)
  others (octets : Bytes) (h : octets.length ≠ width) :
    decode octets = .error (.width width format)

/-- The values of a binary format by their patterns, of which there are `2 * half`. -/
structure Patterned (α : Type) (half : Nat) where
  /-- The pattern of a value. -/
  pattern : α → Nat
  /-- The value of a pattern. -/
  ofPattern : Nat → α
  pattern_lt (value : α) : pattern value < 2 * half
  ofPattern_pattern (value : α) : ofPattern (pattern value) = value
  pattern_ofPattern {number : Nat} (h : number < 2 * half) : pattern (ofPattern number) = number

open SignMagnitude in
/-- **Places are sortable.** If the octets of a value are the place of its pattern, and the value that
is read is that of the pattern at the place, then the octets are sortable.

**Proof sketch.** Places and patterns are as many, and stand for each other. Octets of the same number
compare as numbers, and places compare as sign and magnitude. -/
lemma sortable_of_place {α : Type} {width half : Nat} {format : String} {encode : α → Bytes}
    {decode : Bytes → Except ConversionError α} (hhalf : 2 * half = 256 ^ width)
    (patterned : Patterned α half)
    (hencode : ∀ value, encode value = beBytes width (place half (patterned.pattern value)))
    (hdecode : ∀ octets, decode octets =
      if octets.length = width then .ok (patterned.ofPattern (patternAt half (beNat octets)))
      else .error (.width width format)) :
    Sortable width format encode decode fun value => .ofPattern half (patterned.pattern value) := by
  have hlength : ∀ value, (encode value).length = width := fun value => by
    rw [hencode, length_beBytes]
  have hplace : ∀ value, beNat (encode value) = place half (patterned.pattern value) := by
    intro value
    rw [hencode, beNat_beBytes]
    have hlt := place_lt (patterned.pattern_lt value)
    rwa [hhalf, show 256 = 2 ^ 8 from rfl, ← pow_mul, ← Nat.one_shiftLeft] at hlt
  constructor
  · intro value
    rw [hdecode, if_pos (hlength value), hplace, patternAt_place (patterned.pattern_lt value),
      patterned.ofPattern_pattern]
  · intro octets h
    have hlt : beNat octets < 2 * half := by
      rw [hhalf, ← h]
      exact beNat_lt octets
    refine ⟨_, by rw [hdecode, if_pos h], eq_of_beNat_eq ((hlength _).trans h.symm) ?_⟩
    rw [hplace, patterned.pattern_ofPattern (patternAt_lt hlt), place_patternAt hlt]
  · intro one other
    rw [lt_iff_beNat_lt ((hlength one).trans (hlength other).symm), hplace, hplace,
      place_lt_place_iff (patterned.pattern_lt one) (patterned.pattern_lt other)]
  · intro octets h
    rw [hdecode, if_neg h]

/-! ## The bit of the sign -/

section SignBit

variable {bits number : Nat}

lemma div_two_pow (h : 2 ^ bits ≤ number) (hlt : number < 2 ^ (bits + 1)) :
    number / 2 ^ bits = 1 := by
  rw [pow_succ] at hlt
  exact Nat.div_eq_of_lt_le (by omega) (by omega)

/-- The top bit is clear in the first half of all numbers. -/
lemma and_two_pow_eq_zero_iff (h : number < 2 ^ (bits + 1)) :
    number &&& 2 ^ bits = 0 ↔ number < 2 ^ bits := by
  rw [Nat.and_two_pow, Nat.testBit_eq_decide_div_mod_eq]
  rcases Nat.lt_or_ge number (2 ^ bits) with hlt | hge
  · simp [Nat.div_eq_of_lt hlt, hlt]
  · simp [div_two_pow hge h, hge]

lemma or_two_pow (h : number < 2 ^ bits) : number ||| 2 ^ bits = 2 ^ bits + number := by
  have hor := Nat.two_pow_add_eq_or_of_lt h 1
  rw [Nat.mul_one] at hor
  rw [hor, Nat.or_comm]

lemma xor_two_pow (h : 2 ^ bits ≤ number) (hlt : number < 2 ^ (bits + 1)) :
    number ^^^ 2 ^ bits = number - 2 ^ bits := by
  have hhigh : (number ^^^ 2 ^ bits) / 2 ^ bits = 0 := by
    rw [Nat.xor_div_two_pow, div_two_pow h hlt, Nat.div_self (Nat.two_pow_pos bits)]
    rfl
  have hlow : (number ^^^ 2 ^ bits) % 2 ^ bits = number - 2 ^ bits := by
    rw [pow_succ] at hlt
    rw [Nat.xor_mod_two_pow, Nat.mod_self, Nat.xor_zero, Nat.mod_eq_sub_mod h,
      Nat.mod_eq_of_lt (by omega)]
  rw [← Nat.div_add_mod (number ^^^ 2 ^ bits) (2 ^ bits), hhigh, hlow]
  simp

open SignMagnitude

/-- The place of a pattern: the bit of the sign is set where it is clear, and all bits are turned where
it is set. -/
lemma place_eq_ite (h : number < 2 ^ (bits + 1)) :
    place (2 ^ bits) number =
      if number &&& 2 ^ bits = 0 then number ||| 2 ^ bits else 2 ^ (bits + 1) - 1 - number := by
  unfold place
  simp only [and_two_pow_eq_zero_iff h]
  split_ifs with hlt
  · exact (or_two_pow hlt).symm
  · rw [pow_succ, Nat.mul_comm]

/-- The pattern at a place: all bits are turned where the bit of the sign is clear, and this bit is
cleared where it is set. -/
lemma patternAt_eq_ite (h : number < 2 ^ (bits + 1)) :
    patternAt (2 ^ bits) number =
      if number &&& 2 ^ bits = 0 then 2 ^ (bits + 1) - 1 - number else number ^^^ 2 ^ bits := by
  unfold patternAt
  simp only [and_two_pow_eq_zero_iff h]
  split_ifs with hlt
  · rw [pow_succ, Nat.mul_comm]
  · exact (xor_two_pow (Nat.not_lt.1 hlt) h).symm

end SignBit

open SignMagnitude

/-! ## Both formats -/

namespace Binary64

/-- Values by their patterns. -/
def patterned : Patterned Binary64 (2 ^ 63) where
  pattern value := value.bits.toNat
  ofPattern number := ⟨UInt64.ofNat number⟩
  pattern_lt value := value.bits.toNat_lt
  ofPattern_pattern _ := congrArg mk UInt64.ofNat_toNat
  pattern_ofPattern h := UInt64.toNat_ofNat_of_lt' h

/-- The sign and the magnitude of a value. -/
def parts (value : Binary64) : SignMagnitude := .ofPattern (2 ^ 63) value.bits.toNat

lemma and_signBit_eq_zero_iff (word : UInt64) :
    word &&& signBit = 0 ↔ word.toNat &&& 2 ^ 63 = 0 := by
  rw [← UInt64.toNat_inj, UInt64.toNat_and]
  rfl

/-- The octets of a value are the place of its pattern. -/
lemma encode_eq_place (value : Binary64) :
    value.encode = beBytes 8 (place (2 ^ 63) (patterned.pattern value)) := by
  have hlt : patterned.pattern value < 2 ^ (63 + 1) := value.bits.toNat_lt
  rw [encode, beBytes64, place_eq_ite hlt, apply_ite UInt64.toNat, UInt64.toNat_or, UInt64.toNat_not]
  simp only [and_signBit_eq_zero_iff]
  rfl

/-- The value that is read is that of the pattern at the place. -/
lemma decode_eq_patternAt (octets : Bytes) :
    decodeBinary64 octets =
      if octets.length = 8 then .ok (patterned.ofPattern (patternAt (2 ^ 63) (beNat octets)))
      else .error (.width 8 "BINARY_DOUBLE") := by
  unfold decodeBinary64 decode?
  split_ifs with hlength
  swap
  · rfl
  · have hlt : beNat octets < 2 ^ (63 + 1) := by simpa [hlength] using beNat_lt octets
    have hword : (UInt64.ofNat (beNat octets)).toNat = beNat octets := UInt64.toNat_ofNat_of_lt' hlt
    refine congrArg (fun word => Except.ok (Binary64.mk word)) (UInt64.toNat_inj.1 ?_)
    rw [apply_ite UInt64.toNat, UInt64.toNat_not, UInt64.toNat_xor, hword]
    simp only [and_signBit_eq_zero_iff, hword]
    exact (patternAt_eq_ite hlt).symm.trans (patterned.pattern_ofPattern (patternAt_lt hlt)).symm

end Binary64

namespace Binary32

/-- Values by their patterns. -/
def patterned : Patterned Binary32 (2 ^ 31) where
  pattern value := value.bits.toNat
  ofPattern number := ⟨UInt32.ofNat number⟩
  pattern_lt value := value.bits.toNat_lt
  ofPattern_pattern _ := congrArg mk UInt32.ofNat_toNat
  pattern_ofPattern h := UInt32.toNat_ofNat_of_lt' h

/-- The sign and the magnitude of a value. -/
def parts (value : Binary32) : SignMagnitude := .ofPattern (2 ^ 31) value.bits.toNat

lemma and_signBit_eq_zero_iff (word : UInt32) :
    word &&& signBit = 0 ↔ word.toNat &&& 2 ^ 31 = 0 := by
  rw [← UInt32.toNat_inj, UInt32.toNat_and]
  rfl

/-- The octets of a value are the place of its pattern. -/
lemma encode_eq_place (value : Binary32) :
    value.encode = beBytes 4 (place (2 ^ 31) (patterned.pattern value)) := by
  have hlt : patterned.pattern value < 2 ^ (31 + 1) := value.bits.toNat_lt
  rw [encode, beBytes32, place_eq_ite hlt, apply_ite UInt32.toNat, UInt32.toNat_or, UInt32.toNat_not]
  simp only [and_signBit_eq_zero_iff]
  rfl

/-- The value that is read is that of the pattern at the place. -/
lemma decode_eq_patternAt (octets : Bytes) :
    decodeBinary32 octets =
      if octets.length = 4 then .ok (patterned.ofPattern (patternAt (2 ^ 31) (beNat octets)))
      else .error (.width 4 "BINARY_FLOAT") := by
  unfold decodeBinary32 decode?
  split_ifs with hlength
  swap
  · rfl
  · have hlt : beNat octets < 2 ^ (31 + 1) := by simpa [hlength] using beNat_lt octets
    have hword : (UInt32.ofNat (beNat octets)).toNat = beNat octets := UInt32.toNat_ofNat_of_lt' hlt
    refine congrArg (fun word => Except.ok (Binary32.mk word)) (UInt32.toNat_inj.1 ?_)
    rw [apply_ite UInt32.toNat, UInt32.toNat_not, UInt32.toNat_xor, hword]
    simp only [and_signBit_eq_zero_iff, hword]
    exact (patternAt_eq_ite hlt).symm.trans (patterned.pattern_ofPattern (patternAt_lt hlt)).symm

end Binary32

/-- **The octets of both formats are sortable.** For BINARY_DOUBLE, whose patterns have 64 bits, and
for BINARY_FLOAT, whose patterns have 32:

* a value is read from its own octets, bit by bit;
* all octets of the right number, 8 or 4, are those of the value that is read from them;
* octets compare, without signs and from the first one on, as sign and magnitude of the values:
  negative patterns by decreasing magnitude, and then the others by increasing magnitude;
* octets of any other number are not read.

**Proof sketch.** Setting the top bit of a pattern without a sign, and turning all bits of one with it,
gives its place in the order; and the top bit of a place tells which of the two it was. -/
theorem sortable_binary :
    Sortable 8 "BINARY_DOUBLE" Binary64.encode decodeBinary64 Binary64.parts ∧
      Sortable 4 "BINARY_FLOAT" Binary32.encode decodeBinary32 Binary32.parts :=
  ⟨sortable_of_place rfl Binary64.patterned Binary64.encode_eq_place Binary64.decode_eq_patternAt,
    sortable_of_place rfl Binary32.patterned Binary32.encode_eq_place Binary32.decode_eq_patternAt⟩

/-- Negative zero comes right before zero. -/
example : (⟨0x8000000000000000⟩ : Binary64).encode = [127, 255, 255, 255, 255, 255, 255, 255] ∧
    (⟨0⟩ : Binary64).encode = [128, 0, 0, 0, 0, 0, 0, 0] := by
  decide

end TnsClient
