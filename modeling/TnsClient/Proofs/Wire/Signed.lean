import TnsClient.Proofs.Wire.Form

set_option autoImplicit false

/-!
# Signed integers on the wire

A signed integer announces its sign and the number of octets of its magnitude, and then come these.
A reader compares the number of octets with the width of its type, and the magnitude with what 64
bits hold, whatever its own width is. So a magnitude that has no more octets than the type, but
more bits than the type has beside its sign, is not rejected, and what is read is another integer.

## Main definitions

* `TnsClient.Announced` — the sign and the octets that a signed integer announces.
* `TnsClient.signedValue` — the integer that these denote.
* `TnsClient.Decode.readSigned` — the integer that the reader of a width yields.

## Main results

* `TnsClient.Decode.signed_cons` — what reading comes to.
* `TnsClient.Decode.readSigned_exact_iff` — exactly when the integer that is read is the one
  announced.
* `TnsClient.Decode.sb2_wraps` — 32768 is announced, and -32768 is read.
-/

namespace TnsClient

/-- A signed integer announces a sign and the octets of a magnitude, in front of a rest. -/
structure Announced (input : Bytes) (negative : Bool) (octets rest : Bytes) : Prop where
  length_lt : octets.length < 128
  input_eq :
    input = UInt8.ofNat ((if negative then 128 else 0) + octets.length) :: (octets ++ rest)

/-- The integer that a sign and the octets of a magnitude denote. -/
def signedValue (negative : Bool) (octets : Bytes) : Int :=
  if negative then -(beNat octets : Int) else beNat octets

/-- An integer is one of the type of a width. -/
def Width.Holds (width : Width) (n : Int) : Prop :=
  -2 ^ (8 * width.octets - 1) ≤ n ∧ n < 2 ^ (8 * width.octets - 1)

/-- The integers of a type are those that keep their value when cut to it. -/
lemma Width.bmod_eq_self_iff (width : Width) (n : Int) :
    n.bmod (2 ^ (8 * width.octets)) = n ↔ width.Holds n := by
  have hpos : 0 < 2 ^ (8 * width.octets) := by positivity
  have hlow := Int.le_bmod (x := n) hpos
  have hhigh := Int.bmod_lt (x := n) hpos
  have hself := @Int.bmod_eq_of_le_mul_two n (2 ^ (8 * width.octets))
  unfold Width.Holds
  cases width <;> simp only [Width.octets, Nat.reduceMul, Nat.reduceSub, Nat.reducePow,
    Int.reducePow, Nat.cast_ofNat] at * <;> omega

namespace Announced

variable {head : UInt8} {tail : Bytes} {negative : Bool} {octets rest : Bytes}

/-- What an octet and those behind it announce. -/
lemma cons (hlength : head.toNat % 128 ≤ tail.length) :
    Announced (head :: tail) (decide (128 ≤ head.toNat)) (tail.take (head.toNat % 128))
      (tail.drop (head.toNat % 128)) := by
  have hlt := head.toNat_lt
  have htake : (tail.take (head.toNat % 128)).length = head.toNat % 128 :=
    List.length_take_of_le hlength
  have hhead : (if decide (128 ≤ head.toNat) = true then 128 else 0) + head.toNat % 128 =
      head.toNat := by
    simp only [decide_eq_true_eq]
    split_ifs <;> omega
  refine ⟨by rw [htake]; omega, ?_⟩
  rw [htake, hhead, UInt8.ofNat_toNat, List.take_append_drop]

/-- Nothing else is announced. -/
lemma eq_of_cons (h : Announced (head :: tail) negative octets rest) :
    head.toNat % 128 = octets.length ∧ decide (128 ≤ head.toNat) = negative ∧
      tail = octets ++ rest := by
  obtain ⟨hhead, htail⟩ := List.cons.inj h.input_eq
  have hlt := h.length_lt
  have hnat : head.toNat = (if negative then 128 else 0) + octets.length := by
    rw [hhead]
    refine UInt8.toNat_ofNat_of_lt' (show _ < 256 from ?_)
    split_ifs <;> omega
  refine ⟨?_, ?_, htail⟩
  · cases negative <;> simp only [if_true, Bool.false_eq_true, if_false] at hnat <;> omega
  · cases negative <;>
      simp only [if_true, Bool.false_eq_true, if_false, decide_eq_true_eq, decide_eq_false_iff_not]
        at hnat ⊢ <;> omega

end Announced

namespace Decode

/-- The integer that the reader of a width yields. -/
def readSigned : Width → Decode Int
  | .two => do return (← sb2).toInt
  | .four => do return (← sb4).toInt
  | .eight => do return (← sb8).toInt

/-- The octets of a magnitude are read if they are allowed and if they are there. -/
lemma magnitude_eq (width : Width) (allowed : Bool) (length : Nat) (input : Bytes) :
    magnitude width allowed length input =
      if allowed then
        if input.length < length then .error (.expectedAtLeast length input.length)
        else .ok (beNat (input.take length), input.drop length)
      else .error (.corruptLength length width.octets) := by
  have hshort : (input.take length).length < length ↔ input.length < length := by
    rw [List.length_take]
    omega
  unfold magnitude
  split_ifs with hallowed hlength
  · exact bind_of_error (if_pos (hshort.2 hlength))
  · exact bind_of_ok (if_neg fun h => hlength (hshort.1 h))
  · rfl

/-- **What reading comes to**: the number of octets is compared with the width, and the magnitude
with `2 ^ 63`. -/
lemma signed_cons (width : Width) (head : UInt8) (tail : Bytes) :
    signed width (head :: tail) =
      if head.toNat % 128 ≤ width.octets then
        if tail.length < head.toNat % 128 then
          .error (.expectedAtLeast (head.toNat % 128) tail.length)
        else if beNat (tail.take (head.toNat % 128)) < 0x8000000000000000 then
          .ok (signedValue (decide (128 ≤ head.toNat)) (tail.take (head.toNat % 128)),
            tail.drop (head.toNat % 128))
        else .error (.corruptLength (head.toNat % 128) width.octets)
      else .error (.corruptLength (head.toNat % 128) width.octets) := by
  have hmagnitude := magnitude_eq width (decide (head.toNat % 128 ≤ width.octets))
    (head.toNat % 128) tail
  simp only [decide_eq_true_eq] at hmagnitude
  unfold signed
  rw [bind_of_ok (u8_cons head tail), toNat_and_lowBits]
  by_cases hwide : head.toNat % 128 ≤ width.octets
  · by_cases hshort : tail.length < head.toNat % 128
    · rw [if_pos hwide, if_pos hshort] at hmagnitude ⊢
      exact bind_of_error hmagnitude
    · rw [if_pos hwide, if_neg hshort] at hmagnitude ⊢
      rw [bind_of_ok hmagnitude]
      simp only [signedValue, decide_eq_true_eq, ← and_topBit_ne_zero_iff]
      split_ifs <;> rfl
  · rw [if_neg hwide] at hmagnitude ⊢
    exact bind_of_error hmagnitude

/-- A reader yields the low-order bits of the integer. -/
lemma readSigned_eq (width : Width) :
    readSigned width = do return (← signed width).bmod (2 ^ (8 * width.octets)) := by
  cases width with
  | two => simp [readSigned, sb2, Width.octets]
  | four => simp [readSigned, sb4, Width.octets]
  | eight => simp [readSigned, sb8, Width.octets]

/-- **What a reader makes of what is announced.** -/
lemma readSigned_of_announced {width : Width} {input octets rest : Bytes} {negative : Bool}
    (h : Announced input negative octets rest) (hlength : octets.length ≤ width.octets) :
    readSigned width input =
      if beNat octets < 0x8000000000000000 then
        .ok ((signedValue negative octets).bmod (2 ^ (8 * width.octets)), rest)
      else .error (.corruptLength octets.length width.octets) := by
  obtain ⟨head, tail, rfl⟩ : ∃ head tail, input = head :: tail := ⟨_, _, h.input_eq⟩
  obtain ⟨hcount, hsign, rfl⟩ := h.eq_of_cons
  have hsigned := signed_cons width head (octets ++ rest)
  rw [hcount, hsign, List.take_left, List.drop_left, if_pos hlength,
    if_neg (by rw [List.length_append]; omega)] at hsigned
  rw [readSigned_eq]
  split_ifs with hsmall
  · rw [if_pos hsmall] at hsigned
    exact bind_of_ok hsigned
  · rw [if_neg hsmall] at hsigned
    exact bind_of_error hsigned

/-- What is read was announced, and is not too long. -/
lemma announced_of_readSigned {width : Width} {input rest : Bytes} {n : Int}
    (h : readSigned width input = .ok (n, rest)) :
    ∃ negative octets, Announced input negative octets rest ∧ octets.length ≤ width.octets := by
  rw [readSigned_eq] at h
  obtain ⟨value, left, hsigned, hpure⟩ := bind_eq_ok_iff.1 h
  obtain ⟨-, rfl⟩ := Prod.mk.inj (Except.ok.inj hpure)
  rcases input with _ | ⟨head, tail⟩
  · cases hsigned
  · rw [signed_cons] at hsigned
    split_ifs at hsigned with hwide hshort hlarge
    obtain ⟨-, rfl⟩ := Prod.mk.inj (Except.ok.inj hsigned)
    exact ⟨_, _, .cons (by omega), (List.length_take_le _ _).trans hwide⟩

/-- What is read are the low-order bits of what is announced. -/
lemma readSigned_eq_ok_iff {width : Width} {input rest : Bytes} {n : Int} :
    readSigned width input = .ok (n, rest) ↔
      ∃ negative octets, Announced input negative octets rest ∧ octets.length ≤ width.octets ∧
        beNat octets < 0x8000000000000000 ∧
        n = (signedValue negative octets).bmod (2 ^ (8 * width.octets)) := by
  constructor
  · intro h
    obtain ⟨negative, octets, hannounced, hlength⟩ := announced_of_readSigned h
    rw [readSigned_of_announced hannounced hlength] at h
    split_ifs at h with hsmall
    obtain ⟨rfl, -⟩ := Prod.mk.inj (Except.ok.inj h)
    exact ⟨negative, octets, hannounced, hlength, hsmall, rfl⟩
  · rintro ⟨negative, octets, h, hlength, hsmall, rfl⟩
    rw [readSigned_of_announced h hlength, if_pos hsmall]

/-- The widest type holds what the reader takes. -/
lemma eight_holds {negative : Bool} {octets : Bytes} (h : beNat octets < 0x8000000000000000) :
    Width.eight.Holds (signedValue negative octets) := by
  unfold signedValue Width.Holds
  simp only [Width.octets, Nat.reduceMul, Nat.reduceSub, Int.reducePow]
  split_ifs <;> omega

/-- The octets that the narrower types have say less than `2 ^ 63`. -/
lemma beNat_lt_of_ne_eight {width : Width} {octets : Bytes} (hwidth : width ≠ .eight)
    (hlength : octets.length ≤ width.octets) : beNat octets < 0x8000000000000000 := by
  have hfour : octets.length ≤ 4 := by
    cases width with
    | two => exact hlength.trans (by decide)
    | four => exact hlength
    | eight => exact absurd rfl hwidth
  calc beNat octets < 256 ^ octets.length := beNat_lt octets
    _ ≤ 256 ^ 4 := Nat.pow_le_pow_right (by decide) hfour
    _ < 0x8000000000000000 := by decide

/-- **Exactly when the integer that is read is the one announced.** What is read is what the
low-order bits of the announced integer say. This is the announced integer if, and only if, the type
holds it; and it is rejected only from `2 ^ 63` on, which no type but the widest has enough octets
to announce, so that what the widest type reads is always what was announced.

**Proof sketch.** `signed_cons` tells what is compared with what. A reader keeps the low-order bits
of the result (`readSigned_eq_ok_iff`), which are the whole integer just for the integers of the
type (`Width.bmod_eq_self_iff`). -/
theorem readSigned_exact_iff (width : Width) (input : Bytes) :
    (∀ n rest, readSigned width input = .ok (n, rest) ↔
      ∃ negative octets, Announced input negative octets rest ∧ octets.length ≤ width.octets ∧
        beNat octets < 0x8000000000000000 ∧
        n = (signedValue negative octets).bmod (2 ^ (8 * width.octets))) ∧
    (∀ negative octets rest, Announced input negative octets rest →
      octets.length ≤ width.octets →
      (readSigned width input = .ok (signedValue negative octets, rest) ↔
        width.Holds (signedValue negative octets) ∧ beNat octets < 0x8000000000000000) ∧
      (readSigned width input = .error (.corruptLength octets.length width.octets) ↔
        width = .eight ∧ 0x8000000000000000 ≤ beNat octets)) ∧
    ∀ n rest, readSigned .eight input = .ok (n, rest) →
      ∃ negative octets, Announced input negative octets rest ∧
        n = signedValue negative octets := by
  refine ⟨fun n rest => readSigned_eq_ok_iff, fun negative octets rest h hlength => ⟨?_, ?_⟩,
    fun n rest h => ?_⟩
  · rw [readSigned_of_announced h hlength, ← width.bmod_eq_self_iff]
    split_ifs with hsmall <;> simp [hsmall]
  · rw [readSigned_of_announced h hlength]
    split_ifs with hsmall
    · simp [hsmall]
    · have hwidth : width = .eight := by
        by_contra hne
        exact hsmall (beNat_lt_of_ne_eight hne hlength)
      simp [hwidth, not_lt.1 hsmall]
  · obtain ⟨negative, octets, hannounced, -, hsmall, rfl⟩ := readSigned_eq_ok_iff.1 h
    exact ⟨negative, octets, hannounced, (Width.eight.bmod_eq_self_iff _).2 (eight_holds hsmall)⟩

/-- **32768 is announced**, in the two octets that a 16-bit integer may have, and -32768 is read. -/
theorem sb2_wraps :
    Announced [0x02, 0x80, 0x00] false [0x80, 0x00] [] ∧
      signedValue false [0x80, 0x00] = 32768 ∧
      sb2 [0x02, 0x80, 0x00] = .ok (-32768, []) :=
  ⟨⟨by decide, by decide⟩, by decide, by decide⟩

end Decode

end TnsClient
