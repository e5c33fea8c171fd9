import TnsClient.Encoder.Cleanup
import TnsClient.Proofs.Wire.Form

set_option autoImplicit false

/-!
# Numbered calls

The calls of a request are numbered one after the other, and the numbers go on from one request to
the next. They fit into an octet: behind 255 they begin again, with 1.

The calls that clean up say how much is to come: the one that closes cursors how many they are, and
the one that frees temporary large objects how many octets their locators take. What is said is what
comes.

## Main definitions

* `TnsClient.callNumber` — the number of the call in a position.
* `TnsClient.numberCalls` — calls with their numbers.
* `TnsClient.Decode.closedCursors`, `TnsClient.Decode.freedLocators` — readers of the calls that
  clean up.

## Main results

* `TnsClient.Encoder.body_eq` — what is written of calls.
* `TnsClient.numberCalls_fst` — the numbers of calls.
* `TnsClient.Cleanup.closeArguments_reads`, `TnsClient.Cleanup.freeArguments_reads` — what is said
  to come comes.
-/

namespace TnsClient

/-! ## Numbers -/

/-- The number of the call in a position, where the first position is 0: the numbers are 1 to 255
over and over. -/
def callNumber (position : Nat) : UInt8 := UInt8.ofNat (position % 255 + 1)

/-- The number of the last of so many calls, zero in front of the first one. -/
def lastNumber : Nat → UInt8
  | 0 => 0
  | count + 1 => callNumber count

/-- Calls with their numbers, where the number of the call in front of them is given. -/
def numberCalls (sequence : UInt8) : List Call → List (UInt8 × Call)
  | [] => []
  | call :: rest => (nextSequence sequence, call) :: numberCalls (nextSequence sequence) rest

lemma callNumber_toNat (position : Nat) : (callNumber position).toNat = position % 255 + 1 := by
  have hlt : position % 255 < 255 := Nat.mod_lt _ (by decide)
  exact UInt8.toNat_ofNat_of_lt' (show position % 255 + 1 < UInt8.size by
    rw [show UInt8.size = 256 from rfl]; omega)

/-- Zero is never the number of a call. -/
lemma callNumber_ne_zero (position : Nat) : callNumber position ≠ 0 := by
  intro heq
  have hzero := congrArg UInt8.toNat heq
  rw [callNumber_toNat] at hzero
  cases hzero

lemma nextSequence_lastNumber (count : Nat) :
    nextSequence (lastNumber count) = callNumber count := by
  cases count with
  | zero => rfl
  | succ count =>
    refine UInt8.toNat_inj.1 ?_
    have hlt : count % 255 < 255 := Nat.mod_lt _ (by decide)
    have hlast := callNumber_toNat count
    unfold nextSequence lastNumber
    rw [callNumber_toNat]
    by_cases hwrap : count % 255 = 254
    · have h255 : callNumber count = 255 := UInt8.toNat_inj.1 (by rw [hlast, hwrap]; rfl)
      rw [if_pos h255]
      have hzero : (count + 1) % 255 = 0 := by omega
      rw [hzero]
      rfl
    · have h255 : callNumber count ≠ 255 := by
        intro heq
        have := congrArg UInt8.toNat heq
        rw [hlast, show (255 : UInt8).toNat = 255 from rfl] at this
        omega
      rw [if_neg h255, UInt8.toNat_add, hlast, show (1 : UInt8).toNat = 1 from rfl]
      omega

lemma numberCalls_append (count : Nat) (calls more : List Call) :
    numberCalls (lastNumber count) (calls ++ more) =
      numberCalls (lastNumber count) calls ++
        numberCalls (lastNumber (count + calls.length)) more := by
  induction calls generalizing count with
  | nil => rfl
  | cons call rest ih =>
    have hrest := ih (count + 1)
    simp only [List.cons_append, numberCalls, nextSequence_lastNumber, List.length_cons]
    rw [show callNumber count = lastNumber (count + 1) from rfl, hrest, Nat.add_right_comm,
      Nat.add_assoc]

/-- **The numbers of calls** are those of their positions. -/
theorem numberCalls_fst (count : Nat) (calls : List Call) :
    (numberCalls (lastNumber count) calls).map Prod.fst =
      (List.range' count calls.length).map callNumber := by
  induction calls generalizing count with
  | nil => rfl
  | cons call rest ih =>
    simp only [numberCalls, nextSequence_lastNumber, List.map_cons, List.length_cons,
      List.range'_succ]
    exact congrArg _ (ih (count + 1))

lemma numberCalls_snd (sequence : UInt8) (calls : List Call) :
    (numberCalls sequence calls).map Prod.snd = calls := by
  induction calls generalizing sequence with
  | nil => rfl
  | cons call rest ih => rw [numberCalls, List.map_cons, ih]

namespace Encoder

/-- **What is written of calls** are their octets, each with its number, and the last number is
remembered. -/
theorem body_eq (encoder : Encoder) {count : Nat} (hsequence : encoder.sequence = lastNumber count)
    (calls : List Call) :
    encoder.body calls =
      ((numberCalls encoder.sequence calls).flatMap fun entry =>
          encoder.callOctets entry.2 entry.1,
        { encoder with sequence := lastNumber (count + calls.length) }) := by
  induction calls generalizing encoder count with
  | nil => rw [List.length_nil, Nat.add_zero, ← hsequence]; rfl
  | cons call rest ih =>
    have hnext : nextSequence encoder.sequence = lastNumber (count + 1) := by
      rw [hsequence]
      exact nextSequence_lastNumber count
    unfold body
    dsimp only
    rw [ih { encoder with sequence := nextSequence encoder.sequence } hnext, numberCalls,
      List.flatMap_cons, List.length_cons, Nat.add_right_comm, Nat.add_assoc]
    rfl

end Encoder

/-! ## What is said to come -/

namespace Decode

/-- The cursors of a call that closes cursors: how many there are, and then as many. -/
def closedCursors : Decode (List UInt32) := do
  skip 1
  let count ← ub4
  times count.toNat ub4

/-- The locators of a call that frees temporary large objects, one behind the other: how many octets
they take, all other fields of such a call, and then as many octets. -/
def freedLocators : Decode Bytes := do
  skip 1
  let size ← ub4
  skip 7
  skipUb4
  skip 11
  take size.toNat

end Decode

namespace Cleanup

/-- **As many cursors come** as are said to come. -/
theorem closeArguments_reads {cursors : List UInt16} (h : cursors.length < UInt32.size) :
    Decode.closedCursors.Reads (closeArguments cursors) (cursors.map UInt16.toUInt32) := by
  have hcount := IntegerForm.count h
  rw [closeArguments, List.append_assoc]
  refine (Decode.Reads.skip [1]).bind ((Decode.Reads.ub4 hcount).bind ?_)
  rw [hcount.toNat_ofNat]
  exact Decode.Reads.times (fun cursor => Decode.Reads.ub4_self cursor.toUInt32) cursors

/-- **As many octets of locators come** as are said to come. -/
theorem freeArguments_reads {lobs : List Bytes} (h : lobs.flatten.length < UInt32.size) :
    Decode.freedLocators.Reads (freeArguments lobs lobs.flatten.length) lobs.flatten := by
  have hsize := IntegerForm.count h
  have hopcode := IntegerForm.ub4 (LobOpcode.freeTemporary ||| LobOpcode.array)
  rw [freeArguments, List.append_assoc, List.append_assoc, List.append_assoc, List.append_assoc]
  refine (Decode.Reads.skip [1]).bind ((Decode.Reads.ub4 hsize).bind ?_)
  refine (Decode.Reads.skip (List.replicate 7 0)).bind ((Decode.Reads.skipUb4 hopcode).bind ?_)
  refine (Decode.Reads.skip (List.replicate 11 0)).bind ?_
  rw [hsize.toNat_ofNat]
  exact Decode.Reads.take lobs.flatten

end Cleanup

end TnsClient
