import TnsClient.Proofs.Wire.SelfDelimiting

set_option autoImplicit false

/-!
# Passing over byte strings

Where a byte string is of no use it is passed over instead of being read. The one is the other
without its value: both take the same octets, and both fail over the same. There is a single
exception. The octet `0xFF` stands for a string that is not there, and that is how it is read;
whoever passes over a string takes it for the length of one.

## Main results

* `TnsClient.Decode.map_whileSome` — repetition of a step of which only part is kept.
* `TnsClient.Decode.skipByteString_eq_iff` — exactly when passing over a string is reading it.
-/

namespace TnsClient.Decode

variable {α β : Type}

/-! ## What is done with a value does not matter -/

lemma map_eq (f : α → β) (reader : Decode α) (input : Bytes) :
    (f <$> reader) input = (reader input).map fun (value, rest) => (f value, rest) := by
  show (reader input >>= fun pair => Pure.pure (f pair.1, pair.2)) = _
  rcases reader input with error | ⟨value, rest⟩ <;> rfl

/-- **Repetition** of a step of which only part is kept keeps just that part. -/
lemma map_whileSome (f : α → β) (step : Decode (Option α)) (input : Bytes) :
    whileSome (Option.map f <$> step) input =
      (whileSome step input).map fun (values, rest) => (values.map f, rest) := by
  have hstep := map_eq (Option.map f) step
  induction input using whileSome.induct step with
  | case1 input error hread =>
    rw [whileSome_of_error hread, whileSome_of_error (by rw [hstep, hread]; rfl)]
    rfl
  | case2 input rest hread =>
    rw [whileSome_of_none hread, whileSome_of_none (by rw [hstep, hread]; rfl)]
    rfl
  | case3 input value rest hread hlt error hmore ih =>
    rw [whileSome_of_some hread hlt, whileSome_of_some (by rw [hstep, hread]; rfl) hlt, ih, hmore]
    rfl
  | case4 input value rest hread hlt values left hmore ih =>
    rw [whileSome_of_some hread hlt, whileSome_of_some (by rw [hstep, hread]; rfl) hlt, ih, hmore]
    rfl
  | case5 input value rest hread hle =>
    rw [whileSome_of_stuck hread hle, whileSome_of_stuck (by rw [hstep, hread]; rfl) hle]
    rfl

/-- Passing over a chunk is reading it. -/
lemma skipChunk_eq : skipChunk = Option.map (fun _ => ()) <$> chunk := by
  unfold skipChunk chunk skip
  rw [map_bind]
  refine bind_congr fun length => ?_
  dsimp only
  split_ifs
  · rfl
  · simp

/-! ## Byte strings -/

/-- **A byte string is passed over** as it is read, unless its first octet says that it is not
there. -/
lemma skipByteString_cons {octet : UInt8} (hnull : octet ≠ nullMark) (rest : Bytes) :
    skipByteString (octet :: rest) =
      (byteString (octet :: rest)).map fun (_, rest) => ((), rest) := by
  unfold skipByteString byteString
  rw [bind_of_ok (u8_cons octet rest), bind_of_ok (u8_cons octet rest)]
  by_cases hchunked : octet = chunkedMark
  · subst hchunked
    rw [if_pos rfl, if_neg (by decide), if_pos rfl, skipChunk_eq]
    show (whileSome _ rest >>= _) = ((whileSome _ rest >>= _)).map _
    rw [map_whileSome]
    rcases whileSome chunk rest with error | ⟨chunks, left⟩ <;> rfl
  · rw [if_neg hchunked]
    by_cases hzero : octet = 0
    · subst hzero
      rw [if_pos (.inl rfl)]
      exact skip_append [] rest
    · rw [if_neg (by simp [hzero, hnull]), if_neg hchunked]
      show (take octet.toNat rest >>= _) = (take octet.toNat rest >>= _).map _
      rcases take octet.toNat rest with error | ⟨octets, left⟩ <;> rfl

/-- A string that is not there is read as none. Whoever passes over it passes over as many octets
as its mark would count. -/
lemma skipByteString_nullMark (rest : Bytes) :
    skipByteString (nullMark :: rest) =
      if rest.length < 255 then .error (.expectedAtLeast 255 rest.length)
      else .ok ((), rest.drop 255) := by
  show (take 255 rest >>= _) = _
  have hshort : (rest.take 255).length < 255 ↔ rest.length < 255 := by
    rw [List.length_take]
    omega
  unfold take
  dsimp only
  simp only [hshort]
  split_ifs <;> rfl

/-- **Exactly when passing over a byte string is reading it.** For any octets:

* passing over a byte string comes to the same as reading it (it leaves the same octets, or fails
  over the same) if, and only if, the first octet is not the mark of a string that is not there;
* behind that mark, reading takes nothing more, and passing over takes 255 octets, or fails if there
  are fewer. -/
theorem skipByteString_eq_iff (input : Bytes) :
    (skipByteString input = ((byteString input).map fun (_, rest) => ((), rest)) ↔
        input.head? ≠ some nullMark) ∧
      byteString (nullMark :: input) = .ok (none, input) ∧
      skipByteString (nullMark :: input) =
        if input.length < 255 then .error (.expectedAtLeast 255 input.length)
        else .ok ((), input.drop 255) := by
  refine ⟨?_, rfl, skipByteString_nullMark input⟩
  rcases input with _ | ⟨octet, rest⟩
  · exact ⟨fun _ => by simp, fun _ => rfl⟩
  · rw [List.head?_cons, Ne, Option.some.injEq]
    refine ⟨?_, fun hnull => skipByteString_cons hnull rest⟩
    -- whatever stands behind the mark, it is not left as it is
    rintro hsame rfl
    rw [skipByteString_nullMark, show byteString (nullMark :: rest) = .ok (none, rest) from rfl]
      at hsame
    split_ifs at hsame with hshort
    · cases hsame
    · have hleft : rest.drop 255 = rest := (Prod.mk.inj (Except.ok.inj hsame)).2
      have hlength := congrArg List.length hleft
      rw [List.length_drop] at hlength
      omega

/-- A string that is not there is read, but passing over it fails. -/
theorem skipByteString_null :
    byteString [nullMark] = .ok (none, []) ∧
      skipByteString [nullMark] = .error (.expectedAtLeast 255 0) := by
  decide

end TnsClient.Decode
