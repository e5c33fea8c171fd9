import Mathlib.Data.List.Basic
import Mathlib.Tactic.Lemma
import TnsClient.Wire.ByteString

set_option autoImplicit false

/-!
# Readers that know where to stop

A reader is self-delimiting if the octets that it takes say themselves where they end: what stands
behind them does not matter, and if some of them are missing the reader runs short. Readers of the
wire are put together from few parts, and all of them keep this; so it is a class, and the instances
for the parts find it for whatever is made of them.

## Main definitions

* `TnsClient.Decode.Reads` — a reader takes exactly some octets.
* `TnsClient.Decode.SelfDelimiting` — whatever a reader takes, it takes exactly that.

## Main results

* `TnsClient.Decode.Reads.bind` — one reader behind another.
* `TnsClient.Decode.SelfDelimiting.whileSome` — repetition.
-/

namespace TnsClient.Decode

variable {α β : Type}

/-- A reader takes exactly some octets and yields a value: nothing of what stands behind them
matters, and without the last of them the reader runs short. -/
structure Reads (reader : Decode α) (used : Bytes) (value : α) : Prop where
  complete : ∀ more, reader (used ++ more) = .ok (value, more)
  short : ∀ front back, used = front ++ back → back ≠ [] →
    ∃ expected actual, reader front = .error (.expectedAtLeast expected actual)

/-- A reader is self-delimiting if it takes exactly what it takes. -/
class SelfDelimiting (reader : Decode α) : Prop where
  /-- What is taken stands in front of what is left. -/
  reads : ∀ {input rest : Bytes} {value : α}, reader input = .ok (value, rest) →
    ∃ used, input = used ++ rest ∧ reader.Reads used value

/-! ## One reader behind another -/

lemma bind_eq_ok_iff {first : Decode α} {next : α → Decode β} {input rest : Bytes} {value : β} :
    (first >>= next) input = .ok (value, rest) ↔
      ∃ middle left, first input = .ok (middle, left) ∧ next middle left = .ok (value, rest) := by
  show (first input >>= fun pair => next pair.1 pair.2) = _ ↔ _
  rcases first input with error | ⟨middle, left⟩
  · simp [bind, Except.bind]
  · simp only [bind, Except.bind, Except.ok.injEq, Prod.mk.injEq]
    constructor
    · exact fun h => ⟨middle, left, ⟨rfl, rfl⟩, h⟩
    · rintro ⟨_, _, ⟨rfl, rfl⟩, h⟩
      exact h

lemma bind_of_ok {first : Decode α} {next : α → Decode β} {input left : Bytes} {middle : α}
    (h : first input = .ok (middle, left)) : (first >>= next) input = next middle left := by
  show (first input >>= fun pair => next pair.1 pair.2) = _
  rw [h]
  rfl

lemma bind_of_error {first : Decode α} {next : α → Decode β} {input : Bytes} {error : DecodeError}
    (h : first input = .error error) : (first >>= next) input = .error error := by
  show (first input >>= fun pair => next pair.1 pair.2) = _
  rw [h]
  rfl

lemma Reads.pure (value : α) : (Pure.pure value : Decode α).Reads [] value where
  complete _ := rfl
  short _ _ h hback := absurd (List.append_eq_nil_iff.1 h.symm).2 hback

/-- **One reader behind another** takes what the one takes and then what the other takes.

**Proof sketch.** If the end is missing, either all that the first one takes is there and the second
runs short, or the first one runs short. -/
lemma Reads.bind {first : Decode α} {next : α → Decode β} {used used' : Bytes} {middle : α}
    {value : β} (h : first.Reads used middle) (h' : (next middle).Reads used' value) :
    (first >>= next).Reads (used ++ used') value where
  complete more := by
    rw [List.append_assoc, bind_of_ok (h.complete _)]
    exact h'.complete more
  short front back hsplit hback := by
    rcases List.append_eq_append_iff.1 hsplit with ⟨part, rfl, hused'⟩ | ⟨part, hused, hback'⟩
    · rw [bind_of_ok (h.complete part)]
      exact h'.short part back hused' hback
    · rcases part with _ | ⟨octet, part⟩
      · -- the first reader has all it needs, and the second has nothing
        simp only [List.append_nil, List.nil_append] at hused hback'
        have hfront := h.complete []
        rw [List.append_nil, hused] at hfront
        rw [bind_of_ok hfront]
        exact h'.short [] back (by simpa using hback'.symm) hback
      · obtain ⟨expected, actual, hshort⟩ := h.short front _ hused (by simp)
        exact ⟨expected, actual, bind_of_error hshort⟩

namespace SelfDelimiting

instance pure (value : α) : SelfDelimiting (Pure.pure value : Decode α) where
  reads h := by
    obtain ⟨rfl, rfl⟩ := Prod.mk.inj (Except.ok.inj h)
    exact ⟨[], rfl, Reads.pure _⟩

instance fail (error : DecodeError) : SelfDelimiting (Decode.fail error : Decode α) where
  reads h := by simp [Decode.fail] at h

instance bind (first : Decode α) (next : α → Decode β) [hfirst : SelfDelimiting first]
    [hnext : ∀ value, SelfDelimiting (next value)] : SelfDelimiting (first >>= next) where
  reads h := by
    obtain ⟨middle, left, h₁, h₂⟩ := bind_eq_ok_iff.1 h
    obtain ⟨used, rfl, hreads⟩ := hfirst.reads h₁
    obtain ⟨used', rfl, hreads'⟩ := (hnext middle).reads h₂
    exact ⟨used ++ used', by rw [List.append_assoc], hreads.bind hreads'⟩

/-- One reader behind another, where the other depends on what was read. -/
lemma next {first : Decode α} {next : α → Decode β} [SelfDelimiting first]
    (hnext : ∀ value, SelfDelimiting (next value)) : SelfDelimiting (first >>= next) :=
  bind first next

instance map (f : α → β) (reader : Decode α) [SelfDelimiting reader] :
    SelfDelimiting (f <$> reader) := by
  show SelfDelimiting (reader >>= fun value => Pure.pure (f value))
  infer_instance

instance ite (condition : Prop) [Decidable condition] (reader other : Decode α)
    [hreader : SelfDelimiting reader] [hother : SelfDelimiting other] :
    SelfDelimiting (if condition then reader else other) := by
  split_ifs
  · exact hreader
  · exact hother

end SelfDelimiting

/-! ## The plainest readers -/

lemma Reads.take (used : Bytes) : (Decode.take used.length).Reads used used where
  complete := take_append used
  short front back hused hback := by
    have hlt : front.length < used.length := by
      have hpos := List.length_pos_iff.2 hback
      rw [hused, List.length_append]
      omega
    refine ⟨used.length, front.length, ?_⟩
    unfold Decode.take
    exact if_pos (by rw [List.length_take]; omega)

lemma Reads.u8 (octet : UInt8) : Decode.u8.Reads [octet] octet where
  complete _ := rfl
  short front back hused hback := by
    have hfront : front = [] := by
      rcases front with _ | ⟨first, front⟩
      · rfl
      · simp_all
    exact ⟨1, 0, by rw [hfront]; rfl⟩

/-- The octets up to a zero octet take that one as well. -/
lemma Reads.untilZero {input front rest : Bytes} (h : Decode.untilZero input = .ok (front, rest)) :
    input = (front ++ [0]) ++ rest ∧ Decode.Reads Decode.untilZero (front ++ [0]) front := by
  induction input generalizing front with
  | nil => simp [Decode.untilZero] at h
  | cons octet input ih =>
    unfold Decode.untilZero at h
    split_ifs at h with hzero
    · obtain ⟨rfl, rfl⟩ := Prod.mk.inj (Except.ok.inj h)
      refine ⟨by simp [hzero], fun more => by simp [Decode.untilZero],
        fun part back hused hback => ?_⟩
      have hpart : part = [] := by
        rcases part with _ | ⟨first, part⟩
        · rfl
        · simp_all
      exact ⟨1, 0, by rw [hpart]; rfl⟩
    · rcases htail : Decode.untilZero input with error | ⟨front', rest'⟩
      · simp [htail] at h
      · simp only [htail, Except.ok.injEq, Prod.mk.injEq] at h
        obtain ⟨rfl, rfl⟩ := h
        obtain ⟨rfl, hreads⟩ := ih htail
        refine ⟨rfl, fun more => ?_, fun part back hused hback => ?_⟩
        · have := hreads.complete more
          simp_all [Decode.untilZero]
        · rcases part with _ | ⟨first, part⟩
          · exact ⟨1, 0, rfl⟩
          · obtain ⟨rfl, hused⟩ := List.cons.inj hused
            obtain ⟨expected, actual, hshort⟩ := hreads.short part back (by simpa using hused) hback
            exact ⟨expected, actual, by simp [Decode.untilZero, hzero, hshort]⟩

namespace SelfDelimiting

instance take (count : Nat) : SelfDelimiting (Decode.take count) where
  reads {input rest value} h := by
    unfold Decode.take at h
    dsimp only at h
    split_ifs at h with hshort
    obtain ⟨rfl, rfl⟩ := Prod.mk.inj (Except.ok.inj h)
    have hlength : (input.take count).length = count := by
      rw [List.length_take] at hshort ⊢
      omega
    have hreads := Reads.take (input.take count)
    rw [hlength] at hreads
    exact ⟨_, (List.take_append_drop count input).symm, hreads⟩

instance skip (count : Nat) : SelfDelimiting (Decode.skip count) := by
  unfold Decode.skip
  infer_instance

instance u8 : SelfDelimiting Decode.u8 where
  reads {input rest value} h := by
    rcases input with _ | ⟨octet, input⟩
    · simp [Decode.u8] at h
    · obtain ⟨rfl, rfl⟩ := Prod.mk.inj (Except.ok.inj h)
      exact ⟨[octet], rfl, Reads.u8 octet⟩

instance untilZero : SelfDelimiting Decode.untilZero where
  reads h := ⟨_, (Reads.untilZero h).1, (Reads.untilZero h).2⟩

end SelfDelimiting

/-! ## Repetition -/

section

variable {step : Decode (Option α)} {input rest : Bytes}

lemma whileSome_of_error {error : DecodeError} (h : step input = .error error) :
    whileSome step input = .error error := by
  rw [whileSome, h]

lemma whileSome_of_none (h : step input = .ok (none, rest)) :
    whileSome step input = .ok ([], rest) := by
  rw [whileSome, h]

lemma whileSome_of_some {value : α} (h : step input = .ok (some value, rest))
    (hlt : rest.length < input.length) :
    whileSome step input =
      (whileSome step rest).map fun (values, rest) => (value :: values, rest) := by
  rw [whileSome, h]
  simp only [hlt, if_true]
  rcases whileSome step rest with error | ⟨values, rest⟩ <;> rfl

lemma whileSome_of_stuck {value : α} (h : step input = .ok (some value, rest))
    (hle : ¬rest.length < input.length) : whileSome step input = .ok ([value], rest) := by
  rw [whileSome, h]
  simp only [hle, if_false]

/-- A step that yields a value from at least one octet goes in front of the others. -/
lemma Reads.whileSome_cons {used used' : Bytes} {value : α} {values : List α}
    (h : step.Reads used (some value)) (hne : used ≠ [])
    (h' : Reads (whileSome step) used' values) :
    Reads (whileSome step) (used ++ used') (value :: values) where
  complete more := by
    have hpos := List.length_pos_iff.2 hne
    rw [List.append_assoc, whileSome_of_some (h.complete _) (by simp [hpos]), h'.complete]
    rfl
  short front back hsplit hback := by
    have hpos := List.length_pos_iff.2 hne
    rcases List.append_eq_append_iff.1 hsplit with ⟨part, rfl, hused'⟩ | ⟨part, hused, hback'⟩
    · obtain ⟨expected, actual, hshort⟩ := h'.short part back hused' hback
      refine ⟨expected, actual, ?_⟩
      rw [whileSome_of_some (h.complete part) (by simp [hpos]), hshort]
      rfl
    · rcases part with _ | ⟨octet, part⟩
      · simp only [List.append_nil, List.nil_append] at hused hback'
        obtain ⟨expected, actual, hshort⟩ := h'.short [] back (by simpa using hback'.symm) hback
        have hfront := h.complete []
        rw [List.append_nil, hused] at hfront
        refine ⟨expected, actual, ?_⟩
        rw [whileSome_of_some hfront (by rw [← hused]; simpa using hpos), hshort]
        rfl
      · obtain ⟨expected, actual, hshort⟩ := h.short front _ hused (by simp)
        exact ⟨expected, actual, whileSome_of_error hshort⟩

end

namespace SelfDelimiting

/-- **Repetition** is self-delimiting if its step is.

**Proof sketch.** Induction along the repetition. A step without a value is the last one; a step
with a value goes in front of what the others take, unless it takes nothing. -/
instance whileSome (step : Decode (Option α)) [hstep : SelfDelimiting step] :
    SelfDelimiting (Decode.whileSome step) where
  reads {input rest values} h := by
    induction input using Decode.whileSome.induct step generalizing values with
    | case1 input error hread => simp [whileSome_of_error hread] at h
    | case2 input left hread =>
      rw [whileSome_of_none hread] at h
      obtain ⟨rfl, rfl⟩ := Prod.mk.inj (Except.ok.inj h)
      obtain ⟨used, rfl, hreads⟩ := hstep.reads hread
      refine ⟨used, rfl, fun more => whileSome_of_none (hreads.complete more), ?_⟩
      intro front back hused hback
      obtain ⟨expected, actual, hshort⟩ := hreads.short front back hused hback
      exact ⟨expected, actual, whileSome_of_error hshort⟩
    | case3 input value left hread hlt error hmore ih =>
      rw [whileSome_of_some hread hlt, hmore] at h
      cases h
    | case4 input value left hread hlt more left' hmore ih =>
      rw [whileSome_of_some hread hlt, hmore] at h
      obtain ⟨rfl, rfl⟩ := Prod.mk.inj (Except.ok.inj h)
      obtain ⟨used, rfl, hreads⟩ := hstep.reads hread
      obtain ⟨used', rfl, hreads'⟩ := ih hmore
      have hne : used ≠ [] := by
        rintro rfl
        simp at hlt
      exact ⟨used ++ used', by rw [List.append_assoc], hreads.whileSome_cons hne hreads'⟩
    | case5 input value left hread hle =>
      rw [whileSome_of_stuck hread hle] at h
      obtain ⟨rfl, rfl⟩ := Prod.mk.inj (Except.ok.inj h)
      obtain ⟨used, rfl, hreads⟩ := hstep.reads hread
      have hnil : used = [] := by
        rcases used with _ | ⟨octet, used⟩
        · rfl
        · rw [List.length_append, List.length_cons] at hle
          omega
      subst hnil
      exact ⟨[], rfl, fun more => whileSome_of_stuck (hreads.complete more) (by simp),
        fun _ _ h hback => absurd (List.append_eq_nil_iff.1 h.symm).2 hback⟩

instance times (count : Nat) (item : Decode α) [SelfDelimiting item] :
    SelfDelimiting (Decode.times count item) := by
  induction count with
  | zero => exact pure []
  | succ count ih =>
    unfold Decode.times
    infer_instance

instance skipTimes (count : Nat) (item : Decode Unit) [SelfDelimiting item] :
    SelfDelimiting (Decode.skipTimes count item) := by
  induction count with
  | zero => exact pure ()
  | succ count ih =>
    unfold Decode.skipTimes
    infer_instance

/-! ## Integers -/

instance u16be : SelfDelimiting Decode.u16be := by
  unfold Decode.u16be
  infer_instance

instance u16le : SelfDelimiting Decode.u16le := by
  unfold Decode.u16le
  infer_instance

instance u32be : SelfDelimiting Decode.u32be := by
  unfold Decode.u32be
  infer_instance

instance integerLength : SelfDelimiting Decode.integerLength := by
  unfold Decode.integerLength
  infer_instance

instance magnitude (width : Width) (allowed : Bool) (length : Nat) :
    SelfDelimiting (Decode.magnitude width allowed length) := by
  unfold Decode.magnitude
  infer_instance

instance unsigned (width : Width) : SelfDelimiting (Decode.unsigned width) := by
  unfold Decode.unsigned
  infer_instance

instance ub2 : SelfDelimiting Decode.ub2 := by
  unfold Decode.ub2
  infer_instance

instance ub4 : SelfDelimiting Decode.ub4 := by
  unfold Decode.ub4
  infer_instance

instance ub8 : SelfDelimiting Decode.ub8 := by
  unfold Decode.ub8
  infer_instance

instance skipUb2 : SelfDelimiting Decode.skipUb2 := by
  unfold Decode.skipUb2
  infer_instance

instance skipUb4 : SelfDelimiting Decode.skipUb4 := by
  unfold Decode.skipUb4
  infer_instance

instance skipUb8 : SelfDelimiting Decode.skipUb8 := by
  unfold Decode.skipUb8
  infer_instance

instance signed (width : Width) : SelfDelimiting (Decode.signed width) := by
  unfold Decode.signed
  infer_instance

instance sb2 : SelfDelimiting Decode.sb2 := by
  unfold Decode.sb2
  infer_instance

instance sb8 : SelfDelimiting Decode.sb8 := by
  unfold Decode.sb8
  infer_instance

/-! ## Byte strings and texts -/

instance chunk : SelfDelimiting Decode.chunk := by
  unfold Decode.chunk
  infer_instance

instance byteString : SelfDelimiting Decode.byteString := by
  unfold Decode.byteString
  infer_instance

instance skipChunk : SelfDelimiting Decode.skipChunk := by
  unfold Decode.skipChunk
  infer_instance

instance skipByteString : SelfDelimiting Decode.skipByteString := by
  unfold Decode.skipByteString
  infer_instance

instance ofUtf8 (field : String) (bytes : Bytes) :
    SelfDelimiting (Decode.ofUtf8 field bytes) := by
  unfold Decode.ofUtf8
  split <;> infer_instance

instance text (field : String) : SelfDelimiting (Decode.text field) := by
  unfold Decode.text
  refine next fun read => ?_
  cases read <;> infer_instance

instance terminated (field : String) : SelfDelimiting (Decode.terminated field) := by
  unfold Decode.terminated
  infer_instance

end SelfDelimiting

end TnsClient.Decode
