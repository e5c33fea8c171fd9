import Mathlib.Tactic.IntervalCases
import Mathlib.Tactic.Ring
import TnsClient.Proofs.Bytes
import TnsClient.Proofs.Wire.SelfDelimiting

set_option autoImplicit false

/-!
# How numbers and strings are written

A number may be written in more octets than it takes, and a byte string behind its length or in
chunks of any sizes. Here it is said which octets write a number or a string at all, without regard
to any reader. The readers read all of them, and the writers write some of them.

## Main definitions

* `TnsClient.IntegerForm` — octets that write a number.
* `TnsClient.fewestOctets` — in how many octets the writer says a number.
* `TnsClient.StringForm` — octets that write a byte string.

## Main results

* `TnsClient.Decode.Reads.unsigned`, `TnsClient.Decode.Reads.byteString` — they are read.
* `TnsClient.IntegerForm.uint`, `TnsClient.StringForm.byteString` — what the writers write.
-/

namespace TnsClient

/-- Octets that write a number: how many there are, as far as the width allows so many, and then the
number itself. -/
def IntegerForm (width : Width) (value : Nat) (wire : Bytes) : Prop :=
  ∃ octets, width.allows octets.length = true ∧ wire = UInt8.ofNat octets.length :: octets ∧
    beNat octets = value

/-- Octets that write chunks: each behind its length, and an empty one last. -/
inductive ChunksForm : List Bytes → Bytes → Prop
  /-- The last chunk is empty. -/
  | nil {wire : Bytes} (hlength : IntegerForm .four 0 wire) : ChunksForm [] wire
  /-- A chunk stands in front of others. -/
  | cons {chunk length wire : Bytes} {chunks : List Bytes} (hne : chunk ≠ [])
      (hlength : IntegerForm .four chunk.length length) (hrest : ChunksForm chunks wire) :
    ChunksForm (chunk :: chunks) ((length ++ chunk) ++ wire)

/-- Octets that write a byte string: behind its length, where that is not a mark, or in chunks. -/
inductive StringForm : Bytes → Bytes → Prop
  /-- A byte string behind its length. -/
  | short {octets : Bytes} (hne : octets ≠ []) (hlt : octets.length < chunkedMark.toNat) :
    StringForm octets (UInt8.ofNat octets.length :: octets)
  /-- A byte string in chunks. -/
  | chunked {chunks : List Bytes} {wire : Bytes} (hchunks : ChunksForm chunks wire) :
    StringForm chunks.flatten (chunkedMark :: wire)

/-- Octets that write a byte string that is not there. -/
def AbsentForm (wire : Bytes) : Prop := wire = [0] ∨ wire = [nullMark]

/-! ## Numbers -/

/-- The fewest octets, of 0, 1, 2, 4 and 8, that say a number of 64 bits. -/
def fewestOctets (value : Nat) : Nat :=
  if value = 0 then 0
  else if value < UInt8.size then 1
  else if value < UInt16.size then 2
  else if value < UInt32.size then 4
  else 8

/-- The writer says a number in the fewest octets. -/
lemma Encode.uint_eq (value : UInt64) :
    Encode.uint value =
      UInt8.ofNat (fewestOctets value.toNat) :: beBytes (fewestOctets value.toNat) value.toNat := by
  unfold Encode.uint fewestOctets
  dsimp only
  split_ifs <;> rfl

/-- They are enough. -/
lemma lt_fewestOctets (value : UInt64) :
    value.toNat < 1 <<< (8 * fewestOctets value.toNat) := by
  have hbound := value.toNat_lt
  unfold fewestOctets
  split_ifs with hzero hone htwo hfour
  · omega
  · exact hone
  · exact htwo
  · exact hfour
  · exact hbound

/-- A width allows the octets that the writer uses if, and only if, the number fits the width. -/
lemma allows_fewestOctets (value : UInt64) {width : Width} :
    width.allows (fewestOctets value.toNat) = true ↔ value.toNat < 256 ^ width.octets := by
  have hbound := value.toNat_lt
  unfold fewestOctets
  cases width <;> split_ifs with hzero hone htwo hfour <;>
    simp [Width.allows, Width.octets, UInt8.size, UInt16.size, UInt32.size] at * <;> omega

/-- A number is below what its octets can say. -/
lemma beNat_lt (octets : Bytes) : beNat octets < 256 ^ octets.length := by
  have hfold : ∀ start, octets.foldl (fun value octet => 256 * value + octet.toNat) start <
      (start + 1) * 256 ^ octets.length := by
    induction octets with
    | nil => intro start; simp
    | cons octet octets ih =>
      intro start
      have hoctet := UInt8.toNat_lt octet
      calc octets.foldl (fun value octet => 256 * value + octet.toNat) (256 * start + octet.toNat)
          < (256 * start + octet.toNat + 1) * 256 ^ octets.length := ih _
        _ ≤ (256 * (start + 1)) * 256 ^ octets.length :=
            Nat.mul_le_mul_right _ (by omega)
        _ = (start + 1) * 256 ^ (octet :: octets).length := by
            rw [List.length_cons, pow_succ]
            ring
  simpa [beNat] using hfold 0

namespace IntegerForm

variable {width : Width} {value : Nat} {wire : Bytes}

lemma length_le (h : width.allows value = true) : value ≤ 8 := by
  cases width <;> simp [Width.allows] at h <;> omega

/-- A number in at most four octets has at most 32 bits. -/
lemma toNat_ofNat (h : IntegerForm .four value wire) : (UInt32.ofNat value).toNat = value := by
  obtain ⟨octets, hallowed, rfl, rfl⟩ := h
  have hlength : octets.length ≤ 4 := by simpa [Width.allows] using hallowed
  have hlt : beNat octets < 2 ^ 32 :=
    lt_of_lt_of_le (beNat_lt octets) (Nat.pow_le_pow_right (by decide) hlength)
  exact UInt32.toNat_ofNat_of_lt' hlt

/-- **The writer** of numbers writes those that fit the width. -/
lemma uint (value : UInt64) (hfits : value.toNat < 256 ^ width.octets) :
    IntegerForm width value.toNat (Encode.uint value) := by
  refine ⟨beBytes (fewestOctets value.toNat) value.toNat, ?_, ?_, ?_⟩
  · rwa [length_beBytes, allows_fewestOctets value]
  · rw [length_beBytes, Encode.uint_eq]
  · exact beNat_beBytes (lt_fewestOctets value)

/-- The writer of 16-bit numbers writes them. -/
lemma ub2 (value : UInt16) : IntegerForm .two value.toNat (Encode.ub2 value) := by
  rw [← UInt16.toNat_toUInt64]
  exact uint _ (by rw [UInt16.toNat_toUInt64]; exact value.toNat_lt)

/-- The writer of 32-bit numbers writes them. -/
lemma ub4 (value : UInt32) : IntegerForm .four value.toNat (Encode.ub4 value) := by
  rw [← UInt32.toNat_toUInt64]
  exact uint _ (by rw [UInt32.toNat_toUInt64]; exact value.toNat_lt)

/-- The writer of 64-bit numbers writes them. -/
lemma ub8 (value : UInt64) : IntegerForm .eight value.toNat (Encode.ub8 value) :=
  uint value value.toNat_lt

/-- The number of things of which there are not too many. -/
lemma count {number : Nat} (h : number < UInt32.size) :
    IntegerForm .four number (Encode.count number) := by
  have hform := ub4 (UInt32.ofNat number)
  rwa [UInt32.toNat_ofNat_of_lt' h] at hform

end IntegerForm

/-! ## Strings -/

section

variable {size : Nat}

/-- Pieces are chunks. -/
lemma ChunksForm.pieces (hpos : 0 < size) (hlt : size < UInt32.size) (octets : Bytes) :
    ChunksForm (pieces size octets)
      ((pieces size octets).flatMap (fun piece => Encode.count piece.length ++ piece) ++
        Encode.count 0) := by
  induction octets using pieces.induct size with
  | case1 =>
    rw [TnsClient.pieces]
    exact .nil (IntegerForm.count (by decide))
  | case2 first rest ih =>
    have hlength : (first :: rest.take (size - 1)).length < UInt32.size := by
      rw [List.length_cons, List.length_take]
      omega
    rw [pieces_cons, List.flatMap_cons, List.append_assoc]
    exact .cons (by simp) (IntegerForm.count hlength) ih

/-- **The writer** of byte strings writes them, unless they are empty. -/
lemma StringForm.byteString {octets : Bytes} (hne : octets ≠ []) :
    StringForm octets (Encode.byteString octets) := by
  unfold Encode.byteString
  split_ifs with hshort
  · refine .short hne (lt_of_le_of_lt hshort (by decide))
  · have hchunks : ChunksForm (pieces chunkSize octets) _ :=
      .pieces (by decide) (by decide) octets
    have hform := StringForm.chunked hchunks
    rwa [flatten_pieces] at hform

end

/-! ## What readers make of them -/

namespace Decode.Reads

variable {α β : Type}

/-- A reader that leaves nothing takes all there is. -/
lemma of_eq {reader : Decode α} [SelfDelimiting reader] {used : Bytes} {value : α}
    (h : reader used = .ok (value, [])) : reader.Reads used value := by
  obtain ⟨taken, hused, hreads⟩ := SelfDelimiting.reads h
  rwa [hused, List.append_nil]

/-- What is read is worked on. -/
lemma map {reader : Decode α} {used : Bytes} {value : α} (f : α → β) (h : reader.Reads used value) :
    (do return f (← reader)).Reads used (f value) := by
  have hbind : (reader >>= fun value => Pure.pure (f value)).Reads (used ++ []) (f value) :=
    h.bind (Reads.pure _)
  rwa [List.append_nil] at hbind

variable {width : Width} {value : Nat} {wire : Bytes}

/-- **A number** is read. -/
lemma unsigned (h : IntegerForm width value wire) : (Decode.unsigned width).Reads wire value := by
  obtain ⟨octets, hallowed, rfl, rfl⟩ := h
  have hlength : (UInt8.ofNat octets.length &&& 0x7F).toNat = octets.length := by
    have hle := IntegerForm.length_le hallowed
    generalize octets.length = length at hle
    interval_cases length <;> rfl
  have hhead : Decode.integerLength.Reads [UInt8.ofNat octets.length] _ :=
    (Reads.u8 (UInt8.ofNat octets.length)).map (· &&& 0x7F)
  have hbody : (magnitude width (width.allows (UInt8.ofNat octets.length &&& 0x7F).toNat)
      (UInt8.ofNat octets.length &&& 0x7F).toNat).Reads octets (beNat octets) := by
    rw [hlength, hallowed]
    exact (Reads.take octets).map beNat
  exact hhead.bind hbody

lemma ub2 (h : IntegerForm .two value wire) : Decode.ub2.Reads wire (UInt16.ofNat value) :=
  (Reads.unsigned h).map UInt16.ofNat

lemma ub4 (h : IntegerForm .four value wire) : Decode.ub4.Reads wire (UInt32.ofNat value) :=
  (Reads.unsigned h).map UInt32.ofNat

lemma ub8 (h : IntegerForm .eight value wire) : Decode.ub8.Reads wire (UInt64.ofNat value) :=
  (Reads.unsigned h).map UInt64.ofNat

/-- A number of 32 bits is read as it was written. -/
lemma ub4_self (number : UInt32) : Decode.ub4.Reads (Encode.ub4 number) number := by
  have hreads := Reads.ub4 (.ub4 number)
  rwa [UInt32.ofNat_toNat] at hreads

lemma skipUb2 (h : IntegerForm .two value wire) : Decode.skipUb2.Reads wire () :=
  (Reads.ub2 h).map fun _ => ()

lemma skipUb4 (h : IntegerForm .four value wire) : Decode.skipUb4.Reads wire () :=
  (Reads.ub4 h).map fun _ => ()

lemma skipUb8 (h : IntegerForm .eight value wire) : Decode.skipUb8.Reads wire () :=
  (Reads.ub8 h).map fun _ => ()

lemma skip (octets : Bytes) : (Decode.skip octets.length).Reads octets () :=
  (Reads.take octets).map fun _ => ()

/-- Things in a row are read one by one, if each of them can be. -/
lemma times_of_mem {γ : Type} {item : Decode α} {octets : γ → Bytes} {value : γ → α}
    {things : List γ} (h : ∀ thing ∈ things, item.Reads (octets thing) (value thing)) :
    (Decode.times things.length item).Reads (things.flatMap octets) (things.map value) := by
  induction things with
  | nil => exact Reads.pure []
  | cons thing rest ih =>
    have hrest := ih fun other hother => h other (List.mem_cons_of_mem thing hother)
    exact (h thing List.mem_cons_self).bind (hrest.map (value thing :: ·))

lemma times {γ : Type} {item : Decode α} {octets : γ → Bytes} {value : γ → α}
    (h : ∀ thing, item.Reads (octets thing) (value thing)) (things : List γ) :
    (Decode.times things.length item).Reads (things.flatMap octets) (things.map value) :=
  times_of_mem fun thing _ => h thing

/-! ### Strings -/

lemma chunk {octets length : Bytes} (hne : octets ≠ [])
    (hlength : IntegerForm .four octets.length length) :
    Decode.chunk.Reads (length ++ octets) (some octets) := by
  refine (Reads.ub4 hlength).bind ?_
  rw [hlength.toNat_ofNat, if_neg (by simpa using hne)]
  exact (Reads.take octets).map some

lemma chunk_zero (h : IntegerForm .four 0 wire) : Decode.chunk.Reads wire none := by
  have hbind : Decode.chunk.Reads (wire ++ []) none := (Reads.ub4 h).bind (Reads.pure none)
  rwa [List.append_nil] at hbind

lemma skipChunk {octets length : Bytes} (hne : octets ≠ [])
    (hlength : IntegerForm .four octets.length length) :
    Decode.skipChunk.Reads (length ++ octets) (some ()) := by
  refine (Reads.ub4 hlength).bind ?_
  rw [hlength.toNat_ofNat, if_neg (by simpa using hne)]
  exact ((Reads.take octets).map fun _ => ()).map some

lemma skipChunk_zero (h : IntegerForm .four 0 wire) : Decode.skipChunk.Reads wire none := by
  have hbind : Decode.skipChunk.Reads (wire ++ []) none := (Reads.ub4 h).bind (Reads.pure none)
  rwa [List.append_nil] at hbind

/-- A step without a value is the last one. -/
lemma whileSome_nil {step : Decode (Option α)} (h : step.Reads wire none) :
    Reads (whileSome step) wire [] where
  complete more := whileSome_of_none (h.complete more)
  short front back hsplit hback := by
    obtain ⟨expected, actual, hshort⟩ := h.short front back hsplit hback
    exact ⟨expected, actual, whileSome_of_error hshort⟩

lemma chunks {chunks : List Bytes} (h : ChunksForm chunks wire) :
    Reads (whileSome Decode.chunk) wire chunks := by
  induction h with
  | nil hlength => exact whileSome_nil (chunk_zero hlength)
  | cons hne hlength _ ih => exact (chunk hne hlength).whileSome_cons (by simp [hne]) ih

lemma skipChunks {chunks : List Bytes} (h : ChunksForm chunks wire) :
    Reads (whileSome Decode.skipChunk) wire (chunks.map fun _ => ()) := by
  induction h with
  | nil hlength => exact whileSome_nil (skipChunk_zero hlength)
  | cons hne hlength _ ih => exact (skipChunk hne hlength).whileSome_cons (by simp [hne]) ih

/-- The length of a short byte string is said by an octet that is no mark. -/
lemma shortLength {octets : Bytes} (hne : octets ≠ [])
    (hlt : octets.length < chunkedMark.toNat) :
    (UInt8.ofNat octets.length).toNat = octets.length ∧ UInt8.ofNat octets.length ≠ 0 ∧
      UInt8.ofNat octets.length ≠ nullMark ∧ UInt8.ofNat octets.length ≠ chunkedMark := by
  have hpos := List.length_pos_iff.2 hne
  have hmark : chunkedMark.toNat = 254 := rfl
  have hsaid : (UInt8.ofNat octets.length).toNat = octets.length :=
    UInt8.toNat_ofNat_of_lt' (by rw [hmark] at hlt; exact lt_trans hlt (by decide))
  have hother : ∀ mark : UInt8, mark.toNat ≠ octets.length → UInt8.ofNat octets.length ≠ mark := by
    rintro mark hmark rfl
    exact hmark hsaid
  refine ⟨hsaid, hother 0 ?_, hother nullMark ?_, hother chunkedMark (by omega)⟩
  · exact (Nat.ne_of_lt hpos)
  · have hnull : nullMark.toNat = 255 := rfl
    omega

/-- **A byte string** is read. -/
lemma byteString {octets : Bytes} (h : StringForm octets wire) :
    Decode.byteString.Reads wire (some octets) := by
  cases h with
  | short hne hlt =>
    obtain ⟨hlength, hzero, hnull, hchunked⟩ := shortLength hne hlt
    refine (Reads.u8 _).bind ?_
    rw [if_neg (by simp [hzero, hnull]), if_neg hchunked, hlength]
    exact (Reads.take octets).map some
  | chunked hchunks =>
    refine (Reads.u8 chunkedMark).bind ?_
    rw [if_neg (by decide), if_pos rfl]
    exact (chunks hchunks).map fun chunks => some chunks.flatten

/-- A byte string that is not there is none. -/
lemma byteString_absent (h : AbsentForm wire) : Decode.byteString.Reads wire none := by
  rcases h with rfl | rfl <;> exact of_eq rfl

/-- A byte string is read as it was written, but for an empty one, which is none. -/
lemma byteString_self (octets : Bytes) :
    Decode.byteString.Reads (Encode.byteString octets)
      (if octets.isEmpty then none else some octets) := by
  rcases octets with _ | ⟨octet, octets⟩
  · exact byteString_absent (.inl rfl)
  · exact byteString (.byteString (List.cons_ne_nil octet octets))

/-- A text is read as it was written, but for an empty one, which is none. -/
lemma text_self (field text : String) :
    (Decode.text field).Reads (Encode.byteString (Utf8.encode text))
      (if (Utf8.encode text).isEmpty then none else some text) := by
  have hbytes := byteString_self (Utf8.encode text)
  rw [← List.append_nil (Encode.byteString _)]
  refine hbytes.bind ?_
  split_ifs
  · exact Reads.pure none
  · have hdecoded : (Decode.ofUtf8 field (Utf8.encode text)).Reads [] text := by
      rw [Decode.ofUtf8, Utf8.decode_encode]
      exact Reads.pure text
    exact hdecoded.map some

/-- A byte string is passed over. -/
lemma skipByteString {octets : Bytes} (h : StringForm octets wire) :
    Decode.skipByteString.Reads wire () := by
  cases h with
  | short hne hlt =>
    obtain ⟨hlength, -, -, hchunked⟩ := shortLength hne hlt
    refine (Reads.u8 _).bind ?_
    rw [if_neg hchunked, hlength]
    exact (Reads.take octets).map fun _ => ()
  | chunked hchunks =>
    refine (Reads.u8 chunkedMark).bind ?_
    rw [if_pos rfl]
    exact (skipChunks hchunks).map fun _ => ()

end Decode.Reads

end TnsClient
