import TnsClient.Proofs.Wire.Form

set_option autoImplicit false

/-!
# Fields in a row

A request is a row of numbers and byte strings without anything between them. Whoever reads it knows
their kinds and nothing else, so each field has to say where it ends. What is written is read back
field by field, and what stands behind the last one is left alone; only an empty byte string is read
like one that is not there.

A number that was written without regard to a width is read at a width if, and only if, it fits
that width.

## Main definitions

* `TnsClient.Field` — a number or a byte string; `TnsClient.Field.octets` writes it.
* `TnsClient.FieldKind` — what a reader is told of a field; `TnsClient.FieldKind.read` reads one.

## Main results

* `TnsClient.Decode.Reads.fields` — fields in a row take exactly the octets they were written in.
* `TnsClient.Decode.unsigned_uint` — what reading a number at any width comes to.
* `TnsClient.Decode.fields_read_back` — both, for any fields, numbers and octets behind them.
-/

namespace TnsClient

/-- A field, where strings are of some type. -/
inductive Field (σ : Type) where
  /-- A number of 16 bits. -/
  | ub2 (value : UInt16)
  /-- A number of 32 bits. -/
  | ub4 (value : UInt32)
  /-- A number of 64 bits. -/
  | ub8 (value : UInt64)
  /-- A byte string. -/
  | byteString (octets : σ)

/-- What a reader is told of a field. -/
inductive FieldKind where
  /-- It is a number of 16 bits. -/
  | ub2
  /-- It is a number of 32 bits. -/
  | ub4
  /-- It is a number of 64 bits. -/
  | ub8
  /-- It is a byte string. -/
  | byteString

/-- The kind of a field. -/
def Field.kind {σ : Type} : Field σ → FieldKind
  | ub2 _ => .ub2
  | ub4 _ => .ub4
  | ub8 _ => .ub8
  | byteString _ => .byteString

/-- The octets of a field. -/
def Field.octets : Field Bytes → Bytes
  | ub2 value => Encode.ub2 value
  | ub4 value => Encode.ub4 value
  | ub8 value => Encode.ub8 value
  | byteString octets => Encode.byteString octets

/-- A field as a reader sees it: an empty byte string is none. -/
def Field.seen : Field Bytes → Field (Option Bytes)
  | ub2 value => .ub2 value
  | ub4 value => .ub4 value
  | ub8 value => .ub8 value
  | byteString octets => .byteString (if octets.isEmpty then none else some octets)

/-- Reads a field of a kind. -/
def FieldKind.read : FieldKind → Decode (Field (Option Bytes))
  | ub2 => return .ub2 (← Decode.ub2)
  | ub4 => return .ub4 (← Decode.ub4)
  | ub8 => return .ub8 (← Decode.ub8)
  | byteString => return .byteString (← Decode.byteString)

namespace Decode

/-! ## Fields -/

/-- **A field** is read from its own octets. -/
lemma Reads.field (field : Field Bytes) : field.kind.read.Reads field.octets field.seen := by
  cases field with
  | ub2 value =>
    have hreads : FieldKind.ub2.read.Reads (Encode.ub2 value) _ :=
      (Reads.ub2 (.ub2 value)).map Field.ub2
    rwa [UInt16.ofNat_toNat] at hreads
  | ub4 value => exact (Reads.ub4_self value).map Field.ub4
  | ub8 value =>
    have hreads : FieldKind.ub8.read.Reads (Encode.ub8 value) _ :=
      (Reads.ub8 (.ub8 value)).map Field.ub8
    rwa [UInt64.ofNat_toNat] at hreads
  | byteString octets => exact (Reads.byteString_self octets).map Field.byteString

/-- **Fields in a row** are read from their octets in a row. -/
lemma Reads.fields (fields : List (Field Bytes)) :
    ((fields.map Field.kind).mapM FieldKind.read).Reads (fields.flatMap Field.octets)
      (fields.map Field.seen) := by
  induction fields with
  | nil => exact Reads.pure []
  | cons field fields ih =>
    rw [List.map_cons, List.mapM_cons]
    exact (Reads.field field).bind (ih.map (field.seen :: ·))

/-! ## Numbers at a width -/

/-- A number that says that it has up to eight octets is read from as many of those behind. -/
lemma unsigned_cons (width : Width) {length : Nat} (hlength : length ≤ 8) (input : Bytes) :
    unsigned width (UInt8.ofNat length :: input) =
      magnitude width (width.allows length) length input := by
  have hhead : (UInt8.ofNat length &&& 0x7F).toNat = length := by
    interval_cases length <;> rfl
  show magnitude width (width.allows (UInt8.ofNat length &&& 0x7F).toNat)
    (UInt8.ofNat length &&& 0x7F).toNat input = _
  rw [hhead]

/-- **A number is read at a width** if it fits, and otherwise the reader says in how many octets it
was written. -/
lemma unsigned_uint (width : Width) (value : UInt64) (rest : Bytes) :
    unsigned width (Encode.uint value ++ rest) =
      if value.toNat < 256 ^ width.octets then .ok (value.toNat, rest)
      else .error (.corruptLength (fewestOctets value.toNat) width.octets) := by
  split_ifs with hfits
  · exact (Reads.unsigned (.uint value hfits)).complete rest
  · have hrefused : width.allows (fewestOctets value.toNat) = false := by
      rwa [← allows_fewestOctets value, Bool.not_eq_true] at hfits
    have hle : fewestOctets value.toNat ≤ 8 := by
      unfold fewestOctets
      split_ifs <;> decide
    rw [Encode.uint_eq, List.cons_append, unsigned_cons width hle, hrefused]
    rfl

/-- **What is written in a row is read back.** Whatever stands behind it:

* any fields are read back, each as it was written but for an empty byte string, which is read as
  none, and exactly what stands behind them is left;
* a number that was written without regard to a width is read at a width if, and only if, it fits,
  and then as it was written; otherwise the reader fails over the number of its octets. -/
theorem fields_read_back (fields : List (Field Bytes)) (value : UInt64) (rest : Bytes) :
    (fields.map Field.kind).mapM FieldKind.read (fields.flatMap Field.octets ++ rest) =
        .ok (fields.map Field.seen, rest) ∧
      ∀ width, unsigned width (Encode.uint value ++ rest) =
        if value.toNat < 256 ^ width.octets then .ok (value.toNat, rest)
        else .error (.corruptLength (fewestOctets value.toNat) width.octets) :=
  ⟨(Reads.fields fields).complete rest, fun width => unsigned_uint width value rest⟩

/-- The least number that is too wide for 16 bits says that it has four octets. -/
example : unsigned .two (Encode.uint 0x1_0000) = .error (.corruptLength 4 2) := by rfl

end Decode

end TnsClient
