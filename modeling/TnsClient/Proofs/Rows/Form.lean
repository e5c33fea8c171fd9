import Mathlib.Data.List.Forall2
import TnsClient.Client.Row
import TnsClient.Proofs.Message.SelfDelimiting
import TnsClient.Proofs.Wire.Form

set_option autoImplicit false

/-!
# How rows are written

A row is written value by value, and a value may be left out if a bit vector marks its column and
the row before has the same value there. Here it is said which octets write a row, a bit vector, and
the header in front of rows. What the reader of a row makes of them is the row once the values that
were left out have been filled in.

## Main definitions

* `TnsClient.Column.IsRoutable` — columns whose values can be sent.
* `TnsClient.Column.Admits` — the values that a column may have.
* `TnsClient.ClearBit` — a bit vector marks a column.
* `TnsClient.ValuesForm` — octets that write the values of a row.
* `TnsClient.HeaderForm`, `TnsClient.VectorForm` — octets that write a header and a bit vector.

## Main results

* `TnsClient.ValuesForm.exists_of_admits` — every row can be written, whatever columns are marked.
* `TnsClient.ValuesForm.reads` — a row is read up to what was left out.
-/

namespace TnsClient

/-! ## Columns and their values -/

/-- A column whose values can be sent: its type is none of those that a client cannot receive, and
unless the type knows no limit its values take some octets. -/
structure Column.IsRoutable (column : Column) : Prop where
  type : column.type ∉ [.object, .json, .vector, .cursor, .rowid]
  size : column.bufferSize ≠ 0 ∨ column.type ∈ [.long, .longRaw, .urowid] ∨
    column.type.isLob = true

/-- The values that a column may have. The size of a file is not sent. -/
def Column.Admits (column : Column) : ColumnValue → Prop
  | .null => True
  | .bytes octets => column.type.isLob = false ∧ octets ≠ []
  | .lob locator => column.type.isLob = true ∧
      (column.type = .bfile → locator.size = 0 ∧ locator.chunkSize = 0)
  | .duplicate => False

/-- Octets that write the sizes of a large object. Those of a file are not written. -/
inductive SizesForm : DataType → LobLocator → Bytes → Prop
  /-- A file. -/
  | file {locator : LobLocator} (hsize : locator.size = 0) (hchunk : locator.chunkSize = 0) :
    SizesForm .bfile locator []
  /-- Any other large object. -/
  | sizes {type : DataType} {locator : LobLocator} {size chunk : Bytes} (htype : type ≠ .bfile)
      (hsize : IntegerForm .eight locator.size.toNat size)
      (hchunk : IntegerForm .four locator.chunkSize.toNat chunk) :
    SizesForm type locator (size ++ chunk)

/-- Octets that write the locator of a large object. An empty one may be left away. -/
inductive LocatorForm : Bytes → Bytes → Prop
  /-- There is no locator. -/
  | absent {wire : Bytes} (habsent : AbsentForm wire) : LocatorForm [] wire
  /-- There is a locator. -/
  | present {octets wire : Bytes} (hstring : StringForm octets wire) : LocatorForm octets wire

/-- Octets that write the value of a column. -/
inductive ValueForm (column : Column) : ColumnValue → Bytes → Prop
  /-- There is no value. -/
  | null {wire : Bytes} (htype : column.type.isLob = false) (habsent : AbsentForm wire) :
    ValueForm column .null wire
  /-- There is a value. -/
  | bytes {octets wire : Bytes} (htype : column.type.isLob = false) (hne : octets ≠ [])
      (hstring : StringForm octets wire) :
    ValueForm column (.bytes octets) wire
  /-- There is no large object. -/
  | noLob {wire : Bytes} (htype : column.type.isLob = true) (hlength : IntegerForm .four 0 wire) :
    ValueForm column .null wire
  /-- There is a large object, which is announced by a number other than zero. -/
  | lob {locator : LobLocator} {announced : Nat} {front sizes wire : Bytes}
      (htype : column.type.isLob = true) (hne : announced ≠ 0)
      (hannounced : IntegerForm .four announced front)
      (hsizes : SizesForm column.type locator sizes)
      (hlocator : LocatorForm locator.locator wire) :
    ValueForm column (.lob locator) (front ++ (sizes ++ wire))

/-! ## Bit vectors -/

/-- The bit of a column is there and is clear. -/
def ClearBit (bits : Option Bytes) (index : Nat) : Prop :=
  ∃ octets octet, bits = some octets ∧ octets[index / 8]? = some octet ∧
    octet.toNat / 2 ^ (index % 8) % 2 = 0

/-- Octets that write the values of the columns from position `index` on, where the values that the
row before has there are given. A value is left out if its column is marked, and then it is that of
the row before. -/
inductive ValuesForm (bits : Option Bytes) :
    Nat → List Column → List ColumnValue → List ColumnValue → Bytes → Prop
  /-- There are no more columns. -/
  | nil (index : Nat) (previous : List ColumnValue) : ValuesForm bits index [] previous [] []
  /-- The value is sent. -/
  | sent {index : Nat} {column : Column} {columns : List Column} {value : ColumnValue}
      {previous values : List ColumnValue} {front wire : Bytes} (hbit : ¬ClearBit bits index)
      (hvalue : ValueForm column value front)
      (hrest : ValuesForm bits (index + 1) columns previous.tail values wire) :
    ValuesForm bits index (column :: columns) previous (value :: values) (front ++ wire)
  /-- The value is left out. -/
  | leftOut {index : Nat} {column : Column} {columns : List Column} {value : ColumnValue}
      {previous values : List ColumnValue} {wire : Bytes} (hbit : ClearBit bits index)
      (hsame : previous.head? = some value)
      (hrest : ValuesForm bits (index + 1) columns previous.tail values wire) :
    ValuesForm bits index (column :: columns) previous (value :: values) wire

/-- Octets that write a bit vector for a number of columns. -/
def VectorForm (columns : Nat) (octets wire : Bytes) : Prop :=
  ∃ sent front, IntegerForm .two sent front ∧ octets.length = (columns + 7) / 8 ∧
    wire = front ++ octets

/-- Octets that write the bit vector in a header, if there is one. -/
inductive AttachedForm : Option Bytes → Bytes → Prop
  /-- There is none. -/
  | none {wire : Bytes} (hlength : IntegerForm .four 0 wire) : AttachedForm none wire
  /-- There is one behind its length and an octet. -/
  | some {octets length : Bytes} (octet : UInt8) (hne : octets ≠ [])
      (hlength : IntegerForm .four octets.length length) :
    AttachedForm (some octets) (length ++ ([octet] ++ octets))

/-- Octets that write a byte string that is announced by a number other than zero. -/
inductive AnnouncedForm : Bytes → Prop
  /-- There is none. -/
  | none {wire : Bytes} (hannounced : IntegerForm .four 0 wire) : AnnouncedForm wire
  /-- There is one. -/
  | some {announced : Nat} {front octets wire : Bytes} (hne : announced ≠ 0)
      (hannounced : IntegerForm .four announced front) (hstring : StringForm octets wire) :
    AnnouncedForm (front ++ wire)

/-- Octets that write a header of rows: flags, the number of requests, the iteration, the number of
iterations, the length of the buffer, a bit vector, and a byte string that nobody looks at. -/
inductive HeaderForm : Option Bytes → Bytes → Prop
  /-- The fields in their order. -/
  | fields {bits : Option Bytes} {requests iteration iterations length : Nat}
      {wire₁ wire₂ wire₃ wire₄ wire₅ wire₆ : Bytes} (flags : UInt8)
      (hrequests : IntegerForm .two requests wire₁) (hiteration : IntegerForm .four iteration wire₂)
      (hiterations : IntegerForm .four iterations wire₃) (hlength : IntegerForm .two length wire₄)
      (hattached : AttachedForm bits wire₅) (hannounced : AnnouncedForm wire₆) :
    HeaderForm bits
      ([flags] ++ (wire₁ ++ (wire₂ ++ (wire₃ ++ (wire₄ ++ (wire₅ ++ wire₆))))))

/-! ## Everything can be written -/

/-- Every value that a column may have can be written. -/
lemma ValueForm.exists_of_admits {column : Column} {value : ColumnValue}
    (h : column.Admits value) : ∃ wire, ValueForm column value wire := by
  have hzero : IntegerForm .four 0 [0] := ⟨[], rfl, rfl, rfl⟩
  cases value with
  | null =>
    cases htype : column.type.isLob with
    | false => exact ⟨[0], .null htype (.inl rfl)⟩
    | true => exact ⟨[0], .noLob htype hzero⟩
  | bytes octets => exact ⟨_, .bytes h.1 h.2 (.byteString h.2)⟩
  | lob locator =>
    obtain ⟨htype, hfile⟩ := h
    have hone : IntegerForm .four 1 [1, 1] := ⟨[1], rfl, rfl, rfl⟩
    have hsizes : ∃ sizes, SizesForm column.type locator sizes := by
      by_cases hbfile : column.type = .bfile
      · rw [hbfile]
        exact ⟨[], .file (hfile hbfile).1 (hfile hbfile).2⟩
      · exact ⟨_, .sizes hbfile (.ub8 locator.size) (.ub4 locator.chunkSize)⟩
    have hlocator : ∃ wire, LocatorForm locator.locator wire := by
      rcases hempty : locator.locator with _ | ⟨octet, octets⟩
      · exact ⟨[0], .absent (.inl rfl)⟩
      · exact ⟨_, .present (.byteString (by simp))⟩
    obtain ⟨sizes, hsizes⟩ := hsizes
    obtain ⟨wire, hlocator⟩ := hlocator
    exact ⟨_, .lob htype (by decide) hone hsizes hlocator⟩
  | duplicate => exact absurd h id

/-- **Every row** can be written, whatever columns are marked among those whose values are the same
as in the row before. -/
lemma ValuesForm.exists_of_admits {bits : Option Bytes} {index : Nat} {columns : List Column}
    {previous values : List ColumnValue} (hadmits : List.Forall₂ Column.Admits columns values)
    (hbits : ∀ position < columns.length, ClearBit bits (index + position) →
      previous[position]? = values[position]?) :
    ∃ wire, ValuesForm bits index columns previous values wire := by
  induction hadmits generalizing index previous with
  | nil => exact ⟨[], .nil index previous⟩
  | @cons column value columns values hvalue _ ih =>
    have hrest : ∀ position < columns.length, ClearBit bits (index + 1 + position) →
        previous.tail[position]? = values[position]? := by
      intro position hlt hclear
      have hsame := hbits (position + 1) (by simpa using hlt)
        (by rwa [Nat.add_assoc, Nat.add_comm 1] at hclear)
      simpa using hsame
    obtain ⟨wire, hwire⟩ := ih hrest
    by_cases hbit : ClearBit bits index
    · refine ⟨wire, .leftOut hbit ?_ hwire⟩
      simpa [List.head?_eq_getElem?] using hbits 0 (by simp) hbit
    · obtain ⟨front, hfront⟩ := ValueForm.exists_of_admits hvalue
      exact ⟨front ++ wire, .sent hbit hfront hwire⟩

/-! ## What readers make of it -/

lemma isUnchanged_eq_true_iff {bits : Option Bytes} {index : Nat} :
    isUnchanged bits index = true ↔ ClearBit bits index := by
  unfold isUnchanged ClearBit
  rcases bits with _ | octets
  · simp
  · rcases hoctet : octets[index / 8]? with _ | octet
    · simp [hoctet]
    · simp [hoctet, Nat.testBit_eq_decide_div_mod_eq]

/-- What is written is the value of a column, and not only a mark. -/
lemma ValueForm.ne_duplicate {column : Column} {value : ColumnValue} {wire : Bytes}
    (h : ValueForm column value wire) : value ≠ .duplicate := by
  cases h <;> simp

/-- If all values of the row before are there, then so are those of a row that is written. -/
lemma ValuesForm.duplicate_notMem {bits : Option Bytes} {index : Nat} {columns : List Column}
    {previous values : List ColumnValue} {wire : Bytes}
    (h : ValuesForm bits index columns previous values wire)
    (hprevious : .duplicate ∉ previous) : .duplicate ∉ values := by
  induction h with
  | nil => exact List.not_mem_nil
  | sent _ hvalue _ ih =>
    have hrest := ih fun hmem => hprevious (List.mem_of_mem_tail hmem)
    simp [hvalue.ne_duplicate.symm, hrest]
  | leftOut _ hsame _ ih =>
    have hrest := ih fun hmem => hprevious (List.mem_of_mem_tail hmem)
    have hvalue := List.mem_of_mem_head? hsame
    rw [List.mem_cons, not_or]
    exact ⟨fun heq => hprevious (heq ▸ hvalue), hrest⟩

namespace Decode.Reads

variable {wire : Bytes}

/-- The sizes of a large object are read, and those of a file are not. -/
lemma lobSizes {type : DataType} {locator : LobLocator} (h : SizesForm type locator wire) :
    (Decode.lobSizes type).Reads wire (locator.size, locator.chunkSize) := by
  cases h with
  | file hsize hchunk =>
    rw [hsize, hchunk]
    exact Reads.pure _
  | sizes htype hsize hchunk =>
    have hsize := Reads.ub8 hsize
    have hchunk := Reads.ub4 hchunk
    rw [UInt64.ofNat_toNat] at hsize
    rw [UInt32.ofNat_toNat] at hchunk
    unfold Decode.lobSizes
    rw [if_neg htype]
    exact hsize.bind (hchunk.map _)

/-- A locator is read; one that was left away is empty. -/
lemma locator {octets : Bytes} (h : LocatorForm octets wire) :
    ∃ read, Decode.byteString.Reads wire read ∧ read.getD [] = octets := by
  cases h with
  | absent habsent => exact ⟨none, byteString_absent habsent, rfl⟩
  | present hstring => exact ⟨_, byteString hstring, rfl⟩

/-- A column whose values can be sent has large objects or plain values. -/
lemma columnValue_eq {column : Column} (h : column.IsRoutable) :
    Decode.columnValue column =
      if column.type.isLob then Decode.lobValue column.type else Decode.plainValue := by
  obtain ⟨htype, hsize⟩ := h
  unfold Decode.columnValue
  cases hcase : column.type <;> simp_all [DataType.isLob]

/-- **The value of a column** is read. -/
lemma columnValue {column : Column} {value : ColumnValue} (hroutable : column.IsRoutable)
    (h : ValueForm column value wire) : (Decode.columnValue column).Reads wire value := by
  rw [columnValue_eq hroutable]
  cases h with
  | null htype habsent =>
    rw [htype]
    have hbind : Decode.plainValue.Reads (wire ++ []) .null :=
      (byteString_absent habsent).bind (Reads.pure _)
    rwa [List.append_nil] at hbind
  | bytes htype hne hstring =>
    rw [htype]
    have hbind : Decode.plainValue.Reads (wire ++ []) _ :=
      (byteString hstring).bind (Reads.pure _)
    rwa [List.append_nil] at hbind
  | noLob htype hlength =>
    rw [htype]
    have hbind : (Decode.lobValue column.type).Reads (wire ++ []) .null :=
      (Reads.ub4 hlength).bind (Reads.pure _)
    rwa [List.append_nil] at hbind
  | @lob locator announced _ _ _ htype hne hannounced hsizes hlocator =>
    rw [htype]
    obtain ⟨read, hread, hoctets⟩ := Reads.locator hlocator
    have hsaid : UInt32.ofNat announced ≠ 0 := fun hzero =>
      hne (hannounced.toNat_ofNat.symm.trans (congrArg UInt32.toNat hzero))
    refine (Reads.ub4 hannounced).bind ?_
    rw [if_neg hsaid]
    refine (lobSizes hsizes).bind ?_
    have hmap := hread.map fun octets =>
      ColumnValue.lob ⟨locator.size, locator.chunkSize, octets.getD []⟩
    rwa [hoctets] at hmap

/-- A bit vector is read. -/
lemma bitVector {columns : Nat} {octets : Bytes} (h : VectorForm columns octets wire) :
    (Decode.bitVector columns).Reads wire octets := by
  obtain ⟨sent, front, hsent, hlength, rfl⟩ := h
  refine (Reads.skipUb2 hsent).bind ?_
  rw [← hlength]
  exact Reads.take octets

lemma attachedBits {bits : Option Bytes} (h : AttachedForm bits wire) :
    Decode.attachedBits.Reads wire bits := by
  cases h with
  | none hlength =>
    have hbind : Decode.attachedBits.Reads (wire ++ []) Option.none :=
      (Reads.ub4 hlength).bind (Reads.pure _)
    rwa [List.append_nil] at hbind
  | some octet hne hlength =>
    refine (Reads.ub4 hlength).bind ?_
    rw [hlength.toNat_ofNat, if_neg (by simpa using hne)]
    exact (Reads.skip [octet]).bind ((Reads.take _).map Option.some)

/-- What is announced is passed over. -/
lemma skipAnnounced {α : Type} (value : α) (h : AnnouncedForm wire) :
    Reads (do
      Decode.skipAnnounced ((← Decode.ub4) > 0)
      return value) wire value := by
  cases h with
  | none hannounced =>
    have hskip : (Decode.skipAnnounced (UInt32.ofNat 0 > 0)).Reads [] () := Reads.pure ()
    rw [← List.append_nil wire]
    exact (Reads.ub4 hannounced).bind (hskip.map fun _ => value)
  | @some announced front octets wire hne hannounced hstring =>
    have hsaid : UInt32.ofNat announced > 0 := by
      rw [gt_iff_lt, UInt32.lt_iff_toNat_lt, hannounced.toNat_ofNat]
      exact Nat.pos_of_ne_zero hne
    have hskip : (Decode.skipAnnounced (UInt32.ofNat announced > 0)).Reads wire () := by
      unfold Decode.skipAnnounced
      rw [if_pos (by simpa using hsaid)]
      exact Reads.skipByteString hstring
    exact (Reads.ub4 hannounced).bind (hskip.map fun _ => value)

/-- **A header of rows** is read. -/
lemma rowHeader {bits : Option Bytes} (h : HeaderForm bits wire) :
    Decode.rowHeader.Reads wire bits := by
  cases h with
  | fields flags hrequests hiteration hiterations hlength hattached hannounced =>
    refine (Reads.skip [flags]).bind ?_
    refine (Reads.skipUb2 hrequests).bind ?_
    refine (Reads.skipUb4 hiteration).bind ?_
    refine (Reads.skipUb4 hiterations).bind ?_
    refine (Reads.skipUb2 hlength).bind ?_
    refine (Reads.attachedBits hattached).bind ?_
    exact Reads.skipAnnounced bits hannounced

end Decode.Reads

/-! ## Rows -/

/-- Only what is marked as unchanged is filled in. -/
lemma fillUnchanged_cons {value : ColumnValue} (h : value ≠ .duplicate)
    (previous rest : List ColumnValue) :
    fillUnchanged previous (value :: rest) = value :: fillUnchanged previous.tail rest := by
  cases value with
  | duplicate => exact absurd rfl h
  | _ => rfl

/-- **A row** is read up to what was left out, which is then filled in.

**Proof sketch.** Induction on the columns, along the row before: a value that was sent is read as
it is, and for one that was left out the row before has the value at its front. -/
lemma ValuesForm.reads {bits : Option Bytes} {index : Nat} {columns : List Column}
    {previous values : List ColumnValue} {wire : Bytes}
    (h : ValuesForm bits index columns previous values wire)
    (hroutable : ∀ column ∈ columns, column.IsRoutable) :
    ∃ read, (Decode.rowFrom bits index columns).Reads wire read ∧
      fillUnchanged previous read = values := by
  induction h with
  | nil index previous =>
    exact ⟨[], Decode.Reads.pure [], by rw [fillUnchanged]⟩
  | @sent index column columns value previous values front wire hbit hvalue hrest ih =>
    obtain ⟨hcolumn, hcolumns⟩ := List.forall_mem_cons.1 hroutable
    obtain ⟨read, hread, hfill⟩ := ih hcolumns
    refine ⟨value :: read, ?_, ?_⟩
    · unfold Decode.rowFrom
      rw [if_neg (by rwa [isUnchanged_eq_true_iff])]
      exact (Decode.Reads.columnValue hcolumn hvalue).bind (hread.map fun values => value :: values)
    · rw [fillUnchanged_cons hvalue.ne_duplicate, hfill]
  | @leftOut index column columns value previous values wire hbit hsame hrest ih =>
    obtain ⟨-, hcolumns⟩ := List.forall_mem_cons.1 hroutable
    obtain ⟨read, hread, hfill⟩ := ih hcolumns
    refine ⟨.duplicate :: read, ?_, ?_⟩
    · unfold Decode.rowFrom
      rw [if_pos (isUnchanged_eq_true_iff.2 hbit)]
      exact (Decode.Reads.pure ColumnValue.duplicate).bind
        (hread.map fun values => ColumnValue.duplicate :: values)
    · rw [fillUnchanged, hsame, hfill]
      rfl

end TnsClient
