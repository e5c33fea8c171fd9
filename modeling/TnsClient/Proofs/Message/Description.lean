import TnsClient.Proofs.Message.ErrorBlock

set_option autoImplicit false

/-!
# Descriptions of columns as a server writes them

A server describes the columns of a query in as many records as there are columns. Which fields a
record has depends on the field version, and most of them may be left empty; an octet too many or too
few in one record would shift all that come behind it. Here a server is given that has something to
say in every field; the client makes of its octets just the columns, one by one.

## Main definitions

* `TnsClient.Column.Unread`, `TnsClient.Description.Unread` — what a server says in the fields that
  are passed over.
* `TnsClient.Column.InRange` — columns that can be described.
* `TnsClient.Encode.column`, `TnsClient.Encode.description` — the octets of a description.

## Main results

* `TnsClient.Decode.Reads.column` — the record of one column.
* `TnsClient.Decode.description_read_back` — the whole description.
-/

namespace TnsClient

/-! ## What a server says -/

/-- What a server says in those fields of a column that a client passes over. -/
structure Column.Unread where
  /-- The flags. -/
  flags : UInt8
  /-- The greatest number of elements of an array. -/
  elements : UInt32
  /-- More flags. -/
  moreFlags : UInt64
  /-- The object identifier of the type. -/
  objectId : Option Notice
  /-- The version of the type. -/
  version : UInt16
  /-- The character set. -/
  charset : UInt16
  /-- The size that was declared, where the size of the buffer counts. -/
  size : UInt32
  /-- The identifier of the collation. -/
  collation : UInt32
  /-- The length of the name in old versions. -/
  nameLength : UInt8
  /-- The position of the column. -/
  position : UInt16
  /-- The flags of the user. -/
  userFlags : UInt32

/-- What a server says in those fields of a description that a client passes over. -/
structure Description.Unread where
  /-- The byte string in front of it. -/
  front : Bytes
  /-- The greatest size of a row. -/
  rowSize : UInt32
  /-- The octet in front of the columns. -/
  mark : UInt8
  /-- The date. -/
  date : Option Notice
  /-- Four numbers behind it. -/
  numbers : Vector UInt32 4
  /-- The key of the query. -/
  key : Option Notice

/-- A text that is there is not empty, and 32 bits say its length. -/
def Text.Countable (said : Option String) : Prop :=
  ∀ text ∈ said, text ≠ "" ∧ (Utf8.encode text).length < UInt32.size

instance (said : Option String) : Decidable (Text.Countable said) :=
  inferInstanceAs (Decidable (∀ text ∈ said, text ≠ "" ∧ (Utf8.encode text).length < UInt32.size))

/-- **The columns that can be described**: 32 bits say the lengths of their texts, those but the name
are not empty where they are there, a domain is named only to a client that knows of domains, and the
size of raw octets is that of their buffer. -/
structure Column.InRange (caps : Capabilities) (column : Column) : Prop where
  name : (Utf8.encode column.name).length < UInt32.size
  schema : Text.Countable column.schema
  typeName : Text.Countable column.typeName
  domainSchema : Text.Countable column.domainSchema
  domainName : Text.Countable column.domainName
  domain : caps.atLeast FieldVersion.v23_1 = false →
    column.domainSchema = none ∧ column.domainName = none
  raw : column.type = .raw → column.maxSize = column.bufferSize

/-! ## How it says it -/

namespace Encode

/-- A text behind its length, only the length if it is empty. -/
def countedText (text : String) : Bytes :=
  let octets := Utf8.encode text
  count octets.length ++ if octets.isEmpty then [] else byteString octets

/-- Schema and name of a domain, which an old client does not know of. -/
def domainTexts (caps : Capabilities) (column : Column) : Bytes :=
  if caps.atLeast FieldVersion.v23_1 then
    countedText (column.domainSchema.getD "") ++ countedText (column.domainName.getD "")
  else []

/-- **The record of a column**, with what is passed over. -/
def column (caps : Capabilities) (column : Column) (unread : Column.Unread) : Bytes :=
  [column.type.code] ++ [unread.flags] ++ [column.precision.toUInt8] ++ [column.scale.toUInt8] ++
    ub4 column.bufferSize ++ ub4 unread.elements ++ ub8 unread.moreFlags ++
    notice unread.objectId ++ ub2 unread.version ++ ub2 unread.charset ++ [column.charsetForm] ++
    ub4 (if column.type = .raw then unread.size else column.maxSize) ++
    (if caps.atLeast FieldVersion.v12_2 then ub4 unread.collation else []) ++
    [if column.nullable then 1 else 0] ++ [unread.nameLength] ++ countedText column.name ++
    countedText (column.schema.getD "") ++ countedText (column.typeName.getD "") ++
    ub2 unread.position ++ ub4 unread.userFlags ++ domainTexts caps column

/-- **The description of columns**, with what is passed over. -/
def description (caps : Capabilities) (columns : List (Column × Column.Unread))
    (unread : Description.Unread) : Bytes :=
  byteString unread.front ++ ub4 unread.rowSize ++ count columns.length ++
    batch unread.mark (fun entry => column caps entry.1 entry.2) columns ++ notice unread.date ++
    ub4 unread.numbers[0] ++ ub4 unread.numbers[1] ++ ub4 unread.numbers[2] ++
    ub4 unread.numbers[3] ++ notice unread.key

end Encode

/-! ## What a client makes of the parts -/

namespace Decode.Reads

variable {α : Type}

/-- What is there only under a condition is passed over under it. -/
lemma bind_onlyIf {step : Decode Unit} {next : Decode α} {octets rest : Bytes} {value : α}
    (condition : Bool) (hstep : step.Reads octets ()) (hnext : next.Reads rest value) :
    Reads (if condition then step >>= fun _ => next else next)
      ((if condition then octets else []) ++ rest) value := by
  split_ifs
  · exact hstep.bind hnext
  · exact hnext

/-- A text behind its length is read, an empty one as none. -/
lemma countedText (field : String) {text : String}
    (h : (Utf8.encode text).length < UInt32.size) :
    (Decode.countedText field).Reads (Encode.countedText text)
      (if text = "" then none else some text) := by
  unfold Decode.countedText Encode.countedText
  refine (Reads.ub4 (.count h)).bind ?_
  by_cases hempty : text = ""
  · subst hempty
    exact Reads.pure none
  · have hoctets : Utf8.encode text ≠ [] := mt Utf8.encode_eq_nil_iff.1 hempty
    have hlength : UInt32.ofNat (Utf8.encode text).length ≠ 0 := by
      intro hzero
      have hsaid := congrArg UInt32.toNat hzero
      rw [UInt32.toNat_ofNat_of_lt' h] at hsaid
      exact hoctets (List.length_eq_zero_iff.1 hsaid)
    have hread := text_self field text
    rw [if_neg (by simpa using hoctets)] at hread
    rw [if_neg hlength, if_neg hempty, if_neg (by simpa using hoctets)]
    exact hread

/-- **A text that may be left out** is read, and none where it was. -/
lemma countedText_getD (field : String) {said : Option String} (h : Text.Countable said) :
    (Decode.countedText field).Reads (Encode.countedText (said.getD "")) said := by
  rcases said with _ | text
  · exact countedText field (by decide : (Utf8.encode "").length < UInt32.size)
  · obtain ⟨hne, hlt⟩ := h text rfl
    have hread := countedText field hlt
    rwa [if_neg hne] at hread

/-- A data type is read from its number. -/
lemma dataType (type : DataType) : Decode.dataType.Reads [type.code] type := by
  rw [← List.append_nil [type.code]]
  refine (Reads.u8 type.code).bind ?_
  rw [DataType.ofCode?_code]
  exact Reads.pure type

/-- A signed octet is read. -/
lemma i8 (value : Int8) : Decode.i8.Reads [value.toUInt8] value :=
  (Reads.u8 value.toUInt8).map UInt8.toInt8

/-- The object identifier of a type is passed over. -/
lemma skipObjectId (notice : Option Notice) :
    Decode.skipObjectId.Reads (Encode.notice notice) () := by
  unfold Decode.skipObjectId Encode.notice
  refine (ub4_self _).bind ?_
  rcases notice with _ | notice
  · exact Reads.pure ()
  · have hannounced : Encode.noticeNumber (some notice) > 0 :=
      UInt32.pos_iff_ne_zero.2 notice.number_ne_zero
    rw [if_pos hannounced]
    exact (byteString_self notice.octets).map fun _ => ()

/-- **The texts of a domain** are read. -/
lemma domainTexts {caps : Capabilities} {column : Column} (h : column.InRange caps) :
    (Decode.domainTexts caps).Reads (Encode.domainTexts caps column)
      (column.domainSchema, column.domainName) := by
  unfold Decode.domainTexts Encode.domainTexts
  split_ifs with hknown
  · refine (countedText_getD _ h.domainSchema).bind ?_
    exact (countedText_getD _ h.domainName).map fun name => (column.domainSchema, name)
  · obtain ⟨hschema, hname⟩ := h.domain (by simpa using hknown)
    rw [hschema, hname]
    exact Reads.pure (none, none)

/-- **The record of a column** is read. -/
lemma column {caps : Capabilities} {column : Column} (unread : Column.Unread)
    (h : column.InRange caps) :
    (Decode.column caps).Reads (Encode.column caps column unread) column := by
  have hname : (if column.name = "" then none else some column.name).getD "" = column.name := by
    split_ifs with hempty
    · exact hempty.symm
    · rfl
  have hnullable : ((if column.nullable then 1 else 0 : UInt8) != 0) = column.nullable := by
    cases column.nullable <;> rfl
  have hsize : (if column.type = .raw then column.bufferSize
      else if column.type = .raw then unread.size else column.maxSize) = column.maxSize := by
    split_ifs with hraw
    · exact (h.raw hraw).symm
    · rfl
  rw [← List.append_nil (Encode.column _ _ _)]
  unfold Decode.column Encode.column
  simp only [List.append_assoc]
  refine (dataType _).bind ((skip [_]).bind ((i8 _).bind ((i8 _).bind ?_)))
  refine (ub4_self _).bind ((skipUb4 (.ub4 _)).bind ((skipUb8 (.ub8 _)).bind ?_))
  refine (skipObjectId _).bind ((skipUb2 (.ub2 _)).bind ((skipUb2 (.ub2 _)).bind ?_))
  refine (u8 _).bind ((ub4_self _).bind (bind_onlyIf _ (skipUb4 (.ub4 _)) ?_))
  refine (u8 _).bind ((skip [_]).bind ((countedText _ h.name).bind ?_))
  refine (countedText_getD _ h.schema).bind ((countedText_getD _ h.typeName).bind ?_)
  refine (skipUb2 (.ub2 _)).bind ((skipUb4 (.ub4 _)).bind ((domainTexts h).bind ?_))
  rw [hname, hnullable, hsize]
  exact Reads.pure column

end Decode.Reads

namespace Decode

/-- **A description** is read. -/
lemma Reads.description {caps : Capabilities} {columns : List (Column × Column.Unread)}
    (unread : Description.Unread) (h : ∀ entry ∈ columns, entry.1.InRange caps)
    (hlength : columns.length < UInt32.size) :
    (Decode.description caps).Reads (Encode.description caps columns unread)
      (columns.map Prod.fst) := by
  have hcolumns : (Decode.batch columns.length (Decode.column caps)).Reads
      (Encode.batch unread.mark (fun entry => Encode.column caps entry.1 entry.2) columns)
      (columns.map Prod.fst) :=
    batch _ fun entry hentry => column entry.2 (h entry hentry)
  rw [← List.append_nil (Encode.description _ _ _)]
  unfold Decode.description Encode.description
  simp only [Encode.notice, List.append_assoc]
  refine (skipByteString_self _).bind ((skipUb4 (.ub4 _)).bind ?_)
  refine (Reads.ub4 (.count hlength)).bind ?_
  rw [UInt32.toNat_ofNat_of_lt' hlength]
  refine hcolumns.bind ?_
  refine (ub4_self _).bind ((notice _).bind ((skipUb4 (.ub4 _)).bind ?_))
  refine (skipUb4 (.ub4 _)).bind ((skipUb4 (.ub4 _)).bind ((skipUb4 (.ub4 _)).bind ?_))
  exact (ub4_self _).bind ((notice _).bind (Reads.pure _))

/-- **Descriptions read back.** A server that has something to say in every field describes any
number of columns, each of any type that a client knows, with texts of any lengths, for any field
version; whatever it says in the fields that are passed over, and whatever stands behind the
description, the client makes just those columns of its octets, in their order, and leaves just what
stands behind. The only bounds are those of the fields that say how many columns there are and how
long their texts are, which have 32 bits. -/
theorem description_read_back (caps : Capabilities) (columns : List (Column × Column.Unread))
    (unread : Description.Unread) (hrange : ∀ entry ∈ columns, entry.1.InRange caps)
    (hlength : columns.length < UInt32.size) (rest : Bytes) :
    Decode.description caps (Encode.description caps columns unread ++ rest) =
      .ok (columns.map Prod.fst, rest) :=
  (Reads.description unread hrange hlength).complete rest

/-- A column of raw octets without a type of its own. -/
def rawColumn : Column × Column.Unread where
  fst := { name := "SCHLÜSSEL", type := .raw, bufferSize := 16, maxSize := 16, nullable := false }
  snd := {
    flags := 1, elements := 0, moreFlags := 0, objectId := none, version := 0, charset := 873
    size := 99, collation := 0, nameLength := 9, position := 1, userFlags := 0 }

/-- A column of objects in a domain. -/
def objectColumn : Column × Column.Unread where
  fst := {
    name := "PLACE", type := .object, scale := -3, charsetForm := 1, schema := some "GEO"
    typeName := some "POINT", domainName := some "MAP" }
  snd := {
    flags := 0, elements := 3, moreFlags := 0x1_0000_0000, objectId := some ⟨5, by decide, [7, 8]⟩
    version := 1, charset := 0, size := 0, collation := 16382, nameLength := 5, position := 2
    userFlags := 0 }

/-- Two columns are read back from in front of the end of the response. -/
theorem description_read_back_two_columns :
    let columns := [rawColumn, objectColumn]
    let unread : Description.Unread := {
      front := [1, 2], rowSize := 100, mark := 0, date := none, numbers := #v[0, 1, 2, 300]
      key := some ⟨3, by decide, [1, 2, 3]⟩ }
    (∀ entry ∈ columns, entry.1.InRange .initial) ∧ columns.length < UInt32.size ∧
      Decode.description .initial (Encode.description .initial columns unread ++ [29]) =
        .ok ([rawColumn.1, objectColumn.1], [29]) := by
  intro columns unread
  have hrange : ∀ entry ∈ columns, entry.1.InRange .initial := by
    intro entry hentry
    rcases List.mem_pair.1 hentry with rfl | rfl
    · exact ⟨by decide, by decide, by decide, by decide, by decide, by decide, by decide⟩
    · exact ⟨by decide, by decide, by decide, by decide, by decide, by decide, by decide⟩
  have hlength : columns.length < UInt32.size := by decide
  exact ⟨hrange, hlength, description_read_back .initial columns unread hrange hlength [29]⟩

end Decode

end TnsClient
