import TnsClient.Proofs.Message.SelfDelimiting
import TnsClient.Proofs.Wire.Signed

set_option autoImplicit false

/-!
# Error blocks as a server writes them

An error block has some thirty fields, most of which a client passes over. Some are there only for
newer field versions, some only where a number in front of them says so, and three are arrays of any
length. Here a server is given that has something to say in every field; the client makes of its
octets just the block, whatever it says in the fields that are passed over.

## Main definitions

* `TnsClient.Notice` — a byte string that is passed over, and the number that announces it.
* `TnsClient.ErrorBlock.Unread` — what a server says in the fields that are passed over.
* `TnsClient.ErrorBlock.InRange` — blocks that can be said.
* `TnsClient.Encode.errorBlock` — the octets of a block.

## Main results

* `TnsClient.Decode.Reads.sb2`, `TnsClient.Decode.Reads.notice`, `TnsClient.Decode.Reads.batch`,
  `TnsClient.Decode.Reads.rowId` — the parts of a block.
* `TnsClient.Decode.errorBlock_read_back` — the whole block.
-/

namespace TnsClient

/-! ## Texts -/

/-- Only the empty text has no octets. -/
lemma Utf8.encode_eq_nil_iff {text : String} : Utf8.encode text = [] ↔ text = "" := by
  constructor
  · intro h
    have hdecoded := Utf8.decode?_encode text
    rw [h] at hdecoded
    exact (Option.some.inj ((Utf8.decode?_encode "").symm.trans hdecoded)).symm
  · rintro rfl
    rfl

namespace Text

/-- The last character of a text is there, and is not blank. -/
def EndsInk (text : String) : Prop := ∃ last ∈ text.toList.getLast?, isBlank last = false

/-- Nothing is taken off the end of such a text. -/
lemma trimEnd_of_endsInk {text : String} (h : EndsInk text) : trimEnd text = text := by
  obtain ⟨last, hlast, hink⟩ := h
  obtain ⟨front, hfront⟩ := List.getLast?_eq_some_iff.1 hlast
  have hdrop : text.toList.reverse.dropWhile isBlank = text.toList.reverse := by
    rw [hfront, List.reverse_append]
    simp [hink]
  rw [trimEnd, hdrop, List.reverse_reverse, String.ofList_toList]

lemma ne_empty_of_endsInk {text : String} (h : EndsInk text) : text ≠ "" := by
  rintro rfl
  obtain ⟨last, hlast, -⟩ := h
  simp at hlast

end Text

/-! ## What a server says -/

/-- A byte string that a client passes over, and the number that announces it. -/
structure Notice where
  /-- The number. -/
  number : UInt32
  /-- Zero would announce that there is none. -/
  number_ne_zero : number ≠ 0
  /-- The byte string. -/
  octets : Bytes

/-- A message of a batch. -/
structure BatchMessage where
  /-- The number in front of it. -/
  number : UInt16
  /-- The text. -/
  text : String
  /-- The mark of its end. -/
  mark : Vector UInt8 2

/-- What a server says in those fields of an error block that a client passes over. -/
structure ErrorBlock.Unread where
  /-- The sequence number. -/
  sequence : UInt16
  /-- The current row. -/
  row : UInt32
  /-- The number of the error, in 16 bits. -/
  shortNumber : UInt16
  /-- The first element in error. -/
  first : UInt16
  /-- The last element in error. -/
  last : UInt16
  /-- The kind of SQL, whether it is fatal, flags, options of the cursor, and a parameter. -/
  details : Vector UInt8 5
  /-- The flags; the one that makes a block a warning is not among them. -/
  flags : UInt8
  /-- The partition, where no row is named. -/
  partition : UInt16
  /-- The octet behind the partition. -/
  filler : UInt8
  /-- The error of the operating system. -/
  system : UInt32
  /-- The number of the statement. -/
  statement : UInt8
  /-- The number of the call. -/
  call : UInt8
  /-- Padding. -/
  padding : UInt16
  /-- The successful iterations. -/
  iterations : UInt32
  /-- A description of the data. -/
  description : Option Notice
  /-- The octet in front of the numbers of a batch. -/
  numbersMark : UInt8
  /-- The octet in front of the positions of a batch. -/
  offsetsMark : UInt8
  /-- The octet in front of the messages of a batch. -/
  messagesMark : UInt8
  /-- The messages of a batch. -/
  messages : List BatchMessage
  /-- Their number has 16 bits. -/
  messages_lt : messages.length < UInt16.size
  /-- The kind of SQL, once more. -/
  kind : UInt32
  /-- A checksum. -/
  checksum : UInt32

/-- **The blocks that can be said**: the numbers of a batch and how many there are have 16 bits, and
32 bits say how many positions there are; a row is named by some number other than that of its
partition, which is not zero; and a text stands only with the number of an error, is not empty and
does not end in blanks. -/
structure ErrorBlock.InRange (block : ErrorBlock) : Prop where
  numbers : ∀ number ∈ block.batchNumbers, number.toNat < UInt16.size
  numbers_lt : block.batchNumbers.length < UInt16.size
  offsets_lt : block.batchOffsets.length < UInt32.size
  rowId : ∀ row ∈ block.rowId, row.rba ≠ 0 ∨ row.block ≠ 0 ∨ row.slot ≠ 0
  text : ∀ text ∈ block.text, block.number ≠ 0 ∧ Text.EndsInk text

/-! ## How it says it -/

namespace Encode

/-- A signed integer of 16 bits: its sign and the number of its octets, and then its magnitude in
the fewest octets. -/
def sb2 (value : Int16) : Bytes :=
  let magnitude := value.toInt.natAbs
  UInt8.ofNat ((if decide (value.toInt < 0) then 128 else 0) + fewestOctets magnitude) ::
    beBytes (fewestOctets magnitude) magnitude

/-- The number that announces a byte string, if there is one. -/
def noticeNumber (notice : Option Notice) : UInt32 := (notice.map Notice.number).getD 0

/-- A byte string, if there is one. -/
def noticeOctets (notice : Option Notice) : Bytes :=
  (notice.map fun notice => byteString notice.octets).getD []

/-- A byte string behind the number that announces it. -/
def notice (notice : Option Notice) : Bytes := ub4 (noticeNumber notice) ++ noticeOctets notice

/-- The entries of a batch: unless there are none, an octet stands in front of them. -/
def batch {α : Type} (mark : UInt8) (item : α → Bytes) (items : List α) : Bytes :=
  if items.isEmpty then [] else mark :: items.flatMap item

/-- A message of a batch. -/
def batchMessage (message : BatchMessage) : Bytes :=
  ub2 message.number ++ (byteString (Utf8.encode message.text) ++ message.mark.toList)

/-- The position of a row, or one in no block and no slot. -/
def rowId (partition : UInt16) (filler : UInt8) (row : Option RowId) : Bytes :=
  let said := row.getD { rba := 0, partition, block := 0, slot := 0 }
  ub4 said.rba ++ (ub2 said.partition ++ ([filler] ++ (ub4 said.block ++ ub2 said.slot)))

/-- The flags of an error block. -/
def blockFlags (flags : UInt8) (isWarning : Bool) : UInt8 :=
  flags &&& ~~~ErrorBlock.warningBit ||| if isWarning then ErrorBlock.warningBit else 0

/-- **An error block**, with what is passed over. -/
def errorBlock (caps : Capabilities) (block : ErrorBlock) (unread : ErrorBlock.Unread) : Bytes :=
  ub4 block.callStatus ++ ub2 unread.sequence ++ ub4 unread.row ++ ub2 unread.shortNumber ++
    ub2 unread.first ++ ub2 unread.last ++ ub2 block.cursor ++ sb2 block.position ++
    unread.details.toList ++ [blockFlags unread.flags block.isWarning] ++
    rowId unread.partition unread.filler block.rowId ++
    ub4 unread.system ++ [unread.statement] ++ [unread.call] ++ ub2 unread.padding ++
    ub4 unread.iterations ++ notice unread.description ++
    ub2 (UInt16.ofNat block.batchNumbers.length) ++
    batch unread.numbersMark (fun number => ub2 number.toUInt16) block.batchNumbers ++
    ub4 (UInt32.ofNat block.batchOffsets.length) ++
    batch unread.offsetsMark ub4 block.batchOffsets ++
    ub2 (UInt16.ofNat unread.messages.length) ++
    batch unread.messagesMark batchMessage unread.messages ++
    ub4 block.number ++ ub8 block.rowCount ++
    (if caps.atLeast FieldVersion.v20_1 then ub4 unread.kind ++ ub4 unread.checksum else []) ++
    (if block.number ≠ 0 then byteString (Utf8.encode (block.text.getD "")) else [])

end Encode

/-! ## What a client makes of the parts -/

namespace Decode.Reads

lemma ub2_self (number : UInt16) : Decode.ub2.Reads (Encode.ub2 number) number := by
  have hreads := Reads.ub2 (.ub2 number)
  rwa [UInt16.ofNat_toNat] at hreads

lemma ub8_self (number : UInt64) : Decode.ub8.Reads (Encode.ub8 number) number := by
  have hreads := Reads.ub8 (.ub8 number)
  rwa [UInt64.ofNat_toNat] at hreads

/-- **A signed integer** is read as it was written. -/
lemma sb2 (value : Int16) : Decode.sb2.Reads (Encode.sb2 value) value := by
  have hlow := value.le_toInt
  have hhigh := value.toInt_lt
  let magnitude := value.toInt.natAbs
  have hlt : magnitude < UInt16.size := by
    show value.toInt.natAbs < 65536
    omega
  have hlength : (beBytes (fewestOctets magnitude) magnitude).length ≤ Width.two.octets := by
    rw [length_beBytes]
    show fewestOctets magnitude ≤ 2
    unfold fewestOctets
    split_ifs <;> omega
  have hsaid : beNat (beBytes (fewestOctets magnitude) magnitude) = magnitude := by
    have hword := lt_fewestOctets (UInt64.ofNat magnitude)
    rw [UInt64.toNat_ofNat_of_lt' (lt_trans hlt (by decide))] at hword
    exact beNat_beBytes hword
  have hannounced : Announced (Encode.sb2 value) (decide (value.toInt < 0))
      (beBytes (fewestOctets magnitude) magnitude) [] := by
    refine ⟨lt_of_le_of_lt hlength (by decide), ?_⟩
    rw [length_beBytes, List.append_nil]
    rfl
  have hvalue : signedValue (decide (value.toInt < 0))
      (beBytes (fewestOctets magnitude) magnitude) = value.toInt := by
    simp only [signedValue, hsaid, decide_eq_true_eq, magnitude]
    split_ifs <;> omega
  have hread := Decode.readSigned_of_announced hannounced hlength
  rw [hsaid, if_pos (lt_trans hlt (by decide)), hvalue,
    (Width.two.bmod_eq_self_iff value.toInt).2 ⟨hlow, hhigh⟩] at hread
  obtain ⟨read, rest, hsb2, hpure⟩ := bind_eq_ok_iff.1 hread
  obtain ⟨hsame, rfl⟩ := Prod.mk.inj (Except.ok.inj hpure)
  refine of_eq ?_
  rw [hsb2, Int16.toInt_inj.1 hsame]

/-- As many octets as are passed over. -/
lemma skip_vector {count : Nat} (octets : Vector UInt8 count) :
    (Decode.skip count).Reads octets.toList () := by
  have hreads := Reads.skip octets.toList
  rwa [Vector.length_toList] at hreads

/-- A byte string is passed over, an empty one as well. -/
lemma skipByteString_self (octets : Bytes) :
    Decode.skipByteString.Reads (Encode.byteString octets) () := by
  rcases octets with _ | ⟨octet, octets⟩
  · exact of_eq rfl
  · exact skipByteString (.byteString (List.cons_ne_nil octet octets))

/-- **A byte string that was announced** is passed over. -/
lemma notice (notice : Option Notice) :
    (Decode.skipAnnounced (decide (Encode.noticeNumber notice > 0))).Reads
      (Encode.noticeOctets notice) () := by
  unfold Decode.skipAnnounced
  rcases notice with _ | notice
  · exact Reads.pure ()
  · have hannounced : decide (Encode.noticeNumber (some notice) > 0) = true :=
      decide_eq_true (UInt32.pos_iff_ne_zero.2 notice.number_ne_zero)
    rw [if_pos hannounced]
    exact skipByteString_self notice.octets

/-- **The entries of a batch** are read one by one. -/
lemma batch {α β : Type} {item : Decode β} {octets : α → Bytes} {value : α → β} {items : List α}
    (mark : UInt8) (h : ∀ thing ∈ items, item.Reads (octets thing) (value thing)) :
    (Decode.batch items.length item).Reads (Encode.batch mark octets items) (items.map value) := by
  rcases items with _ | ⟨first, rest⟩
  · exact Reads.pure []
  · exact (Reads.skip [mark]).bind (Reads.times_of_mem h)

/-- A message of a batch is passed over. -/
lemma skipBatchMessage (message : BatchMessage) :
    Decode.skipBatchMessage.Reads (Encode.batchMessage message) () := by
  unfold Decode.skipBatchMessage Encode.batchMessage
  refine (Reads.skipUb2 (.ub2 message.number)).bind ?_
  exact (Reads.text_self _ message.text).bind (skip_vector message.mark)

/-- **The position of a row** is read, and one in no block and no slot is none. -/
lemma rowId (partition : UInt16) (filler : UInt8) {row : Option RowId}
    (h : ∀ said ∈ row, said.rba ≠ 0 ∨ said.block ≠ 0 ∨ said.slot ≠ 0) :
    Decode.rowId.Reads (Encode.rowId partition filler row) row := by
  rw [← List.append_nil (Encode.rowId _ _ _)]
  unfold Decode.rowId Encode.rowId
  simp only [List.append_assoc]
  refine (Reads.ub4_self _).bind ((ub2_self _).bind ((Reads.skip [filler]).bind ?_))
  refine (Reads.ub4_self _).bind ((ub2_self _).bind ?_)
  rcases row with _ | said
  · exact Reads.pure none
  · dsimp only [Option.getD_some]
    rw [if_pos (h said rfl)]
    exact Reads.pure (some said)

/-- **The text of an error** is read as it was written, and worked on, where there can be one. -/
lemma errorText {α : Type} {number : UInt32} {said : Option String} (f : Option String → α)
    (h : ∀ text ∈ said, number ≠ 0 ∧ Text.EndsInk text) :
    Reads
      (if number ≠ 0 then do return f (← Decode.text "error message")
        else do return f (← Pure.pure none))
      (if number ≠ 0 then Encode.byteString (Utf8.encode (said.getD "")) else []) (f said) := by
  rcases said with _ | text
  · split_ifs
    · exact (text_self "error message" "").map f
    · exact Reads.pure (f none)
  · obtain ⟨hnumber, hink⟩ := h text rfl
    have hread := text_self "error message" text
    rw [if_neg (by simpa [Utf8.encode_eq_nil_iff] using Text.ne_empty_of_endsInk hink)] at hread
    rw [if_pos hnumber, if_pos hnumber]
    exact hread.map f

end Decode.Reads

/-- **The flag of a warning** is read as it was set. -/
lemma blockFlags_warning (flags : UInt8) (isWarning : Bool) :
    (Encode.blockFlags flags isWarning &&& ErrorBlock.warningBit != 0) = isWarning := by
  have hall : ∀ octet : Fin 256, ∀ isWarning : Bool,
      (Encode.blockFlags (UInt8.ofNat octet) isWarning &&& ErrorBlock.warningBit != 0) =
        isWarning := by
    decide +kernel
  simpa using hall ⟨flags.toNat, flags.toNat_lt⟩ isWarning

namespace Decode

/-- **An error block** is read. -/
lemma Reads.errorBlock (caps : Capabilities) {block : ErrorBlock} (unread : ErrorBlock.Unread)
    (h : block.InRange) :
    (Decode.errorBlock caps).Reads (Encode.errorBlock caps block unread) block := by
  have hnumbers : (block.batchNumbers.map UInt32.toUInt16).map UInt16.toUInt32 =
      block.batchNumbers := by
    rw [List.map_map]
    refine (List.map_congr_left fun number hnumber => ?_).trans (List.map_id _)
    exact UInt32.toNat_inj.1 (Nat.mod_eq_of_lt (h.numbers number hnumber))
  have htext : block.text.map Text.trimEnd = block.text :=
    (Option.map_congr fun text htext => Text.trimEnd_of_endsInk (h.text text htext).2).trans
      Option.map_id'
  rw [← List.append_nil (Encode.errorBlock _ _ _)]
  unfold Decode.errorBlock Encode.errorBlock
  simp only [Encode.notice, List.append_assoc]
  refine (ub4_self _).bind ((skipUb2 (.ub2 _)).bind ((skipUb4 (.ub4 _)).bind ?_))
  refine (skipUb2 (.ub2 _)).bind ((skipUb2 (.ub2 _)).bind ((skipUb2 (.ub2 _)).bind ?_))
  refine (ub2_self _).bind ((sb2 _).bind ((skip_vector _).bind ((u8 _).bind ?_)))
  refine (rowId _ _ h.rowId).bind ((skipUb4 (.ub4 _)).bind ((skip [_]).bind ((skip [_]).bind ?_)))
  refine (skipUb2 (.ub2 _)).bind ((skipUb4 (.ub4 _)).bind ?_)
  refine (ub4_self _).bind ((notice _).bind ?_)
  refine (ub2_self _).bind ?_
  rw [UInt16.toNat_ofNat_of_lt' h.numbers_lt]
  refine (batch _ fun number _ => ub2_self number.toUInt16).bind ((ub4_self _).bind ?_)
  rw [UInt32.toNat_ofNat_of_lt' h.offsets_lt]
  refine (batch _ fun offset _ => ub4_self offset).bind ((ub2_self _).bind ?_)
  rw [UInt16.toNat_ofNat_of_lt' unread.messages_lt]
  refine (batch _ fun message _ => skipBatchMessage message).bind ?_
  refine (ub4_self _).bind ((ub8_self _).bind ?_)
  rw [hnumbers, List.map_id', blockFlags_warning, List.append_nil]
  have hlast := errorText (fun text => { block with text := text.map Text.trimEnd }) h.text
  rw [htext] at hlast
  by_cases hnewer : caps.atLeast FieldVersion.v20_1 = true
  · rw [if_pos hnewer, if_pos hnewer, List.append_assoc]
    exact (skipUb4 (.ub4 _)).bind ((skipUb4 (.ub4 _)).bind hlast)
  · rw [if_neg hnewer, if_neg hnewer]
    exact hlast

/-- **Error blocks read back.** A server that has something to say in every field of an error block,
for any field version, writes it; whatever it says in the fields that are passed over, and whatever
stands behind the block, the client makes just that block of its octets, and leaves just what stands
behind. In particular the three arrays of a batch may have any number of entries, a row may be named
or not, and there may be a text or none. -/
theorem errorBlock_read_back (caps : Capabilities) (block : ErrorBlock) (unread : ErrorBlock.Unread)
    (hrange : block.InRange) (rest : Bytes) :
    Decode.errorBlock caps (Encode.errorBlock caps block unread ++ rest) = .ok (block, rest) :=
  (Reads.errorBlock caps unread hrange).complete rest

/-- The block about a batch of which two rows failed. -/
def batchBlock : ErrorBlock where
  number := 24381
  text := some "ORA-24381: error(s) in array DML"
  cursor := 7
  position := -3
  rowCount := 5
  rowId := some { rba := 0, partition := 2, block := 300, slot := 1 }
  batchNumbers := [1, 1400]
  batchOffsets := [2, 70000]

/-- What a server says besides: the texts of the two errors, and a description of the data. -/
def batchUnread : ErrorBlock.Unread where
  sequence := 1
  row := 0
  shortNumber := 24381
  first := 0
  last := 0
  details := #v[3, 0, 0, 0, 0]
  flags := 0x21
  partition := 0
  filler := 0
  system := 0
  statement := 0
  call := 1
  padding := 0
  iterations := 5
  description := some ⟨2, by decide, [1, 2]⟩
  numbersMark := 0
  offsetsMark := 0
  messagesMark := 0
  messages := [⟨1, "ORA-00001: schlüssel", #v[0, 0]⟩, ⟨1400, "", #v[0, 0]⟩]
  messages_lt := by decide
  kind := 0
  checksum := 0xDEADBEEF

/-- It is read back from in front of the end of the response. -/
theorem errorBlock_read_back_batch :
    batchBlock.InRange ∧
      Decode.errorBlock .initial (Encode.errorBlock .initial batchBlock batchUnread ++ [29]) =
        .ok (batchBlock, [29]) := by
  have hrange : batchBlock.InRange := {
    numbers := by
      intro number hnumber
      rcases List.mem_pair.1 hnumber with rfl | rfl <;> decide
    numbers_lt := by decide
    offsets_lt := by decide
    rowId := by decide
    text := by
      rintro text ⟨rfl⟩
      exact ⟨by decide, 'L', by decide, by decide⟩ }
  exact ⟨hrange, errorBlock_read_back .initial batchBlock batchUnread hrange [29]⟩

end Decode

end TnsClient
