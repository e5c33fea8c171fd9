import TnsClient.Link
import TnsClient.Proofs.Client.Transition
import TnsClient.Proofs.Decoder.Packets
import TnsClient.Proofs.Rows.Form

set_option autoImplicit false

/-!
# Rows on their way

The rows of a statement come in the answers to its execution and to the fetches behind it, in any
number of packets, and values that are the same as in the row before may be left out. What the
decoder remembers between messages and what the result remembers between answers have to fit
together for the rows to arrive as they were sent. They do, because both always agree with what the
server has told so far.

## Main definitions

* `TnsClient.Sender` — what a server has told of the rows of a statement.
* `TnsClient.Sender.Says`, `TnsClient.Sender.Answers`, `TnsClient.Sender.Exchange` — what it may say
  in a message, in an answer, and in all answers.
* `TnsClient.InFlight.collect` — what answers come to for a task in flight.

## Main results

* `TnsClient.Link.decoder_transmit` — a link prepares its decoder for each answer in the same way.
* `TnsClient.Sender.Says.heard` — decoder and result follow a message.
* `TnsClient.Sender.rows_arrive` — the rows arrive as they were sent.
-/

namespace TnsClient

/-! ## The server's side -/

/-- What a server has told of the rows of a statement. -/
structure Sender where
  /-- Whether the columns are known on the other side. -/
  described : Bool
  /-- The rows so far. -/
  sent : List (List ColumnValue) := []
  /-- The bit vector for the next row. -/
  bits : Option Bytes := none

namespace Sender

/-- The values of the last row, none if there is no row. -/
def last (sender : Sender) : List ColumnValue := sender.sent.getLast?.getD []

/-- The kinds of messages that rows are made of. -/
def rowKinds : List UInt8 :=
  [MessageKind.describe, MessageKind.rowHeader, MessageKind.bitVector, MessageKind.rowData]

/-- A message of a server, and what it has told then. A description of the columns takes back the
bit vector, and so does a row, for which it was meant. Of other messages it only matters that they
can be read. -/
inductive Says (capabilities : Capabilities) (columns : List Column) :
    Sender → Bytes → Sender → Prop
  /-- The columns. -/
  | description {sender : Sender} {wire : Bytes}
      (hread : (Decode.description capabilities).Reads wire columns) :
    Says capabilities columns sender (MessageKind.describe :: wire)
      { sender with described := true, bits := none }
  /-- The header of rows, which may hold a bit vector. -/
  | header {sender : Sender} {bits : Option Bytes} {wire : Bytes} (hform : HeaderForm bits wire) :
    Says capabilities columns sender (MessageKind.rowHeader :: wire)
      { sender with bits := bits <|> sender.bits }
  /-- A bit vector. -/
  | vector {sender : Sender} {octets wire : Bytes} (hdescribed : sender.described = true)
      (hform : VectorForm columns.length octets wire) :
    Says capabilities columns sender (MessageKind.bitVector :: wire)
      { sender with bits := some octets }
  /-- A row. -/
  | row {sender : Sender} {values : List ColumnValue} {wire : Bytes}
      (hdescribed : sender.described = true)
      (hform : ValuesForm sender.bits 0 columns sender.last values wire) :
    Says capabilities columns sender (MessageKind.rowData :: wire)
      { sender with sent := sender.sent ++ [values], bits := none }
  /-- Something else. -/
  | aside {sender : Sender} {kind : UInt8} {message : ServerMessage} {wire : Bytes}
      (hkind : kind ∉ rowKinds) (hgoes : message.endsPacket = false)
      (hread : (({ capabilities } : Decoder).message kind).Reads wire (message, { capabilities })) :
    Says capabilities columns sender (kind :: wire) sender

/-- Messages of a server, one behind the other. -/
inductive SaysAll (capabilities : Capabilities) (columns : List Column) :
    Sender → Bytes → Sender → Prop
  /-- There are no more messages. -/
  | nil (sender : Sender) : SaysAll capabilities columns sender [] sender
  /-- A message stands in front of others. -/
  | cons {sender sender' sender'' : Sender} {wire octets : Bytes}
      (htold : Says capabilities columns sender wire sender')
      (hrest : SaysAll capabilities columns sender' octets sender'') :
    SaysAll capabilities columns sender (wire ++ octets) sender''

/-- The end of a packet: nothing, or a message that ends it, behind which nothing matters. -/
inductive Ending : Bytes → Prop
  /-- The packet ends behind its messages. -/
  | nothing : Ending []
  /-- Output binds follow in another packet. -/
  | flushOutBinds (more : Bytes) : Ending (MessageKind.flushOutBinds :: more)
  /-- The end of the response is marked. -/
  | endOfResponse (more : Bytes) : Ending (MessageKind.endOfResponse :: more)

/-- The packets of an answer, each with its flags. -/
inductive Answers (capabilities : Capabilities) (columns : List Column) :
    Sender → List (UInt16 × Bytes) → Sender → Prop
  /-- There are no more packets. -/
  | nil (sender : Sender) : Answers capabilities columns sender [] sender
  /-- A packet comes before others. -/
  | cons {sender sender' sender'' : Sender} {octets ending : Bytes}
      {rest : List (UInt16 × Bytes)} (flags : UInt16)
      (htold : SaysAll capabilities columns sender octets sender')
      (hending : Ending ending) (hne : octets ++ ending ≠ [])
      (hfits : Decoder.Fits capabilities (octets ++ ending))
      (hrest : Answers capabilities columns sender' rest sender'') :
    Answers capabilities columns sender ((flags, octets ++ ending) :: rest) sender''

/-- The answers to the execution of a statement and to the fetches behind it. A bit vector is meant
for a row of the same answer. -/
inductive Exchange (capabilities : Capabilities) (columns : List Column) :
    Sender → List (List (UInt16 × Bytes)) → Sender → Prop
  /-- There are no more answers. -/
  | nil (sender : Sender) : Exchange capabilities columns sender [] sender
  /-- An answer comes before others. -/
  | cons {sender sender' sender'' : Sender} {answer : List (UInt16 × Bytes)}
      {rest : List (List (UInt16 × Bytes))}
      (hanswer : Answers capabilities columns { sender with bits := none } answer sender')
      (hrest : Exchange capabilities columns sender' rest sender'') :
    Exchange capabilities columns sender (answer :: rest) sender''

end Sender

/-! ## The client's side -/

/-- A decoder that expects an answer with rows, where the columns are given as far as they are
known. -/
def Decoder.expectingRows (decoder : Decoder) (columns : Option (List Column)) : Decoder :=
  { decoder with context := .statement }.setColumns columns

/-- **A link** lets its decoder expect rows of the columns that the statement in flight knows, both
when it sends the statement and when it asks for more rows. -/
lemma Link.decoder_transmit (link : Link) {flight : InFlight} {asked : Request}
    (h : (∃ request handle entry, flight = (Task.statement request handle).begin entry ∧
        asked = flight.task.request) ∨ flight.fetch? = some asked) :
    (link.transmit asked).decoder = link.decoder.expectingRows flight.result.columns := by
  rcases h with ⟨request, handle, entry, rfl, rfl⟩ | hfetch
  · rfl
  · obtain ⟨statement, handle, -, rfl⟩ := Client.fetch?_eq_some hfetch
    rfl

/-- What answers come to for a task in flight, or why they cannot be read. Before each answer the
decoder is told of the columns that are known by then. -/
def InFlight.collect (flight : InFlight) (decoder : Decoder) :
    List Bytes → Except DecodeError InFlight
  | [] => .ok flight
  | answer :: rest =>
    match (decoder.expectingRows flight.result.columns).stream answer with
    | (.error error, _) => .error error
    | (.ok messages, decoder, _) => (messages.foldl InFlight.hear flight).collect decoder rest

/-! ## Messages that are not about rows -/

/-- Whether a message brings columns or a row. -/
def ServerMessage.bringsRows : ServerMessage → Bool
  | .description _ | .row _ => true
  | _ => false

namespace Decoder

open Decode

/-- Two readers of a message read the same, which brings no rows, and leave each its decoder. -/
def ReadAside (decoder other : Decoder) (reader reader' : Decode (ServerMessage × Decoder)) :
    Prop :=
  ∀ input, (∃ error, reader input = .error error ∧ reader' input = .error error) ∨
    ∃ message rest, message.bringsRows = false ∧ reader input = .ok ((message, decoder), rest) ∧
      reader' input = .ok ((message, other), rest)

section

variable {decoder other : Decoder}

lemma ReadAside.ite {condition : Prop} [Decidable condition]
    {reader reader' alternative alternative' : Decode (ServerMessage × Decoder)}
    (h : ReadAside decoder other reader reader')
    (h' : ReadAside decoder other alternative alternative') :
    ReadAside decoder other (if condition then reader else alternative)
      (if condition then reader' else alternative') := by
  split_ifs
  · exact h
  · exact h'

lemma ReadAside.bind {α : Type} {reader : Decode α} {message : α → ServerMessage}
    (h : ∀ value, (message value).bringsRows = false) :
    ReadAside decoder other (do return (message (← reader), decoder))
      (do return (message (← reader), other)) := by
  intro input
  rcases hread : reader input with error | ⟨value, rest⟩
  · exact .inl ⟨error, bind_of_error hread, bind_of_error hread⟩
  · exact .inr ⟨message value, rest, h value, bind_of_ok hread, bind_of_ok hread⟩

lemma ReadAside.pure {message : ServerMessage} (h : message.bringsRows = false) :
    ReadAside decoder other (Pure.pure (message, decoder)) (Pure.pure (message, other)) :=
  fun input => .inr ⟨message, input, h, rfl, rfl⟩

lemma ReadAside.fail {error : DecodeError} :
    ReadAside decoder other (Decode.fail error) (Decode.fail error) :=
  fun _ => .inl ⟨error, rfl, rfl⟩

/-- **A message that is not about rows** is read the same whatever the decoder remembers of rows. -/
lemma message_aside {kind : UInt8} (hkind : kind ∉ Sender.rowKinds)
    (hcapabilities : decoder.capabilities = other.capabilities)
    (hcontext : decoder.context = .statement) (hcontext' : other.context = .statement) :
    ReadAside decoder other (decoder.message kind) (other.message kind) := by
  obtain ⟨hdescribe, hheader, hvector, hrow⟩ :
      kind ≠ MessageKind.describe ∧ kind ≠ MessageKind.rowHeader ∧
        kind ≠ MessageKind.bitVector ∧ kind ≠ MessageKind.rowData := by
    simpa [Sender.rowKinds] using hkind
  have hparameter : ReadAside decoder other (do return (← decoder.parameter, decoder))
      (do return (← other.parameter, other)) := by
    unfold parameter
    rw [hcontext, hcontext']
    simp only [bind_map_left]
    exact .bind fun _ => rfl
  unfold Decoder.message
  rw [hcapabilities]
  simp only [hdescribe, hheader, hvector, hrow, if_false]
  refine .ite (.bind fun _ => rfl) ?_
  refine .ite (.bind fun _ => rfl) ?_
  refine .ite hparameter ?_
  repeat' refine .ite ?_ ?_
  all_goals first
    | exact .fail
    | exact .pure rfl
    | exact .bind fun _ => rfl

lemma reads_aside {kind : UInt8} {wire : Bytes} {message : ServerMessage} {other' : Decoder}
    (h : ReadAside decoder other (decoder.message kind) (other.message kind))
    (hread : (other.message kind).Reads wire (message, other')) :
    message.bringsRows = false ∧ (decoder.message kind).Reads wire (message, decoder) := by
  have hcomplete : ∀ more, message.bringsRows = false ∧
      decoder.message kind (wire ++ more) = .ok ((message, decoder), more) := by
    intro more
    have hother := hread.complete more
    rcases h (wire ++ more) with ⟨error, -, herror⟩ | ⟨read, rest, hbrings, hone, htwo⟩
    · rw [herror] at hother
      cases hother
    · rw [htwo, Except.ok.injEq, Prod.mk.injEq, Prod.mk.injEq] at hother
      obtain ⟨⟨rfl, -⟩, rfl⟩ := hother
      exact ⟨hbrings, hone⟩
  refine ⟨(hcomplete []).1, fun more => (hcomplete more).2, fun front back hsplit hback => ?_⟩
  obtain ⟨expected, actual, hshort⟩ := hread.short front back hsplit hback
  rcases h front with ⟨error, hone, htwo⟩ | ⟨read, rest, -, -, htwo⟩
  · exact ⟨expected, actual, hone.trans (htwo.symm.trans hshort)⟩
  · rw [htwo] at hshort
    cases hshort

end

end Decoder

/-- Such a message leaves columns and rows of the result as they are. -/
lemma InFlight.hear_aside (flight : InFlight) {message : ServerMessage}
    (h : message.bringsRows = false) :
    (flight.hear message).result.columns = flight.result.columns ∧
      (flight.hear message).result.rows = flight.result.rows := by
  cases message with
  | description columns => simp [ServerMessage.bringsRows] at h
  | row values => simp [ServerMessage.bringsRows] at h
  | error block =>
    unfold hear record
    dsimp only
    split_ifs <;> exact ⟨rfl, rfl⟩
  | _ => exact ⟨rfl, rfl⟩

namespace Sender

/-! ## Agreement -/

/-- What a decoder remembers agrees with what a server has told. -/
structure Expected (capabilities : Capabilities) (columns : List Column) (sender : Sender)
    (decoder : Decoder) : Prop where
  capabilities : decoder.capabilities = capabilities
  context : decoder.context = .statement
  described : sender.described = true → decoder.columns = some columns
  bits : decoder.bits = sender.bits

/-- What a result holds agrees with what a server has told, and all values are there. -/
structure Known (columns : List Column) (sender : Sender) (flight : InFlight) : Prop where
  described : sender.described = true → flight.result.columns = some columns
  rows : flight.result.rows = sender.sent.map fun values => ⟨values, columns⟩
  whole : ∀ values ∈ sender.sent, .duplicate ∉ values

variable {capabilities : Capabilities} {columns : List Column} {sender sender' : Sender}
  {decoder : Decoder} {flight : InFlight}

lemma Known.last (h : sender.Known columns flight) :
    (flight.result.rows.getLast?.map Row.values).getD [] = sender.last := by
  rw [h.rows, List.getLast?_map, Option.map_map]
  simp [Sender.last, Function.comp_def]

lemma Known.duplicate_notMem_last (h : sender.Known columns flight) :
    .duplicate ∉ sender.last := by
  unfold Sender.last
  rcases hlast : sender.sent.getLast? with _ | values
  · simp
  · exact h.whole values (List.mem_of_getLast? hlast)

/-- **A row** that is read up to what was left out is filled in from the row before. -/
lemma Known.row {values read : List ColumnValue} {bits : Option Bytes} {wire : Bytes}
    (h : sender.Known columns flight) (hdescribed : sender.described = true)
    (hform : ValuesForm bits 0 columns sender.last values wire)
    (hfill : fillUnchanged sender.last read = values) :
    Known columns { sender with sent := sender.sent ++ [values], bits := none }
      (flight.hear (.row read)) := by
  have hpush : flight.result.push read =
      { flight.result with rows := flight.result.rows ++ [⟨values, columns⟩] } := by
    unfold QueryResult.push
    simp only [h.described hdescribed, h.last, hfill]
  refine ⟨fun _ => ?_, ?_, ?_⟩
  · show (flight.result.push read).columns = some columns
    rw [hpush, h.described hdescribed]
  · show (flight.result.push read).rows = _
    rw [hpush, h.rows, List.map_append]
    rfl
  · intro row hrow
    rcases List.mem_append.1 hrow with hsent | hlast
    · exact h.whole row hsent
    · rw [List.mem_singleton.1 hlast]
      exact hform.duplicate_notMem h.duplicate_notMem_last

/-- **A message** of the server is read, and decoder and result follow it.

**Proof sketch.** One case for each kind of message. The reader of a row has the bit vector that the
server had in mind, because the decoder remembers it; and the values that were left out are filled
in from the last row of the result, which is the last row that was sent. -/
lemma Says.heard {wire : Bytes} (h : Says capabilities columns sender wire sender')
    (hroutable : ∀ column ∈ columns, column.IsRoutable)
    (hexpected : sender.Expected capabilities columns decoder)
    (hknown : sender.Known columns flight) :
    ∃ kind used message decoder', wire = kind :: used ∧
      (decoder.message kind).Reads used (message, decoder') ∧ message.endsPacket = false ∧
      sender'.Expected capabilities columns decoder' ∧
      sender'.Known columns (flight.hear message) := by
  obtain ⟨hcapabilities, hcontext, hcolumns, hbits⟩ := hexpected
  cases h with
  | @description wire hread =>
    refine ⟨_, wire, .description columns, decoder.setColumns (some columns), rfl, ?_, rfl,
      ⟨hcapabilities, hcontext, fun _ => rfl, rfl⟩, fun _ => rfl, hknown.rows, hknown.whole⟩
    rw [← hcapabilities] at hread
    exact hread.map fun columns =>
      (ServerMessage.description columns, decoder.setColumns (some columns))
  | @header bits wire hform =>
    refine ⟨_, wire, .rowHeader, { decoder with bits := bits <|> decoder.bits }, rfl, ?_, rfl,
      ⟨hcapabilities, hcontext, hcolumns, by rw [hbits]⟩, hknown.described, hknown.rows,
      hknown.whole⟩
    exact (Decode.Reads.rowHeader hform).map fun bits =>
      (ServerMessage.rowHeader, { decoder with bits := bits <|> decoder.bits })
  | @vector octets wire hdescribed hform =>
    refine ⟨_, wire, .bitVector, { decoder with bits := some octets }, rfl, ?_, rfl,
      ⟨hcapabilities, hcontext, hcolumns, rfl⟩, hknown.described, hknown.rows, hknown.whole⟩
    have hread :
        (Decode.bitVector ((decoder.columns.map List.length).getD 0)).Reads wire octets := by
      rw [hcolumns hdescribed]
      exact Decode.Reads.bitVector hform
    exact hread.map fun octets => (ServerMessage.bitVector, { decoder with bits := some octets })
  | @row values wire hdescribed hform =>
    obtain ⟨read, hread, hfill⟩ := hform.reads hroutable
    refine ⟨_, wire, .row read, { decoder with bits := none }, rfl, ?_, rfl,
      ⟨hcapabilities, hcontext, hcolumns, rfl⟩, hknown.row hdescribed hform hfill⟩
    have hrow : decoder.row.Reads wire (.row read) := by
      unfold Decoder.row
      rw [hcolumns hdescribed, hbits]
      exact hread.map ServerMessage.row
    exact hrow.map fun row => (row, { decoder with bits := none })
  | @aside kind message wire hkind hgoes hread =>
    obtain ⟨hbrings, hread⟩ := Decoder.reads_aside
      (Decoder.message_aside hkind hcapabilities hcontext rfl) hread
    obtain ⟨hsame, hrows⟩ := flight.hear_aside hbrings
    exact ⟨kind, wire, message, decoder, rfl, hread, hgoes,
      ⟨hcapabilities, hcontext, hcolumns, hbits⟩, hsame ▸ hknown.described, hrows ▸ hknown.rows,
      hknown.whole⟩

/-! ## Packets, answers, and all of them -/

/-- Messages that stand one behind the other are all read and followed. -/
lemma SaysAll.heard {octets : Bytes} (h : SaysAll capabilities columns sender octets sender')
    (hroutable : ∀ column ∈ columns, column.IsRoutable)
    (hexpected : sender.Expected capabilities columns decoder)
    (hknown : sender.Known columns flight) :
    ∃ messages decoder', Decoder.Whole decoder octets messages decoder' ∧
      sender'.Expected capabilities columns decoder' ∧
      sender'.Known columns (messages.foldl InFlight.hear flight) := by
  induction h generalizing decoder flight with
  | nil sender => exact ⟨[], decoder, .nil decoder, hexpected, hknown⟩
  | cons htold _ ih =>
    obtain ⟨kind, used, message, decoder₁, rfl, hread, hgoes, hexpected₁, hknown₁⟩ :=
      htold.heard hroutable hexpected hknown
    obtain ⟨messages, decoder₂, hwhole, hexpected₂, hknown₂⟩ := ih hexpected₁ hknown₁
    exact ⟨message :: messages, decoder₂, .cons hread hgoes hwhole, hexpected₂, hknown₂⟩

/-- The end of a packet brings nothing. -/
lemma Ending.messages {ending : Bytes} (h : Ending ending) (decoder : Decoder) :
    ∃ last, decoder.messages ending = (.ok last, decoder) ∧
      ∀ flight : InFlight, last.foldl InFlight.hear flight = flight := by
  cases h with
  | nothing => exact ⟨[], Decoder.messages_nil decoder, fun _ => rfl⟩
  | flushOutBinds more =>
    have hread : (decoder.message MessageKind.flushOutBinds).Reads [] (.flushOutBinds, decoder) :=
      Decode.Reads.pure _
    exact ⟨[.flushOutBinds], Decoder.messages_cons hread more, fun _ => rfl⟩
  | endOfResponse more =>
    have hread : (decoder.message MessageKind.endOfResponse).Reads [] (.endOfResponse, decoder) :=
      Decode.Reads.pure _
    exact ⟨[.endOfResponse], Decoder.messages_cons hread more, fun _ => rfl⟩

/-- The packets of an answer are all read and followed.

**Proof sketch.** Induction on the packets. Those that are left are decoded by the decoder that the
first one leaves, which agrees with the server again. -/
lemma Answers.heard {answer : List (UInt16 × Bytes)}
    (h : Answers capabilities columns sender answer sender')
    (hroutable : ∀ column ∈ columns, column.IsRoutable)
    (hexpected : sender.Expected capabilities columns decoder)
    (hknown : sender.Known columns flight) :
    ∃ messages decoder', decoder.stream (Decoder.packets capabilities answer) =
        (.ok messages, decoder', []) ∧
      sender'.Expected capabilities columns decoder' ∧
      sender'.Known columns (messages.foldl InFlight.hear flight) := by
  induction h generalizing decoder flight with
  | nil sender => exact ⟨[], decoder, Decoder.stream_nil decoder, hexpected, hknown⟩
  | cons flags htold hending hne hfits _ ih =>
    obtain ⟨messages, decoder₁, hwhole, hexpected₁, hknown₁⟩ :=
      htold.heard hroutable hexpected hknown
    obtain ⟨last, hlast, hquiet⟩ := hending.messages decoder₁
    obtain ⟨more, decoder₂, hstream, hexpected₂, hknown₂⟩ := ih hexpected₁ hknown₁
    refine ⟨messages ++ last ++ more, decoder₂, ?_, hexpected₂, ?_⟩
    · rw [Decoder.stream_cons hexpected.capabilities ⟨hne, hfits⟩, hwhole.messages_append, hlast]
      simp only [Except.map, hstream]
    · rw [List.foldl_append, List.foldl_append, hquiet]
      exact hknown₂

/-- All answers are read and followed. -/
lemma Exchange.heard {answers : List (List (UInt16 × Bytes))}
    (h : Exchange capabilities columns sender answers sender')
    (hroutable : ∀ column ∈ columns, column.IsRoutable)
    (hcapabilities : decoder.capabilities = capabilities)
    (hknown : sender.Known columns flight) :
    ∃ flight', flight.collect decoder (answers.map (Decoder.packets capabilities)) = .ok flight' ∧
      sender'.Known columns flight' := by
  induction h generalizing decoder flight with
  | nil sender => exact ⟨flight, rfl, hknown⟩
  | @cons sender _ _ _ _ hanswer _ ih =>
    have hexpected : Expected capabilities columns { sender with bits := none }
        (decoder.expectingRows flight.result.columns) :=
      ⟨hcapabilities, rfl, hknown.described, rfl⟩
    obtain ⟨messages, decoder₁, hstream, hexpected₁, hknown₁⟩ :=
      hanswer.heard hroutable hexpected ⟨hknown.described, hknown.rows, hknown.whole⟩
    obtain ⟨flight', hcollect, hknown'⟩ := ih hexpected₁.capabilities hknown₁
    refine ⟨flight', ?_, hknown'⟩
    rw [List.map_cons, InFlight.collect, hstream]
    exact hcollect

/-- Any row can be said next whose values the columns may have, whatever columns a bit vector marks
among those in which it is the same as the row before. -/
lemma Says.exists_row {values : List ColumnValue} (hdescribed : sender.described = true)
    (hadmits : List.Forall₂ Column.Admits columns values)
    (hbits : ∀ position < columns.length, ClearBit sender.bits position →
      sender.last[position]? = values[position]?) :
    ∃ wire, Says capabilities columns sender wire
      { sender with sent := sender.sent ++ [values], bits := none } := by
  have hform : ∃ wire, ValuesForm sender.bits 0 columns sender.last values wire :=
    ValuesForm.exists_of_admits hadmits (by simpa using hbits)
  obtain ⟨wire, hwire⟩ := hform
  exact ⟨MessageKind.rowData :: wire, .row hdescribed hwire⟩

/-- **The rows of a statement** arrive as they were sent. Let the columns be such that their values
can be sent. Then any row can be said next that the columns may have, and any of its values left out
that a bit vector marks and that are the same as in the row before.

Let the statement in flight have no rows yet, and know the columns or not, and let the server say the
columns and any rows in the answers to the execution and to the fetches, in any packets and with any
bit vectors. Then the answers can be read, the rows of the result are the rows that were sent, in
their order, and all values are there. -/
theorem rows_arrive {answers : List (List (UInt16 × Bytes))}
    (hroutable : ∀ column ∈ columns, column.IsRoutable)
    (hknown : ∀ known, flight.result.columns = some known → known = columns)
    (hrows : flight.result.rows = [])
    (h : Exchange decoder.capabilities columns { described := flight.result.columns.isSome }
      answers sender) :
    (∀ before : Sender, before.described = true → ∀ values,
      List.Forall₂ Column.Admits columns values →
      (∀ position < columns.length, ClearBit before.bits position →
        before.last[position]? = values[position]?) →
      ∃ wire, Says decoder.capabilities columns before wire
        { before with sent := before.sent ++ [values], bits := none }) ∧
    ∃ flight', flight.collect decoder (answers.map (Decoder.packets decoder.capabilities)) =
        .ok flight' ∧
      flight'.result.rows = sender.sent.map (fun values => ⟨values, columns⟩) ∧
      ∀ row ∈ flight'.result.rows, .duplicate ∉ row.values := by
  refine ⟨fun before hdescribed values => Says.exists_row hdescribed, ?_⟩
  have hinitial : Known columns { described := flight.result.columns.isSome } flight := by
    refine ⟨fun hdescribed => ?_, hrows, by simp⟩
    obtain ⟨known, hsome⟩ := Option.isSome_iff_exists.1 hdescribed
    rw [hsome, hknown known hsome]
  obtain ⟨flight', hcollect, -, hsent, hwhole⟩ := h.heard hroutable rfl hinitial
  refine ⟨flight', hcollect, hsent, fun row hrow => ?_⟩
  rw [hsent] at hrow
  obtain ⟨values, hvalues, rfl⟩ := List.mem_map.1 hrow
  exact hwhole values hvalues

/-- Two columns, of numbers and of large objects. -/
def sampleColumns : List Column :=
  [{ name := "A", type := .number }, { name := "B", type := .clob }]

/-- Their description. -/
def sampleDescription : Bytes :=
  [0, 0, 1, 2, 0,
    2, 0, 0, 0, 1, 22, 0, 0, 0, 0, 0, 0, 0, 0, 1, 1, 1, 1, 1, 65, 0, 0, 0, 0, 0, 0,
    112, 0, 0, 0, 0, 0, 0, 0, 0, 0, 0, 0, 0, 1, 1, 1, 1, 1, 66, 0, 0, 0, 0, 0, 0,
    0, 0, 0, 0, 0, 0]

/-- Two rows with the same large object, one in the answer to the execution, and one in the answer
to a fetch. -/
def sampleRows : List (List ColumnValue) :=
  [[.bytes [193, 2], .lob ⟨5, 8, [7]⟩], [.bytes [193, 3], .lob ⟨5, 8, [7]⟩]]

/-- The packets of the two answers. The header in the second one marks the large object, which is
left out. -/
def sampleAnswers : List (List (UInt16 × Bytes)) :=
  [[(0, MessageKind.describe :: sampleDescription),
      (0, [7, 2, 193, 2, 1, 1, 1, 5, 1, 8, 1, 7, 29])],
    [(0, [6, 0, 0, 0, 0, 0, 1, 1, 0, 1, 0, 7, 2, 193, 3, 29])]]

/-- The two answers are an exchange in which the two rows are sent. -/
lemma sampleAnswers_exchange :
    Exchange Capabilities.initial sampleColumns { described := false } sampleAnswers
      { described := true, sent := sampleRows } := by
  have hfits : ∀ octets : Bytes, octets.length < 100 →
      Decoder.Fits Capabilities.initial octets := by
    intro octets hlt
    have hlimit : Decoder.lengthLimit Capabilities.initial.largePackets = 65536 := rfl
    unfold Decoder.Fits dataOverhead headerSize
    omega
  have hclear : ∀ bits index, isUnchanged bits index = false → ¬ClearBit bits index := by
    intro bits index hbit hclear
    rw [isUnchanged_eq_true_iff.2 hclear] at hbit
    cases hbit
  have hnumber : ∀ octet, ValueForm { name := "A", type := .number } (.bytes [193, octet])
      [2, 193, octet] := fun octet =>
    .bytes rfl (by simp) (.short (by simp) (by simp [chunkedMark]))
  have hobject : ValueForm { name := "B", type := .clob } (.lob ⟨5, 8, [7]⟩)
      ([1, 1] ++ (([1, 5] ++ [1, 8]) ++ [1, 7])) :=
    .lob rfl (by decide) ⟨[1], rfl, rfl, rfl⟩
      (.sizes (by decide) ⟨[5], rfl, rfl, rfl⟩ ⟨[8], rfl, rfl, rfl⟩)
      (.present (.short (by decide) (by decide)))
  -- the answer to the execution: the columns, and a row in another packet
  have hdescription : Says Capabilities.initial sampleColumns { described := false }
      (MessageKind.describe :: sampleDescription) { described := true } :=
    .description (Decode.Reads.of_eq (by cbv))
  have hrow : ValuesForm none 0 sampleColumns [] [.bytes [193, 2], .lob ⟨5, 8, [7]⟩] _ :=
    .sent (hclear _ _ rfl) (hnumber 2) (.sent (hclear _ _ rfl) hobject (.nil _ _))
  have hexecution := Answers.cons 0 (.cons hdescription (.nil _)) .nothing (by simp)
    (hfits _ (by decide))
    (.cons 0 (.cons (.row rfl hrow) (.nil _)) (.endOfResponse []) (by simp) (hfits _ (by decide))
      (.nil _))
  -- the answer to a fetch: a header that marks the second column, and a row without it
  have hheader : HeaderForm (some [1]) _ :=
    .fields 0 ⟨[], rfl, rfl, rfl⟩ ⟨[], rfl, rfl, rfl⟩ ⟨[], rfl, rfl, rfl⟩ ⟨[], rfl, rfl, rfl⟩
      (.some 0 (by decide) ⟨[1], rfl, rfl, rfl⟩) (.none ⟨[], rfl, rfl, rfl⟩)
  have hnext : ValuesForm (some [1]) 0 sampleColumns [.bytes [193, 2], .lob ⟨5, 8, [7]⟩]
      [.bytes [193, 3], .lob ⟨5, 8, [7]⟩] _ :=
    .sent (hclear _ _ rfl) (hnumber 3) (.leftOut ⟨[1], 1, rfl, rfl, rfl⟩ rfl (.nil _ _))
  have hmarked : Says Capabilities.initial sampleColumns
      { described := true, sent := [[.bytes [193, 2], .lob ⟨5, 8, [7]⟩]] } _
      { described := true, sent := [[.bytes [193, 2], .lob ⟨5, 8, [7]⟩]], bits := some [1] } :=
    .header hheader
  have hfetch := Answers.cons 0 (.cons hmarked (.cons (.row rfl hnext) (.nil _)))
    (.endOfResponse []) (by simp) (hfits _ (by decide)) (.nil _)
  exact .cons hexecution (.cons hfetch (.nil _))

/-- The two rows of the sample arrive, with the large object in both. -/
theorem rows_arrive_sample :
    let flight := (Task.statement (.ofSql "select a, b from t" [] {}) 0).begin none
    (∀ column ∈ sampleColumns, column.IsRoutable) ∧
    Exchange Capabilities.initial sampleColumns { described := false } sampleAnswers
      { described := true, sent := sampleRows } ∧
    ∃ flight', flight.collect {} (sampleAnswers.map (Decoder.packets Capabilities.initial)) =
        .ok flight' ∧
      flight'.result.rows = sampleRows.map (fun values => ⟨values, sampleColumns⟩) ∧
      ∀ row ∈ flight'.result.rows, .duplicate ∉ row.values := by
  intro flight
  have hroutable : ∀ column ∈ sampleColumns, column.IsRoutable := by
    intro column hcolumn
    simp only [sampleColumns, List.mem_cons, List.not_mem_nil, or_false] at hcolumn
    rcases hcolumn with rfl | rfl <;> exact ⟨by decide, by decide⟩
  have hunknown : ∀ known, none = some known → known = sampleColumns := by simp
  exact ⟨hroutable, sampleAnswers_exchange,
    (@rows_arrive sampleColumns { described := true, sent := sampleRows } {} flight sampleAnswers
      hroutable hunknown rfl sampleAnswers_exchange).2⟩

end Sender

end TnsClient
