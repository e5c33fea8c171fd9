import Mathlib
import TnsClient.Proofs.Message.SelfDelimiting

set_option autoImplicit false

/-!
# Cutting the messages of a packet

The messages of a packet stand one behind the other, and each says itself where it ends. So it can
be told of every place in a packet whether a cut there falls between messages, inside a message, or
behind the message that ends the packet, and what is in front of the cut then comes to.

## Main definitions

* `TnsClient.Decoder.Whole` — octets that are whole messages, none of which ends its packet.
* `TnsClient.Decoder.Severs` — a cut falls inside a message.

## Main results

* `TnsClient.Decoder.Whole.messages_append` — behind whole messages the packet goes on.
* `TnsClient.Decoder.Severs.messages_eq` — the front of a message that is cut is too short.
* `TnsClient.Decoder.messages_cut` — there are no other cuts than these three.
* `TnsClient.Decoder.body_append` — a packet goes on behind messages that do not end it, and none of
  its messages can be read from less than all of it.
-/

namespace TnsClient

open Decode

namespace Decoder

/-! ## The messages of a packet -/

/-- Octets that are whole messages, none of which ends its packet, and what the decoder remembers
behind them. -/
inductive Whole : Decoder → Bytes → List ServerMessage → Decoder → Prop
  /-- No octets are no messages. -/
  | nil (decoder : Decoder) : Whole decoder [] [] decoder
  /-- A message stands in front of others. -/
  | cons {decoder decoder' decoder'' : Decoder} {kind : UInt8} {used octets : Bytes}
      {message : ServerMessage} {messages : List ServerMessage}
      (hread : (decoder.message kind).Reads used (message, decoder'))
      (hgoes : message.endsPacket = false) (hrest : Whole decoder' octets messages decoder'') :
    Whole decoder (kind :: (used ++ octets)) (message :: messages) decoder''

/-- A cut falls inside a message: in front of it stand whole messages and the beginning of another
one, which goes on behind it. -/
def Severs (decoder : Decoder) (front back : Bytes) : Prop :=
  ∃ done messages decoder' kind part, Whole decoder done messages decoder' ∧
    front = done ++ kind :: part ∧ ∃ missing more read, missing ≠ [] ∧ back = missing ++ more ∧
      (decoder'.message kind).Reads (part ++ missing) read

lemma messages_nil (decoder : Decoder) : decoder.messages [] = (.ok [], decoder) := by
  rw [messages]

lemma messages_of_error {decoder : Decoder} {kind : UInt8} {body : Bytes} {error : DecodeError}
    (h : decoder.message kind body = .error error) :
    decoder.messages (kind :: body) = (.error error, decoder) := by
  rw [messages, h]

/-- The first message of a packet is read, and then the others unless it ends the packet. -/
lemma messages_cons {decoder decoder' : Decoder} {kind : UInt8} {used : Bytes}
    {message : ServerMessage} (hread : (decoder.message kind).Reads used (message, decoder'))
    (more : Bytes) :
    decoder.messages (kind :: (used ++ more)) =
      if message.endsPacket then (.ok [message], decoder')
      else ((decoder'.messages more).1.map (message :: ·), (decoder'.messages more).2) := by
  rw [messages, hread.complete more]
  simp

/-- A packet that can be read and is not empty begins with a message. -/
lemma exists_reads_of_messages {decoder decoder' : Decoder} {kind : UInt8} {body : Bytes}
    {messages : List ServerMessage}
    (h : decoder.messages (kind :: body) = (.ok messages, decoder')) :
    ∃ used more message decoder₁, body = used ++ more ∧
      (decoder.message kind).Reads used (message, decoder₁) := by
  rcases hread : decoder.message kind body with error | ⟨⟨message, decoder₁⟩, more⟩
  · simp [messages_of_error hread] at h
  · obtain ⟨used, hbody, hreads⟩ := SelfDelimiting.reads hread
    exact ⟨used, more, message, decoder₁, hbody, hreads⟩

/-- A packet that can be read and is not empty holds a message. -/
lemma messages_ne_nil {decoder decoder' : Decoder} {body : Bytes} {messages : List ServerMessage}
    (h : decoder.messages body = (.ok messages, decoder')) (hne : body ≠ []) : messages ≠ [] := by
  rcases body with _ | ⟨kind, body⟩
  · exact absurd rfl hne
  · obtain ⟨used, more, message, decoder₁, rfl, hread⟩ := exists_reads_of_messages h
    rw [messages_cons hread] at h
    split_ifs at h
    · rintro rfl
      simp at h
    · rintro rfl
      rcases hmore : (decoder₁.messages more).1 with error | others <;>
        simp [hmore, Except.map] at h

/-- Two readings of the same octets take the same. -/
lemma Reads.unique {α : Type} {reader : Decode α} {used used' rest rest' : Bytes} {value value' : α}
    (h : reader.Reads used value) (h' : reader.Reads used' value')
    (heq : used ++ rest = used' ++ rest') : used = used' ∧ value = value' ∧ rest = rest' := by
  have hboth := h.complete rest
  rw [heq, h'.complete rest', Except.ok.injEq, Prod.mk.injEq] at hboth
  obtain ⟨rfl, rfl⟩ := hboth
  exact ⟨List.append_cancel_right heq, rfl, rfl⟩

/-! ## What stays -/

lemma pure_eq_ok_iff {α : Type} {value value' : α} {input rest : Bytes} :
    (pure value : Decode α) input = .ok (value', rest) ↔ value = value' ∧ input = rest := by
  show Except.ok (value, input) = _ ↔ _
  simp

/-- Whatever a reader yields has the capabilities given. -/
def Keeps (capabilities : Capabilities) (reader : Decode (ServerMessage × Decoder)) : Prop :=
  ∀ input read rest, reader input = .ok (read, rest) → read.2.capabilities = capabilities

lemma Keeps.ite {capabilities : Capabilities} {reader other : Decode (ServerMessage × Decoder)}
    {condition : Prop} [Decidable condition] (h : Keeps capabilities reader)
    (h' : Keeps capabilities other) :
    Keeps capabilities (if condition then reader else other) := by
  split_ifs
  · exact h
  · exact h'

lemma Keeps.pure {capabilities : Capabilities} {read : ServerMessage × Decoder}
    (h : read.2.capabilities = capabilities) : Keeps capabilities (Pure.pure read) := by
  intro input read' rest hread
  rwa [← (pure_eq_ok_iff.1 hread).1]

lemma Keeps.bind {capabilities : Capabilities} {α : Type} {reader : Decode α}
    {next : α → Decode (ServerMessage × Decoder)} (h : ∀ read, Keeps capabilities (next read)) :
    Keeps capabilities (reader >>= next) := by
  intro input read rest hread
  obtain ⟨middle, left, -, hnext⟩ := bind_eq_ok_iff.1 hread
  exact h middle left read rest hnext

lemma Keeps.fail {capabilities : Capabilities} {error : DecodeError} :
    Keeps capabilities (Decode.fail error) := by
  intro input read rest hread
  simp [Decode.fail] at hread

/-- No message changes what client and server have agreed on. -/
lemma message_keeps (decoder : Decoder) (kind : UInt8) :
    Keeps decoder.capabilities (decoder.message kind) := by
  unfold Decoder.message
  repeat' refine Keeps.ite ?_ ?_
  all_goals first
    | exact Keeps.fail
    | exact Keeps.pure rfl
    | exact Keeps.bind fun _ => Keeps.pure rfl

/-- Nor does a packet. -/
lemma messages_capabilities (decoder : Decoder) (input : Bytes) :
    (decoder.messages input).2.capabilities = decoder.capabilities := by
  induction decoder, input using Decoder.messages.induct with
  | case1 decoder => rw [messages_nil]
  | case2 decoder kind body error hread => rw [messages_of_error hread]
  | case3 decoder kind body message decoder' rest hread hends =>
    rw [messages, hread]
    simpa [hends] using message_keeps decoder kind body _ rest hread
  | case4 decoder kind body message decoder' rest hread hends hlength more decoder'' hmore ih =>
    rw [messages, hread]
    simpa [hends, hlength] using ih.trans (message_keeps decoder kind body _ rest hread)
  | case5 decoder kind body message decoder' rest hread hends hlength =>
    rw [messages, hread]
    simpa [hends, hlength] using message_keeps decoder kind body _ rest hread

lemma body_eq_messages (decoder : Decoder) {input : Bytes} (hne : input ≠ []) :
    decoder.body input = decoder.messages input := by
  simp [body, hne]

/-! ## Cutting it in two -/

/-- Behind whole messages the packet goes on. -/
lemma Whole.messages_append {decoder decoder' : Decoder} {front : Bytes}
    {messages : List ServerMessage} (h : Whole decoder front messages decoder') (back : Bytes) :
    decoder.messages (front ++ back) =
      ((decoder'.messages back).1.map (messages ++ ·), (decoder'.messages back).2) := by
  induction h with
  | nil decoder =>
    rcases h : decoder.messages back with ⟨_ | others, decoder'⟩ <;> simp [h, Except.map]
  | @cons decoder decoder₁ decoder₂ kind used octets message messages hread hgoes hrest ih =>
    rw [List.cons_append, List.append_assoc, messages_cons hread, ih, hgoes]
    rcases decoder₂.messages back with ⟨_ | others, decoder₃⟩ <;> simp [Except.map]

lemma Whole.messages_eq {decoder decoder' : Decoder} {front : Bytes}
    {messages : List ServerMessage} (h : Whole decoder front messages decoder') :
    decoder.messages front = (.ok messages, decoder') := by
  simpa [messages_nil, Except.map] using h.messages_append []

lemma Whole.capabilities {decoder decoder' : Decoder} {front : Bytes}
    {messages : List ServerMessage} (h : Whole decoder front messages decoder') :
    decoder'.capabilities = decoder.capabilities := by
  have hsame := messages_capabilities decoder front
  rwa [h.messages_eq] at hsame

lemma Whole.append {decoder decoder' decoder'' : Decoder} {front back : Bytes}
    {messages more : List ServerMessage} (h : Whole decoder front messages decoder')
    (h' : Whole decoder' back more decoder'') :
    Whole decoder (front ++ back) (messages ++ more) decoder'' := by
  induction h with
  | nil decoder => exact h'
  | cons hread hgoes _ ih =>
    rw [List.cons_append, List.append_assoc]
    exact .cons hread hgoes (ih h')

/-- What stands behind whole messages can be read if the packet can. -/
lemma Whole.exists_rest {decoder decoder' decoder₁ : Decoder} {front back : Bytes}
    {done messages : List ServerMessage} (hwhole : Whole decoder front done decoder₁)
    (h : decoder.messages (front ++ back) = (.ok messages, decoder')) :
    ∃ more, decoder₁.messages back = (.ok more, decoder') ∧ messages = done ++ more := by
  rw [hwhole.messages_append] at h
  rcases hmore : decoder₁.messages back with ⟨_ | more, decoder₂⟩
  · simp [hmore, Except.map] at h
  · simp only [hmore, Except.map, Prod.mk.injEq, Except.ok.injEq] at h
    exact ⟨more, by rw [h.2], h.1.symm⟩

/-- Whole messages in front of which whole messages are taken away are whole messages. -/
lemma Whole.of_append {decoder decoder' decoder'' : Decoder} {front back : Bytes}
    {messages all : List ServerMessage} (h : Whole decoder front messages decoder')
    (hall : Whole decoder (front ++ back) all decoder'') :
    ∃ more, Whole decoder' back more decoder'' := by
  induction h generalizing all with
  | nil decoder => exact ⟨all, hall⟩
  | @cons decoder decoder₁ decoder₂ kind used octets message messages hread hgoes hrest ih =>
    rw [List.cons_append, List.append_assoc] at hall
    generalize hoctets : kind :: (used ++ (octets ++ back)) = input at hall
    cases hall with
    | nil => cases hoctets
    | cons hread' hgoes' hrest' =>
      obtain ⟨rfl, htail⟩ := List.cons.inj hoctets
      obtain ⟨rfl, hsame, rfl⟩ := Reads.unique hread hread' htail
      obtain ⟨rfl, rfl⟩ := Prod.mk.inj hsame
      exact ih hrest'

/-- In front of a cut inside a message stands at least its kind. -/
lemma Severs.front_ne_nil {decoder : Decoder} {front back : Bytes}
    (h : decoder.Severs front back) : front ≠ [] := by
  obtain ⟨done, -, -, kind, part, -, rfl, -⟩ := h
  simp

/-- A cut inside a message is still one when whole messages in front of it are taken away. -/
lemma Severs.of_append {decoder decoder' : Decoder} {done front back : Bytes}
    {messages : List ServerMessage} (h : decoder.Severs (done ++ front) back)
    (hwhole : Whole decoder done messages decoder') : decoder'.Severs front back := by
  induction hwhole with
  | nil decoder => exact h
  | @cons decoder decoder₁ decoder₂ kind used octets message messages hread hgoes hrest ih =>
    obtain ⟨done', messages', decoder₃, kind', part, hdone, hfront, missing, more, read, hmissing,
      hback, hsevered⟩ := h
    rw [List.cons_append, List.append_assoc] at hfront
    refine ih ?_
    cases hdone with
    | nil =>
      -- the first message would end on both sides of the cut
      obtain ⟨rfl, rfl⟩ := List.cons.inj hfront
      have hboth : used ++ (octets ++ front ++ missing) =
            used ++ (octets ++ front) ++ missing ++ [] := by
        simp
      simpa [hmissing] using (Reads.unique hread hsevered hboth).2.2
    | cons hread' hgoes' hrest' =>
      rw [List.cons_append, List.append_assoc] at hfront
      obtain ⟨rfl, htail⟩ := List.cons.inj hfront
      obtain ⟨rfl, hsame, hgone⟩ := Reads.unique hread hread' htail
      obtain ⟨rfl, rfl⟩ := Prod.mk.inj hsame
      exact ⟨_, _, decoder₃, kind', part, hrest', hgone, missing, more, read, hmissing, hback,
        hsevered⟩

/-- The front of a message that is cut is too short. -/
lemma Severs.messages_eq {decoder : Decoder} {front back : Bytes} (h : decoder.Severs front back) :
    ∃ expected actual, (decoder.messages front).1 = .error (.expectedAtLeast expected actual) := by
  obtain ⟨done, messages, decoder', kind, part, hwhole, rfl, missing, more, read, hmissing, -,
    hread⟩ := h
  obtain ⟨expected, actual, hshort⟩ := hread.short part missing rfl hmissing
  refine ⟨expected, actual, ?_⟩
  rw [hwhole.messages_append, messages_of_error hshort]
  rfl

/-- A cut behind the first message is a cut of the others. -/
lemma Severs.cons {decoder decoder' : Decoder} {kind : UInt8} {used front back : Bytes}
    {message : ServerMessage} (hread : (decoder.message kind).Reads used (message, decoder'))
    (hgoes : message.endsPacket = false) (h : decoder'.Severs front back) :
    decoder.Severs (kind :: (used ++ front)) back := by
  obtain ⟨done, messages, decoder₁, kind', part, hwhole, rfl, hmissing⟩ := h
  exact ⟨kind :: (used ++ done), message :: messages, decoder₁, kind', part,
    .cons hread hgoes hwhole, by simp, hmissing⟩

/-- **A cut** of a packet that can be read falls behind whole messages, inside a message, or behind
the message that ends the packet, where the front says all.

**Proof sketch.** Induction on the octets in front of the cut. What the first message takes ends in
front of the cut or behind it; in the first case the others are cut at the same place. -/
lemma messages_cut {decoder decoder' : Decoder} {front back : Bytes}
    {messages : List ServerMessage}
    (h : decoder.messages (front ++ back) = (.ok messages, decoder')) :
    (∃ done decoder₁, Whole decoder front done decoder₁) ∨ decoder.Severs front back ∨
      ∀ more, decoder.messages (front ++ more) = (.ok messages, decoder') := by
  induction hlength : front.length using Nat.strongRecOn generalizing decoder front messages with
  | ind length ih =>
    rcases front with _ | ⟨kind, front⟩
    · exact .inl ⟨[], decoder, .nil decoder⟩
    · obtain ⟨used, more, message, decoder₁, hbody, hread⟩ := exists_reads_of_messages h
      have hsplit : (∃ missing, missing ≠ [] ∧ used = front ++ missing ∧ back = missing ++ more) ∨
          ∃ part, front = used ++ part ∧ more = part ++ back := by
        rcases List.append_eq_append_iff.1 hbody with ⟨missing, hused, hback⟩ | hpart
        · by_cases hmissing : missing = []
          · subst hmissing
            exact .inr ⟨[], by simpa using hused.symm, by simpa using hback.symm⟩
          · exact .inl ⟨missing, hmissing, hused, hback⟩
        · exact .inr hpart
      rcases hsplit with ⟨missing, hmissing, rfl, hback⟩ | ⟨part, rfl, rfl⟩
      · exact .inr (.inl ⟨[], [], decoder, kind, front, .nil decoder, rfl, missing, more, _,
          hmissing, hback, hread⟩)
      · have hfront := fun more => messages_cons hread (part ++ more)
        rw [List.cons_append, List.append_assoc, messages_cons hread] at h
        cases hgoes : message.endsPacket
        · rcases hothers : decoder₁.messages (part ++ back) with ⟨_ | others, decoder₂⟩
          · simp [hgoes, hothers, Except.map] at h
          · simp only [hgoes, hothers, Except.map, Bool.false_eq_true, if_false, Prod.mk.injEq,
              Except.ok.injEq] at h
            obtain ⟨rfl, rfl⟩ := h
            rcases ih part.length (by simp at hlength; omega) hothers rfl with
              ⟨done, decoder₃, hwhole⟩ | hsevers | hall
            · exact .inl ⟨message :: done, decoder₃, .cons hread hgoes hwhole⟩
            · exact .inr (.inl (hsevers.cons hread hgoes))
            · exact .inr (.inr fun more => by simp [hfront, hgoes, hall, Except.map])
        · simp only [hgoes, if_true] at h
          exact .inr (.inr fun more => by simp [hfront, hgoes, h])

/-! ## Putting it together -/

/-- A packet that can be read consists of whole messages unless one of them ends it. -/
lemma whole_of_messages {decoder decoder' : Decoder} {input : Bytes} {messages : List ServerMessage}
    (h : decoder.messages input = (.ok messages, decoder'))
    (hgoes : ∀ message ∈ messages, message.endsPacket = false) :
    Whole decoder input messages decoder' := by
  induction hlength : input.length using Nat.strongRecOn generalizing decoder input messages with
  | ind length ih =>
    rcases input with _ | ⟨kind, input⟩
    · rw [messages_nil] at h
      obtain ⟨hmessages, rfl⟩ := Prod.mk.inj h
      obtain rfl := Except.ok.inj hmessages
      exact .nil decoder
    · obtain ⟨used, more, message, decoder₁, rfl, hread⟩ := exists_reads_of_messages h
      rw [messages_cons hread] at h
      split_ifs at h with hends
      · obtain ⟨hmessages, rfl⟩ := Prod.mk.inj h
        obtain rfl := Except.ok.inj hmessages
        simp [hends] at hgoes
      · rcases hothers : decoder₁.messages more with ⟨_ | others, decoder₂⟩
        · simp [hothers, Except.map] at h
        · simp only [hothers, Except.map, Prod.mk.injEq, Except.ok.injEq] at h
          obtain ⟨rfl, rfl⟩ := h
          obtain ⟨hmessage, hmore⟩ := List.forall_mem_cons.1 hgoes
          refine .cons hread hmessage (ih more.length ?_ hothers hmore rfl)
          simp only [List.length_cons, List.length_append] at hlength
          omega

/-- A cut of a single message, with octets on both sides of it, falls inside that message. -/
lemma Whole.severs {decoder decoder' : Decoder} {front back : Bytes} {message : ServerMessage}
    (h : Whole decoder (front ++ back) [message] decoder') (hfront : front ≠ [])
    (hback : back ≠ []) : decoder.Severs front back := by
  rcases front with _ | ⟨kind, part⟩
  · exact absurd rfl hfront
  · rw [List.cons_append] at h
    generalize hinput : part ++ back = input at h
    cases h with
    | @cons _ _ _ _ used octets _ _ hread _ hrest =>
      cases hrest
      rw [List.append_nil] at hinput
      subst hinput
      exact ⟨[], [], decoder, kind, part, .nil decoder, rfl, back, [], _, hback, by simp, hread⟩

/-- **One packet behind another.** Let a data packet be read to its end, so that none of its
messages is one that ends it:

* with more octets behind it the packet comes to the same messages, and then to what these octets
  come to for a decoder that remembers what the packet has left it with, be it messages or a
  failure;
* if the packet holds a single message, no part in front of a cut can be read, and it fails for want
  of octets.

**Proof sketch.** The packet consists of whole messages, each of which is read by a reader that
takes exactly its own octets; so nothing changes when others follow, and a single message that lacks
its end leaves its reader short. -/
theorem body_append {decoder decoder' : Decoder} {front : Bytes} {messages : List ServerMessage}
    (h : decoder.body front = (.ok messages, decoder')) (hflush : .flushOutBinds ∉ messages)
    (hend : .endOfResponse ∉ messages) :
    (∀ back, back ≠ [] → decoder.body (front ++ back) =
      ((decoder'.body back).1.map (messages ++ ·), (decoder'.body back).2)) ∧
    (messages.length = 1 → ∀ part rest, front = part ++ rest → part ≠ [] → rest ≠ [] →
      ∃ expected actual, (decoder.body part).1 = .error (.expectedAtLeast expected actual)) := by
  have hfront : front ≠ [] := by
    rintro rfl
    simp [body] at h
  rw [body_eq_messages decoder hfront] at h
  have hwhole : Whole decoder front messages decoder' := by
    refine whole_of_messages h fun message hmem => ?_
    unfold ServerMessage.endsPacket
    split
    · exact absurd hmem hflush
    · exact absurd hmem hend
    · rfl
  refine ⟨fun back hback => ?_, fun hone part rest hsplit hpart hrest => ?_⟩
  · rw [body_eq_messages decoder (by simp [hfront]), body_eq_messages decoder' hback]
    exact hwhole.messages_append back
  · obtain ⟨message, rfl⟩ := List.length_eq_one_iff.1 hone
    subst hsplit
    rw [body_eq_messages decoder hpart]
    exact (hwhole.severs hpart hrest).messages_eq

/-- A row stands behind a row header whose bit vector marks its one column as unchanged. The row is
empty, and it means what it does only for a decoder that remembers the bit vector. -/
theorem body_append_rowHeader :
    let decoder : Decoder := { columns := some [{ name := "ID", type := .number }] }
    let header : Bytes := [6, 0, 0, 0, 0, 0, 1, 1, 1, 0xFE, 0]
    (decoder.body header = (.ok [.rowHeader], { decoder with bits := some [0xFE] }) ∧
      ServerMessage.flushOutBinds ∉ [ServerMessage.rowHeader] ∧
      ServerMessage.endOfResponse ∉ [ServerMessage.rowHeader]) ∧
    decoder.body (header ++ [7]) = (.ok [.rowHeader, .row [.duplicate]], decoder) ∧
    ∃ expected actual, (decoder.body (header.take 9)).1 =
      .error (.expectedAtLeast expected actual) := by
  intro decoder header
  have hheader : decoder.body header =
      (.ok [.rowHeader], { decoder with bits := some [0xFE] }) := by
    cbv
  have hflush : ServerMessage.flushOutBinds ∉ [ServerMessage.rowHeader] := by decide
  have hend : ServerMessage.endOfResponse ∉ [ServerMessage.rowHeader] := by decide
  obtain ⟨happend, hshort⟩ := body_append hheader hflush hend
  have hrow : ({ decoder with bits := some [0xFE] } : Decoder).body [7] =
      (.ok [.row [.duplicate]], decoder) := by
    cbv
  refine ⟨⟨hheader, hflush, hend⟩, ?_, hshort rfl (header.take 9) (header.drop 9) ?_ ?_ ?_⟩
  · rw [happend [7] (by decide), hrow]
    rfl
  all_goals decide

end Decoder

end TnsClient
