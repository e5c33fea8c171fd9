import TnsClient.Encoder.Statement
import TnsClient.Proofs.Encoder.Calls

set_option autoImplicit false

/-!
# Reading calls

Whoever receives a request knows what was agreed on, and nothing else. The first octets of a call
tell which call it is; pointers in its arguments tell whether something follows, and how much of it.
In front of the call that is answered others may stand, and only their first octets tell whether
they do.

## Main definitions

* `TnsClient.Decode.callHead` — reads which call comes.
* `TnsClient.Decode.pointer` — reads whether something follows, and how much.
* `TnsClient.Decode.optionalCall` — reads the arguments of a call that may stand in front of others.
* `TnsClient.Decode.functionCall` — reads the arguments of the call that is answered.

## Main results

* `TnsClient.Decode.Reads.callHead`, `TnsClient.Decode.Reads.pointer` — what is written is read.
* `TnsClient.Decode.optionalCall_body` — a call that may be there is read if it is there, and if it
  is not, nothing is lost of the next one.
-/

namespace TnsClient

/-! ## Calls in a row -/

namespace Encoder

/-- The octets in front of the arguments of a call. -/
def headOctets (encoder : Encoder) (call : Call) (sequence : UInt8) : Bytes :=
  [call.kind, call.code, sequence] ++
    (if encoder.capabilities.sendsToken then Encode.ub8 0 else [])

lemma callOctets_eq (encoder : Encoder) (call : Call) (sequence : UInt8) :
    encoder.callOctets call sequence = encoder.headOctets call sequence ++ call.arguments := rfl

lemma capabilities_body (encoder : Encoder) (calls : List Call) :
    (encoder.body calls).2.capabilities = encoder.capabilities := by
  induction calls generalizing encoder with
  | nil => rfl
  | cons call rest ih => exact ih { encoder with sequence := nextSequence encoder.sequence }

lemma body_singleton (encoder : Encoder) (call : Call) :
    (encoder.body [call]).1 = encoder.callOctets call (nextSequence encoder.sequence) :=
  List.append_nil _

/-- What is written of a call and those behind it. -/
lemma body_cons_fst (encoder : Encoder) (call : Call) (rest : List Call) :
    (encoder.body (call :: rest)).1 = encoder.callOctets call (nextSequence encoder.sequence) ++
      (({ encoder with sequence := nextSequence encoder.sequence } : Encoder).body rest).1 := rfl

/-- Calls behind others go on with the numbers. -/
lemma body_of_append (encoder : Encoder) (calls more : List Call) :
    (encoder.body (calls ++ more)).1 =
      (encoder.body calls).1 ++ ((encoder.body calls).2.body more).1 := by
  induction calls generalizing encoder with
  | nil => rfl
  | cons call rest ih =>
    rw [List.cons_append, body_cons_fst, body_cons_fst, ih, List.append_assoc]
    rfl

/-- The octets of a call depend on what was agreed on, and on its number. -/
lemma callOctets_congr {encoder encoder' : Encoder}
    (h : encoder'.capabilities = encoder.capabilities) (call : Call) (sequence : UInt8) :
    encoder'.callOctets call sequence = encoder.callOctets call sequence := by
  unfold callOctets
  rw [h]

/-- A request is sent in packets that carry the octets of its calls. -/
lemma exists_payloads_of_send (encoder : Encoder) (calls : List Call) :
    ∃ payloads, (encoder.send calls).1 = encoder.capabilities.dataPackets payloads ∧
      payloads.flatten = (encoder.body calls).1 := by
  refine ⟨pieces encoder.capabilities.maxPayload (encoder.body calls).1, ?_, flatten_pieces _ _⟩
  show (encoder.body calls).2.capabilities.packets _ = _
  rw [capabilities_body]
  rfl

end Encoder

/-! ## Readers -/

/-- Which call comes. -/
structure CallHead where
  /-- The kind of the message. -/
  kind : UInt8
  /-- The code of the function. -/
  code : UInt8
  deriving DecidableEq, Repr

/-- Which call a call is. -/
def Call.head (call : Call) : CallHead := ⟨call.kind, call.code⟩

namespace Decode

variable {α : Type}

/-- Passes over what is there under a condition. -/
def onlyIf (condition : Bool) (reader : Decode Unit) : Decode Unit :=
  if condition then reader else pure ()

/-- Reads which call comes, and passes over its number and its token. -/
def callHead (token : Bool) : Decode CallHead := do
  let kind ← u8
  let code ← u8
  skip 1
  onlyIf token skipUb8
  return ⟨kind, code⟩

/-- Reads whether something follows, and how much of it. -/
def pointer : Decode (Option Nat) := do
  let present ← u8
  let size ← ub4
  return if present = 0 then none else some size.toNat

/-- Reads the arguments of a call that is not answered, if it is the next one. -/
def optionalCall (token : Bool) (code : UInt8) (arguments : Decode α) : Decode (Option α) :=
  fun input =>
    match callHead token input with
    | .error error => .error error
    | .ok (head, rest) =>
      if head = ⟨MessageKind.piggyback, code⟩ then (do return some (← arguments)) rest
      else .ok (none, input)

/-- Reads the arguments of a call that is answered, which has to be that of a function. -/
def functionCall (token : Bool) (code : UInt8) (arguments : Decode α) : Decode α := do
  let head ← callHead token
  if head = ⟨MessageKind.function, code⟩ then arguments
  else fail (.fieldNotDecodable "call")

/-! ## What they make of what is written -/

/-- What is there under a condition is read under it. -/
lemma Reads.onlyIf {reader : Decode Unit} {octets : Bytes} (condition : Bool)
    (h : reader.Reads octets ()) :
    (Decode.onlyIf condition reader).Reads (if condition then octets else []) () := by
  unfold Decode.onlyIf
  split_ifs
  · exact h
  · exact Reads.pure ()

/-- **The head of a call** is read. -/
lemma Reads.callHead (encoder : Encoder) (call : Call) (sequence : UInt8) :
    (Decode.callHead encoder.capabilities.sendsToken).Reads (encoder.headOctets call sequence)
      call.head := by
  have htoken := Reads.onlyIf encoder.capabilities.sendsToken (Reads.skipUb8 (.ub8 0))
  show Reads _ ([call.kind] ++ ([call.code] ++ ([sequence] ++ _))) _
  refine Reads.bind (Reads.u8 call.kind) (Reads.bind (Reads.u8 call.code) ?_)
  exact Reads.bind (Reads.skip [sequence]) (htoken.map fun _ => call.head)

/-- **A pointer** is read, with what 32 bits hold of the size. -/
lemma Reads.pointer_mod (present : Bool) (size : Nat) :
    Decode.pointer.Reads (announce present size)
      (if present then some (size % UInt32.size) else none) := by
  have hsize := fun size => Reads.ub4_self (UInt32.ofNat size)
  cases present with
  | true =>
    have hread := (hsize size).map fun size : UInt32 => some size.toNat
    rw [UInt32.toNat_ofNat'] at hread
    exact Reads.bind (Reads.u8 1) hread
  | false => exact Reads.bind (Reads.u8 0) ((hsize 0).map fun _ => none)

/-- A pointer is read as it is, if 32 bits hold the size. -/
lemma Reads.pointer (present : Bool) {size : Nat} (h : size < UInt32.size) :
    Decode.pointer.Reads (announce present size) (if present then some size else none) := by
  have hread := Reads.pointer_mod present size
  rwa [Nat.mod_eq_of_lt h] at hread

/-- Behind the head of a call that is answered its arguments are read. -/
lemma functionCall_callOctets (encoder : Encoder) (code : UInt8) (octets : Bytes)
    (arguments : Decode α) (sequence : UInt8) (more : Bytes) :
    functionCall encoder.capabilities.sendsToken code arguments
        (encoder.callOctets (.function code octets) sequence ++ more) =
      arguments (octets ++ more) := by
  have hhead := (Reads.callHead encoder (.function code octets) sequence).complete
    (octets ++ more)
  have hcall : (Call.function code octets).head = ⟨MessageKind.function, code⟩ := rfl
  unfold functionCall
  rw [Encoder.callOctets_eq, List.append_assoc, show (Call.function code octets).arguments =
    octets from rfl, bind_of_ok hhead, if_pos hcall]

/-- A call that is there is read. -/
lemma optionalCall_present (encoder : Encoder) {code : UInt8} {octets : Bytes}
    {arguments : Decode α} {said : α} (h : arguments.Reads octets said) (sequence : UInt8)
    (rest : Bytes) :
    optionalCall encoder.capabilities.sendsToken code arguments
        (encoder.callOctets (.piggyback code octets) sequence ++ rest) =
      .ok (some said, rest) := by
  have hhead := (Reads.callHead encoder (.piggyback code octets) sequence).complete
    (octets ++ rest)
  unfold optionalCall
  rw [Encoder.callOctets_eq, List.append_assoc, show (Call.piggyback code octets).arguments =
    octets from rfl, hhead]
  exact (if_pos rfl).trans ((h.map some).complete rest)

/-- A call that is not there takes nothing from the next one. -/
lemma optionalCall_absent (encoder : Encoder) {code : UInt8} {call : Call}
    (hcall : call.head ≠ ⟨MessageKind.piggyback, code⟩) (arguments : Decode α) (sequence : UInt8)
    (rest : Bytes) :
    optionalCall encoder.capabilities.sendsToken code arguments
        (encoder.callOctets call sequence ++ rest) =
      .ok (none, encoder.callOctets call sequence ++ rest) := by
  have hhead := (Reads.callHead encoder call sequence).complete (call.arguments ++ rest)
  unfold optionalCall
  rw [Encoder.callOctets_eq, List.append_assoc, hhead]
  exact if_neg hcall

/-- **A call that may stand in front of others** is read if it does; if it does not, nothing is
lost of the next one. -/
lemma optionalCall_body (encoder : Encoder) {code : UInt8} {octets : Bytes} {arguments : Decode α}
    {said : α} {absent : Bool} (front : List Call)
    (hfront : front = if absent then [] else [.piggyback code octets])
    (h : arguments.Reads octets said) {calls : List Call} (hne : calls ≠ [])
    (hcalls : ∀ call ∈ calls, call.head ≠ ⟨MessageKind.piggyback, code⟩) (more : Bytes) :
    optionalCall encoder.capabilities.sendsToken code arguments
        ((encoder.body (front ++ calls)).1 ++ more) =
      .ok (if absent then none else some said, ((encoder.body front).2.body calls).1 ++ more) := by
  subst hfront
  rw [Encoder.body_of_append, List.append_assoc]
  cases absent with
  | true =>
    obtain ⟨call, rest, rfl⟩ := List.exists_cons_of_ne_nil hne
    show optionalCall _ _ _ ((encoder.body (call :: rest)).1 ++ more) =
      .ok (none, (encoder.body (call :: rest)).1 ++ more)
    rw [Encoder.body_cons_fst, List.append_assoc]
    exact optionalCall_absent encoder (hcalls call List.mem_cons_self) arguments _ _
  | false =>
    show optionalCall _ _ _ ((encoder.body [.piggyback code octets]).1 ++ _) = _
    rw [Encoder.body_singleton]
    exact optionalCall_present encoder h _ _

end Decode

end TnsClient
