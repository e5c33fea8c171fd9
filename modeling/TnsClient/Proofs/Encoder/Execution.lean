import TnsClient.Proofs.Encoder.CallReaders
import TnsClient.Proofs.Message.SelfDelimiting

set_option autoImplicit false

/-!
# Reading a statement that is to be executed

The request that executes a statement has no layout of its own: what was agreed on decides which
fields there are, pointers near its beginning whether a text and parameters follow, and calls may
stand in front of it that clean up. Here a server is given that knows what was agreed on and has the
octets, and it finds in them all that was asked for.

## Main definitions

* `TnsClient.ExecutionCall`, `TnsClient.ExecutionRequest` — what a server finds.
* `TnsClient.Decode.executionCall`, `TnsClient.Decode.executionRequest` — how it finds it.
* `TnsClient.StatementRequest.announced` — what it should find.

## Main results

* `TnsClient.StatementRequest.arguments_reads` — the arguments of the call are read.
* `TnsClient.StatementRequest.optionBits_parse`, `TnsClient.StatementRequest.optionBits_bind` — the
  option bits that say what follows.
* `TnsClient.Encoder.execute_decodable` — the whole request is read.
-/

namespace TnsClient

/-! ## What a server finds -/

/-- The layout of a parameter, as far as it is not the same for all. -/
structure BindLayout where
  /-- The number of the data type. -/
  type : UInt8
  /-- The size of the buffer. -/
  size : UInt32
  /-- The form of the character set. -/
  charsetForm : UInt8
  deriving DecidableEq, Repr

/-- What the call says that executes a statement. -/
structure ExecutionCall where
  /-- The option bits. -/
  options : UInt32
  /-- The cursor. -/
  cursor : UInt16
  /-- The text, if it is sent. -/
  sql : Option String
  /-- The layouts of the parameters and the row of their values, if there are parameters. -/
  parameters : Option (List BindLayout × List (Option Bytes))
  deriving DecidableEq, Repr

/-- What the request says that executes a statement. -/
structure ExecutionRequest where
  /-- The cursors to close. -/
  closed : List UInt16
  /-- The locators of the temporary objects to free, one behind the other. -/
  freed : Bytes
  /-- What the call says. -/
  call : ExecutionCall
  deriving DecidableEq, Repr

namespace Decode

/-! ## How it finds it -/

/-- Passes over a pointer. -/
def skipPointer : Decode Unit := do
  let _ ← pointer

/-- Reads a text of a size, if there is one. -/
def announcedText : Option Nat → Decode (Option String)
  | none => pure none
  | some size => do
    let octets := (← byteString).getD []
    if octets.length = size then some <$> ofUtf8 "statement" octets
    else fail (.fieldNotDecodable "statement")

/-- Reads the layout of a parameter. -/
def bindLayout (caps : Capabilities) : Decode BindLayout := do
  let type ← u8
  skip 3       -- indicator, precision, scale
  let size ← ub4
  skipUb4      -- elements of an array
  skipUb8      -- flags
  skipUb4      -- object type
  skipUb4      -- its version
  skipUb4      -- character set
  let charsetForm ← u8
  skipUb4      -- characters
  onlyIf (caps.atLeast FieldVersion.v12_2) skipUb4
  return ⟨type, size, charsetForm⟩

/-- Reads the layouts of so many parameters and the row of their values, if there are
parameters. -/
def announcedParameters (caps : Capabilities) :
    Option Nat → Decode (Option (List BindLayout × List (Option Bytes)))
  | none => pure none
  | some count => do
    let layouts ← times count (bindLayout caps)
    let kind ← u8
    if kind = MessageKind.rowData then do
      let row ← times count byteString
      return some (layouts, row)
    else fail (.fieldNotDecodable "row")

/-- Passes over the fields that newer field versions add. -/
def skipNewerFields (caps : Capabilities) : Decode Unit :=
  onlyIf (caps.atLeast FieldVersion.v12_2) do
    skipPointer
    skipPointer
    skip 1
    onlyIf (caps.atLeast FieldVersion.v12_2_ext1) skipPointer

/-- Reads the arguments of the call that executes a statement. -/
def executionCall (caps : Capabilities) : Decode ExecutionCall := do
  let options ← ub4
  let cursor ← ub4
  let size ← pointer
  let numbers ← pointer
  skipPointer  -- numbers that come back
  skipUb4      -- size of the buffer for rows
  skipUb4      -- iterations
  skipUb4      -- greatest size
  let count ← pointer
  skip 5       -- context of the application, transaction, keywords
  skipPointer  -- definitions of columns
  skipUb4      -- registration
  skip 2       -- list of objects
  skipPointer  -- object type
  skipPointer  -- its name
  skipUb4      -- upper half of the registration
  skipPointer  -- row counts
  skip 1
  skipNewerFields caps
  let sql ← announcedText size
  skipTimes (numbers.getD 0) skipUb4
  let parameters ← announcedParameters caps count
  return ⟨options, cursor.toUInt16, sql, parameters⟩

/-- Reads what there is to clean up: cursors to close, and locators one behind the other. -/
def cleanupCalls (token : Bool) : Decode (List UInt16 × Bytes) := do
  let closed ← optionalCall token FunctionCode.closeCursors closedCursors
  let freed ← optionalCall token FunctionCode.lob freedLocators
  return ((closed.getD []).map UInt32.toUInt16, freed.getD [])

/-- Reads the request that executes a statement: calls that clean up, and then the call itself. -/
def executionRequest (caps : Capabilities) : Decode ExecutionRequest := do
  let (closed, freed) ← cleanupCalls caps.sendsToken
  return ⟨closed, freed,
    ← functionCall caps.sendsToken FunctionCode.execute (executionCall caps)⟩

end Decode

/-! ## What it should find -/

namespace Bind

/-- The layout by which a parameter is announced. -/
def announcedLayout (caps : Capabilities) (bind : Bind) : BindLayout where
  type := bind.announced.1.code
  size := if caps.maxStringSize < bind.announced.2 then maxLongSize else bind.announced.2
  charsetForm := bind.charsetForm

/-- The value of a parameter as it arrives: null and empty alike. -/
def arriving (bind : Bind) : Option Bytes :=
  if (bind.value.getD []).isEmpty then none else some (bind.value.getD [])

end Bind

/-- What a server should find in the call that executes a statement. -/
def StatementRequest.announced (caps : Capabilities) (request : StatementRequest) :
    ExecutionCall where
  options := request.optionBits
  cursor := request.cursor
  sql := if request.needsParse then some request.sql else none
  parameters :=
    if request.binds.isEmpty then none
    else some (request.binds.map (Bind.announcedLayout caps), request.binds.map Bind.arriving)

namespace Decode.Reads

lemma skipPointer {octets : Bytes} {size : Option Nat} (h : Decode.pointer.Reads octets size) :
    Decode.skipPointer.Reads octets () :=
  h.map fun _ => ()

/-- A pointer to something that does not follow is passed over. -/
lemma skipAbsent : Decode.skipPointer.Reads absent () :=
  skipPointer (Reads.pointer false (by decide : 0 < UInt32.size))

/-- A text is read if it is sent, the empty one as well. -/
lemma announcedText (sent : Bool) (text : String) :
    (Decode.announcedText (if sent then some (Utf8.encode text).length else none)).Reads
      (if sent then Encode.byteString (Utf8.encode text) else [])
      (if sent then some text else none) := by
  split_ifs
  · have hoctets : (if (Utf8.encode text).isEmpty then none
        else some (Utf8.encode text)).getD [] = Utf8.encode text := by
      rcases Utf8.encode text with _ | ⟨octet, octets⟩ <;> rfl
    have htext : Decode.ofUtf8 "statement" (Utf8.encode text) = Pure.pure text := by
      unfold Decode.ofUtf8
      rw [Utf8.decode_encode]
    rw [← List.append_nil (Encode.byteString _)]
    refine (byteString_self (Utf8.encode text)).bind ?_
    rw [hoctets, if_pos rfl, htext]
    exact Reads.pure (some text)
  · exact Reads.pure none

/-- The layout of a parameter is read. -/
lemma bindLayout (caps : Capabilities) (bind : Bind) :
    (Decode.bindLayout caps).Reads (bind.layout caps) (bind.announcedLayout caps) := by
  have hzero := Reads.skipUb4 (.ub4 0)
  have hnewer := Reads.onlyIf (caps.atLeast FieldVersion.v12_2) hzero
  unfold Bind.layout
  simp only [List.append_assoc]
  show Reads _ ([bind.announced.1.code] ++ ([1, 0, 0] ++ _)) _
  refine (Reads.u8 _).bind ((Reads.skip [1, 0, 0]).bind ((Reads.ub4_self _).bind ?_))
  refine hzero.bind ((Reads.skipUb8 (.ub8 _)).bind (hzero.bind (hzero.bind ?_)))
  refine (Reads.skipUb4 (.ub4 _)).bind ((Reads.u8 bind.charsetForm).bind (hzero.bind ?_))
  exact hnewer.map fun _ => bind.announcedLayout caps

/-- Parameters are read. -/
lemma announcedParameters (caps : Capabilities) (binds : List Bind) :
    (Decode.announcedParameters caps (if !binds.isEmpty then some binds.length else none)).Reads
      (Bind.rowOctets caps binds)
      (if binds.isEmpty then none
        else some (binds.map (Bind.announcedLayout caps), binds.map Bind.arriving)) := by
  unfold Bind.rowOctets
  cases binds.isEmpty with
  | true => exact Reads.pure none
  | false =>
    have hlayouts := Reads.times (bindLayout caps) binds
    have hrow := Reads.times (fun bind : Bind => byteString_self (bind.value.getD [])) binds
    rw [List.append_assoc]
    refine hlayouts.bind ((Reads.u8 MessageKind.rowData).bind ?_)
    rw [if_pos rfl]
    exact hrow.map fun row => some (binds.map (Bind.announcedLayout caps), row)

lemma skipNewerFields (caps : Capabilities) :
    (Decode.skipNewerFields caps).Reads (StatementRequest.newerFields caps) () := by
  have hnewest := Reads.onlyIf (caps.atLeast FieldVersion.v12_2_ext1) skipAbsent
  unfold StatementRequest.newerFields
  refine Reads.onlyIf _ ?_
  simp only [List.append_assoc]
  exact skipAbsent.bind (skipAbsent.bind ((Reads.skip [0]).bind hnewest))

/-- Numbers in a row are passed over. -/
lemma skipTimes_ub4 (numbers : List UInt32) :
    (Decode.skipTimes numbers.length Decode.skipUb4).Reads (numbers.flatMap Encode.ub4) () := by
  induction numbers with
  | nil => exact Reads.pure ()
  | cons number numbers ih => exact (Reads.skipUb4 (.ub4 number)).bind ih

end Decode.Reads

namespace StatementRequest

/-- **The arguments of the call** that executes a statement are read, if it can be said how long the
text is and how many parameters there are. -/
theorem arguments_reads (caps : Capabilities) (request : StatementRequest)
    (hsql : (Utf8.encode request.sql).length < UInt32.size)
    (hbinds : request.binds.length < UInt32.size) :
    (Decode.executionCall caps).Reads (request.arguments caps) (request.announced caps) := by
  have hzero := Decode.Reads.skipUb4 (.ub4 0)
  have habsent := Decode.Reads.skipAbsent
  have hnumbers : request.numbers.length < UInt32.size := by
    show 13 < UInt32.size
    decide
  unfold arguments fields
  simp only [List.append_assoc]
  refine (Decode.Reads.ub4_self _).bind ((Decode.Reads.ub4_self _).bind ?_)
  refine (Decode.Reads.pointer _ hsql).bind ((Decode.Reads.pointer _ hnumbers).bind ?_)
  refine habsent.bind (hzero.bind ((Decode.Reads.skipUb4 (.ub4 _)).bind ?_))
  refine (Decode.Reads.skipUb4 (.ub4 _)).bind ((Decode.Reads.pointer _ hbinds).bind ?_)
  refine (Decode.Reads.skip [0, 0, 0, 0, 0]).bind (habsent.bind (hzero.bind ?_))
  refine (Decode.Reads.skip [0, 1]).bind (habsent.bind (habsent.bind (hzero.bind ?_)))
  refine habsent.bind ((Decode.Reads.skip [0]).bind ((Decode.Reads.skipNewerFields caps).bind ?_))
  refine (Decode.Reads.announcedText _ _).bind ((Decode.Reads.skipTimes_ub4 _).bind ?_)
  rw [UInt16.toUInt16_toUInt32]
  exact (Decode.Reads.announcedParameters caps request.binds).map fun parameters =>
    (⟨request.optionBits, request.cursor, if request.needsParse then some request.sql else none,
      parameters⟩ : ExecutionCall)

end StatementRequest

/-! ## The option bits -/

section

variable (condition : Bool) (bit : UInt32)

lemma bitIf_zero : bitIf condition 0 = 0 := by
  unfold bitIf
  split_ifs <;> rfl

lemma bitIf_and (mask : UInt32) :
    bitIf condition bit &&& mask = bitIf condition (bit &&& mask) := by
  unfold bitIf
  split_ifs
  · rfl
  · exact UInt32.zero_and

lemma bitIf_ne_zero_iff (hbit : bit ≠ 0) : bitIf condition bit ≠ 0 ↔ condition = true := by
  unfold bitIf
  split_ifs with h <;> simp [hbit, h]

end

/-- A mask goes over a union of bits. -/
lemma or_and_mask (bits more mask : UInt32) :
    (bits ||| more) &&& mask = (bits &&& mask) ||| (more &&& mask) := by
  refine UInt32.toBitVec_inj.1 ?_
  ext position
  simp [Bool.and_or_distrib_right]

namespace StatementRequest

/-- **The bit of the text** is set if the text is sent, and only then. -/
lemma optionBits_parse (request : StatementRequest) :
    request.optionBits &&& ExecuteOption.parse ≠ 0 ↔ request.needsParse = true := by
  have hbits : request.optionBits &&& ExecuteOption.parse =
      bitIf request.needsParse ExecuteOption.parse := by
    unfold optionBits
    simp only [or_and_mask, bitIf_and]
    show bitIf _ 0 ||| bitIf _ 0x0001 ||| bitIf _ 0 ||| bitIf _ 0 ||| bitIf _ 0 ||| bitIf _ 0 |||
      bitIf _ 0 = bitIf _ 0x0001
    simp only [bitIf_zero, UInt32.zero_or, UInt32.or_zero]
  rw [hbits]
  exact bitIf_ne_zero_iff _ _ (by decide)

/-- **The bit of the parameters** is set if there are parameters, and only then. -/
lemma optionBits_bind (request : StatementRequest) :
    request.optionBits &&& ExecuteOption.bind ≠ 0 ↔ request.binds ≠ [] := by
  have hbits : request.optionBits &&& ExecuteOption.bind =
      bitIf (!request.binds.isEmpty) ExecuteOption.bind := by
    unfold optionBits
    simp only [or_and_mask, bitIf_and]
    show bitIf _ 0 ||| bitIf _ 0 ||| bitIf _ 0 ||| bitIf _ 0 ||| bitIf _ 0 ||| bitIf _ 0x0008 |||
      bitIf _ 0 = bitIf _ 0x0008
    simp only [bitIf_zero, UInt32.zero_or, UInt32.or_zero]
  rw [hbits, bitIf_ne_zero_iff _ _ (by decide)]
  simp

variable (caps : Capabilities) (request : StatementRequest)

lemma announced_sql_isSome_iff :
    (request.announced caps).sql.isSome = true ↔ request.needsParse = true := by
  unfold announced
  cases request.needsParse <;> simp

/-- Layouts are announced if there are parameters, and as many values as layouts. -/
lemma exists_announced_parameters_iff :
    (∃ layouts row, (request.announced caps).parameters = some (layouts, row) ∧ layouts ≠ [] ∧
      row.length = layouts.length) ↔ request.binds ≠ [] := by
  unfold announced
  rcases request.binds with _ | ⟨bind, binds⟩ <;> simp

end StatementRequest

/-! ## The whole request -/

namespace Decode

variable (encoder : Encoder) (cleanup : Cleanup) (more : Bytes)

/-- **What there is to clean up** is read in front of a call that is answered, and nothing is lost
of that call. -/
lemma cleanupCalls_body (call : Call) (hcall : call.kind = MessageKind.function)
    (hcursors : cleanup.cursors.length < UInt32.size)
    (hlobs : cleanup.lobs.flatten.length < UInt32.size)
    (hsize : cleanup.lobSize = cleanup.lobs.flatten.length) :
    ∃ sequence, cleanupCalls encoder.capabilities.sendsToken
        ((encoder.body (cleanup.calls ++ [call])).1 ++ more) =
      .ok ((cleanup.cursors, cleanup.lobs.flatten), encoder.callOctets call sequence ++ more) := by
  let closes : List Call := if cleanup.cursors.isEmpty then []
    else [.piggyback FunctionCode.closeCursors (Cleanup.closeArguments cleanup.cursors)]
  let frees : List Call := if cleanup.lobs.isEmpty then []
    else [.piggyback FunctionCode.lob (Cleanup.freeArguments cleanup.lobs cleanup.lobSize)]
  have hcalls : cleanup.calls ++ [call] = closes ++ (frees ++ [call]) := List.append_assoc _ _ _
  have hpiggyback : ∀ code, call.head ≠ ⟨MessageKind.piggyback, code⟩ := by
    intro code heq
    cases (congrArg CallHead.kind heq).symm.trans hcall
  have hothers : ∀ other ∈ frees ++ [call],
      other.head ≠ ⟨MessageKind.piggyback, FunctionCode.closeCursors⟩ := by
    intro other hmem
    rcases List.mem_append.1 hmem with hfrees | hlast
    · unfold frees at hfrees
      split_ifs at hfrees
      · cases hfrees
      · rw [List.mem_singleton.1 hfrees]
        exact of_decide_eq_true rfl
    · rw [List.mem_singleton.1 hlast]
      exact hpiggyback _
  have hclosed := optionalCall_body encoder closes rfl (Cleanup.closeArguments_reads hcursors)
    (by simp) hothers more
  have hfreed := optionalCall_body (encoder.body closes).2 frees rfl
    (hsize ▸ Cleanup.freeArguments_reads hlobs) (by simp)
    (List.forall_mem_singleton.2 (hpiggyback FunctionCode.lob)) more
  rw [Encoder.capabilities_body, Encoder.body_singleton, Encoder.callOctets_congr
    ((Encoder.capabilities_body _ _).trans (encoder.capabilities_body closes))] at hfreed
  have hcursors' : ((if cleanup.cursors.isEmpty then none
      else some (cleanup.cursors.map UInt16.toUInt32)).getD []).map UInt32.toUInt16 =
        cleanup.cursors := by
    rcases cleanup.cursors with _ | ⟨cursor, cursors⟩
    · rfl
    · simp [Function.comp_def]
  have hlobs' : (if cleanup.lobs.isEmpty then none else some cleanup.lobs.flatten).getD [] =
      cleanup.lobs.flatten := by
    rcases cleanup.lobs with _ | ⟨lob, lobs⟩ <;> rfl
  refine ⟨nextSequence ((encoder.body closes).2.body frees).2.sequence, ?_⟩
  unfold cleanupCalls
  rw [hcalls, bind_of_ok hclosed, bind_of_ok hfreed, hcursors', hlobs']
  rfl

/-- **The whole request is read**, and nothing behind it. -/
lemma executionRequest_body {request : StatementRequest}
    (hcursors : cleanup.cursors.length < UInt32.size)
    (hlobs : cleanup.lobs.flatten.length < UInt32.size)
    (hsize : cleanup.lobSize = cleanup.lobs.flatten.length)
    (hsql : (Utf8.encode request.sql).length < UInt32.size)
    (hbinds : request.binds.length < UInt32.size) :
    executionRequest encoder.capabilities
        ((encoder.body (cleanup.calls ++ [.function FunctionCode.execute
          (request.arguments encoder.capabilities)])).1 ++ more) =
      .ok (⟨cleanup.cursors, cleanup.lobs.flatten, request.announced encoder.capabilities⟩,
        more) := by
  obtain ⟨sequence, hcleanup⟩ := cleanupCalls_body encoder cleanup more
    (.function FunctionCode.execute (request.arguments encoder.capabilities)) rfl hcursors hlobs
    hsize
  have harguments := (request.arguments_reads encoder.capabilities hsql hbinds).complete more
  have hcall := (functionCall_callOctets encoder FunctionCode.execute _ _ sequence more).trans
    harguments
  unfold executionRequest
  rw [bind_of_ok hcleanup]
  exact bind_of_ok hcall

end Decode

namespace Encoder

/-- **A request that executes a statement can be read.** Let the numbers that it says be ones that
32 bits can say: how many cursors it closes, how many octets the locators take that it frees, of
which account is kept, how many octets the text has and how many parameters there are. Whatever
was agreed on and whichever number the last call had, the packets of the request carry octets of
which `Decode.executionRequest`, which knows nothing but what was agreed on, takes exactly these,
whatever stands behind them, and finds:

* the cursors to close and the locators to free, one behind the other;
* the option bits and the cursor, and the text if, and only if, it has to be sent;
* of each parameter, in order, the number of its data type, the size by which it is announced and
  the form of its character set, and then of each its value, none where it is null or empty.

The option bit of the text is set just if there is a text, and that of the parameters just if there
are layouts of parameters and then as many values.

**Proof sketch.** The reader reads the calls that clean up if they are there
(`Decode.cleanupCalls_body`), and then the arguments field by field
(`StatementRequest.arguments_reads`): pointers say in front what follows behind, and byte strings of
any length say where they end. -/
theorem execute_decodable (encoder : Encoder) (cleanup : Cleanup) (request : StatementRequest)
    (hcursors : cleanup.cursors.length < UInt32.size)
    (hlobs : cleanup.lobs.flatten.length < UInt32.size)
    (hsize : cleanup.lobSize = cleanup.lobs.flatten.length)
    (hsql : (Utf8.encode request.sql).length < UInt32.size)
    (hbinds : request.binds.length < UInt32.size) :
    ∃ payloads call,
      (encoder.execute cleanup request).1 = encoder.capabilities.dataPackets payloads ∧
      (∀ more, Decode.executionRequest encoder.capabilities (payloads.flatten ++ more) =
        .ok (⟨cleanup.cursors, cleanup.lobs.flatten, call⟩, more)) ∧
      call.options = request.optionBits ∧ call.cursor = request.cursor ∧
      call.sql = (if request.needsParse then some request.sql else none) ∧
      call.parameters = (if request.binds.isEmpty then none
        else some (request.binds.map (Bind.announcedLayout encoder.capabilities),
          request.binds.map Bind.arriving)) ∧
      (call.options &&& ExecuteOption.parse ≠ 0 ↔ call.sql.isSome) ∧
      (call.options &&& ExecuteOption.bind ≠ 0 ↔ ∃ layouts row,
        call.parameters = some (layouts, row) ∧ layouts ≠ [] ∧ row.length = layouts.length) := by
  obtain ⟨payloads, hpackets, hpayloads⟩ := encoder.exists_payloads_of_send
    (cleanup.calls ++
      [.function FunctionCode.execute (request.arguments encoder.capabilities)])
  refine ⟨payloads, request.announced encoder.capabilities, hpackets, fun more => ?_, rfl, rfl, rfl,
    rfl, ?_, ?_⟩
  · rw [hpayloads]
    exact Decode.executionRequest_body encoder cleanup more hcursors hlobs hsize hsql hbinds
  · rw [StatementRequest.announced_sql_isSome_iff]
    exact request.optionBits_parse
  · rw [StatementRequest.exists_announced_parameters_iff]
    exact request.optionBits_bind

/-- A block with two parameters, of which one is null and the position of a row, behind two calls
that clean up. -/
theorem execute_decodable_block :
    let encoder : Encoder := { sequence := 254 }
    let cleanup : Cleanup := ⟨[7, 9], [[1, 2], [], [3]], 3⟩
    let request : StatementRequest := .ofSql "begin p(:1, :2); end;"
      [⟨.varchar, some [97, 98], 2, 1⟩, .null .rowid] {}
    cleanup.cursors.length < UInt32.size ∧ cleanup.lobs.flatten.length < UInt32.size ∧
      cleanup.lobSize = cleanup.lobs.flatten.length ∧
      (Utf8.encode request.sql).length < UInt32.size ∧ request.binds.length < UInt32.size ∧
      ∃ payloads call,
        (encoder.execute cleanup request).1 = encoder.capabilities.dataPackets payloads ∧
        (∀ more, Decode.executionRequest encoder.capabilities (payloads.flatten ++ more) =
          .ok (⟨[7, 9], [1, 2, 3], call⟩, more)) ∧
        call.sql = some "begin p(:1, :2); end;" ∧
        call.parameters =
          some ([⟨1, 2, 1⟩, ⟨1, maxLongSize, 0⟩], [some [97, 98], none]) ∧
        call.options &&& ExecuteOption.parse ≠ 0 ∧ call.options &&& ExecuteOption.bind ≠ 0 := by
  intro encoder cleanup request
  have hcursors : cleanup.cursors.length < UInt32.size := by decide
  have hlobs : cleanup.lobs.flatten.length < UInt32.size := by decide
  have hsql : (Utf8.encode request.sql).length < UInt32.size := by decide +kernel
  have hbinds : request.binds.length < UInt32.size := by decide
  obtain ⟨payloads, call, hpackets, hread, -, -, hsent, hparameters, hparse, hbind⟩ :=
    execute_decodable encoder cleanup request hcursors hlobs rfl hsql hbinds
  refine ⟨hcursors, hlobs, rfl, hsql, hbinds, payloads, call, hpackets, hread, hsent,
    hparameters.trans ?_, hparse.2 ?_, hbind.2 ?_⟩
  · decide
  · rw [hsent]
    rfl
  · exact ⟨_, _, hparameters, by decide, by decide⟩

end Encoder

end TnsClient
