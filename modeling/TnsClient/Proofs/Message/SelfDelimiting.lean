import TnsClient.Decoder
import TnsClient.Proofs.Wire.SelfDelimiting

set_option autoImplicit false

/-!
# Messages know where they end

The body of every message of a data packet is read by a self-delimiting reader. A packet that is cut
inside a message is therefore too short for it, and a packet that is cut behind one is not missed.

## Main results

* `TnsClient.Decode.SelfDelimiting.message` — the reader of a message of any kind is
  self-delimiting, whatever the decoder remembers.
-/

namespace TnsClient.Decode.SelfDelimiting

/-! ## Error blocks -/

instance batch {α : Type} (count : Nat) (item : Decode α) [SelfDelimiting item] :
    SelfDelimiting (Decode.batch count item) := by
  unfold Decode.batch
  infer_instance

instance skipAnnounced (announced : Bool) : SelfDelimiting (Decode.skipAnnounced announced) := by
  unfold Decode.skipAnnounced
  infer_instance

instance skipBatchMessage : SelfDelimiting Decode.skipBatchMessage := by
  unfold Decode.skipBatchMessage
  infer_instance

instance rowId : SelfDelimiting Decode.rowId := by
  unfold Decode.rowId
  infer_instance

instance errorBlock (caps : Capabilities) : SelfDelimiting (Decode.errorBlock caps) := by
  unfold Decode.errorBlock
  dsimp only
  repeat refine next fun _ => ?_
  infer_instance

instance warning : SelfDelimiting Decode.warning := by
  unfold Decode.warning
  infer_instance

/-! ## Descriptions of columns -/

instance countedText (field : String) : SelfDelimiting (Decode.countedText field) := by
  unfold Decode.countedText
  infer_instance

instance dataType : SelfDelimiting Decode.dataType := by
  unfold Decode.dataType
  refine next fun code => ?_
  split <;> infer_instance

instance i8 : SelfDelimiting Decode.i8 := by
  unfold Decode.i8
  infer_instance

instance domainTexts (caps : Capabilities) : SelfDelimiting (Decode.domainTexts caps) := by
  unfold Decode.domainTexts
  infer_instance

instance skipObjectId : SelfDelimiting Decode.skipObjectId := by
  unfold Decode.skipObjectId
  infer_instance

instance column (caps : Capabilities) : SelfDelimiting (Decode.column caps) := by
  unfold Decode.column
  dsimp only
  repeat refine next fun _ => ?_
  split_ifs
  all_goals
    repeat refine next fun _ => ?_
    infer_instance

instance description (caps : Capabilities) : SelfDelimiting (Decode.description caps) := by
  unfold Decode.description
  repeat refine next fun _ => ?_
  infer_instance

/-! ## Setting up a connection -/

instance serverInfo : SelfDelimiting Decode.serverInfo := by
  unfold Decode.serverInfo
  repeat refine next fun _ => ?_
  infer_instance

instance skipDataType : SelfDelimiting Decode.skipDataType := by
  unfold Decode.skipDataType
  dsimp only
  infer_instance

instance dataTypes : SelfDelimiting Decode.dataTypes := by
  unfold Decode.dataTypes
  infer_instance

instance callStatus : SelfDelimiting Decode.callStatus := by
  unfold Decode.callStatus
  infer_instance

/-! ## Parameters and piggybacks -/

instance sessionValue : SelfDelimiting Decode.sessionValue := by
  unfold Decode.sessionValue
  infer_instance

instance authParameters : SelfDelimiting Decode.authParameters := by
  unfold Decode.authParameters
  infer_instance

instance keyword : SelfDelimiting Decode.keyword := by
  unfold Decode.keyword
  infer_instance

instance statementParameters : SelfDelimiting Decode.statementParameters := by
  unfold Decode.statementParameters
  infer_instance

instance locator (length : Nat) : SelfDelimiting (Decode.locator length) := by
  unfold Decode.locator
  infer_instance

instance lobParameters (shape : LobShape) : SelfDelimiting (Decode.lobParameters shape) := by
  unfold Decode.lobParameters
  dsimp only
  repeat refine next fun _ => ?_
  split_ifs <;> infer_instance

instance skipPair : SelfDelimiting Decode.skipPair := by
  unfold Decode.skipPair
  infer_instance

instance skipSessionPairs : SelfDelimiting Decode.skipSessionPairs := by
  unfold Decode.skipSessionPairs
  infer_instance

instance piggyback : SelfDelimiting Decode.piggyback := by
  unfold Decode.piggyback
  refine next fun code => ?_
  split
  all_goals
    repeat refine next fun _ => ?_
    infer_instance

/-! ## Rows -/

instance plainValue : SelfDelimiting Decode.plainValue := by
  unfold Decode.plainValue
  refine next fun read => ?_
  cases read <;> infer_instance

instance lobSizes (type : DataType) : SelfDelimiting (Decode.lobSizes type) := by
  unfold Decode.lobSizes
  infer_instance

instance lobValue (type : DataType) : SelfDelimiting (Decode.lobValue type) := by
  unfold Decode.lobValue
  infer_instance

instance columnValue (column : Column) : SelfDelimiting (Decode.columnValue column) := by
  unfold Decode.columnValue
  split <;> infer_instance

instance rowFrom (bits : Option Bytes) (index : Nat) (columns : List Column) :
    SelfDelimiting (Decode.rowFrom bits index columns) := by
  induction columns generalizing index with
  | nil => exact pure []
  | cons column rest ih =>
    unfold Decode.rowFrom
    infer_instance

instance row (columns : List Column) (bits : Option Bytes) :
    SelfDelimiting (Decode.row columns bits) := by
  unfold Decode.row
  infer_instance

instance attachedBits : SelfDelimiting Decode.attachedBits := by
  unfold Decode.attachedBits
  infer_instance

instance rowHeader : SelfDelimiting Decode.rowHeader := by
  unfold Decode.rowHeader
  repeat refine next fun _ => ?_
  infer_instance

instance bitVector (columns : Nat) : SelfDelimiting (Decode.bitVector columns) := by
  unfold Decode.bitVector
  infer_instance

/-! ## Any message -/

instance parameter (decoder : Decoder) : SelfDelimiting decoder.parameter := by
  unfold Decoder.parameter
  split <;> infer_instance

instance decoderRow (decoder : Decoder) : SelfDelimiting decoder.row := by
  unfold Decoder.row
  split <;> infer_instance

/-- **Every message of a data packet** is self-delimiting, whatever the decoder remembers. -/
instance message (decoder : Decoder) (kind : UInt8) : SelfDelimiting (decoder.message kind) := by
  unfold Decoder.message
  infer_instance

end TnsClient.Decode.SelfDelimiting
