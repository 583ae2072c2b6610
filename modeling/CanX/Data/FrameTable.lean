import CanX.Data.Columns
import CanX.Transport.PyInteger
import CanX.Transport.RoundTrip

/-! The canonical Parquet layout of a frame segment: the table that is written, and the checks of the reader that
turns a table back into frames. -/

namespace CanX.Data

open Dbc Domain Transport

section Tables

inductive ArrowType where
  | uint64
  | uint32
  | uint8
  | bool
  | string
  | binary
  | float64
  | other (name : String)
  deriving DecidableEq

inductive ArrowValue where
  | null
  | uint (value : Nat)
  | bool (value : Bool)
  | str (value : Text)
  | bytes (data : Bytes)
  | float (value : PyFloat)
  | other (label : String)
  deriving DecidableEq

/-- A table with the decoded key/value metadata of its schema. A row has its cells in the order of the fields. -/
structure ArrowTable where
  metadata : List (Text × Text)
  schema : List (String × ArrowType)
  rows : List (List ArrowValue)
  deriving DecidableEq

def frameColumns : List String :=
  ["sequence", "channel_id", "arbitration_id", "is_extended", "is_fd", "bitrate_switch", "error_state_indicator",
    "dlc", "data", "direction", "hardware_timestamp", "host_timestamp", "normalized_timestamp", "clock_domain",
    "timestamp_quality", "flags"]

def frameArrowSchema : List (String × ArrowType) :=
  [("sequence", .uint64), ("channel_id", .string), ("arbitration_id", .uint32), ("is_extended", .bool),
    ("is_fd", .bool), ("bitrate_switch", .bool), ("error_state_indicator", .bool), ("dlc", .uint8),
    ("data", .binary), ("direction", .string), ("hardware_timestamp", .float64), ("host_timestamp", .float64),
    ("normalized_timestamp", .float64), ("clock_domain", .string), ("timestamp_quality", .string),
    ("flags", .uint32)]

end Tables

section Writing

/-- A string column holds UTF-8. -/
def stringCell (value : Text) : Except Data.PyException ArrowValue :=
  if value.encodable then .ok (.str value) else .error .foreign

/-- A float column takes an int that a double denotes exactly in any case. -/
def floatCell : PyNumber → Except Data.PyException ArrowValue
  | .float value => .ok (.float (.finite value))
  | .int value => if value.natAbs ≤ 0x20000000000000 then .ok (.float (.finite value)) else .error .arrow

/-- The arrays of `frames_to_table`, in its order. -/
def frameArrays : List (PyFrame → Except Data.PyException ArrowValue) :=
  [fun frame => .ok (.uint frame.sequence),
    fun frame => stringCell frame.channelId,
    fun frame => .ok (.uint frame.arbitrationId),
    fun frame => .ok (.bool frame.isExtended),
    fun frame => .ok (.bool frame.isFd),
    fun frame => .ok (.bool frame.bitrateSwitch),
    fun frame => .ok (.bool frame.errorStateIndicator),
    fun frame => .ok (.uint frame.dlc),
    fun frame => .ok (.bytes frame.data),
    fun frame => stringCell (text (directionValue frame.direction)),
    fun frame => match frame.hardwareTimestamp with
      | none => .ok .null
      | some stamp => floatCell stamp,
    fun frame => floatCell frame.hostTimestamp,
    fun frame => floatCell frame.normalizedTimestamp,
    fun frame => stringCell frame.clockDomain,
    fun frame => stringCell (text (timestampQualityValue frame.timestampQuality)),
    fun frame => .ok (.uint frame.flags)]

def frameSegmentMetadata (sessionId streamId : Text) (segmentIndex : Int) : List (Text × Text) :=
  [(text "canx.format", text "can-x-frame-segment"), (text "canx.schema_version", textOf 1),
    (text "canx.session_id", sessionId), (text "canx.stream_id", streamId),
    (text "canx.segment_index", textOf segmentIndex)]

def emptySegment : DataError :=
  ⟨.integrity, "data.integrity.empty_segment", "A frame segment must hold at least one frame."⟩

/-- Row by row, the cells of the columns. -/
def transpose (columns : List (List ArrowValue)) (count : Nat) : List (List ArrowValue) :=
  (List.range count).map fun index => columns.map fun column => column[index]?.getD .null

def framesToTable (frames : List PyFrame) (sessionId streamId : Text) (segmentIndex : Int) :
    Except Data.PyException ArrowTable :=
  if frames = [] then .error (.data emptySegment)
  else do
    let columns ← frameArrays.mapM fun array => frames.mapM array
    let metadata := frameSegmentMetadata sessionId streamId segmentIndex
    if metadata.all fun entry => entry.2.encodable then
      .ok ⟨metadata, frameArrowSchema, transpose columns frames.length⟩
    else .error .foreign

end Writing

section Reading

def integrityError (code message : String) : DataError := ⟨.integrity, code, message⟩

/-- The identity a reader expects of a segment, as far as it names one. -/
structure Expected where
  sessionId : Option Text
  streamId : Option Text
  segmentIndex : Option Int

/-- `metadata.get(key)`; of equal keys the last one counts. -/
def metadataValue (metadata : List (Text × Text)) (key : String) : Option Text :=
  metadata.reverse.lookup (text key)

def requireFormatMarker (metadata : List (Text × Text)) : Except DataError Unit :=
  refuseIf (metadataValue metadata "canx.format" ≠ some (text "can-x-frame-segment"))
    (integrityError "data.integrity.format_mismatch" "The Parquet file is not a CAN-X frame segment.")

def requireSupportedVersion (metadata : List (Text × Text)) : Except DataError Unit :=
  refuseIf ((metadataValue metadata "canx.schema_version").bind intOf ≠ some 1)
    (integrityError "data.integrity.schema_version_unsupported"
      "The segment was written with an unsupported CAN-X schema version.")

def requirePart (metadata : List (Text × Text)) (key field : String) (expected : Option Text) :
    Except DataError Unit :=
  match expected with
  | none => .ok ()
  | some value => refuseIf (metadataValue metadata key ≠ some value)
      (integrityError "data.integrity.metadata_mismatch"
        ("The segment does not belong to the expected " ++ field ++ "."))

def requireIdentity (metadata : List (Text × Text)) (expected : Expected) : Except DataError Unit := do
  requirePart metadata "canx.session_id" "session_id" expected.sessionId
  requirePart metadata "canx.stream_id" "stream_id" expected.streamId
  requirePart metadata "canx.segment_index" "segment_index" (expected.segmentIndex.map textOf)

def requireSegmentMetadata (metadata : List (Text × Text)) (expected : Expected) : Except DataError Unit := do
  requireFormatMarker metadata
  requireSupportedVersion metadata
  requireIdentity metadata expected

def requireCanonicalLayout (schema : List (String × ArrowType)) : Except DataError Unit := do
  refuseIf (schema.map Prod.fst ≠ frameColumns)
    (integrityError "data.integrity.parquet_schema_mismatch"
      "The segment column layout is not the canonical CAN-X frame layout.")
  refuseIf ((schema.filter fun field => frameArrowSchema.lookup field.1 ≠ some field.2) ≠ [])
    (integrityError "data.integrity.parquet_schema_mismatch"
      "The segment column types do not match the canonical CAN-X frame layout.")

def ArrowValue.uint? : ArrowValue → Option Nat
  | .uint value => some value
  | _ => none

def ArrowValue.bool? : ArrowValue → Option Bool
  | .bool value => some value
  | _ => none

def ArrowValue.str? : ArrowValue → Option Text
  | .str value => some value
  | _ => none

def ArrowValue.bytes? : ArrowValue → Option Bytes
  | .bytes data => some data
  | _ => none

def ArrowValue.float? : ArrowValue → Option PyFloat
  | .float value => some value
  | _ => none

/-- The values of a row of the canonical layout, each looked up by the name of its column. -/
def FrameRow.ofValues (values : List (String × ArrowValue)) : FrameRow where
  sequence := (values.lookup "sequence").bind ArrowValue.uint?
  channelId := (values.lookup "channel_id").bind ArrowValue.str?
  arbitrationId := (values.lookup "arbitration_id").bind ArrowValue.uint?
  isExtended := (values.lookup "is_extended").bind ArrowValue.bool?
  isFd := (values.lookup "is_fd").bind ArrowValue.bool?
  bitrateSwitch := (values.lookup "bitrate_switch").bind ArrowValue.bool?
  errorStateIndicator := (values.lookup "error_state_indicator").bind ArrowValue.bool?
  dlc := (values.lookup "dlc").bind ArrowValue.uint?
  data := (values.lookup "data").bind ArrowValue.bytes?
  direction := (values.lookup "direction").bind ArrowValue.str?
  hardwareTimestamp := (values.lookup "hardware_timestamp").bind ArrowValue.float?
  hostTimestamp := (values.lookup "host_timestamp").bind ArrowValue.float?
  normalizedTimestamp := (values.lookup "normalized_timestamp").bind ArrowValue.float?
  clockDomain := (values.lookup "clock_domain").bind ArrowValue.str?
  timestampQuality := (values.lookup "timestamp_quality").bind ArrowValue.str?
  flags := (values.lookup "flags").bind ArrowValue.uint?

def frameInvalid : DataError :=
  integrityError "data.integrity.frame_invalid" "The segment holds a frame value that is no longer valid."

/-- A null where `Frame` takes none. -/
def present {Value : Type} : Option Value → Except DataError Value
  | some value => .ok value
  | none => .error frameInvalid

/-- A float that is not finite is refused by `Frame`. -/
def presentStamp : PyFloat → Except DataError PyNumber
  | .finite value => .ok (.float value)
  | _ => .error frameInvalid

def accepted {Value : Type} : Read Value → Except DataError Value
  | .ok value => .ok value
  | .error _ => .error frameInvalid

/-- `_row_to_frame`, with whatever it raises turned into one error. -/
def rowToFrame (row : FrameRow) : Except DataError PyFrame := do
  let direction ← accepted (directionOf (← present row.direction))
  let timestampQuality ← accepted (qualityOf (← present row.timestampQuality))
  let sequence ← present row.sequence
  let arbitrationId ← present row.arbitrationId
  let dlc ← present row.dlc
  let flags ← present row.flags
  let isExtended ← present row.isExtended
  let isFd ← present row.isFd
  let bitrateSwitch ← present row.bitrateSwitch
  let errorStateIndicator ← present row.errorStateIndicator
  let channelId ← present row.channelId
  let data ← present row.data
  let hardwareTimestamp ← row.hardwareTimestamp.mapM presentStamp
  let hostTimestamp ← presentStamp (← present row.hostTimestamp)
  let normalizedTimestamp ← presentStamp (← present row.normalizedTimestamp)
  let clockDomain ← present row.clockDomain
  accepted (FrameFields.create
    { sequence, channelId, arbitrationId, isExtended, isFd, bitrateSwitch, errorStateIndicator, dlc, data, direction
      hardwareTimestamp, hostTimestamp, normalizedTimestamp, clockDomain, timestampQuality, flags })

/-- `table.to_pylist()`. -/
def ArrowTable.dicts (table : ArrowTable) : List (List (String × ArrowValue)) :=
  table.rows.map fun cells => (table.schema.map Prod.fst).zip cells

def tableToFrames (table : ArrowTable) (expected : Expected) : Except DataError (List PyFrame) := do
  requireSegmentMetadata table.metadata expected
  requireCanonicalLayout table.schema
  table.dicts.mapM fun values => rowToFrame (FrameRow.ofValues values)

end Reading

end CanX.Data
