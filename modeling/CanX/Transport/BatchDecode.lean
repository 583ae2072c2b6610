import CanX.Transport.WireFormat

/-! `decode_batch`: what the runtime itself reads of a payload that it unpacked, through the checks of
the domain. -/

namespace CanX.Transport

open Dbc Desktop Domain

/-- What a reader of a payload raises. -/
inductive PyFault where
  | value (message : String)
  | notMember (enumeration : String) (value : Text)
  | overflow
  deriving DecidableEq

abbrev Read := Except PyFault

section Fields

/-- `data.get(key)`. -/
def PyValue.get (entries : List (String × PyValue)) (key : String) : PyValue :=
  (entries.lookup key).getD .none

def integerAt (entries : List (String × PyValue)) (key : String) : Read Int :=
  match PyValue.get entries key with
  | .int value => .ok value
  | _ => .error (.value (key ++ " must be an integer"))

/-- `float(value)`: an int becomes the double nearest to it. -/
def numberAt (entries : List (String × PyValue)) (key : String) : Read PyNumber :=
  match PyValue.get entries key with
  | .int value =>
    if value.natAbs < Nat.pow 2 1024 - Nat.pow 2 970 then .ok (.float (nearestDouble value))
    else .error .overflow
  | .float value => .ok (.float value)
  | _ => .error (.value (key ++ " must be a number"))

def stringAt (entries : List (String × PyValue)) (key : String) : Read Text :=
  match PyValue.get entries key with
  | .str value => .ok value
  | _ => .error (.value (key ++ " must be a string"))

def booleanAt (entries : List (String × PyValue)) (key : String) : Read Bool :=
  match PyValue.get entries key with
  | .bool value => .ok value
  | _ => .error (.value (key ++ " must be a boolean"))

def directionOf (value : Text) : Read Direction :=
  if value = text "rx" then .ok .rx
  else if value = text "tx" then .ok .tx
  else .error (.notMember "Direction" value)

def qualityOf (value : Text) : Read Domain.TimestampQuality :=
  if value = text "hardware" then .ok .hardware
  else if value = text "host" then .ok .host
  else if value = text "estimated" then .ok .estimated
  else .error (.notMember "TimestampQuality" value)

end Fields

section Frames

/-- The arguments of `Frame`, whose integers may be any. -/
structure FrameFields where
  sequence : Int
  channelId : Text
  arbitrationId : Int
  isExtended : Bool
  isFd : Bool
  bitrateSwitch : Bool
  errorStateIndicator : Bool
  dlc : Int
  data : Bytes
  direction : Direction
  hardwareTimestamp : Option PyNumber
  hostTimestamp : PyNumber
  normalizedTimestamp : PyNumber
  clockDomain : Text
  timestampQuality : Domain.TimestampQuality
  flags : Int

def PyNumber.Seconds (stamp : PyNumber) : Prop := stamp.Finite ∧ 0 ≤ stamp.value

instance (stamp : PyNumber) : Decidable stamp.Finite :=
  match stamp with
  | .int value => inferInstanceAs (Decidable (value.natAbs < Nat.pow 2 1024 - Nat.pow 2 970))
  | .float _ => inferInstanceAs (Decidable True)

instance (stamp : PyNumber) : Decidable stamp.Seconds :=
  inferInstanceAs (Decidable (stamp.Finite ∧ 0 ≤ stamp.value))

namespace FrameFields

variable (fields : FrameFields)

def maximumId : Nat := if fields.isExtended then 0x1FFFFFFF else 0x7FF

def allowedDlc : List Nat := if fields.isFd then fdDlc else classicDlc

/-- `__post_init__`, in its order. -/
def create : Read PyFrame :=
  if sequence : ¬ (0 ≤ fields.sequence ∧ fields.sequence ≤ 0xFFFFFFFFFFFFFFFF) then
    .error (.value "sequence must be an unsigned 64-bit integer")
  else if channel : fields.channelId = [] then .error (.value "channel_id must not be empty")
  else if arbitration : ¬ (0 ≤ fields.arbitrationId ∧ fields.arbitrationId ≤ fields.maximumId) then
    .error (.value ((if fields.isExtended then "extended" else "standard") ++ " arbitration_id is out of range"))
  else if dlc : ¬ (0 ≤ fields.dlc ∧ fields.dlc.toNat ∈ fields.allowedDlc) then
    .error (.value "DLC is not valid for the selected CAN frame type")
  else if length : fields.data.length ≠ fields.dlc.toNat then
    .error (.value "data length must equal DLC and data must be bytes")
  else if classic : fields.isFd = false ∧ (fields.bitrateSwitch = true ∨ fields.errorStateIndicator = true) then
    .error (.value "Classic CAN cannot use CAN FD flags")
  else if timestamps : ¬ (fields.hostTimestamp.Seconds ∧ fields.normalizedTimestamp.Seconds ∧
      ∀ stamp ∈ fields.hardwareTimestamp, stamp.Seconds) then
    .error (.value "timestamps must be finite non-negative seconds")
  else if clock : fields.clockDomain = [] then .error (.value "clock_domain must not be empty")
  else if flags : ¬ (0 ≤ fields.flags ∧ fields.flags ≤ 0xFFFFFFFF) then
    .error (.value "flags must be an unsigned 32-bit bit set")
  else .ok
    { fields with
      sequence := fields.sequence.toNat
      arbitrationId := fields.arbitrationId.toNat
      dlc := fields.dlc.toNat
      flags := fields.flags.toNat
      sequence_unsigned := by omega
      channel_named := channel
      arbitration_range := by
        have range := of_not_not arbitration
        have below : fields.arbitrationId.toNat ≤ fields.maximumId := by omega
        exact below
      dlc_allowed := (of_not_not dlc).2
      data_length := of_not_not length
      classic_flags := by
        intro plain
        simpa [plain] using classic
      host_seconds := (of_not_not timestamps).1
      normalized_seconds := (of_not_not timestamps).2.1
      hardware_seconds := (of_not_not timestamps).2.2
      clock_named := clock
      flags_unsigned := by omega }

end FrameFields

/-- `_decode_frame`. -/
def decodeFramePayload : PyValue → Read PyFrame
  | .dict entries => do
    let hardwareTimestamp ← match PyValue.get entries "hardware_timestamp" with
      | .none => .ok none
      | .float value => .ok (some (PyNumber.float value))
      | _ => .error (.value "hardware_timestamp must be a float or null")
    let data ← match PyValue.get entries "data" with
      | .bytes data => .ok data
      | _ => .error (.value "Frame data must be binary")
    let sequence ← integerAt entries "sequence"
    let channelId ← stringAt entries "channel_id"
    let arbitrationId ← integerAt entries "arbitration_id"
    let isExtended ← booleanAt entries "is_extended"
    let isFd ← booleanAt entries "is_fd"
    let bitrateSwitch ← booleanAt entries "bitrate_switch"
    let errorStateIndicator ← booleanAt entries "error_state_indicator"
    let dlc ← integerAt entries "dlc"
    let direction ← directionOf (← stringAt entries "direction")
    let hostTimestamp ← numberAt entries "host_timestamp"
    let normalizedTimestamp ← numberAt entries "normalized_timestamp"
    let clockDomain ← stringAt entries "clock_domain"
    let timestampQuality ← qualityOf (← stringAt entries "timestamp_quality")
    let flags ← integerAt entries "flags"
    FrameFields.create
      { sequence, channelId, arbitrationId, isExtended, isFd, bitrateSwitch, errorStateIndicator, dlc, data, direction
        hardwareTimestamp, hostTimestamp, normalizedTimestamp, clockDomain, timestampQuality, flags }
  | _ => .error (.value "Frame payload must be a map")

end Frames

section Batches

/-- `FrameBatch.__post_init__`. -/
def createBatch (streamId : Text) (firstSequence lastSequence frameCount : Int) (frames : List PyFrame) :
    Read PyFrameBatch :=
  if stream : streamId = [] then .error (.value "stream_id must not be empty")
  else if nonempty : frames = [] then .error (.value "FrameBatch frames must be non-empty")
  else if contiguous : frames.map PyFrame.sequence ≠ List.range' (frames.head nonempty).sequence frames.length then
    .error (.value "FrameBatch sequences must be contiguous")
  else if firstSequence ≠ (frames.head nonempty).sequence ∨ lastSequence ≠ (frames.getLast nonempty).sequence then
    .error (.value "FrameBatch sequence bounds do not match frames")
  else if frameCount ≠ frames.length then .error (.value "FrameBatch frame_count does not match frames")
  else .ok ⟨streamId, frames, stream, nonempty, of_not_not contiguous⟩

/-- What `decode_batch` makes of an unpacked payload. -/
def decodeBatchPayload : PyValue → Read PyFrameBatch
  | .dict entries => do
    let schemaVersion ← integerAt entries "schema_version"
    if schemaVersion ≠ 1 then .error (.value "unsupported FrameBatch schema_version") else
    match PyValue.get entries "frames" with
    | .list elements => do
      let frames ← elements.mapM decodeFramePayload
      let streamId ← stringAt entries "stream_id"
      let firstSequence ← integerAt entries "first_sequence"
      let lastSequence ← integerAt entries "last_sequence"
      let frameCount ← integerAt entries "frame_count"
      createBatch streamId firstSequence lastSequence frameCount frames
    | _ => .error (.value "FrameBatch frames must be an array")
  | _ => .error (.value "FrameBatch payload must be a map")

/-- `msgpack.packb` and `msgpack.unpackb`, either of which may raise. -/
structure MsgpackPackage where
  packb : PyValue → Option Bytes
  unpackb : Bytes → Option PyValue

def packBatch (msgpack : MsgpackPackage) (batch : PyFrameBatch) : Option Bytes :=
  msgpack.packb (batchPayload batch)

/-- `decode_batch`. `none` is an exception of the package. -/
def decodeBatch (msgpack : MsgpackPackage) (bytes : Bytes) : Option (Read PyFrameBatch) :=
  (msgpack.unpackb bytes).map decodeBatchPayload

/-- The package packs what it has a format for, and unpacks it to what it was. -/
structure MsgpackPackage.Faithful (msgpack : MsgpackPackage) (payload : PyValue) : Prop where
  packs : (msgpack.packb payload).isSome ↔ Packable payload
  unpacks : ∀ bytes, msgpack.packb payload = some bytes → msgpack.unpackb bytes = some payload

end Batches

end CanX.Transport
