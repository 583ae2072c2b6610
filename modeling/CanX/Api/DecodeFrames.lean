import CanX.Api.FrameWire
import CanX.Dbc.Decode
import CanX.Desktop.DbcDecodeClient
import CanX.Transport.PyValue

/-! The decode-frames endpoint: the work set it validates, and the payload of its answer. -/

namespace CanX.Api

open Dbc Desktop Domain Transport
open DbcDecodeClient (FrameWireBody)

section Request

/-- A JSON number in a strict integer field. -/
def strictInteger (value : JsNumber) : Except String Int :=
  if value.den = 1 then .ok value.num else .error "Input should be a valid integer"

def wireDirection : FrameDirection → Direction
  | .rx => .rx
  | .tx => .tx

def wireQuality : Desktop.TimestampQuality → Domain.TimestampQuality
  | .hardware => .hardware
  | .host => .host
  | .estimated => .estimated

/-- A submitted frame, with the categories of its fields checked. -/
def frameWireOf (body : FrameWireBody) : Except String FrameWire := do
  let sequence ← strictInteger body.sequence
  let arbitrationId ← strictInteger body.arbitrationId
  let dlc ← strictInteger body.dlc
  let flags ← strictInteger body.flags
  return {
    sequence
    channelId := body.channelId
    arbitrationId
    isExtended := body.isExtended
    isFd := body.isFd
    bitrateSwitch := body.bitrateSwitch
    errorStateIndicator := body.errorStateIndicator
    dlc
    data := body.data
    direction := wireDirection body.direction
    hardwareTimestamp := body.hardwareTimestamp
    hostTimestamp := body.hostTimestamp
    normalizedTimestamp := body.normalizedTimestamp
    clockDomain := body.clockDomain
    timestampQuality := wireQuality body.timestampQuality
    flags }

/-- `DecodeFrameSet.create`. -/
def createFrameSet (streamId : String) (frames : List Frame) : Except String DecodeFrameSet := do
  let nonempty ← checked (frames ≠ []) "DecodeFrameSet frames must be non-empty"
  let named ← checked ((text streamId).blank = false) "stream_id must be a non-blank string"
  let bounded ← checked (frames.length ≤ 1000) "DecodeFrameSet frames must be at most 1000"
  let increasing ← checked ((frames.map Frame.sequence).IsChain (· < ·))
    "DecodeFrameSet sequences must be strictly increasing"
  return ⟨streamId, frames, named.down, nonempty.down, bounded.down, increasing.down⟩

/-- The work set that a request describes, or why it is refused. -/
def receivedWorkSet (streamId : String) (bodies : List FrameWireBody) : Except String DecodeFrameSet := do
  let wires ← bodies.mapM frameWireOf
  let frames ← wires.mapM wireToFrame
  createFrameSet streamId frames

end Request

section Response

def literal (value : String) : PyValue := .str (text value)

def nullable : Option PyValue → PyValue := fun value => value.getD .none

def frameWirePayload (wire : FrameWire) : PyValue := .dict
  [("sequence", .int wire.sequence),
    ("channel_id", literal wire.channelId),
    ("arbitration_id", .int wire.arbitrationId),
    ("is_extended", .bool wire.isExtended),
    ("is_fd", .bool wire.isFd),
    ("bitrate_switch", .bool wire.bitrateSwitch),
    ("error_state_indicator", .bool wire.errorStateIndicator),
    ("dlc", .int wire.dlc),
    ("data", literal wire.data),
    ("direction", literal (directionValue wire.direction)),
    ("hardware_timestamp", nullable (wire.hardwareTimestamp.map .float)),
    ("host_timestamp", .float wire.hostTimestamp),
    ("normalized_timestamp", .float wire.normalizedTimestamp),
    ("clock_domain", literal wire.clockDomain),
    ("timestamp_quality", literal (timestampQualityValue wire.timestampQuality)),
    ("flags", .int wire.flags)]

def signalValuePayload (signal : DecodedSignal) : PyValue := .dict
  [("name", .str signal.name),
    ("raw_value", .int signal.rawValue),
    ("physical_value", .float signal.physicalValue),
    ("choice_label", nullable (signal.choiceLabel.map .str)),
    ("unit", nullable (signal.unit.map .str))]

def decodedPayload (decoded : DecodedFrame) : PyValue := .dict
  [("message_name", .str decoded.messageName),
    ("signals", .list (decoded.signals.map signalValuePayload))]

def detailPayload : DetailValue → PyValue
  | .integer value => .int value
  | .boolean value => .bool value
  | .text value => .str value

def failurePayload (failure : DbcDecodeFailure) : PyValue := .dict
  [("code", literal failure.code),
    ("message", literal failure.message),
    ("details", .dict (failure.details.map fun detail => (detail.1, detailPayload detail.2))),
    ("recoverable", .bool failure.recoverable),
    ("source", literal failure.source)]

/-- Exactly one of the halves is null. -/
def outcomePayload (outcome : Dbc.DecodedFrameOutcome) : PyValue :=
  let frame := frameWirePayload (frameToWire outcome.frame)
  match outcome.result with
  | .ok decoded => .dict [("frame", frame), ("decoded", decodedPayload decoded), ("failure", .none)]
  | .error failure => .dict [("frame", frame), ("decoded", .none), ("failure", failurePayload failure)]

def frameSetPayload (decoded : DecodedFrameSet) : PyValue := .dict
  [("schema_version", .int 1),
    ("stream_id", literal decoded.streamId),
    ("frame_count", .int decoded.outcomes.length),
    ("sequences", .list (decoded.outcomes.map fun outcome => .int outcome.frame.sequence)),
    ("outcomes", .list (decoded.outcomes.map outcomePayload))]

end Response

end CanX.Api
