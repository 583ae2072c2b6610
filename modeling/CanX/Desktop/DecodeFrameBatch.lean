import CanX.Desktop.JsValue

/-! How the renderer reads a frame batch from the value its MessagePack decoder returns. A refusal is the
text of the error it throws. -/

namespace CanX.Desktop

structure RuntimeFrameBatch where
  streamId : String
  firstSequence : Int
  lastSequence : Int
  frameCount : JsNumber
  frames : List RuntimeFrame
  deriving DecidableEq

namespace DecodeFrameBatch

section Fields

/-- `map`: any object passes but an array, a byte array among them. -/
def map (value : JsValue) (name : String) : Reading WireMap :=
  match value with
  | .object fields => .ok (propertyOf fields)
  | .bytes _ => .ok fun _ => .undefined
  | _ => .error s!"{name} must be a map"

def sequence (value : JsValue) (name : String) : Reading Int :=
  match value with
  | .bigint whole => .ok whole
  | .number number =>
    if isSafeInteger number && 0 ≤ number then .ok number.num
    else .error s!"{name} must be an unsigned integer"
  | _ => .error s!"{name} must be an unsigned integer"

def integer (value : JsValue) (name : String) : Reading JsNumber :=
  match value with
  | .number number => if isSafeInteger number then .ok number else .error s!"{name} must be an integer"
  | _ => .error s!"{name} must be an integer"

def number (value : JsValue) (name : String) : Reading JsNumber :=
  match value with
  | .number number => .ok number
  | _ => .error s!"{name} must be a finite number"

def nullableNumber (value : JsValue) (name : String) : Reading (Option JsNumber) :=
  match value with
  | .null => .ok none
  | _ => some <$> number value name

def string (value : JsValue) (name : String) : Reading String :=
  match value with
  | .string text => .ok text
  | _ => .error s!"{name} must be a string"

def boolean (value : JsValue) (name : String) : Reading Bool :=
  match value with
  | .boolean flag => .ok flag
  | _ => .error s!"{name} must be a boolean"

/-- `enumeration`: the literals of a union type, each with its value here. -/
def enumeration {Enum : Type} (value : JsValue) (name : String) (values : List (String × Enum)) : Reading Enum :=
  match value with
  | .string literal =>
    match values.lookup literal with
    | some enum => .ok enum
    | none => .error s!"{name} is not a supported enum value"
  | _ => .error s!"{name} is not a supported enum value"

end Fields

def directions : List (String × FrameDirection) := [("rx", .rx), ("tx", .tx)]

def timestampQualities : List (String × TimestampQuality) :=
  [("hardware", .hardware), ("host", .host), ("estimated", .estimated)]

def decodeFrame (value : JsValue) : Reading RuntimeFrame := do
  let frame ← map value "Frame"
  let data ← match frame "data" with
    | .bytes data => .ok data
    | _ => .error "Frame data must be binary"
  let sequence ← sequence (frame "sequence") "sequence"
  let channelId ← string (frame "channel_id") "channel_id"
  let arbitrationId ← integer (frame "arbitration_id") "arbitration_id"
  let isExtended ← boolean (frame "is_extended") "is_extended"
  let isFd ← boolean (frame "is_fd") "is_fd"
  let bitrateSwitch ← boolean (frame "bitrate_switch") "bitrate_switch"
  let errorStateIndicator ← boolean (frame "error_state_indicator") "error_state_indicator"
  let dlc ← integer (frame "dlc") "dlc"
  let direction ← enumeration (frame "direction") "direction" directions
  let hardwareTimestamp ← nullableNumber (frame "hardware_timestamp") "hardware_timestamp"
  let hostTimestamp ← number (frame "host_timestamp") "host_timestamp"
  let normalizedTimestamp ← number (frame "normalized_timestamp") "normalized_timestamp"
  let clockDomain ← string (frame "clock_domain") "clock_domain"
  let timestampQuality ← enumeration (frame "timestamp_quality") "timestamp_quality" timestampQualities
  let flags ← integer (frame "flags") "flags"
  return { sequence, channelId, arbitrationId, isExtended, isFd, bitrateSwitch, errorStateIndicator, dlc, data
           direction, hardwareTimestamp, hostTimestamp, normalizedTimestamp, clockDomain, timestampQuality
           flags }

/-- `decodeFrameBatch`, after the bytes have been decoded. -/
def readFrameBatch (value : JsValue) : Reading RuntimeFrameBatch := do
  let batch ← map value "FrameBatch"
  let version ← integer (batch "schema_version") "schema_version"
  throwIf (version ≠ 1) "Unsupported FrameBatch schema_version"
  let elements ← match batch "frames" with
    | .array elements => .ok elements
    | _ => .error "FrameBatch frames must be an array"
  let frames ← elements.mapM decodeFrame
  let streamId ← string (batch "stream_id") "stream_id"
  let firstSequence ← sequence (batch "first_sequence") "first_sequence"
  let lastSequence ← sequence (batch "last_sequence") "last_sequence"
  let frameCount ← integer (batch "frame_count") "frame_count"
  throwIf (frameCount ≠ frames.length) "FrameBatch frame_count does not match frames"
  return { streamId, firstSequence, lastSequence, frameCount, frames }

def decodeFrameBatch (decode : List UInt8 → Reading JsValue) (payload : List UInt8) :
    Reading RuntimeFrameBatch := do
  readFrameBatch (← decode payload)

end DecodeFrameBatch

end CanX.Desktop
