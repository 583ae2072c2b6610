import CanX.Api.FrameWire
import CanX.Desktop.DecodedRealtime
import CanX.Desktop.JsValue

/-! The decode client of the renderer: the work set it submits, and how it reads the answer. Every
refusal is a `RuntimeDbcContractError` with its one message. -/

namespace CanX.Desktop

namespace DbcDecodeClient

def invalidWorkSetMessage : String := "The decode-frames request does not match the contract."

def unreadableWorkSetMessage : String :=
  "The CAN-X Runtime answered with a decode-frames payload that does not match the contract."

def maxWorkSetFrames : Nat := 1000

/-- A frame as it travels: sixteen fields, the payload as uppercase hexadecimal text. -/
structure FrameWireBody where
  sequence : JsNumber
  channelId : String
  arbitrationId : JsNumber
  isExtended : Bool
  isFd : Bool
  bitrateSwitch : Bool
  errorStateIndicator : Bool
  dlc : JsNumber
  data : String
  direction : FrameDirection
  hardwareTimestamp : Option JsNumber
  hostTimestamp : JsNumber
  normalizedTimestamp : JsNumber
  clockDomain : String
  timestampQuality : TimestampQuality
  flags : JsNumber

section Request

def sequenceToNumber (sequence : Int) (message : String) : Reading JsNumber :=
  let value := nearestDouble sequence
  if isSafeInteger value then .ok value else .error message

def frameToWire (frame : RuntimeFrame) (message : String) : Reading FrameWireBody := do
  let sequence ← sequenceToNumber frame.sequence message
  return {
    sequence
    channelId := frame.channelId
    arbitrationId := frame.arbitrationId
    isExtended := frame.isExtended
    isFd := frame.isFd
    bitrateSwitch := frame.bitrateSwitch
    errorStateIndicator := frame.errorStateIndicator
    dlc := frame.dlc
    data := Api.hexUpper frame.data
    direction := frame.direction
    hardwareTimestamp := frame.hardwareTimestamp
    hostTimestamp := frame.hostTimestamp
    normalizedTimestamp := frame.normalizedTimestamp
    clockDomain := frame.clockDomain
    timestampQuality := frame.timestampQuality
    flags := frame.flags }

def requireStrictlyIncreasing : List RuntimeFrame → Reading Unit
  | previous :: current :: rest =>
    if current.sequence ≤ previous.sequence then .error invalidWorkSetMessage
    else requireStrictlyIncreasing (current :: rest)
  | _ => .ok ()

/-- What `decodeDbcFrameSet` submits. -/
def submittedFrames (input : DecodeFrameSetInput) : Reading (List FrameWireBody) := do
  throwIf (input.frames.length < 1 ∨ maxWorkSetFrames < input.frames.length) invalidWorkSetMessage
  requireStrictlyIncreasing input.frames
  input.frames.mapM fun frame => frameToWire frame invalidWorkSetMessage

end Request

section Readers

variable (message : String)

def readObject (value : JsValue) : Reading WireMap :=
  match value with
  | .object fields => .ok (propertyOf fields)
  | .bytes _ => .ok fun _ => .undefined
  | _ => .error message

def readArray {Item : Type} (value : JsValue) (readItem : JsValue → Reading Item) :
    Reading (List Item) :=
  match value with
  | .array elements => elements.mapM readItem
  | _ => .error message

def readString (value : JsValue) : Reading String :=
  match value with
  | .string text => .ok text
  | _ => .error message

def readBoolean (value : JsValue) : Reading Bool :=
  match value with
  | .boolean flag => .ok flag
  | _ => .error message

def readInteger (value : JsValue) : Reading JsNumber :=
  match value with
  | .number number => if isSafeInteger number then .ok number else .error message
  | _ => .error message

def readSequence (value : JsValue) : Reading Int := do
  return (← readInteger message value).num

def readFiniteNumber (value : JsValue) : Reading JsNumber :=
  match value with
  | .number number => .ok number
  | _ => .error message

def readNullableString (value : JsValue) : Reading (Option String) :=
  match value with
  | .null => .ok none
  | _ => some <$> readString message value

def readNullableFiniteNumber (value : JsValue) : Reading (Option JsNumber) :=
  match value with
  | .null => .ok none
  | _ => some <$> readFiniteNumber message value

def readDirection (value : JsValue) : Reading FrameDirection :=
  match value with
  | .string "rx" => .ok .rx
  | .string "tx" => .ok .tx
  | _ => .error message

def readTimestampQuality (value : JsValue) : Reading TimestampQuality :=
  match value with
  | .string "hardware" => .ok .hardware
  | .string "host" => .ok .host
  | .string "estimated" => .ok .estimated
  | _ => .error message

def readSignalValue (value : JsValue) : Reading DecodedSignalValue := do
  let record ← readObject message value
  let name ← readString message (record "name")
  let rawValue ← readInteger message (record "raw_value")
  let physicalValue ← readFiniteNumber message (record "physical_value")
  let choiceLabel ← readNullableString message (record "choice_label")
  let unit ← readNullableString message (record "unit")
  return { name, rawValue, physicalValue, choiceLabel, unit }

def readDecoded (value : JsValue) : Reading DecodedFrameOutcome := do
  let record ← readObject message value
  let messageName ← readString message (record "message_name")
  let signals ← readArray message (record "signals") (readSignalValue message)
  return .decoded messageName signals

/-- The whole envelope is checked; only its code is kept. -/
def readFailure (value : JsValue) : Reading DecodedFrameOutcome := do
  let record ← readObject message value
  let code ← readString message (record "code")
  let _ ← readString message (record "message")
  let _ ← readObject message (record "details")
  let _ ← readBoolean message (record "recoverable")
  let _ ← readString message (record "source")
  return .failure code

def readFrameWire (value : JsValue) : Reading FrameWireBody := do
  let record ← readObject message value
  let sequence ← readInteger message (record "sequence")
  let channelId ← readString message (record "channel_id")
  let arbitrationId ← readInteger message (record "arbitration_id")
  let isExtended ← readBoolean message (record "is_extended")
  let isFd ← readBoolean message (record "is_fd")
  let bitrateSwitch ← readBoolean message (record "bitrate_switch")
  let errorStateIndicator ← readBoolean message (record "error_state_indicator")
  let dlc ← readInteger message (record "dlc")
  let data ← readString message (record "data")
  let direction ← readDirection message (record "direction")
  let hardwareTimestamp ← readNullableFiniteNumber message (record "hardware_timestamp")
  let hostTimestamp ← readFiniteNumber message (record "host_timestamp")
  let normalizedTimestamp ← readFiniteNumber message (record "normalized_timestamp")
  let clockDomain ← readString message (record "clock_domain")
  let timestampQuality ← readTimestampQuality message (record "timestamp_quality")
  let flags ← readInteger message (record "flags")
  return { sequence, channelId, arbitrationId, isExtended, isFd, bitrateSwitch, errorStateIndicator, dlc, data
           direction, hardwareTimestamp, hostTimestamp, normalizedTimestamp, clockDomain, timestampQuality
           flags }

structure WireOutcome where
  frame : FrameWireBody
  outcome : DecodedFrameOutcome

/-- `value === null`. -/
def isNull : JsValue → Bool
  | .null => true
  | _ => false

def readOutcome (value : JsValue) : Reading WireOutcome := do
  let record ← readObject message value
  let frame ← readFrameWire message (record "frame")
  throwIf (isNull (record "decoded") = isNull (record "failure")) message
  let outcome ← if isNull (record "decoded") then readFailure message (record "failure")
    else readDecoded message (record "decoded")
  return ⟨frame, outcome⟩

end Readers

section Answer

def isSameFrame (a b : FrameWireBody) : Bool :=
  a.sequence = b.sequence && a.channelId = b.channelId && a.arbitrationId = b.arbitrationId &&
    a.isExtended = b.isExtended && a.isFd = b.isFd && a.bitrateSwitch = b.bitrateSwitch &&
    a.errorStateIndicator = b.errorStateIndicator && a.dlc = b.dlc && a.data = b.data &&
    a.direction = b.direction && a.hardwareTimestamp = b.hardwareTimestamp &&
    a.hostTimestamp = b.hostTimestamp && a.normalizedTimestamp = b.normalizedTimestamp &&
    a.clockDomain = b.clockDomain && a.timestampQuality = b.timestampQuality && a.flags = b.flags

theorem isSameFrame_self (body : FrameWireBody) : isSameFrame body body = true := by
  simp [isSameFrame]

/-- Each outcome is bound to the frame that was submitted at its index, whose echo it carries. -/
def bindRecords (message : String) : List WireOutcome → List RuntimeFrame → List FrameWireBody →
    Reading (List DecodedFrameRecord)
  | [], _, _ => .ok []
  | outcome :: outcomes, frame :: frames, expected :: submitted =>
    if isSameFrame outcome.frame expected then
      (⟨frame, outcome.outcome⟩ :: ·) <$> bindRecords message outcomes frames submitted
    else .error message
  | _ :: _, _, _ => .error message

def readFrameSet (payload : JsValue) (input : DecodeFrameSetInput) (submitted : List FrameWireBody) :
    Reading DecodedFrameSetResult := do
  let message := unreadableWorkSetMessage
  let record ← readObject message payload
  let version ← readInteger message (record "schema_version")
  throwIf (version ≠ 1) message
  let streamId ← readString message (record "stream_id")
  throwIf (streamId ≠ input.streamId) message
  let sequences ← readArray message (record "sequences") (readSequence message)
  throwIf (sequences ≠ input.frames.map RuntimeFrame.sequence) message
  let frameCount ← readInteger message (record "frame_count")
  let outcomes ← readArray message (record "outcomes") (readOutcome message)
  throwIf (frameCount ≠ outcomes.length ∨ frameCount ≠ submitted.length) message
  let records ← bindRecords message outcomes input.frames submitted
  return { streamId, frameCount := outcomes.length, sequences, records }

end Answer

end DbcDecodeClient

end CanX.Desktop
