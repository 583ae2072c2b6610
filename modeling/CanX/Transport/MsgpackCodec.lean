import CanX.Desktop.JsValue
import CanX.Domain.Frame
import CanX.Transport.PyValue

/-! The batches of the live wire as Python holds them, `encode_batch`, and what MessagePack carries of a
payload. The two codec packages are parameters. -/

namespace CanX.Transport

open Dbc Desktop Domain

/-- A Python `int` or `float`; a finite double is kept as the rational it denotes. -/
inductive PyNumber where
  | int (value : Int)
  | float (value : Rat)

namespace PyNumber

def value : PyNumber → Rat
  | int value => value
  | float value => value

/-- `isfinite`, which raises for an int that no double comes near. -/
def Finite : PyNumber → Prop
  | int value => value.natAbs < Nat.pow 2 1024 - Nat.pow 2 970
  | float _ => True

end PyNumber

/-- A `Frame` with the texts and numbers Python lets it have. -/
structure PyFrame where
  sequence : Nat
  channelId : Text
  arbitrationId : Nat
  isExtended : Bool
  isFd : Bool
  bitrateSwitch : Bool
  errorStateIndicator : Bool
  dlc : Nat
  data : Bytes
  direction : Direction
  hardwareTimestamp : Option PyNumber
  hostTimestamp : PyNumber
  normalizedTimestamp : PyNumber
  clockDomain : Text
  timestampQuality : Domain.TimestampQuality
  flags : Nat
  sequence_unsigned : sequence ≤ 0xFFFFFFFFFFFFFFFF
  channel_named : channelId ≠ []
  arbitration_range : arbitrationId ≤ if isExtended then 0x1FFFFFFF else 0x7FF
  dlc_allowed : dlc ∈ if isFd then fdDlc else classicDlc
  data_length : data.length = dlc
  classic_flags : isFd = false → bitrateSwitch = false ∧ errorStateIndicator = false
  host_seconds : hostTimestamp.Finite ∧ 0 ≤ hostTimestamp.value
  normalized_seconds : normalizedTimestamp.Finite ∧ 0 ≤ normalizedTimestamp.value
  hardware_seconds : ∀ stamp ∈ hardwareTimestamp, stamp.Finite ∧ 0 ≤ stamp.value
  clock_named : clockDomain ≠ []
  flags_unsigned : flags ≤ 0xFFFFFFFF

/-- A `FrameBatch`. Its bounds and its count are derived, as its constructor requires them to agree. -/
structure PyFrameBatch where
  streamId : Text
  frames : List PyFrame
  stream_named : streamId ≠ []
  nonempty : frames ≠ []
  contiguous : frames.map PyFrame.sequence =
    List.range' (frames.head nonempty).sequence frames.length

namespace PyFrameBatch

def firstSequence (batch : PyFrameBatch) : Nat := (batch.frames.head batch.nonempty).sequence

def lastSequence (batch : PyFrameBatch) : Nat := (batch.frames.getLast batch.nonempty).sequence

def frameCount (batch : PyFrameBatch) : Nat := batch.frames.length

end PyFrameBatch

def PyNumber.plain : PyNumber → PyValue
  | .int value => .int value
  | .float value => .float value

def framePayload (frame : PyFrame) : PyValue := .dict
  [("sequence", .int frame.sequence),
    ("channel_id", .str frame.channelId),
    ("arbitration_id", .int frame.arbitrationId),
    ("is_extended", .bool frame.isExtended),
    ("is_fd", .bool frame.isFd),
    ("bitrate_switch", .bool frame.bitrateSwitch),
    ("error_state_indicator", .bool frame.errorStateIndicator),
    ("dlc", .int frame.dlc),
    ("data", .bytes frame.data),
    ("direction", .str (text (directionValue frame.direction))),
    ("hardware_timestamp", (frame.hardwareTimestamp.map PyNumber.plain).getD .none),
    ("host_timestamp", frame.hostTimestamp.plain),
    ("normalized_timestamp", frame.normalizedTimestamp.plain),
    ("clock_domain", .str frame.clockDomain),
    ("timestamp_quality", .str (text (timestampQualityValue frame.timestampQuality))),
    ("flags", .int frame.flags)]

def batchPayload (batch : PyFrameBatch) : PyValue := .dict
  [("schema_version", .int 1),
    ("stream_id", .str batch.streamId),
    ("first_sequence", .int batch.firstSequence),
    ("last_sequence", .int batch.lastSequence),
    ("frame_count", .int batch.frameCount),
    ("frames", .list (batch.frames.map framePayload))]

/-- `msgpack.packb`, which may raise, and the decoder of the renderer, which may throw. -/
structure Msgpack where
  packb : PyValue → Option Bytes
  decode : Bytes → Except String JsValue

def encodeBatch (msgpack : Msgpack) (batch : PyFrameBatch) : Option Bytes :=
  msgpack.packb (batchPayload batch)

section Carried

def utf8Width (point : CodePoint) : Nat :=
  if point.val < 0x80 then 1 else if point.val < 0x800 then 2 else if point.val < 0x10000 then 3 else 4

def utf8Length (value : Text) : Nat := (value.map utf8Width).sum

/-- A length has 32 bits. -/
def maxLength : Nat := 0xFFFFFFFF

def Text.Packable (value : Text) : Prop := value.encodable = true ∧ utf8Length value ≤ maxLength

/-- The payloads `packb` has a format for. -/
inductive Packable : PyValue → Prop
  | none : Packable .none
  | bool : Packable (.bool value)
  | int (lower : -0x8000000000000000 ≤ value) (upper : value ≤ 0xFFFFFFFFFFFFFFFF) : Packable (.int value)
  | float : Packable (.float value)
  | str (packable : Text.Packable value) : Packable (.str value)
  | bytes (short : data.length ≤ maxLength) : Packable (.bytes data)
  | list (short : elements.length ≤ maxLength) (each : ∀ element ∈ elements, Packable element) :
      Packable (.list elements)
  | dict (short : entries.length ≤ maxLength) (keys : ∀ entry ∈ entries, Text.Packable (text entry.1))
      (each : ∀ entry ∈ entries, Packable entry.2) : Packable (.dict entries)

mutual

/-- What the renderer reads of a payload: a number for an integer below `2 ^ 32` in magnitude and for a
float, a bigint for any other integer. -/
def asJs : PyValue → JsValue
  | .none => .null
  | .bool value => .boolean value
  | .int value => if value.natAbs < 0x100000000 then .number value else .bigint value
  | .float value => .number value
  | .str value => .string (characters value)
  | .bytes data => .bytes data
  | .list elements => .array (eachAsJs elements)
  | .dict entries => .object (entriesAsJs entries)

def eachAsJs : List PyValue → List JsValue
  | [] => []
  | element :: rest => asJs element :: eachAsJs rest

def entriesAsJs : List (String × PyValue) → List (String × JsValue)
  | [] => []
  | (key, value) :: rest => (key, asJs value) :: entriesAsJs rest

end

/-- The two packages carry this payload as they document it. -/
structure Msgpack.Carries (msgpack : Msgpack) (payload : PyValue) : Prop where
  packs : (msgpack.packb payload).isSome ↔ Packable payload
  reads : ∀ bytes, msgpack.packb payload = some bytes → msgpack.decode bytes = .ok (asJs payload)

end Carried

end CanX.Transport
