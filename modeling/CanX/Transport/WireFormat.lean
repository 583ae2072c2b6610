import CanX.Desktop.DecodeFrameBatch
import CanX.Transport.MsgpackCodec

/-! What the renderer reads of a batch that Python put on the live wire. -/

namespace CanX.Transport

open Dbc Desktop Domain DecodeFrameBatch

section Numbers

namespace PyNumber

/-- The renderer reads it as a number. -/
def Small : PyNumber → Prop
  | int value => value.natAbs < 0x100000000
  | float _ => True

instance : DecidablePred Small := fun number => match number with
  | int value => inferInstanceAs (Decidable (value.natAbs < 0x100000000))
  | float _ => .isTrue trivial

end PyNumber

theorem asJs_none : asJs .none = .null := rfl

theorem asJs_bool (value : Bool) : asJs (.bool value) = .boolean value := rfl

theorem asJs_int (value : Int) :
    asJs (.int value) = if value.natAbs < 0x100000000 then .number value else .bigint value := rfl

theorem asJs_float (value : Rat) : asJs (.float value) = .number value := rfl

theorem asJs_str (value : Text) : asJs (.str value) = .string (characters value) := rfl

theorem asJs_bytes (data : Bytes) : asJs (.bytes data) = .bytes data := rfl

theorem asJs_list (elements : List PyValue) : asJs (.list elements) = .array (eachAsJs elements) := rfl

theorem asJs_dict (entries : List (String × PyValue)) : asJs (.dict entries) = .object (entriesAsJs entries) := rfl

theorem asJs_nat (count : Nat) : asJs (.int count) =
    if count < 0x100000000 then .number count else .bigint count := by
  simp [asJs_int]

private theorem isSafeInteger_nat {count : Nat} (small : count < 0x100000000) :
    isSafeInteger (count : JsNumber) = true := by
  have safe : isSafeInteger ((count : Int) : JsNumber) = true :=
    isSafeInteger_int.mpr (by simp only [Int.natAbs_natCast, maxSafeInteger]; omega)
  rwa [Rat.intCast_natCast] at safe

@[simp] theorem sequence_nat (count : Nat) (name : String) :
    DecodeFrameBatch.sequence (asJs (.int count)) name = .ok (count : Int) := by
  rw [asJs_nat]
  by_cases small : count < 0x100000000
  · simp [DecodeFrameBatch.sequence, small, isSafeInteger_nat small]
  · simp [DecodeFrameBatch.sequence, small]

theorem integer_nat {count : Nat} (small : count < 0x100000000) (name : String) :
    integer (asJs (.int count)) name = .ok (count : JsNumber) := by
  rw [asJs_nat, if_pos small]
  simp [integer, isSafeInteger_nat small]

theorem integer_large {count : Nat} (large : ¬ count < 0x100000000) (name : String) :
    integer (asJs (.int count)) name = .error s!"{name} must be an integer" := by
  rw [asJs_nat, if_neg large]
  rfl

theorem number_plain {stamp : PyNumber} {name : String} {read : JsNumber} :
    number (asJs stamp.plain) name = .ok read ↔ stamp.Small ∧ read = stamp.value := by
  cases stamp with
  | float value => simp [PyNumber.plain, asJs_float, number, PyNumber.Small, PyNumber.value, eq_comm]
  | int value =>
    by_cases small : value.natAbs < 0x100000000
    · simp [PyNumber.plain, asJs_int, small, number, PyNumber.Small, PyNumber.value, eq_comm]
    · simp [PyNumber.plain, asJs_int, small, number, PyNumber.Small]

theorem nullableNumber_plain {stamp : Option PyNumber} {name : String} {read : Option JsNumber} :
    nullableNumber (asJs ((stamp.map PyNumber.plain).getD .none)) name = .ok read ↔
      (∀ held ∈ stamp, held.Small) ∧ read = stamp.map PyNumber.value := by
  cases stamp with
  | none => simp [asJs_none, nullableNumber, eq_comm]
  | some held =>
    have present : nullableNumber (asJs held.plain) name = some <$> number (asJs held.plain) name := by
      cases held with
      | float value => rfl
      | int value =>
        simp only [PyNumber.plain, asJs_int]
        split <;> rfl
    simp only [Option.map_some, Option.getD_some, present, Option.mem_some_iff, forall_eq']
    constructor
    · intro given
      cases found : number (asJs held.plain) name with
      | error fault =>
        rw [found] at given
        cases given
      | ok value =>
        rw [found] at given
        obtain ⟨small, rfl⟩ := number_plain.mp found
        cases given
        exact ⟨small, rfl⟩
    · rintro ⟨small, rfl⟩
      rw [number_plain.mpr ⟨small, rfl⟩]
      rfl

end Numbers

section Frames

def readDirection : Direction → FrameDirection
  | .rx => .rx
  | .tx => .tx

def readQuality : Domain.TimestampQuality → Desktop.TimestampQuality
  | .hardware => .hardware
  | .host => .host
  | .estimated => .estimated

theorem directions_complete (direction : Direction) (name : String) :
    enumeration (.string (directionValue direction)) name directions = .ok (readDirection direction) := by
  cases direction <;> rfl

theorem timestampQualities_complete (quality : Domain.TimestampQuality) (name : String) :
    enumeration (.string (timestampQualityValue quality)) name timestampQualities =
      .ok (readQuality quality) := by
  cases quality <;> rfl

/-- The values of the sixteen fields are the same. -/
structure SameFrame (frame : PyFrame) (read : RuntimeFrame) : Prop where
  sequence : read.sequence = frame.sequence
  channelId : text read.channelId = frame.channelId
  arbitrationId : read.arbitrationId = frame.arbitrationId
  isExtended : read.isExtended = frame.isExtended
  isFd : read.isFd = frame.isFd
  bitrateSwitch : read.bitrateSwitch = frame.bitrateSwitch
  errorStateIndicator : read.errorStateIndicator = frame.errorStateIndicator
  dlc : read.dlc = frame.dlc
  data : read.data = frame.data
  direction : read.direction = readDirection frame.direction
  hardwareTimestamp : read.hardwareTimestamp = frame.hardwareTimestamp.map PyNumber.value
  hostTimestamp : read.hostTimestamp = frame.hostTimestamp.value
  normalizedTimestamp : read.normalizedTimestamp = frame.normalizedTimestamp.value
  clockDomain : text read.clockDomain = frame.clockDomain
  timestampQuality : read.timestampQuality = readQuality frame.timestampQuality
  flags : read.flags = frame.flags

namespace PyFrame

/-- Every timestamp reaches the renderer as a number. -/
def Timely (frame : PyFrame) : Prop :=
  frame.hostTimestamp.Small ∧ frame.normalizedTimestamp.Small ∧ ∀ stamp ∈ frame.hardwareTimestamp, stamp.Small

def Named (frame : PyFrame) : Prop :=
  Text.Packable frame.channelId ∧ Text.Packable frame.clockDomain

def read (frame : PyFrame) : RuntimeFrame where
  sequence := frame.sequence
  channelId := characters frame.channelId
  arbitrationId := frame.arbitrationId
  isExtended := frame.isExtended
  isFd := frame.isFd
  bitrateSwitch := frame.bitrateSwitch
  errorStateIndicator := frame.errorStateIndicator
  dlc := frame.dlc
  data := frame.data
  direction := readDirection frame.direction
  hardwareTimestamp := frame.hardwareTimestamp.map PyNumber.value
  hostTimestamp := frame.hostTimestamp.value
  normalizedTimestamp := frame.normalizedTimestamp.value
  clockDomain := characters frame.clockDomain
  timestampQuality := readQuality frame.timestampQuality
  flags := frame.flags

theorem read_same {frame : PyFrame} (named : frame.Named) : SameFrame frame frame.read where
  sequence := rfl
  channelId := text_characters named.1.1
  arbitrationId := rfl
  isExtended := rfl
  isFd := rfl
  bitrateSwitch := rfl
  errorStateIndicator := rfl
  dlc := rfl
  data := rfl
  direction := rfl
  hardwareTimestamp := rfl
  hostTimestamp := rfl
  normalizedTimestamp := rfl
  clockDomain := text_characters named.2.1
  timestampQuality := rfl
  flags := rfl

variable {frame : PyFrame}

theorem arbitration_small : frame.arbitrationId < 0x100000000 := by
  have bounded := frame.arbitration_range
  split at bounded <;> omega

theorem dlc_small : frame.dlc < 0x100000000 := by
  have allowed : frame.dlc ∈ fdDlc := by
    have given := frame.dlc_allowed
    split at given
    · exact given
    · exact List.mem_append_left _ given
  have bounded : ∀ length ∈ fdDlc, length ≤ 64 := by decide
  have within := bounded _ allowed
  omega

theorem flags_small : frame.flags < 0x100000000 := Nat.lt_succ_of_le frame.flags_unsigned

end PyFrame

theorem map_dict (entries : List (String × PyValue)) (name : String) :
    map (asJs (.dict entries)) name = .ok (propertyOf (entriesAsJs entries)) := by
  rw [asJs_dict]
  rfl

theorem propertyOf_entries (entries : List (String × PyValue)) (key : String) :
    propertyOf (entriesAsJs entries) key = ((entries.lookup key).map asJs).getD .undefined := by
  induction entries with
  | nil => rfl
  | cons entry rest ih =>
    obtain ⟨name, value⟩ := entry
    by_cases same : key = name
    · subst same
      simp [entriesAsJs]
    · rw [entriesAsJs, propertyOf_there same, ih, List.lookup_cons, beq_eq_false_iff_ne.mpr same]

theorem string_str (value : Text) (name : String) :
    string (.string (characters value)) name = .ok (characters value) := rfl

private theorem boolean_bool (value : Bool) (name : String) : boolean (asJs (.bool value)) name = .ok value := by
  rw [asJs_bool]
  rfl

/-- Only a timestamp can keep the renderer from reading a frame. -/
theorem decodeFrame_payload (frame : PyFrame) : decodeFrame (asJs (framePayload frame)) = (do
    let hardwareTimestamp ← nullableNumber (asJs ((frame.hardwareTimestamp.map PyNumber.plain).getD .none))
      "hardware_timestamp"
    let hostTimestamp ← number (asJs frame.hostTimestamp.plain) "host_timestamp"
    let normalizedTimestamp ← number (asJs frame.normalizedTimestamp.plain) "normalized_timestamp"
    return { frame.read with hardwareTimestamp, hostTimestamp, normalizedTimestamp }) := by
  have arbitration := integer_nat frame.arbitration_small "arbitration_id"
  have dlc := integer_nat frame.dlc_small "dlc"
  have flags := integer_nat frame.flags_small "flags"
  have channel := string_str frame.channelId "channel_id"
  have clock := string_str frame.clockDomain "clock_domain"
  have direction := directions_complete frame.direction "direction"
  have quality := timestampQualities_complete frame.timestampQuality "timestamp_quality"
  simp only [DecodeFrameBatch.decodeFrame, framePayload, map_dict, ok_bind, propertyOf_entries]
  simp [List.lookup_cons, asJs_bytes, asJs_str, characters_text, ok_bind, sequence_nat, arbitration, dlc, flags, channel,
    clock, direction, quality, boolean_bool, -bind_pure_comp]
  rfl

private theorem decodeFrame_ok {frame : PyFrame} {read : RuntimeFrame} :
    decodeFrame (asJs (framePayload frame)) = .ok read ↔ frame.Timely ∧ read = frame.read := by
  rw [decodeFrame_payload]
  simp only [bind_ok, nullableNumber_plain, number_plain]
  constructor
  · rintro ⟨_, ⟨hardware, rfl⟩, _, ⟨host, rfl⟩, _, ⟨normalized, rfl⟩, returned⟩
    cases returned
    exact ⟨⟨host, normalized, hardware⟩, rfl⟩
  · rintro ⟨⟨host, normalized, hardware⟩, rfl⟩
    exact ⟨_, ⟨hardware, rfl⟩, _, ⟨host, rfl⟩, _, ⟨normalized, rfl⟩, rfl⟩

theorem decodeFrames_ok {frames : List PyFrame} {reads : List RuntimeFrame} :
    (eachAsJs (frames.map framePayload)).mapM decodeFrame = .ok reads ↔
      (∀ frame ∈ frames, frame.Timely) ∧ reads = frames.map PyFrame.read := by
  induction frames generalizing reads with
  | nil => simp [eachAsJs, pure, Except.pure, eq_comm]
  | cons frame rest ih =>
    simp only [List.map_cons, eachAsJs, List.mapM_cons, bind_ok, decodeFrame_ok, ih, List.forall_mem_cons]
    constructor
    · rintro ⟨_, ⟨timely, rfl⟩, _, ⟨others, rfl⟩, returned⟩
      cases returned
      exact ⟨⟨timely, others⟩, rfl⟩
    · rintro ⟨⟨timely, others⟩, rfl⟩
      exact ⟨_, ⟨timely, rfl⟩, _, ⟨others, rfl⟩, rfl⟩

end Frames

section Batches

namespace PyFrameBatch

variable {batch : PyFrameBatch}

def read (batch : PyFrameBatch) : RuntimeFrameBatch where
  streamId := characters batch.streamId
  firstSequence := batch.firstSequence
  lastSequence := batch.lastSequence
  frameCount := batch.frameCount
  frames := batch.frames.map PyFrame.read

/-- The names have a UTF-8 form, the lengths have 32 bits, and no timestamp is an int that MessagePack gives the
renderer as a bigint. -/
structure Portable (batch : PyFrameBatch) : Prop where
  named : Text.Packable batch.streamId
  counted : batch.frameCount ≤ maxLength
  frames : ∀ frame ∈ batch.frames, frame.Named ∧ frame.Timely

end PyFrameBatch

/-- The stream, the bounds and frame by frame the values are the same. -/
structure SameBatch (batch : PyFrameBatch) (read : RuntimeFrameBatch) : Prop where
  streamId : text read.streamId = batch.streamId
  firstSequence : read.firstSequence = batch.firstSequence
  lastSequence : read.lastSequence = batch.lastSequence
  frames : List.Forall₂ SameFrame batch.frames read.frames

theorem read_same {batch : PyFrameBatch} (named : Text.Packable batch.streamId)
    (frames : ∀ frame ∈ batch.frames, frame.Named) : SameBatch batch batch.read where
  streamId := text_characters named.1
  firstSequence := rfl
  lastSequence := rfl
  frames := List.forall₂_map_right_iff.mpr (List.forall₂_same.mpr fun frame member =>
    PyFrame.read_same (frames frame member))

private theorem readFrameBatch_payload (batch : PyFrameBatch) : readFrameBatch (asJs (batchPayload batch)) = (do
    let frames ← (eachAsJs (batch.frames.map framePayload)).mapM decodeFrame
    let frameCount ← integer (asJs (.int batch.frameCount)) "frame_count"
    throwIf (frameCount ≠ frames.length) "FrameBatch frame_count does not match frames"
    return { batch.read with frameCount, frames }) := by
  have version : integer (asJs (.int 1)) "schema_version" = .ok 1 := integer_nat (by decide) _
  have stream := string_str batch.streamId "stream_id"
  simp only [readFrameBatch, batchPayload, map_dict, ok_bind, propertyOf_entries]
  simp [List.lookup_cons, asJs_list, asJs_str, ok_bind, sequence_nat, version, stream, -bind_pure_comp]
  rfl

theorem readFrameBatch_ok {batch : PyFrameBatch} {read : RuntimeFrameBatch} :
    readFrameBatch (asJs (batchPayload batch)) = .ok read ↔
      (∀ frame ∈ batch.frames, frame.Timely) ∧ batch.frameCount ≤ maxLength ∧ read = batch.read := by
  rw [readFrameBatch_payload]
  simp only [bind_ok, decodeFrames_ok]
  by_cases small : batch.frameCount < 0x100000000
  · simp only [integer_nat small]
    constructor
    · rintro ⟨_, ⟨timely, rfl⟩, _, ⟨⟩, returned⟩
      obtain ⟨_, _, returned⟩ := returned
      cases returned
      exact ⟨timely, Nat.le_of_lt_succ small, rfl⟩
    · rintro ⟨timely, _, rfl⟩
      refine ⟨_, ⟨timely, rfl⟩, _, rfl, ?_⟩
      simp only [List.length_map, PyFrameBatch.frameCount, ne_eq, not_true_eq_false]
      exact ⟨(), rfl, rfl⟩
  · simp only [integer_large small]
    constructor
    · rintro ⟨_, _, _, raised, _⟩
      cases raised
    · rintro ⟨_, counted, _⟩
      exact absurd (Nat.lt_succ_of_le counted) small

end Batches

section Payloads

instance (value : Text) : Decidable (Text.Packable value) :=
  inferInstanceAs (Decidable (value.encodable = true ∧ utf8Length value ≤ maxLength))

theorem packable_text {value : Text} (packable : Packable (.str value)) : Text.Packable value := by
  cases packable with
  | str packable => exact packable

theorem packable_list {elements : List PyValue} (packable : Packable (.list elements)) :
    elements.length ≤ maxLength ∧ ∀ element ∈ elements, Packable element := by
  cases packable with
  | list short each => exact ⟨short, each⟩

theorem packable_entry {entries : List (String × PyValue)} {key : String} {value : PyValue}
    (packable : Packable (.dict entries)) (member : (key, value) ∈ entries) : Packable value := by
  cases packable with
  | dict short keys each => exact each _ member

theorem packable_nat {count : Nat} (bounded : count ≤ 0xFFFFFFFFFFFFFFFF) : Packable (.int count) :=
  .int (by omega) (by omega)

theorem packable_small {stamp : PyNumber} (small : stamp.Small) : Packable stamp.plain := by
  cases stamp with
  | float value => exact .float
  | int value =>
    simp only [PyNumber.Small] at small
    exact .int (by omega) (by omega)

theorem packable_named {frame : PyFrame} (packable : Packable (framePayload frame)) : frame.Named :=
  ⟨packable_text (packable_entry packable (show ("channel_id", _) ∈ _ by simp)),
    packable_text (packable_entry packable (show ("clock_domain", _) ∈ _ by simp))⟩

theorem packable_frame {frame : PyFrame} (named : frame.Named) (host : Packable frame.hostTimestamp.plain)
    (normalized : Packable frame.normalizedTimestamp.plain)
    (stamps : ∀ stamp ∈ frame.hardwareTimestamp, Packable stamp.plain) : Packable (framePayload frame) := by
  have keys : ∀ key ∈ ["sequence", "channel_id", "arbitration_id", "is_extended", "is_fd", "bitrate_switch",
      "error_state_indicator", "dlc", "data", "direction", "hardware_timestamp", "host_timestamp",
      "normalized_timestamp", "clock_domain", "timestamp_quality", "flags"], Text.Packable (text key) := by
    decide +kernel
  have arbitration := frame.arbitration_small
  have dlc := frame.dlc_small
  have flags := frame.flags_small
  have data : frame.data.length ≤ maxLength := by
    rw [frame.data_length]
    exact Nat.le_of_lt_succ dlc
  have direction : Text.Packable (text (directionValue frame.direction)) := by
    cases frame.direction <;> decide +kernel
  have quality : Text.Packable (text (timestampQualityValue frame.timestampQuality)) := by
    cases frame.timestampQuality <;> decide +kernel
  have hardware : Packable ((frame.hardwareTimestamp.map PyNumber.plain).getD .none) := by
    cases held : frame.hardwareTimestamp with
    | none => exact .none
    | some stamp => exact stamps stamp held
  refine .dict (by simp [maxLength]) (fun entry member => keys _ (List.mem_map_of_mem member)) ?_
  simp only [List.forall_mem_cons, List.not_mem_nil, false_implies, implies_true, and_true]
  exact ⟨packable_nat frame.sequence_unsigned, .str named.1, packable_nat (by omega), .bool, .bool, .bool, .bool,
    packable_nat (by omega), .bytes data, .str direction, hardware, host, normalized,
    .str named.2, .str quality, packable_nat (by omega)⟩

theorem packable_batch {batch : PyFrameBatch} (named : Text.Packable batch.streamId)
    (counted : batch.frameCount ≤ maxLength) (frames : ∀ frame ∈ batch.frames, Packable (framePayload frame)) :
    Packable (batchPayload batch) := by
  have keys : ∀ key ∈ ["schema_version", "stream_id", "first_sequence", "last_sequence", "frame_count", "frames"],
      Text.Packable (text key) := by
    decide +kernel
  have few : batch.frameCount ≤ 0xFFFFFFFF := counted
  have each : ∀ element ∈ batch.frames.map framePayload, Packable element := by
    intro element member
    obtain ⟨frame, held, rfl⟩ := List.mem_map.mp member
    exact frames frame held
  refine .dict (by simp [maxLength]) (fun entry member => keys _ (List.mem_map_of_mem member)) ?_
  simp only [List.forall_mem_cons, List.not_mem_nil, false_implies, implies_true, and_true]
  exact ⟨.int (by omega) (by omega), .str named, packable_nat (PyFrame.sequence_unsigned _),
    packable_nat (PyFrame.sequence_unsigned _), packable_nat (by omega),
    .list (by rw [List.length_map]; exact counted) each⟩

theorem PyFrameBatch.Portable.packable {batch : PyFrameBatch} (portable : batch.Portable) :
    Packable (batchPayload batch) := by
  refine packable_batch portable.named portable.counted ?_
  intro frame member
  obtain ⟨named, host, normalized, hardware⟩ := portable.frames frame member
  exact packable_frame named (packable_small host) (packable_small normalized) fun stamp held =>
    packable_small (hardware stamp held)

theorem packable_names {batch : PyFrameBatch} (packable : Packable (batchPayload batch)) :
    Text.Packable batch.streamId ∧ ∀ frame ∈ batch.frames, frame.Named := by
  have stream : Packable (.str batch.streamId) := packable_entry packable (show ("stream_id", _) ∈ _ by simp)
  have frames : Packable (.list (batch.frames.map framePayload)) :=
    packable_entry packable (show ("frames", _) ∈ _ by simp)
  refine ⟨packable_text stream, fun frame member => packable_named ?_⟩
  exact (packable_list frames).2 _ (List.mem_map_of_mem member)

end Payloads

/-- The renderer reads a batch back exactly if the batch is portable, and only then. -/
theorem wireFormat_exact (msgpack : Msgpack) (batch : PyFrameBatch)
    (carried : msgpack.Carries (batchPayload batch)) :
    (∃ bytes read, encodeBatch msgpack batch = some bytes ∧ decodeFrameBatch msgpack.decode bytes = .ok read ∧
      SameBatch batch read) ↔ batch.Portable := by
  constructor
  · rintro ⟨bytes, read, encoded, decoded, _⟩
    obtain ⟨named, names⟩ := packable_names (carried.packs.mp (Option.isSome_of_mem encoded))
    rw [decodeFrameBatch, carried.reads bytes encoded, ok_bind] at decoded
    obtain ⟨timely, counted, _⟩ := readFrameBatch_ok.mp decoded
    exact ⟨named, counted, fun frame member => ⟨names frame member, timely frame member⟩⟩
  · intro portable
    obtain ⟨bytes, encoded⟩ := Option.isSome_iff_exists.mp (carried.packs.mpr portable.packable)
    refine ⟨bytes, batch.read, encoded, ?_, read_same portable.named fun frame member =>
      (portable.frames frame member).1⟩
    rw [decodeFrameBatch, carried.reads bytes encoded, ok_bind]
    exact readFrameBatch_ok.mpr
      ⟨fun frame member => (portable.frames frame member).2, portable.counted, rfl⟩

section Captured

/-- A frame as the capture pipeline makes it: its timestamps are floats. -/
def PyFrame.ofFrame (frame : Frame) : PyFrame where
  sequence := frame.sequence
  channelId := text frame.channelId
  arbitrationId := frame.arbitrationId
  isExtended := frame.isExtended
  isFd := frame.isFd
  bitrateSwitch := frame.bitrateSwitch
  errorStateIndicator := frame.errorStateIndicator
  dlc := frame.dlc
  data := frame.data
  direction := frame.direction
  hardwareTimestamp := frame.hardwareTimestamp.map .float
  hostTimestamp := .float frame.hostTimestamp
  normalizedTimestamp := .float frame.normalizedTimestamp
  clockDomain := text frame.clockDomain
  timestampQuality := frame.timestampQuality
  flags := frame.flags
  sequence_unsigned := frame.sequence_unsigned
  channel_named := text_named frame.channel_named
  arbitration_range := frame.arbitration_range
  dlc_allowed := frame.dlc_allowed
  data_length := frame.data_length
  classic_flags := frame.classic_flags
  host_seconds := ⟨trivial, frame.host_nonnegative⟩
  normalized_seconds := ⟨trivial, frame.normalized_nonnegative⟩
  hardware_seconds := by
    intro stamp held
    obtain ⟨value, given, rfl⟩ := Option.map_eq_some_iff.mp held
    exact ⟨trivial, frame.hardware_nonnegative value given⟩
  clock_named := text_named frame.clock_named
  flags_unsigned := frame.flags_unsigned

def PyFrameBatch.ofBatch (batch : FrameBatch) : PyFrameBatch where
  streamId := text batch.streamId
  frames := batch.frames.map PyFrame.ofFrame
  stream_named := text_named batch.stream_named
  nonempty := by simpa using batch.nonempty
  contiguous := by
    have sequences : PyFrame.sequence ∘ PyFrame.ofFrame = Frame.sequence := rfl
    rw [List.map_map, sequences, List.length_map, List.head_map]
    exact batch.contiguous

/-- A captured batch is portable unless one of its lengths takes more than 32 bits. -/
theorem captured_portable {batch : FrameBatch} (named : utf8Length (text batch.streamId) ≤ maxLength)
    (counted : batch.frameCount ≤ maxLength)
    (names : ∀ frame ∈ batch.frames,
      utf8Length (text frame.channelId) ≤ maxLength ∧ utf8Length (text frame.clockDomain) ≤ maxLength) :
    (PyFrameBatch.ofBatch batch).Portable := by
  refine ⟨⟨text_encodable _, named⟩, ?_, ?_⟩
  · rw [PyFrameBatch.frameCount, PyFrameBatch.ofBatch, List.length_map]
    exact counted
  · intro frame member
    obtain ⟨captured, held, rfl⟩ := List.mem_map.mp member
    obtain ⟨channel, clock⟩ := names captured held
    refine ⟨⟨⟨text_encodable _, channel⟩, text_encodable _, clock⟩, trivial, trivial, ?_⟩
    intro stamp stamped
    obtain ⟨value, _, rfl⟩ := Option.map_eq_some_iff.mp stamped
    exact trivial

end Captured

section Sample

theorem PyNumber.finite_of_word {value : Int} (small : value.natAbs ≤ 0xFFFFFFFFFFFFFFFF) :
    (PyNumber.int value).Finite :=
  Nat.lt_of_le_of_lt small (by decide +kernel)

/-- A frame with the given count of seconds, as an int, for its host timestamp. -/
def sampleFrame (seconds : Nat) (word : seconds ≤ 0xFFFFFFFFFFFFFFFF) : PyFrame where
  sequence := 7
  channelId := text "a"
  arbitrationId := 1
  isExtended := false
  isFd := true
  bitrateSwitch := true
  errorStateIndicator := false
  dlc := 0
  data := []
  direction := .rx
  hardwareTimestamp := none
  hostTimestamp := .int seconds
  normalizedTimestamp := .int 2
  clockDomain := text "h"
  timestampQuality := .host
  flags := 1
  sequence_unsigned := by decide
  channel_named := by decide
  arbitration_range := by decide
  dlc_allowed := by decide
  data_length := rfl
  classic_flags := by decide
  host_seconds := ⟨PyNumber.finite_of_word word, Rat.intCast_nonneg.mpr (Int.natCast_nonneg seconds)⟩
  normalized_seconds := ⟨PyNumber.finite_of_word (by decide), by decide⟩
  hardware_seconds := by simp
  clock_named := by decide
  flags_unsigned := by decide

def sampleBatch (seconds : Nat) (word : seconds ≤ 0xFFFFFFFFFFFFFFFF) : PyFrameBatch where
  streamId := text "s"
  frames := [sampleFrame seconds word]
  stream_named := by decide
  nonempty := by simp
  contiguous := rfl

/-- A text of fewer than 32 ASCII characters. -/
def fixstr (literal : String) : Bytes :=
  UInt8.ofNat (0xA0 + literal.length) :: literal.toList.map fun character => UInt8.ofNat character.toNat

/-- The bytes of the sample batch, around those of its host timestamp. -/
def sampleBytes (host : Bytes) : Bytes :=
  [0x86] ++ fixstr "schema_version" ++ [1] ++ fixstr "stream_id" ++ fixstr "s" ++ fixstr "first_sequence" ++ [7] ++
    fixstr "last_sequence" ++ [7] ++ fixstr "frame_count" ++ [1] ++ fixstr "frames" ++ [0x91, 0xDE, 0, 16] ++
    fixstr "sequence" ++ [7] ++ fixstr "channel_id" ++ fixstr "a" ++ fixstr "arbitration_id" ++ [1] ++
    fixstr "is_extended" ++ [0xC2] ++ fixstr "is_fd" ++ [0xC3] ++ fixstr "bitrate_switch" ++ [0xC3] ++
    fixstr "error_state_indicator" ++ [0xC2] ++ fixstr "dlc" ++ [0] ++ fixstr "data" ++ [0xC4, 0] ++
    fixstr "direction" ++ fixstr "rx" ++ fixstr "hardware_timestamp" ++ [0xC0] ++ fixstr "host_timestamp" ++ host ++
    fixstr "normalized_timestamp" ++ [2] ++ fixstr "clock_domain" ++ fixstr "h" ++ fixstr "timestamp_quality" ++
    fixstr "host" ++ fixstr "flags" ++ [1]

/-- The two packages, as far as one batch is concerned. -/
def sampleMsgpack (batch : PyFrameBatch) (bytes : Bytes) : Msgpack where
  packb _ := some bytes
  decode given := if given = bytes then .ok (asJs (batchPayload batch)) else .error "Extra bytes found"

theorem sampleMsgpack_carries {batch : PyFrameBatch} (packable : Packable (batchPayload batch)) (bytes : Bytes) :
    (sampleMsgpack batch bytes).Carries (batchPayload batch) where
  packs := ⟨fun _ => packable, fun _ => rfl⟩
  reads given packed := by
    cases packed
    exact if_pos rfl

theorem sampleBatch_named (seconds : Nat) (word : seconds ≤ 0xFFFFFFFFFFFFFFFF) :
    Text.Packable (sampleBatch seconds word).streamId ∧ (sampleFrame seconds word).Named :=
  ⟨(by decide +kernel : Text.Packable (text "s")),
    (by decide +kernel : Text.Packable (text "a") ∧ Text.Packable (text "h"))⟩

theorem sampleBatch_packable (seconds : Nat) (word : seconds ≤ 0xFFFFFFFFFFFFFFFF) :
    Packable (batchPayload (sampleBatch seconds word)) := by
  obtain ⟨named, names⟩ := sampleBatch_named seconds word
  refine packable_batch named (by decide : 1 ≤ maxLength) ?_
  intro frame member
  obtain rfl := List.mem_singleton.mp member
  refine packable_frame names (packable_nat word) (.int (by decide) (by decide)) ?_
  rintro stamp ⟨⟩

theorem wireFormat_exact_sample : ∃ (msgpack : Msgpack) (bytes : Bytes) (read : RuntimeFrameBatch),
    encodeBatch msgpack (sampleBatch 1 (by decide)) = some bytes ∧
      decodeFrameBatch msgpack.decode bytes = .ok read ∧ SameBatch (sampleBatch 1 (by decide)) read := by
  have portable : (sampleBatch 1 (by decide)).Portable := by
    obtain ⟨named, names⟩ := sampleBatch_named 1 (by decide)
    refine ⟨named, (by decide : 1 ≤ maxLength), ?_⟩
    intro frame member
    obtain rfl := List.mem_singleton.mp member
    have host : (1 : Int).natAbs < 0x100000000 := by decide
    have normalized : (2 : Int).natAbs < 0x100000000 := by decide
    refine ⟨names, host, normalized, ?_⟩
    rintro stamp ⟨⟩
  have carried := sampleMsgpack_carries (sampleBatch_packable 1 (by decide)) (sampleBytes [1])
  obtain ⟨bytes, read, exactly⟩ := (wireFormat_exact _ _ carried).mpr portable
  exact ⟨_, bytes, read, exactly⟩

/-- A host timestamp of `2 ^ 32` seconds, as an int, is a bigint to the renderer, which refuses the batch. -/
theorem wireFormat_refuses : ∃ (msgpack : Msgpack) (bytes : Bytes),
    msgpack.Carries (batchPayload (sampleBatch 0x100000000 (by decide))) ∧
      encodeBatch msgpack (sampleBatch 0x100000000 (by decide)) = some bytes ∧
      decodeFrameBatch msgpack.decode bytes = .error "host_timestamp must be a finite number" := by
  have carried := sampleMsgpack_carries (sampleBatch_packable 0x100000000 (by decide))
    (sampleBytes [0xCF, 0, 0, 0, 1, 0, 0, 0, 0])
  refine ⟨_, _, carried, rfl, ?_⟩
  rw [decodeFrameBatch, carried.reads _ rfl]
  decide +kernel

end Sample

end CanX.Transport
