import CanX.Transport.BatchDecode

/-! What becomes of a batch that is packed and unpacked: an int timestamp comes back as the double
nearest to it, and an int hardware timestamp does not come back at all. -/

namespace CanX.Transport

open Dbc Desktop Domain

section Numbers

/-- The number as the decoder gives it back. -/
def PyNumber.rounded : PyNumber → PyNumber
  | .int value => .float (nearestDouble value)
  | .float value => .float value

def PyNumber.isInt : PyNumber → Bool
  | .int _ => true
  | .float _ => false

/-- A float, or an int that a double denotes. -/
def PyNumber.Exact : PyNumber → Prop
  | .int value => nearestDouble value = value
  | .float _ => True

/-- A float, or an int of 64 bits. -/
def PyNumber.Word : PyNumber → Prop
  | .int value => value ≤ 0xFFFFFFFFFFFFFFFF
  | .float _ => True

variable {stamp : PyNumber} {entries : List (String × PyValue)} {key : String}

theorem PyNumber.rounded_exact : stamp.rounded.value = stamp.value ↔ stamp.Exact := by
  cases stamp with
  | int value => exact Iff.rfl
  | float value => simp [PyNumber.rounded, PyNumber.Exact]

private theorem nearestDouble_nonneg {value : Int} (nonneg : 0 ≤ value) : 0 ≤ nearestDouble value := by
  rw [nearestDouble, if_neg (Int.not_lt.mpr nonneg)]
  exact Rat.intCast_nonneg.mpr (Int.natCast_nonneg _)

theorem PyNumber.Seconds.rounded (seconds : stamp.Seconds) : stamp.rounded.Seconds := by
  cases stamp with
  | int value => exact ⟨trivial, nearestDouble_nonneg (Rat.intCast_nonneg.mp seconds.2)⟩
  | float value => exact seconds

theorem PyNumber.Seconds.packable (seconds : stamp.Seconds) : Packable stamp.plain ↔ stamp.Word := by
  cases stamp with
  | int value =>
    have nonneg : 0 ≤ value := Rat.intCast_nonneg.mp seconds.2
    constructor
    · intro packable
      cases packable with
      | int _ upper => exact upper
    · intro word
      exact .int (by omega) word
  | float value => exact ⟨fun _ => trivial, fun _ => .float⟩

theorem numberAt_plain (held : PyValue.get entries key = stamp.plain) (finite : stamp.Finite) :
    numberAt entries key = .ok stamp.rounded := by
  cases stamp with
  | int value =>
    rw [numberAt, held]
    exact if_pos finite
  | float value =>
    rw [numberAt, held]
    rfl

end Numbers

section Frames

/-- The frame as the decoder gives it back. -/
def PyFrame.rounded (frame : PyFrame) : PyFrame :=
  { frame with
    hostTimestamp := frame.hostTimestamp.rounded
    normalizedTimestamp := frame.normalizedTimestamp.rounded
    host_seconds := PyNumber.Seconds.rounded frame.host_seconds
    normalized_seconds := PyNumber.Seconds.rounded frame.normalized_seconds }

/-- `==` of two frames: an int equals the float of the same value. -/
structure PyFrame.Equal (frame other : PyFrame) : Prop where
  sequence : frame.sequence = other.sequence
  channelId : frame.channelId = other.channelId
  arbitrationId : frame.arbitrationId = other.arbitrationId
  isExtended : frame.isExtended = other.isExtended
  isFd : frame.isFd = other.isFd
  bitrateSwitch : frame.bitrateSwitch = other.bitrateSwitch
  errorStateIndicator : frame.errorStateIndicator = other.errorStateIndicator
  dlc : frame.dlc = other.dlc
  data : frame.data = other.data
  direction : frame.direction = other.direction
  hardwareTimestamp : frame.hardwareTimestamp.map PyNumber.value = other.hardwareTimestamp.map PyNumber.value
  hostTimestamp : frame.hostTimestamp.value = other.hostTimestamp.value
  normalizedTimestamp : frame.normalizedTimestamp.value = other.normalizedTimestamp.value
  clockDomain : frame.clockDomain = other.clockDomain
  timestampQuality : frame.timestampQuality = other.timestampQuality
  flags : frame.flags = other.flags

variable {frame : PyFrame}

theorem PyFrame.rounded_equal : frame.rounded.Equal frame ↔
    frame.hostTimestamp.Exact ∧ frame.normalizedTimestamp.Exact := by
  constructor
  · intro equal
    exact ⟨PyNumber.rounded_exact.mp equal.hostTimestamp, PyNumber.rounded_exact.mp equal.normalizedTimestamp⟩
  · rintro ⟨host, normalized⟩
    have hosts := PyNumber.rounded_exact.mpr host
    have normals := PyNumber.rounded_exact.mpr normalized
    constructor
    case hostTimestamp => exact hosts
    case normalizedTimestamp => exact normals
    all_goals rfl

theorem directionOf_value (direction : Direction) : directionOf (text (directionValue direction)) = .ok direction := by
  cases direction <;> decide +kernel

theorem qualityOf_value (quality : Domain.TimestampQuality) :
    qualityOf (text (timestampQualityValue quality)) = .ok quality := by
  cases quality <;> decide +kernel

def PyFrame.fields (frame : PyFrame) : FrameFields :=
  { frame with
    sequence := frame.sequence
    arbitrationId := frame.arbitrationId
    dlc := frame.dlc
    flags := frame.flags }

/-- The checks of the domain accept the fields of a frame again. -/
theorem FrameFields.create_fields (frame : PyFrame) : frame.fields.create = .ok frame := by
  have sequence := frame.sequence_unsigned
  have arbitration : frame.arbitrationId ≤ frame.fields.maximumId := frame.arbitration_range
  have dlc : frame.fields.dlc.toNat ∈ frame.fields.allowedDlc := frame.dlc_allowed
  have length : frame.fields.data.length = frame.fields.dlc.toNat := frame.data_length
  have flags := frame.flags_unsigned
  have classic : ¬ (frame.fields.isFd = false ∧
      (frame.fields.bitrateSwitch = true ∨ frame.fields.errorStateIndicator = true)) := by
    rintro ⟨plain, flagged⟩
    obtain ⟨bitrate, state⟩ := frame.classic_flags plain
    rcases flagged with on | on
    · cases bitrate.symm.trans on
    · cases state.symm.trans on
  have timestamps : frame.fields.hostTimestamp.Seconds ∧ frame.fields.normalizedTimestamp.Seconds ∧
      ∀ stamp ∈ frame.fields.hardwareTimestamp, stamp.Seconds :=
    ⟨frame.host_seconds, frame.normalized_seconds, frame.hardware_seconds⟩
  have numbered : 0 ≤ frame.fields.sequence ∧ frame.fields.sequence ≤ 0xFFFFFFFFFFFFFFFF :=
    ⟨Int.natCast_nonneg _, Int.ofNat_le.mpr sequence⟩
  have identified : 0 ≤ frame.fields.arbitrationId ∧ frame.fields.arbitrationId ≤ frame.fields.maximumId :=
    ⟨Int.natCast_nonneg _, Int.ofNat_le.mpr arbitration⟩
  have flagged : 0 ≤ frame.fields.flags ∧ frame.fields.flags ≤ 0xFFFFFFFF :=
    ⟨Int.natCast_nonneg _, Int.ofNat_le.mpr flags⟩
  have channel : frame.fields.channelId ≠ [] := frame.channel_named
  have clock : frame.fields.clockDomain ≠ [] := frame.clock_named
  unfold FrameFields.create
  rw [dif_neg (not_not_intro numbered), dif_neg channel, dif_neg (not_not_intro identified),
    dif_neg (not_not_intro ⟨Int.natCast_nonneg _, dlc⟩), dif_neg (not_not_intro length), dif_neg classic,
    dif_neg (not_not_intro timestamps), dif_neg clock, dif_neg (not_not_intro flagged)]
  rfl

/-- A frame comes back with its timestamps rounded, unless its hardware timestamp is an int. -/
theorem decodeFramePayload_ok (floating : ∀ stamp ∈ frame.hardwareTimestamp, stamp.isInt = false) :
    decodeFramePayload (framePayload frame) = .ok frame.rounded := by
  have made := FrameFields.create_fields frame.rounded
  have direction := directionOf_value frame.direction
  have quality := qualityOf_value frame.timestampQuality
  unfold framePayload
  simp only [decodeFramePayload]
  rw [numberAt_plain rfl frame.host_seconds.1, numberAt_plain rfl frame.normalized_seconds.1]
  cases hardware : frame.hardwareTimestamp with
  | none =>
    simp [PyValue.get, List.lookup_cons, integerAt, stringAt, booleanAt, ok_bind, direction, quality, -bind_pure_comp]
    rw [← hardware]
    exact made
  | some stamp =>
    cases stamp with
    | int value => exact absurd (floating _ hardware) (by simp [PyNumber.isInt])
    | float value =>
      simp [PyNumber.plain, PyValue.get, List.lookup_cons, integerAt, stringAt, booleanAt, ok_bind, direction, quality,
        -bind_pure_comp]
      rw [← hardware]
      exact made

private theorem decodeFramePayload_int {stamp : PyNumber} (held : frame.hardwareTimestamp = some stamp)
    (integral : stamp.isInt = true) : decodeFramePayload (framePayload frame) =
      .error (.value "hardware_timestamp must be a float or null") := by
  cases stamp with
  | float value => cases integral
  | int value =>
    unfold framePayload
    rw [held]
    rfl

theorem decodeFramePayload_exact {read : PyFrame} : decodeFramePayload (framePayload frame) = .ok read ↔
    (∀ stamp ∈ frame.hardwareTimestamp, stamp.isInt = false) ∧ read = frame.rounded := by
  by_cases floating : ∀ stamp ∈ frame.hardwareTimestamp, stamp.isInt = false
  · rw [decodeFramePayload_ok floating, Except.ok.injEq]
    exact ⟨fun same => ⟨floating, same.symm⟩, fun given => given.2.symm⟩
  · constructor
    · intro decoded
      simp only [not_forall, Bool.not_eq_false] at floating
      obtain ⟨stamp, held, integral⟩ := floating
      rw [decodeFramePayload_int held integral] at decoded
      cases decoded
    · intro given
      exact absurd given.1 floating

/-- The names have a UTF-8 form, the hardware timestamp is no int, and the other timestamps are floats or ints
of 64 bits that a double denotes. -/
structure PyFrame.Restorable (frame : PyFrame) : Prop where
  named : frame.Named
  hardware : ∀ stamp ∈ frame.hardwareTimestamp, stamp.isInt = false
  host : frame.hostTimestamp.Word ∧ frame.hostTimestamp.Exact
  normalized : frame.normalizedTimestamp.Word ∧ frame.normalizedTimestamp.Exact

theorem packable_stamps (packable : Packable (framePayload frame)) :
    frame.hostTimestamp.Word ∧ frame.normalizedTimestamp.Word :=
  ⟨PyNumber.Seconds.packable frame.host_seconds |>.mp
      (packable_entry packable (show ("host_timestamp", _) ∈ _ by simp)),
    PyNumber.Seconds.packable frame.normalized_seconds |>.mp
      (packable_entry packable (show ("normalized_timestamp", _) ∈ _ by simp))⟩

theorem PyFrame.Restorable.packable (restorable : frame.Restorable) : Packable (framePayload frame) := by
  have host := (PyNumber.Seconds.packable frame.host_seconds).mpr restorable.host.1
  have normalized := (PyNumber.Seconds.packable frame.normalized_seconds).mpr restorable.normalized.1
  refine packable_frame restorable.named host normalized ?_
  intro stamp held
  have floating := restorable.hardware stamp held
  cases stamp with
  | int value => cases floating
  | float value => exact .float

end Frames

section Batches

def PyFrameBatch.rounded (batch : PyFrameBatch) : PyFrameBatch where
  streamId := batch.streamId
  frames := batch.frames.map PyFrame.rounded
  stream_named := batch.stream_named
  nonempty := by simpa using batch.nonempty
  contiguous := by
    have sequences : PyFrame.sequence ∘ PyFrame.rounded = PyFrame.sequence := rfl
    rw [List.map_map, sequences, List.length_map, List.head_map]
    exact batch.contiguous

/-- `==` of two batches; the bounds and the count follow from the frames. -/
structure PyFrameBatch.Equal (batch other : PyFrameBatch) : Prop where
  streamId : batch.streamId = other.streamId
  frames : List.Forall₂ PyFrame.Equal batch.frames other.frames

/-- The stream has a UTF-8 form, the count has 32 bits, and every frame is restorable. -/
structure PyFrameBatch.Restorable (batch : PyFrameBatch) : Prop where
  named : Text.Packable batch.streamId
  counted : batch.frameCount ≤ maxLength
  frames : ∀ frame ∈ batch.frames, frame.Restorable

variable {batch read : PyFrameBatch}

theorem PyFrameBatch.rounded_equal : batch.rounded.Equal batch ↔
    ∀ frame ∈ batch.frames, frame.hostTimestamp.Exact ∧ frame.normalizedTimestamp.Exact := by
  constructor
  · intro equal
    have frames : List.Forall₂ PyFrame.Equal (batch.frames.map PyFrame.rounded) batch.frames := equal.frames
    rw [List.forall₂_map_left_iff] at frames
    intro frame member
    exact PyFrame.rounded_equal.mp (List.forall₂_same.mp frames frame member)
  · intro exactly
    refine ⟨rfl, List.forall₂_map_left_iff.mpr (List.forall₂_same.mpr ?_)⟩
    intro frame member
    exact PyFrame.rounded_equal.mpr (exactly frame member)

private theorem decodeFramePayloads_exact {frames reads : List PyFrame} :
    (frames.map framePayload).mapM decodeFramePayload = .ok reads ↔
      (∀ frame ∈ frames, ∀ stamp ∈ frame.hardwareTimestamp, stamp.isInt = false) ∧
        reads = frames.map PyFrame.rounded := by
  rw [mapM_ok, List.forall₂_map_left_iff]
  simp only [decodeFramePayload_exact]
  induction frames generalizing reads with
  | nil => simp
  | cons frame rest ih =>
    rw [List.forall₂_cons_left_iff, List.map_cons, List.forall_mem_cons]
    simp only [ih]
    constructor
    · rintro ⟨first, others, ⟨floating, rfl⟩, ⟨each, rfl⟩, rfl⟩
      exact ⟨⟨floating, each⟩, rfl⟩
    · rintro ⟨⟨floating, each⟩, rfl⟩
      exact ⟨_, _, ⟨floating, rfl⟩, ⟨each, rfl⟩, rfl⟩

/-- The checks of the domain accept the frames of a batch again. -/
theorem createBatch_frames (batch : PyFrameBatch) :
    createBatch batch.streamId batch.firstSequence batch.lastSequence batch.frameCount batch.frames = .ok batch := by
  have contiguous := batch.contiguous
  have bounds : ¬ ((batch.firstSequence : Int) ≠ (batch.frames.head batch.nonempty).sequence ∨
      (batch.lastSequence : Int) ≠ (batch.frames.getLast batch.nonempty).sequence) := by
    simp [PyFrameBatch.firstSequence, PyFrameBatch.lastSequence]
  have counted : ¬ ((batch.frameCount : Int) ≠ batch.frames.length) := not_not_intro rfl
  unfold createBatch
  rw [dif_neg batch.stream_named, dif_neg batch.nonempty, dif_neg (not_not_intro contiguous), if_neg bounds,
    if_neg counted]

private theorem decodeBatchPayload_exact : decodeBatchPayload (batchPayload batch) = .ok read ↔
    (∀ frame ∈ batch.frames, ∀ stamp ∈ frame.hardwareTimestamp, stamp.isInt = false) ∧ read = batch.rounded := by
  have bounds : batch.rounded.firstSequence = batch.firstSequence ∧
      batch.rounded.lastSequence = batch.lastSequence ∧ batch.rounded.frameCount = batch.frameCount := by
    simp [PyFrameBatch.rounded, PyFrameBatch.firstSequence, PyFrameBatch.lastSequence, PyFrameBatch.frameCount,
      PyFrame.rounded, List.head_map, List.getLast_map]
  have made := createBatch_frames batch.rounded
  rw [bounds.1, bounds.2.1, bounds.2.2] at made
  have payload : decodeBatchPayload (batchPayload batch) = (do
      let frames ← (batch.frames.map framePayload).mapM decodeFramePayload
      createBatch batch.streamId batch.firstSequence batch.lastSequence batch.frameCount frames) := by
    simp [decodeBatchPayload, batchPayload, PyValue.get, List.lookup_cons, integerAt, stringAt, ok_bind, -bind_pure_comp]
  rw [payload, bind_ok]
  simp only [decodeFramePayloads_exact]
  constructor
  · rintro ⟨_, ⟨floating, rfl⟩, created⟩
    exact ⟨floating, Except.ok.inj (created.symm.trans made)⟩
  · rintro ⟨floating, rfl⟩
    exact ⟨_, ⟨floating, rfl⟩, made⟩

/-- The batch is packed, unpacked and equal to what it was. -/
def RoundTrips (msgpack : MsgpackPackage) (batch : PyFrameBatch) : Prop :=
  ∃ bytes read, packBatch msgpack batch = some bytes ∧ decodeBatch msgpack bytes = some (.ok read) ∧ read.Equal batch

theorem PyFrameBatch.Restorable.packable (restorable : batch.Restorable) : Packable (batchPayload batch) :=
  packable_batch restorable.named restorable.counted fun frame member => (restorable.frames frame member).packable

/-- What of a packed batch does not come back. -/
theorem decodeBatch_restores {msgpack : MsgpackPackage}
    (faithful : msgpack.Faithful (batchPayload batch)) {bytes : Bytes}
    (packed : packBatch msgpack batch = some bytes) :
    (∃ read, decodeBatch msgpack bytes = some (.ok read) ∧ read.Equal batch) ↔ batch.Restorable := by
  have packable := faithful.packs.mp (Option.isSome_of_mem packed)
  rw [decodeBatch, faithful.unpacks bytes packed, Option.map_some]
  simp only [Option.some.injEq, decodeBatchPayload_exact]
  constructor
  · rintro ⟨_, ⟨floating, rfl⟩, equal⟩
    obtain ⟨named, names⟩ := packable_names packable
    have frames : Packable (.list (batch.frames.map framePayload)) :=
      packable_entry packable (show ("frames", _) ∈ _ by simp)
    obtain ⟨counted, each⟩ := packable_list frames
    rw [List.length_map] at counted
    refine ⟨named, counted, ?_⟩
    intro frame member
    obtain ⟨host, normalized⟩ := packable_stamps (each _ (List.mem_map_of_mem member))
    obtain ⟨hosts, normals⟩ := PyFrameBatch.rounded_equal.mp equal frame member
    exact ⟨names frame member, floating frame member, ⟨host, hosts⟩, normalized, normals⟩
  · intro restorable
    refine ⟨_, ⟨fun frame member => (restorable.frames frame member).hardware, rfl⟩, ?_⟩
    refine PyFrameBatch.rounded_equal.mpr ?_
    intro frame member
    have held := restorable.frames frame member
    exact ⟨held.host.2, held.normalized.2⟩

theorem roundTrips_exact {msgpack : MsgpackPackage} (faithful : msgpack.Faithful (batchPayload batch)) :
    RoundTrips msgpack batch ↔ batch.Restorable := by
  constructor
  · rintro ⟨bytes, read, packed, decoded, equal⟩
    exact (decodeBatch_restores faithful packed).mp ⟨read, decoded, equal⟩
  · intro restorable
    obtain ⟨bytes, packed⟩ := Option.isSome_iff_exists.mp (faithful.packs.mpr restorable.packable)
    obtain ⟨read, decoded, equal⟩ := (decodeBatch_restores faithful packed).mpr restorable
    exact ⟨bytes, read, packed, decoded, equal⟩

end Batches

end CanX.Transport
