import Mathlib.Data.List.Basic
import Mathlib.Data.List.Range

/-! The canonical frame and the contiguous batch. Python's constructor checks are
fields, so a value that exists has passed them. Timestamps are finite seconds and
are kept as exact rationals. -/

namespace CanX.Domain

inductive Direction where
  | rx
  | tx
  deriving DecidableEq

inductive TimestampQuality where
  | hardware
  | host
  | estimated
  deriving DecidableEq

abbrev Seconds := Rat

def classicDlc : List Nat := List.range 9

def fdDlc : List Nat := classicDlc ++ [12, 16, 20, 24, 32, 48, 64]

/-- One immutable CAN or CAN FD frame captured by the runtime. -/
structure Frame where
  sequence : Nat
  channelId : String
  arbitrationId : Nat
  isExtended : Bool
  isFd : Bool
  bitrateSwitch : Bool
  errorStateIndicator : Bool
  dlc : Nat
  data : List UInt8
  direction : Direction
  hardwareTimestamp : Option Seconds
  hostTimestamp : Seconds
  normalizedTimestamp : Seconds
  clockDomain : String
  timestampQuality : TimestampQuality
  flags : Nat
  sequence_unsigned : sequence ≤ 0xFFFFFFFFFFFFFFFF
  channel_named : channelId ≠ ""
  arbitration_range : arbitrationId ≤ if isExtended then 0x1FFFFFFF else 0x7FF
  dlc_allowed : dlc ∈ if isFd then fdDlc else classicDlc
  data_length : data.length = dlc
  classic_flags : isFd = false → bitrateSwitch = false ∧ errorStateIndicator = false
  host_nonnegative : 0 ≤ hostTimestamp
  normalized_nonnegative : 0 ≤ normalizedTimestamp
  hardware_nonnegative : ∀ stamp ∈ hardwareTimestamp, 0 ≤ stamp
  clock_named : clockDomain ≠ ""
  flags_unsigned : flags ≤ 0xFFFFFFFF
  deriving DecidableEq

/-- A non-empty contiguous batch within one capture stream. The redundant bounds
and count of the source are derived, since its constructor requires them to agree. -/
structure FrameBatch where
  streamId : String
  frames : List Frame
  stream_named : streamId ≠ ""
  nonempty : frames ≠ []
  contiguous : frames.map Frame.sequence =
    List.range' (frames.head nonempty).sequence frames.length
  deriving DecidableEq

namespace FrameBatch

def firstFrame (batch : FrameBatch) : Frame := batch.frames.head batch.nonempty

def lastFrame (batch : FrameBatch) : Frame := batch.frames.getLast batch.nonempty

def firstSequence (batch : FrameBatch) : Nat := batch.firstFrame.sequence

def lastSequence (batch : FrameBatch) : Nat := batch.lastFrame.sequence

def frameCount (batch : FrameBatch) : Nat := batch.frames.length

/-- `FrameBatch.create`: the batch, or the text of the `ValueError`. -/
def create (streamId : String) (frames : List Frame) : Except String FrameBatch :=
  if nonempty : frames ≠ [] then
    if named : streamId ≠ "" then
      if contiguous : frames.map Frame.sequence =
          List.range' (frames.head nonempty).sequence frames.length then
        .ok ⟨streamId, frames, named, nonempty, contiguous⟩
      else .error "FrameBatch sequences must be contiguous"
    else .error "stream_id must not be empty"
  else .error "FrameBatch frames must be non-empty"

theorem create_frames {streamId : String} {frames : List Frame} {batch : FrameBatch}
    (created : create streamId frames = .ok batch) : batch.frames = frames := by
  unfold create at created
  split at created
  · split at created
    · split at created
      · cases created
        rfl
      · cases created
    · cases created
  · cases created

theorem frameCount_pos (batch : FrameBatch) : 0 < batch.frameCount :=
  List.length_pos_iff.mpr batch.nonempty

theorem lastSequence_eq (batch : FrameBatch) :
    batch.lastSequence = batch.firstSequence + (batch.frameCount - 1) := by
  have counted := batch.frameCount_pos
  have last : batch.frames.map Frame.sequence ≠ [] := by simp [batch.nonempty]
  have named : batch.lastSequence = (batch.frames.map Frame.sequence).getLast last := by
    rw [List.getLast_map]
    rfl
  rw [named, List.getLast_eq_getElem]
  simp only [batch.contiguous, List.getElem_range', List.length_range', Nat.one_mul]
  rfl

end FrameBatch

end CanX.Domain
