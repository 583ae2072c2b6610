import CanX.Domain.Frame
import CanX.Numeric.Binary64
import Mathlib.Algebra.Order.Ring.Rat

/-! The capture pipeline as one of its subscribers meets it: frames are numbered, offered one
at a time, and queued or refused. -/

namespace CanX.Capture

open Domain

structure TimestampNormalizer where
  firstHostTimestamp : Option Seconds
  nextSequence : Nat

def maxSequence : Nat := 0xFFFFFFFFFFFFFFFF

/-- The difference of two floats. -/
def since (first moment : Seconds) : Seconds := Numeric.binary64 (moment - first)

/-- The frame of the stream; a frame that the domain refuses consumes no number. -/
def TimestampNormalizer.normalize (normalizer : TimestampNormalizer) (frame : Frame) :
    Option (Frame × TimestampNormalizer) :=
  let first := normalizer.firstHostTimestamp.getD frame.hostTimestamp
  if within : normalizer.nextSequence ≤ maxSequence then
    some ({ frame with
      sequence := normalizer.nextSequence
      normalizedTimestamp := max 0 (since first frame.hostTimestamp)
      sequence_unsigned := within
      normalized_nonnegative := le_max_left .. },
      ⟨some first, normalizer.nextSequence + 1⟩)
  else none

theorem normalize_numbers {normalizer later : TimestampNormalizer} {frame normalized : Frame}
    (moved : normalizer.normalize frame = some (normalized, later)) :
    normalized.sequence = normalizer.nextSequence ∧ later.nextSequence = normalizer.nextSequence + 1 := by
  simp only [TimestampNormalizer.normalize] at moved
  split at moved
  · cases moved
    exact ⟨rfl, rfl⟩
  · cases moved

/-- One bounded consumer of frames. `shutDown` is the state of its queue after `disable`. -/
structure FrameSubscriber where
  capacity : Nat
  lossy : Bool
  droppedFrames : Nat
  queue : List Frame
  shutDown : Bool

namespace FrameSubscriber

variable (subscriber : FrameSubscriber)

def create (capacity : Nat) (lossy : Bool) : FrameSubscriber := ⟨capacity, lossy, 0, [], false⟩

def queueDepth : Nat := subscriber.queue.length

def full : Bool := subscriber.capacity ≤ subscriber.queueDepth

/-- The delivery of one frame: `none` while a lossless queue is full, and once the queue is
shut down. A lossy queue that is full lets its oldest frame go. -/
def put (frame : Frame) : Option FrameSubscriber :=
  if subscriber.shutDown then none
  else if subscriber.full then
    if subscriber.lossy then some { subscriber with
      queue := subscriber.queue.tail ++ [frame]
      droppedFrames := subscriber.droppedFrames + 1 }
    else none
  else some { subscriber with queue := subscriber.queue ++ [frame] }

/-- Queued frames are discarded. -/
def disable : FrameSubscriber := { subscriber with queue := [], shutDown := true }

end FrameSubscriber

/-- The capture loop and one subscriber. `offered` is the frame whose delivery is under way. -/
structure CapturePipeline where
  normalizer : TimestampNormalizer
  running : Bool
  stopRequested : Bool
  attached : Bool
  offered : Option Frame
  subscriber : FrameSubscriber

/-- What can happen to the pipeline. `receive` is a frame of the adapter; `expire` is the
publication deadline; `detach` is the owner unsubscribing and disabling the queue. -/
inductive PipelineLabel where
  | receive (frame : Frame)
  | deliver
  | refuse
  | expire
  | requestStop
  | cancelDelivery
  | finish
  | detach

namespace CapturePipeline

def create (normalizer : TimestampNormalizer) (capacity : Nat) (lossy : Bool) : CapturePipeline :=
  ⟨normalizer, true, false, true, none, .create capacity lossy⟩

/-- `_capture_loop` and `_publish_frame`, with the frame that the subscriber's queue took. -/
def step (pipeline : CapturePipeline) : PipelineLabel → Option (CapturePipeline × Option Frame)
  | .receive frame =>
    -- A frame that arrives together with the stop request still belongs to the capture.
    if pipeline.running = true ∧ pipeline.offered = none then
      match pipeline.normalizer.normalize frame with
      | none => some ({ pipeline with running := false }, none)
      | some (normalized, normalizer) =>
        let offered := if pipeline.attached then some normalized else none
        some ({ pipeline with normalizer, offered }, none)
    else none
  | .deliver =>
    match pipeline.offered with
    | none => none
    | some frame =>
      (pipeline.subscriber.put frame).map fun subscriber =>
        ({ pipeline with subscriber, offered := none }, some frame)
  | .refuse =>
    -- A queue that was shut down under a subscriber still attached is an error of the loop.
    if pipeline.offered.isSome = true ∧ pipeline.subscriber.shutDown = true then
      some ({ pipeline with offered := none, running := pipeline.running && !pipeline.attached }, none)
    else none
  | .expire =>
    if pipeline.offered.isSome = true ∧ pipeline.subscriber.lossy = false then
      let subscriber := pipeline.subscriber.disable
      some ({ pipeline with subscriber, offered := none, attached := false }, none)
    else none
  | .requestStop => some ({ pipeline with stopRequested := true }, none)
  | .cancelDelivery =>
    if pipeline.offered.isSome = true ∧ pipeline.stopRequested = true then
      some ({ pipeline with offered := none, running := false }, none)
    else none
  | .finish =>
    if pipeline.offered = none then some ({ pipeline with running := false }, none) else none
  | .detach =>
    let subscriber := pipeline.subscriber.disable
    some ({ pipeline with subscriber, attached := false }, none)

end CapturePipeline

end CanX.Capture
