import CanX.Capture.Pipeline
import CanX.Transition.Path

/-! The consumer loop of the runtime service, next to the pipeline that feeds its subscriber. -/

namespace CanX.Capture

open Domain Transition

/-- Where a consumer hands its batches: the recorder or the broker. -/
inductive Sink where
  | archive
  | stream
  deriving DecidableEq

def Sink.trackGaps : Sink → Bool
  | archive => false
  | stream => true

/-- Why the pending frames are published. -/
inductive Cut where
  | timeout
  | gap (frame : Frame)
  | size
  | finish

inductive ConsumerError where
  | subscriberDisabled
  | value (message : String)
  | sink
  | cancelled
  deriving DecidableEq

/-- The awaits of `_consume_subscriber`: `publishing` is the call of the callback, `awaiting`
its await of the sink. -/
inductive ConsumerStage where
  | looping
  | receiving
  | publishing (cut : Cut)
  | awaiting (cut : Cut)
  | returned
  | raised (error : ConsumerError)

/-- A consumer with its local variables, and the two numbers of the service it keeps. -/
structure Consumer where
  streamId : String
  batchSize : Nat
  sink : Sink
  stage : ConsumerStage
  pending : List Frame
  lastSequence : Option Nat
  archivePendingFrames : Nat
  sequenceGaps : Nat

namespace Consumer

variable (consumer : Consumer)

def create (streamId : String) (batchSize : Nat) (sink : Sink) : Consumer :=
  ⟨streamId, batchSize, sink, .looping, [], none, 0, 0⟩

def move (stage : ConsumerStage) : Consumer := { consumer with stage }

/-- `if not track_gaps: self._archive_pending_frames = <count>`. -/
def notePending (count : Nat) : Consumer :=
  if consumer.sink.trackGaps then consumer else { consumer with archivePendingFrames := count }

/-- Append a frame to the pending ones. -/
def appendPending (frame : Frame) : Consumer :=
  let pending := consumer.pending ++ [frame]
  let next := { consumer with pending, lastSequence := some frame.sequence }.notePending pending.length
  if consumer.batchSize ≤ pending.length then next.move (.publishing .size) else next.move .looping

def continues (frame : Frame) : Bool :=
  match consumer.lastSequence with
  | none => true
  | some last => frame.sequence = last + 1

/-- The frames missing before this one. -/
def gapBefore (frame : Frame) : Nat :=
  match consumer.lastSequence with
  | none => 0
  | some last => frame.sequence - last - 1

/-- What becomes of a frame that was taken. -/
def receive (frame : Frame) : Consumer :=
  if consumer.continues frame then consumer.appendPending frame
  else
    let gap := if consumer.sink.trackGaps then consumer.gapBefore frame else 0
    let noted := { consumer with sequenceGaps := consumer.sequenceGaps + gap }
    if consumer.pending = [] then noted.appendPending frame else noted.move (.publishing (.gap frame))

/-- The loop goes on after a publication. -/
def resume : Cut → Consumer
  | .timeout | .size => { consumer with pending := [] }.notePending 0 |>.move .looping
  | .gap frame => { consumer with pending := [] }.appendPending frame
  | .finish => consumer.notePending 0 |>.move .returned

end Consumer

/-- One capture: the pipeline, the consumer and the event that tells it to stop. -/
structure CaptureRun where
  pipeline : CapturePipeline
  consumer : Consumer
  stopEvent : Bool

/-- `check` is the condition of the loop, `take` and `timeout` the two ways the receive ends;
`recording` tells whether the recorder accepts batches. -/
inductive CaptureLabel where
  | pipeline (label : PipelineLabel)
  | setStopEvent
  | check
  | take
  | timeout
  | disabled
  | publish (recording : Bool)
  | accept
  | reject
  | cancel

inductive CaptureEvent where
  | silent
  | queued (frame : Frame)
  | took (frame : Frame)
  | published (batch : FrameBatch) (recorded : Bool)

namespace CaptureRun

def create (normalizer : TimestampNormalizer) (capacity : Nat) (lossy : Bool) (streamId : String)
    (batchSize : Nat) (sink : Sink) : CaptureRun :=
  ⟨.create normalizer capacity lossy, .create streamId batchSize sink, false⟩

end CaptureRun

/-- The loop's condition, and what follows it. -/
def CaptureRun.check (capture : CaptureRun) : Consumer :=
  if capture.stopEvent = false ∨ 0 < capture.pipeline.subscriber.queueDepth then
    capture.consumer.move .receiving
  else if capture.consumer.pending = [] then
    capture.consumer.notePending 0 |>.move .returned
  else capture.consumer.move (.publishing .finish)

def captureStep (capture : CaptureRun) : CaptureLabel → Option (CaptureRun × CaptureEvent)
  | .pipeline label =>
    (capture.pipeline.step label).map fun (pipeline, queued) =>
      ({ capture with pipeline }, match queued with
        | some frame => .queued frame
        | none => .silent)
  | .setStopEvent => some ({ capture with stopEvent := true }, .silent)
  | .check =>
    match capture.consumer.stage with
    | .looping => some ({ capture with consumer := capture.check }, .silent)
    | _ => none
  | .take =>
    match capture.consumer.stage, capture.pipeline.subscriber.queue with
    | .receiving, frame :: queue =>
      let subscriber := { capture.pipeline.subscriber with queue }
      let pipeline := { capture.pipeline with subscriber }
      some ({ capture with pipeline, consumer := capture.consumer.receive frame }, .took frame)
    | _, _ => none
  | .timeout =>
    match capture.consumer.stage with
    | .receiving =>
      let stage := if capture.consumer.pending = [] then .looping else .publishing .timeout
      some ({ capture with consumer := capture.consumer.move stage }, .silent)
    | _ => none
  | .disabled =>
    match capture.consumer.stage with
    | .receiving =>
      if capture.pipeline.subscriber.shutDown = true ∧ capture.pipeline.subscriber.queue = [] then
        some ({ capture with consumer := capture.consumer.move (.raised .subscriberDisabled) }, .silent)
      else none
    | _ => none
  | .publish recording =>
    match capture.consumer.stage with
    | .publishing cut =>
      match FrameBatch.create capture.consumer.streamId capture.consumer.pending with
      | .error message =>
        some ({ capture with consumer := capture.consumer.move (.raised (.value message)) }, .silent)
      | .ok batch =>
        let recorded := capture.consumer.sink = .stream || recording
        some ({ capture with consumer := capture.consumer.move (.awaiting cut) }, .published batch recorded)
    | _ => none
  | .accept =>
    match capture.consumer.stage with
    | .awaiting cut => some ({ capture with consumer := capture.consumer.resume cut }, .silent)
    | _ => none
  | .reject =>
    match capture.consumer.stage with
    | .awaiting _ => some ({ capture with consumer := capture.consumer.move (.raised .sink) }, .silent)
    | _ => none
  | .cancel =>
    match capture.consumer.stage with
    | .receiving | .awaiting _ =>
      some ({ capture with consumer := capture.consumer.move (.raised .cancelled) }, .silent)
    | _ => none

end CanX.Capture
