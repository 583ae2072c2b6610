import CanX.Data.Finality
import CanX.Recorder.Settlement
import CanX.Runtime.Metrics

/-! `RuntimeService`: the capture it owns, and the coroutines that move it. The event loop
runs one of them at a time between two awaits; the threads of the recorders run beside it. -/

namespace CanX.Runtime

open Domain Data Recorder

inductive CaptureSessionState where
  | idle
  | running
  | degraded
  | finalizing
  | failed
  deriving DecidableEq

/-- `_task` of a pipeline: the capture loop, which may have ended with an exception. -/
inductive CaptureTask where
  | absent
  | running
  | failed
  deriving DecidableEq

structure CapturePipeline where
  task : CaptureTask
  generatedFrames : ℕ
  capturedFrames : ℕ
  deriving DecidableEq

inductive ConsumerTask where
  | absent
  | live
  | done
  deriving DecidableEq

/-- `_recorder`. A project recorder is known by its position among those that were opened;
until its `start` returns it only has a failure. -/
inductive Backend where
  | msgpack
  | unopened (failure : Option RecorderFailure)
  | project (index : ℕ)
  deriving DecidableEq

/-- Where the task of `_cleanup_recorder` is. -/
inductive Cleanup where
  | joining
  | awaitingStop
  | closingGate
  | done
  deriving DecidableEq

/-- Where the holder of `_lifecycle_lock` is. -/
inductive Lifecycle where
  | idle
  | starting
  | opening
  | aborting
  | abortCleanup
  | stopping
  | draining
  | stopCleanup
  deriving DecidableEq

structure RuntimeService where
  recorders : List Recording
  recorder : Backend
  lastProjectRecorder : Option ℕ
  msgpackFailure : Option RecorderFailure
  pipeline : Option CapturePipeline
  archiveSubscriber : Bool
  /-- The frames that the stream subscriber has dropped, if there is one. -/
  streamSubscriber : Option ℕ
  archiveTask : ConsumerTask
  streamTask : ConsumerTask
  cleanup : Option Cleanup
  settlement : Option ℕ
  captureState : CaptureSessionState
  failure : Option RecorderFailure
  totals : FrameCounts
  metrics : FrameCounts
  lifecycle : Lifecycle
  cleanupTimeout : Seconds
  timed : 0 < cleanupTimeout

/-- What `start_capture` is asked for. `validProject` is what the project domain says. -/
structure CaptureRequest where
  batchSize : ℤ
  recordingPath : Option String
  projectPath : Option String
  validProject : Bool

inductive Refusal where
  | alreadyRunning
  | batchSize
  | targetConflict
  | invalidProject
  | finalizationPending
  deriving DecidableEq

def Refusal.message : Refusal → String
  | alreadyRunning => "capture is already running"
  | batchSize => "batch_size must be positive"
  | targetConflict =>
    "A capture cannot target a recording file and a CAN-X project at the same time."
  | invalidProject => "The capture target is not a valid CAN-X project."
  | finalizationPending =>
    "The previous capture's persistence worker has not finished yet; no new capture can start " ++
      "until its outcome is settled."

def openFailed (message : String) : RecorderFailure := ⟨"recorder.open_failed", message, false⟩

def backpressure (message : String) : RecorderFailure := ⟨"recorder.backpressure", message, false⟩

def writeFailed (message : String) : RecorderFailure := ⟨"recorder.write_failed", message, false⟩

def flushFailed (message : String) : RecorderFailure := ⟨"recorder.flush_failed", message, false⟩

def drainTimedOut : RecorderFailure :=
  ⟨"recorder.cleanup_timeout", "Archive drain exceeded its cleanup deadline", false⟩

def closeTimedOut : RecorderFailure :=
  ⟨"recorder.cleanup_timeout", "Recorder close exceeded its cleanup deadline", false⟩

namespace RuntimeService

/-- A new service: nothing captured, nothing recorded. -/
def start (cleanupTimeout : Seconds) (timed : 0 < cleanupTimeout) : RuntimeService where
  recorders := []
  recorder := .msgpack
  lastProjectRecorder := none
  msgpackFailure := none
  pipeline := none
  archiveSubscriber := false
  streamSubscriber := none
  archiveTask := .absent
  streamTask := .absent
  cleanup := none
  settlement := none
  captureState := .idle
  failure := none
  totals := .zero
  metrics := .zero
  lifecycle := .idle
  cleanupTimeout
  timed

def hasSession (service : RuntimeService) : Bool := service.pipeline.isSome

/-- A recorder that was opened, if the index is one. -/
def lookup (service : RuntimeService) (index : Option ℕ) : Option Recording :=
  index.bind (service.recorders[·]?)

def finalizationOutstanding (service : RuntimeService) : Bool :=
  service.settlement.isSome ||
    (service.lookup service.lastProjectRecorder).any (·.recorder.finalizationPending)

/-- The frames of the capture in progress. -/
def counts (service : RuntimeService) : FrameCounts where
  generated := service.pipeline.elim 0 (·.generatedFrames)
  captured := service.pipeline.elim 0 (·.capturedFrames)
  dropped := service.streamSubscriber.getD 0

/-- One step of one recorder. -/
def drive (service : RuntimeService) (index : ℕ) (event : Event) : Option RuntimeService := do
  let recording ← service.recorders[index]?
  let (moved, _) ← recording.step event
  pure { service with recorders := service.recorders.set index moved }

/-- `recorder.fail` of a recorder that was opened. -/
def failAt (service : RuntimeService) (index : ℕ) (failure : RecorderFailure) : RuntimeService :=
  (service.drive index (.report failure)).getD service

/-- `self._recorder.fail`. -/
def failRecorder (service : RuntimeService) (failure : RecorderFailure) : RuntimeService :=
  match service.recorder with
  | .msgpack => { service with msgpackFailure := service.msgpackFailure.or (some failure) }
  | .unopened held => { service with recorder := .unopened (held.or (some failure)) }
  | .project index => service.failAt index failure

/-- `self._recorder.failure`. -/
def recorderFailure (service : RuntimeService) : Option RecorderFailure :=
  match service.recorder with
  | .msgpack => service.msgpackFailure
  | .unopened held => held
  | .project index => (service.recorders[index]?).bind (·.recorder.failure)

def ensureRecorderCleanup (service : RuntimeService) : RuntimeService :=
  { service with cleanup := service.cleanup.or (some .joining) }

/-- A failure that is already held is not replaced, and then nothing happens. -/
def handleRecorderFailure (service : RuntimeService) (failure : RecorderFailure) : RuntimeService :=
  match service.failure with
  | some _ => service
  | none =>
    let failed := service.failRecorder failure
    ensureRecorderCleanup { failed with failure := failed.recorderFailure, captureState := .degraded }

def refusal (service : RuntimeService) (request : CaptureRequest) : Option Refusal :=
  if service.hasSession then some .alreadyRunning
  else if request.batchSize ≤ 0 then some .batchSize
  else if request.projectPath.isSome && request.recordingPath.isSome then some .targetConflict
  else if request.projectPath.isSome && !request.validProject then some .invalidProject
  else if service.finalizationOutstanding then some .finalizationPending
  else none

/-- `_start_capture` up to the start of its recorder. -/
def startCapture (service : RuntimeService) (request : CaptureRequest) : RuntimeService :=
  { service with
    pipeline := some ⟨.absent, 0, 0⟩
    archiveSubscriber := true
    streamSubscriber := some 0
    recorder := if request.projectPath.isSome then .unopened none else .msgpack
    lifecycle := .starting }

/-- The consumers are created as soon as the recorder has started. -/
def recorderStarted (service : RuntimeService) : Option RuntimeService :=
  match service.lifecycle, service.recorder with
  | .starting, .msgpack => some { service with
      msgpackFailure := none, archiveTask := .live, streamTask := .live, lifecycle := .opening }
  | _, _ => none

def projectRecorderStarted (service : RuntimeService) (sessionId : Uuid) (world : World) :
    Option RuntimeService :=
  match service.lifecycle, service.recorder with
  | .starting, .unopened _ => some { service with
      recorders := service.recorders ++ [.started sessionId closeTimedOut world]
      recorder := .project service.recorders.length
      lastProjectRecorder := some service.recorders.length
      archiveTask := .live, streamTask := .live, lifecycle := .opening }
  | _, _ => none

/-- An exception of `_start_capture` up to the cancelled consumers. -/
def startRaised (service : RuntimeService) (message : String) : RuntimeService :=
  { service.handleRecorderFailure (openFailed message) with lifecycle := .aborting }

def pipelineStarted (service : RuntimeService) : Option RuntimeService :=
  match service.lifecycle, service.pipeline with
  | .opening, some pipeline => some { service with
      pipeline := some { pipeline with task := .running }
      failure := none, captureState := .running, lifecycle := .idle }
  | _, _ => none

/-- The cancelled consumers have ended, and the capture is dropped. -/
def consumersCancelled (service : RuntimeService) : RuntimeService :=
  ensureRecorderCleanup { service with
    archiveTask := .absent, streamTask := .absent, pipeline := none
    archiveSubscriber := false, streamSubscriber := none
    captureState := .failed, lifecycle := .abortCleanup }

def abortFinished (service : RuntimeService) : RuntimeService :=
  { service with cleanup := none, lifecycle := .idle }

/-- `_stop_capture` up to `pipeline.stop`. -/
def stopCapture (service : RuntimeService) : RuntimeService :=
  if service.hasSession then
    { service with
      captureState := if service.failure = none then .finalizing else service.captureState
      lifecycle := .stopping }
  else service

/-- `pipeline.stop()` raises what its task or the adapter raised. -/
def CapturePipeline.stopRaises (pipeline : CapturePipeline) (closeRaised : Bool) : Bool :=
  match pipeline.task with
  | .absent => false
  | .running => closeRaised
  | .failed => true

/-- An answer of a step. -/
inductive Answer where
  | silent
  | refused (refusal : Refusal)
  | raised
  | fault (fault : MetricsFault)
  | snapshot (counts : FrameCounts)
  deriving DecidableEq

/-- From the end of `pipeline.stop` to the wait for the consumers. -/
def pipelineStopped (service : RuntimeService) (closeRaised : Bool) :
    Option (RuntimeService × Answer) :=
  match service.lifecycle, service.pipeline with
  | .stopping, some pipeline =>
    let stopped := { service with pipeline := some { pipeline with task := .absent } }
    if CapturePipeline.stopRaises pipeline closeRaised then
      some ({ stopped with lifecycle := .idle }, .raised)
    else
      match syncCounters (service.totals.add service.counts) service.metrics with
      | (metrics, .error fault) => some ({ stopped with metrics, lifecycle := .idle }, .fault fault)
      | (metrics, .ok ()) => some ({ stopped with
          metrics, totals := service.totals.add service.counts, lifecycle := .draining }, .silent)
  | _, _ => none

def consumersLive (service : RuntimeService) : Bool :=
  service.archiveTask = .live || service.streamTask = .live

def ConsumerTask.cancelled : ConsumerTask → ConsumerTask
  | .live => .done
  | task => task

/-- The consumers have drained their queues, or were cancelled at the deadline. -/
def drained (service : RuntimeService) (timedOut : Bool) : Option RuntimeService :=
  if service.lifecycle = .draining ∧ service.consumersLive = timedOut then
    let ended := { service with
      archiveTask := ConsumerTask.cancelled service.archiveTask
      streamTask := ConsumerTask.cancelled service.streamTask
      lifecycle := .stopCleanup }
    some (ensureRecorderCleanup (if timedOut then ended.handleRecorderFailure drainTimedOut else ended))
  else none

/-- The rest of `_stop_capture`. -/
def stopFinished (service : RuntimeService) : RuntimeService :=
  { service with
    cleanup := none, archiveTask := .absent, streamTask := .absent, pipeline := none
    archiveSubscriber := false, streamSubscriber := none
    captureState :=
      if service.failure ≠ none then .failed
      else if service.finalizationOutstanding then .finalizing
      else .idle
    lifecycle := .idle }

/-- The capture loop has counted more frames. -/
def captured (service : RuntimeService) (more : FrameCounts) : Option RuntimeService :=
  match service.pipeline with
  | some ⟨.running, generated, captured⟩ => some { service with
      pipeline := some ⟨.running, generated + more.generated, captured + more.captured⟩
      streamSubscriber := service.streamSubscriber.map (· + more.dropped) }
  | _ => none

def captureFailed (service : RuntimeService) : Option RuntimeService :=
  match service.pipeline with
  | some pipeline =>
    if pipeline.task = .running then
      some { service with pipeline := some { pipeline with task := .failed } }
    else none
  | none => none

/-- Frames reach the consumers from the first of the capture to the drained queues. -/
def publishing (service : RuntimeService) : Bool :=
  service.pipeline.isSome &&
    (service.lifecycle = .idle || service.lifecycle = .stopping || service.lifecycle = .draining)

/-- An exception in `_run_consumer`; only the stream tracks gaps. -/
def consumerFailed (service : RuntimeService) (stream : Bool) (message : String) :
    Option RuntimeService :=
  let handled := service.handleRecorderFailure (writeFailed message)
  if service.publishing = false then none
  else if stream then
    if service.streamTask = .live then
      some { handled with captureState := .failed, streamTask := .done }
    else none
  else if service.archiveTask = .live then some { handled with archiveTask := .done }
  else none

def consumerEnded (service : RuntimeService) (stream : Bool) : RuntimeService :=
  if stream then { service with streamTask := ConsumerTask.cancelled service.streamTask }
  else { service with archiveTask := ConsumerTask.cancelled service.archiveTask }

/-- `_cleanup_recorder` up to its wait for `recorder.stop()`. -/
def cleanupJoined (service : RuntimeService) (reading : Seconds) : Option RuntimeService :=
  if service.cleanup = some .joining ∧ service.archiveTask ≠ .live then
    match service.recorder with
    | .project index => do
      let armed ← service.drive index (.armStopDeadline service.cleanupTimeout reading)
      let stopping ← armed.drive index .stop
      pure { stopping with cleanup := some .awaitingStop }
    | _ => some { service with cleanup := some .awaitingStop }
  else none

/-- `recorder.stop()` returned, or raised. -/
def stopEnded (service : RuntimeService) : Option RuntimeService :=
  if service.cleanup = some .awaitingStop then
    match service.recorder with
    | .project index => do
      let returned ← service.drive index .returnStop
      pure { returned with cleanup := some .done }
    | _ => some { service with cleanup := some .done }
  else none

def cleanupRaised (service : RuntimeService) (message : String) : Option RuntimeService := do
  let ended ← service.stopEnded
  pure (ended.handleRecorderFailure (flushFailed message))

/-- A project recorder is asked for its outcome, which keeps the event loop until it
answers. -/
def cleanupTimedOut (service : RuntimeService) : Option RuntimeService :=
  if service.cleanup = some .awaitingStop then
    match service.recorder with
    | .project index => do
      let abandoned ← service.drive index .abandonStop
      let closing ← abandoned.drive index .closeFinalizationGate
      pure { closing with cleanup := some .closingGate }
    | .msgpack => some ({ service with cleanup := some .done }.handleRecorderFailure closeTimedOut)
    | .unopened _ => none
  else none

/-- The event loop inside `close_finalization_gate`. -/
def gateStep (service : RuntimeService) (event : Event) : Option RuntimeService :=
  match service.cleanup, service.recorder with
  | some .closingGate, .project index => service.drive index event
  | _, _ => none

/-- `acquire(timeout=grace_seconds)` gives up only on a lock that is held. -/
def gateExpired (service : RuntimeService) : Option RuntimeService :=
  match service.recorder with
  | .project index =>
    if (service.recorders[index]?).any (·.worker.holdsTerminal) then service.gateStep .gateTimeout
    else none
  | _ => none

def beginPendingFinalization (service : RuntimeService) (index : ℕ) : RuntimeService :=
  { service with
    captureState := .finalizing
    settlement := service.settlement.or (some index) }

/-- The rest of `_handle_recorder_timeout`. -/
def gateReturned (service : RuntimeService) : Option RuntimeService :=
  match service.cleanup, service.recorder with
  | some .closingGate, .project index =>
    let ended := { service with cleanup := some .done }
    match (service.recorders[index]?).map Recording.owner with
    | some (Owner.returned .completed) => some ended
    | some (Owner.returned .pending) => some (ended.beginPendingFinalization index)
    | some (Owner.returned .failed) => some (ended.handleRecorderFailure closeTimedOut)
    | _ => none
  | _, _ => none

/-- `self._last_project_recorder or self._recorder`. -/
def failLast (service : RuntimeService) (failure : RecorderFailure) : RuntimeService :=
  match service.lastProjectRecorder with
  | some index => service.failAt index failure
  | none => service.failRecorder failure

def lastFailure (service : RuntimeService) : Option RecorderFailure :=
  match service.lastProjectRecorder with
  | some index => (service.recorders[index]?).bind (·.recorder.failure)
  | none => service.recorderFailure

def publishPendingFinalizationFailure (service : RuntimeService) : RuntimeService :=
  match service.failure with
  | some _ => { service with captureState := .failed }
  | none =>
    let failed := service.failLast closeTimedOut
    { failed with failure := failed.lastFailure, captureState := .failed }

/-- The settlement task once the worker it waits for has settled. -/
def settlementWoke (service : RuntimeService) : Option RuntimeService :=
  match service.lookup service.settlement with
  | some recording =>
    if recording.recorder.finalizationSettled then
      let woken := { service with settlement := none }
      match recording.recorder.finalizationOutcome with
      | .completed =>
        some (if service.failure = none then { woken with captureState := .idle } else woken)
      | _ => some woken.publishPendingFinalizationFailure
    else none
  | none => none

def metricsSnapshot (service : RuntimeService) : RuntimeService × Answer :=
  let sync := if service.hasSession then syncCounters else syncSubscriberDrops
  match sync (service.totals.add service.counts) service.metrics with
  | (metrics, .error fault) => ({ service with metrics }, .fault fault)
  | (metrics, .ok ()) => ({ service with metrics }, .snapshot metrics)

end RuntimeService

/-- What happens next. A call of `start_capture` or `stop_capture` is taken up when the
lifecycle lock is free; a caller's cancellation lands at the awaits of a startup. -/
inductive ServiceEvent where
  | startCapture (request : CaptureRequest)
  | recorderStarted
  | projectRecorderStarted (sessionId : Uuid) (world : World) (registered : Started sessionId world)
  | recorderStartRaised (message : String)
  | pipelineStarted
  | pipelineStartRaised (message : String)
  | consumersCancelled
  | abortFinished
  | stopCapture
  | pipelineStopped (closeRaised : Bool)
  | drained (timedOut : Bool)
  | stopFinished
  | captured (more : FrameCounts)
  | captureFailed
  | subscriberFailed (message : String)
  | consumerFailed (stream : Bool) (message : String)
  | consumerEnded (stream : Bool)
  | publishArchive (batch : FrameBatch)
  | cleanupJoined (reading : Seconds)
  | cleanupReturned
  | cleanupRaised (message : String)
  | cleanupTimedOut
  | gateStep
  | gateExpired
  | gateReturned
  | settlementWoke
  | recorderThread (index : ℕ) (event : Event)
  | metricsSnapshot

/-- What goes on while the event loop is inside `close_finalization_gate`. -/
def ServiceEvent.offLoop : ServiceEvent → Bool
  | gateStep | gateExpired | gateReturned | recorderThread _ _ => true
  | _ => false

namespace RuntimeService

def silent (next : Option RuntimeService) : Option (RuntimeService × Answer) :=
  next.map (·, .silent)

/-- A step that is taken in one place of the lifecycle only. -/
def within (service : RuntimeService) (place : Lifecycle) (next : RuntimeService) :
    Option RuntimeService :=
  if service.lifecycle = place then some next else none

def respond (service : RuntimeService) : ServiceEvent → Option (RuntimeService × Answer)
  | .startCapture request =>
    match service.refusal request with
    | some refusal => (service.within .idle service).map (·, .refused refusal)
    | none => silent (service.within .idle (service.startCapture request))
  | .recorderStarted => silent service.recorderStarted
  | .projectRecorderStarted sessionId world _ =>
    silent (service.projectRecorderStarted sessionId world)
  | .recorderStartRaised message => silent (service.within .starting (service.startRaised message))
  | .pipelineStarted => silent service.pipelineStarted
  | .pipelineStartRaised message => silent (service.within .opening (service.startRaised message))
  | .consumersCancelled => silent (service.within .aborting service.consumersCancelled)
  | .abortFinished =>
    if service.cleanup = some .done then
      (service.within .abortCleanup service.abortFinished).map (·, .raised)
    else none
  | .stopCapture => silent (service.within .idle service.stopCapture)
  | .pipelineStopped closeRaised => service.pipelineStopped closeRaised
  | .drained timedOut => silent (service.drained timedOut)
  | .stopFinished =>
    if service.cleanup = some .done then
      silent (service.within .stopCleanup service.stopFinished)
    else none
  | .captured more => silent (service.captured more)
  | .captureFailed => silent service.captureFailed
  | .subscriberFailed message =>
    if service.pipeline.any (·.task = .running) then
      some (service.handleRecorderFailure (backpressure message), .silent)
    else none
  | .consumerFailed stream message => silent (service.consumerFailed stream message)
  | .consumerEnded stream => some (service.consumerEnded stream, .silent)
  | .publishArchive batch =>
    match service.recorder with
    | .project index =>
      if service.publishing ∧ service.archiveTask = .live then
        silent (service.drive index (.append batch))
      else none
    | _ => none
  | .cleanupJoined reading => silent (service.cleanupJoined reading)
  | .cleanupReturned => silent service.stopEnded
  | .cleanupRaised message => silent (service.cleanupRaised message)
  | .cleanupTimedOut => silent service.cleanupTimedOut
  | .gateStep => silent (service.gateStep .own)
  | .gateExpired => silent service.gateExpired
  | .gateReturned => silent service.gateReturned
  | .settlementWoke => silent service.settlementWoke
  | .recorderThread index event =>
    if event.byThread then silent (service.drive index event) else none
  | .metricsSnapshot => some service.metricsSnapshot

def step (service : RuntimeService) (event : ServiceEvent) : Option (RuntimeService × Answer) :=
  if service.cleanup = some .closingGate ∧ event.offLoop = false then none
  else service.respond event

end RuntimeService

def sampleService : RuntimeService := .start 1 (by decide +kernel)

/-- A capture with no recording target. -/
def plainRequest : CaptureRequest := ⟨1, none, none, true⟩

def projectRequest : CaptureRequest := ⟨1, none, some "project", true⟩

/-- A startup up to its opened project recorder. -/
def openedProject : List ServiceEvent :=
  [.startCapture projectRequest, .projectRecorderStarted sampleSessionId (sampleWorld 1 Nat.one_pos)
    (sampleWorld_started 1 (by decide))]

/-- The states of the sessions that the service's recorders have opened. -/
def rowsSeen (service : RuntimeService) : List (Option DataSessionState) :=
  service.recorders.map fun state => sessionState state.sessionId state.world.database

end CanX.Runtime
