import CanX.Recorder.ProjectRecorder
import CanX.Transition.Path

/-! The steps of a recorder's owner and threads. An answer of a step is the batch that
an append has accepted, if it has. -/

namespace CanX.Recorder

open Domain Data Transition

/-- What happens next. `work`, `appendStep`, `settle` and `other` carry the
environment's choices for one step of their thread. -/
inductive Event where
  | append (batch : FrameBatch)
  | appendStep (choice : Choice)
  | dropAppend
  | report (failure : RecorderFailure)
  | armStopDeadline (seconds reading : Seconds)
  | stop
  | work (choice : Choice) (reading : Seconds)
  | abandonStop
  | returnStop
  | closeFinalizationGate
  | gateTimeout
  | own
  | settle (choice : Choice)
  | intervene (call : ServiceCall)
  | other (position : Nat) (choice : Choice)

namespace Recording

/-- `append` up to the dispatch of its thread. -/
def append (state : Recording) (batch : FrameBatch) : Option Recording :=
  match state.owner, state.appender with
  | .recording, .idle =>
    if state.recorder.attached = false ∨ state.recorder.state ≠ .recording then none
    else if state.recorder.continues batch then some { state with appender := .waiting batch }
    else some { state with recorder := state.recorder.fail sequenceGap }
  | _, _ => none

/-- What `append` does on the event loop once its thread has returned. -/
def appended (state : Recording) (batch : FrameBatch) : ProjectRecorder :=
  match state.owner with
  | .recording => { state.recorder with
      lastSequence := some batch.lastSequence
      recordedFrames := state.recorder.recordedFrames + batch.frameCount }
  -- an append whose coroutine was cancelled is not waited for
  | _ => state.recorder

/-- `_append_serially`. -/
def appendStep (state : Recording) (choice : Choice) : Option (Recording × Option FrameBatch) :=
  match state.appender with
  | .idle => none
  | .waiting batch =>
    if state.lockFree then
      some ({ state with appender := .appending batch (Data.append batch) }, none)
    else none
  | .appending batch (.finish (.ok _)) =>
    some ({ state with appender := .idle, recorder := state.appended batch }, some batch)
  | .appending _ (.finish (.error _)) => some ({ state with appender := .idle }, none)
  | .appending batch (.perform request next) =>
    let (world, answer) := perform request choice state.world
    some ({ state with world, appender := .appending batch (next answer) }, none)

/-- A cancelled append whose thread had not been started never runs. -/
def dropAppend (state : Recording) : Option Recording :=
  match state.owner, state.appender with
  | .recording, _ => none
  | _, .waiting _ => some { state with appender := .idle }
  | _, _ => none

def armStopDeadline (state : Recording) (seconds reading : Seconds) : Option Recording :=
  match state.owner, state.recorder.deadline with
  | .recording, none =>
    if 0 < seconds then
      some { state with recorder := { state.recorder with deadline := some (reading + seconds) } }
    else none
  | _, _ => none

/-- `stop` up to its await: the worker is handed to the executor. -/
def stop (state : Recording) : Option Recording :=
  match state.owner with
  | .recording => some { state with
      owner := .stopping
      worker := .queued
      recorder := { state.recorder with
        finalizationStarted := true, finalizationInFlight := true
        finalizationSettled := false } }
  | _ => none

/-- The owner's wait is cancelled. -/
def abandonStop (state : Recording) : Option Recording :=
  match state.owner with
  | .stopping => some { state with
      owner := .stopped
      worker := state.worker.abandoned
      recorder := state.recorder.detach }
  | _ => none

def returnStop (state : Recording) : Option Recording :=
  match state.owner, state.worker with
  | .stopping, .finished =>
    some { state with owner := .stopped, recorder := state.recorder.detach }
  | _, _ => none

/-- `_finish_serially` and `_decide_terminally`, one access at a time. -/
def work (state : Recording) (choice : Choice) (reading : Seconds) : Option Recording :=
  match state.worker with
  | .absent | .cancelled | .finished => none
  | .queued => some { state with worker := .checkFailure }
  | .checkFailure => some { state with
      worker := if state.recorder.failure = none then .awaitFlush else .awaitTerminal }
  | .awaitFlush =>
    if state.lockFree then some { state with worker := .flushing flushPending } else none
  | .flushing (.perform request next) =>
    let (world, answer) := perform request choice state.world
    some { state with world, worker := .flushing (next answer) }
  | .flushing (.finish (.error (.data error))) =>
    some { state with worker := .diagnoseFlush error }
  -- any other exception leaves through the `finally` that decides
  | .flushing (.finish _) => some { state with worker := .awaitTerminal }
  | .diagnoseFlush error => some { state with
      recorder := state.recorder.fail (finalizeFailure error), worker := .awaitTerminal }
  | .awaitTerminal =>
    if state.owner.holdsTerminal then none else some { state with worker := .gateFailure }
  | .gateFailure => some { state with
      worker := if state.recorder.failure = none then .gateDeadline else .readCompleted }
  | .gateDeadline => some { state with
      worker := match state.recorder.deadline with
        | none => .awaitCommit
        | some deadline => .gateClock deadline }
  | .gateClock deadline => some { state with
      worker := if reading + terminalGraceSeconds ≤ deadline then .awaitCommit
        else .readCompleted }
  | .awaitCommit =>
    if state.lockFree then some { state with worker := .committing commitCompleted } else none
  | .committing (.perform request next) =>
    let (world, answer) := perform request choice state.world
    some { state with world, worker := .committing (next answer) }
  | .committing (.finish (.ok _)) => some { state with worker := .recordCompleted }
  | .committing (.finish (.error (.data error))) =>
    some { state with worker := .diagnoseCommit error }
  | .committing (.finish (.error _)) => some { state with worker := .releaseTerminal }
  | .diagnoseCommit error => some { state with
      recorder := state.recorder.fail (finalizeFailure error), worker := .readCompleted }
  | .recordCompleted => some { state with
      recorder := { state.recorder with completed := true }, worker := .readCompleted }
  | .readCompleted => some { state with
      worker := if state.recorder.completed then .setStopped else .reportDeadline }
  | .setStopped => some { state with
      recorder := { state.recorder with state := .stopped }, worker := .releaseTerminal }
  | .reportDeadline => some { state with
      recorder := if state.recorder.failure = none then
        state.recorder.fail stopDeadlineExceeded else state.recorder
      worker := .setFailed }
  | .setFailed => some { state with
      recorder := { state.recorder with state := .failed }, worker := .awaitFail }
  | .awaitFail =>
    if state.lockFree then some { state with worker := .failing Data.fail } else none
  | .failing (.perform request next) =>
    let (world, answer) := perform request choice state.world
    some { state with world, worker := .failing (next answer) }
  | .failing (.finish _) => some { state with worker := .releaseTerminal }
  | .releaseTerminal => some { state with worker := .clearInFlight }
  | .clearInFlight => some { state with
      recorder := { state.recorder with finalizationInFlight := false }, worker := .setSettled }
  | .setSettled => some { state with
      recorder := { state.recorder with finalizationSettled := true }, worker := .finished }

def closeFinalizationGate (state : Recording) : Option Recording :=
  match state.owner with
  | .stopped => some { state with owner := .gateWaiting }
  | _ => none

/-- `acquire(timeout=grace_seconds)` gives up. -/
def gateTimeout (state : Recording) : Option Recording :=
  match state.owner with
  | .gateWaiting => some { state with owner := .returned .pending }
  | _ => none

/-- The owner inside `close_finalization_gate` and `_settle_durable_state`. -/
def own (state : Recording) : Option Recording :=
  match state.owner with
  | .gateWaiting =>
    if state.worker.holdsTerminal then none else some { state with owner := .gateReading }
  | .gateReading => some { state with
      owner := if state.recorder.completed then .returned .completed else .gateClosing }
  | .gateClosing => some { state with
      recorder := { state.recorder with deadline := some 0 }, owner := .gateReleasing }
  | .gateReleasing => some { state with owner := .settling }
  | .settling => some { state with
      settler := .running (settleDurableState state.sessionId), owner := .joining }
  -- the join ends with the thread or with its timeout
  | .joining => some { state with owner := .readVerdict }
  | .readVerdict => some { state with
      owner := if state.verdict = some .completed then .returned .completed else .reporting }
  | .reporting => some { state with
      recorder := state.recorder.fail state.diagnosis, owner := .returned .failed }
  | _ => none

def settle (state : Recording) (choice : Choice) : Option Recording :=
  match state.settler with
  | .absent | .finished => none
  | .running (.perform request next) =>
    let (world, answer) := perform request choice state.world
    some { state with world, settler := .running (next answer) }
  | .running (.finish (.ok session)) =>
    some { state with settler := .finished, verdict := some session.state }
  | .running (.finish (.error (.data _))) =>
    some { state with settler := .finished, verdict := none }
  | .running (.finish (.error _)) => some { state with settler := .finished }

def other (state : Recording) (position : Nat) (choice : Choice) : Option Recording :=
  match state.others[position]? with
  | some (.perform request next) =>
    let (world, answer) := perform request choice state.world
    some { state with world, others := state.others.set position (next answer) }
  | _ => none

def silent (next : Option Recording) : Option (Recording × Option FrameBatch) :=
  next.map fun state => (state, none)

def step (state : Recording) : Event → Option (Recording × Option FrameBatch)
  | .append batch => silent (state.append batch)
  | .appendStep choice => state.appendStep choice
  | .dropAppend => silent state.dropAppend
  | .report failure => some ({ state with recorder := state.recorder.fail failure }, none)
  | .armStopDeadline seconds reading => silent (state.armStopDeadline seconds reading)
  | .stop => silent state.stop
  | .work choice reading => silent (state.work choice reading)
  | .abandonStop => silent state.abandonStop
  | .returnStop => silent state.returnStop
  | .closeFinalizationGate => silent state.closeFinalizationGate
  | .gateTimeout => silent state.gateTimeout
  | .own => silent state.own
  | .settle choice => silent (state.settle choice)
  | .intervene call => some ({ state with others := state.others ++ [call.program] }, none)
  | .other position choice => silent (state.other position choice)

/-- A recorder whose `start` has just returned: its session is registered and its
writer is new. -/
def started (sessionId : Uuid) (diagnosis : RecorderFailure) (world : World) : Recording where
  sessionId
  diagnosis
  world
  recorder := .started
  appender := .idle
  worker := .absent
  owner := .recording
  settler := .absent
  verdict := none
  others := []

end Recording

end CanX.Recorder
