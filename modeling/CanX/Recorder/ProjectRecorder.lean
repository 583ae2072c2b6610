import CanX.Data.Writer

/-! `ProjectRecorder`: the object, and the threads that run over it. The owner is the
event loop; an append and the finalization run on worker threads; a helper thread
settles the row once the owner has closed the gate. Every attribute access that
another thread can observe is a step of its own. -/

namespace CanX.Recorder

open Domain Data Transition

inductive RecorderState where
  | idle
  | recording
  | stopped
  | failed
  deriving DecidableEq

structure RecorderFailure where
  code : String
  message : String
  recoverable : Bool
  deriving DecidableEq

inductive FinalizationOutcome where
  | completed
  | failed
  | pending
  deriving DecidableEq

def terminalGraceSeconds : Seconds := 1 / 4

/-- The attributes of a recorder. `attached` is whether `_writer` is set. -/
structure ProjectRecorder where
  state : RecorderState
  recordedFrames : Nat
  failure : Option RecorderFailure
  attached : Bool
  lastSequence : Option Nat
  deadline : Option Seconds
  completed : Bool
  finalizationInFlight : Bool
  finalizationStarted : Bool
  finalizationSettled : Bool
  deriving DecidableEq

namespace ProjectRecorder

def finalizationPending (recorder : ProjectRecorder) : Bool :=
  recorder.finalizationInFlight && !recorder.finalizationSettled

def finalizationOutcome (recorder : ProjectRecorder) : FinalizationOutcome :=
  if recorder.finalizationInFlight || !recorder.finalizationStarted then .pending
  else if recorder.completed then .completed
  else .failed

/-- Retain the first diagnostic. -/
def fail (failure : RecorderFailure) (recorder : ProjectRecorder) : ProjectRecorder :=
  { recorder with failure := recorder.failure.or (some failure), state := .failed }

/-- The attributes `start` leaves behind. -/
def started : ProjectRecorder where
  state := .recording
  recordedFrames := 0
  failure := none
  attached := true
  lastSequence := none
  deadline := none
  completed := false
  finalizationInFlight := false
  finalizationStarted := false
  finalizationSettled := true

/-- `self._writer = None` once `stop` no longer waits. -/
def detach (recorder : ProjectRecorder) : ProjectRecorder :=
  { recorder with attached := false, lastSequence := none }

def continues (recorder : ProjectRecorder) (batch : FrameBatch) : Bool :=
  match recorder.lastSequence with
  | none => true
  | some previous => batch.firstSequence = previous + 1

end ProjectRecorder

def sequenceGap : RecorderFailure :=
  ⟨"recorder.sequence_gap", "The batch does not continue this recording's sequence; frames were " ++
    "lost before reaching the recorder.", false⟩

def stopDeadlineExceeded : RecorderFailure :=
  ⟨"recorder.stop_deadline_exceeded",
    "The session was not completed inside the allowed stop budget.", false⟩

/-- `_diagnose_finalize_failure`. -/
def finalizeFailure (error : DataError) : RecorderFailure :=
  ⟨"recorder.finalize_failed", if error.message = "" then
    "the data session could not be finalized" else error.message, false⟩

/-- The thread of one `append`: waiting for the writer lock, then holding it. -/
inductive Appender where
  | idle
  | waiting (batch : FrameBatch)
  | appending (batch : FrameBatch) (rest : DataProgram Unit)

/-- Where the thread of `_finish_serially` is. -/
inductive Worker where
  | absent
  | queued
  | cancelled
  | checkFailure
  | awaitFlush
  | flushing (rest : DataProgram Unit)
  | diagnoseFlush (error : DataError)
  | awaitTerminal
  | gateFailure
  | gateDeadline
  | gateClock (deadline : Seconds)
  | awaitCommit
  | committing (rest : DataProgram DataSession)
  | diagnoseCommit (error : DataError)
  | recordCompleted
  | readCompleted
  | setStopped
  | reportDeadline
  | setFailed
  | awaitFail
  | failing (rest : DataProgram Bool)
  | releaseTerminal
  | clearInFlight
  | setSettled
  | finished

/-- What cancelling the wait does to the thread: one the executor has not started never
runs, a running one goes on. -/
def Worker.abandoned : Worker → Worker
  | queued => cancelled
  | worker => worker

/-- Where the owner is between `start` and the answer of `close_finalization_gate`. -/
inductive Owner where
  | recording
  | stopping
  | stopped
  | gateWaiting
  | gateReading
  | gateClosing
  | gateReleasing
  | settling
  | joining
  | readVerdict
  | reporting
  | returned (outcome : FinalizationOutcome)
  deriving DecidableEq

/-- The helper thread of `_settle_durable_state`. -/
inductive Settler where
  | absent
  | running (rest : DataProgram DataSession)
  | finished

def Appender.holdsLock : Appender → Bool
  | appending _ _ => true
  | _ => false

def Worker.holdsLock : Worker → Bool
  | flushing _ | committing _ | failing _ => true
  | _ => false

def Worker.holdsTerminal : Worker → Bool
  | gateFailure | gateDeadline | gateClock _ | awaitCommit | committing _ | diagnoseCommit _
  | recordCompleted | readCompleted | setStopped | reportDeadline | setFailed | awaitFail
  | failing _ | releaseTerminal => true
  | _ => false

def Owner.holdsTerminal : Owner → Bool
  | gateReading | gateClosing | gateReleasing => true
  | _ => false

/-- One recorder from the return of `start` on. `verdict` is the list cell the settle
thread writes, `diagnosis` what the owner passes to `close_finalization_gate`. -/
structure Recording where
  sessionId : Uuid
  diagnosis : RecorderFailure
  world : World
  recorder : ProjectRecorder
  appender : Appender
  worker : Worker
  owner : Owner
  settler : Settler
  verdict : Option DataSessionState
  others : List (DataProgram Unit)

/-- `_lock` is held by the thread inside its `with` block. -/
def Recording.lockFree (state : Recording) : Bool :=
  !state.appender.holdsLock && !state.worker.holdsLock

def settleDurableState (sessionId : Uuid) : DataProgram DataSession := do
  let _ ← serviceFailActiveSession sessionId
  serviceGetSession sessionId

end CanX.Recorder
