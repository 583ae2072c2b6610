import CanX.Transition.Path

/-! The capture lifecycle of a workspace: one start or stop at a time reconciles what is
wanted with the phase, while intent may change at every notification and at every await. -/

namespace CanX.Desktop

open Transition

inductive CapturePhase
  | idle | starting | owned | observed | stopping | failed
  deriving DecidableEq

structure CaptureLifecycleState where
  phase : CapturePhase
  wanted : Bool
  failureCode : Option String
  deriving DecidableEq

def captureFailureCode : String := "capture.lifecycle_failed"

def CaptureLifecycleState.idleState : CaptureLifecycleState := ⟨.idle, false, none⟩

/-- What a call was rejected with, as far as it is read: its `code`, if that is a string. -/
structure Cause where
  code : Option String

def failureCodeOf (cause : Cause) : String :=
  match cause.code with
  | some code => if code = "" then captureFailureCode else code
  | none => captureFailureCode

/-- Where `#run` stands: not running, at the head of its loop, before a call, or awaiting one. -/
inductive RunPosition
  | returned | deciding | startDue | awaitingStart | stopDue | awaitingStop
  deriving DecidableEq

/-- `notifying` holds while the listeners of the last `#set` are being told of it. -/
structure CaptureLifecycle where
  state : CaptureLifecycleState
  wanted : Bool
  pumping : Bool
  position : RunPosition
  notifying : Bool
  deriving DecidableEq

inductive CaptureLifecycleLabel
  | acquire | release
  | notified | decide
  | callStart | started (owned : Bool) | startRejected (cause : Cause)
  | callStop | stopped | stopRejected (cause : Cause)

namespace CaptureLifecycle

def new : CaptureLifecycle := ⟨.idleState, false, false, .returned, false⟩

/-- Listeners are told only of a change. -/
def set (lifecycle : CaptureLifecycle) (phase : CapturePhase) (failureCode : Option String) :
    CaptureLifecycle :=
  let next : CaptureLifecycleState := ⟨phase, lifecycle.wanted, failureCode⟩
  { lifecycle with state := next, notifying := decide (next ≠ lifecycle.state) }

def pump (lifecycle : CaptureLifecycle) : CaptureLifecycle :=
  if lifecycle.pumping then lifecycle else { lifecycle with pumping := true, position := .deciding }

def intend (lifecycle : CaptureLifecycle) (wanted : Bool) : CaptureLifecycle :=
  { lifecycle with wanted }.pump

/-- One round of the loop, up to its first await or call. -/
def reconcile (lifecycle : CaptureLifecycle) : CaptureLifecycle × Option CapturePhase :=
  if lifecycle.wanted = true ∧ lifecycle.state.phase = .idle then
    ({ lifecycle.set .starting none with position := .startDue }, some .starting)
  else if lifecycle.wanted = false ∧ lifecycle.state.phase = .owned then
    ({ lifecycle.set .stopping none with position := .stopDue }, some .stopping)
  else if lifecycle.wanted = false ∧ lifecycle.state.phase = .observed then
    ({ lifecycle.set .idle none with position := .deciding }, some .idle)
  else
    ({ lifecycle with pumping := false, position := .returned }, none)

/-- The continuation of an await. -/
def settle (lifecycle : CaptureLifecycle) (phase : CapturePhase) (failureCode : Option String) :
    CaptureLifecycle × Option CapturePhase :=
  ({ lifecycle.set phase failureCode with position := .deciding }, some phase)

/-- No code of the lifecycle is on the stack. -/
def turnOver (lifecycle : CaptureLifecycle) : Bool :=
  match lifecycle.position with
  | .returned | .awaitingStart | .awaitingStop => true
  | .deciding | .startDue | .stopDue => false

/-- Outside a turn anybody may declare an intent, within one only a listener that is being
notified. A step answers with the phase it entered. -/
def step (lifecycle : CaptureLifecycle) :
    CaptureLifecycleLabel → Option (CaptureLifecycle × Option CapturePhase)
  | .acquire =>
    if lifecycle.turnOver || lifecycle.notifying then some (lifecycle.intend true, none) else none
  | .release =>
    if lifecycle.turnOver || lifecycle.notifying then some (lifecycle.intend false, none) else none
  | .notified =>
    if lifecycle.notifying then some ({ lifecycle with notifying := false }, none) else none
  | .decide =>
    if lifecycle.notifying = false ∧ lifecycle.position = .deciding then some lifecycle.reconcile
    else none
  | .callStart =>
    if lifecycle.notifying = false ∧ lifecycle.position = .startDue then
      some ({ lifecycle with position := .awaitingStart }, none)
    else none
  | .started owned =>
    if lifecycle.position = .awaitingStart then
      some (lifecycle.settle (if owned then .owned else .observed) none)
    else none
  | .startRejected cause =>
    if lifecycle.position = .awaitingStart then
      some (lifecycle.settle .failed (some (failureCodeOf cause)))
    else none
  | .callStop =>
    if lifecycle.notifying = false ∧ lifecycle.position = .stopDue then
      some ({ lifecycle with position := .awaitingStop }, none)
    else none
  | .stopped =>
    if lifecycle.position = .awaitingStop then some (lifecycle.settle .idle none) else none
  | .stopRejected cause =>
    if lifecycle.position = .awaitingStop then
      some (lifecycle.settle .failed (some (failureCodeOf cause)))
    else none

end CaptureLifecycle

/-- Executions record each label with the phase its step entered. -/
abbrev CaptureLifecycleTrace := List (CaptureLifecycleLabel × Option CapturePhase)

end CanX.Desktop
