import Mathlib.Data.List.Basic

/-! The process of the Runtime as the desktop owns it: its lifecycle, rewritten at every status query from what the
child and the health probe answer. -/

namespace CanX.Desktop

/-- `ExitStatus.code()`, which is missing for a child that a signal ended. -/
abbrev ExitCode := Option Int

inductive LifecycleState
  | unavailable
  | starting
  | ready
  | stopping
  | stopped
  | failed (exitCode : ExitCode)
  deriving DecidableEq

/-- `RuntimeLifecycle`. -/
structure SidecarLifecycle where
  state : LifecycleState
  deriving DecidableEq

namespace SidecarLifecycle

def new : SidecarLifecycle := ⟨.unavailable⟩

def onSpawned (_ : SidecarLifecycle) : SidecarLifecycle := ⟨.starting⟩

def onReady (_ : SidecarLifecycle) : SidecarLifecycle := ⟨.ready⟩

def beginShutdown (_ : SidecarLifecycle) : SidecarLifecycle := ⟨.stopping⟩

def onChildExit (lifecycle : SidecarLifecycle) (exitCode : ExitCode) : SidecarLifecycle :=
  if lifecycle.state = .stopping ∧ exitCode = some 0 then ⟨.stopped⟩ else ⟨.failed exitCode⟩

end SidecarLifecycle

section Errors

structure SidecarError where
  code : String
  message : String
  recoverable : Bool
  deriving DecidableEq

def processError (error : String) : SidecarError := ⟨"runtime.process_error", error, true⟩

def networkError (error : String) : SidecarError := ⟨"runtime.network_error", error, true⟩

/-- `{code:?}`. -/
def debugCode : ExitCode → String
  | some code => "Some(" ++ toString code ++ ")"
  | none => "None"

def exitedDuringStartup (exitCode : ExitCode) : SidecarError :=
  ⟨"runtime.exited_during_startup", "Runtime exited during startup with code " ++ debugCode exitCode ++ ".", true⟩

def startupTimeout (timeout : String) : SidecarError :=
  ⟨"runtime.startup_timeout", "Runtime was not healthy within " ++ timeout ++ ".", true⟩

def shutdownRejected (status : Nat) : SidecarError :=
  ⟨"runtime.shutdown_rejected", "Runtime rejected shutdown with HTTP " ++ toString status ++ ".", true⟩

def shutdownFailed (exitCode : ExitCode) : SidecarError :=
  ⟨"runtime.shutdown_failed", "Runtime exited with code " ++ debugCode exitCode ++ ".", true⟩

def shutdownTimeout (timeout : String) : SidecarError :=
  ⟨"runtime.shutdown_timeout", "Runtime required forced termination after " ++ timeout ++ ".", true⟩

end Errors

section World

/-- One status query: the child may exit just before it, the query may fail, and the probe may find a healthy
Runtime. -/
structure StatusMoment where
  exit : Option ExitCode
  failure : Option String
  healthy : Bool

/-- The answer to the shutdown request, before which the child may exit. -/
structure ShutdownAnswer where
  exit : Option ExitCode
  status : Except String Nat

/-- Ending the child by force, where the child may have exited by itself just before. -/
structure ForcedEnd where
  exit : Option ExitCode
  killFailure : Option String
  killed : ExitCode
  waitFailure : Option String

/-- What happens to a sidecar, and what its status queries find: the state before and after an answered one. -/
inductive SidecarEvent
  | exited (exitCode : ExitCode)
  | began
  | accepted
  /-- An accepted shutdown returns, and no status query of it failed. -/
  | concluded
  | polled (found : Option ExitCode) (healthy : Bool) (before after : LifecycleState)
  /-- The shutdown itself sees the exit. -/
  | settled (exitCode : ExitCode) (before after : LifecycleState)
  deriving DecidableEq

end World

/-- The child, with its exit code once it has exited, and the state that is kept of it. -/
structure RuntimeSidecar where
  child : Option ExitCode
  lifecycle : SidecarLifecycle
  deriving DecidableEq

namespace RuntimeSidecar

def spawned : RuntimeSidecar := ⟨none, SidecarLifecycle.new.onSpawned⟩

def state (sidecar : RuntimeSidecar) : LifecycleState := sidecar.lifecycle.state

/-- The child may exit, if it still runs. -/
def exits (sidecar : RuntimeSidecar) (exit : Option ExitCode) : RuntimeSidecar × List SidecarEvent :=
  match sidecar.child, exit with
  | none, some exitCode => ({ sidecar with child := some exitCode }, [.exited exitCode])
  | _, _ => (sidecar, [])

def pollStatus (sidecar : RuntimeSidecar) (moment : StatusMoment) :
    Except SidecarError LifecycleState × RuntimeSidecar × List SidecarEvent :=
  let (asked, events) := sidecar.exits moment.exit
  match moment.failure with
  | some error => (.error (processError error), asked, events)
  | none =>
    let lifecycle :=
      match asked.child with
      | some exitCode => asked.lifecycle.onChildExit exitCode
      | none => if moment.healthy then asked.lifecycle.onReady else asked.lifecycle
    (.ok lifecycle.state, { asked with lifecycle },
      events ++ [.polled asked.child moment.healthy asked.state lifecycle.state])

/-- `wait_until_ready`, with one moment for each round before the deadline. -/
def waitUntilReady (timeout : String) : List StatusMoment → RuntimeSidecar →
    Except SidecarError Unit × RuntimeSidecar × List SidecarEvent
  | [], sidecar => (.error (startupTimeout timeout), sidecar, [])
  | moment :: rest, sidecar =>
    match sidecar.pollStatus moment with
    | (.error error, polled, events) => (.error error, polled, events)
    | (.ok .ready, polled, events) => (.ok (), polled, events)
    | (.ok (.failed exitCode), polled, events) => (.error (exitedDuringStartup exitCode), polled, events)
    | (.ok _, polled, events) =>
      let (result, waited, more) := waitUntilReady timeout rest polled
      (result, waited, events ++ more)

/-- The exit of the child, as the shutdown sees it. -/
def settle (sidecar : RuntimeSidecar) (exitCode : ExitCode) : RuntimeSidecar × List SidecarEvent :=
  let lifecycle := sidecar.lifecycle.onChildExit exitCode
  ({ sidecar with lifecycle }, [.settled exitCode sidecar.state lifecycle.state, .concluded])

/-- Kill the child, and wait for it. -/
def terminate (timeout : String) (forced : ForcedEnd) (sidecar : RuntimeSidecar) :
    Except SidecarError Unit × RuntimeSidecar × List SidecarEvent :=
  let (asked, events) := sidecar.exits forced.exit
  match forced.killFailure with
  | some error => (.error (processError error), asked, events ++ [.concluded])
  | none =>
    let (ended, more) := asked.exits (some forced.killed)
    match forced.waitFailure with
    | some error => (.error (processError error), ended, events ++ more)
    | none =>
      let (settled, last) := ended.settle (ended.child.getD forced.killed)
      (.error (shutdownTimeout timeout), settled, events ++ more ++ last)

/-- The rounds of a shutdown before its deadline. -/
def awaitExit (timeout : String) (forced : ForcedEnd) : List StatusMoment → RuntimeSidecar →
    Except SidecarError Unit × RuntimeSidecar × List SidecarEvent
  | [], sidecar => sidecar.terminate timeout forced
  | moment :: rest, sidecar =>
    let (asked, events) := sidecar.exits moment.exit
    match moment.failure with
    | some error => (.error (processError error), asked, events)
    | none =>
      match asked.child with
      | some exitCode =>
        let (settled, last) := asked.settle exitCode
        (if settled.state = .stopped then .ok () else .error (shutdownFailed exitCode), settled, events ++ last)
      | none =>
        let (result, waited, more) := awaitExit timeout forced rest asked
        (result, waited, events ++ more)

def shutdown (timeout : String) (answer : ShutdownAnswer) (moments : List StatusMoment) (forced : ForcedEnd)
    (sidecar : RuntimeSidecar) : Except SidecarError Unit × RuntimeSidecar × List SidecarEvent :=
  let begun := { sidecar with lifecycle := sidecar.lifecycle.beginShutdown }
  let (asked, events) := begun.exits answer.exit
  match answer.status with
  | .error error => (.error (networkError error), asked, .began :: events)
  | .ok status =>
    if status ≠ 202 then (.error (shutdownRejected status), asked, .began :: events)
    else
      let (result, ended, more) := asked.awaitExit timeout forced moments
      (result, ended, .began :: events ++ .accepted :: more)

end RuntimeSidecar

section Runs

/-- What happens next: the child exits, or the desktop calls. -/
inductive SidecarCall
  | childExits (exitCode : ExitCode)
  | pollStatus (moment : StatusMoment)
  | waitUntilReady (timeout : String) (moments : List StatusMoment)
  | shutdown (timeout : String) (answer : ShutdownAnswer) (moments : List StatusMoment) (forced : ForcedEnd)

namespace RuntimeSidecar

def perform (sidecar : RuntimeSidecar) : SidecarCall → RuntimeSidecar × List SidecarEvent
  | .childExits exitCode => sidecar.exits (some exitCode)
  | .pollStatus moment => (sidecar.pollStatus moment).2
  | .waitUntilReady timeout moments => (waitUntilReady timeout moments sidecar).2
  | .shutdown timeout answer moments forced => (shutdown timeout answer moments forced sidecar).2

/-- The events of a list of calls. -/
def history (sidecar : RuntimeSidecar) : List SidecarCall → List SidecarEvent
  | [] => []
  | call :: rest => (sidecar.perform call).2 ++ (sidecar.perform call).1.history rest

end RuntimeSidecar

end Runs

end CanX.Desktop
