import CanX.Desktop.FrameSchema
import CanX.Transition.Path

/-! The realtime pipeline: one socket and one Worker, reopened on a bounded cadence. Listeners
are notified synchronously and may call the store back, so what a method does after it has
notified waits on a stack until the listeners have returned. -/

namespace CanX.Desktop

open Transition

inductive StreamConnection
  | idle | connecting | open | retrying | closed | unsupported
  deriving DecidableEq

def retryDelaysMs : List Nat := [250, 500, 1000, 2000, 4000]

structure RealtimeStreamState where
  connection : StreamConnection
  streamId : Option String
  snapshot : Option FrameViewportSnapshot
  droppedViewFrames : Nat
  sequenceGaps : Nat
  decodeMs : JsNumber
  deriving DecidableEq

def RealtimeStreamState.idleState : RealtimeStreamState := ⟨.idle, none, none, 0, 0, 0⟩

/-- Whether `createWorker` and `createSocket` deliver. -/
structure Supply where
  worker : Bool
  socket : Bool
  deriving DecidableEq

/-- A message of the Worker, as far as the store tells them apart. -/
inductive WorkerMessage
  | viewport (snapshot : FrameViewportSnapshot)
  | error
  | unread

/-- What is left to do of a method when its listeners have been notified. -/
inductive Continuation
  | done
  | install (pair : Nat)
  | schedule
  deriving DecidableEq

/-- A pair is named by the generation it was created under. `live` are the pairs that have not
been closed, `installed` those that carry handlers, `timers` the timeouts that are pending. -/
structure RealtimeStream where
  state : RealtimeStreamState
  listeners : List Nat
  pair : Option Nat
  retryTimer : Option Nat
  generation : Nat
  attempts : Nat
  live : List Nat
  installed : List Nat
  timers : List Nat
  nextTimer : Nat
  stack : List Continuation
  deriving DecidableEq

inductive StreamEvent
  | created | opened | failed | released
  deriving DecidableEq

/-- Calls of the store's methods, events delivered to its handlers, and the return of the
listeners that are being notified. -/
inductive RealtimeStreamLabel
  | subscribe (listener : Nat) (supply : Supply)
  | unsubscribe (listener : Nat)
  | dispose
  | returned
  | socketOpened (pair : Nat)
  | socketMessage (pair : Nat)
  | socketClosed (pair : Nat)
  | socketErrored (pair : Nat)
  | workerMessage (pair : Nat) (message : WorkerMessage)
  | workerErrored (pair : Nat)
  | timerFired (timer : Nat) (supply : Supply)

namespace RealtimeStream

def new : RealtimeStream := ⟨.idleState, [], none, none, 0, 0, [], [], [], 0, []⟩

/-- Attach the handlers of a pair, which remember its generation. -/
def install (store : RealtimeStream) (pair : Nat) : RealtimeStream :=
  { store with installed := store.installed ++ [pair] }

/-- `setTimeout`, with its handle kept. -/
def schedule (store : RealtimeStream) : RealtimeStream :=
  { store with
    retryTimer := some store.nextTimer
    timers := store.timers ++ [store.nextTimer]
    nextTimer := store.nextTimer + 1 }

def resume (store : RealtimeStream) : Continuation → RealtimeStream
  | .done => store
  | .install pair => store.install pair
  | .schedule => store.schedule

/-- Notify the listeners, if there are any, and then continue. -/
def emit (store : RealtimeStream) (continuation : Continuation) : RealtimeStream :=
  if store.listeners.isEmpty then store.resume continuation
  else { store with stack := continuation :: store.stack }

def connect (store : RealtimeStream) (connection : StreamConnection) : RealtimeStream :=
  { store with state := { store.state with connection } }

def closePair (store : RealtimeStream) : RealtimeStream :=
  { store with pair := none, live := store.live.filter fun pair => store.pair ≠ some pair }

/-- `clearTimeout` of the timer whose handle is kept. -/
def clearTimer (store : RealtimeStream) : RealtimeStream :=
  { store with retryTimer := none, timers := store.timers.filter fun timer => store.retryTimer ≠ some timer }

def release (store : RealtimeStream) : RealtimeStream :=
  { store.clearTimer.closePair with generation := store.generation + 1, attempts := 0 }

def dispose (store : RealtimeStream) : RealtimeStream × Option StreamEvent :=
  ({ store.release with state := .idleState }.emit .done, some .released)

/-- A Worker or a socket without the other is released at once. -/
def openPair (store : RealtimeStream) (supply : Supply) : RealtimeStream × Option StreamEvent :=
  let pair := store.generation + 1
  let next := { store with generation := pair }
  if supply.worker && supply.socket then
    (({ next with pair := some pair, live := next.live ++ [pair] }.connect .connecting).emit (.install pair),
      some .created)
  else ((next.connect .unsupported).emit .done, none)

def subscribe (store : RealtimeStream) (listener : Nat) (supply : Supply) :
    RealtimeStream × Option StreamEvent :=
  let next := { store with
    listeners := if listener ∈ store.listeners then store.listeners else store.listeners ++ [listener] }
  if next.state.connection = .idle then { next with attempts := 0 }.openPair supply else (next, none)

def unsubscribe (store : RealtimeStream) (listener : Nat) : RealtimeStream × Option StreamEvent :=
  let next := { store with listeners := store.listeners.filter (· ≠ listener) }
  if next.listeners.isEmpty then next.dispose else (next, none)

/-- `#fail` of the pair of a generation. -/
def fail (store : RealtimeStream) (generation : Nat) : RealtimeStream × Option StreamEvent :=
  if generation ≠ store.generation then (store, none)
  else if store.listeners.isEmpty then (store, none)
  else
    let next := { store.closePair with generation := store.generation + 1 }
    match retryDelaysMs[next.attempts]? with
    | none => ((next.connect .closed).emit .done, some .failed)
    | some _ =>
      (({ next with attempts := next.attempts + 1 }.connect .retrying).emit .schedule, some .failed)

def publish (store : RealtimeStream) (snapshot : FrameViewportSnapshot) : RealtimeStream :=
  let state : RealtimeStreamState :=
    { store.state with
      streamId := snapshot.streamId
      snapshot := some snapshot
      droppedViewFrames := snapshot.droppedViewFrames
      sequenceGaps := snapshot.sequenceGaps
      decodeMs := snapshot.decodeMs }
  { store with state }.emit .done

/-- The handler of a Worker message. -/
def receive (store : RealtimeStream) (pair : Nat) (message : WorkerMessage) :
    RealtimeStream × Option StreamEvent :=
  if pair ≠ store.generation then (store, none)
  else
    match message with
    | .viewport snapshot => (store.publish snapshot, none)
    | .error => store.fail pair
    | .unread => (store, none)

def opened (store : RealtimeStream) (pair : Nat) : RealtimeStream × Option StreamEvent :=
  if pair ≠ store.generation then (store, none)
  else (({ store with attempts := 0 }.connect .open).emit .done, some .opened)

/-- The callback of the retry timer. -/
def retry (store : RealtimeStream) (timer : Nat) (supply : Supply) : RealtimeStream × Option StreamEvent :=
  let next := { store with retryTimer := none, timers := store.timers.filter (· ≠ timer) }
  if next.listeners.isEmpty then (next, none)
  else if next.state.connection = .retrying then next.openPair supply
  else (next, none)

/-- A handler runs when no other code of the store does. -/
def delivers (store : RealtimeStream) (pair : Nat) : Bool :=
  store.stack.isEmpty && store.installed.contains pair

/-- Methods may be called from outside or by a listener that is being notified. A pair may
deliver any event at any time once its handlers are attached, also after it was released. -/
def step (store : RealtimeStream) :
    RealtimeStreamLabel → Option (RealtimeStream × Option StreamEvent)
  | .subscribe listener supply => some (store.subscribe listener supply)
  | .unsubscribe listener => some (store.unsubscribe listener)
  | .dispose => some store.dispose
  | .returned =>
    match store.stack with
    | [] => none
    | continuation :: rest => some ({ store with stack := rest }.resume continuation, none)
  | .socketOpened pair => if store.delivers pair then some (store.opened pair) else none
  | .socketMessage pair => if store.delivers pair then some (store, none) else none
  | .socketClosed pair => if store.delivers pair then some (store.fail pair) else none
  | .socketErrored pair => if store.delivers pair then some (store.fail pair) else none
  | .workerMessage pair message =>
    if store.delivers pair then some (store.receive pair message) else none
  | .workerErrored pair => if store.delivers pair then some (store.fail pair) else none
  | .timerFired timer supply =>
    if store.stack.isEmpty && store.timers.contains timer then some (store.retry timer supply) else none

end RealtimeStream

/-- Executions record each label with what it did to the pipeline. -/
abbrev RealtimeStreamTrace := List (RealtimeStreamLabel × Option StreamEvent)

end CanX.Desktop
