import CanX.Desktop.DecodePartition
import CanX.Desktop.DecodedRealtime
import CanX.Desktop.WorkspaceSession
import CanX.Transition.Path

/-! The decode loop of a workspace: the coordinator, the stores it watches and the one it
fills, and the decode requests that have not completed. A store notifies the coordinator as
part of the change; the handlers of a request run in two turns, its outcome first and then
`finally`, and anything may happen between them. -/

namespace CanX.Desktop

open Transition

/-- The text that names a pending viewport, which determines the stream and the sequences. -/
structure DecodeSignature where
  streamId : String
  sequences : List Int
  deriving DecidableEq

/-- One call of `decode` whose `finally` has not run; `settled` once its outcome was handled. -/
structure DecodeRequest where
  number : Nat
  input : DecodeFrameSetInput
  signature : DecodeSignature
  generation : Nat
  settled : Bool
  deriving DecidableEq

structure WorkspaceDecodeCoordinator where
  maxWorkSetFrames : Nat
  positive : 1 ≤ maxWorkSetFrames
  inFlight : Bool
  generation : Nat
  streamId : Option String
  processed : List Int
  blockedSignature : Option DecodeSignature
  openProjectPath : Option String
  bindings : Option DecodeBindings
  subscribed : Bool

def WorkspaceDecodeCoordinator.create (maxWorkSetFrames : Nat) (positive : 1 ≤ maxWorkSetFrames) :
    WorkspaceDecodeCoordinator :=
  ⟨maxWorkSetFrames, positive, false, 0, none, [], none, none, none, false⟩

/-- What a request was rejected with. -/
inductive DecodeCause
  | api (code : String)
  | transport
  | contract
  | unknown

def failureCode : DecodeCause → String
  | .api code => code
  | .transport => "dbc.decode_transport_failed"
  | .contract => "dbc.decode_contract_failed"
  | .unknown => "dbc.decode_failed"

/-- What the coordinator calls: the decode client, or a method of the decoded store. -/
inductive DecodeCall
  | decode (request : DecodeRequest)
  | markPending
  | applyBatch (batch : DecodedBatch)
  | failRequest (code : String)
  | reset (streamId : Option String)
  | clear

/-- `starts` counts the calls of `start`, each of which returned a disposer. -/
structure DecodeWorkspace where
  realtime : RealtimeView
  session : WorkspaceSessionStore
  decoded : DecodedRealtimeStore
  coordinator : WorkspaceDecodeCoordinator
  requests : List DecodeRequest
  nextRequest : Nat
  starts : Nat

inductive DecodeLabel
  | start
  | dispose
  | realtime (view : RealtimeView)
  | session (call : SessionCall)
  | resolved (number : Nat) (result : DecodedFrameSetResult)
  | rejected (number : Nat) (cause : DecodeCause)
  | completed (number : Nat)

def DecodeLabel.disposes : DecodeLabel → Bool
  | .dispose => true
  | _ => false

def DecodeLabel.starts : DecodeLabel → Bool
  | .start => true
  | _ => false

/-- The calls of a step, and whether it changed the stream, the project or the bindings. -/
structure DecodeOutput where
  calls : List DecodeCall
  changed : Bool

/-- Only what is still visible stays suppressed. -/
def retainVisibleSequences (processed : List Int) (frames : List RuntimeFrame) : List Int :=
  processed.filter fun sequence => sequence ∈ frames.map RuntimeFrame.sequence

def addProcessed (processed : List Int) (records : List DecodedFrameRecord) : List Int :=
  records.foldl (fun processed record =>
    if record.frame.sequence ∈ processed then processed else processed ++ [record.frame.sequence]) processed

namespace DecodeWorkspace

def create (capacity maxWorkSetFrames : Nat) (room : 1 ≤ capacity) (positive : 1 ≤ maxWorkSetFrames) :
    DecodeWorkspace :=
  ⟨⟨none, none, rfl⟩, .create, .create capacity room, .create maxWorkSetFrames positive, [], 0, 0⟩

/-- The stream and the frames of the viewport. -/
def viewport (workspace : DecodeWorkspace) : Option (String × List RuntimeFrame) :=
  workspace.realtime.snapshot.bind fun viewport =>
    viewport.streamId.map fun streamId => (streamId, viewport.frames)

/-- What a pass works on: the project, the stream and the frames in view. -/
def passOver (workspace : DecodeWorkspace) : Option (String × String × List RuntimeFrame) :=
  workspace.coordinator.openProjectPath.bind fun projectPath =>
    workspace.viewport.map fun (streamId, frames) => (projectPath, streamId, frames)

def pendingIn (workspace : DecodeWorkspace) (frames : List RuntimeFrame) : List RuntimeFrame :=
  frames.filter fun frame => frame.sequence ∉ workspace.coordinator.processed

/-- The request that a pass submits, if it finds something to ask for. -/
def due (workspace : DecodeWorkspace) : Option DecodeRequest :=
  workspace.passOver.bind fun (projectPath, streamId, frames) =>
    let pending := workspace.pendingIn frames
    let signature : DecodeSignature := ⟨streamId, pending.map RuntimeFrame.sequence⟩
    if pending = [] then none
    else if workspace.coordinator.blockedSignature = some signature then none
    else
      (partitionDecodeWorkSets pending workspace.session.assetForChannel
        workspace.coordinator.maxWorkSetFrames).head?.map fun work => {
          number := workspace.nextRequest
          input := ⟨projectPath, work.assetId, streamId, work.frames⟩
          signature
          generation := workspace.coordinator.generation
          settled := false }

/-- A pass first forgets what has left the viewport. -/
def retain (workspace : DecodeWorkspace) : DecodeWorkspace :=
  match workspace.passOver with
  | none => workspace
  | some (_, _, frames) =>
    { workspace with coordinator := { workspace.coordinator with
        processed := retainVisibleSequences workspace.coordinator.processed frames } }

def submit (workspace : DecodeWorkspace) (request : DecodeRequest) : DecodeWorkspace :=
  { workspace with
    coordinator := { workspace.coordinator with inFlight := true }
    decoded := workspace.decoded.markPending
    requests := workspace.requests ++ [request]
    nextRequest := workspace.nextRequest + 1 }

def pump (workspace : DecodeWorkspace) : DecodeWorkspace × List DecodeCall :=
  if workspace.coordinator.inFlight then (workspace, [])
  else
    match workspace.retain.due with
    | none => (workspace.retain, [])
    | some request => (workspace.retain.submit request, [.markPending, .decode request])

/-- A different stream is a different numbering. -/
def resetStream (workspace : DecodeWorkspace) : DecodeWorkspace :=
  { workspace with
    coordinator := { workspace.coordinator with
      streamId := workspace.realtime.streamId
      processed := []
      blockedSignature := none
      generation := workspace.coordinator.generation + 1 }
    decoded := workspace.decoded.reset workspace.realtime.streamId }

/-- A new viewport, or a new stream. -/
def onRealtime (workspace : DecodeWorkspace) : DecodeWorkspace × List DecodeCall :=
  if workspace.realtime.streamId ≠ workspace.coordinator.streamId then
    let (next, calls) := workspace.resetStream.pump
    (next, .reset workspace.realtime.streamId :: calls)
  else workspace.pump

/-- Every recorded outcome answered the previous question. -/
def adoptSession (workspace : DecodeWorkspace) : DecodeWorkspace :=
  { workspace with
    coordinator := { workspace.coordinator with
      openProjectPath := workspace.session.projectPath
      bindings := some workspace.session.snapshot.dbcBindings
      generation := workspace.coordinator.generation + 1
      processed := []
      blockedSignature := none }
    decoded := workspace.decoded.clear }

/-- Whether the session is the one the coordinator knows: the path, and the identity of the map. -/
def knowsSession (workspace : DecodeWorkspace) : Bool :=
  workspace.session.projectPath = workspace.coordinator.openProjectPath ∧
    some workspace.session.snapshot.dbcBindings.identity =
      workspace.coordinator.bindings.map DecodeBindings.identity

def onSession (workspace : DecodeWorkspace) : DecodeWorkspace × List DecodeCall :=
  if workspace.knowsSession then workspace.pump
  else
    let (next, calls) := workspace.adoptSession.pump
    (next, .clear :: calls)

def subscribe (workspace : DecodeWorkspace) : DecodeWorkspace :=
  { workspace with
    coordinator := { workspace.coordinator with
      openProjectPath := workspace.session.projectPath
      bindings := some workspace.session.snapshot.dbcBindings
      subscribed := true }
    starts := workspace.starts + 1 }

def start (workspace : DecodeWorkspace) : DecodeWorkspace × List DecodeCall := workspace.subscribe.onRealtime

/-- The function that `start` returned. -/
def dispose (workspace : DecodeWorkspace) : DecodeWorkspace :=
  { workspace with coordinator := { workspace.coordinator with
      subscribed := false
      generation := workspace.coordinator.generation + 1
      inFlight := false } }

def find (workspace : DecodeWorkspace) (number : Nat) : Option DecodeRequest :=
  workspace.requests.find? fun request => request.number = number

def settle (workspace : DecodeWorkspace) (number : Nat) : DecodeWorkspace :=
  { workspace with requests := workspace.requests.map fun request =>
      if request.number = number then { request with settled := true } else request }

/-- The batch made of an answer. -/
def batchOf (request : DecodeRequest) (result : DecodedFrameSetResult) : DecodedBatch where
  streamId := result.streamId
  assetId := request.input.assetId
  entries := result.records.map fun record =>
    ⟨record.frame, request.input.assetId, toDecodeOutcome record.outcome⟩

/-- The handler of an answer; one to a question that has been superseded is no answer. -/
def resolve (workspace : DecodeWorkspace) (request : DecodeRequest) (result : DecodedFrameSetResult) :
    DecodeWorkspace × List DecodeCall :=
  if request.generation ≠ workspace.coordinator.generation then (workspace, [])
  else
    let batch := batchOf request result
    ({ workspace with
        decoded := workspace.decoded.applyBatch batch
        coordinator := { workspace.coordinator with
          processed := addProcessed workspace.coordinator.processed result.records
          blockedSignature := none } },
      [.applyBatch batch])

/-- The handler of a failure: this viewport is not submitted again unchanged. -/
def reject (workspace : DecodeWorkspace) (request : DecodeRequest) (cause : DecodeCause) :
    DecodeWorkspace × List DecodeCall :=
  if request.generation ≠ workspace.coordinator.generation then (workspace, [])
  else
    ({ workspace with
        decoded := workspace.decoded.failRequest (failureCode cause)
        coordinator := { workspace.coordinator with blockedSignature := some request.signature } },
      [.failRequest (failureCode cause)])

/-- `finally` clears the flag, of whichever request it is. -/
def release (workspace : DecodeWorkspace) (number : Nat) : DecodeWorkspace :=
  { workspace with
    coordinator := { workspace.coordinator with inFlight := false }
    requests := workspace.requests.filter fun request => request.number ≠ number }

def quietly (result : DecodeWorkspace × List DecodeCall) : DecodeWorkspace × DecodeOutput :=
  (result.1, ⟨result.2, false⟩)

/-- The decode client answers only with the frames it was given, for the stream it was asked
about; `start` is called again only after a disposal. -/
def step (workspace : DecodeWorkspace) : DecodeLabel → Option (DecodeWorkspace × DecodeOutput)
  | .start => if workspace.coordinator.subscribed then none else some (quietly workspace.start)
  | .dispose => if workspace.starts = 0 then none else some (quietly (workspace.dispose, []))
  | .realtime view =>
    let moved := { workspace with realtime := view }
    let (next, calls) := if workspace.coordinator.subscribed then moved.onRealtime else (moved, [])
    some (next, ⟨calls, view.streamId ≠ workspace.realtime.streamId⟩)
  | .session call =>
    match workspace.session.perform call with
    | none => some (workspace, ⟨[], false⟩)
    | some session =>
      let moved := { workspace with session }
      let (next, calls) := if workspace.coordinator.subscribed then moved.onSession else (moved, [])
      some (next, ⟨calls, workspace.session.changedBy session call⟩)
  | .resolved number result =>
    match workspace.find number with
    | none => none
    | some request =>
      if request.settled = false ∧ result.Answers request.input then
        some (quietly ((workspace.settle number).resolve request result))
      else none
  | .rejected number cause =>
    match workspace.find number with
    | none => none
    | some request =>
      if request.settled = false then some (quietly ((workspace.settle number).reject request cause))
      else none
  | .completed number =>
    match workspace.find number with
    | none => none
    | some request => if request.settled then some (quietly (workspace.release number).pump) else none

/-- The workspace over which the handler of the realtime store runs its pass. -/
def afterRealtime (workspace : DecodeWorkspace) : DecodeWorkspace :=
  if workspace.realtime.streamId ≠ workspace.coordinator.streamId then workspace.resetStream else workspace

/-- The workspace over which the handler of the session runs its pass. -/
def afterSession (workspace : DecodeWorkspace) : DecodeWorkspace :=
  if workspace.knowsSession then workspace else workspace.adoptSession

section Passes

variable {workspace : DecodeWorkspace} {request : DecodeRequest} {frames : List RuntimeFrame}

theorem mem_retainVisibleSequences {processed : List Int} {sequence : Int} :
    sequence ∈ retainVisibleSequences processed frames ↔
      sequence ∈ processed ∧ sequence ∈ frames.map RuntimeFrame.sequence := by
  simp [retainVisibleSequences]

theorem addProcessed_eq {processed : List Int} {records : List DecodedFrameRecord} :
    addProcessed processed records =
      DecodedRealtimeStore.joined processed (records.map fun record => record.frame.sequence) := by
  unfold addProcessed DecodedRealtimeStore.joined
  rw [List.foldl_map]

theorem mem_addProcessed {processed : List Int} {records : List DecodedFrameRecord} {sequence : Int} :
    sequence ∈ addProcessed processed records ↔
      sequence ∈ processed ∨ sequence ∈ records.map fun record => record.frame.sequence := by
  rw [addProcessed_eq]
  exact DecodedRealtimeStore.mem_joined

@[simp] theorem retain_passOver : workspace.retain.passOver = workspace.passOver := by
  unfold retain
  split
  · rfl
  · rfl

@[simp] theorem retain_requests : workspace.retain.requests = workspace.requests := by
  unfold retain
  split
  · rfl
  · rfl

@[simp] theorem retain_decoded : workspace.retain.decoded = workspace.decoded := by
  unfold retain
  split
  · rfl
  · rfl

@[simp] theorem retain_session : workspace.retain.session = workspace.session := by
  unfold retain
  split
  · rfl
  · rfl

@[simp] theorem retain_realtime : workspace.retain.realtime = workspace.realtime := by
  unfold retain
  split
  · rfl
  · rfl

/-- A pass forgets suppressed sequences and nothing else. -/
theorem retain_coordinator : ∃ processed,
    workspace.retain.coordinator = { workspace.coordinator with processed } ∧
      ∀ sequence ∈ processed, sequence ∈ workspace.coordinator.processed := by
  unfold retain
  split
  · exact ⟨_, rfl, fun _ member => member⟩
  · exact ⟨_, rfl, fun _ member => (mem_retainVisibleSequences.mp member).1⟩

/-- What is forgotten has no bearing on what is due. -/
@[simp] theorem retain_due : workspace.retain.due = workspace.due := by
  cases past : workspace.passOver with
  | none =>
    have same : workspace.retain = workspace := by simp [retain, past]
    rw [same]
  | some pass =>
    obtain ⟨projectPath, streamId, frames⟩ := pass
    have same : workspace.retain = { workspace with coordinator := { workspace.coordinator with
        processed := retainVisibleSequences workspace.coordinator.processed frames } } := by
      simp [retain, past]
    have pending : workspace.retain.pendingIn frames = workspace.pendingIn frames := by
      unfold pendingIn
      refine List.filter_congr fun frame member => ?_
      have visible : frame.sequence ∈ frames.map RuntimeFrame.sequence := List.mem_map_of_mem member
      rw [same]
      simp only [mem_retainVisibleSequences, visible, and_true]
    unfold due
    rw [retain_passOver, past]
    rw [same] at pending ⊢
    simp only [Option.bind_some, pending]

/-- There is nothing to ask: no project is open, or no viewport is there, or every visible frame
is answered or of an unbound channel, or the viewport is the one that failed last. -/
def NothingDue (workspace : DecodeWorkspace) : Prop :=
  workspace.coordinator.openProjectPath = none ∨ workspace.viewport = none ∨
    ∃ streamId frames, workspace.viewport = some (streamId, frames) ∧
      ((∀ frame ∈ frames, frame.sequence ∈ workspace.coordinator.processed ∨
          workspace.session.assetForChannel frame.channelId = none) ∨
        workspace.coordinator.blockedSignature =
          some ⟨streamId, (workspace.pendingIn frames).map RuntimeFrame.sequence⟩)

private theorem unbound_pending : (∀ frame ∈ frames, frame.sequence ∈ workspace.coordinator.processed ∨
      workspace.session.assetForChannel frame.channelId = none) ↔
    ∀ frame ∈ workspace.pendingIn frames, workspace.session.assetForChannel frame.channelId = none := by
  simp only [pendingIn, List.mem_filter, decide_eq_true_eq, and_imp]
  constructor
  · intro answered frame member pending
    exact (answered frame member).resolve_left pending
  · intro unbound frame member
    by_cases processed : frame.sequence ∈ workspace.coordinator.processed
    · exact .inl processed
    · exact .inr (unbound frame member processed)

theorem due_none_iff : workspace.due = none ↔ workspace.NothingDue := by
  cases opened : workspace.coordinator.openProjectPath with
  | none =>
    have nothing : workspace.due = none := by simp [due, passOver, opened]
    exact iff_of_true nothing (.inl opened)
  | some projectPath =>
    cases seen : workspace.viewport with
    | none =>
      have nothing : workspace.due = none := by simp [due, passOver, opened, seen]
      exact iff_of_true nothing (.inr (.inl seen))
    | some viewport =>
      obtain ⟨streamId, frames⟩ := viewport
      have first : (partitionDecodeWorkSets (workspace.pendingIn frames) workspace.session.assetForChannel
          workspace.coordinator.maxWorkSetFrames).head? = none ↔
            ∀ frame ∈ workspace.pendingIn frames, workspace.session.assetForChannel frame.channelId = none := by
        rw [partition_head workspace.coordinator.positive, Option.map_eq_none_iff, firstAsset_none]
      have quiet : workspace.NothingDue ↔
          (∀ frame ∈ workspace.pendingIn frames, workspace.session.assetForChannel frame.channelId = none) ∨
            workspace.coordinator.blockedSignature =
              some ⟨streamId, (workspace.pendingIn frames).map RuntimeFrame.sequence⟩ := by
        simp [NothingDue, opened, seen, unbound_pending]
      rw [quiet, ← first]
      simp only [due, passOver, opened, seen, Option.bind_some, Option.map_some]
      by_cases empty : workspace.pendingIn frames = []
      · exact iff_of_true (by simp [empty]) (.inl (first.mpr (by simp [empty])))
      · by_cases blocked : workspace.coordinator.blockedSignature =
            some ⟨streamId, (workspace.pendingIn frames).map RuntimeFrame.sequence⟩
        · simp [empty, blocked]
        · simp [empty, blocked]

/-- A request is about the open project, the stream in view, and frames of one bound asset. -/
theorem due_input (found : workspace.due = some request) :
    ∃ frames, workspace.passOver = some (request.input.projectPath, request.input.streamId, frames) ∧
      request.number = workspace.nextRequest ∧ request.generation = workspace.coordinator.generation ∧
      request.settled = false ∧
      request.signature = ⟨request.input.streamId, (workspace.pendingIn frames).map RuntimeFrame.sequence⟩ ∧
      (partitionDecodeWorkSets (workspace.pendingIn frames) workspace.session.assetForChannel
        workspace.coordinator.maxWorkSetFrames).head? =
          some ⟨request.input.assetId, request.input.frames⟩ := by
  obtain ⟨⟨projectPath, streamId, frames⟩, past, found⟩ := Option.bind_eq_some_iff.mp found
  dsimp only at found
  split at found
  · cases found
  split at found
  · cases found
  · obtain ⟨work, first, rfl⟩ := Option.map_eq_some_iff.mp found
    exact ⟨frames, past, rfl, rfl, rfl, rfl, first⟩

theorem passOver_some {projectPath streamId : String}
    (past : workspace.passOver = some (projectPath, streamId, frames)) :
    workspace.coordinator.openProjectPath = some projectPath ∧ workspace.realtime.streamId = some streamId ∧
      workspace.viewport = some (streamId, frames) := by
  obtain ⟨path, opened, past⟩ := Option.bind_eq_some_iff.mp past
  obtain ⟨⟨stream, visible⟩, seen, same⟩ := Option.map_eq_some_iff.mp past
  cases same
  obtain ⟨snapshot, present, stream_⟩ := Option.bind_eq_some_iff.mp seen
  obtain ⟨named, found, same⟩ := Option.map_eq_some_iff.mp stream_
  cases same
  refine ⟨opened, ?_, seen⟩
  rw [workspace.realtime.agrees, present]
  exact found

theorem pump_cases : (workspace.coordinator.inFlight = true ∧ workspace.pump = (workspace, [])) ∨
    (workspace.coordinator.inFlight = false ∧ workspace.retain.due = none ∧
      workspace.pump = (workspace.retain, [])) ∨
    (∃ request, workspace.coordinator.inFlight = false ∧ workspace.retain.due = some request ∧
      workspace.pump = (workspace.retain.submit request, [.markPending, .decode request])) := by
  unfold pump
  split
  · rename_i busy
    exact .inl ⟨busy, rfl⟩
  · rename_i idle
    have clear := Bool.eq_false_iff.mpr idle
    split
    · rename_i nothing
      exact .inr (.inl ⟨clear, nothing, rfl⟩)
    · rename_i request found
      exact .inr (.inr ⟨request, clear, found, rfl⟩)

theorem onRealtime_pump : workspace.onRealtime.1 = workspace.afterRealtime.pump.1 := by
  unfold onRealtime afterRealtime
  split
  · rfl
  · rfl

theorem onSession_pump : workspace.onSession.1 = workspace.afterSession.pump.1 := by
  unfold onSession afterSession
  split
  · rfl
  · rfl

@[simp] theorem afterRealtime_requests : workspace.afterRealtime.requests = workspace.requests := by
  unfold afterRealtime
  split
  · rfl
  · rfl

@[simp] theorem afterSession_requests : workspace.afterSession.requests = workspace.requests := by
  unfold afterSession
  split
  · rfl
  · rfl

@[simp] theorem retain_nextRequest : workspace.retain.nextRequest = workspace.nextRequest := by
  unfold retain
  split
  · rfl
  · rfl

@[simp] theorem afterRealtime_nextRequest : workspace.afterRealtime.nextRequest = workspace.nextRequest := by
  unfold afterRealtime
  split
  · rfl
  · rfl

@[simp] theorem afterSession_nextRequest : workspace.afterSession.nextRequest = workspace.nextRequest := by
  unfold afterSession
  split
  · rfl
  · rfl

theorem find_some {number : Nat} (found : workspace.find number = some request) :
    request ∈ workspace.requests ∧ request.number = number :=
  ⟨List.mem_of_find?_eq_some found, by simpa using List.find?_some found⟩

end Passes

section Steps

variable {workspace next : DecodeWorkspace} {label : DecodeLabel} {output : DecodeOutput}

/-- What a step does, by its label and by whether the coordinator is subscribed. -/
inductive Moves (workspace : DecodeWorkspace) : DecodeLabel → DecodeWorkspace → DecodeOutput → Prop
  | start (off : workspace.coordinator.subscribed = false) :
    Moves workspace .start workspace.start.1 ⟨workspace.start.2, false⟩
  | dispose : Moves workspace .dispose workspace.dispose ⟨[], false⟩
  | realtime (view moved) (on : workspace.coordinator.subscribed = true)
    (moves : moved = { workspace with realtime := view }) :
    Moves workspace (.realtime view) moved.onRealtime.1
      ⟨moved.onRealtime.2, view.streamId ≠ workspace.realtime.streamId⟩
  | realtimeUnwatched (view) (off : workspace.coordinator.subscribed = false) :
    Moves workspace (.realtime view) { workspace with realtime := view }
      ⟨[], view.streamId ≠ workspace.realtime.streamId⟩
  | unchanged (call) (nothing : workspace.session.perform call = none) :
    Moves workspace (.session call) workspace ⟨[], false⟩
  | session (call session moved) (performed : workspace.session.perform call = some session)
    (on : workspace.coordinator.subscribed = true) (moves : moved = { workspace with session }) :
    Moves workspace (.session call) moved.onSession.1
      ⟨moved.onSession.2, workspace.session.changedBy session call⟩
  | sessionUnwatched (call session) (performed : workspace.session.perform call = some session)
    (off : workspace.coordinator.subscribed = false) :
    Moves workspace (.session call) { workspace with session }
      ⟨[], workspace.session.changedBy session call⟩
  | resolved (number result request) (present : request ∈ workspace.requests)
    (numbered : request.number = number) (unsettled : request.settled = false)
    (answers : result.Answers request.input) :
    Moves workspace (.resolved number result) ((workspace.settle number).resolve request result).1
      ⟨((workspace.settle number).resolve request result).2, false⟩
  | rejected (number cause request) (present : request ∈ workspace.requests)
    (numbered : request.number = number) (unsettled : request.settled = false) :
    Moves workspace (.rejected number cause) ((workspace.settle number).reject request cause).1
      ⟨((workspace.settle number).reject request cause).2, false⟩
  | completed (number request) (present : request ∈ workspace.requests)
    (numbered : request.number = number) (settled : request.settled = true) :
    Moves workspace (.completed number) (workspace.release number).pump.1
      ⟨(workspace.release number).pump.2, false⟩

theorem step_moves (moved : workspace.step label = some (next, output)) : Moves workspace label next output := by
  cases label with
  | start =>
    simp only [step, Option.ite_none_left_eq_some, Option.some.injEq] at moved
    obtain ⟨off, same⟩ := moved
    obtain ⟨rfl, rfl⟩ := Prod.mk.inj same
    exact .start (Bool.eq_false_iff.mpr off)
  | dispose =>
    simp only [step, Option.ite_none_left_eq_some, Option.some.injEq] at moved
    obtain ⟨_, same⟩ := moved
    obtain ⟨rfl, rfl⟩ := Prod.mk.inj same
    exact .dispose
  | realtime view =>
    simp only [step, Option.some.injEq, Prod.mk.injEq] at moved
    obtain ⟨rfl, rfl⟩ := moved
    by_cases on : workspace.coordinator.subscribed = true
    · simp only [on, if_true]
      exact .realtime view _ on rfl
    · simp only [on]
      exact .realtimeUnwatched view (Bool.eq_false_iff.mpr on)
  | session call =>
    simp only [step] at moved
    split at moved
    · rename_i nothing
      cases moved
      exact .unchanged call nothing
    · rename_i session performed
      simp only [Option.some.injEq, Prod.mk.injEq] at moved
      obtain ⟨rfl, rfl⟩ := moved
      by_cases on : workspace.coordinator.subscribed = true
      · simp only [on, if_true]
        exact .session call session _ performed on rfl
      · simp only [on]
        exact .sessionUnwatched call session performed (Bool.eq_false_iff.mpr on)
  | resolved number result =>
    simp only [step] at moved
    split at moved
    · cases moved
    · rename_i request found
      simp only [Option.ite_none_right_eq_some, Option.some.injEq] at moved
      obtain ⟨⟨unsettled, answers⟩, same⟩ := moved
      obtain ⟨rfl, rfl⟩ := Prod.mk.inj same
      obtain ⟨present, numbered⟩ := find_some found
      exact .resolved number result request present numbered unsettled answers
  | rejected number cause =>
    simp only [step] at moved
    split at moved
    · cases moved
    · rename_i request found
      simp only [Option.ite_none_right_eq_some, Option.some.injEq] at moved
      obtain ⟨unsettled, same⟩ := moved
      obtain ⟨rfl, rfl⟩ := Prod.mk.inj same
      obtain ⟨present, numbered⟩ := find_some found
      exact .rejected number cause request present numbered unsettled
  | completed number =>
    simp only [step] at moved
    split at moved
    · cases moved
    · rename_i request found
      simp only [Option.ite_none_right_eq_some, Option.some.injEq] at moved
      obtain ⟨settled, same⟩ := moved
      obtain ⟨rfl, rfl⟩ := Prod.mk.inj same
      obtain ⟨present, numbered⟩ := find_some found
      exact .completed number request present numbered settled

/-- The workspace over which a step runs its pass, if it runs one. -/
def passing (workspace : DecodeWorkspace) : DecodeLabel → Option DecodeWorkspace
  | .start => some workspace.subscribe.afterRealtime
  | .realtime view =>
    if workspace.coordinator.subscribed then
      some (afterRealtime { workspace with realtime := view })
    else none
  | .session call =>
    if workspace.coordinator.subscribed then
      (workspace.session.perform call).map fun session => afterSession { workspace with session }
    else none
  | .completed number => some (workspace.release number)
  | .dispose | .resolved _ _ | .rejected _ _ => none

end Steps

end DecodeWorkspace

abbrev DecodeTrace := List (DecodeLabel × DecodeOutput)

section Sample

def sampleFrame (sequence : Int) (channelId : String) : RuntimeFrame where
  sequence := sequence
  channelId := channelId
  arbitrationId := 256
  isExtended := false
  isFd := false
  bitrateSwitch := false
  errorStateIndicator := false
  dlc := 1
  data := [0]
  direction := .rx
  hardwareTimestamp := none
  hostTimestamp := 0
  normalizedTimestamp := 0
  clockDomain := "host"
  timestampQuality := .host
  flags := 0

/-- A viewport of one stream. -/
def sampleView (frames : List RuntimeFrame) : RealtimeView :=
  ⟨some "s", some ⟨frames, 0, 0, some "s", 0⟩, rfl⟩

/-- An answer in which every frame decodes to a message without signals. -/
def sampleAnswer (frames : List RuntimeFrame) : DecodedFrameSetResult where
  streamId := "s"
  frameCount := frames.length
  sequences := frames.map RuntimeFrame.sequence
  records := frames.map fun frame => ⟨frame, .decoded "m" []⟩

/-- A project with each channel bound to the asset of the same name, and a started loop. -/
def sampleStart (channels : List String) : List DecodeLabel :=
  .session (.openProject ⟨"p", ⟨"p-id", "p", 1, "", ""⟩⟩) ::
    channels.map (fun channel => .session (.bindChannel channel channel)) ++ [.start]

end Sample

end CanX.Desktop
