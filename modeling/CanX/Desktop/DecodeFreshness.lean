import CanX.Desktop.DecodeCoordinator

/-! The decode loop never shows a stale answer: what the decoded store holds was asked after
the last change of the stream, the project or the bindings. -/

namespace CanX.Desktop

open Transition Storage

def requestedIn (calls : List DecodeCall) : List DecodeRequest :=
  calls.filterMap fun call =>
    match call with
    | .decode request => some request
    | _ => none

/-- The requests made since the last change of the stream, the project or the bindings. -/
def sinceChange (trace : DecodeTrace) : List DecodeRequest :=
  trace.foldl (fun requests entry =>
    (if entry.2.changed then [] else requests) ++ requestedIn entry.2.calls) []

theorem sinceChange_snoc {trace : DecodeTrace} {entry : DecodeLabel × DecodeOutput} :
    sinceChange (trace ++ [entry]) =
      (if entry.2.changed then [] else sinceChange trace) ++ requestedIn entry.2.calls := by
  simp [sinceChange]

namespace DecodeWorkspace

variable {workspace next : DecodeWorkspace} {label : DecodeLabel} {output : DecodeOutput}
variable {trace : DecodeTrace} {requests later : List DecodeRequest} {request : DecodeRequest}
variable {calls : List DecodeCall}

/-- The coordinator is not disposed of. -/
def undisposed (_ : DecodeWorkspace) (label : DecodeLabel) : Prop := label.disposes = false

/-- The question is about the stream, the project and the bindings as they are. -/
structure Asks (view : RealtimeView) (session : WorkspaceSessionStore) (input : DecodeFrameSetInput) :
    Prop where
  stream : view.streamId = some input.streamId
  project : session.projectPath = some input.projectPath
  bound : ∀ frame ∈ input.frames, session.assetForChannel frame.channelId = some input.assetId
  nonempty : input.frames ≠ []

/-- An outcome that answers one of `requests`, all of it about the present. -/
def Current (requests : List DecodeRequest) (workspace : DecodeWorkspace) (entry : DecodedFrameEntry) : Prop :=
  workspace.decoded.state.streamId = workspace.realtime.streamId ∧
    ∃ asked ∈ requests, entry.frame ∈ asked.input.frames ∧ entry.assetId = asked.input.assetId ∧
      Asks workspace.realtime workspace.session asked.input

structure Fresh (requests : List DecodeRequest) (workspace : DecodeWorkspace) : Prop where
  unstarted : workspace.coordinator.subscribed = false →
    workspace.requests = [] ∧ workspace.decoded.entries.entries = []
  synced : workspace.coordinator.subscribed = true →
    workspace.coordinator.streamId = workspace.realtime.streamId ∧ workspace.knowsSession = true
  bounded : ∀ request ∈ workspace.requests, request.generation ≤ workspace.coordinator.generation
  asked : ∀ request ∈ workspace.requests, request.generation = workspace.coordinator.generation →
    (∃ asked ∈ requests, asked.number = request.number ∧ asked.input = request.input) ∧
      Asks workspace.realtime workspace.session request.input
  current : ∀ pair ∈ workspace.decoded.entries.entries, workspace.Current requests pair.2

theorem Current.mono {entry : DecodedFrameEntry} (current : workspace.Current requests entry)
    (more : ∀ request ∈ requests, request ∈ later) : workspace.Current later entry := by
  obtain ⟨stream, asked, member, rest⟩ := current
  exact ⟨stream, asked, more asked member, rest⟩

/-- The coordinator knows the session, so its project is the open one. -/
theorem knowsSession_iff : workspace.knowsSession = true ↔
    workspace.session.projectPath = workspace.coordinator.openProjectPath ∧
      some workspace.session.snapshot.dbcBindings.identity =
        workspace.coordinator.bindings.map DecodeBindings.identity := by
  unfold knowsSession
  exact decide_eq_true_iff

private theorem retain_fresh (fresh : Fresh requests workspace) : Fresh requests workspace.retain := by
  obtain ⟨processed, same, _⟩ := workspace.retain_coordinator
  have knows : workspace.retain.knowsSession = workspace.knowsSession := by
    simp [knowsSession, same]
  refine ⟨?_, ?_, ?_, ?_, ?_⟩
  · simpa [same] using fresh.unstarted
  · simpa [same, knows] using fresh.synced
  · simpa [same] using fresh.bounded
  · intro request member generation
    rw [retain_requests] at member
    simpa using fresh.asked request member (by simpa [same] using generation)
  · intro pair member
    rw [retain_decoded] at member
    simpa [Current] using fresh.current pair member

/-- What a pass submits asks about the present. -/
theorem due_asks (fresh : Fresh requests workspace) (subscribed : workspace.coordinator.subscribed = true)
    (found : workspace.due = some request) : Asks workspace.realtime workspace.session request.input := by
  obtain ⟨frames, past, _, _, _, _, first⟩ := due_input found
  obtain ⟨opened, stream, _⟩ := passOver_some past
  obtain ⟨some_, owned⟩ := partition_head_frames workspace.coordinator.positive first
  have project := (knowsSession_iff.mp (fresh.synced subscribed).2).1
  exact ⟨stream, project.trans opened, fun frame member => (owned frame member).2, some_⟩

private theorem submit_fresh (fresh : Fresh requests workspace) (subscribed : workspace.coordinator.subscribed = true)
    (found : workspace.due = some request) :
    Fresh (requests ++ [request]) (workspace.submit request) := by
  have valid := due_asks fresh subscribed found
  obtain ⟨_, _, _, generation, _, _, _⟩ := due_input found
  refine ⟨fun off => ?_, fresh.synced, ?_, ?_, ?_⟩
  · exact absurd (subscribed.symm.trans off) (by decide)
  · intro other member
    rcases List.mem_append.mp member with old | new
    · exact fresh.bounded other old
    · rw [List.mem_singleton.mp new, generation]
      exact Nat.le_refl _
  · intro other member same
    rcases List.mem_append.mp member with old | new
    · obtain ⟨⟨asked, present, rest⟩, valid⟩ := fresh.asked other old same
      exact ⟨⟨asked, List.mem_append_left _ present, rest⟩, valid⟩
    · rw [List.mem_singleton.mp new]
      exact ⟨⟨request, by simp, rfl, rfl⟩, valid⟩
  · intro pair member
    exact Current.mono (fresh.current pair member) fun _ known => List.mem_append_left _ known

theorem pump_fresh (fresh : Fresh requests workspace) (subscribed : workspace.coordinator.subscribed = true) :
    Fresh (requests ++ requestedIn workspace.pump.2) workspace.pump.1 := by
  rcases workspace.pump_cases with ⟨_, same⟩ | ⟨_, _, same⟩ | ⟨request, _, found, same⟩
  · rw [same]
    simpa [requestedIn] using fresh
  · rw [same]
    simpa [requestedIn] using retain_fresh fresh
  · rw [same]
    obtain ⟨processed, kept, _⟩ := workspace.retain_coordinator
    have still : workspace.retain.coordinator.subscribed = true := by rw [kept]; exact subscribed
    simpa [requestedIn] using submit_fresh (retain_fresh fresh) still found

/-- Where every request is superseded and nothing is recorded, nothing is stale. -/
theorem Fresh.renewed (subscribed : workspace.coordinator.subscribed = true)
    (stream : workspace.coordinator.streamId = workspace.realtime.streamId)
    (knows : workspace.knowsSession = true)
    (superseded : ∀ request ∈ workspace.requests, request.generation < workspace.coordinator.generation)
    (empty : workspace.decoded.entries.entries = []) : Fresh requests workspace := by
  refine ⟨fun off => ?_, fun _ => ⟨stream, knows⟩, fun request member => (superseded request member).le, ?_, ?_⟩
  · exact absurd (subscribed.symm.trans off) (by decide)
  · intro request member same
    exact absurd same (superseded request member).ne
  · intro pair member
    rw [empty] at member
    cases member

private theorem resetStream_fresh (subscribed : workspace.coordinator.subscribed = true)
    (knows : workspace.knowsSession = true)
    (bounded : ∀ request ∈ workspace.requests, request.generation ≤ workspace.coordinator.generation) :
    Fresh requests workspace.resetStream :=
  .renewed subscribed rfl knows
    (fun request member => Nat.lt_succ_of_le (bounded request member)) DecodedRealtimeStore.reset_entries

private theorem adoptSession_fresh (subscribed : workspace.coordinator.subscribed = true)
    (stream : workspace.coordinator.streamId = workspace.realtime.streamId)
    (bounded : ∀ request ∈ workspace.requests, request.generation ≤ workspace.coordinator.generation) :
    Fresh requests workspace.adoptSession :=
  .renewed subscribed stream (knowsSession_iff.mpr ⟨rfl, rfl⟩)
    (fun request member => Nat.lt_succ_of_le (bounded request member)) rfl

/-- The handler of the realtime store, where nothing is stale unless the stream has changed. -/
theorem onRealtime_fresh (subscribed : workspace.coordinator.subscribed = true)
    (knows : workspace.knowsSession = true)
    (bounded : ∀ request ∈ workspace.requests, request.generation ≤ workspace.coordinator.generation)
    (fresh : workspace.realtime.streamId = workspace.coordinator.streamId → Fresh requests workspace) :
    Fresh (requests ++ requestedIn workspace.onRealtime.2) workspace.onRealtime.1 := by
  unfold onRealtime
  split
  · have renewed : Fresh requests workspace.resetStream := resetStream_fresh subscribed knows bounded
    exact pump_fresh renewed subscribed
  · rename_i same
    exact pump_fresh (fresh (not_not.mp same)) subscribed

theorem onSession_fresh (subscribed : workspace.coordinator.subscribed = true)
    (stream : workspace.coordinator.streamId = workspace.realtime.streamId)
    (bounded : ∀ request ∈ workspace.requests, request.generation ≤ workspace.coordinator.generation)
    (fresh : workspace.knowsSession = true → Fresh requests workspace) :
    Fresh (requests ++ requestedIn workspace.onSession.2) workspace.onSession.1 := by
  unfold onSession
  split
  · rename_i knows
    exact pump_fresh (fresh knows) subscribed
  · have renewed : Fresh requests workspace.adoptSession := adoptSession_fresh subscribed stream bounded
    exact pump_fresh renewed subscribed

/-- A session without bindings has nothing to ask, so nothing asked about it is recorded. -/
theorem Fresh.unbound (fresh : Fresh requests workspace)
    (zero : workspace.session.snapshot.dbcBindings.identity = 0) :
    (∀ request ∈ workspace.requests, request.generation ≠ workspace.coordinator.generation) ∧
      workspace.decoded.entries.entries = [] := by
  have nothing : ∀ input, ¬ Asks workspace.realtime workspace.session input := by
    intro input valid
    obtain ⟨frame, rest, same⟩ := List.exists_cons_of_ne_nil valid.nonempty
    have bound := valid.bound frame (by simp [same])
    rw [WorkspaceSessionStore.assetForChannel_shared zero] at bound
    cases bound
  constructor
  · intro request member same
    exact nothing _ (fresh.asked request member same).2
  · by_contra some_
    obtain ⟨pair, rest, same⟩ := List.exists_cons_of_ne_nil some_
    obtain ⟨_, asked, _, _, _, valid⟩ := fresh.current pair (by simp [same])
    exact nothing _ valid

/-- A session that the coordinator still takes for the one it knows changed nothing, or had no
bindings before and has none now. -/
theorem session_fresh (fresh : Fresh requests workspace) {call : SessionCall} {session : WorkspaceSessionStore}
    (performed : workspace.session.perform call = some session)
    (subscribed : workspace.coordinator.subscribed = true)
    (knows : DecodeWorkspace.knowsSession { workspace with session } = true) :
    Fresh (if workspace.session.changedBy session call then [] else requests) { workspace with session } := by
  obtain ⟨stream, knew⟩ := fresh.synced subscribed
  have identity : session.snapshot.dbcBindings.identity = workspace.session.snapshot.dbcBindings.identity :=
    Option.some.inj ((knowsSession_iff.mp knows).2.trans (knowsSession_iff.mp knew).2.symm)
  rcases WorkspaceSessionStore.perform_bindings performed with ⟨same, path, unchanged⟩ | newer | zero
  · rw [unchanged]
    have asks : ∀ {input}, Asks workspace.realtime workspace.session input →
        Asks workspace.realtime session input := by
      intro input valid
      refine ⟨valid.stream, path.trans valid.project, fun frame member => ?_, valid.nonempty⟩
      have bound := valid.bound frame member
      simp only [WorkspaceSessionStore.assetForChannel, same] at bound ⊢
      exact bound
    refine ⟨fresh.unstarted, fun _ => ⟨stream, knows⟩, fresh.bounded, ?_, ?_⟩
    · intro request member generation
      obtain ⟨known, valid⟩ := fresh.asked request member generation
      exact ⟨known, asks valid⟩
    · intro pair member
      obtain ⟨same, asked, present, inside, owner, valid⟩ := fresh.current pair member
      exact ⟨same, asked, present, inside, owner, asks valid⟩
  · omega
  · obtain ⟨superseded, empty⟩ := fresh.unbound (identity.symm.trans zero)
    exact .renewed subscribed stream knows
      (fun request member => lt_of_le_of_ne (fresh.bounded request member) (superseded request member)) empty

/-- An answer that is applied was asked about the present. -/
theorem resolve_fresh (fresh : Fresh requests workspace) (subscribed : workspace.coordinator.subscribed = true)
    (matching : request.generation = workspace.coordinator.generation →
      (∃ asked ∈ requests, asked.number = request.number ∧ asked.input = request.input) ∧
        Asks workspace.realtime workspace.session request.input)
    {result : DecodedFrameSetResult} (answers : result.Answers request.input) :
    Fresh requests (workspace.resolve request result).1 := by
  unfold resolve
  split
  · exact fresh
  · rename_i same
    obtain ⟨⟨asked, known, _, input⟩, valid⟩ := matching (not_not.mp same)
    obtain ⟨stream, frames⟩ := answers
    refine ⟨fun off => absurd (subscribed.symm.trans off) (by decide), fresh.synced, fresh.bounded,
      fresh.asked, ?_⟩
    · intro pair member
      have now : some result.streamId = workspace.realtime.streamId := by rw [stream, valid.stream]
      rcases DecodedRealtimeStore.mem_merge (OrderedMap.mem_of_trim member) with old | ⟨entry, added, rfl⟩
      · split at old
        · obtain ⟨_, earlier, known, inside, owner, valid⟩ := fresh.current pair old
          exact ⟨now, earlier, known, inside, owner, valid⟩
        · cases old
      · obtain ⟨record, recorded, rfl⟩ := List.mem_map.mp added
        have inside : record.frame ∈ asked.input.frames := by
          rw [input, ← frames]
          exact List.mem_map_of_mem recorded
        exact ⟨now, asked, known, inside, by rw [input], by rw [input]; exact valid⟩

theorem reject_fresh (fresh : Fresh requests workspace) {cause : DecodeCause} :
    Fresh requests (workspace.reject request cause).1 := by
  unfold reject
  split
  · exact fresh
  · exact ⟨fresh.unstarted, fresh.synced, fresh.bounded, fresh.asked, fresh.current⟩

/-- Fewer requests, or the same ones settled, are as fresh. -/
theorem Fresh.fewer (fresh : Fresh requests workspace) {fewer : List DecodeRequest}
    (kept : ∀ request ∈ fewer, ∃ before ∈ workspace.requests, request.number = before.number ∧
      request.input = before.input ∧ request.generation = before.generation) :
    Fresh requests { workspace with requests := fewer } := by
  refine ⟨fun off => ?_, fresh.synced, ?_, ?_, fresh.current⟩
  · obtain ⟨none_, empty⟩ := fresh.unstarted off
    refine ⟨List.eq_nil_iff_forall_not_mem.mpr fun request member => ?_, empty⟩
    obtain ⟨before, present, _⟩ := kept request member
    rw [none_] at present
    cases present
  · intro request member
    obtain ⟨before, present, _, _, generation⟩ := kept request member
    rw [generation]
    exact fresh.bounded before present
  · intro request member same
    obtain ⟨before, present, number, input, generation⟩ := kept request member
    rw [number, input]
    exact fresh.asked before present (generation.symm.trans same)

theorem settle_fresh (fresh : Fresh requests workspace) (number : Nat) :
    Fresh requests (workspace.settle number) := by
  refine fresh.fewer fun request member => ?_
  obtain ⟨before, present, rfl⟩ := List.mem_map.mp member
  refine ⟨before, present, ?_⟩
  split
  · exact ⟨rfl, rfl, rfl⟩
  · exact ⟨rfl, rfl, rfl⟩

theorem release_fresh (fresh : Fresh requests workspace) (number : Nat) :
    Fresh requests (workspace.release number) := by
  have known : ∀ request ∈ workspace.requests.filter fun request => request.number ≠ number,
      ∃ before ∈ workspace.requests, request.number = before.number ∧ request.input = before.input ∧
        request.generation = before.generation :=
    fun request member => ⟨request, (List.mem_filter.mp member).1, rfl, rfl, rfl⟩
  have fewer := fresh.fewer known
  exact ⟨fewer.unstarted, fewer.synced, fewer.bounded, fewer.asked, fewer.current⟩

/-- Only a coordinator that was started has requests. -/
theorem Fresh.subscribed_of_request (fresh : Fresh requests workspace)
    (present : request ∈ workspace.requests) : workspace.coordinator.subscribed = true := by
  by_contra off
  rw [(fresh.unstarted (Bool.eq_false_iff.mpr off)).1] at present
  cases present

/-- Before the start nothing is asked and nothing is recorded. -/
theorem Fresh.idle (off : workspace.coordinator.subscribed = false) (none_ : workspace.requests = [])
    (empty : workspace.decoded.entries.entries = []) : Fresh requests workspace := by
  refine ⟨fun _ => ⟨none_, empty⟩, fun on => absurd (off.symm.trans on) (by decide), ?_, ?_, ?_⟩
  · intro request member
    simp [none_] at member
  · intro request member
    simp [none_] at member
  · intro pair member
    simp [empty] at member

/-- Another viewport of the same stream changes nothing that is asked about. -/
theorem Fresh.view (fresh : Fresh requests workspace) {view : RealtimeView}
    (same : view.streamId = workspace.realtime.streamId) :
    Fresh requests { workspace with realtime := view } := by
  have asks : ∀ {input}, Asks workspace.realtime workspace.session input → Asks view workspace.session input :=
    fun valid => ⟨same.trans valid.stream, valid.project, valid.bound, valid.nonempty⟩
  refine ⟨fresh.unstarted, fun on => ?_, fresh.bounded, ?_, ?_⟩
  · obtain ⟨stream, knows⟩ := fresh.synced on
    exact ⟨stream.trans same.symm, knows⟩
  · intro request member generation
    obtain ⟨known, valid⟩ := fresh.asked request member generation
    exact ⟨known, asks valid⟩
  · intro pair member
    obtain ⟨stream, asked, present, inside, owner, valid⟩ := fresh.current pair member
    exact ⟨stream.trans same.symm, asked, present, inside, owner, asks valid⟩

private theorem resolve_requested {result : DecodedFrameSetResult} :
    requestedIn (workspace.resolve request result).2 = [] := by
  unfold resolve
  split
  · rfl
  · rfl

private theorem reject_requested {cause : DecodeCause} : requestedIn (workspace.reject request cause).2 = [] := by
  unfold reject
  split
  · rfl
  · rfl

theorem Fresh.step (fresh : Fresh requests workspace) (kept : undisposed workspace label)
    (moved : workspace.step label = some (next, output)) :
    Fresh ((if output.changed then [] else requests) ++ requestedIn output.calls) next := by
  have nobody : workspace.coordinator.subscribed = false → ∀ request ∈ workspace.requests,
      request.generation < workspace.coordinator.generation := by
    intro off request member
    rw [(fresh.unstarted off).1] at member
    cases member
  cases step_moves moved with
  | start off =>
    have superseded := nobody off
    refine onRealtime_fresh rfl (knowsSession_iff.mpr ⟨rfl, rfl⟩)
      (fun request member => (superseded request member).le) fun stream => ?_
    exact .renewed rfl stream.symm (knowsSession_iff.mpr ⟨rfl, rfl⟩) superseded (fresh.unstarted off).2
  | dispose => exact Bool.noConfusion kept
  | realtime view _ on moves =>
    subst moves
    obtain ⟨stream, knows⟩ := fresh.synced on
    refine onRealtime_fresh on knows fresh.bounded fun same => ?_
    have unchanged : view.streamId = workspace.realtime.streamId := same.trans stream
    simpa [unchanged] using fresh.view unchanged
  | realtimeUnwatched view off =>
    obtain ⟨none_, empty⟩ := fresh.unstarted off
    exact .idle off none_ empty
  | unchanged call nothing => simpa [requestedIn] using fresh
  | session call session _ performed on moves =>
    subst moves
    exact onSession_fresh on (fresh.synced on).1 fresh.bounded (session_fresh fresh performed on)
  | sessionUnwatched call session performed off =>
    obtain ⟨none_, empty⟩ := fresh.unstarted off
    exact .idle off none_ empty
  | resolved number result request present numbered unsettled answers =>
    rw [resolve_requested, List.append_nil]
    exact resolve_fresh (settle_fresh fresh number) (fresh.subscribed_of_request present)
      (fresh.asked request present) answers
  | rejected number cause request present numbered unsettled =>
    rw [reject_requested, List.append_nil]
    exact reject_fresh (settle_fresh fresh number)
  | completed number request present numbered settled =>
    exact pump_fresh (release_fresh fresh number) (fresh.subscribed_of_request present)

theorem fresh_path {capacity maxWorkSetFrames : Nat} {room : 1 ≤ capacity} {positive : 1 ≤ maxWorkSetFrames}
    (path : Path DecodeWorkspace.step undisposed (.create capacity maxWorkSetFrames room positive) trace workspace) :
    Fresh (sinceChange trace) workspace := by
  refine path.preserves_trace (fun trace workspace => Fresh (sinceChange trace) workspace) (.idle rfl rfl rfl) ?_
  intro trace state label next output _ fresh kept moved
  rw [sinceChange_snoc]
  exact fresh.step kept moved

/-- Only an answer to a current question is applied. -/
theorem applied_request {number : Nat} {result : DecodedFrameSetResult} (fresh : Fresh requests workspace)
    (moved : workspace.step (.resolved number result) = some (next, output)) (applied : output.calls ≠ []) :
    ∃ asked ∈ requests, asked.number = number := by
  cases step_moves moved with
  | resolved _ _ request present numbered unsettled answers =>
    have generation : request.generation = workspace.coordinator.generation := by
      by_contra other
      refine applied ?_
      unfold resolve
      exact congrArg Prod.snd (if_pos other)
    obtain ⟨⟨asked, known, same, _⟩, _⟩ := fresh.asked request present generation
    exact ⟨asked, known, same.trans numbered⟩

end DecodeWorkspace

open DecodeWorkspace

/-- Every recorded outcome belongs to the current stream, project and binding, and no answer is
applied that was requested before the last change of any of them. -/
theorem decodeLoop_fresh {capacity maxWorkSetFrames : Nat} {room : 1 ≤ capacity}
    {positive : 1 ≤ maxWorkSetFrames} {trace : DecodeTrace} {workspace : DecodeWorkspace}
    (path : Path DecodeWorkspace.step undisposed (.create capacity maxWorkSetFrames room positive) trace workspace) :
    (∀ sequence entry, workspace.decoded.entryFor sequence = some entry →
      workspace.decoded.state.streamId = workspace.realtime.streamId ∧
      workspace.session.assetForChannel entry.frame.channelId = some entry.assetId ∧
      ∃ asked ∈ sinceChange trace, entry.frame ∈ asked.input.frames ∧ entry.assetId = asked.input.assetId ∧
        workspace.realtime.streamId = some asked.input.streamId ∧
        workspace.session.projectPath = some asked.input.projectPath) ∧
    (∀ front number result output back, trace = front ++ (.resolved number result, output) :: back →
      output.calls ≠ [] → ∃ asked ∈ sinceChange front, asked.number = number) := by
  constructor
  · intro sequence entry found
    obtain ⟨stream, asked, known, inside, owner, valid⟩ :=
      (fresh_path path).current _ (DecodedRealtimeStore.entryFor_some.mp found)
    exact ⟨stream, by rw [owner]; exact valid.bound _ inside, asked, known, inside, owner, valid.stream,
      valid.project⟩
  · rintro front number result output back rfl applied
    obtain ⟨before, after, prior, _, moved, _⟩ := path.at_label
    exact applied_request (fresh_path prior) moved applied

/-- The request an answer of a run belongs to, and whether the answer was applied. -/
def answered : DecodeLabel × DecodeOutput → Option (Nat × Bool)
  | (.resolved number _, output) => some (number, !output.calls.isEmpty)
  | (.rejected _ _, _) | (.completed _, _) | (.session _, _) | (.realtime _, _) | (.start, _) | (.dispose, _) => none

/-- The answers of a run, and the asset recorded for sequence 7. -/
def answersSeen (reached : DecodeWorkspace × DecodeTrace) : List (Nat × Bool) × Option String :=
  (reached.2.filterMap answered, (reached.1.decoded.entryFor 7).map DecodedFrameEntry.assetId)

/-- The channel is bound to another asset while the first request is in flight. -/
def reboundSchedule : List DecodeLabel :=
  sampleStart ["a"] ++ [.realtime (sampleView [sampleFrame 7 "a"]), .session (.bindChannel "a" "b"),
    .resolved 0 (sampleAnswer [sampleFrame 7 "a"]), .completed 0,
    .resolved 1 (sampleAnswer [sampleFrame 7 "a"]), .completed 1]

theorem decodeLoop_fresh_rebound : ∃ trace workspace entry,
    Path DecodeWorkspace.step undisposed (.create 1 1 (by decide) (by decide)) trace workspace ∧
      trace.filterMap answered = [(0, false), (1, true)] ∧
      workspace.decoded.entryFor 7 = some entry ∧ entry.assetId = "b" ∧
      workspace.session.assetForChannel entry.frame.channelId = some entry.assetId := by
  have sound : ∀ state label, (!label.disposes) = true → undisposed state label :=
    fun _ label passed => by simpa [undisposed] using passed
  have evaluated : (followWithin DecodeWorkspace.step (fun _ label => !label.disposes)
      (.create 1 1 (by decide) (by decide)) reboundSchedule).map answersSeen =
      some ([(0, false), (1, true)], some "b") := by decide +kernel
  obtain ⟨trace, workspace, path, seen⟩ := Path.observedWithin _ answersSeen _ sound evaluated
  obtain ⟨answers, recorded⟩ := Prod.mk.inj seen
  obtain ⟨entry, found, owner⟩ := Option.map_eq_some_iff.mp recorded
  exact ⟨trace, workspace, entry, path, answers, found, owner, ((decodeLoop_fresh path).1 7 entry found).2.1⟩

end CanX.Desktop
