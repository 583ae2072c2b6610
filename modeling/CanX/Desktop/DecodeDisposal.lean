import CanX.Desktop.DecodeCoordinator

/-! What a disposed coordinator still does: a request that completes after the disposal runs
one more pass, which asks for whatever it finds. -/

namespace CanX.Desktop

open Transition

namespace DecodeWorkspace

variable {workspace next after final : DecodeWorkspace} {label : DecodeLabel} {output : DecodeOutput}
variable {trace back : DecodeTrace} {request : DecodeRequest}

/-- The coordinator is not started again. -/
def unstarted (_ : DecodeWorkspace) (label : DecodeLabel) : Prop := label.starts = false

/-- Where a request completes, a pass finds nothing to ask. -/
def settlesQuietly (workspace : DecodeWorkspace) : DecodeLabel → Prop
  | .completed _ => workspace.NothingDue
  | _ => True

/-- No request is newer than the generation of the coordinator. -/
def Dated (workspace : DecodeWorkspace) : Prop :=
  ∀ request ∈ workspace.requests, request.generation ≤ workspace.coordinator.generation

/-- No request is of the generation of the coordinator, which is not subscribed. -/
structure Superseded (workspace : DecodeWorkspace) : Prop where
  off : workspace.coordinator.subscribed = false
  older : ∀ request ∈ workspace.requests, request.generation < workspace.coordinator.generation

theorem pump_dated (dated : workspace.Dated) : Dated workspace.pump.1 := by
  obtain ⟨processed, kept, _⟩ := workspace.retain_coordinator
  have retained : Dated workspace.retain := by
    simpa [Dated, kept] using dated
  rcases workspace.pump_cases with ⟨_, same⟩ | ⟨_, _, same⟩ | ⟨request, _, found, same⟩
  · rw [same]
    exact dated
  · rw [same]
    exact retained
  · rw [same]
    obtain ⟨_, _, _, generation, _⟩ := due_input found
    intro other member
    rcases List.mem_append.mp member with old | new
    · exact retained other old
    · rw [List.mem_singleton.mp new, generation]
      exact Nat.le_refl _

theorem Dated.advance (dated : workspace.Dated) (requests : next.requests = workspace.requests)
    (advanced : next.coordinator.generation = workspace.coordinator.generation + 1) : Dated next := by
  intro request member
  rw [requests] at member
  have bound := dated request member
  omega

private theorem onRealtime_dated (dated : workspace.Dated) : Dated workspace.onRealtime.1 := by
  unfold onRealtime
  split
  · have advanced : Dated workspace.resetStream := dated.advance rfl rfl
    exact pump_dated advanced
  · exact pump_dated dated

private theorem onSession_dated (dated : workspace.Dated) : Dated workspace.onSession.1 := by
  unfold onSession
  split
  · exact pump_dated dated
  · have advanced : Dated workspace.adoptSession := dated.advance rfl rfl
    exact pump_dated advanced

private theorem settle_dated (dated : workspace.Dated) (number : Nat) : Dated (workspace.settle number) := by
  intro request member
  obtain ⟨before, present, rfl⟩ := List.mem_map.mp member
  split
  · exact dated before present
  · exact dated before present

private theorem release_dated (dated : workspace.Dated) (number : Nat) : Dated (workspace.release number) :=
  fun request member => dated request (List.mem_filter.mp member).1

private theorem resolve_dated (dated : workspace.Dated) {result : DecodedFrameSetResult} :
    Dated (workspace.resolve request result).1 := by
  unfold resolve
  split
  · exact dated
  · exact dated

private theorem reject_dated (dated : workspace.Dated) {cause : DecodeCause} :
    Dated (workspace.reject request cause).1 := by
  unfold reject
  split
  · exact dated
  · exact dated

theorem Dated.step (dated : workspace.Dated) (moved : workspace.step label = some (next, output)) :
    Dated next := by
  cases step_moves moved with
  | start off => exact onRealtime_dated dated
  | dispose => exact dated.advance rfl rfl
  | realtime view _ on moves =>
    subst moves
    exact onRealtime_dated dated
  | realtimeUnwatched view off => exact dated
  | unchanged call nothing => exact dated
  | session call session _ performed on moves =>
    subst moves
    exact onSession_dated dated
  | sessionUnwatched call session performed off => exact dated
  | resolved number result request present numbered unsettled answers =>
    exact resolve_dated (settle_dated dated number)
  | rejected number cause request present numbered unsettled => exact reject_dated (settle_dated dated number)
  | completed number request present numbered settled => exact pump_dated (release_dated dated number)

theorem dispose_superseded (dated : workspace.Dated) : Superseded workspace.dispose :=
  ⟨rfl, fun request member => Nat.lt_succ_of_le (dated request member)⟩

/-- A pass over a workspace whose flag has just been cleared. -/
theorem release_pump {number : Nat} : (workspace.release number).pump =
    match workspace.due with
    | none => ((workspace.release number).retain, [])
    | some request => ((workspace.release number).retain.submit request, [.markPending, .decode request]) := by
  have same : (workspace.release number).retain.due = workspace.due := retain_due
  unfold pump
  rw [same]
  rfl

/-- A step of a disposed coordinator that asks for nothing does nothing. -/
theorem Superseded.step (superseded : workspace.Superseded) (kept : workspace.unstarted label)
    (quiet : workspace.settlesQuietly label) (moved : workspace.step label = some (next, output)) :
    Superseded next ∧ output.calls = [] := by
  obtain ⟨off, older⟩ := superseded
  cases step_moves moved with
  | start off => exact Bool.noConfusion kept
  | dispose => exact ⟨⟨rfl, fun request member => Nat.lt_succ_of_lt (older request member)⟩, rfl⟩
  | realtime view _ on moves => exact absurd (on.symm.trans off) (by decide)
  | realtimeUnwatched view off => exact ⟨⟨off, older⟩, rfl⟩
  | unchanged call nothing => exact ⟨⟨off, older⟩, rfl⟩
  | session call session _ performed on moves => exact absurd (on.symm.trans off) (by decide)
  | sessionUnwatched call session performed off => exact ⟨⟨off, older⟩, rfl⟩
  | resolved number result request present numbered unsettled answers =>
    have stale : request.generation ≠ (workspace.settle number).coordinator.generation :=
      (older request present).ne
    have nothing : (workspace.settle number).resolve request result = (workspace.settle number, []) :=
      if_pos stale
    rw [nothing]
    refine ⟨⟨off, fun request member => ?_⟩, rfl⟩
    obtain ⟨before, present, rfl⟩ := List.mem_map.mp member
    split
    · exact older before present
    · exact older before present
  | rejected number cause request present numbered unsettled =>
    have stale : request.generation ≠ (workspace.settle number).coordinator.generation :=
      (older request present).ne
    have nothing : (workspace.settle number).reject request cause = (workspace.settle number, []) :=
      if_pos stale
    rw [nothing]
    refine ⟨⟨off, fun request member => ?_⟩, rfl⟩
    obtain ⟨before, present, rfl⟩ := List.mem_map.mp member
    split
    · exact older before present
    · exact older before present
  | completed number request present numbered settled =>
    have nothing : workspace.due = none := due_none_iff.mpr quiet
    rw [release_pump, nothing]
    obtain ⟨processed, kept, _⟩ := (workspace.release number).retain_coordinator
    refine ⟨⟨by rw [kept]; exact off, fun request member => ?_⟩, rfl⟩
    rw [retain_requests] at member
    rw [kept]
    exact older request (List.mem_filter.mp member).1

/-- A step that makes no call found nothing to ask. -/
theorem quiet_of_silent (moved : workspace.step label = some (next, output)) (silent : output.calls = []) :
    workspace.settlesQuietly label := by
  cases step_moves moved with
  | completed number request present numbered settled =>
    refine due_none_iff.mp ?_
    by_contra some_
    obtain ⟨request, found⟩ := Option.ne_none_iff_exists'.mp some_
    rw [release_pump, found] at silent
    cases silent
  | start | dispose | realtime | realtimeUnwatched | unchanged | session | sessionUnwatched | resolved
  | rejected => trivial

theorem dated_path {capacity maxWorkSetFrames : Nat} {room : 1 ≤ capacity} {positive : 1 ≤ maxWorkSetFrames}
    (path : Path DecodeWorkspace.step anyLabel (.create capacity maxWorkSetFrames room positive) trace workspace) :
    Dated workspace :=
  path.preserves Dated (fun _ _ _ _ dated _ moved => dated.step moved) fun request member => by cases member

end DecodeWorkspace

open DecodeWorkspace

/-- After a disposal that is not followed by a start, no call is made exactly if every request
that completes finds nothing to ask. -/
theorem decodeLoop_disposed {capacity maxWorkSetFrames : Nat} {room : 1 ≤ capacity}
    {positive : 1 ≤ maxWorkSetFrames} {trace back : DecodeTrace} {workspace after final : DecodeWorkspace}
    {output : DecodeOutput}
    (path : Path DecodeWorkspace.step anyLabel (.create capacity maxWorkSetFrames room positive) trace workspace)
    (disposed : workspace.step .dispose = some (after, output))
    (rest : Path DecodeWorkspace.step unstarted after back final) :
    (∀ entry ∈ back, entry.2.calls = []) ↔
      Path DecodeWorkspace.step (fun state label => state.unstarted label ∧ state.settlesQuietly label)
        after back final := by
  constructor
  · intro silent
    induction rest with
    | refl => exact .refl
    | @snoc trace middle label target output prior kept moved ih =>
      have here : output.calls = [] := silent (label, output) (by simp)
      have before := ih fun entry member => silent entry (List.mem_append_left _ member)
      exact .snoc before ⟨kept, quiet_of_silent moved here⟩ moved
  · intro quietly
    have start : Superseded after := by
      cases step_moves disposed with
      | dispose => exact dispose_superseded (dated_path path)
    have kept := quietly.preserves_trace
      (fun back state => Superseded state ∧ ∀ entry ∈ back, entry.2.calls = [])
      ⟨start, fun entry member => by cases member⟩ ?_
    · exact kept.2
    · intro back state label next output _ ⟨superseded, silent⟩ ⟨kept, quiet⟩ moved
      obtain ⟨later, here⟩ := superseded.step kept quiet moved
      refine ⟨later, fun entry member => ?_⟩
      rcases List.mem_append.mp member with old | new
      · exact silent entry old
      · rw [List.mem_singleton.mp new]
        exact here

section Sample

/-- A request for one frame is in flight. -/
def inFlightSchedule : List DecodeLabel := sampleStart ["a"] ++ [.realtime (sampleView [sampleFrame 1 "a"])]

/-- Its answer arrives after the disposal, and it completes. -/
def lateSchedule : List DecodeLabel := [.resolved 0 (sampleAnswer [sampleFrame 1 "a"]), .completed 0]

def sampleWorkspace : DecodeWorkspace := .create 1 1 (by decide) (by decide)

/-- How many calls each step makes after a disposal that ends the schedule `front`. -/
def callsAfterDisposal (front back : List DecodeLabel) : Option (List Nat) :=
  (follow DecodeWorkspace.step sampleWorkspace front).bind fun begun =>
    (begun.1.step .dispose).bind fun disposed =>
      (follow DecodeWorkspace.step disposed.1 back).map fun ended =>
        ended.2.map fun entry => entry.2.calls.length

private theorem disposal_observed {front back : List DecodeLabel} {counts : List Nat}
    (unstarted_ : ∀ label ∈ back, label.starts = false) (seen : callsAfterDisposal front back = some counts) :
    ∃ trace workspace after output rest final,
      Path DecodeWorkspace.step anyLabel sampleWorkspace trace workspace ∧
      workspace.step .dispose = some (after, output) ∧ Path DecodeWorkspace.step unstarted after rest final ∧
      rest.map (fun entry => entry.2.calls.length) = counts := by
  obtain ⟨⟨workspace, trace⟩, begun, seen⟩ := Option.bind_eq_some_iff.mp seen
  obtain ⟨⟨after, output⟩, disposed, seen⟩ := Option.bind_eq_some_iff.mp seen
  obtain ⟨⟨final, rest⟩, ended, same⟩ := Option.map_eq_some_iff.mp seen
  exact ⟨trace, workspace, after, output, rest, final, .of_follow (fun _ _ _ => trivial) begun, disposed,
    .of_follow (fun label member _ => unstarted_ label member) ended, same⟩

/-- The request that completes after the disposal asks again. -/
theorem decodeLoop_asks_disposed : ¬ ∀ trace workspace after output back final,
    Path DecodeWorkspace.step anyLabel sampleWorkspace trace workspace →
    workspace.step .dispose = some (after, output) →
    Path DecodeWorkspace.step unstarted after back final → ∀ entry ∈ back, entry.2.calls = [] := by
  intro silent
  have seen : callsAfterDisposal inFlightSchedule lateSchedule = some [0, 2] := by decide +kernel
  obtain ⟨trace, workspace, after, output, back, final, path, disposed, rest, counts⟩ :=
    disposal_observed (by decide) seen
  have none_ := silent trace workspace after output back final path disposed rest
  have zero : back.map (fun entry => entry.2.calls.length) = back.map fun _ => 0 :=
    List.map_congr_left fun entry member => by rw [none_ entry member, List.length_nil]
  have two : 2 ∈ back.map (fun entry => entry.2.calls.length) := by rw [counts]; decide
  rw [zero] at two
  simp at two

/-- The project is closed before the disposal, so that the request that completes after it finds
nothing to ask. -/
theorem decodeLoop_disposed_closed : ∃ trace workspace after output back final,
    Path DecodeWorkspace.step anyLabel sampleWorkspace trace workspace ∧
      workspace.step .dispose = some (after, output) ∧
      Path DecodeWorkspace.step (fun state label => state.unstarted label ∧ state.settlesQuietly label)
        after back final ∧ back.length = 2 := by
  have seen : callsAfterDisposal (inFlightSchedule ++ [.session .closeProject]) lateSchedule =
      some [0, 0] := by decide +kernel
  obtain ⟨trace, workspace, after, output, back, final, path, disposed, rest, counts⟩ :=
    disposal_observed (by decide) seen
  have two : back.length = 2 := by
    simpa using congrArg List.length counts
  have silent : ∀ entry ∈ back, entry.2.calls = [] := by
    intro entry member
    have zero : entry.2.calls.length ∈ [0, 0] := counts ▸ List.mem_map_of_mem member
    exact List.length_eq_zero_iff.mp (by simpa using zero)
  exact ⟨trace, workspace, after, output, back, final, path, disposed,
    (decodeLoop_disposed path disposed rest).mp silent, two⟩

end Sample

end CanX.Desktop
