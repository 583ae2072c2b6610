import CanX.Desktop.DecodeCoordinator

/-! How many decode requests are unsettled at a time: a pass that finds the flag clear while a
request is unsettled submits a second one. -/

namespace CanX.Desktop

open Transition

namespace DecodeWorkspace

variable {workspace next pass : DecodeWorkspace} {label : DecodeLabel} {output : DecodeOutput}
variable {trace : DecodeTrace} {request : DecodeRequest}

/-- The promises of `decode` that have not settled. -/
def unsettled (workspace : DecodeWorkspace) : Nat :=
  workspace.requests.countP fun request => !request.settled

/-- A step that runs a pass with the flag clear, while a request is unsettled, finds nothing to ask. -/
def exclusive (workspace : DecodeWorkspace) (label : DecodeLabel) : Prop :=
  ∀ pass, workspace.passing label = some pass → pass.coordinator.inFlight = false →
    0 < pass.unsettled → pass.NothingDue

/-- Requests are numbered as they are made. -/
structure Numbered (workspace : DecodeWorkspace) : Prop where
  distinct : (workspace.requests.map DecodeRequest.number).Nodup
  below : ∀ request ∈ workspace.requests, request.number < workspace.nextRequest

theorem pump_numbered (numbered : workspace.Numbered) : Numbered workspace.pump.1 := by
  have retained : Numbered workspace.retain := ⟨by simpa using numbered.distinct, by simpa using numbered.below⟩
  rcases workspace.pump_cases with ⟨_, same⟩ | ⟨_, _, same⟩ | ⟨request, _, found, same⟩
  · rw [same]
    exact numbered
  · rw [same]
    exact retained
  · rw [same]
    obtain ⟨_, _, number, _⟩ := due_input found
    constructor
    · have fresh : request.number ∉ workspace.retain.requests.map DecodeRequest.number := by
        intro present
        obtain ⟨other, member, equal⟩ := List.mem_map.mp present
        have below := retained.below other member
        omega
      have appended : (workspace.retain.submit request).requests.map DecodeRequest.number =
          workspace.retain.requests.map DecodeRequest.number ++ [request.number] := by simp [submit]
      rw [appended, List.nodup_append]
      refine ⟨retained.distinct, List.nodup_singleton _, fun other member last added equal => ?_⟩
      rw [List.mem_singleton.mp added] at equal
      exact fresh (equal ▸ member)
    · intro other member
      rcases List.mem_append.mp member with old | new
      · exact Nat.lt_succ_of_lt (retained.below other old)
      · rw [List.mem_singleton.mp new, number]
        exact Nat.lt_succ_self _

theorem Numbered.same (numbered : workspace.Numbered) (requests : next.requests = workspace.requests)
    (counter : next.nextRequest = workspace.nextRequest) : Numbered next :=
  ⟨by rw [requests]; exact numbered.distinct, by rw [requests, counter]; exact numbered.below⟩

theorem settle_numbered (numbered : workspace.Numbered) (number : Nat) : Numbered (workspace.settle number) := by
  have numbers : (workspace.settle number).requests.map DecodeRequest.number =
      workspace.requests.map DecodeRequest.number := by
    rw [settle, List.map_map]
    refine List.map_congr_left fun request _ => ?_
    simp only [Function.comp_apply]
    split
    · rfl
    · rfl
  constructor
  · rw [numbers]
    exact numbered.distinct
  · intro request member
    have inside : request.number ∈ workspace.requests.map DecodeRequest.number :=
      numbers ▸ List.mem_map_of_mem member
    obtain ⟨before, present, same⟩ := List.mem_map.mp inside
    rw [← same]
    exact numbered.below before present

theorem release_numbered (numbered : workspace.Numbered) (number : Nat) : Numbered (workspace.release number) :=
  ⟨numbered.distinct.sublist (List.filter_sublist.map _),
    fun request member => numbered.below request (List.mem_filter.mp member).1⟩

/-- A step runs a pass over the workspace that `passing` tells, or leaves the numbers alone. -/
theorem step_passes (moved : workspace.step label = some (next, output)) :
    (∃ pass, workspace.passing label = some pass ∧ next = pass.pump.1) ∨
      (workspace.passing label = none ∧ (next.requests = workspace.requests ∨
        ∃ number, next.requests = (workspace.settle number).requests) ∧
        next.nextRequest = workspace.nextRequest) := by
  cases step_moves moved with
  | start off => exact .inl ⟨_, rfl, onRealtime_pump⟩
  | dispose => exact .inr ⟨rfl, .inl rfl, rfl⟩
  | realtime view _ on moves =>
    subst moves
    exact .inl ⟨_, by simp only [passing, on, if_true], onRealtime_pump⟩
  | realtimeUnwatched view off => exact .inr ⟨by simp [passing, off], .inl rfl, rfl⟩
  | unchanged call nothing => exact .inr ⟨by simp [passing, nothing], .inl rfl, rfl⟩
  | session call session _ performed on moves =>
    subst moves
    exact .inl ⟨_, by simp only [passing, on, if_true, performed, Option.map_some], onSession_pump⟩
  | sessionUnwatched call session performed off => exact .inr ⟨by simp [passing, off], .inl rfl, rfl⟩
  | resolved number result request present numbered unsettled answers =>
    refine .inr ⟨rfl, .inr ⟨number, ?_⟩, ?_⟩
    · unfold resolve
      split
      · rfl
      · rfl
    · unfold resolve
      split
      · rfl
      · rfl
  | rejected number cause request present numbered unsettled =>
    refine .inr ⟨rfl, .inr ⟨number, ?_⟩, ?_⟩
    · unfold reject
      split
      · rfl
      · rfl
    · unfold reject
      split
      · rfl
      · rfl
  | completed number request present numbered settled => exact .inl ⟨_, rfl, rfl⟩

theorem pump_unsettled (workspace : DecodeWorkspace) : unsettled workspace.pump.1 =
    workspace.unsettled + if workspace.coordinator.inFlight = false ∧ workspace.due ≠ none then 1 else 0 := by
  rcases workspace.pump_cases with ⟨busy, same⟩ | ⟨_, nothing, same⟩ | ⟨request, clear, found, same⟩
  · simp [same, busy]
  · rw [retain_due] at nothing
    simp [same, nothing, unsettled]
  · obtain ⟨_, _, _, _, open_, _⟩ := due_input found
    rw [retain_due] at found
    simp [same, clear, found, unsettled, submit, List.countP_append, open_]

/-- The pass of a step finds at most the requests that were unsettled before it. -/
theorem passing_unsettled (numbered : workspace.Numbered) (moved : workspace.step label = some (next, output))
    (passes : workspace.passing label = some pass) : pass.unsettled = workspace.unsettled := by
  cases step_moves moved with
  | start off =>
    cases passes
    simp [unsettled, subscribe]
  | realtime view _ on moves =>
    simp only [passing, on, if_true, Option.some.injEq] at passes
    subst passes
    simp [unsettled]
  | session call session _ performed on moves =>
    simp only [passing, on, if_true, performed, Option.map_some, Option.some.injEq] at passes
    subst passes
    simp [unsettled]
  | completed number request present same settled =>
    cases passes
    have alone : ∀ other ∈ workspace.requests, other.number = number → other.settled = true := by
      intro other member equal
      have identical := List.inj_on_of_nodup_map numbered.distinct member present (equal.trans same.symm)
      rw [identical, settled]
    simp only [unsettled, release, List.countP_filter]
    refine List.countP_congr fun other member => ?_
    by_cases equal : other.number = number
    · simp [equal, alone other member equal]
    · simp [equal]
  | dispose | realtimeUnwatched | unchanged | sessionUnwatched | resolved | rejected =>
    simp_all [passing]

private theorem passing_numbered (numbered : workspace.Numbered) (passes : workspace.passing label = some pass) :
    Numbered pass := by
  cases label with
  | start =>
    cases passes
    exact numbered.same (by simp [subscribe]) (by simp [subscribe])
  | realtime view =>
    simp only [passing, Option.ite_none_right_eq_some, Option.some.injEq] at passes
    obtain ⟨_, rfl⟩ := passes
    exact numbered.same (by simp) (by simp)
  | session call =>
    simp only [passing, Option.ite_none_right_eq_some, Option.map_eq_some_iff] at passes
    obtain ⟨_, session, _, rfl⟩ := passes
    exact numbered.same (by simp) (by simp)
  | completed number =>
    cases passes
    exact release_numbered numbered number
  | dispose | resolved | rejected => cases passes

theorem Numbered.step (numbered : workspace.Numbered) (moved : workspace.step label = some (next, output)) :
    Numbered next := by
  rcases step_passes moved with ⟨pass, passes, rfl⟩ | ⟨_, same | ⟨number, same⟩, counter⟩
  · exact pump_numbered (passing_numbered numbered passes)
  · exact numbered.same same counter
  · exact (settle_numbered numbered number).same same counter

theorem settle_unsettled (workspace : DecodeWorkspace) (number : Nat) :
    (workspace.settle number).unsettled ≤ workspace.unsettled := by
  simp only [unsettled, settle, List.countP_map]
  refine List.countP_mono_left fun request _ counted => ?_
  simp only [Function.comp_apply] at counted
  split at counted
  · simp at counted
  · exact counted

/-- A step leaves one unsettled request at most exactly if it is exclusive. -/
theorem step_exclusive (numbered : workspace.Numbered) (one : workspace.unsettled ≤ 1)
    (moved : workspace.step label = some (next, output)) :
    next.unsettled ≤ 1 ↔ workspace.exclusive label := by
  rcases step_passes moved with ⟨pass, passes, rfl⟩ | ⟨none_, same, _⟩
  · have before := passing_unsettled numbered moved passes
    have counted := pass.pump_unsettled
    constructor
    · intro within other passes' clear busy
      obtain rfl := Option.some.inj (passes.symm.trans passes')
      refine due_none_iff.mp ?_
      by_contra some_
      rw [if_pos ⟨clear, some_⟩] at counted
      omega
    · intro exclusive
      by_cases submits : pass.coordinator.inFlight = false ∧ pass.due ≠ none
      · have idle : ¬ 0 < pass.unsettled := fun busy =>
          submits.2 (due_none_iff.mpr (exclusive pass passes submits.1 busy))
        rw [if_pos submits] at counted
        omega
      · rw [if_neg submits] at counted
        omega
  · refine iff_of_true ?_ fun pass passes => ?_
    · rcases same with same | ⟨number, same⟩
      · have equal : next.unsettled = workspace.unsettled := by rw [unsettled, same, unsettled]
        omega
      · have equal : next.unsettled = (workspace.settle number).unsettled := by rw [unsettled, same, unsettled]
        have fewer := workspace.settle_unsettled number
        omega
    · rw [none_] at passes
      cases passes

section Restarts

/-- A restart waits until every request has completed. -/
def restartsSettled (workspace : DecodeWorkspace) (label : DecodeLabel) : Prop :=
  label.starts = true → workspace.requests = []

/-- While subscribed, the flag tells whether the one request is out. -/
structure Flagged (workspace : DecodeWorkspace) : Prop where
  single : workspace.requests.length ≤ 1
  held : workspace.coordinator.inFlight = true → workspace.requests ≠ []
  told : workspace.coordinator.subscribed = true → workspace.coordinator.inFlight = false →
    workspace.requests = []

theorem pump_flagged (single : workspace.requests.length ≤ 1)
    (held : workspace.coordinator.inFlight = true → workspace.requests ≠ [])
    (told : workspace.coordinator.inFlight = false → workspace.requests = []) : Flagged workspace.pump.1 := by
  obtain ⟨processed, kept, _⟩ := workspace.retain_coordinator
  rcases workspace.pump_cases with ⟨busy, same⟩ | ⟨clear, _, same⟩ | ⟨request, clear, _, same⟩
  · rw [same]
    exact ⟨single, held, fun _ => told⟩
  · rw [same]
    refine ⟨by simpa using single, ?_, fun _ _ => by simpa using told clear⟩
    intro flagged
    rw [kept] at flagged
    exact absurd (flagged.symm.trans clear) (by decide)
  · rw [same]
    refine ⟨by simp [submit, told clear], fun _ => by simp [submit], fun _ idle => ?_⟩
    simp [submit] at idle

/-- The pass of a step finds the flag clear only where no request is left. -/
theorem passing_flagged (flagged : workspace.Flagged) (settled : workspace.restartsSettled label)
    (moved : workspace.step label = some (next, output)) (passes : workspace.passing label = some pass) :
    pass.requests.length ≤ 1 ∧ (pass.coordinator.inFlight = true → pass.requests ≠ []) ∧
      (pass.coordinator.inFlight = false → pass.requests = []) := by
  have flag : ∀ other : DecodeWorkspace, other.afterRealtime.coordinator.inFlight = other.coordinator.inFlight := by
    intro other
    unfold afterRealtime
    split
    · rfl
    · rfl
  have flagSession : ∀ other : DecodeWorkspace,
      other.afterSession.coordinator.inFlight = other.coordinator.inFlight := by
    intro other
    unfold afterSession
    split
    · rfl
    · rfl
  cases step_moves moved with
  | start off =>
    cases passes
    have none_ := settled rfl
    simpa [flag, subscribe, none_] using flagged.held
  | realtime view _ on moves =>
    simp only [passing, on, if_true, Option.some.injEq] at passes
    subst passes
    simpa [flag] using ⟨flagged.single, flagged.held, flagged.told on⟩
  | session call session _ performed on moves =>
    simp only [passing, on, if_true, performed, Option.map_some, Option.some.injEq] at passes
    subst passes
    simpa [flagSession] using ⟨flagged.single, flagged.held, flagged.told on⟩
  | completed number request present same settled_ =>
    cases passes
    have only : (workspace.release number).requests = [] := by
      have single := flagged.single
      obtain ⟨one, equal⟩ := List.length_eq_one_iff.mp
        (Nat.le_antisymm single (List.length_pos_of_mem present))
      rw [equal, List.mem_singleton] at present
      simp [release, equal, ← present, same]
    exact ⟨by simp [only], fun busy => by simp [release] at busy, fun _ => only⟩
  | dispose | realtimeUnwatched | unchanged | sessionUnwatched | resolved | rejected =>
    simp_all [passing]

/-- Settling a request keeps the list of requests as long as it is. -/
theorem Flagged.settle (flagged : workspace.Flagged) {number : Nat}
    (requests : next.requests = (workspace.settle number).requests)
    (flag : next.coordinator.inFlight = workspace.coordinator.inFlight)
    (subscribed : next.coordinator.subscribed = workspace.coordinator.subscribed) : Flagged next := by
  have length : next.requests.length = workspace.requests.length := by
    rw [requests, DecodeWorkspace.settle, List.length_map]
  have empty : next.requests = [] ↔ workspace.requests = [] := by
    rw [← List.length_eq_zero_iff, length, List.length_eq_zero_iff]
  refine ⟨by rw [length]; exact flagged.single, ?_, ?_⟩
  · rw [flag, Ne, empty]
    exact flagged.held
  · rw [flag, subscribed, empty]
    exact flagged.told

theorem Flagged.step (flagged : workspace.Flagged) (settled : workspace.restartsSettled label)
    (moved : workspace.step label = some (next, output)) :
    Flagged next ∧ workspace.exclusive label := by
  rcases step_passes moved with ⟨pass, passes, rfl⟩ | ⟨none_, _⟩
  · obtain ⟨single, held, told⟩ := passing_flagged flagged settled moved passes
    refine ⟨pump_flagged single held told, fun other passes' clear busy => ?_⟩
    obtain rfl := Option.some.inj (passes.symm.trans passes')
    rw [unsettled, told clear] at busy
    cases busy
  · refine ⟨?_, fun pass passes => by rw [none_] at passes; cases passes⟩
    cases step_moves moved with
    | dispose => exact ⟨flagged.single, (fun busy => Bool.noConfusion busy), fun on => Bool.noConfusion on⟩
    | realtimeUnwatched view off => exact ⟨flagged.single, flagged.held, flagged.told⟩
    | unchanged call nothing => exact flagged
    | sessionUnwatched call session performed off => exact ⟨flagged.single, flagged.held, flagged.told⟩
    | resolved number result request present numbered unsettled answers =>
      unfold resolve
      split
      · exact flagged.settle rfl rfl rfl
      · exact flagged.settle rfl rfl rfl
    | rejected number cause request present numbered unsettled =>
      unfold reject
      split
      · exact flagged.settle rfl rfl rfl
      · exact flagged.settle rfl rfl rfl
    | start off => simp [passing] at none_
    | realtime view _ on moves => simp [passing, on] at none_
    | session call session _ performed on moves => simp [passing, on, performed] at none_
    | completed number request present numbered settled => simp [passing] at none_

/-- A coordinator that is restarted only when its requests have completed never meets one. -/
theorem exclusive_of_restarts {capacity maxWorkSetFrames : Nat} {room : 1 ≤ capacity}
    {positive : 1 ≤ maxWorkSetFrames}
    (path : Path DecodeWorkspace.step restartsSettled (.create capacity maxWorkSetFrames room positive)
      trace workspace) :
    Path DecodeWorkspace.step exclusive (.create capacity maxWorkSetFrames room positive) trace workspace := by
  have start : Flagged (.create capacity maxWorkSetFrames room positive) :=
    ⟨Nat.zero_le _, (fun busy => Bool.noConfusion busy), fun _ _ => rfl⟩
  have kept : Flagged workspace ∧ Path DecodeWorkspace.step exclusive
      (.create capacity maxWorkSetFrames room positive) trace workspace := by
    induction path with
    | refl => exact ⟨start, .refl⟩
    | snoc _ settled moved ih =>
      obtain ⟨flagged, run⟩ := ih
      obtain ⟨later, exclusive⟩ := flagged.step settled moved
      exact ⟨later, .snoc run exclusive moved⟩
  exact kept.2

end Restarts

end DecodeWorkspace

open DecodeWorkspace

/-- At most one request is unsettled throughout a run exactly if no pass asks, with the flag
clear, while a request is unsettled. -/
theorem decodeLoop_single {capacity maxWorkSetFrames : Nat} {room : 1 ≤ capacity}
    {positive : 1 ≤ maxWorkSetFrames} {trace : DecodeTrace} {workspace : DecodeWorkspace}
    (path : Path DecodeWorkspace.step anyLabel (.create capacity maxWorkSetFrames room positive) trace workspace) :
    Throughout DecodeWorkspace.step (fun state => state.unsettled ≤ 1)
        (.create capacity maxWorkSetFrames room positive) trace ↔
      Path DecodeWorkspace.step exclusive (.create capacity maxWorkSetFrames room positive) trace workspace :=
  path.throughout_iff Numbered (fun state => state.unsettled ≤ 1)
    ⟨List.nodup_nil, fun request member => by cases member⟩ (Nat.zero_le 1)
    (fun _ _ _ _ numbered moved => numbered.step moved)
    (fun _ _ _ _ numbered one moved => step_exclusive numbered one moved)

section Sample

/-- A disposal and a restart while a request is in flight. -/
def restartSchedule : List DecodeLabel :=
  sampleStart ["a"] ++ [.realtime (sampleView [sampleFrame 1 "a"]), .dispose, .start]

/-- The restarted loop asks while the request of the first start is unsettled. -/
theorem decodeLoop_asks_twice : ¬ ∀ trace workspace,
    Path DecodeWorkspace.step anyLabel (.create 1 1 (by decide) (by decide)) trace workspace →
      workspace.unsettled ≤ 1 := by
  intro single
  have evaluated : (follow DecodeWorkspace.step (.create 1 1 (by decide) (by decide)) restartSchedule).map
      (fun reached => reached.1.unsettled) = some 2 := by decide +kernel
  obtain ⟨trace, workspace, path, two⟩ := Path.observed restartSchedule unsettled 2 (fun _ _ _ => trivial) evaluated
  have one := single trace workspace path
  omega

/-- A restart after the request has completed, and the request it makes. -/
def settledSchedule : List DecodeLabel :=
  sampleStart ["a"] ++ [.realtime (sampleView [sampleFrame 1 "a"]), .rejected 0 .transport, .completed 0,
    .dispose, .realtime (sampleView [sampleFrame 2 "a"]), .start]

theorem decodeLoop_single_settled : ∃ trace workspace,
    Path DecodeWorkspace.step anyLabel (.create 1 1 (by decide) (by decide)) trace workspace ∧
      workspace.unsettled = 1 ∧
      Throughout DecodeWorkspace.step (fun state => state.unsettled ≤ 1)
        (.create 1 1 (by decide) (by decide)) trace := by
  have sound : ∀ (state : DecodeWorkspace) (label : DecodeLabel),
      (!label.starts || state.requests.isEmpty) = true → state.restartsSettled label := by
    intro state label passed starting
    simpa [starting] using passed
  have evaluated : (followWithin DecodeWorkspace.step (fun state label => !label.starts || state.requests.isEmpty)
      (.create 1 1 (by decide) (by decide)) settledSchedule).map
        (fun reached : DecodeWorkspace × DecodeTrace => reached.1.unsettled) = some 1 := by decide +kernel
  obtain ⟨trace, workspace, path, one⟩ := Path.observedWithin _ _ _ sound evaluated
  exact ⟨trace, workspace, path.anyLabel, one, (decodeLoop_single path.anyLabel).mpr (exclusive_of_restarts path)⟩

end Sample

end CanX.Desktop
