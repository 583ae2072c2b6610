import CanX.Runtime.Frame

/-! What a background step of the service does to the cleanup of its recorder, to the
settlement of a pending finalization, and to the state it reports. -/

namespace CanX.Runtime

open Domain Data Recorder Transition RuntimeService

/-- The cleanup has called `recorder.stop()`. -/
def Cleanup.asked : Cleanup → Bool
  | joining => false
  | _ => true

/-- A failure has been noted, or was held already. -/
structure Marked (service next : RuntimeService) : Prop where
  settlement : next.settlement = service.settlement
  cleanup : next.cleanup = service.cleanup ∨ next.cleanup = service.cleanup.or (some .joining)
  reported : next.failure = service.failure ∧ next.captureState = service.captureState ∨
    next.captureState = .degraded ∨ next.captureState = .failed

/-- The outcome of a settled finalization, in the state the service reports. -/
def Reported (service next : RuntimeService) : FinalizationOutcome → Prop
  | .completed => next.failure = service.failure ∧
      next.captureState = if service.failure = none then .idle else service.captureState
  | _ => next.captureState = .failed

/-- At most one recorder has taken a step, of a thread, of an append or of the gate. -/
def Driven (service next : RuntimeService) : Prop :=
  next.recorders = service.recorders ∨ ∃ index event, service.drive index event = some next ∧
    (event.byThread = true ∨ service.publishing = true ∨ service.cleanup = some .closingGate)

inductive Turn (cause : ServiceEvent) (service next : RuntimeService) : Prop where
  | kept (driven : Driven service next) (cleanup : next.cleanup = service.cleanup)
      (settlement : next.settlement = service.settlement)
      (captureState : next.captureState = service.captureState) (failure : next.failure = service.failure)
  | failed (live : service.pipeline.any (·.task = .running) = true ∨ service.publishing = true)
      (marked : Marked service next)
  | asked (joining : service.cleanup = some .joining) (cleanup : next.cleanup = some .awaitingStop)
      (settlement : next.settlement = service.settlement)
      (captureState : next.captureState = service.captureState) (failure : next.failure = service.failure)
      (started : ∀ index state, next.recorder = .project index →
        next.recorders[index]? = some state → state.recorder.finalizationStarted = true)
  | ended (waiting : service.cleanup = some .awaitingStop ∨ service.cleanup = some .closingGate)
      (cleanup : next.cleanup = some .done ∨ next.cleanup = some .closingGate)
      (settlement : next.settlement = service.settlement)
      (reported : next.failure = service.failure ∧ next.captureState = service.captureState ∨
        next.captureState = .degraded ∨ next.captureState = .failed)
  | pending {index : ℕ} {state : Recording} (closing : service.cleanup = some .closingGate)
      (backend : service.recorder = .project index) (held : service.recorders[index]? = some state)
      (returned : state.owner = .returned .pending) (cleanup : next.cleanup = some .done)
      (settlement : next.settlement = service.settlement.or (some index))
      (captureState : next.captureState = .finalizing) (failure : next.failure = service.failure)
  | woke {index : ℕ} {state : Recording} (wakes : cause = .settlementWoke)
      (waiting : service.settlement = some index) (held : service.recorders[index]? = some state)
      (settled : state.recorder.finalizationSettled = true) (settlement : next.settlement = none)
      (cleanup : next.cleanup = service.cleanup)
      (reported : Reported service next state.recorder.finalizationOutcome)

theorem Marked.refl (service : RuntimeService) : Marked service service :=
  ⟨rfl, .inl rfl, .inl ⟨rfl, rfl⟩⟩

/-- A cleanup that is over stays so, whatever is noted. -/
theorem Marked.turn {cause : ServiceEvent} {service middle next : RuntimeService} (marked : Marked middle next)
    (waiting : service.cleanup = some .awaitingStop ∨ service.cleanup = some .closingGate)
    (cleanup : middle.cleanup = some .done)
    (settlement : middle.settlement = service.settlement) (failure : middle.failure = service.failure)
    (captureState : middle.captureState = service.captureState) : Turn cause service next := by
  refine .ended waiting (.inl ?_) (marked.settlement.trans settlement) ?_
  · rcases marked.cleanup with same | joined
    · exact same.trans cleanup
    · rw [joined, cleanup]
      rfl
  · rw [← failure, ← captureState]
    exact marked.reported

namespace RuntimeService

variable {service next : RuntimeService} {index : ℕ} {cause : ServiceEvent}

theorem failAt_eq (service : RuntimeService) (index : ℕ) (failure : RecorderFailure) :
    ∃ recorders, service.failAt index failure = { service with recorders } := by
  obtain ⟨recorders, _, _, same⟩ := failAt_moves service index failure
  exact ⟨recorders, same⟩

theorem failRecorder_eq (service : RuntimeService) (failure : RecorderFailure) :
    ∃ recorders recorder msgpackFailure, service.failRecorder failure =
      { service with recorders, recorder, msgpackFailure } := by
  unfold failRecorder
  split
  · exact ⟨_, _, _, rfl⟩
  · exact ⟨_, _, _, rfl⟩
  · obtain ⟨recorders, same⟩ := failAt_eq service _ failure
    exact ⟨recorders, _, _, same⟩

theorem handleRecorderFailure_marked (service : RuntimeService) (failure : RecorderFailure) :
    Marked service (service.handleRecorderFailure failure) := by
  unfold handleRecorderFailure
  split
  · exact .refl service
  · obtain ⟨recorders, recorder, msgpackFailure, same⟩ := failRecorder_eq service failure
    rw [same]
    exact ⟨rfl, .inr rfl, .inr (.inl rfl)⟩

theorem drive_kept {event : Event} (driven : service.drive index event = some next)
    (whose : event.byThread = true ∨ service.publishing = true ∨
      service.cleanup = some .closingGate) : Turn cause service next := by
  have moved : Driven service next := .inr ⟨index, event, driven, whose⟩
  obtain ⟨state, after, answer, _, _, rfl⟩ := drive_eq driven
  exact .kept moved rfl rfl rfl rfl

theorem consumerFailed_turn {stream : Bool} {message : String}
    (moved : service.consumerFailed stream message = some next) : Turn cause service next := by
  have marked := handleRecorderFailure_marked service (writeFailed message)
  unfold consumerFailed at moved
  split at moved
  · cases moved
  · rename_i live
    have publishing : service.publishing = true := Bool.not_eq_false _ ▸ live
    split at moved <;> split at moved <;> cases moved
    · exact .failed (.inr publishing) ⟨marked.settlement, marked.cleanup, .inr (.inr rfl)⟩
    · exact .failed (.inr publishing) ⟨marked.settlement, marked.cleanup, marked.reported⟩

private theorem stop_started {state moved : Recording} {answer : Option FrameBatch}
    (stepped : state.step .stop = some (moved, answer)) : moved.recorder.finalizationStarted = true := by
  simp only [Recording.step, Recording.silent, Recording.stop] at stepped
  split at stepped <;> cases stepped
  rfl

theorem cleanupJoined_turn {reading : Seconds} (moved : service.cleanupJoined reading = some next) :
    Turn cause service next := by
  unfold cleanupJoined at moved
  split at moved
  · rename_i joining
    split at moved
    · rename_i position backend
      obtain ⟨armed, first, rest⟩ := Option.bind_eq_some_iff.mp moved
      obtain ⟨stopping, second, given⟩ := Option.bind_eq_some_iff.mp rest
      obtain ⟨_, _, _, _, _, rfl⟩ := drive_eq first
      obtain ⟨before, stopped, _, held, stepped, rfl⟩ := drive_eq second
      cases given
      refine .asked joining.1 rfl rfl rfl rfl ?_
      intro index state same found
      obtain rfl : position = index := Backend.project.inj (backend.symm.trans same)
      rw [set_self held stopped] at found
      cases found
      exact stop_started stepped
    · rename_i unopened
      cases moved
      refine .asked joining.1 rfl rfl rfl rfl ?_
      intro index state same _
      exact absurd same (unopened index)
  · cases moved

/-- The stop that was waited for is over. -/
theorem stopEnded_eq (moved : service.stopEnded = some next) :
    service.cleanup = some .awaitingStop ∧
      ∃ recorders, next = { service with recorders, cleanup := some .done } := by
  unfold stopEnded at moved
  split at moved
  · rename_i waiting
    refine ⟨waiting, ?_⟩
    split at moved
    · obtain ⟨returned, first, given⟩ := Option.bind_eq_some_iff.mp moved
      obtain ⟨_, _, _, _, _, rfl⟩ := drive_eq first
      cases given
      exact ⟨_, rfl⟩
    · cases moved
      exact ⟨_, rfl⟩
  · cases moved

theorem stopEnded_turn (moved : service.stopEnded = some next) : Turn cause service next := by
  obtain ⟨waiting, recorders, rfl⟩ := stopEnded_eq moved
  exact .ended (.inl waiting) (.inl rfl) rfl (.inl ⟨rfl, rfl⟩)

theorem cleanupRaised_turn {message : String} (moved : service.cleanupRaised message = some next) :
    Turn cause service next := by
  obtain ⟨ended, first, given⟩ := Option.bind_eq_some_iff.mp moved
  obtain ⟨waiting, recorders, rfl⟩ := stopEnded_eq first
  cases given
  exact (handleRecorderFailure_marked _ _).turn (.inl waiting) rfl rfl rfl rfl

theorem cleanupTimedOut_turn (moved : service.cleanupTimedOut = some next) : Turn cause service next := by
  unfold cleanupTimedOut at moved
  split at moved
  · rename_i waiting
    split at moved
    · obtain ⟨abandoned, first, rest⟩ := Option.bind_eq_some_iff.mp moved
      obtain ⟨closing, second, given⟩ := Option.bind_eq_some_iff.mp rest
      obtain ⟨_, _, _, _, _, rfl⟩ := drive_eq first
      obtain ⟨_, _, _, _, _, rfl⟩ := drive_eq second
      cases given
      exact .ended (.inl waiting) (.inr rfl) rfl (.inl ⟨rfl, rfl⟩)
    · cases moved
      exact (handleRecorderFailure_marked _ _).turn (.inl waiting) rfl rfl rfl rfl
    · cases moved
  · cases moved

theorem gateReturned_turn (moved : service.gateReturned = some next) : Turn cause service next := by
  unfold gateReturned at moved
  split at moved
  · rename_i index closing backend
    dsimp only at moved
    split at moved <;> cases moved
    · exact .ended (.inr closing) (.inl rfl) rfl (.inl ⟨rfl, rfl⟩)
    · rename_i returned
      obtain ⟨state, held, place⟩ := Option.map_eq_some_iff.mp returned
      exact .pending closing backend held place rfl rfl rfl rfl
    · exact (handleRecorderFailure_marked _ _).turn (.inr closing) rfl rfl rfl rfl
  · cases moved

private theorem failLast_eq (service : RuntimeService) (failure : RecorderFailure) :
    ∃ recorders recorder msgpackFailure, service.failLast failure =
      { service with recorders, recorder, msgpackFailure } := by
  unfold failLast
  split
  · obtain ⟨recorders, same⟩ := failAt_eq service _ failure
    exact ⟨recorders, _, _, same⟩
  · exact failRecorder_eq service failure

private theorem publish_eq (service : RuntimeService) :
    service.publishPendingFinalizationFailure.captureState = .failed ∧
      service.publishPendingFinalizationFailure.cleanup = service.cleanup ∧
      service.publishPendingFinalizationFailure.settlement = service.settlement := by
  unfold publishPendingFinalizationFailure
  split
  · exact ⟨rfl, rfl, rfl⟩
  · obtain ⟨recorders, recorder, msgpackFailure, same⟩ := failLast_eq service closeTimedOut
    simp [same]

/-- The settlement task is over. -/
structure Woke (service next : RuntimeService) (state : Recording) : Prop where
  settled : state.recorder.finalizationSettled = true
  settlement : next.settlement = none
  cleanup : next.cleanup = service.cleanup
  reported : Reported service next state.recorder.finalizationOutcome

theorem settlementWoke_eq (moved : service.settlementWoke = some next) :
    ∃ index state, service.settlement = some index ∧ service.recorders[index]? = some state ∧
      Woke service next state := by
  unfold settlementWoke at moved
  split at moved
  · rename_i state found
    obtain ⟨index, waiting, held⟩ := Option.bind_eq_some_iff.mp found
    refine ⟨index, state, waiting, held, ?_⟩
    split at moved
    · rename_i settled
      have woken := publish_eq { service with settlement := none }
      dsimp only at moved
      split at moved <;> cases moved
      · rename_i completed
        refine ⟨settled, ?_, ?_, ?_⟩
        · split <;> rfl
        · split <;> rfl
        · rw [completed]
          constructor
          · split <;> rfl
          · split <;> rfl
      · rename_i outcome
        refine ⟨settled, woken.2.2, woken.2.1, ?_⟩
        cases result : state.recorder.finalizationOutcome with
        | completed => exact absurd result outcome
        | failed | pending => exact woken.1
    · cases moved
  · cases moved

/-- The task ends as soon as the recorder it waits for has settled. -/
theorem settlementWoke_some {state : Recording} (waiting : service.settlement = some index)
    (held : service.recorders[index]? = some state)
    (settled : state.recorder.finalizationSettled = true) :
    ∃ woken, service.settlementWoke = some woken := by
  have found : service.lookup service.settlement = some state := by
    rw [lookup, waiting]
    exact held
  unfold settlementWoke
  rw [found]
  simp only [settled, if_true]
  split <;> exact ⟨_, rfl⟩

private theorem settlementWoke_turn (moved : service.settlementWoke = some next) :
    Turn .settlementWoke service next := by
  obtain ⟨index, state, waiting, held, woke⟩ := settlementWoke_eq moved
  exact .woke rfl waiting held woke.settled woke.settlement woke.cleanup woke.reported

private theorem gateStep_turn {event : Event} (moved : service.gateStep event = some next) :
    Turn cause service next := by
  unfold gateStep at moved
  split at moved
  · rename_i closing _
    exact drive_kept moved (.inr (.inr closing))
  · cases moved

/-- Every background step is one of these. -/
theorem respond_turn {event : ServiceEvent} {answer : Answer} (background : event.background = true)
    (moved : service.respond event = some (next, answer)) : Turn event service next := by
  cases event with
  | subscriberFailed message =>
    simp only [respond] at moved
    split at moved <;> cases moved
    rename_i running
    exact .failed (.inl running) (handleRecorderFailure_marked ..)
  | consumerEnded stream =>
    cases moved
    unfold consumerEnded
    split <;> exact .kept (.inl rfl) rfl rfl rfl rfl
  | publishArchive batch =>
    simp only [respond] at moved
    split at moved
    · split at moved
      · rename_i publishing
        exact drive_kept (silent_eq moved).1 (.inr (.inl publishing.1))
      · cases moved
    · cases moved
  | recorderThread index event =>
    simp only [respond] at moved
    split at moved
    · rename_i thread
      exact drive_kept (silent_eq moved).1 (.inl thread)
    · cases moved
  | gateStep => exact gateStep_turn (silent_eq moved).1
  | gateExpired =>
    have expired := (silent_eq moved).1
    unfold gateExpired at expired
    split at expired
    · split at expired
      · exact gateStep_turn expired
      · cases expired
    · cases expired
  | consumerFailed stream message => exact consumerFailed_turn (silent_eq moved).1
  | cleanupJoined reading => exact cleanupJoined_turn (silent_eq moved).1
  | cleanupReturned => exact stopEnded_turn (silent_eq moved).1
  | cleanupRaised message => exact cleanupRaised_turn (silent_eq moved).1
  | cleanupTimedOut => exact cleanupTimedOut_turn (silent_eq moved).1
  | gateReturned => exact gateReturned_turn (silent_eq moved).1
  | settlementWoke => exact settlementWoke_turn (silent_eq moved).1
  | _ => cases background

end RuntimeService

end CanX.Runtime
