import CanX.Runtime.Counters
import CanX.Runtime.Ownership
import CanX.Runtime.Pending

/-! What a stop leaves of its capture. -/

namespace CanX.Runtime

open Domain Data Recorder Transition RuntimeService

variable {service next : RuntimeService}

/-- No call of `start_capture` is accepted meanwhile. -/
def Unstarted (_ : RuntimeService) (event : ServiceEvent) : Prop :=
  ∀ request, event ≠ .startCapture request

/-- A service that holds no capture, between two calls. -/
structure Vacant (service : RuntimeService) : Prop where
  lifecycle : service.lifecycle = .idle
  pipeline : service.pipeline = none

/-- `start_capture` is not refused because of an earlier capture. -/
def Startable (service : RuntimeService) : Prop :=
  ∀ request, service.refusal request ≠ some .alreadyRunning ∧
    service.refusal request ≠ some .finalizationPending

/-- Once the recorder that was opened last has settled, a new capture can start, at the latest
when the settlement task has run. -/
def RestartsOnceSettled (service : RuntimeService) : Prop :=
  (∀ state, service.lookup service.lastProjectRecorder = some state →
    state.recorder.finalizationSettled = true) →
  ∃ woken, (woken = service ∨ ∃ answer, service.step .settlementWoke = some (woken, answer)) ∧
    Startable woken

/-- Everything that a capture has held is given back. -/
structure Released (service : RuntimeService) : Prop where
  pipeline : service.pipeline = none
  archiveSubscriber : service.archiveSubscriber = false
  streamSubscriber : service.streamSubscriber = none
  archiveTask : service.archiveTask = .absent
  streamTask : service.streamTask = .absent
  stopped : ∀ index, service.recorder = .project index → ∃ state,
    service.recorders[index]? = some state ∧ state.recorder.finalizationStarted = true
  captureState : service.captureState ≠ .running
  restarts : ∀ later final, Path RuntimeService.step Unstarted service later final →
    RestartsOnceSettled final

/-- `pipeline.stop()` does not raise, and no counter is ahead of its count. -/
def StopsCleanly (service : RuntimeService) : ServiceEvent → Prop
  | .pipelineStopped closeRaised =>
    service.pipeline.any (CapturePipeline.stopRaises · closeRaised) = false ∧
      service.metrics.Within (service.totals.add service.counts)
  | _ => True

theorem startable (none : service.pipeline = none) (settled : service.finalizationOutstanding = false) :
    Startable service := by
  intro request
  refine ⟨?_, not_refused settled request⟩
  have free : service.hasSession = false := by
    rw [RuntimeService.hasSession, none]
    rfl
  unfold RuntimeService.refusal
  rw [free]
  repeat' split
  all_goals simp at *

theorem Vacant.step {event : ServiceEvent} {answer : Answer} (vacant : Vacant service)
    (unstarted : Unstarted service event) (moved : service.step event = some (next, answer)) :
    Vacant next := by
  have responded := step_eq moved
  obtain ⟨idle, none⟩ := vacant
  have elsewhere {place : Lifecycle} {target : RuntimeService} {assertion : Prop}
      (given : service.within place target = some next) (away : place ≠ .idle) : assertion :=
    absurd ((within_eq given).1.symm.trans idle) away
  cases event with
  | startCapture request => exact absurd rfl (unstarted request)
  | recorderStarted =>
    have given := (silent_eq responded).1
    simp [RuntimeService.recorderStarted, idle] at given
  | projectRecorderStarted sessionId world registered =>
    have given := (silent_eq responded).1
    simp [RuntimeService.projectRecorderStarted, idle] at given
  | recorderStartRaised message => exact elsewhere (silent_eq responded).1 (by simp)
  | pipelineStartRaised message => exact elsewhere (silent_eq responded).1 (by simp)
  | pipelineStarted =>
    have given := (silent_eq responded).1
    simp [RuntimeService.pipelineStarted, idle] at given
  | consumersCancelled => exact elsewhere (silent_eq responded).1 (by simp)
  | abortFinished =>
    simp only [respond] at responded
    split at responded
    · obtain ⟨_, given, same⟩ := Option.map_eq_some_iff.mp responded
      obtain ⟨rfl, rfl⟩ := Prod.mk.inj same
      exact elsewhere given (by simp)
    · cases responded
  | stopCapture =>
    obtain ⟨_, rfl⟩ := within_eq (silent_eq responded).1
    simp only [RuntimeService.stopCapture, RuntimeService.hasSession, none]
    exact ⟨idle, none⟩
  | pipelineStopped closeRaised => simp [respond, RuntimeService.pipelineStopped, idle] at responded
  | drained timedOut =>
    have given := (silent_eq responded).1
    simp [RuntimeService.drained, idle] at given
  | stopFinished =>
    simp only [respond] at responded
    split at responded
    · exact elsewhere (silent_eq responded).1 (by simp)
    · cases responded
  | captured more =>
    have given := (silent_eq responded).1
    simp [RuntimeService.captured, none] at given
  | captureFailed =>
    have given := (silent_eq responded).1
    simp [RuntimeService.captureFailed, none] at given
  | metricsSnapshot =>
    simp only [respond, Option.some.injEq] at responded
    unfold RuntimeService.metricsSnapshot at responded
    dsimp only at responded
    split at responded <;> cases responded <;> exact ⟨idle, none⟩
  | _ =>
    obtain ⟨noted, _⟩ := respond_noted rfl responded
    exact ⟨noted.lifecycle.trans idle, noted.pipeline.trans none⟩

/-- Nothing is outstanding of a recorder that has settled, if no task waits for it. -/
theorem settled_outstanding (unsettled : service.settlement = none)
    (settled : ∀ state, service.lookup service.lastProjectRecorder = some state →
      state.recorder.finalizationPending = false) : service.finalizationOutstanding = false := by
  rw [RuntimeService.finalizationOutstanding, unsettled]
  cases found : service.lookup service.lastProjectRecorder with
  | none => rfl
  | some state => simp [settled state found]

/-- A worker that has begun and is settled has finished, and stays so. -/
theorem finished_of_settled {state : Recording} (healthy : Healthy state)
    (begun : state.worker.begun = true) (settled : state.recorder.finalizationSettled = true) :
    state.worker = .finished := by
  rw [healthy.flagged.settled] at settled
  cases place : state.worker with
  | finished => rfl
  | absent | queued | cancelled =>
    rw [place] at begun
    cases begun
  | _ =>
    rw [place] at settled
    cases settled

private theorem vacant_restarts (vacant : Vacant service) (inv : Owned service) : RestartsOnceSettled service := by
  intro settled
  cases waiting : service.settlement with
  | none =>
    refine ⟨service, .inl rfl, startable vacant.pipeline (settled_outstanding waiting ?_)⟩
    intro state found
    rw [ProjectRecorder.finalizationPending, settled state found]
    simp
  | some index =>
    obtain ⟨last, state, held, returned⟩ := inv.settlement index waiting
    have begun := (inv.recorders index state held).unsettled returned
    have found : service.lookup service.lastProjectRecorder = some state := by
      rw [RuntimeService.lookup, last]
      exact held
    obtain ⟨woken, moved⟩ := settlementWoke_some waiting held (settled state found)
    have open_loop : service.cleanup = none := inv.free vacant.lifecycle vacant.pipeline
    have stepped : service.step .settlementWoke = some (woken, .silent) := by
      simp [RuntimeService.step, open_loop, respond, moved, silent]
    have noted := settlementWoke_noted moved
    obtain ⟨_, _, _, _, woke⟩ := settlementWoke_eq moved
    refine ⟨woken, .inr ⟨_, stepped⟩, startable (noted.pipeline.trans vacant.pipeline)
      (settled_outstanding woke.settlement ?_)⟩
    obtain ⟨reached, after, healthy, kept⟩ := inv.evolved noted.evolves held
    have finished := finished_of_settled (inv.recorders index state held) begun (settled state found)
    have same : reached.worker = .finished := by
      rw [kept.ended (by rw [finished]; rfl) (by rw [finished]; rfl), finished]
    intro other seen
    rw [noted.lastProjectRecorder, RuntimeService.lookup, last] at seen
    obtain rfl := Option.some.inj (after.symm.trans seen)
    rw [healthy.flagged.pending, same]
    rfl

theorem stopFinished_released (inv : Owned service) (ended : service.cleanup = some .done) :
    Released service.stopFinished := by
  have inv' : Owned service.stopFinished := inv.stopFinished
  refine ⟨rfl, rfl, rfl, rfl, rfl, ?_, ?_, ?_⟩
  · intro index backend
    have within : index < service.recorders.length := inv.last index (inv.backend index backend)
    have held := List.getElem?_eq_getElem within
    exact ⟨_, held, inv.asked (by rw [ended]; rfl) index _ backend held⟩
  · simp only [RuntimeService.stopFinished]
    repeat' split
    all_goals simp
  · intro later final path
    have kept : Vacant final ∧ Owned final := by
      refine path.preserves (fun reached => Vacant reached ∧ Owned reached) ?_ ⟨⟨rfl, rfl⟩, inv'⟩
      rintro before event after answer ⟨vacant, held⟩ unstarted moved
      exact ⟨vacant.step unstarted moved, held.step moved⟩
    exact vacant_restarts kept.1 kept.2

/-- The two steps that end a stop. -/
theorem stop_ends {event : ServiceEvent} {answer : Answer} (stops : service.lifecycle.stops = true)
    (moved : service.step event = some (next, answer)) (ended : next.lifecycle = .idle) :
    (∃ closeRaised, event = .pipelineStopped closeRaised ∧
      service.pipelineStopped closeRaised = some (next, answer)) ∨
    event = .stopFinished ∧ service.cleanup = some .done ∧ next = service.stopFinished := by
  have responded := step_eq moved
  have elsewhere {place : Lifecycle} {target : RuntimeService} {assertion : Prop}
      (given : service.within place target = some next) (away : place.stops = false) : assertion := by
    rw [(within_eq given).1, away] at stops
    cases stops
  have kept {assertion : Prop} (same : next.lifecycle = service.lifecycle) : assertion := by
    rw [← same, ended] at stops
    cases stops
  cases event with
  | pipelineStopped closeRaised => exact .inl ⟨closeRaised, rfl, responded⟩
  | stopFinished =>
    simp only [respond] at responded
    split at responded
    · rename_i done
      exact .inr ⟨rfl, done, (within_eq (silent_eq responded).1).2⟩
    · cases responded
  | startCapture request =>
    simp only [respond] at responded
    split at responded
    · obtain ⟨_, given, same⟩ := Option.map_eq_some_iff.mp responded
      obtain ⟨rfl, rfl⟩ := Prod.mk.inj same
      exact elsewhere given rfl
    · exact elsewhere (silent_eq responded).1 rfl
  | recorderStarted =>
    have given := (silent_eq responded).1
    unfold RuntimeService.recorderStarted at given
    split at given <;> cases given
    cases ended
  | projectRecorderStarted sessionId world registered =>
    have given := (silent_eq responded).1
    unfold RuntimeService.projectRecorderStarted at given
    split at given <;> cases given
    cases ended
  | recorderStartRaised message => exact elsewhere (silent_eq responded).1 rfl
  | pipelineStartRaised message => exact elsewhere (silent_eq responded).1 rfl
  | pipelineStarted =>
    have given := (silent_eq responded).1
    unfold RuntimeService.pipelineStarted at given
    split at given <;> cases given
    rename_i opening _
    rw [opening] at stops
    cases stops
  | consumersCancelled => exact elsewhere (silent_eq responded).1 rfl
  | abortFinished =>
    simp only [respond] at responded
    split at responded
    · obtain ⟨_, given, same⟩ := Option.map_eq_some_iff.mp responded
      obtain ⟨rfl, rfl⟩ := Prod.mk.inj same
      exact elsewhere given rfl
    · cases responded
  | stopCapture => exact elsewhere (silent_eq responded).1 rfl
  | drained timedOut =>
    have given := (silent_eq responded).1
    unfold RuntimeService.drained at given
    split at given
    · cases given
      split at ended
      · cases (handleRecorderFailure_noted { service with
          archiveTask := ConsumerTask.cancelled service.archiveTask
          streamTask := ConsumerTask.cancelled service.streamTask
          lifecycle := .stopCleanup } drainTimedOut).lifecycle.symm.trans ended
      · cases ended
    · cases given
  | captured more =>
    have given := (silent_eq responded).1
    unfold RuntimeService.captured at given
    split at given <;> cases given
    exact kept rfl
  | captureFailed =>
    have given := (silent_eq responded).1
    unfold RuntimeService.captureFailed at given
    split at given
    · split at given <;> cases given
      exact kept rfl
    · cases given
  | metricsSnapshot =>
    simp only [respond, Option.some.injEq] at responded
    unfold RuntimeService.metricsSnapshot at responded
    dsimp only at responded
    split at responded <;> cases responded <;> exact kept rfl
  | _ => exact kept (respond_noted rfl responded).1.lifecycle

/-- A stop that goes on past its pipeline was let do so. -/
theorem pipelineStopped_clean {closeRaised : Bool} {answer : Answer}
    (moved : service.pipelineStopped closeRaised = some (next, answer)) :
    StopsCleanly service (.pipelineStopped closeRaised) ↔ next.lifecycle ≠ .idle := by
  unfold RuntimeService.pipelineStopped at moved
  split at moved
  · rename_i pipeline stopping held
    dsimp only at moved
    split at moved
    · rename_i raises
      cases moved
      simp [StopsCleanly, held, raises]
    · rename_i clean
      split at moved <;> cases moved
      · rename_i metrics fault told
        constructor
        · rintro ⟨_, within⟩
          rw [syncCounters_within within] at told
          cases told
        · intro away
          exact absurd rfl away
      · rename_i metrics told
        constructor
        · exact fun _ impossible => by cases impossible
        · intro _
          have below := syncCounters_ok told
          exact ⟨by simpa [held] using clean, below⟩
  · cases moved

private theorem pipelineStopped_held {closeRaised : Bool} {answer : Answer}
    (moved : service.pipelineStopped closeRaised = some (next, answer)) : next.pipeline ≠ none := by
  unfold RuntimeService.pipelineStopped at moved
  split at moved
  · dsimp only at moved
    split at moved
    · cases moved
      simp
    · split at moved <;> cases moved <;> simp
  · cases moved

/-- A stop that ends, by a return or by an exception, has released its capture exactly if
`pipeline.stop()` did not raise and no counter was ahead of its count. -/
theorem stop_releases {cleanupTimeout : Seconds} {timed : 0 < cleanupTimeout}
    {trace : List (ServiceEvent × Answer)} {service next : RuntimeService} {event : ServiceEvent}
    {answer : Answer}
    (run : Path RuntimeService.step anyLabel (.start cleanupTimeout timed) trace service)
    (stops : service.lifecycle.stops = true) (moved : service.step event = some (next, answer))
    (ended : next.lifecycle = .idle) : Released next ↔ StopsCleanly service event := by
  rcases stop_ends stops moved ended with ⟨closeRaised, rfl, stopped⟩ | ⟨rfl, done, rfl⟩
  · rw [pipelineStopped_clean stopped]
    constructor
    · intro released
      exact absurd released.pipeline (pipelineStopped_held stopped)
    · intro going
      exact absurd ended going
  · constructor
    · intro _
      trivial
    · intro _
      exact stopFinished_released (owned run) done

/-- A project capture that is stopped, up to the end of its cleanup. -/
def cleanStop : List ServiceEvent :=
  openedProject ++ [.pipelineStarted, .captured (someFrames 2), .stopCapture, .pipelineStopped false,
    .consumerEnded false, .consumerEnded true, .drained false, .cleanupJoined 0] ++
    List.replicate 23 (.recorderThread 0 (.work calm 0)) ++ [.cleanupReturned]

/-- Whether a stop is in progress, and where it leaves the lifecycle. -/
def stopSeen (service : RuntimeService) : Bool × Option Lifecycle :=
  (service.lifecycle.stops, (service.step .stopFinished).map (·.1.lifecycle))

/-- The stop of a project capture that went well. -/
theorem stop_releases_project :
    ∃ trace service next answer, Path RuntimeService.step anyLabel sampleService trace service ∧
      service.step .stopFinished = some (next, answer) ∧ Released next := by
  have evaluated : (follow RuntimeService.step sampleService cleanStop).map
      (fun reached => stopSeen reached.1) = some (true, some .idle) := by
    decide +kernel
  obtain ⟨trace, service, run, seen⟩ :=
    Path.observed cleanStop stopSeen _ (fun _ _ _ => trivial) evaluated
  obtain ⟨stops, ends⟩ := Prod.mk.inj seen
  obtain ⟨⟨next, answer⟩, moved, idle⟩ := Option.map_eq_some_iff.mp ends
  exact ⟨trace, service, next, answer, run, moved, (stop_releases run stops moved idle).mpr trivial⟩

structure HeldAfterStop where
  lifecycle : Lifecycle
  answer : Option Answer
  captureState : CaptureSessionState
  held : Bool
  stopCalled : List Bool
  rows : List (Option DataSessionState)
  refusal : Option Refusal
  deriving DecidableEq

def heldAfterStop (reached : RuntimeService × List (ServiceEvent × Answer)) : HeldAfterStop where
  lifecycle := reached.1.lifecycle
  answer := reached.2.getLast?.map Prod.snd
  captureState := reached.1.captureState
  held := reached.1.hasSession
  stopCalled := reached.1.recorders.map (·.recorder.finalizationStarted)
  rows := rowsSeen reached.1
  refusal := reached.1.refusal plainRequest

/-- A stop after the capture task has failed raises that failure, and keeps the capture, its
recorder and the session row as they are. -/
theorem failed_capture_held :
    ∃ trace service, Path RuntimeService.step anyLabel sampleService trace service ∧
      heldAfterStop (service, trace) = ⟨.idle, some .raised, .finalizing, true, [false], [some .active],
        some .alreadyRunning⟩ := by
  have evaluated : (followWithin RuntimeService.step (fun _ _ => true) sampleService
      (openedProject ++ [.pipelineStarted, .captureFailed, .stopCapture, .pipelineStopped false])).map
        heldAfterStop = some ⟨.idle, some .raised, .finalizing, true, [false], [some .active],
          some .alreadyRunning⟩ := by
    decide +kernel
  exact Path.observedWithin _ _ _ (fun _ _ _ => trivial) evaluated

end CanX.Runtime
