import CanX.Runtime.Ownership

/-! A startup that fails after its project recorder has opened a data session. -/

namespace CanX.Runtime

open Domain Data Recorder Transition RuntimeService

variable {service next : RuntimeService}

theorem pipelineStopped_recorders {closeRaised : Bool} {answer : Answer}
    (moved : service.pipelineStopped closeRaised = some (next, answer)) :
    next.recorders = service.recorders := by
  unfold RuntimeService.pipelineStopped at moved
  split at moved
  · dsimp only at moved
    split at moved
    · cases moved
      rfl
    · split at moved <;> cases moved <;> rfl
  · cases moved

theorem drained_evolves {timedOut : Bool} (moved : service.drained timedOut = some next) :
    Evolves service.recorders next.recorders := by
  unfold RuntimeService.drained at moved
  split at moved
  · cases moved
    split
    · exact (handleRecorderFailure_noted { service with
        archiveTask := ConsumerTask.cancelled service.archiveTask
        streamTask := ConsumerTask.cancelled service.streamTask
        lifecycle := .stopCleanup } drainTimedOut).evolves
    · exact .refl _
  · cases moved

/-- Whatever the service does, its recorders only move on. -/
theorem step_evolves {event : ServiceEvent} {answer : Answer}
    (moved : service.step event = some (next, answer)) : Evolves service.recorders next.recorders := by
  have responded := step_eq moved
  cases event with
  | startCapture request =>
    simp only [respond] at responded
    split at responded
    · obtain ⟨_, given, same⟩ := Option.map_eq_some_iff.mp responded
      obtain ⟨rfl, rfl⟩ := Prod.mk.inj same
      obtain ⟨_, rfl⟩ := within_eq given
      exact .refl _
    · obtain ⟨_, rfl⟩ := within_eq (silent_eq responded).1
      exact .refl _
  | recorderStarted =>
    have given := (silent_eq responded).1
    unfold RuntimeService.recorderStarted at given
    split at given <;> cases given
    exact .refl _
  | projectRecorderStarted sessionId world registered =>
    have given := (silent_eq responded).1
    unfold RuntimeService.projectRecorderStarted at given
    split at given <;> cases given
    exact .append _ _
  | recorderStartRaised message =>
    obtain ⟨_, rfl⟩ := within_eq (silent_eq responded).1
    exact (handleRecorderFailure_noted service (openFailed message)).evolves
  | pipelineStartRaised message =>
    obtain ⟨_, rfl⟩ := within_eq (silent_eq responded).1
    exact (handleRecorderFailure_noted service (openFailed message)).evolves
  | pipelineStarted =>
    have given := (silent_eq responded).1
    unfold RuntimeService.pipelineStarted at given
    split at given <;> cases given
    exact .refl _
  | consumersCancelled =>
    obtain ⟨_, rfl⟩ := within_eq (silent_eq responded).1
    exact .refl _
  | abortFinished =>
    simp only [respond] at responded
    split at responded
    · obtain ⟨_, given, same⟩ := Option.map_eq_some_iff.mp responded
      obtain ⟨rfl, rfl⟩ := Prod.mk.inj same
      obtain ⟨_, rfl⟩ := within_eq given
      exact .refl _
    · cases responded
  | stopCapture =>
    obtain ⟨_, rfl⟩ := within_eq (silent_eq responded).1
    unfold RuntimeService.stopCapture
    split <;> exact .refl _
  | pipelineStopped closeRaised =>
    rw [pipelineStopped_recorders responded]
    exact .refl _
  | drained timedOut => exact drained_evolves (silent_eq responded).1
  | stopFinished =>
    simp only [respond] at responded
    split at responded
    · obtain ⟨_, rfl⟩ := within_eq (silent_eq responded).1
      exact .refl _
    · cases responded
  | captured more =>
    have given := (silent_eq responded).1
    unfold RuntimeService.captured at given
    split at given <;> cases given
    exact .refl _
  | captureFailed =>
    have given := (silent_eq responded).1
    unfold RuntimeService.captureFailed at given
    split at given
    · split at given <;> cases given
      exact .refl _
    · cases given
  | metricsSnapshot =>
    simp only [respond, Option.some.injEq] at responded
    unfold RuntimeService.metricsSnapshot at responded
    dsimp only at responded
    split at responded <;> cases responded <;> exact .refl _
  | _ => exact (respond_noted rfl responded).1.evolves

theorem path_evolves {allowed : RuntimeService → ServiceEvent → Prop}
    {trace : List (ServiceEvent × Answer)}
    (path : Path RuntimeService.step allowed service trace next) :
    Evolves service.recorders next.recorders := by
  refine path.relates (fun before after => Evolves before.recorders after.recorders) (.refl _) ?_
  intro before event after answer evolved _ moved
  exact evolved.trans (step_evolves moved)

theorem Worker.passedGate_of_passing {worker : Worker} (held : worker.passing = false) :
    worker.passedGate = false := by
  cases worker with
  | awaitCommit | committing _ | recordCompleted => cases held
  | _ => rfl

/-- A recorder that was failed before its worker could pass never completes its session. -/
theorem condemned_uncompleted {state reached : Recording} {trace : List (Event × Option FrameBatch)}
    (healthy : Healthy state) (condemned : Condemned state.recorder state.worker)
    (path : Path Recording.step Expires state trace reached) :
    ¬RowCompleted reached.sessionId reached.world := by
  obtain ⟨later, kept⟩ := path_healthy healthy path
  have still := kept.condemned condemned
  exact (later.truthful.worker.uncompleted still.uncompleted
    (Worker.passedGate_of_passing still.held)).row

/-- A failure that is not noted yet reaches the recorder that has just been opened. -/
theorem startRaised_condemns {index : ℕ} {state : Recording} (backend : service.recorder = .project index)
    (held : service.recorders[index]? = some state) (fresh : Fresh state)
    (unfailed : service.failure = none) (message : String) :
    ∃ reached, (service.startRaised message).recorders[index]? = some reached ∧
      Condemned reached.recorder reached.worker := by
  let failed : Recording := { state with recorder := state.recorder.fail (openFailed message) }
  have driven : service.drive index (.report (openFailed message)) =
      some { service with recorders := service.recorders.set index failed } := by
    simp [RuntimeService.drive, held, Recording.step, failed]
  have recorded : (service.startRaised message).recorders = service.recorders.set index failed := by
    simp [RuntimeService.startRaised, RuntimeService.handleRecorderFailure, unfailed,
      RuntimeService.failRecorder, backend, RuntimeService.failAt, driven,
      RuntimeService.ensureRecorderCleanup]
  refine ⟨failed, ?_, ?_, fresh.uncompleted, ?_⟩
  · rw [recorded]
    exact set_self held failed
  · simp [failed, ProjectRecorder.fail, fresh.failure]
  · have absent : failed.worker = .absent := fresh.worker
    rw [absent]
    rfl

/-- A failure that is held from before keeps the new one from the recorder. -/
theorem startRaised_unnoted {failure : RecorderFailure} (held : service.failure = some failure)
    (message : String) : (service.startRaised message).recorders = service.recorders := by
  simp [RuntimeService.startRaised, RuntimeService.handleRecorderFailure, held]

/-- What an aborted startup owes the session it has opened: the recorder is failed before its
stop can decide, and the session never ends `COMPLETED`. -/
def AbortsRecording (service : RuntimeService) (index : ℕ) : Prop :=
  ∃ state, service.recorders[index]? = some state ∧ state.recorder.failure ≠ none ∧
    ∀ later final, Path RuntimeService.step anyLabel service later final →
      ∀ reached, final.recorders[index]? = some reached →
        ¬RowCompleted reached.sessionId reached.world

/-- A startup that is aborted with its recorder open fails that recorder exactly if the service
holds no failure from before. -/
theorem aborted_start_fails {cleanupTimeout : Seconds} {timed : 0 < cleanupTimeout}
    {trace : List (ServiceEvent × Answer)} {service next : RuntimeService} {index : ℕ}
    {message : String} {answer : Answer}
    (run : Path RuntimeService.step anyLabel (.start cleanupTimeout timed) trace service)
    (backend : service.recorder = .project index)
    (raised : service.step (.pipelineStartRaised message) = some (next, answer)) :
    AbortsRecording next index ↔ service.failure = none := by
  have inv := owned run
  obtain ⟨opening, rfl⟩ := within_eq (silent_eq (step_eq raised)).1
  have within : index < service.recorders.length := inv.last index (inv.backend index backend)
  have held := List.getElem?_eq_getElem within
  have fresh := inv.fresh opening index _ backend held
  constructor
  · rintro ⟨state, found, failed, -⟩
    cases noted : service.failure with
    | none => rfl
    | some failure =>
      rw [startRaised_unnoted noted message, held] at found
      obtain rfl := Option.some.inj found
      exact absurd fresh.failure failed
  · intro unfailed
    obtain ⟨state, found, condemned⟩ := startRaised_condemns backend held fresh unfailed message
    have healthy := (inv.step raised).recorders index state found
    refine ⟨state, found, condemned.failed, ?_⟩
    intro later final path reached same
    obtain ⟨taken, after, kept, moved⟩ := path_evolves path index state found
    obtain rfl := Option.some.inj (same.symm.trans kept)
    exact condemned_uncompleted healthy condemned moved

/-- The first startup of a service, aborted when its pipeline does not start. -/
theorem aborted_start_fails_first :
    ∃ trace service next answer, Path RuntimeService.step anyLabel sampleService trace service ∧
      service.step (.pipelineStartRaised "adapter") = some (next, answer) ∧
      AbortsRecording next 0 := by
  cases followed : follow RuntimeService.step sampleService openedProject with
  | none => cases followed
  | some reached =>
    obtain ⟨service, trace⟩ := reached
    have run : Path RuntimeService.step anyLabel sampleService trace service :=
      .of_follow (fun _ _ _ => trivial) followed
    have backend : service.recorder = .project 0 := by
      cases followed
      rfl
    have unfailed : service.failure = none := by
      cases followed
      rfl
    have raised : ∃ next answer,
        service.step (.pipelineStartRaised "adapter") = some (next, answer) := by
      cases followed
      exact ⟨_, _, rfl⟩
    obtain ⟨next, answer, raised⟩ := raised
    exact ⟨trace, service, next, answer, run, raised,
      (aborted_start_fails run backend raised).mpr unfailed⟩

/-- A startup that is aborted, and its cleanup up to the wait for the recorder. -/
def abortedStart : List ServiceEvent :=
  [.pipelineStartRaised "adapter", .consumersCancelled, .cleanupJoined 0]

/-- Two aborted startups, the second of a project recording. -/
def abortedTwice : List ServiceEvent :=
  [.startCapture plainRequest, .recorderStarted] ++ abortedStart ++ [.cleanupReturned, .abortFinished] ++
    openedProject ++ abortedStart ++ List.replicate 23 (.recorderThread 0 (.work calm 0)) ++
    [.cleanupReturned, .abortFinished]

/-- The failure of the first startup is still held when the second one is aborted, and the
session that the second has opened ends `COMPLETED`. -/
theorem aborted_twice_completes :
    ∃ trace service, Path RuntimeService.step anyLabel sampleService trace service ∧
      rowsSeen service = [some .completed] :=
  Path.observed abortedTwice rowsSeen _ (fun _ _ _ => trivial) (by decide +kernel)

end CanX.Runtime
