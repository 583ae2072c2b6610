import CanX.Runtime.Release

/-! The state `finalizing`, and the task that ends it. -/

namespace CanX.Runtime

open Domain Data Recorder Transition RuntimeService

variable {service next : RuntimeService} {cause : ServiceEvent}

theorem Lifecycle.early_outside {place : Lifecycle} (early : place.early = true) :
    place.stops = false := by
  cases place with
  | starting | opening => rfl
  | _ => cases early

/-- What no run may meet: a stop that raises while it reports `finalizing` and nothing waits
for the recorder; a stop that leaves a pending finalization without a task; a completed
finalization whose task finds a failure, outside a stop. -/
def Attended (service : RuntimeService) : ServiceEvent → Prop
  | .pipelineStopped closeRaised => service.captureState = .finalizing → service.settlement = none →
    StopsCleanly service (.pipelineStopped closeRaised)
  | .stopFinished => service.failure = none → service.settlement = none →
    service.finalizationOutstanding = false
  | .settlementWoke => service.captureState = .finalizing → service.lifecycle.stops = false →
    ∀ state, service.lookup service.settlement = some state → state.recorder.completed = true →
      service.failure = none
  | _ => True

/-- `finalizing` has a stop in progress or a task; a failure is never reported as rest; a task
waits only once the cleanup is over. -/
structure Finalized (service : RuntimeService) : Prop where
  owned : service.captureState = .finalizing →
    service.settlement.isSome = true ∨ service.lifecycle.stops = true
  failed : service.failure ≠ none → service.captureState ≠ .idle
  aborted : service.lifecycle = .abortCleanup → service.pipeline = none
  waits : service.settlement.isSome = true → service.cleanup = some .done ∨
    service.cleanup = none ∧ Vacant service

/-- What a step leaves of the grounds of `Finalized`. -/
structure StaysFinalized (service next : RuntimeService) : Prop where
  owned : service.settlement.isSome = true ∨ service.lifecycle.stops = true →
    next.settlement.isSome = true ∨ next.lifecycle.stops = true
  aborted : next.lifecycle = .abortCleanup → next.pipeline = none
  waits : next.settlement.isSome = true → next.cleanup = some .done ∨ next.cleanup = none ∧ Vacant next

namespace Finalized

theorem start (cleanupTimeout : Seconds) (timed : 0 < cleanupTimeout) :
    Finalized (.start cleanupTimeout timed) where
  owned finalizing := by cases finalizing
  failed held := absurd rfl held
  aborted aborted := by cases aborted
  waits waiting := by cases waiting

/-- A step that keeps what is reported, or reports a failure. -/
theorem reports (finalized : Finalized service)
    (reported : next.failure = service.failure ∧ next.captureState = service.captureState ∨
      next.captureState = .degraded ∨ next.captureState = .failed)
    (stays : StaysFinalized service next) : Finalized next where
  owned finalizing := by
    rcases reported with ⟨_, same⟩ | degraded | failed
    · exact stays.owned (finalized.owned (same ▸ finalizing))
    · cases degraded.symm.trans finalizing
    · cases failed.symm.trans finalizing
  failed held idle := by
    rcases reported with ⟨failure, same⟩ | degraded | failed
    · exact finalized.failed (failure ▸ held) (same ▸ idle)
    · cases degraded.symm.trans idle
    · cases failed.symm.trans idle
  aborted := stays.aborted
  waits := stays.waits

/-- A task that waits for the recorder, while the service is in no startup. -/
theorem waits_done (finalized : Finalized service) (waiting : service.settlement.isSome = true)
    (busy : service.lifecycle ≠ .idle ∨ service.pipeline ≠ none) : service.cleanup = some .done := by
  rcases finalized.waits waiting with done | ⟨_, vacant⟩
  · exact done
  · rcases busy with away | held
    · exact absurd vacant.lifecycle away
    · exact absurd vacant.pipeline held

/-- The grounds are kept by a background step that leaves the settlement and the cleanup. -/
theorem stays (finalized : Finalized service) (noted : Noted service next)
    (settlement : next.settlement = service.settlement)
    (cleanup : service.settlement.isSome = true → next.cleanup = service.cleanup) :
    StaysFinalized service next where
  owned grounds := by rwa [settlement, noted.lifecycle]
  aborted aborted := noted.pipeline.trans (finalized.aborted (noted.lifecycle ▸ aborted))
  waits waiting := by
    rw [settlement] at waiting
    rw [cleanup waiting]
    rcases finalized.waits waiting with done | ⟨none, vacant⟩
    · exact .inl done
    · exact .inr ⟨none, noted.lifecycle.trans vacant.lifecycle, noted.pipeline.trans vacant.pipeline⟩

/-- The outcome of a settled recorder is reported. -/
theorem woke (finalized : Finalized service) (noted : Noted service next) {index : ℕ}
    {state : Recording} (waiting : service.settlement = some index)
    (held : service.recorders[index]? = some state) (settlement : next.settlement = none)
    (reported : Reported service next state.recorder.finalizationOutcome)
    (attended : Attended service .settlementWoke) : Finalized next := by
  have found : service.lookup service.settlement = some state := by
    rw [RuntimeService.lookup, waiting]
    exact held
  have aborted : next.lifecycle = .abortCleanup → next.pipeline = none := fun aborted =>
    noted.pipeline.trans (finalized.aborted (noted.lifecycle ▸ aborted))
  have unwaiting : ∀ {assertion : Prop}, next.settlement.isSome = true → assertion := by
    intro assertion waited
    rw [settlement] at waited
    cases waited
  cases outcome : state.recorder.finalizationOutcome with
  | completed =>
    rw [outcome] at reported
    obtain ⟨failure, captureState⟩ := reported
    by_cases unfailed : service.failure = none
    · rw [if_pos unfailed] at captureState
      refine ⟨fun finalizing => ?_, fun failed => ?_, aborted, unwaiting⟩
      · cases captureState.symm.trans finalizing
      · exact absurd (failure.trans unfailed) failed
    · rw [if_neg unfailed] at captureState
      refine ⟨fun finalizing => ?_, fun held => ?_, aborted, unwaiting⟩
      · right
        rw [noted.lifecycle]
        by_contra outside
        have completed := outcome_completed outcome
        exact unfailed (attended (captureState ▸ finalizing) (Bool.not_eq_true _ ▸ outside) state
          found completed)
      · rw [captureState]
        exact finalized.failed (failure ▸ held)
  | failed | pending =>
    rw [outcome] at reported
    have captureState : next.captureState = .failed := reported
    refine ⟨fun finalizing => ?_, fun _ idle => ?_, aborted, unwaiting⟩
    · cases captureState.symm.trans finalizing
    · cases captureState.symm.trans idle

theorem background (finalized : Finalized service) (noted : Noted service next)
    (turn : Turn cause service next) (attended : Attended service cause) : Finalized next := by
  cases turn with
  | kept driven cleanup settlement captureState failure =>
    exact finalized.reports (.inl ⟨failure, captureState⟩)
      (finalized.stays noted settlement (fun _ => cleanup))
  | failed live marked =>
    refine finalized.reports marked.reported (finalized.stays noted marked.settlement ?_)
    intro waiting
    have held : service.pipeline ≠ none := by
      rcases live with running | publishing
      · rintro none
        rw [none] at running
        cases running
      · rintro none
        simp [RuntimeService.publishing, none] at publishing
    have done := finalized.waits_done waiting (.inr held)
    rcases marked.cleanup with same | joined
    · exact same
    · rw [joined, done]
      rfl
  | asked joining cleanup settlement captureState failure =>
    refine finalized.reports (.inl ⟨failure, captureState⟩) (finalized.stays noted settlement ?_)
    intro waiting
    rcases finalized.waits waiting with done | ⟨none, _⟩
    · cases joining.symm.trans done
    · cases joining.symm.trans none
  | ended awaiting cleanup settlement reported =>
    refine finalized.reports reported (finalized.stays noted settlement ?_)
    intro waiting
    rcases awaiting with place | place
    · rcases finalized.waits waiting with done | ⟨none, _⟩
      · cases place.symm.trans done
      · cases place.symm.trans none
    · rcases finalized.waits waiting with done | ⟨none, _⟩
      · cases place.symm.trans done
      · cases place.symm.trans none
  | @pending index state closing backend held returned cleanup settlement captureState failure =>
    refine ⟨fun _ => .inl ?_, fun _ idle => ?_, ?_, fun _ => .inl cleanup⟩
    · rw [settlement]
      cases service.settlement <;> rfl
    · cases captureState.symm.trans idle
    · exact fun aborted => noted.pipeline.trans (finalized.aborted (noted.lifecycle ▸ aborted))
  | woke wakes waiting held settled settlement cleanup reported =>
    exact finalized.woke noted waiting held settlement reported (wakes ▸ attended)

/-- A step between two places of the lifecycle that keeps what is reported. -/
theorem placed (finalized : Finalized service) (failure : next.failure = service.failure)
    (captureState : next.captureState = service.captureState)
    (settlement : next.settlement = service.settlement)
    (stops : service.lifecycle.stops = true → next.lifecycle.stops = true)
    (aborted : next.lifecycle = .abortCleanup → next.pipeline = none)
    (waits : service.settlement.isSome = true → next.cleanup = some .done ∨
      next.cleanup = none ∧ Vacant next) : Finalized next := by
  refine finalized.reports (.inl ⟨failure, captureState⟩) ⟨?_, aborted, ?_⟩
  · intro grounds
    rw [settlement]
    exact grounds.imp_right stops
  · intro waiting
    exact waits (settlement ▸ waiting)

/-- A startup in whatever place has no task. -/
theorem early (finalized : Finalized service) (inv : Owned service)
    (place : service.lifecycle.early = true) (failure : next.failure = service.failure)
    (captureState : next.captureState = service.captureState)
    (settlement : next.settlement = service.settlement)
    (unaborted : next.lifecycle ≠ .abortCleanup) : Finalized next := by
  have unsettled : service.settlement = none := (inv.early place).2
  refine finalized.placed failure captureState settlement ?_ (fun aborted => absurd aborted unaborted) ?_
  · intro stops
    rw [Lifecycle.early_outside place] at stops
    cases stops
  · intro waiting
    rw [unsettled] at waiting
    cases waiting

theorem startCapture {request : CaptureRequest} (finalized : Finalized service)
    (idle : service.lifecycle = .idle) (accepted : service.refusal request = none) :
    Finalized (service.startCapture request) := by
  have unsettled : service.settlement = none := by
    have settled := (accepted_free accepted).2
    simp only [RuntimeService.finalizationOutstanding, Bool.or_eq_false_iff] at settled
    simpa using settled.1
  refine finalized.placed rfl rfl rfl ?_ (fun aborted => by cases aborted) ?_
  · intro stops
    rw [idle] at stops
    cases stops
  · intro waiting
    rw [unsettled] at waiting
    cases waiting

theorem recorderStarted (finalized : Finalized service) (inv : Owned service)
    (moved : service.recorderStarted = some next) : Finalized next := by
  unfold RuntimeService.recorderStarted at moved
  split at moved <;> cases moved
  rename_i starting _
  exact finalized.early inv (by rw [starting]; rfl) rfl rfl rfl nofun

theorem projectRecorderStarted {sessionId : Uuid} {world : World} (finalized : Finalized service)
    (inv : Owned service) (moved : service.projectRecorderStarted sessionId world = some next) :
    Finalized next := by
  unfold RuntimeService.projectRecorderStarted at moved
  split at moved <;> cases moved
  rename_i starting _
  exact finalized.early inv (by rw [starting]; rfl) rfl rfl rfl nofun

theorem startRaised (finalized : Finalized service) (inv : Owned service)
    (early : service.lifecycle.early = true) (message : String) :
    Finalized (service.startRaised message) := by
  have marked := handleRecorderFailure_marked service (openFailed message)
  have unsettled : service.settlement = none := (inv.early early).2
  refine finalized.reports marked.reported ⟨?_, fun aborted => (by cases aborted), ?_⟩
  · rintro (waiting | stops)
    · rw [unsettled] at waiting
      cases waiting
    · rw [Lifecycle.early_outside early] at stops
      cases stops
  · intro waiting
    have settlement : (service.startRaised message).settlement = none :=
      marked.settlement.trans unsettled
    rw [settlement] at waiting
    cases waiting

theorem pipelineStarted (inv : Owned service) (moved : service.pipelineStarted = some next) :
    Finalized next := by
  unfold RuntimeService.pipelineStarted at moved
  split at moved <;> cases moved
  rename_i opening _
  have unsettled : service.settlement = none := (inv.early (by rw [opening]; rfl)).2
  refine ⟨?_, fun held => absurd rfl held, ?_, ?_⟩
  · intro finalizing
    cases finalizing
  · intro aborted
    cases aborted
  · intro waiting
    simp only [unsettled] at waiting
    cases waiting

theorem consumersCancelled (finalized : Finalized service) (aborting : service.lifecycle = .aborting) :
    Finalized service.consumersCancelled := by
  refine ⟨fun finalizing => (by cases finalizing), fun _ idle => (by cases idle), fun _ => rfl, ?_⟩
  intro waiting
  have done := finalized.waits_done waiting (.inl (by rw [aborting]; nofun))
  left
  simp [RuntimeService.consumersCancelled, RuntimeService.ensureRecorderCleanup, done]

theorem abortFinished (finalized : Finalized service) (aborted : service.lifecycle = .abortCleanup) :
    Finalized service.abortFinished := by
  refine finalized.placed rfl rfl rfl ?_ (fun again => by cases again) ?_
  · intro stops
    rw [aborted] at stops
    cases stops
  · exact fun _ => .inr ⟨rfl, rfl, finalized.aborted aborted⟩

theorem stopCapture (finalized : Finalized service) : Finalized service.stopCapture := by
  unfold RuntimeService.stopCapture
  split
  · rename_i session
    refine ⟨fun _ => .inr rfl, ?_, fun aborted => (by cases aborted), ?_⟩
    · intro held
      have failed : service.failure ≠ none := held
      simp only [if_neg failed]
      exact finalized.failed failed
    · intro waiting
      left
      refine finalized.waits_done waiting (.inr ?_)
      intro none
      simp [RuntimeService.hasSession, none] at session
  · exact finalized

theorem pipelineStopped {closeRaised : Bool} {answer : Answer} (finalized : Finalized service)
    (moved : service.pipelineStopped closeRaised = some (next, answer))
    (attended : Attended service (.pipelineStopped closeRaised)) : Finalized next := by
  have clean := pipelineStopped_clean moved
  have held : next.failure = service.failure ∧ next.captureState = service.captureState ∧
      next.settlement = service.settlement ∧ next.cleanup = service.cleanup ∧
      service.lifecycle = .stopping ∧ (next.lifecycle = .idle ∨ next.lifecycle = .draining) := by
    unfold RuntimeService.pipelineStopped at moved
    split at moved
    · dsimp only at moved
      rename_i stopping _
      split at moved
      · cases moved
        exact ⟨rfl, rfl, rfl, rfl, stopping, .inl rfl⟩
      · split at moved <;> cases moved
        · exact ⟨rfl, rfl, rfl, rfl, stopping, .inl rfl⟩
        · exact ⟨rfl, rfl, rfl, rfl, stopping, .inr rfl⟩
    · cases moved
  obtain ⟨failure, captureState, settlement, cleanup, stopping, place⟩ := held
  have waits : next.settlement.isSome = true → next.cleanup = some .done ∨
      next.cleanup = none ∧ Vacant next := by
    intro waiting
    rw [cleanup]
    exact .inl (finalized.waits_done (settlement ▸ waiting) (.inl (by simp [stopping])))
  have unaborted : next.lifecycle = .abortCleanup → next.pipeline = none := by
    intro aborted
    rcases place with idle | draining
    · cases idle.symm.trans aborted
    · cases draining.symm.trans aborted
  refine ⟨?_, ?_, unaborted, waits⟩
  · intro finalizing
    cases waiting : service.settlement with
    | some index => exact .inl (by rw [settlement, waiting]; rfl)
    | none =>
      have stops := clean.mp (attended (captureState ▸ finalizing) waiting)
      rcases place with idle | draining
      · exact absurd idle stops
      · exact .inr (by rw [draining]; rfl)
  · rw [failure, captureState]
    exact finalized.failed

theorem drained {timedOut : Bool} (finalized : Finalized service)
    (moved : service.drained timedOut = some next) : Finalized next := by
  unfold RuntimeService.drained at moved
  split at moved
  · rename_i draining
    cases moved
    let ended : RuntimeService := { service with
      archiveTask := ConsumerTask.cancelled service.archiveTask
      streamTask := ConsumerTask.cancelled service.streamTask
      lifecycle := .stopCleanup }
    have done : service.settlement.isSome = true → service.cleanup = some .done := fun waiting =>
      finalized.waits_done waiting (.inl (by simp [draining.1]))
    have ensured : ∀ after : RuntimeService, Marked ended after → after.lifecycle = .stopCleanup →
        Finalized after.ensureRecorderCleanup := by
      intro after marked place
      refine finalized.reports marked.reported ⟨fun _ => .inr (congrArg Lifecycle.stops place), ?_, ?_⟩
      · intro aborted
        cases place.symm.trans aborted
      · intro waiting
        have before := done (marked.settlement ▸ waiting)
        left
        rcases marked.cleanup with same | joined
        · simp [RuntimeService.ensureRecorderCleanup, same.trans before]
        · have past : after.cleanup = some .done := by
            rw [joined]
            simp [ended, before]
          simp [RuntimeService.ensureRecorderCleanup, past]
    split
    · exact ensured _ (handleRecorderFailure_marked ended drainTimedOut)
        (handleRecorderFailure_noted ended drainTimedOut).lifecycle
    · exact ensured ended (.refl ended) rfl
  · cases moved

theorem stopFinished (attended : Attended service .stopFinished) : Finalized service.stopFinished := by
  refine ⟨?_, ?_, fun aborted => (by cases aborted), fun _ => .inr ⟨rfl, rfl, rfl⟩⟩
  · intro finalizing
    left
    simp only [RuntimeService.stopFinished] at finalizing
    split at finalizing
    · cases finalizing
    · rename_i unfailed
      split at finalizing
      · rename_i outstanding
        cases waiting : service.settlement with
        | some index => simp [RuntimeService.stopFinished, waiting]
        | none =>
          have settled := attended (by simpa using unfailed) waiting
          cases settled.symm.trans outstanding
      · cases finalizing
  · intro held
    have failed : service.failure ≠ none := held
    simp [RuntimeService.stopFinished, failed]

theorem step {event : ServiceEvent} {answer : Answer} (finalized : Finalized service)
    (inv : Owned service) (attended : Attended service event)
    (moved : service.step event = some (next, answer)) : Finalized next := by
  have responded := step_eq moved
  have running : ∀ after : RuntimeService, after.failure = service.failure →
      after.captureState = service.captureState → after.settlement = service.settlement →
      after.cleanup = service.cleanup → after.lifecycle = service.lifecycle →
      (after.pipeline = none ↔ service.pipeline = none) → Finalized after := by
    intro after failure captureState settlement cleanup lifecycle pipeline
    refine finalized.placed failure captureState settlement (by rw [lifecycle]; exact id) ?_ ?_
    · intro aborted
      exact pipeline.mpr (finalized.aborted (lifecycle ▸ aborted))
    · intro waiting
      rw [cleanup]
      rcases finalized.waits waiting with done | ⟨none, vacant⟩
      · exact .inl done
      · exact .inr ⟨none, lifecycle.trans vacant.lifecycle, pipeline.mpr vacant.pipeline⟩
  cases event with
  | startCapture request =>
    simp only [respond] at responded
    split at responded
    · obtain ⟨_, given, same⟩ := Option.map_eq_some_iff.mp responded
      obtain ⟨rfl, rfl⟩ := Prod.mk.inj same
      obtain ⟨_, rfl⟩ := within_eq given
      exact finalized
    · rename_i accepted
      obtain ⟨idle, rfl⟩ := within_eq (silent_eq responded).1
      exact finalized.startCapture idle accepted
  | recorderStarted => exact finalized.recorderStarted inv (silent_eq responded).1
  | projectRecorderStarted sessionId world registered =>
    exact finalized.projectRecorderStarted inv (silent_eq responded).1
  | recorderStartRaised message =>
    obtain ⟨starting, rfl⟩ := within_eq (silent_eq responded).1
    exact finalized.startRaised inv (by rw [starting]; rfl) message
  | pipelineStartRaised message =>
    obtain ⟨opening, rfl⟩ := within_eq (silent_eq responded).1
    exact finalized.startRaised inv (by rw [opening]; rfl) message
  | pipelineStarted => exact pipelineStarted inv (silent_eq responded).1
  | consumersCancelled =>
    obtain ⟨aborting, rfl⟩ := within_eq (silent_eq responded).1
    exact finalized.consumersCancelled aborting
  | abortFinished =>
    simp only [respond] at responded
    split at responded
    · obtain ⟨_, given, same⟩ := Option.map_eq_some_iff.mp responded
      obtain ⟨rfl, rfl⟩ := Prod.mk.inj same
      obtain ⟨aborted, rfl⟩ := within_eq given
      exact finalized.abortFinished aborted
    · cases responded
  | stopCapture =>
    obtain ⟨_, rfl⟩ := within_eq (silent_eq responded).1
    exact finalized.stopCapture
  | pipelineStopped closeRaised => exact finalized.pipelineStopped responded attended
  | drained timedOut => exact finalized.drained (silent_eq responded).1
  | stopFinished =>
    simp only [respond] at responded
    split at responded
    · obtain ⟨_, rfl⟩ := within_eq (silent_eq responded).1
      exact stopFinished attended
    · cases responded
  | captured more =>
    have given := (silent_eq responded).1
    unfold RuntimeService.captured at given
    split at given <;> cases given
    rename_i held
    exact running _ rfl rfl rfl rfl rfl (by simp [held])
  | captureFailed =>
    have given := (silent_eq responded).1
    unfold RuntimeService.captureFailed at given
    split at given
    · rename_i held
      split at given <;> cases given
      exact running _ rfl rfl rfl rfl rfl (by simp [held])
    · cases given
  | metricsSnapshot =>
    simp only [respond, Option.some.injEq] at responded
    unfold RuntimeService.metricsSnapshot at responded
    dsimp only at responded
    split at responded <;> cases responded <;> exact running _ rfl rfl rfl rfl rfl Iff.rfl
  | _ =>
    exact finalized.background (respond_noted rfl responded).1 (respond_turn rfl responded) attended

end Finalized

/-- Only the threads of the recorders run. -/
def ThreadsRun (_ : RuntimeService) (event : ServiceEvent) : Prop :=
  ∃ index thread, event = .recorderThread index thread

/-- The threads of a recorder whose owner has its answer run inside the service. -/
theorem threads_run {index : ℕ} {state final : Recording} {outcome : FinalizationOutcome}
    {trace : List (Event × Option FrameBatch)} (held : service.recorders[index]? = some state)
    (returned : state.owner = .returned outcome)
    (path : Path Recording.step ThreadsOnly state trace final) :
    final.owner = .returned outcome ∧ ∃ later, Path RuntimeService.step ThreadsRun service later
      { service with recorders := service.recorders.set index final } := by
  have within : index < service.recorders.length := (List.getElem?_eq_some_iff.mp held).1
  induction path with
  | refl =>
    have same : service.recorders.set index state = service.recorders := by
      rw [List.getElem?_eq_getElem within] at held
      rw [← Option.some.inj held]
      exact List.set_getElem_self within
    rw [same]
    exact ⟨returned, [], .refl⟩
  | @snoc trace middle event next answer prior admitted moved ih =>
    obtain ⟨before, later, run⟩ := ih
    have thread : event.byThread = true := by
      rcases admitted with thread | rfl
      · exact thread
      · simp [Recording.step, Recording.silent, Recording.own, before] at moved
    have found : (service.recorders.set index middle)[index]? = some middle := set_self held middle
    have driven : RuntimeService.step { service with recorders := service.recorders.set index middle }
        (.recorderThread index event) =
          some ({ service with recorders := service.recorders.set index next }, .silent) := by
      simp [RuntimeService.step, ServiceEvent.offLoop, respond, thread, RuntimeService.drive, found,
        moved, silent]
    exact ⟨step_returned moved before, _, .snoc run ⟨index, event, rfl⟩ driven⟩

/-- The settlement task will find the recorder it waits for settled. -/
def WillSettle (service : RuntimeService) : Prop :=
  ∃ later final woken answer, Path RuntimeService.step ThreadsRun service later final ∧
    final.step .settlementWoke = some (woken, answer)

theorem settlement_wakes (inv : Owned service) (finalized : Finalized service)
    (waiting : service.settlement.isSome = true) : WillSettle service := by
  obtain ⟨index, waited⟩ := Option.isSome_iff_exists.mp waiting
  obtain ⟨last, state, held, returned⟩ := inv.settlement index waited
  have healthy := inv.recorders index state held
  have begun := healthy.unsettled returned
  have finish : CanFinish state := by
    by_cases live : state.worker.live = true
    · exact live_finishes live
    · exact .here (Worker.ended begun live)
  obtain ⟨trace, final, path, finished⟩ := finish
  obtain ⟨_, later, run⟩ := threads_run held returned path
  have flagged := (path_keeps healthy.truthful path.anyLabel).2.flagged healthy.flagged
  have settled : final.recorder.finalizationSettled = true := by
    rw [flagged.settled, finished]
    rfl
  have open_loop : service.cleanup ≠ some .closingGate := by
    rcases finalized.waits waiting with done | ⟨none, _⟩
    · rw [done]
      nofun
    · rw [none]
      nofun
  have wakes : ∃ woken, RuntimeService.settlementWoke
      { service with recorders := service.recorders.set index final } = some woken :=
    settlementWoke_some waited (set_self held final) settled
  obtain ⟨woken, moved⟩ := wakes
  refine ⟨later, _, woken, .silent, run, ?_⟩
  simp [RuntimeService.step, open_loop, respond, moved, silent]

/-- What a settled recorder says of its session row. -/
theorem settled_row {state : Recording} (healthy : Healthy state) (finished : state.worker = .finished) :
    state.recorder.completed = true ↔ RowCompleted state.sessionId state.world := by
  have decided : Decided state.sessionId state.world state.recorder := by
    have ok := healthy.truthful.worker
    rw [finished] at ok
    exact ok
  rcases decided with ⟨completed, shut⟩ | ⟨uncompleted, opened⟩
  · exact ⟨fun _ => shut.row, fun _ => completed⟩
  · constructor
    · intro completed
      cases uncompleted.symm.trans completed
    · intro row
      exact absurd row opened.row

/-- The task that settles a finalization reports rest exactly for a completed session and no
failure. -/
structure SettlesTruly (service woken : RuntimeService) : Prop where
  settlement : woken.settlement = none
  ends : service.captureState = .finalizing → service.lifecycle.stops = false →
    woken.captureState = .idle ∨ woken.captureState = .failed
  idle : ∀ index state, service.settlement = some index → service.recorders[index]? = some state →
    (woken.captureState = .idle ↔
      RowCompleted state.sessionId state.world ∧ service.failure = none)

theorem settles_truly {woken : RuntimeService} {answer : Answer} (inv : Owned service)
    (finalized : Finalized service) (attended : Attended service .settlementWoke)
    (moved : service.step .settlementWoke = some (woken, answer)) : SettlesTruly service woken := by
  obtain ⟨index, state, waiting, held, woke⟩ := settlementWoke_eq (silent_eq (step_eq moved)).1
  have healthy := inv.recorders index state held
  obtain ⟨_, recorder, found, returned⟩ := inv.settlement index waiting
  obtain rfl := Option.some.inj (held.symm.trans found)
  have finished := finished_of_settled healthy (healthy.unsettled returned) woke.settled
  have row := settled_row healthy finished
  have looked : service.lookup service.settlement = some state := by
    rw [RuntimeService.lookup, waiting]
    exact held
  have outcome : state.recorder.finalizationOutcome =
      if state.recorder.completed = true then .completed else .failed := by
    rw [ProjectRecorder.finalizationOutcome, healthy.flagged.inFlight, healthy.flagged.started, finished]
    simp [Worker.inFlight, Worker.present]
  have reported := woke.reported
  rw [outcome] at reported
  by_cases completed : state.recorder.completed = true
  · rw [if_pos completed] at reported
    obtain ⟨_, captureState⟩ := reported
    by_cases unfailed : service.failure = none
    · rw [if_pos unfailed] at captureState
      refine ⟨woke.settlement, fun _ _ => .inl captureState, ?_⟩
      intro position other waited seen
      obtain rfl := Option.some.inj (waiting.symm.trans waited)
      obtain rfl := Option.some.inj (held.symm.trans seen)
      exact ⟨fun _ => ⟨row.mp completed, unfailed⟩, fun _ => captureState⟩
    · rw [if_neg unfailed] at captureState
      refine ⟨woke.settlement, ?_, ?_⟩
      · intro finalizing outside
        exact absurd (attended finalizing outside state looked completed) unfailed
      · intro position other waited seen
        constructor
        · intro idle
          exact absurd (captureState.symm.trans idle) (finalized.failed unfailed)
        · rintro ⟨_, none⟩
          exact absurd none unfailed
  · rw [if_neg completed] at reported
    have captureState : woken.captureState = .failed := reported
    refine ⟨woke.settlement, fun _ _ => .inr captureState, ?_⟩
    intro position other waited seen
    obtain rfl := Option.some.inj (waiting.symm.trans waited)
    obtain rfl := Option.some.inj (held.symm.trans seen)
    constructor
    · intro idle
      cases captureState.symm.trans idle
    · rintro ⟨completes, _⟩
      exact absurd (row.mpr completes) completed

/-- In a run whose steps are all attended, `finalizing` between two calls has a task that will
settle it, and every such task settles truly. -/
theorem finalizing_attended {cleanupTimeout : Seconds} {timed : 0 < cleanupTimeout}
    {trace : List (ServiceEvent × Answer)} {service : RuntimeService}
    (run : Path RuntimeService.step Attended (.start cleanupTimeout timed) trace service) :
    (service.lifecycle = .idle → service.captureState = .finalizing →
      service.settlement.isSome = true ∧ WillSettle service) ∧
    ∀ woken answer, Attended service .settlementWoke →
      service.step .settlementWoke = some (woken, answer) → SettlesTruly service woken := by
  have inv : Owned service ∧ Finalized service := by
    refine run.preserves (fun reached => Owned reached ∧ Finalized reached) ?_
      ⟨.start cleanupTimeout timed, .start cleanupTimeout timed⟩
    intro before event after answer ⟨held, finalized⟩ attended moved
    exact ⟨held.step moved, finalized.step held attended moved⟩
  obtain ⟨inv, finalized⟩ := inv
  refine ⟨?_, fun woken answer attended moved => settles_truly inv finalized attended moved⟩
  intro idle finalizing
  have waiting : service.settlement.isSome = true := by
    rcases finalized.owned finalizing with waiting | stops
    · exact waiting
    · rw [idle] at stops
      cases stops
  exact ⟨waiting, settlement_wakes inv finalized waiting⟩

/-- The executable form of `Attended`, a little stricter. -/
def attended (service : RuntimeService) : ServiceEvent → Bool
  | .pipelineStopped closeRaised =>
    !service.pipeline.any (CapturePipeline.stopRaises · closeRaised) &&
      decide (service.metrics.Within (service.totals.add service.counts))
  | .stopFinished => service.settlement.isSome || !service.finalizationOutstanding
  | .settlementWoke => decide (service.failure = none)
  | _ => true

private theorem attended_sound (service : RuntimeService) (event : ServiceEvent)
    (passed : attended service event = true) : Attended service event := by
  cases event with
  | pipelineStopped closeRaised =>
    simp only [attended, Bool.and_eq_true, Bool.not_eq_true', decide_eq_true_eq] at passed
    exact fun _ _ => passed
  | stopFinished =>
    intro _ unsettled
    simpa [attended, unsettled] using passed
  | settlementWoke =>
    intro _ _ _ _ _
    simpa [attended] using passed
  | _ => trivial

/-- A project capture that is being stopped, up to the wait for its recorder. -/
def stoppingProject : List ServiceEvent :=
  openedProject ++ [.pipelineStarted, .stopCapture, .pipelineStopped false, .consumerEnded false,
    .consumerEnded true, .drained false, .cleanupJoined 0]

def recorderSteps (count : ℕ) : List ServiceEvent :=
  List.replicate count (.recorderThread 0 (.work calm 0))

structure FinalizingSeen where
  lifecycle : Lifecycle
  captureState : CaptureSessionState
  waiting : Bool
  settled : List Bool
  rows : List (Option DataSessionState)
  deriving DecidableEq

def finalizingSeen (service : RuntimeService) : FinalizingSeen where
  lifecycle := service.lifecycle
  captureState := service.captureState
  waiting := service.settlement.isSome
  settled := service.recorders.map (·.recorder.finalizationSettled)
  rows := rowsSeen service

/-- A cleanup that is given up inside the decisive write leaves a task that waits for it. -/
theorem finalizing_attended_pending :
    ∃ trace service, Path RuntimeService.step Attended sampleService trace service ∧
      service.lifecycle = .idle ∧ service.captureState = .finalizing ∧
      service.settlement.isSome = true ∧ WillSettle service := by
  have evaluated : (followWithin RuntimeService.step attended sampleService (stoppingProject ++
      recorderSteps 12 ++ [.cleanupTimedOut, .gateExpired, .gateReturned, .stopFinished])).map
        (fun reached => finalizingSeen reached.1) =
          some ⟨.idle, .finalizing, true, [false], [some .active]⟩ := by
    decide +kernel
  obtain ⟨trace, service, run, seen⟩ := Path.observedWithin _ _ _ attended_sound evaluated
  have idle : service.lifecycle = .idle := congrArg FinalizingSeen.lifecycle seen
  have finalizing : service.captureState = .finalizing := congrArg FinalizingSeen.captureState seen
  exact ⟨trace, service, run, idle, finalizing, (finalizing_attended run).1 idle finalizing⟩

/-- A cleanup that is given up right after the terminal lock was released: the gate answers
that the session is completed, no task is made, and `finalizing` stays. -/
theorem finalizing_forgotten :
    ∃ trace service, Path RuntimeService.step anyLabel sampleService trace service ∧
      finalizingSeen service = ⟨.idle, .finalizing, false, [true], [some .completed]⟩ :=
  Path.observed (stoppingProject ++ recorderSteps 21 ++ [.cleanupTimedOut, .gateStep, .gateStep,
    .gateReturned, .stopFinished] ++ recorderSteps 2) finalizingSeen _ (fun _ _ _ => trivial)
    (by decide +kernel)

end CanX.Runtime
