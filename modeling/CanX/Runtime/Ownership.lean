import CanX.Runtime.Turn

/-! Who holds what in a reachable service: the recorders it has opened, their cleanup, and
the settlement of a pending finalization. -/

namespace CanX.Runtime

open Domain Data Recorder Transition RuntimeService

/-- A recorder that a service has opened, wherever its threads are. -/
structure Healthy (state : Recording) : Prop where
  truthful : Truthful False state
  flagged : Flagged state.recorder state.worker
  unsettled : state.owner = .returned .pending → state.worker.begun = true

theorem started_healthy {sessionId : Uuid} {world : World} (registered : Started sessionId world)
    (diagnosis : RecorderFailure) : Healthy (Recording.started sessionId diagnosis world) where
  truthful := started_truthful registered diagnosis
  flagged := started_flagged sessionId diagnosis world
  unsettled returned := by cases returned

theorem Worker.begun_of_terminal {worker : Worker} (holds : worker.holdsTerminal = true) :
    worker.begun = true := by
  cases worker with
  | absent | queued | cancelled => cases holds
  | _ => rfl

/-- What any run of a service keeps of one of its recorders. -/
structure Onward (state next : Recording) : Prop extends Keeps state next where
  returned : ∀ outcome, state.owner = .returned outcome → next.owner = .returned outcome

theorem path_healthy {state next : Recording} {trace : List (Event × Option FrameBatch)}
    (healthy : Healthy state) (path : Path Recording.step Expires state trace next) :
    Healthy next ∧ Onward state next := by
  refine path.preserves (fun reached => Healthy reached ∧ Onward state reached) ?_
    ⟨healthy, .refl state, fun _ => id⟩
  intro before event after answer ⟨healthy, kept⟩ expires moved
  have keeps := step_keeps healthy.truthful.idle moved
  refine ⟨⟨step_truthful healthy.truthful False.elim moved, keeps.flagged healthy.flagged, ?_⟩,
    kept.toKeeps.trans keeps, ?_⟩
  · intro returned
    rcases step_unsettled moved returned with still | ⟨expired, same⟩
    · exact keeps.begun (healthy.unsettled still)
    · rw [same]
      exact Worker.begun_of_terminal (expires expired)
  · intro outcome returned
    exact step_returned moved (kept.returned outcome returned)

/-- A recorder whose `start` has just returned: no frame has reached it, and no failure. -/
structure Fresh (state : Recording) : Prop where
  owner : state.owner = .recording
  appender : state.appender = .idle
  worker : state.worker = .absent
  failure : state.recorder.failure = none
  uncompleted : state.recorder.completed = false

/-- The threads leave a fresh recorder alone. -/
theorem Fresh.thread {state next : Recording} {event : Event} {answer : Option FrameBatch}
    (fresh : Fresh state) (thread : event.byThread = true)
    (moved : state.step event = some (next, answer)) : Fresh next := by
  cases event with
  | appendStep choice =>
    simp only [Recording.step, Recording.appendStep, fresh.appender] at moved
    cases moved
  | dropAppend =>
    simp only [Recording.step, Recording.silent, Recording.dropAppend, fresh.owner] at moved
    cases moved
  | work choice reading =>
    simp only [Recording.step, Recording.silent, Recording.work, fresh.worker] at moved
    cases moved
  | settle choice =>
    simp only [Recording.step, Recording.silent, Recording.settle, Option.map_eq_some_iff,
      Prod.mk.injEq] at moved
    obtain ⟨reached, moved, rfl, -⟩ := moved
    split at moved <;> cases moved <;>
      exact ⟨fresh.owner, fresh.appender, fresh.worker, fresh.failure, fresh.uncompleted⟩
  | intervene call =>
    cases moved
    exact ⟨fresh.owner, fresh.appender, fresh.worker, fresh.failure, fresh.uncompleted⟩
  | other position choice =>
    simp only [Recording.step, Recording.silent, Recording.other, Option.map_eq_some_iff,
      Prod.mk.injEq] at moved
    obtain ⟨reached, moved, rfl, -⟩ := moved
    split at moved <;> cases moved
    exact ⟨fresh.owner, fresh.appender, fresh.worker, fresh.failure, fresh.uncompleted⟩
  | _ => cases thread

def Lifecycle.early : Lifecycle → Bool
  | starting | opening => true
  | _ => false

/-- The recorders of a reachable service, and who has asked for their end. -/
structure Traced (service : RuntimeService) : Prop where
  recorders : ∀ (index : ℕ) (state : Recording), service.recorders[index]? = some state →
    Healthy state
  backend : ∀ index, service.recorder = .project index → service.lastProjectRecorder = some index
  last : ∀ index, service.lastProjectRecorder = some index → index < service.recorders.length
  asked : service.cleanup.any Cleanup.asked = true → ∀ (index : ℕ) (state : Recording),
    service.recorder = .project index → service.recorders[index]? = some state →
    state.recorder.finalizationStarted = true
  settlement : ∀ index, service.settlement = some index →
    service.lastProjectRecorder = some index ∧ ∃ state, service.recorders[index]? = some state ∧
      state.owner = .returned .pending

/-- The invariant of every reachable service. -/
structure Owned (service : RuntimeService) : Prop extends Traced service where
  task : ∀ pipeline, service.pipeline = some pipeline → pipeline.task ≠ .absent →
    service.lifecycle = .idle ∨ service.lifecycle = .stopping
  early : service.lifecycle.early = true → service.cleanup = none ∧ service.settlement = none
  free : service.lifecycle = .idle → service.pipeline = none → service.cleanup = none
  fresh : service.lifecycle = .opening → ∀ (index : ℕ) (state : Recording),
    service.recorder = .project index → service.recorders[index]? = some state → Fresh state

namespace Traced

variable {service next : RuntimeService} {cause : ServiceEvent}

/-- A recorder of the service, and what has become of it. -/
theorem evolved (traced : Traced service) (evolves : Evolves service.recorders next.recorders)
    {index : ℕ} {state : Recording} (held : service.recorders[index]? = some state) :
    ∃ reached, next.recorders[index]? = some reached ∧ Healthy reached ∧ Onward state reached := by
  obtain ⟨trace, reached, found, path⟩ := evolves index state held
  have kept := path_healthy (traced.recorders index state held) path
  exact ⟨reached, found, kept.1, kept.2⟩

/-- A recorder of the service after a step, and where it was before. -/
theorem noted_from (traced : Traced service) (noted : Noted service next) {index : ℕ}
    {reached : Recording} (found : next.recorders[index]? = some reached) :
    ∃ state, service.recorders[index]? = some state ∧ Healthy reached ∧ Onward state reached := by
  have within : index < service.recorders.length := by
    rw [← noted.length]
    exact (List.getElem?_eq_some_iff.mp found).1
  have held := List.getElem?_eq_getElem within
  obtain ⟨after, same, healthy, kept⟩ := traced.evolved noted.evolves held
  obtain rfl := Option.some.inj (found.symm.trans same)
  exact ⟨_, held, healthy, kept⟩

private theorem started_kept {state reached : Recording} (healthy : Healthy state) (later : Healthy reached)
    (kept : Keeps state reached) (started : state.recorder.finalizationStarted = true) :
    reached.recorder.finalizationStarted = true := by
  rw [healthy.flagged.started] at started
  rw [later.flagged.started]
  exact kept.present started

theorem asked_before (traced : Traced service) (noted : Noted service next)
    (asked : service.cleanup.any Cleanup.asked = true) {index : ℕ} {reached : Recording}
    (same : next.recorder = .project index) (found : next.recorders[index]? = some reached) :
    reached.recorder.finalizationStarted = true := by
  obtain ⟨state, held, healthy, kept⟩ := traced.noted_from noted found
  have started := traced.asked asked index state ((noted.backend index).mp same) held
  exact started_kept (traced.recorders index state held) healthy kept.toKeeps started

theorem settlement_before (traced : Traced service) (noted : Noted service next) {index : ℕ}
    {state : Recording} (last : service.lastProjectRecorder = some index)
    (held : service.recorders[index]? = some state) (returned : state.owner = .returned .pending) :
    next.lastProjectRecorder = some index ∧ ∃ state, next.recorders[index]? = some state ∧
      state.owner = .returned .pending := by
  obtain ⟨reached, found, _, kept⟩ := traced.evolved noted.evolves held
  exact ⟨noted.lastProjectRecorder.trans last, reached, found, kept.returned _ returned⟩

/-- The cleanup and the settlement of the next state have grounds in this one. -/
theorem noted (traced : Traced service) (noted : Noted service next)
    (asked : next.cleanup.any Cleanup.asked = true → service.cleanup.any Cleanup.asked = true ∨
      ∀ index state, next.recorder = .project index → next.recorders[index]? = some state →
        state.recorder.finalizationStarted = true)
    (settlement : ∀ index, next.settlement = some index → service.settlement = some index ∨
      service.recorder = .project index ∧ ∃ state, service.recorders[index]? = some state ∧
        state.owner = .returned .pending) : Traced next where
  recorders index state found := by
    obtain ⟨_, _, healthy, _⟩ := traced.noted_from noted found
    exact healthy
  backend index same := by
    rw [noted.lastProjectRecorder]
    exact traced.backend index ((noted.backend index).mp same)
  last index same := by
    rw [noted.length]
    exact traced.last index (noted.lastProjectRecorder ▸ same)
  asked ending index state same found := by
    rcases asked ending with before | started
    · exact traced.asked_before noted before same found
    · exact started index state same found
  settlement index waiting := by
    rcases settlement index waiting with waited | ⟨backend, state, held, returned⟩
    · obtain ⟨last, state, held, returned⟩ := traced.settlement index waited
      exact traced.settlement_before noted last held returned
    · exact traced.settlement_before noted (traced.backend index backend) held returned

private theorem marked_asked {before after : RuntimeService} (marked : Marked before after)
    (asked : after.cleanup.any Cleanup.asked = true) : before.cleanup.any Cleanup.asked = true := by
  rcases marked.cleanup with same | joined
  · exact same ▸ asked
  · rw [joined] at asked
    cases place : before.cleanup with
    | none =>
      rw [place] at asked
      cases asked
    | some cleanup =>
      rw [place] at asked
      exact asked

theorem marked (traced : Traced service) (noted : Noted service next) (marked : Marked service next) :
    Traced next :=
  traced.noted noted (fun asked => .inl (marked_asked marked asked))
    (fun _ waiting => .inl (marked.settlement ▸ waiting))

theorem turn (traced : Traced service) (noted : Noted service next) (turn : Turn cause service next) :
    Traced next := by
  cases turn with
  | kept driven cleanup settlement =>
    exact traced.noted noted (fun asked => .inl (cleanup ▸ asked))
      (fun _ waiting => .inl (settlement ▸ waiting))
  | failed live marked => exact traced.marked noted marked
  | asked joining cleanup settlement captureState failure started =>
    exact traced.noted noted (fun _ => .inr started) (fun _ waiting => .inl (settlement ▸ waiting))
  | ended waiting cleanup settlement =>
    refine traced.noted noted (fun _ => .inl ?_) (fun _ waited => .inl (settlement ▸ waited))
    rcases waiting with awaiting | closing
    · rw [awaiting]
      rfl
    · rw [closing]
      rfl
  | @pending position state closing backend held returned cleanup settlement =>
    refine traced.noted noted (fun _ => .inl (by rw [closing]; rfl)) ?_
    intro index waiting
    rw [settlement] at waiting
    cases waited : service.settlement with
    | some earlier =>
      rw [waited] at waiting
      exact .inl waiting
    | none =>
      rw [waited] at waiting
      obtain rfl := Option.some.inj waiting
      exact .inr ⟨backend, state, held, returned⟩
  | woke _ waited held settled settlement cleanup =>
    refine traced.noted noted (fun asked => .inl (cleanup ▸ asked)) ?_
    intro index waiting
    cases settlement.symm.trans waiting

end Traced

/-- A capture is accepted only when none is held and nothing is outstanding. -/
theorem accepted_free {service : RuntimeService} {request : CaptureRequest}
    (accepted : service.refusal request = none) :
    service.pipeline = none ∧ service.finalizationOutstanding = false := by
  unfold RuntimeService.refusal at accepted
  repeat' split at accepted
  all_goals try exact absurd accepted (Option.some_ne_none _)
  rename_i free _ _ _ settled
  simpa [RuntimeService.hasSession] using And.intro free settled

namespace Owned

variable {service next : RuntimeService} {cause : ServiceEvent}

theorem start (cleanupTimeout : Seconds) (timed : 0 < cleanupTimeout) :
    Owned (.start cleanupTimeout timed) where
  recorders index state held := by simp [RuntimeService.start] at held
  backend index same := by cases same
  last index same := by cases same
  task pipeline held := by cases held
  early opens := by cases opens
  free _ _ := rfl
  fresh opening := by cases opening
  asked asked := by cases asked
  settlement index waiting := by cases waiting

/-- In a startup that has opened its recorder, only threads run. -/
theorem fresh_kept (owned : Owned service) (turn : Turn cause service next)
    (opening : service.lifecycle = .opening) {index : ℕ} {reached : Recording}
    (same : service.recorder = .project index) (found : next.recorders[index]? = some reached) :
    Fresh reached := by
  have idle : service.cleanup = none ∧ service.settlement = none := owned.early (by rw [opening]; rfl)
  have quiet : service.publishing = false := by
    simp [RuntimeService.publishing, opening]
  have fresh := owned.fresh opening index
  cases turn with
  | kept driven =>
    rcases driven with still | ⟨position, event, driven, thread | publishing | closing⟩
    · rw [still] at found
      exact fresh reached same found
    · obtain ⟨state, stepped, answer, held, moved, rfl⟩ := drive_eq driven
      by_cases here : position = index
      · subst here
        rw [set_self held stepped] at found
        cases found
        exact (fresh state same held).thread thread moved
      · rw [List.getElem?_set_ne here] at found
        exact fresh reached same found
    · cases quiet.symm.trans publishing
    · cases idle.1.symm.trans closing
  | failed live =>
    rcases live with running | publishing
    · obtain ⟨pipeline, held, task⟩ := (Option.any_eq_true ..).mp running
      rcases owned.task pipeline held (fun absent => by simp [absent] at task) with place | place
      · cases opening.symm.trans place
      · cases opening.symm.trans place
    · cases quiet.symm.trans publishing
  | asked joining => cases idle.1.symm.trans joining
  | ended waiting => rcases waiting with awaiting | closing <;> cases idle.1.symm.trans ‹_›
  | pending closing => cases idle.1.symm.trans closing
  | woke _ waiting => cases idle.2.symm.trans waiting

/-- Nothing can fail while no capture is live, and no cleanup begins. -/
theorem quiet_turn (turn : Turn cause service next) (uncleaned : service.cleanup = none)
    (unpublished : service.publishing = false)
    (still : service.pipeline.any (·.task = .running) = false) :
    next.cleanup = none ∧ (service.settlement = none → next.settlement = none) := by
  cases turn with
  | kept driven cleanup settlement => exact ⟨cleanup.trans uncleaned, settlement.trans⟩
  | failed live =>
    rcases live with running | publishing
    · cases still.symm.trans running
    · cases unpublished.symm.trans publishing
  | asked joining => cases uncleaned.symm.trans joining
  | ended waiting => rcases waiting with awaiting | closing <;> cases uncleaned.symm.trans ‹_›
  | pending closing => cases uncleaned.symm.trans closing
  | woke _ waiting held settled settlement cleanup =>
    exact ⟨cleanup.trans uncleaned, fun _ => settlement⟩

/-- A capture in a startup is not running yet. -/
theorem early_still (owned : Owned service) (early : service.lifecycle.early = true) :
    service.publishing = false ∧ service.pipeline.any (·.task = .running) = false := by
  have places : service.lifecycle = .starting ∨ service.lifecycle = .opening := by
    cases place : service.lifecycle <;> rw [place] at early <;> first
      | exact .inl rfl
      | exact .inr rfl
      | cases early
  constructor
  · rcases places with place | place <;> simp [RuntimeService.publishing, place]
  · rw [← Bool.not_eq_true]
    intro running
    obtain ⟨pipeline, held, task⟩ := (Option.any_eq_true ..).mp running
    have moving := owned.task pipeline held (fun absent => by simp [absent] at task)
    rcases places with place | place <;> rw [place] at moving <;> rcases moving with same | same <;>
      cases same

theorem background (owned : Owned service) (noted : Noted service next) (turn : Turn cause service next) :
    Owned next where
  toTraced := owned.toTraced.turn noted turn
  task pipeline held := by
    rw [noted.lifecycle]
    exact owned.task pipeline (noted.pipeline ▸ held)
  early early := by
    rw [noted.lifecycle] at early
    obtain ⟨uncleaned, unsettled⟩ := owned.early early
    obtain ⟨unpublished, still⟩ := owned.early_still early
    have quiet := quiet_turn turn uncleaned unpublished still
    exact ⟨quiet.1, quiet.2 unsettled⟩
  free idle none := by
    rw [noted.lifecycle] at idle
    rw [noted.pipeline] at none
    have unpublished : service.publishing = false := by simp [RuntimeService.publishing, none]
    exact (quiet_turn turn (owned.free idle none) unpublished (by simp [none])).1
  fresh opening index state same found := by
    rw [noted.lifecycle] at opening
    exact owned.fresh_kept turn opening ((noted.backend index).mp same) found

/-- A place of the lifecycle in which the capture has no task, and which is no startup. -/
theorem placed (traced : Traced service)
    (task : ∀ pipeline, service.pipeline = some pipeline → pipeline.task = .absent)
    (late : service.lifecycle.early = false)
    (free : service.lifecycle = .idle → service.pipeline = none → service.cleanup = none) :
    Owned service where
  toTraced := traced
  task pipeline held running := absurd (task pipeline held) running
  early early := by cases late.symm.trans early
  free := free
  fresh opening := by
    rw [opening] at late
    cases late

theorem absent (owned : Owned service) (busy : service.lifecycle ≠ .idle)
    (going : service.lifecycle ≠ .stopping) :
    ∀ pipeline, service.pipeline = some pipeline → pipeline.task = .absent := by
  intro pipeline held
  by_contra running
  rcases owned.task pipeline held running with idle | stopping
  · exact busy idle
  · exact going stopping

theorem startCapture {request : CaptureRequest} (owned : Owned service)
    (idle : service.lifecycle = .idle) (accepted : service.refusal request = none) :
    Owned (service.startCapture request) := by
  obtain ⟨none, settled⟩ := accepted_free accepted
  have uncleaned := owned.free idle none
  have unsettled : service.settlement = Option.none := by
    simp only [RuntimeService.finalizationOutstanding, Bool.or_eq_false_iff] at settled
    simpa using settled.1
  refine ⟨⟨owned.recorders, ?_, owned.last, ?_, ?_⟩, ?_, fun _ => ⟨uncleaned, unsettled⟩, ?_, ?_⟩
  · intro index same
    simp only [RuntimeService.startCapture] at same
    split at same <;> cases same
  · intro asked
    simp only [RuntimeService.startCapture, uncleaned] at asked
    cases asked
  · intro index waiting
    cases unsettled.symm.trans waiting
  · intro pipeline held running
    cases held
    exact absurd rfl running
  · intro impossible
    cases impossible
  · intro impossible
    cases impossible

theorem recorderStarted (owned : Owned service) (moved : service.recorderStarted = some next) :
    Owned next := by
  unfold RuntimeService.recorderStarted at moved
  split at moved <;> cases moved
  rename_i starting backend
  have early := owned.early (by rw [starting]; rfl)
  refine ⟨⟨owned.recorders, owned.backend, owned.last, owned.asked, owned.settlement⟩, ?_,
    fun _ => early, ?_, ?_⟩
  · intro pipeline held running
    exact absurd (owned.absent (by simp [starting]) (by simp [starting]) pipeline held) running
  · intro impossible
    cases impossible
  · intro _ index state same
    cases backend.symm.trans same

theorem projectRecorderStarted {sessionId : Uuid} {world : World} (owned : Owned service)
    (registered : Started sessionId world)
    (moved : service.projectRecorderStarted sessionId world = some next) : Owned next := by
  unfold RuntimeService.projectRecorderStarted at moved
  split at moved <;> cases moved
  rename_i starting backend
  obtain ⟨uncleaned, unsettled⟩ := owned.early (by rw [starting]; rfl)
  have opened : (service.recorders ++ [.started sessionId closeTimedOut world])[
      service.recorders.length]? = some (.started sessionId closeTimedOut world) := by simp
  refine ⟨⟨?_, ?_, ?_, ?_, ?_⟩, ?_, fun _ => ⟨uncleaned, unsettled⟩, ?_, ?_⟩
  · intro index state found
    rcases Nat.lt_or_ge index service.recorders.length with within | beyond
    · rw [List.getElem?_append_left within] at found
      exact owned.recorders index state found
    · have last := (List.getElem?_eq_some_iff.mp found).1
      simp only [List.length_append, List.length_singleton] at last
      obtain rfl : index = service.recorders.length := by omega
      obtain rfl := Option.some.inj (opened.symm.trans found)
      exact started_healthy registered closeTimedOut
  · intro index same
    cases same
    rfl
  · intro index same
    cases same
    simp
  · intro asked
    simp only [uncleaned] at asked
    cases asked
  · intro index waiting
    cases unsettled.symm.trans waiting
  · intro pipeline held running
    exact absurd (owned.absent (by simp [starting]) (by simp [starting]) pipeline held) running
  · intro impossible
    cases impossible
  · intro _ index state same found
    cases same
    obtain rfl := Option.some.inj (opened.symm.trans found)
    exact ⟨rfl, rfl, rfl, rfl, rfl⟩

/-- A startup fails in whatever place it is, once its failure is noted. -/
theorem startRaised (owned : Owned service) (early : service.lifecycle.early = true)
    (message : String) : Owned (service.startRaised message) := by
  have noted := handleRecorderFailure_noted service (openFailed message)
  have traced := owned.toTraced.marked noted (handleRecorderFailure_marked service (openFailed message))
  have absent := owned.absent (fun idle => by rw [idle] at early; cases early)
    (fun stopping => by rw [stopping] at early; cases early)
  refine placed ⟨traced.recorders, traced.backend, traced.last, traced.asked, traced.settlement⟩ ?_ rfl ?_
  · intro pipeline held
    exact absent pipeline (noted.pipeline ▸ held)
  · intro impossible
    cases impossible

theorem pipelineStarted (owned : Owned service) (moved : service.pipelineStarted = some next) :
    Owned next := by
  unfold RuntimeService.pipelineStarted at moved
  split at moved <;> cases moved
  refine ⟨⟨owned.recorders, owned.backend, owned.last, owned.asked, owned.settlement⟩,
    fun _ _ _ => .inl rfl, ?_, ?_, ?_⟩
  · intro impossible
    cases impossible
  · intro _ impossible
    cases impossible
  · intro impossible
    cases impossible

theorem ensured {service : RuntimeService} (traced : Traced service) :
    Traced service.ensureRecorderCleanup :=
  traced.marked (ensureRecorderCleanup_noted service) ⟨rfl, .inr rfl, .inl ⟨rfl, rfl⟩⟩

theorem consumersCancelled (owned : Owned service) : Owned service.consumersCancelled := by
  have traced : Traced { service with
      archiveTask := .absent, streamTask := .absent, pipeline := none
      archiveSubscriber := false, streamSubscriber := none
      captureState := .failed, lifecycle := .abortCleanup } :=
    ⟨owned.recorders, owned.backend, owned.last, owned.asked, owned.settlement⟩
  refine placed (ensured traced) ?_ rfl ?_
  · intro pipeline held
    cases held
  · intro impossible
    cases impossible

/-- A capture is dropped with its cleanup. -/
theorem dropped (owned : Owned service) (late : service.lifecycle ≠ .idle)
    (going : service.lifecycle ≠ .stopping) : Owned service.abortFinished := by
  refine placed ⟨owned.recorders, owned.backend, owned.last, ?_, owned.settlement⟩
    (owned.absent late going) rfl (fun _ _ => rfl)
  intro impossible
  cases impossible

theorem stopCapture (owned : Owned service) : Owned service.stopCapture := by
  unfold RuntimeService.stopCapture
  split
  · refine ⟨⟨owned.recorders, owned.backend, owned.last, owned.asked, owned.settlement⟩,
      fun _ _ _ => .inr rfl, ?_, ?_, ?_⟩
    all_goals
      intro impossible
      cases impossible
  · exact owned

theorem pipelineStopped {closeRaised : Bool} {answer : Answer} (owned : Owned service)
    (moved : service.pipelineStopped closeRaised = some (next, answer)) : Owned next := by
  unfold RuntimeService.pipelineStopped at moved
  split at moved
  · rename_i pipeline stopping held
    dsimp only at moved
    split at moved
    · cases moved
      refine placed ⟨owned.recorders, owned.backend, owned.last, owned.asked, owned.settlement⟩ ?_ rfl ?_
      · intro stopped same
        cases same
        rfl
      · intro _ impossible
        cases impossible
    · split at moved <;> cases moved
      · refine placed ⟨owned.recorders, owned.backend, owned.last, owned.asked, owned.settlement⟩ ?_ rfl ?_
        · intro stopped same
          cases same
          rfl
        · intro _ impossible
          cases impossible
      · refine placed ⟨owned.recorders, owned.backend, owned.last, owned.asked, owned.settlement⟩ ?_ rfl ?_
        · intro stopped same
          cases same
          rfl
        · intro impossible
          cases impossible
  · cases moved

theorem drained {timedOut : Bool} (owned : Owned service)
    (moved : service.drained timedOut = some next) : Owned next := by
  unfold RuntimeService.drained at moved
  split at moved
  · rename_i draining
    have absent := owned.absent (by simp [draining.1]) (by simp [draining.1])
    have ended : Traced { service with
        archiveTask := ConsumerTask.cancelled service.archiveTask
        streamTask := ConsumerTask.cancelled service.streamTask
        lifecycle := .stopCleanup } :=
      ⟨owned.recorders, owned.backend, owned.last, owned.asked, owned.settlement⟩
    cases moved
    split
    · have noted := handleRecorderFailure_noted { service with
        archiveTask := ConsumerTask.cancelled service.archiveTask
        streamTask := ConsumerTask.cancelled service.streamTask
        lifecycle := .stopCleanup } drainTimedOut
      refine placed (ensured (ended.marked noted (handleRecorderFailure_marked _ _))) ?_ ?_ ?_
      · intro pipeline held
        exact absent pipeline (noted.pipeline ▸ held)
      · exact congrArg Lifecycle.early noted.lifecycle
      · intro idle
        cases noted.lifecycle.symm.trans idle
    · refine placed (ensured ended) absent rfl ?_
      intro impossible
      cases impossible
  · cases moved

theorem stopFinished (owned : Owned service) : Owned service.stopFinished := by
  refine placed ⟨owned.recorders, owned.backend, owned.last, ?_, owned.settlement⟩ ?_ rfl (fun _ _ => rfl)
  · intro impossible
    cases impossible
  · intro pipeline held
    cases held

/-- The capture goes on counting, or fails. -/
theorem running {pipeline : CapturePipeline} {streamSubscriber : Option ℕ} (owned : Owned service)
    {before : CapturePipeline} (held : service.pipeline = some before) (running : before.task = .running) :
    Owned { service with pipeline := some pipeline, streamSubscriber } := by
  have place := owned.task before held (fun absent => by simp [running] at absent)
  refine ⟨⟨owned.recorders, owned.backend, owned.last, owned.asked, owned.settlement⟩,
    fun _ _ _ => place, owned.early, ?_, owned.fresh⟩
  intro _ impossible
  cases impossible

theorem step {event : ServiceEvent} {answer : Answer} (owned : Owned service)
    (moved : service.step event = some (next, answer)) : Owned next := by
  have responded := step_eq moved
  cases event with
  | startCapture request =>
    simp only [respond] at responded
    split at responded
    · obtain ⟨_, given, same⟩ := Option.map_eq_some_iff.mp responded
      obtain ⟨rfl, rfl⟩ := Prod.mk.inj same
      obtain ⟨_, rfl⟩ := within_eq given
      exact owned
    · rename_i accepted
      obtain ⟨idle, rfl⟩ := within_eq (silent_eq responded).1
      exact owned.startCapture idle accepted
  | recorderStarted => exact owned.recorderStarted (silent_eq responded).1
  | projectRecorderStarted sessionId world registered =>
    exact owned.projectRecorderStarted registered (silent_eq responded).1
  | recorderStartRaised message =>
    obtain ⟨starting, rfl⟩ := within_eq (silent_eq responded).1
    exact owned.startRaised (by rw [starting]; rfl) message
  | pipelineStartRaised message =>
    obtain ⟨opening, rfl⟩ := within_eq (silent_eq responded).1
    exact owned.startRaised (by rw [opening]; rfl) message
  | pipelineStarted => exact owned.pipelineStarted (silent_eq responded).1
  | consumersCancelled =>
    obtain ⟨_, rfl⟩ := within_eq (silent_eq responded).1
    exact owned.consumersCancelled
  | abortFinished =>
    simp only [respond] at responded
    split at responded
    · obtain ⟨_, given, same⟩ := Option.map_eq_some_iff.mp responded
      obtain ⟨rfl, rfl⟩ := Prod.mk.inj same
      obtain ⟨aborted, rfl⟩ := within_eq given
      exact owned.dropped (by simp [aborted]) (by simp [aborted])
    · cases responded
  | stopCapture =>
    obtain ⟨_, rfl⟩ := within_eq (silent_eq responded).1
    exact owned.stopCapture
  | pipelineStopped closeRaised => exact owned.pipelineStopped responded
  | drained timedOut => exact owned.drained (silent_eq responded).1
  | stopFinished =>
    simp only [respond] at responded
    split at responded
    · obtain ⟨_, rfl⟩ := within_eq (silent_eq responded).1
      exact owned.stopFinished
    · cases responded
  | captured more =>
    have given := (silent_eq responded).1
    unfold RuntimeService.captured at given
    split at given <;> cases given
    rename_i held
    exact owned.running held rfl
  | captureFailed =>
    have given := (silent_eq responded).1
    unfold RuntimeService.captureFailed at given
    split at given
    · rename_i pipeline held
      split at given <;> cases given
      rename_i running
      exact owned.running held running
    · cases given
  | metricsSnapshot =>
    have polled : ∃ metrics, next = { service with metrics } := by
      simp only [respond, Option.some.injEq] at responded
      unfold RuntimeService.metricsSnapshot at responded
      dsimp only at responded
      split at responded <;> cases responded <;> exact ⟨_, rfl⟩
    obtain ⟨metrics, rfl⟩ := polled
    exact ⟨⟨owned.recorders, owned.backend, owned.last, owned.asked, owned.settlement⟩, owned.task,
      owned.early, owned.free, owned.fresh⟩
  | _ => exact owned.background (respond_noted rfl responded).1 (respond_turn rfl responded)

end Owned

/-- Every service that any run reaches. -/
theorem owned {cleanupTimeout : Seconds} {timed : 0 < cleanupTimeout}
    {allowed : RuntimeService → ServiceEvent → Prop} {trace : List (ServiceEvent × Answer)}
    {service : RuntimeService}
    (run : Path RuntimeService.step allowed (.start cleanupTimeout timed) trace service) :
    Owned service :=
  run.preserves Owned (fun _ _ _ _ held _ moved => held.step moved) (.start cleanupTimeout timed)

end CanX.Runtime
