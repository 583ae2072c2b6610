import CanX.Runtime.Service

/-! A finalization that is reported as pending, and who will finish it. -/

namespace CanX.Runtime

open Domain Data Recorder Transition

/-- The wait for a finalization is not given up before the executor has started its job. -/
def JobStarted (state : Recording) (event : Event) : Prop :=
  event = .abandonStop → state.worker ≠ .queued

/-- What a service finds outstanding of the recorder it opened last. -/
theorem outstanding_iff {service : RuntimeService} {index : ℕ} {state : Recording}
    (last : service.lastProjectRecorder = some index)
    (held : service.recorders[index]? = some state) :
    service.finalizationOutstanding =
      (service.settlement.isSome || state.recorder.finalizationPending) := by
  simp [RuntimeService.finalizationOutstanding, RuntimeService.lookup, last, held]

theorem not_refused {service : RuntimeService} (settled : service.finalizationOutstanding = false)
    (request : CaptureRequest) : service.refusal request ≠ some .finalizationPending := by
  unfold RuntimeService.refusal
  rw [settled]
  repeat' split
  all_goals simp at *

theorem refused {service : RuntimeService} {request : CaptureRequest}
    (outstanding : service.finalizationOutstanding = true) (free : service.hasSession = false)
    (positive : 0 < request.batchSize) (single : request.recordingPath = none)
    (valid : request.validProject = true) :
    service.refusal request = some .finalizationPending := by
  have sized : ¬request.batchSize ≤ 0 := Int.not_le.mpr positive
  simp [RuntimeService.refusal, outstanding, free, sized, single, valid]

section Jobs

variable {state next : Recording} {event : Event} {accepted : Option FrameBatch}

/-- Only an abandonment before the start cancels a job. -/
theorem step_cancelled (moved : state.step event = some (next, accepted))
    (cancelled : next.worker = .cancelled) :
    state.worker = .cancelled ∨ event = .abandonStop ∧ state.worker = .queued := by
  rcases step_worker moved with same | ⟨_, queued⟩ | ⟨abandoned, place⟩ | ⟨_, begun⟩
  · exact .inl (same ▸ cancelled)
  · cases queued.symm.trans cancelled
  · rw [place] at cancelled
    cases before : state.worker <;> rw [before] at cancelled <;> first
      | exact .inr ⟨abandoned, rfl⟩
      | exact .inl rfl
      | cases cancelled
  · rw [cancelled] at begun
    cases begun

/-- Nothing ever settles a finalization whose job was cancelled. -/
theorem cancelled_pending {trace : List (Event × Option FrameBatch)} (inv : Truthful False state)
    (flagged : Flagged state.recorder state.worker) (cancelled : state.worker = .cancelled)
    (run : Path Recording.step anyLabel state trace next) :
    next.recorder.finalizationPending = true := by
  have keeps := (path_keeps inv run).2
  have stays : next.worker = .cancelled := by
    rw [keeps.ended (by rw [cancelled]; rfl) (by rw [cancelled]; rfl), cancelled]
  rw [(keeps.flagged flagged).pending, stays]
  rfl

/-- Where every job has been let start, a pending finalization has a thread. -/
structure Watched (state : Recording) : Prop where
  truthful : Truthful False state
  flagged : Flagged state.recorder state.worker
  running : state.worker ≠ .cancelled

theorem Watched.step (watched : Watched state) (begins : JobStarted state event)
    (moved : state.step event = some (next, accepted)) : Watched next where
  truthful := step_truthful watched.truthful False.elim moved
  flagged := (step_keeps watched.truthful.idle moved).flagged watched.flagged
  running cancelled := by
    rcases step_cancelled moved cancelled with before | ⟨abandoned, queued⟩
    · exact watched.running before
    · exact begins abandoned queued

private theorem started_watched {sessionId : Uuid} {world : World} (registered : Started sessionId world)
    (diagnosis : RecorderFailure) : Watched (Recording.started sessionId diagnosis world) where
  truthful := started_truthful registered diagnosis
  flagged := started_flagged sessionId diagnosis world
  running cancelled := by cases cancelled

/-- A thread that finishes has cleared the flag. -/
theorem CanFinish.settles (watched : Watched state) (finish : CanFinish state) :
    Leads state (·.recorder.finalizationPending = false) := by
  obtain ⟨trace, final, path, finished⟩ := finish
  have flagged := (path_keeps watched.truthful path.anyLabel).2.flagged watched.flagged
  have settled : final.recorder.finalizationPending = false := by
    rw [flagged.pending, finished]
    rfl
  exact ⟨trace, final, path, settled⟩

theorem Watched.idle (watched : Watched state) (ended : state.worker.live = false) :
    state.recorder.finalizationPending = false := by
  rw [watched.flagged.pending]
  cases place : state.worker <;> rw [place] at ended <;> first
    | rfl
    | exact absurd place watched.running
    | cases ended

end Jobs

/-- In a run in which no wait is given up before its job was started, a pending finalization
has a thread that can clear it, and without a thread no capture is refused because of it. -/
theorem pending_has_worker {sessionId : Uuid} {world : World} {diagnosis : RecorderFailure}
    {trace : List (Event × Option FrameBatch)} {state : Recording}
    (registered : Started sessionId world)
    (run : Path Recording.step JobStarted (Recording.started sessionId diagnosis world) trace state) :
    (state.recorder.finalizationPending = true → state.worker.live = true ∧
      Leads state (·.recorder.finalizationPending = false)) ∧
    (state.worker.live = false → state.recorder.finalizationPending = false ∧
      ∀ (service : RuntimeService) (index : ℕ) (request : CaptureRequest),
        service.lastProjectRecorder = some index → service.recorders[index]? = some state →
        service.settlement = none → service.refusal request ≠ some .finalizationPending) := by
  have watched : Watched state :=
    run.preserves Watched (fun _ _ _ _ watched begins moved => watched.step begins moved)
      (started_watched registered diagnosis)
  constructor
  · intro pending
    by_cases live : state.worker.live = true
    · exact ⟨live, CanFinish.settles watched (live_finishes live)⟩
    · have settled := watched.idle (Bool.not_eq_true _ ▸ live)
      cases pending.symm.trans settled
  · intro ended
    have settled := watched.idle ended
    refine ⟨settled, ?_⟩
    intro service index request last held free
    apply not_refused
    rw [outstanding_iff last held, free, settled]
    rfl

/-- What is seen of a finalization: its flag, and whether a thread is left for it. -/
def finalizationSeen (state : Recording) : Bool × Bool :=
  (state.recorder.finalizationPending, state.worker.live)

/-- The executable form of `JobStarted`. -/
def jobStarted (state : Recording) : Event → Bool
  | .abandonStop => state.worker.begun
  | _ => true

private theorem jobStarted_sound (state : Recording) (event : Event) (begins : jobStarted state event = true) :
    JobStarted state event := by
  rintro rfl queued
  rw [jobStarted, queued] at begins
  cases begins

/-- A stop that is given up after its job was started. -/
theorem pending_has_worker_begun :
    ∃ trace state, Path Recording.step JobStarted sampleRecording trace state ∧
      state.recorder.finalizationPending = true ∧ state.worker.live = true ∧
      Leads state (·.recorder.finalizationPending = false) := by
  have evaluated : (followWithin Recording.step jobStarted sampleRecording
      [.stop, .work calm 0, .abandonStop]).map (fun reached => finalizationSeen reached.1) =
        some (true, true) := by
    decide +kernel
  obtain ⟨trace, state, run, seen⟩ := Path.observedWithin _ _ _ jobStarted_sound evaluated
  have pending : state.recorder.finalizationPending = true := congrArg Prod.fst seen
  have registered := sampleWorld_started 1 (by decide)
  exact ⟨trace, state, run, pending, (pending_has_worker registered run).1 pending⟩

/-- A stop that is given up before the executor has started its job is pending for ever, and
so is every capture that is asked for afterwards. -/
theorem abandoned_pending :
    ∃ trace state, Path Recording.step anyLabel sampleRecording trace state ∧
      finalizationSeen state = (true, false) ∧
      ∀ later final, Path Recording.step anyLabel state later final →
        final.recorder.finalizationPending = true ∧
        ∀ (service : RuntimeService) (index : ℕ) (request : CaptureRequest),
          service.lastProjectRecorder = some index → service.recorders[index]? = some final →
          service.hasSession = false → 0 < request.batchSize → request.recordingPath = none →
          request.validProject = true → service.refusal request = some .finalizationPending := by
  cases followed : follow Recording.step sampleRecording [.stop, .abandonStop] with
  | none => cases followed
  | some reached =>
    obtain ⟨state, trace⟩ := reached
    have run : Path Recording.step anyLabel sampleRecording trace state :=
      .of_follow (fun _ _ _ => trivial) followed
    have registered := sampleWorld_started 1 (by decide)
    have inv : Truthful False state := (path_keeps (started_truthful registered _) run).1
    have flagged := (path_keeps (started_truthful registered _) run).2.flagged (started_flagged ..)
    have cancelled : state.worker = .cancelled := by
      cases followed
      rfl
    refine ⟨trace, state, run, ?_, ?_⟩
    · rw [finalizationSeen, flagged.pending, cancelled]
      rfl
    · intro later final path
      have pending := cancelled_pending inv flagged cancelled path
      refine ⟨pending, ?_⟩
      intro service index request last held free positive single valid
      refine refused ?_ free positive single valid
      rw [outstanding_iff last held, pending, Bool.or_true]

end CanX.Runtime
