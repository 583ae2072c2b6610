import CanX.Recorder.Verdict

/-! What the flags of a recorder say about its finalization thread, and that a thread which
the executor has taken up can always go on to its end. -/

namespace CanX.Recorder

open Domain Data Transition

namespace Worker

/-- A finalization job is queued or running. -/
def live : Worker → Bool
  | absent | cancelled | finished => false
  | _ => true

/-- The executor has taken the job up, and no cancellation stops it any more. -/
def begun : Worker → Bool
  | absent | queued | cancelled => false
  | _ => true

def inFlight : Worker → Bool
  | absent | setSettled | finished => false
  | _ => true

def unsettled : Worker → Bool
  | absent | finished => false
  | _ => true

def present : Worker → Bool
  | absent => false
  | _ => true

theorem ended {worker : Worker} (begun : worker.begun = true) (still : ¬worker.live = true) :
    worker = .finished := by
  cases worker with
  | finished => rfl
  | absent | queued | cancelled => cases begun
  | _ => exact absurd rfl still

/-- One place follows another inside the protected part of the thread. -/
def follows (before after : Worker) : Bool :=
  before.live && after.begun && before.inFlight && after.inFlight

/-- Past the look at the failure inside the gate, before the flag is read again. -/
def passing : Worker → Bool
  | gateDeadline | gateClock _ | awaitCommit | committing _ | recordCompleted => true
  | _ => false

end Worker

/-- The steps a recorder's threads take by themselves. -/
def Event.byThread : Event → Bool
  | .appendStep _ | .dropAppend | .work _ _ | .settle _ | .intervene _ | .other _ _ => true
  | _ => false

/-- The flags follow the finalization thread, also where it was cancelled before it began. -/
structure Flagged (recorder : ProjectRecorder) (worker : Worker) : Prop where
  inFlight : recorder.finalizationInFlight = worker.inFlight
  settled : recorder.finalizationSettled = !worker.unsettled
  started : recorder.finalizationStarted = worker.present

/-- A failure is held by a recorder whose worker has not been let past it. -/
structure Condemned (recorder : ProjectRecorder) (worker : Worker) : Prop where
  failed : recorder.failure ≠ none
  uncompleted : recorder.completed = false
  held : worker.passing = false

theorem Flagged.pending {recorder : ProjectRecorder} {worker : Worker}
    (flagged : Flagged recorder worker) : recorder.finalizationPending = worker.inFlight := by
  rw [ProjectRecorder.finalizationPending, flagged.inFlight, flagged.settled]
  cases worker <;> rfl

/-- A step of the finalization thread, as the owner can see it. -/
structure Worked (state next : Recording) : Prop where
  same : ∃ world worker recorder, next = { state with world, worker, recorder }
  live : state.worker.live = true
  begun : next.worker.begun = true
  failure : state.recorder.failure ≠ none → next.recorder.failure = state.recorder.failure
  flagged : Flagged state.recorder state.worker → Flagged next.recorder next.worker
  condemned : Condemned state.recorder state.worker → Condemned next.recorder next.worker

/-- What a step leaves of a recorder's flags and of its first diagnostic. -/
structure FlagsKept (before after : ProjectRecorder) : Prop where
  inFlight : after.finalizationInFlight = before.finalizationInFlight
  settled : after.finalizationSettled = before.finalizationSettled
  started : after.finalizationStarted = before.finalizationStarted
  failure : before.failure ≠ none → after.failure = before.failure

theorem FlagsKept.refl (recorder : ProjectRecorder) : FlagsKept recorder recorder :=
  ⟨rfl, rfl, rfl, fun _ => rfl⟩

theorem FlagsKept.fail (recorder : ProjectRecorder) (failure : RecorderFailure) :
    FlagsKept recorder (recorder.fail failure) := by
  refine ⟨rfl, rfl, rfl, ?_⟩
  intro held
  unfold ProjectRecorder.fail
  cases first : recorder.failure with
  | none => exact absurd first held
  | some diagnosis => rfl

section Steps

variable {state next : Recording}

theorem Worked.move {world : World} {worker : Worker} {recorder : ProjectRecorder}
    (follows : state.worker.follows worker = true) (kept : FlagsKept state.recorder recorder)
    (completed : state.worker.passing = false → recorder.completed = state.recorder.completed)
    (passing : worker.passing = true → state.worker.passing = true ∨ state.recorder.failure = none) :
    Worked state { state with world, worker, recorder } := by
  simp only [Worker.follows, Bool.and_eq_true] at follows
  obtain ⟨⟨⟨live, begun⟩, flying⟩, flight⟩ := follows
  refine ⟨⟨_, _, _, rfl⟩, live, begun, kept.failure, ?_, ?_⟩
  · intro flagged
    have unsettled : state.worker.unsettled = true ∧ worker.unsettled = true := by
      constructor
      · cases place : state.worker <;> simp_all [Worker.inFlight, Worker.unsettled]
      · cases worker <;> simp_all [Worker.inFlight, Worker.unsettled]
    have present : state.worker.present = true ∧ worker.present = true := by
      constructor
      · cases place : state.worker <;> simp_all [Worker.inFlight, Worker.present]
      · cases worker <;> simp_all [Worker.inFlight, Worker.present]
    refine ⟨?_, ?_, ?_⟩
    · rw [kept.inFlight, flagged.inFlight, flying, flight]
    · rw [kept.settled, flagged.settled, unsettled.1, unsettled.2]
    · rw [kept.started, flagged.started, present.1, present.2]
  · intro condemned
    refine ⟨?_, (completed condemned.held).trans condemned.uncompleted, ?_⟩
    · rw [kept.failure condemned.failed]
      exact condemned.failed
    · by_contra passes
      rcases passing (Bool.not_eq_false _ ▸ passes) with passed | unfailed
      · cases condemned.held.symm.trans passed
      · exact condemned.failed unfailed

/-- A step that only moves the thread. -/
theorem Worked.quiet {world : World} {worker : Worker} (follows : state.worker.follows worker = true)
    (passing : worker.passing = true → state.worker.passing = true ∨ state.recorder.failure = none) :
    Worked state { state with world, worker } :=
  .move follows (.refl _) (fun _ => rfl) passing

theorem work_worked {choice : Choice} {reading : Seconds}
    (moved : state.work choice reading = some next) : Worked state next := by
  cases place : state.worker with
  | absent | cancelled | finished => simp [Recording.work, place] at moved
  | queued =>
    simp only [Recording.work, place, Option.some.injEq] at moved
    subst moved
    exact .quiet (by rw [place]; rfl) (fun passes => by cases passes)
  | checkFailure =>
    simp only [Recording.work, place, Option.some.injEq] at moved
    subst moved
    split
    · exact .quiet (by rw [place]; rfl) (fun passes => by cases passes)
    · exact .quiet (by rw [place]; rfl) (fun passes => by cases passes)
  | awaitFlush =>
    simp only [Recording.work, place, Option.ite_none_right_eq_some, Option.some.injEq] at moved
    obtain ⟨_, rfl⟩ := moved
    exact .quiet (by rw [place]; rfl) (fun passes => by cases passes)
  | flushing rest =>
    cases rest with
    | perform request continuation =>
      simp only [Recording.work, place, Option.some.injEq] at moved
      subst moved
      exact .quiet (by rw [place]; rfl) (fun passes => by cases passes)
    | finish result =>
      rcases result with (error | sqlite | os | arrow | overflow | foreign) | value <;>
        simp only [Recording.work, place, Option.some.injEq] at moved <;> subst moved <;>
        exact .quiet (by rw [place]; rfl) (fun passes => by cases passes)
  | diagnoseFlush error =>
    simp only [Recording.work, place, Option.some.injEq] at moved
    subst moved
    exact .move (by rw [place]; rfl) (.fail _ _) (fun _ => rfl) (fun passes => by cases passes)
  | awaitTerminal =>
    simp only [Recording.work, place, Option.ite_none_left_eq_some, Option.some.injEq] at moved
    obtain ⟨_, rfl⟩ := moved
    exact .quiet (by rw [place]; rfl) (fun passes => by cases passes)
  | gateFailure =>
    simp only [Recording.work, place, Option.some.injEq] at moved
    subst moved
    split
    · rename_i unfailed
      exact .quiet (by rw [place]; rfl) (fun _ => .inr unfailed)
    · exact .quiet (by rw [place]; rfl) (fun passes => by cases passes)
  | gateDeadline =>
    simp only [Recording.work, place, Option.some.injEq] at moved
    subst moved
    split
    · exact .quiet (by rw [place]; rfl) (fun _ => .inl (by rw [place]; rfl))
    · exact .quiet (by rw [place]; rfl) (fun _ => .inl (by rw [place]; rfl))
  | gateClock deadline =>
    simp only [Recording.work, place, Option.some.injEq] at moved
    subst moved
    split
    · exact .quiet (by rw [place]; rfl) (fun _ => .inl (by rw [place]; rfl))
    · exact .quiet (by rw [place]; rfl) (fun _ => .inl (by rw [place]; rfl))
  | awaitCommit =>
    simp only [Recording.work, place, Option.ite_none_right_eq_some, Option.some.injEq] at moved
    obtain ⟨_, rfl⟩ := moved
    exact .quiet (by rw [place]; rfl) (fun _ => .inl (by rw [place]; rfl))
  | committing rest =>
    cases rest with
    | perform request continuation =>
      simp only [Recording.work, place, Option.some.injEq] at moved
      subst moved
      exact .quiet (by rw [place]; rfl) (fun _ => .inl (by rw [place]; rfl))
    | finish result =>
      rcases result with (error | sqlite | os | arrow | overflow | foreign) | value <;>
        simp only [Recording.work, place, Option.some.injEq] at moved <;> subst moved <;>
        exact .quiet (by rw [place]; rfl) (fun _ => .inl (by rw [place]; rfl))
  | diagnoseCommit error =>
    simp only [Recording.work, place, Option.some.injEq] at moved
    subst moved
    exact .move (by rw [place]; rfl) (.fail _ _) (fun _ => rfl) (fun passes => by cases passes)
  | recordCompleted =>
    simp only [Recording.work, place, Option.some.injEq] at moved
    subst moved
    refine .move (by rw [place]; rfl) ⟨rfl, rfl, rfl, fun _ => rfl⟩ ?_ (fun passes => by cases passes)
    intro unpassed
    rw [place] at unpassed
    cases unpassed
  | readCompleted =>
    simp only [Recording.work, place, Option.some.injEq] at moved
    subst moved
    split
    · exact .quiet (by rw [place]; rfl) (fun passes => by cases passes)
    · exact .quiet (by rw [place]; rfl) (fun passes => by cases passes)
  | setStopped =>
    simp only [Recording.work, place, Option.some.injEq] at moved
    subst moved
    exact .move (by rw [place]; rfl) ⟨rfl, rfl, rfl, fun _ => rfl⟩ (fun _ => rfl)
      (fun passes => by cases passes)
  | reportDeadline =>
    simp only [Recording.work, place, Option.some.injEq] at moved
    subst moved
    split
    · exact .move (by rw [place]; rfl) (.fail _ _) (fun _ => rfl) (fun passes => by cases passes)
    · exact .quiet (by rw [place]; rfl) (fun passes => by cases passes)
  | setFailed =>
    simp only [Recording.work, place, Option.some.injEq] at moved
    subst moved
    exact .move (by rw [place]; rfl) ⟨rfl, rfl, rfl, fun _ => rfl⟩ (fun _ => rfl)
      (fun passes => by cases passes)
  | awaitFail =>
    simp only [Recording.work, place, Option.ite_none_right_eq_some, Option.some.injEq] at moved
    obtain ⟨_, rfl⟩ := moved
    exact .quiet (by rw [place]; rfl) (fun passes => by cases passes)
  | failing rest =>
    cases rest with
    | perform request continuation =>
      simp only [Recording.work, place, Option.some.injEq] at moved
      subst moved
      exact .quiet (by rw [place]; rfl) (fun passes => by cases passes)
    | finish result =>
      simp only [Recording.work, place, Option.some.injEq] at moved
      subst moved
      exact .quiet (by rw [place]; rfl) (fun passes => by cases passes)
  | releaseTerminal =>
    simp only [Recording.work, place, Option.some.injEq] at moved
    subst moved
    exact .quiet (by rw [place]; rfl) (fun passes => by cases passes)
  | clearInFlight =>
    simp only [Recording.work, place, Option.some.injEq] at moved
    subst moved
    refine ⟨⟨_, _, _, rfl⟩, by rw [place]; rfl, rfl, fun _ => rfl, ?_, ?_⟩
    · intro flagged
      rw [place] at flagged
      exact ⟨rfl, flagged.settled, flagged.started⟩
    · intro condemned
      exact ⟨condemned.failed, condemned.uncompleted, rfl⟩
  | setSettled =>
    simp only [Recording.work, place, Option.some.injEq] at moved
    subst moved
    refine ⟨⟨_, _, _, rfl⟩, by rw [place]; rfl, rfl, fun _ => rfl, ?_, ?_⟩
    · intro flagged
      rw [place] at flagged
      exact ⟨flagged.inFlight, rfl, flagged.started⟩
    · intro condemned
      exact ⟨condemned.failed, condemned.uncompleted, rfl⟩

/-- What every step of a recording keeps, whoever takes it. -/
structure Keeps (state next : Recording) : Prop where
  sessionId : next.sessionId = state.sessionId
  present : state.worker.present = true → next.worker.present = true
  begun : state.worker.begun = true → next.worker.begun = true
  ended : state.worker.present = true → state.worker.live = false → next.worker = state.worker
  failure : state.recorder.failure ≠ none → next.recorder.failure = state.recorder.failure
  flagged : Flagged state.recorder state.worker → Flagged next.recorder next.worker
  condemned : Condemned state.recorder state.worker → Condemned next.recorder next.worker

theorem Worker.begun_present {worker : Worker} (begun : worker.begun = true) :
    worker.present = true := by
  cases worker with
  | absent => cases begun
  | _ => rfl

theorem Worked.keeps (worked : Worked state next) : Keeps state next := by
  obtain ⟨world, worker, recorder, rfl⟩ := worked.same
  exact ⟨rfl, fun _ => Worker.begun_present worked.begun, fun _ => worked.begun,
    fun _ ended => absurd (ended.symm.trans worked.live) Bool.false_ne_true, worked.failure,
    worked.flagged, worked.condemned⟩

/-- A step of anyone else, which does not move the thread. -/
theorem Keeps.beside {next : Recording} (sessionId : next.sessionId = state.sessionId)
    (worker : next.worker = state.worker) (kept : FlagsKept state.recorder next.recorder)
    (completed : next.recorder.completed = state.recorder.completed) : Keeps state next := by
  refine ⟨sessionId, fun present => worker ▸ present, fun begun => worker ▸ begun,
    fun _ _ => worker, kept.failure, ?_, ?_⟩
  · intro flagged
    rw [worker]
    exact ⟨kept.inFlight.trans flagged.inFlight, kept.settled.trans flagged.settled,
      kept.started.trans flagged.started⟩
  · intro condemned
    rw [worker]
    refine ⟨?_, completed.trans condemned.uncompleted, condemned.held⟩
    rw [kept.failure condemned.failed]
    exact condemned.failed

theorem Keeps.trans {middle : Recording} (first : Keeps state middle) (second : Keeps middle next) :
    Keeps state next where
  sessionId := second.sessionId.trans first.sessionId
  present present := second.present (first.present present)
  begun begun := second.begun (first.begun begun)
  ended present ended := by
    have same := first.ended present ended
    rw [second.ended (same ▸ present) (same ▸ ended), same]
  failure failed := by
    have still : middle.recorder.failure ≠ none := first.failure failed ▸ failed
    rw [second.failure still, first.failure failed]
  flagged flagged := second.flagged (first.flagged flagged)
  condemned condemned := second.condemned (first.condemned condemned)

theorem Keeps.refl (state : Recording) : Keeps state state :=
  .beside rfl rfl (.refl _) rfl

/-- The owner hands the worker to the executor, which has not seen it before. -/
theorem stop_keeps (idle : state.owner = .recording → state.worker = .absent)
    (moved : state.stop = some next) : Keeps state next := by
  unfold Recording.stop at moved
  split at moved <;> cases moved
  rename_i recording
  have absent := idle recording
  refine ⟨rfl, fun _ => rfl, ?_, ?_, fun _ => rfl, ?_, ?_⟩
  · intro begun
    rw [absent] at begun
    cases begun
  · intro present
    rw [absent] at present
    cases present
  · intro flagged
    exact ⟨rfl, rfl, rfl⟩
  · intro condemned
    exact ⟨condemned.failed, condemned.uncompleted, rfl⟩

theorem abandonStop_keeps (moved : state.abandonStop = some next) : Keeps state next := by
  unfold Recording.abandonStop at moved
  split at moved <;> cases moved
  refine ⟨rfl, ?_, ?_, ?_, fun _ => rfl, ?_, ?_⟩
  · intro present
    cases place : state.worker <;> simp_all [Worker.present, Worker.abandoned]
  · intro begun
    cases place : state.worker <;> simp_all [Worker.begun, Worker.abandoned]
  · intro present ended
    cases place : state.worker <;> simp_all [Worker.live, Worker.abandoned]
  · intro flagged
    cases place : state.worker <;> rw [place] at flagged <;>
      exact ⟨flagged.inFlight, flagged.settled, flagged.started⟩
  · intro condemned
    refine ⟨condemned.failed, condemned.uncompleted, ?_⟩
    have held := condemned.held
    cases place : state.worker <;> rw [place] at held <;> exact held

private theorem append_keeps {batch : Domain.FrameBatch} (moved : state.append batch = some next) :
    Keeps state next := by
  unfold Recording.append at moved
  split at moved
  · split at moved
    · cases moved
    split at moved <;> cases moved
    · exact .beside rfl rfl (.refl _) rfl
    · exact .beside rfl rfl (.fail _ _) rfl
  · cases moved

private theorem appended_kept (state : Recording) (batch : Domain.FrameBatch) :
    FlagsKept state.recorder (state.appended batch) := by
  unfold Recording.appended
  split
  · exact ⟨rfl, rfl, rfl, fun _ => rfl⟩
  · exact .refl _

private theorem appendStep_keeps {choice : Choice} {accepted : Option Domain.FrameBatch}
    (moved : state.appendStep choice = some (next, accepted)) : Keeps state next := by
  unfold Recording.appendStep at moved
  split at moved
  · cases moved
  · split at moved <;> cases moved
    exact .beside rfl rfl (.refl _) rfl
  · cases moved
    exact .beside rfl rfl (appended_kept _ _) (appended_completed _ _).1
  · cases moved
    exact .beside rfl rfl (.refl _) rfl
  · cases moved
    exact .beside rfl rfl (.refl _) rfl

private theorem own_keeps (moved : state.own = some next) : Keeps state next := by
  unfold Recording.own at moved
  split at moved <;> (try split at moved) <;> cases moved
  all_goals first
    | exact .beside rfl rfl (.refl _) rfl
    | exact .beside rfl rfl (.fail _ _) rfl
    | exact .beside rfl rfl ⟨rfl, rfl, rfl, fun _ => rfl⟩ rfl

theorem step_keeps (idle : state.owner = .recording → state.worker = .absent) {event : Event}
    {accepted : Option Domain.FrameBatch} (moved : state.step event = some (next, accepted)) :
    Keeps state next := by
  cases event with
  | appendStep choice => exact appendStep_keeps moved
  | report failure =>
    cases moved
    exact .beside rfl rfl (.fail _ _) rfl
  | intervene call =>
    cases moved
    exact .beside rfl rfl (.refl _) rfl
  | _ =>
    simp only [Recording.step, Recording.silent, Option.map_eq_some_iff, Prod.mk.injEq] at moved
    obtain ⟨reached, moved, rfl, -⟩ := moved
    first
      | exact append_keeps moved
      | exact stop_keeps idle moved
      | exact abandonStop_keeps moved
      | exact own_keeps moved
      | exact (work_worked moved).keeps
      | (simp only [Recording.dropAppend, Recording.armStopDeadline, Recording.returnStop,
          Recording.closeFinalizationGate, Recording.gateTimeout, Recording.settle,
          Recording.other] at moved
         split at moved <;> (try split at moved) <;> cases moved <;>
           exact .beside rfl rfl ⟨rfl, rfl, rfl, fun _ => rfl⟩ rfl)

/-- The events that move the thread, and where they leave it. -/
theorem step_worker {event : Event} {accepted : Option Domain.FrameBatch}
    (moved : state.step event = some (next, accepted)) :
    next.worker = state.worker ∨ state.owner = .recording ∧ next.worker = .queued ∨
      event = .abandonStop ∧ next.worker = state.worker.abandoned ∨
      state.worker.live = true ∧ next.worker.begun = true := by
  cases event with
  | appendStep choice =>
    left
    simp only [Recording.step, Recording.appendStep] at moved
    split at moved <;> (try split at moved) <;> cases moved <;> rfl
  | report failure =>
    cases moved
    exact .inl rfl
  | intervene call =>
    cases moved
    exact .inl rfl
  | stop =>
    simp only [Recording.step, Recording.silent, Recording.stop] at moved
    split at moved <;> cases moved
    rename_i recording
    exact .inr (.inl ⟨recording, rfl⟩)
  | abandonStop =>
    simp only [Recording.step, Recording.silent, Recording.abandonStop] at moved
    split at moved <;> cases moved
    exact .inr (.inr (.inl ⟨rfl, rfl⟩))
  | work choice reading =>
    simp only [Recording.step, Recording.silent, Option.map_eq_some_iff, Prod.mk.injEq] at moved
    obtain ⟨reached, moved, rfl, -⟩ := moved
    exact .inr (.inr (.inr ⟨(work_worked moved).live, (work_worked moved).begun⟩))
  | _ =>
    left
    simp only [Recording.step, Recording.silent, Option.map_eq_some_iff, Prod.mk.injEq,
      Recording.append, Recording.dropAppend, Recording.armStopDeadline, Recording.returnStop,
      Recording.closeFinalizationGate, Recording.gateTimeout, Recording.settle, Recording.own,
      Recording.other] at moved
    obtain ⟨reached, moved, rfl, -⟩ := moved
    split at moved <;> (try split at moved) <;> (try split at moved) <;> cases moved <;> rfl

/-- Only a wait for the terminal lock that expires ends without a verdict. -/
theorem step_unsettled {event : Event} {accepted : Option Domain.FrameBatch}
    (moved : state.step event = some (next, accepted)) (returned : next.owner = .returned .pending) :
    state.owner = .returned .pending ∨ event = .gateTimeout ∧ next.worker = state.worker := by
  cases event with
  | gateTimeout =>
    simp only [Recording.step, Recording.silent, Recording.gateTimeout] at moved
    split at moved <;> cases moved
    exact .inr ⟨rfl, rfl⟩
  | appendStep choice =>
    left
    simp only [Recording.step, Recording.appendStep] at moved
    split at moved <;> (try split at moved) <;> cases moved <;> exact returned
  | report failure =>
    cases moved
    exact .inl returned
  | intervene call =>
    cases moved
    exact .inl returned
  | work choice reading =>
    simp only [Recording.step, Recording.silent, Option.map_eq_some_iff, Prod.mk.injEq] at moved
    obtain ⟨reached, moved, rfl, -⟩ := moved
    obtain ⟨world, worker, recorder, rfl⟩ := (work_worked moved).same
    exact .inl returned
  | own =>
    simp only [Recording.step, Recording.silent, Option.map_eq_some_iff, Prod.mk.injEq,
      Recording.own] at moved
    obtain ⟨reached, moved, rfl, -⟩ := moved
    split at moved <;> (try split at moved) <;> cases moved <;>
      cases returned
  | _ =>
    left
    simp only [Recording.step, Recording.silent, Option.map_eq_some_iff, Prod.mk.injEq,
      Recording.append, Recording.dropAppend, Recording.armStopDeadline, Recording.returnStop,
      Recording.closeFinalizationGate, Recording.stop, Recording.abandonStop, Recording.settle,
      Recording.other] at moved
    obtain ⟨reached, moved, rfl, -⟩ := moved
    split at moved <;> (try split at moved) <;> (try split at moved) <;> cases moved <;>
      first | exact returned | cases returned

/-- An owner that has its answer stays with it. -/
theorem step_returned {event : Event} {accepted : Option Domain.FrameBatch}
    {outcome : FinalizationOutcome} (moved : state.step event = some (next, accepted))
    (returned : state.owner = .returned outcome) : next.owner = .returned outcome := by
  cases event with
  | appendStep choice =>
    simp only [Recording.step, Recording.appendStep] at moved
    split at moved <;> (try split at moved) <;> cases moved <;> exact returned
  | report failure =>
    cases moved
    exact returned
  | intervene call =>
    cases moved
    exact returned
  | work choice reading =>
    simp only [Recording.step, Recording.silent, Option.map_eq_some_iff, Prod.mk.injEq] at moved
    obtain ⟨reached, moved, rfl, -⟩ := moved
    obtain ⟨world, worker, recorder, rfl⟩ := (work_worked moved).same
    exact returned
  | dropAppend | settle choice | other position choice =>
    simp only [Recording.step, Recording.silent, Option.map_eq_some_iff, Prod.mk.injEq,
      Recording.dropAppend, Recording.settle, Recording.other] at moved
    obtain ⟨reached, moved, rfl, -⟩ := moved
    split at moved <;> cases moved <;> exact returned
  | _ =>
    simp [Recording.step, Recording.silent, Recording.append, Recording.armStopDeadline,
      Recording.stop, Recording.abandonStop, Recording.returnStop, Recording.closeFinalizationGate,
      Recording.gateTimeout, Recording.own, returned] at moved

theorem Truthful.idle {sound : Prop} (inv : Truthful sound state) (recording : state.owner = .recording) :
    state.worker = .absent := by
  have absent := inv.owner
  rw [recording] at absent
  exact absent

/-- A recording under any clock. -/
theorem path_keeps {trace : List (Event × Option Domain.FrameBatch)} (inv : Truthful False state)
    (path : Path Recording.step anyLabel state trace next) :
    Truthful False next ∧ Keeps state next := by
  refine path.preserves (fun reached => Truthful False reached ∧ Keeps state reached) ?_
    ⟨inv, .refl state⟩
  intro middle event target answer ⟨inv, kept⟩ _ moved
  exact ⟨step_truthful inv False.elim moved, kept.trans (step_keeps inv.idle moved)⟩

theorem started_flagged (sessionId : Uuid) (diagnosis : RecorderFailure) (world : World) :
    Flagged (Recording.started sessionId diagnosis world).recorder
      (Recording.started sessionId diagnosis world).worker :=
  ⟨rfl, rfl, rfl⟩

end Steps

/-- Nobody decides anything: the threads run on, and the owner gives the terminal lock back. -/
def ThreadsOnly (_ : Recording) (event : Event) : Prop := event.byThread = true ∨ event = .own

/-- A goal that the threads can reach by themselves. -/
def Leads (state : Recording) (goal : Recording → Prop) : Prop :=
  ∃ trace final, Path Recording.step ThreadsOnly state trace final ∧ goal final

/-- The finalization thread can go on to its end, if only the threads are run. -/
def CanFinish (state : Recording) : Prop := Leads state (·.worker = .finished)

namespace Worker

/-- How far the thread still has to go. -/
def stage : Worker → ℕ
  | absent | cancelled | finished => 0
  | setSettled => 1
  | clearInFlight => 2
  | releaseTerminal => 3
  | failing _ => 4
  | awaitFail => 5
  | setFailed => 6
  | reportDeadline => 7
  | setStopped => 8
  | readCompleted => 9
  | recordCompleted | diagnoseCommit _ => 10
  | committing _ => 11
  | awaitCommit => 12
  | gateClock _ => 13
  | gateDeadline => 14
  | gateFailure => 15
  | awaitTerminal => 16
  | diagnoseFlush _ => 17
  | flushing _ => 18
  | awaitFlush => 19
  | checkFailure => 20
  | queued => 21

end Worker

section Progress

variable {state next : Recording} {goal : Recording → Prop}

theorem Leads.here (reached : goal state) : Leads state goal :=
  ⟨[], state, .refl, reached⟩

theorem Leads.after {event : Event} {answer : Option Domain.FrameBatch} (leads : Leads next goal)
    (thread : event.byThread = true ∨ event = .own)
    (moved : state.step event = some (next, answer)) : Leads state goal := by
  obtain ⟨trace, final, path, reached⟩ := leads
  have first : Path Recording.step ThreadsOnly state [(event, answer)] next := .single thread moved
  exact ⟨_, final, first.trans path, reached⟩

theorem Leads.bind {middle : Recording → Prop} (leads : Leads state middle)
    (onward : ∀ next, middle next → Leads next goal) : Leads state goal := by
  obtain ⟨front, between, begun, reached⟩ := leads
  obtain ⟨back, final, finished, arrived⟩ := onward between reached
  exact ⟨_, final, begun.trans finished, arrived⟩

/-- One step of the thread, under a calm environment. -/
theorem Leads.work (leads : Leads next goal) (moved : state.work calm 0 = some next) :
    Leads state goal := by
  have stepped : state.step (.work calm 0) = some (next, none) := by
    rw [Recording.step, moved]
    rfl
  exact leads.after (.inl rfl) stepped

/-- The others have moved, and the thread is where it was. -/
structure Waited (state next : Recording) : Prop where
  worker : next.worker = state.worker
  owner : next.owner = state.owner

/-- An append that holds the writer lock runs to its end and gives it back. -/
theorem append_releases {batch : Domain.FrameBatch} (rest : DataProgram Unit)
    (appending : state.appender = .appending batch rest) :
    Leads state (fun next => Waited state next ∧ next.appender = .idle) := by
  induction rest generalizing state with
  | finish result =>
    cases result with
    | error fault =>
      have moved : state.step (.appendStep calm) = some ({ state with appender := .idle }, none) := by
        simp only [Recording.step, Recording.appendStep, appending]
      exact (Leads.here ⟨⟨rfl, rfl⟩, rfl⟩).after (.inl rfl) moved
    | ok value =>
      have moved : state.step (.appendStep calm) =
          some ({ state with appender := .idle, recorder := state.appended batch }, some batch) := by
        simp only [Recording.step, Recording.appendStep, appending]
      exact (Leads.here ⟨⟨rfl, rfl⟩, rfl⟩).after (.inl rfl) moved
  | perform request continuation ih =>
    let next : Recording := { state with
      world := (perform request calm state.world).1
      appender := .appending batch (continuation (perform request calm state.world).2) }
    have moved : state.step (.appendStep calm) = some (next, none) := by
      simp only [Recording.step, Recording.appendStep, appending, next]
    have onward : Leads next (fun last => Waited next last ∧ last.appender = .idle) := ih _ rfl
    have same : Leads next (fun last => Waited state last ∧ last.appender = .idle) := onward.bind
      (fun last held => Leads.here ⟨⟨held.1.worker, held.1.owner⟩, held.2⟩)
    exact same.after (.inl rfl) moved

/-- Whoever waits for the writer lock gets it. -/
theorem lock_released (free : state.worker.holdsLock = false) :
    Leads state (fun next => Waited state next ∧ next.lockFree = true) := by
  have idle : state.appender.holdsLock = false → state.lockFree = true :=
    fun unheld => lockFree_iff.mpr ⟨unheld, free⟩
  cases appender : state.appender with
  | appending batch rest =>
    refine (append_releases rest appender).bind ?_
    intro next ⟨waited, unheld⟩
    refine .here ⟨waited, lockFree_iff.mpr ⟨?_, ?_⟩⟩
    · rw [unheld]
      rfl
    · rw [waited.worker]
      exact free
  | idle | waiting batch =>
    refine .here ⟨⟨rfl, rfl⟩, idle ?_⟩
    rw [appender]
    rfl

/-- The owner never keeps the terminal lock. -/
theorem terminal_released :
    Leads state (fun next => next.worker = state.worker ∧ next.owner.holdsTerminal = false) := by
  have releasing : ∀ held : Recording, held.owner = .gateReleasing →
      Leads held (fun next => next.worker = held.worker ∧ next.owner.holdsTerminal = false) := by
    intro held owner
    have moved : held.step .own = some ({ held with owner := .settling }, none) := by
      simp only [Recording.step, Recording.own, owner, Recording.silent, Option.map_some]
    exact (Leads.here ⟨rfl, rfl⟩).after (.inr rfl) moved
  have closing : ∀ held : Recording, held.owner = .gateClosing →
      Leads held (fun next => next.worker = held.worker ∧ next.owner.holdsTerminal = false) := by
    intro held owner
    let next : Recording := { held with
      recorder := { held.recorder with deadline := some 0 }, owner := .gateReleasing }
    have moved : held.step .own = some (next, none) := by
      simp only [Recording.step, Recording.own, owner, Recording.silent, Option.map_some, next]
    exact Leads.after (releasing next rfl) (.inr rfl) moved
  cases owner : state.owner with
  | gateReleasing => exact releasing state owner
  | gateClosing => exact closing state owner
  | gateReading =>
    by_cases completed : state.recorder.completed = true
    · have moved : state.step .own = some ({ state with owner := .returned .completed }, none) := by
        simp only [Recording.step, Recording.own, owner, completed, Recording.silent,
          Option.map_some, if_true]
      exact (Leads.here ⟨rfl, rfl⟩).after (.inr rfl) moved
    · let next : Recording := { state with owner := .gateClosing }
      have moved : state.step .own = some (next, none) := by
        simp only [Recording.step, Recording.own, owner, completed, Recording.silent,
          Option.map_some, next]
        rfl
      exact Leads.after (closing next rfl) (.inr rfl) moved
  | _ =>
    refine .here ⟨rfl, ?_⟩
    rw [owner]
    rfl

/-- A call on the writer runs to its result. -/
theorem call_returns {Value : Type} (place : DataProgram Value → Worker) (rest : DataProgram Value)
    (performs : ∀ (held : Recording) request continuation,
      held.worker = place (.perform request continuation) →
      held.work calm 0 = some { held with
        world := (perform request calm held.world).1
        worker := place (continuation (perform request calm held.world).2) })
    (calling : state.worker = place rest) :
    Leads state (fun next => ∃ result, next.worker = place (.finish result)) := by
  induction rest generalizing state with
  | finish result => exact .here ⟨result, calling⟩
  | perform request continuation ih =>
    have moved := performs state request continuation calling
    exact Leads.work (ih _ rfl) moved

/-- The thread has come nearer to its end. -/
def Nearer (state next : Recording) : Prop :=
  next.worker.begun = true ∧ next.worker.stage < state.worker.stage

theorem Leads.nearer (moved : state.work calm 0 = some next)
    (nearer : next.worker.stage < state.worker.stage) : Leads state (Nearer state) :=
  Leads.work (.here ⟨(work_worked moved).begun, nearer⟩) moved

theorem Leads.wait {middle : Recording → Prop} (leads : Leads state middle)
    (onward : ∀ next, middle next → next.worker.stage ≤ state.worker.stage ∧ Leads next (Nearer next)) :
    Leads state (Nearer state) := by
  refine leads.bind ?_
  intro next reached
  obtain ⟨near, leads⟩ := onward next reached
  exact leads.bind (fun last ⟨begun, nearer⟩ => .here ⟨begun, Nat.lt_of_lt_of_le nearer near⟩)

/-- A thread that waits for the writer lock gets it and goes on. -/
theorem Leads.locks (free : state.worker.holdsLock = false)
    (locks : ∀ held : Recording, held.worker = state.worker → held.lockFree = true →
      ∃ worker : Worker, held.work calm 0 = some { held with worker } ∧
        worker.stage < state.worker.stage) : Leads state (Nearer state) := by
  refine Leads.wait (lock_released free) ?_
  intro next ⟨waited, unlocked⟩
  obtain ⟨worker, moved, nearer⟩ := locks next waited.worker unlocked
  have stage : worker.stage < next.worker.stage := by
    rw [waited.worker]
    exact nearer
  exact ⟨by rw [waited.worker], Leads.nearer moved stage⟩

/-- A live thread can always come nearer to its end. -/
theorem live_nearer (live : state.worker.live = true) : Leads state (Nearer state) := by
  cases place : state.worker with
  | absent | cancelled | finished =>
    rw [place] at live
    cases live
  | awaitFlush =>
    refine Leads.locks (by rw [place]; rfl) ?_
    intro held same unlocked
    refine ⟨.flushing flushPending, ?_, by simp [Worker.stage, place]⟩
    simp only [Recording.work, same.trans place, unlocked, if_true]
  | awaitCommit =>
    refine Leads.locks (by rw [place]; rfl) ?_
    intro held same unlocked
    refine ⟨.committing commitCompleted, ?_, by simp [Worker.stage, place]⟩
    simp only [Recording.work, same.trans place, unlocked, if_true]
  | awaitFail =>
    refine Leads.locks (by rw [place]; rfl) ?_
    intro held same unlocked
    refine ⟨.failing Data.fail, ?_, by simp [Worker.stage, place]⟩
    simp only [Recording.work, same.trans place, unlocked, if_true]
  | awaitTerminal =>
    refine Leads.wait terminal_released ?_
    rintro next ⟨same, released⟩
    refine ⟨by rw [same], ?_⟩
    have moved : next.work calm 0 = some { next with worker := .gateFailure } := by
      simp [Recording.work, same.trans place, released]
    exact Leads.nearer moved (by simp [Worker.stage, same.trans place])
  | flushing rest =>
    refine Leads.wait (call_returns .flushing rest ?_ place) ?_
    · intro held request continuation calling
      simp only [Recording.work, calling]
    · rintro next ⟨result, returned⟩
      refine ⟨by simp [Worker.stage, returned, place], ?_⟩
      rcases result with (error | sqlite | os | arrow | overflow | foreign) | value <;>
        exact Leads.nearer (by simp only [Recording.work, returned]; rfl) (by simp [Worker.stage, returned])
  | committing rest =>
    refine Leads.wait (call_returns .committing rest ?_ place) ?_
    · intro held request continuation calling
      simp only [Recording.work, calling]
    · rintro next ⟨result, returned⟩
      refine ⟨by simp [Worker.stage, returned, place], ?_⟩
      rcases result with (error | sqlite | os | arrow | overflow | foreign) | value <;>
        exact Leads.nearer (by simp only [Recording.work, returned]; rfl) (by simp [Worker.stage, returned])
  | failing rest =>
    refine Leads.wait (call_returns .failing rest ?_ place) ?_
    · intro held request continuation calling
      simp only [Recording.work, calling]
    · rintro next ⟨result, returned⟩
      refine ⟨by simp [Worker.stage, returned, place], ?_⟩
      exact Leads.nearer (by simp only [Recording.work, returned]; rfl) (by simp [Worker.stage, returned])
  | checkFailure | gateFailure | gateDeadline | gateClock deadline | readCompleted =>
    refine Leads.nearer (by simp only [Recording.work, place]; rfl) ?_
    rw [place]
    dsimp only
    split <;> simp [Worker.stage]
  | _ =>
    refine Leads.nearer (by simp only [Recording.work, place]; rfl) ?_
    rw [place]
    simp [Worker.stage]

/-- A job that is queued or running can always be run to its end. -/
theorem live_finishes (live : state.worker.live = true) : CanFinish state := by
  induction far : state.worker.stage using Nat.strong_induction_on generalizing state with
  | _ stage ih =>
    refine (live_nearer live).bind ?_
    rintro next ⟨begun, nearer⟩
    by_cases running : next.worker.live = true
    · exact ih next.worker.stage (far ▸ nearer) running rfl
    · exact .here (Worker.ended begun running)

end Progress

end CanX.Recorder
