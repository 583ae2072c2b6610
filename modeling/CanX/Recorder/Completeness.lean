import CanX.Data.Commit
import CanX.Recorder.Finalization

/-! A session that ends `COMPLETED` holds every accepted frame, as long as each
exception raised below the recorder is one that the handlers above it turn into a failed
session. -/

namespace CanX.Recorder

open Domain Data Transition

variable {sessionId : Uuid} {world : World} {accepted : List Frame}

/-- One recording from its start to its stop: appends that return, then one `stop`. -/
def Sequential (state : Recording) : Event → Prop
  | .stop => state.appender = .idle
  | .append _ | .appendStep _ | .report _ | .armStopDeadline _ _ | .work _ _ | .abandonStop
  | .returnStop => True
  | _ => False

/-- No exception inside `append` or `flush_pending` gets past the handlers. -/
def FaultsHandled (state : Recording) : Event → Prop
  | .appendStep choice =>
    match state.appender with
    | .appending _ (.perform request _) => harmless false request choice
    | _ => True
  | .work choice _ =>
    match state.worker with
    | .flushing (.perform request _) => harmless true request choice
    | _ => True
  | _ => True

def Accountable (state : Recording) (event : Event) : Prop :=
  Sequential state event ∧ FaultsHandled state event

/-- The frames of the batches that `append` has accepted, in order. -/
def acceptedFrames (trace : List (Event × Option FrameBatch)) : List Frame :=
  trace.flatMap fun entry => entry.2.elim [] FrameBatch.frames

theorem acceptedFrames_append (trace : List (Event × Option FrameBatch)) (event : Event)
    (answer : Option FrameBatch) :
    acceptedFrames (trace ++ [(event, answer)]) =
      acceptedFrames trace ++ answer.elim [] FrameBatch.frames := by
  simp [acceptedFrames]

/-- A batch that is offered counts once it is accepted. -/
example : acceptedFrames [(.append (sampleBatch 7 (by decide)), none),
    (.appendStep calm, some (sampleBatch 7 (by decide))), (.stop, none)] = [sampleFrame 7 (by decide)] := by
  decide +kernel

/-- A call in progress that nothing has completed, and what it will leave. -/
def Calling (sessionId : Uuid) (final : Bool) {Value : Type}
    (post : Except PyException Value → World → Prop) (rest : DataProgram Value) (world : World) :
    Prop :=
  Open sessionId world ∧ KeepsOpen sessionId rest ∧
    Program.Safe perform (fun _ => harmless final) Eq (fun _ _ _ => True) post rest world

/-- The gate may be passed: everything is registered, or the completion will be refused. -/
def Ready (sessionId : Uuid) (accepted : List Frame) (world : World) : Prop :=
  Open sessionId world ∧
    (Settled sessionId accepted world ∨ world.writer.session.state ≠ .active)

/-- After the decision: the books are closed, or nothing is completed. -/
def Answered (sessionId : Uuid) (accepted : List Frame) (world : World) : Prop :=
  Settled sessionId accepted world ∨ Open sessionId world

/-- What holds where the finalization thread is. -/
def WorkerSound (sessionId : Uuid) (accepted : List Frame) (world : World)
    (failure : Option RecorderFailure) (appender : Appender) : Worker → Prop
  | .absent =>
    match appender with
    | .appending batch rest =>
      Calling sessionId false (appendedBooks sessionId accepted batch) rest world
    | _ => Keeping sessionId accepted world
  | .queued | .cancelled | .checkFailure | .awaitFlush => Keeping sessionId accepted world
  | .flushing rest =>
    Calling sessionId true (orLost sessionId true fun _ => Flushed sessionId accepted) rest world
  | .diagnoseFlush _ => Open sessionId world
  | .awaitTerminal | .gateFailure =>
    Open sessionId world ∧ (Ready sessionId accepted world ∨ failure ≠ none)
  | .gateDeadline | .gateClock _ | .awaitCommit => Ready sessionId accepted world
  | .committing rest =>
    Settled sessionId accepted world ∧ KeepsBooks rest ∨
      Dead sessionId world ∧ OnlyReads rest
  | .failing rest =>
    Settled sessionId accepted world ∧ KeepsBooks rest ∨
      Open sessionId world ∧ KeepsOpen sessionId rest
  | _ => Answered sessionId accepted world

/-- The invariant of every run whose faults are handled. -/
structure Accounted (sessionId : Uuid) (accepted : List Frame) (state : Recording) : Prop where
  recording : state.owner = .recording → state.worker = .absent
  alone : state.worker = .absent ∨ state.appender = .idle
  worker : WorkerSound sessionId accepted state.world state.recorder.failure state.appender
    state.worker

variable {final : Bool} {Value : Type} {post : Except PyException Value → World → Prop}

/-- One effect of a call in progress. -/
theorem Calling.perform {request : DataEffect}
    {next : Except PyException request.Answer → DataProgram Value}
    (calling : Calling sessionId final post (.perform request next) world) {choice : Choice}
    (handled : harmless final request choice) :
    Calling sessionId final post (next (perform request choice world).2)
      (perform request choice world).1 := by
  obtain ⟨opened, kept, safe⟩ := calling
  obtain ⟨reached, answered⟩ := perform_open choice opened kept.1
  exact ⟨reached, kept.2 _ answered, (safe world rfl choice handled).2⟩

theorem Calling.finished {result : Except PyException Value}
    (calling : Calling sessionId final post (.finish result) world) : post result world :=
  calling.2.2.finished fun _ => rfl

theorem Calling.start {program : DataProgram Value} {pre : World → Prop}
    (triple : LedgerTriple final pre program post) (kept : KeepsOpen sessionId program)
    (opened : Open sessionId world) (holds : pre world) :
    Calling sessionId final post program world :=
  ⟨opened, kept, triple world holds⟩

variable {state next : Recording}

theorem Accounted.moveWorker (sound : Accounted sessionId accepted state) {world : World}
    {recorder : ProjectRecorder} {worker : Worker} (present : state.worker ≠ .absent)
    (ok : WorkerSound sessionId accepted world recorder.failure state.appender worker) :
    Accounted sessionId accepted { state with world, recorder, worker } where
  recording owned := absurd (sound.recording owned) present
  alone := .inr (sound.alone.resolve_left present)
  worker := ok

/-- Every step of the finalization thread keeps the books. -/
theorem work_accounted (sound : Accounted sessionId accepted state) {choice : Choice}
    {reading : Seconds} (handled : FaultsHandled state (.work choice reading))
    (moved : state.work choice reading = some next) : Accounted sessionId accepted next := by
  have ok := sound.worker
  cases place : state.worker with
  | absent | cancelled | finished => simp [Recording.work, place] at moved
  | queued =>
    simp only [Recording.work, place, Option.some.injEq] at moved ok
    subst moved
    exact sound.moveWorker (by simp [place]) ok
  | checkFailure =>
    simp only [Recording.work, place, Option.some.injEq] at moved ok
    subst moved
    refine sound.moveWorker (by simp [place]) ?_
    split
    · exact ok
    · rename_i failed
      exact ⟨Keeping.opened ok, .inr failed⟩
  | awaitFlush =>
    simp only [Recording.work, place, Option.ite_none_right_eq_some, Option.some.injEq]
      at moved ok
    obtain ⟨-, rfl⟩ := moved
    exact sound.moveWorker (by simp [place])
      (.start flushPending_triple flushPending_keepsOpen (Keeping.opened ok) ok)
  | flushing rest =>
    rw [place] at ok
    have calling : Calling sessionId true
        (orLost sessionId true fun _ => Flushed sessionId accepted) rest state.world := ok
    cases rest with
    | perform request continuation =>
      simp only [Recording.work, place, Option.some.injEq] at moved
      simp only [FaultsHandled, place] at handled
      subst moved
      exact sound.moveWorker (by simp [place]) (calling.perform handled)
    | finish result =>
      have opened := calling.1
      have reached := calling.finished
      cases result with
      | ok value =>
        simp only [Recording.work, place, Option.some.injEq] at moved
        subst moved
        exact sound.moveWorker (by simp [place]) ⟨opened, .inl ⟨opened, .inl (Flushed.settled reached)⟩⟩
      | error error =>
        cases data : error with
        | data error =>
          simp only [Recording.work, place, data, Option.some.injEq] at moved
          subst moved
          exact sound.moveWorker (by simp [place]) opened
        | sqlite | os | arrow | overflow | foreign =>
          simp only [Recording.work, place, data, Option.some.injEq] at moved
          subst moved
          rw [data] at reached
          have ended := reached.2.resolve_right (by simp [PyException.isData])
          exact sound.moveWorker (by simp [place]) ⟨opened, .inl ⟨opened, .inr ended⟩⟩
  | diagnoseFlush error =>
    simp only [Recording.work, place, Option.some.injEq] at moved ok
    subst moved
    refine sound.moveWorker (by simp [place]) ⟨ok, .inr ?_⟩
    simp only [ProjectRecorder.fail]
    cases state.recorder.failure <;> simp
  | awaitTerminal =>
    simp only [Recording.work, place, Option.ite_none_left_eq_some, Option.some.injEq] at moved ok
    obtain ⟨-, rfl⟩ := moved
    exact sound.moveWorker (by simp [place]) ok
  | gateFailure =>
    simp only [Recording.work, place, Option.some.injEq] at moved ok
    subst moved
    refine sound.moveWorker (by simp [place]) ?_
    split
    · rename_i unfailed
      exact ok.2.resolve_right (not_not.mpr unfailed)
    · exact .inr ok.1
  | gateDeadline =>
    simp only [Recording.work, place, Option.some.injEq] at moved ok
    subst moved
    refine sound.moveWorker (by simp [place]) ?_
    split
    · exact ok
    · exact ok
  | gateClock deadline =>
    simp only [Recording.work, place, Option.some.injEq] at moved ok
    subst moved
    refine sound.moveWorker (by simp [place]) ?_
    split
    · exact ok
    · exact .inr ok.1
  | awaitCommit =>
    simp only [Recording.work, place, Option.ite_none_right_eq_some, Option.some.injEq]
      at moved ok
    obtain ⟨-, rfl⟩ := moved
    refine sound.moveWorker (by simp [place]) ?_
    rcases ok.2 with settled | ended
    · exact .inl ⟨settled, commitCompleted_keepsBooks⟩
    · exact .inr ⟨⟨ok.1, ended⟩, requireActive_bind_onlyReads _⟩
  | committing rest =>
    rw [place] at ok
    cases rest with
    | perform request continuation =>
      simp only [Recording.work, place, Option.some.injEq] at moved
      subst moved
      refine sound.moveWorker (by simp [place]) ?_
      rcases ok with ⟨settled, kept⟩ | ⟨dead, reads⟩
      · exact .inl ⟨perform_settled choice settled kept.1, kept.2 _ trivial⟩
      · obtain ⟨reached, answered⟩ := perform_dead choice dead reads.1
        exact .inr ⟨reached, reads.2 _ answered⟩
    | finish result =>
      have answered : Answered sessionId accepted state.world := ok.imp And.left fun dead => dead.1.1
      cases result with
      | ok completed =>
        simp only [Recording.work, place, Option.some.injEq] at moved
        subst moved
        exact sound.moveWorker (by simp [place]) answered
      | error error =>
        cases error <;> simp only [Recording.work, place, Option.some.injEq] at moved <;>
          subst moved <;> exact sound.moveWorker (by simp [place]) answered
  | awaitFail =>
    simp only [Recording.work, place, Option.ite_none_right_eq_some, Option.some.injEq]
      at moved ok
    obtain ⟨-, rfl⟩ := moved
    refine sound.moveWorker (by simp [place]) ?_
    rcases ok with settled | opened
    · exact .inl ⟨settled, fail_keepsBooks⟩
    · exact .inr ⟨opened, fail_keepsOpen⟩
  | failing rest =>
    rw [place] at ok
    cases rest with
    | perform request continuation =>
      simp only [Recording.work, place, Option.some.injEq] at moved
      subst moved
      refine sound.moveWorker (by simp [place]) ?_
      rcases ok with ⟨settled, kept⟩ | ⟨opened, kept⟩
      · exact .inl ⟨perform_settled choice settled kept.1, kept.2 _ trivial⟩
      · obtain ⟨reached, answered⟩ := perform_open choice opened kept.1
        exact .inr ⟨reached, kept.2 _ answered⟩
    | finish result =>
      simp only [Recording.work, place, Option.some.injEq] at moved
      subst moved
      exact sound.moveWorker (by simp [place]) (ok.imp And.left And.left)
  | readCompleted =>
    simp only [Recording.work, place, Option.some.injEq] at moved ok
    subst moved
    refine sound.moveWorker (by simp [place]) ?_
    split
    · exact ok
    · exact ok
  | reportDeadline =>
    simp only [Recording.work, place, Option.some.injEq] at moved ok
    subst moved
    exact sound.moveWorker (by simp [place]) ok
  | _ =>
    simp only [Recording.work, place, Option.some.injEq] at moved ok
    subst moved
    exact sound.moveWorker (by simp [place]) ok

theorem appendStep_accounted (sound : Accounted sessionId accepted state) {choice : Choice}
    {answer : Option FrameBatch} (handled : FaultsHandled state (.appendStep choice))
    (moved : state.appendStep choice = some (next, answer)) :
    Accounted sessionId (accepted ++ answer.elim [] FrameBatch.frames) next := by
  have ok := sound.worker
  cases place : state.appender with
  | idle => simp [Recording.appendStep, place] at moved
  | waiting batch =>
    have absent := sound.alone.resolve_right (by simp [place])
    rw [absent, place] at ok
    simp only [Recording.appendStep, place, Option.ite_none_right_eq_some, Option.some.injEq,
      Prod.mk.injEq] at moved
    obtain ⟨-, rfl, rfl⟩ := moved
    refine ⟨sound.recording, .inl absent, ?_⟩
    rw [absent]
    simp only [Option.elim, List.append_nil]
    exact Calling.start (append_triple batch) (append_keepsOpen batch) (Keeping.opened ok) ok
  | appending batch rest =>
    have absent := sound.alone.resolve_right (by simp [place])
    rw [absent, place] at ok
    have calling : Calling sessionId false (appendedBooks sessionId accepted batch) rest
      state.world := ok
    cases rest with
    | perform request continuation =>
      simp only [Recording.appendStep, place, Option.some.injEq, Prod.mk.injEq] at moved
      simp only [FaultsHandled, place] at handled
      obtain ⟨rfl, rfl⟩ := moved
      refine ⟨sound.recording, .inl absent, ?_⟩
      rw [absent]
      simp only [Option.elim, List.append_nil]
      exact calling.perform handled
    | finish result =>
      have reached := calling.finished
      cases result with
      | ok value =>
        simp only [Recording.appendStep, place, Option.some.injEq, Prod.mk.injEq] at moved
        obtain ⟨rfl, rfl⟩ := moved
        refine ⟨sound.recording, .inl absent, ?_⟩
        rw [absent]
        exact .inl reached
      | error error =>
        simp only [Recording.appendStep, place, Option.some.injEq, Prod.mk.injEq] at moved
        obtain ⟨rfl, rfl⟩ := moved
        refine ⟨sound.recording, .inl absent, ?_⟩
        rw [absent]
        simp only [Option.elim, List.append_nil]
        exact reached

theorem append_accounted (sound : Accounted sessionId accepted state) {batch : FrameBatch}
    (moved : state.append batch = some next) : Accounted sessionId accepted next := by
  unfold Recording.append at moved
  split at moved
  · rename_i owned idle
    have absent := sound.recording owned
    have ok := sound.worker
    rw [absent, idle] at ok
    split at moved
    · cases moved
    split at moved
    · cases moved
      refine ⟨sound.recording, .inl absent, ?_⟩
      rw [absent]
      exact ok
    · cases moved
      refine ⟨sound.recording, .inl absent, ?_⟩
      rw [absent, idle]
      exact ok
  · cases moved

/-- A diagnostic can only take a completion away. -/
theorem WorkerSound.failed {failure : Option RecorderFailure} {appender : Appender}
    {worker : Worker} (ok : WorkerSound sessionId accepted world failure appender worker)
    (diagnosis : RecorderFailure) :
    WorkerSound sessionId accepted world (failure.or (some diagnosis)) appender worker := by
  cases worker with
  | awaitTerminal | gateFailure =>
    refine ⟨ok.1, .inr ?_⟩
    cases failure <;> exact Option.some_ne_none _
  | _ => exact ok

/-- While the owner still records, nothing depends on the recorder's own attributes. -/
theorem Accounted.changeRecorder (sound : Accounted sessionId accepted state)
    (owned : state.owner = .recording) (recorder : ProjectRecorder) :
    Accounted sessionId accepted { state with recorder } := by
  have absent := sound.recording owned
  have ok := sound.worker
  refine ⟨sound.recording, sound.alone, ?_⟩
  rw [absent] at ok ⊢
  exact ok

private theorem stop_accounted (sound : Accounted sessionId accepted state)
    (idle : state.appender = .idle) (moved : state.stop = some next) :
    Accounted sessionId accepted next := by
  unfold Recording.stop at moved
  split at moved
  · rename_i owned
    cases moved
    have ok := sound.worker
    rw [sound.recording owned, idle] at ok
    exact ⟨fun stopping => (by cases stopping), .inr idle, ok⟩
  · cases moved

private theorem abandonStop_accounted (sound : Accounted sessionId accepted state)
    (moved : state.abandonStop = some next) : Accounted sessionId accepted next := by
  unfold Recording.abandonStop at moved
  split at moved
  · rename_i owned
    cases moved
    have ok := sound.worker
    refine ⟨fun stopped => (by cases stopped), sound.alone.imp_left fun absent => ?_, ?_⟩
    · rw [absent]
      rfl
    · cases place : state.worker with
      | _ =>
        rw [place] at ok
        exact ok
  · cases moved

private theorem returnStop_accounted (sound : Accounted sessionId accepted state)
    (moved : state.returnStop = some next) : Accounted sessionId accepted next := by
  unfold Recording.returnStop at moved
  split at moved
  · cases moved
    exact ⟨fun stopped => (by cases stopped), sound.alone, sound.worker⟩
  · cases moved

theorem step_accounted (sound : Accounted sessionId accepted state) {event : Event}
    {answer : Option FrameBatch} (allowed : Accountable state event)
    (moved : state.step event = some (next, answer)) :
    Accounted sessionId (accepted ++ answer.elim [] FrameBatch.frames) next := by
  obtain ⟨sequential, handled⟩ := allowed
  cases event with
  | appendStep choice => exact appendStep_accounted sound handled moved
  | report failure =>
    cases moved
    simp only [Option.elim, List.append_nil]
    exact ⟨sound.recording, sound.alone, sound.worker.failed failure⟩
  | append batch | armStopDeadline seconds reading | stop | work choice reading | abandonStop
  | returnStop =>
    simp only [Recording.step, Recording.silent, Option.map_eq_some_iff, Prod.mk.injEq] at moved
    obtain ⟨reached, moved, rfl, rfl⟩ := moved
    simp only [Option.elim, List.append_nil]
    first
      | exact append_accounted sound moved
      | exact stop_accounted sound sequential moved
      | exact work_accounted sound handled moved
      | exact abandonStop_accounted sound moved
      | exact returnStop_accounted sound moved
      | (unfold Recording.armStopDeadline at moved
         split at moved
         · rename_i owned undated
           split at moved
           · cases moved
             exact sound.changeRecorder owned _
           · cases moved
         · cases moved)
  | _ => exact sequential.elim

theorem started_accounted (started : Started sessionId world) (diagnosis : RecorderFailure) :
    Accounted sessionId [] (Recording.started sessionId diagnosis world) :=
  ⟨fun _ => rfl, .inl rfl, .inl started.kept⟩

/-- Wherever the threads are, the books are closed or nothing is completed. -/
theorem WorkerSound.answered {failure : Option RecorderFailure} {appender : Appender}
    {worker : Worker} (ok : WorkerSound sessionId accepted world failure appender worker) :
    Answered sessionId accepted world := by
  cases worker with
  | absent =>
    cases appender with
    | appending batch rest => exact .inr ok.1
    | idle | waiting batch => exact .inr (Keeping.opened ok)
  | queued | cancelled | checkFailure | awaitFlush => exact .inr (Keeping.opened ok)
  | flushing rest => exact .inr ok.1
  | diagnoseFlush error => exact .inr ok
  | awaitTerminal | gateFailure | gateDeadline | gateClock deadline | awaitCommit => exact .inr ok.1
  | committing rest => exact ok.imp And.left fun dead => dead.1.1
  | failing rest => exact ok.imp And.left And.left
  | _ => exact ok

/-- A completed row has closed books. -/
theorem Accounted.complete (sound : Accounted sessionId accepted state)
    (completed : RowCompleted sessionId state.world) :
    Complete sessionId accepted state.world := by
  rcases sound.worker.answered with settled | opened
  · exact settled.complete
  · exact absurd completed opened.row

/-- In every run whose faults are all turned into a failed session, a session that ends
`COMPLETED` holds exactly the accepted frames, in segments 0 to `segment_count` - 1. -/
theorem completed_complete (started : Started sessionId world) {diagnosis : RecorderFailure}
    {trace : List (Event × Option FrameBatch)} {final : Recording}
    (run : Path Recording.step Accountable (.started sessionId diagnosis world) trace final)
    (completed : RowCompleted sessionId final.world) :
    Complete sessionId (acceptedFrames trace) final.world := by
  have sound : Accounted sessionId (acceptedFrames trace) final := by
    refine run.preserves_trace (fun trace state => Accounted sessionId (acceptedFrames trace) state)
      (started_accounted started diagnosis) fun trace state event next answer _ sound allowed moved => ?_
    rw [acceptedFrames_append]
    exact step_accounted sound allowed moved
  exact sound.complete completed

/-! One batch, then a stop. -/

def oneBatch (batch : FrameBatch) (appendSteps workSteps : Nat) : List Event :=
  .append batch :: List.replicate appendSteps (.appendStep calm) ++
    .stop :: List.replicate workSteps (.work calm 1)

def sequentially (state : Recording) : Event → Bool
  | .append _ | .appendStep _ | .work _ _ => true
  | .stop =>
    match state.appender with
    | .idle => true
    | _ => false
  | _ => false

theorem sequentially_sound (state : Recording) (event : Event)
    (passed : sequentially state event = true) : Sequential state event := by
  cases event with
  | stop =>
    cases place : state.appender with
    | idle => exact place
    | waiting batch => simp [sequentially, place] at passed
    | appending batch rest => simp [sequentially, place] at passed
  | append batch | appendStep choice | work choice reading => trivial
  | _ => cases passed

def recording (maxFramesPerSegment : Nat) (positive : 0 < maxFramesPerSegment) : Recording :=
  .started sampleSessionId stopDeadlineExceeded (sampleWorld maxFramesPerSegment positive)

/-- The row, the accepted sequences and the recorded ones. -/
def books (reached : Recording × List (Event × Option FrameBatch)) :
    Option DataSessionState × List Nat × Option (List Nat) :=
  (sessionState sampleSessionId reached.1.world.database,
    (acceptedFrames reached.2).map Frame.sequence,
    (recordedFrames sampleSessionId reached.1.world).map (·.map Frame.sequence))

/-- A frame whose sequence is 2 ^ 63 stays buffered until the stop. Its registration raises
`OverflowError`, no handler sees it, and the session ends `COMPLETED` without the frame. -/
theorem completed_incomplete :
    ∃ trace final, Path Recording.step Sequential (recording 2 (by decide)) trace final ∧
      RowCompleted sampleSessionId final.world ∧
      ¬Complete sampleSessionId (acceptedFrames trace) final.world := by
  have evaluated : (followWithin Recording.step sequentially (recording 2 (by decide))
      (oneBatch (sampleBatch (2 ^ 63) (by decide)) 6 33)).map books =
        some (some .completed, [2 ^ 63], some []) := by
    decide +kernel
  obtain ⟨trace, final, run, seen⟩ := Path.observedWithin _ books _ sequentially_sound evaluated
  simp only [books, Prod.mk.injEq] at seen
  obtain ⟨completed, accepted, recorded⟩ := seen
  refine ⟨trace, final, run, completed, fun complete => ?_⟩
  rw [complete.frames, Option.map_some, accepted] at recorded
  cases recorded

/-- An effect that meets no fault and binds every integer. -/
def undisturbed (request : DataEffect) (choice : Choice) : Bool :=
  choice.fault = none && choice.byteSize ≠ 0 &&
    match request with
    | .registerSegment segment session => bindable segment.integers && bindable session.integers
    | _ => true

private theorem undisturbed_harmless {request : DataEffect} {choice : Choice} (final : Bool)
    (passed : undisturbed request choice = true) : harmless final request choice := by
  simp only [undisturbed, Bool.and_eq_true, decide_eq_true_eq] at passed
  obtain ⟨⟨faultless, nonempty⟩, binds⟩ := passed
  have silent : ∀ error, choice.fault ≠ some error := by
    rw [faultless]
    intro error same
    cases same
  cases request with
  | registerSegment segment session =>
    exact ⟨fun error same => absurd same (silent error), fun _ => Bool.and_eq_true_iff.mp binds⟩
  | fileSize path => exact ⟨fun error same => absurd same (silent error), fun _ => nonempty⟩
  | _ => first | trivial | exact fun error same => absurd same (silent error)

def undisturbedly (state : Recording) (event : Event) : Bool :=
  sequentially state event &&
    match event with
    | .appendStep choice =>
      match state.appender with
      | .appending _ (.perform request _) => undisturbed request choice
      | _ => true
    | .work choice _ =>
      match state.worker with
      | .flushing (.perform request _) => undisturbed request choice
      | _ => true
    | _ => true

theorem undisturbedly_sound (state : Recording) (event : Event)
    (passed : undisturbedly state event = true) : Accountable state event := by
  obtain ⟨sequential, quiet⟩ := Bool.and_eq_true_iff.mp passed
  refine ⟨sequentially_sound state event sequential, ?_⟩
  cases event with
  | appendStep choice =>
    simp only [FaultsHandled]
    split
    · rename_i place
      rw [place] at quiet
      exact undisturbed_harmless false quiet
    · trivial
  | work choice reading =>
    simp only [FaultsHandled]
    split
    · rename_i place
      rw [place] at quiet
      exact undisturbed_harmless true quiet
    · trivial
  | _ => trivial

/-- One frame in a segment of its own. -/
theorem completed_complete_frame :
    ∃ trace final, Path Recording.step Accountable (recording 1 (by decide)) trace final ∧
      RowCompleted sampleSessionId final.world ∧
      (acceptedFrames trace).map Frame.sequence = [0] ∧
      Complete sampleSessionId (acceptedFrames trace) final.world := by
  have evaluated : (followWithin Recording.step undisturbedly (recording 1 (by decide))
      (oneBatch (sampleBatch 0 (by decide)) 19 22)).map books =
        some (some .completed, [0], some [0]) := by
    decide +kernel
  obtain ⟨trace, final, run, seen⟩ := Path.observedWithin _ books _ undisturbedly_sound evaluated
  simp only [books, Prod.mk.injEq] at seen
  exact ⟨trace, final, run, seen.1, seen.2.1,
    completed_complete (sampleWorld_started 1 (by decide)) run seen.1⟩

end CanX.Recorder
