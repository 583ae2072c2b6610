import CanX.Data.Finality
import CanX.Data.Publishing
import CanX.Transition.Raising

/-! The calls on a writer, whatever fails in them: a refused batch changes nothing, and any other exception has ended the
session with its books in order, as long as the code around the failed effect takes the failure into account. -/

namespace CanX.Data

open Domain Storage Transition
open Transition.Program (FencedTriple Fenced)

variable {sizeOf : SegmentTable → Nat} {sessionId : Uuid} {start : World} {abandoned : List Frame → Prop}
variable {chunks : List (List Frame)} {writer : Writer} {state : Watched} {frames rest : List Frame}

theorem Ready.lasting (ready : Ready sizeOf sessionId start state) : Lasting sizeOf sessionId start abandoned state := by
  obtain ⟨chunks, working⟩ := ready
  exact working.lasting (temporary_left sessionId chunks)

theorem Ready.active (ready : Ready sizeOf sessionId start state) : state.world.writer.session.state = .active := by
  obtain ⟨chunks, working⟩ := ready
  exact working.active

variable (sizeOf sessionId start) in
/-- An active writer between two calls, whatever removal has failed. -/
def Resting (state : Watched) : Prop :=
  ∃ chunks leftover, Tidy sessionId chunks leftover state ∧
    Working sizeOf sessionId start chunks leftover state.world.writer state

theorem Ready.resting (ready : Ready sizeOf sessionId start state) : Resting sizeOf sessionId start state := by
  obtain ⟨chunks, working⟩ := ready
  exact ⟨chunks, _, .inl rfl, working⟩

theorem Resting.lasting (resting : Resting sizeOf sessionId start state) :
    Lasting sizeOf sessionId start abandoned state := by
  obtain ⟨chunks, leftover, tidy, working⟩ := resting
  exact working.lasting tidy.left

theorem Resting.active (resting : Resting sizeOf sessionId start state) :
    state.world.writer.session.state = .active := by
  obtain ⟨chunks, leftover, _, working⟩ := resting
  exact working.active

theorem Resting.failing (resting : Resting sizeOf sessionId start state) :
    Failing sizeOf sessionId start abandoned state := by
  obtain ⟨chunks, leftover, tidy, working⟩ := resting
  exact working.failing tidy

theorem Resting.advance {session : DataSession} (resting : Resting sizeOf sessionId start state) :
    Resting sizeOf sessionId start
      { state with world := { state.world with database := (advanceSessionState session state.world.database).1 } } := by
  obtain ⟨chunks, leftover, tidy, working⟩ := resting
  exact ⟨chunks, leftover, tidy, working.held.advance, rfl, working.active, working.marked, working.tree,
    working.appended⟩

private theorem refuseIf_raises {allowed : DataError → Prop} {condition : Prop} [Decidable condition] {error : DataError}
    (held : allowed error) : Raises allowed (refuseIf condition error) :=
  .ite (.error held) .ok

/-- All that `append` raises of a batch it does not admit is a refusal. -/
theorem Writer.admits_refusal (writer : Writer) (batch : FrameBatch) :
    Raises (fun error => (PyException.data error).refusal = true) (writer.admits batch) := by
  unfold Writer.admits requireOrderedTimestamps
  refine Raises.bind (refuseIf_raises rfl) fun _ => Raises.bind ?_ fun _ => Raises.bind (refuseIf_raises rfl) fun _ => ?_
  · unfold requireContiguousSequence
    split
    · exact .ok
    · exact refuseIf_raises rfl
  · split
    · exact .ok
    · exact refuseIf_raises rfl

/-- The registered chunk is taken out of the buffer. -/
theorem Taken.drained (taken : Taken sizeOf sessionId start chunks rest writer state) (buffer : List Frame)
    (left : buffer = rest) :
    Ready sizeOf sessionId start
      { state with world := ⟨state.world.database, state.world.files, state.world.writer.withBuffer buffer⟩ } := by
  subst left
  obtain ⟨updated, same⟩ := taken.writes
  have held : Held sizeOf sessionId start chunks
      { state with world := ⟨state.world.database, state.world.files, state.world.writer.withBuffer buffer⟩ } :=
    ⟨taken.held.books.withWriter _, taken.held.tallies, taken.held.named, taken.held.elsewhere.files,
      taken.held.elsewhere.segments⟩
  refine ⟨chunks, held, rfl, taken.active, ⟨taken.marked.ordered, ?_, ?_⟩, taken.tree, taken.appended⟩
  · rw [same]
    exact taken.marked.lastSequence
  · rw [same]
    exact taken.marked.lastTimestamp

theorem drain_guarded {change : Writer → List Frame} {broken : PyException → Watched → Prop}
    (left : ∀ updated, change (writer.withSession updated) = rest) :
    Guarded sizeOf sessionId start abandoned (Taken sizeOf sessionId start chunks rest writer)
      (ask (.modifyWriter fun writer => writer.withBuffer (change writer)))
      (outcome (fun _ state => Ready sizeOf sessionId start state ∧ state.world.writer.buffer = rest) never) broken := by
  refine modifyWriter_guarded (fun _ reached => reached.1.lasting) fun state taken => ?_
  obtain ⟨updated, same⟩ := taken.writes
  have drained : change state.world.writer = rest := by
    rw [same]
    exact left updated
  have shorter : (state.world.writer.withBuffer (change state.world.writer)).buffer.length ≤
      state.world.writer.buffer.length := by
    rw [drained, same]
    exact taken.buffered.length_le
  rw [moved_shorter _ shorter]
  exact ⟨taken.drained _ drained, drained⟩

theorem flushFullSegments_guarded (sized : ∀ table, sizeOf table ≠ 0) (rounds : Nat) :
    Guarded sizeOf sessionId start abandoned
      (fun state => Ready sizeOf sessionId start state ∧ state.world.writer.buffer.length ≤ rounds)
      (flushFullSegments rounds)
      (outcome (fun _ => Ready sizeOf sessionId start) (Failed sizeOf sessionId start abandoned))
      (Spoiled sizeOf sessionId start) := by
  induction rounds with
  | zero => exact FencedTriple.finish fun state reached => reached.1
  | succ rounds ih =>
    refine FencedTriple.bind (readWriter_guarded fun _ reached => reached.1.lasting) (fun writer => ?_)
      fun _ _ reached => by cases reached.2
    intro state reached
    obtain ⟨⟨ready, bound⟩, same⟩ := reached
    obtain rfl := Except.ok.inj same
    by_cases full : state.world.writer.maxFramesPerSegment ≤ state.world.writer.buffer.length
    · rw [if_pos full]
      have positive := state.world.writer.threshold_positive
      have nonempty : state.world.writer.buffer.take state.world.writer.maxFramesPerSegment ≠ [] := by
        rw [← List.length_pos_iff, List.length_take]
        omega
      have split := (List.take_append_drop state.world.writer.maxFramesPerSegment state.world.writer.buffer).symm
      obtain ⟨chunks, working⟩ := ready
      refine (?_ : Guarded sizeOf sessionId start abandoned
        (Idle sizeOf sessionId start chunks state.world.writer) _ _ _) state working
      refine FencedTriple.bind (commitSegment_guarded sized split nonempty) (fun _ => ?_) fun _ _ failed => failed
      refine FencedTriple.bind (drain_guarded fun updated => rfl) (fun _ => ?_) fun _ _ raised => raised.elim
      refine ih.consequence (fun after reached => ⟨reached.1, ?_⟩) (fun _ _ reached => reached)
        fun _ _ spoiled => spoiled
      rw [reached.2, List.length_drop]
      omega
    · rw [if_neg full]
      exact FencedTriple.finish (fun _ ready => ready) state ready

/-! The calls. -/

/-- A call on a writer that has ended is refused at its first check. -/
theorem requireActive_ended {Value : Type} {continuation : Unit → DataProgram Value}
    {broken : PyException → Watched → Prop}
    {post : Except PyException Value → Watched → Prop}
    (raised : ∀ state, Terminated sizeOf sessionId start abandoned state → post (.error notActive) state) :
    Guarded sizeOf sessionId start abandoned (Terminated sizeOf sessionId start abandoned)
      (requireActive >>= continuation)
      post broken := by
  have refused : Guarded sizeOf sessionId start abandoned (Terminated sizeOf sessionId start abandoned) requireActive
      (fun result state => result = .error notActive ∧ Terminated sizeOf sessionId start abandoned state) broken := by
    refine FencedTriple.bind (readWriter_guarded fun _ => Terminated.lasting) (fun writer => ?_)
      fun _ _ reached => by cases reached.2
    intro state reached
    obtain ⟨ended, same⟩ := reached
    obtain rfl := Except.ok.inj same
    obtain ⟨chunks, leftover, halted⟩ := ended
    rw [if_neg halted.ended]
    exact ⟨rfl, chunks, leftover, halted⟩
  refine FencedTriple.bind refused (fun value => ?_) fun error state reached => ?_
  · intro state reached
    cases reached.1
  · obtain rfl := Except.error.inj reached.1
    exact raised state reached.2

/-- An active writer passes the check. -/
theorem requireActive_resting {pre : Watched → Prop} {broken : PyException → Watched → Prop}
    (resting : ∀ state, pre state → Resting sizeOf sessionId start state) :
    Guarded sizeOf sessionId start abandoned pre requireActive (outcome (fun _ => pre) never) broken := by
  refine FencedTriple.bind (readWriter_guarded fun state holds => (resting state holds).lasting) (fun writer => ?_)
    fun _ _ reached => by cases reached.2
  intro state reached
  obtain ⟨holds, same⟩ := reached
  obtain rfl := Except.ok.inj same
  rw [if_pos (resting state holds).active]
  exact holds

variable (sizeOf sessionId start abandoned) in
/-- What an append leaves of the state it began in. -/
def Appended (before : Watched) : Except PyException Unit → Watched → Prop
  | .ok _, after => Ready sizeOf sessionId start after
  | .error error, after =>
    error.refusal = true ∧ after = before ∧ Ready sizeOf sessionId start after ∨
      Failed sizeOf sessionId start abandoned error after

theorem Ready.extended {batch : FrameBatch} (ready : Ready sizeOf sessionId start state)
    (admitted : state.world.writer.admits batch = .ok ()) :
    Ready sizeOf sessionId start
      (state.moved ⟨state.world.database, state.world.files, state.world.writer.extended batch⟩) := by
  obtain ⟨chunks, working⟩ := ready
  have added : (state.moved ⟨state.world.database, state.world.files, state.world.writer.extended batch⟩).appended =
      chunks.flatten ++ (state.world.writer.extended batch).buffer := by
    have dropped : (state.world.writer.extended batch).buffer.drop state.world.writer.buffer.length = batch.frames :=
      List.drop_left
    rw [Watched.moved, dropped, working.appended, List.append_assoc]
    rfl
  refine ⟨chunks, ⟨working.held.books.withWriter _, working.held.tallies, working.held.named,
    working.held.elsewhere.files, working.held.elsewhere.segments⟩, rfl, working.active, ?_, working.tree, added⟩
  have marked := working.marked.extended admitted
  rw [List.append_assoc] at marked
  exact marked

theorem append_guarded (sized : ∀ table, sizeOf table ≠ 0) (batch : FrameBatch)
    (ready : Ready sizeOf sessionId start state) :
    Guarded sizeOf sessionId start abandoned (· = state) (append batch) (Appended sizeOf sessionId start abandoned state)
      (Spoiled sizeOf sessionId start) := by
  have lasting : ∀ after, after = state → Lasting sizeOf sessionId start abandoned after :=
    fun _ same => same ▸ ready.lasting
  refine FencedTriple.bind (requireActive_resting fun _ same => same ▸ ready.resting) (fun _ => ?_)
    fun _ _ raised => raised.elim
  refine FencedTriple.bind (readWriter_guarded lasting) (fun writer => ?_) fun _ _ reached => by cases reached.2
  intro after reached
  obtain ⟨rfl, same⟩ := reached
  obtain rfl := Except.ok.inj same
  cases admitted : after.world.writer.admits batch with
  | error error =>
    have refusal := after.world.writer.admits_refusal batch error admitted
    have refused : Appended sizeOf sessionId start abandoned after (.error (.data error)) after :=
      .inl ⟨refusal, rfl, ready⟩
    exact refused
  | ok value =>
    rw [made_ok_bind]
    have taken : Guarded sizeOf sessionId start abandoned (· = after) (ask (.modifyWriter (·.extended batch)))
        (outcome (fun _ state => Ready sizeOf sessionId start state ∧
          state.world.writer.buffer.length ≤ after.world.writer.buffer.length + batch.frameCount) never)
        (Spoiled sizeOf sessionId start) := by
      refine modifyWriter_guarded (fun _ reached => reached.1.lasting) fun state same => ?_
      rw [same]
      refine ⟨ready.extended admitted, ?_⟩
      show (after.world.writer.buffer ++ batch.frames).length ≤ _
      rw [List.length_append]
      exact Nat.le_refl _
    refine FencedTriple.bind taken (fun _ => ?_) (fun _ _ raised => raised.elim) after rfl
    refine (flushFullSegments_guarded sized _).consequence (fun _ reached => reached) (fun result _ reached => ?_)
      fun _ _ spoiled => spoiled
    cases result with
    | ok value => exact reached
    | error error => exact .inr reached

theorem flushPending_guarded (sized : ∀ table, sizeOf table ≠ 0) :
    Guarded sizeOf sessionId start abandoned (Ready sizeOf sessionId start) flushPending
      (outcome (fun _ => Ready sizeOf sessionId start) (Failed sizeOf sessionId start abandoned))
      (Spoiled sizeOf sessionId start) := by
  refine FencedTriple.bind (requireActive_resting fun _ ready => ready.resting) (fun _ => ?_)
    fun _ _ raised => raised.elim
  refine FencedTriple.bind (readWriter_guarded fun _ => Ready.lasting) (fun writer => ?_)
    fun _ _ reached => by cases reached.2
  intro state reached
  obtain ⟨ready, same⟩ := reached
  obtain rfl := Except.ok.inj same
  by_cases drained : state.world.writer.buffer = []
  · rw [if_pos drained]
    exact FencedTriple.finish (fun _ ready => ready) state ready
  · rw [if_neg drained]
    obtain ⟨chunks, working⟩ := ready
    refine (?_ : Guarded sizeOf sessionId start abandoned
      (Idle sizeOf sessionId start chunks state.world.writer) _ _ _) state working
    refine FencedTriple.bind (commitSegment_guarded sized (List.append_nil _).symm drained) (fun _ => ?_)
      fun _ _ failed => failed
    refine (drain_guarded fun updated => rfl).consequence (fun _ taken => taken) (fun result _ reached => ?_)
      fun _ _ spoiled => spoiled
    cases result with
    | ok value => exact reached.1
    | error error => exact reached.elim

variable (sizeOf sessionId start abandoned) in
/-- Between two calls: the writer is active or has ended, with its books in order. -/
def Steady (state : Watched) : Prop :=
  Ready sizeOf sessionId start state ∨ Terminated sizeOf sessionId start abandoned state

theorem Ready.advance {session : DataSession} (ready : Ready sizeOf sessionId start state) :
    Ready sizeOf sessionId start
      { state with world := { state.world with database := (advanceSessionState session state.world.database).1 } } := by
  obtain ⟨chunks, working⟩ := ready
  exact ⟨chunks, working.held.advance, rfl, working.active, working.marked, working.tree, working.appended⟩

/-- `_mark_failed` before an exception is raised. -/
theorem failAndRaise_guarded {Value : Type} {error : PyException} {pre : Watched → Prop}
    {post : Except PyException Value → Watched → Prop} {broken : PyException → Watched → Prop}
    (resting : ∀ state, pre state → Resting sizeOf sessionId start state)
    (raised : ∀ result state, Terminated sizeOf sessionId start abandoned state → post (.error result) state) :
    Guarded sizeOf sessionId start abandoned pre (do markFailed; raise error) post broken := by
  intro state holds
  refine (?_ : Guarded sizeOf sessionId start abandoned (Failing sizeOf sessionId start abandoned) _ _ _) state
    (resting state holds).failing
  refine FencedTriple.bind markFailed_guarded (fun _ => ?_) fun other state reached => raised other state reached.1
  exact FencedTriple.finish fun state reached => raised error state reached.1

section Completing

variable {holds : Watched → Prop} {broken : PyException → Watched → Prop}

private theorem advanceOrFail_guarded {completed : DataSession}
    (resting : ∀ state, holds state → Resting sizeOf sessionId start state)
    (advances : ∀ state session, holds state → holds
      { state with world := { state.world with database := (advanceSessionState session state.world.database).1 } }) :
    Guarded sizeOf sessionId start abandoned (fun state => holds state ∧ state.world.writer = writer)
      (advanceOrFail completed)
      (outcome (fun _ state => holds state ∧ state.world.writer = writer)
        fun _ state => holds state ∨ Terminated sizeOf sessionId start abandoned state) broken := by
  have advanced : Guarded sizeOf sessionId start abandoned
      (fun state => holds state ∧ state.world.writer = writer)
      (ask (.advanceSessionState completed)) (fun result state =>
        (holds state ∧ state.world.writer = writer) ∧
          ∀ error, result = .error error → error.refusal = false) never :=
    advance_guarded (fun _ reached => (resting _ reached.1).lasting)
      fun _ reached => ⟨advances _ _ reached.1, reached.2⟩
  refine FencedTriple.catching advanced (fun _ _ reached => reached.1) (fun error => ?_) fun _ _ spoiled => spoiled.elim
  by_cases storage : error.isStorage = true
  · rw [if_pos storage]
    exact failAndRaise_guarded (fun _ reached => resting _ reached.1.1) fun _ _ ended => .inr ended
  · rw [if_neg storage]
    exact FencedTriple.finish fun _ reached => .inl reached.1.1

theorem commitCompleted_guarded (resting : ∀ state, holds state → Resting sizeOf sessionId start state)
    (advances : ∀ state session, holds state → holds
      { state with world := { state.world with database := (advanceSessionState session state.world.database).1 } }) :
    Guarded sizeOf sessionId start abandoned holds commitCompleted
      (fun _ state => holds state ∨ Terminated sizeOf sessionId start abandoned state) broken := by
  have lasting : ∀ state, holds state → Lasting sizeOf sessionId start abandoned state :=
    fun state reached => (resting state reached).lasting
  refine FencedTriple.bind (requireActive_resting resting) (fun _ => ?_) fun _ _ raised => raised.elim
  refine FencedTriple.bind (utcNow_guarded lasting) (fun endedAt => ?_) fun _ _ raised => raised.elim
  refine FencedTriple.bind (readWriter_guarded lasting) (fun writer => ?_) fun _ _ reached => by cases reached.2
  intro state reached
  obtain ⟨held, same⟩ := reached
  refine (?_ : Guarded sizeOf sessionId start abandoned
    (fun state => holds state ∧ state.world.writer = writer) _ _ _) state ⟨held, (Except.ok.inj same).symm⟩
  cases made : DataSession.make { writer.session.toSessionRow with
      state := .completed, endedAt := some endedAt, updatedAt := endedAt } with
  | error error => exact FencedTriple.finish fun _ reached => .inl reached.1
  | ok completed =>
    have row := DataSession.make_row made
    rw [made_ok_bind]
    refine FencedTriple.bind (advanceOrFail_guarded resting advances) (fun advanced => ?_) fun _ _ reached => reached
    cases advanced with
    | false => exact failAndRaise_guarded (fun _ reached => resting _ reached.1) fun _ _ ended => .inr ended
    | true =>
      have ended : completed.state ≠ .active := by
        intro active
        rw [row] at active
        cases active
      have named : completed.sessionId = writer.session.sessionId := by rw [row]
      have tallied : ∀ chunks, Tallies writer.session.toSessionRow chunks → Tallies completed.toSessionRow chunks := by
        intro chunks tallies
        rw [row]
        exact { tallies with }
      intro state reached
      refine FencedTriple.bind (endWriter_guarded ended named tallied) (fun _ => ?_) (fun _ _ raised => raised.elim)
        state ⟨(resting _ reached.1).failing, reached.2⟩
      exact FencedTriple.finish fun _ terminated => .inr terminated

end Completing

/-- `fail` gives the buffered frames up. -/
theorem fail_guarded {broken : PyException → Watched → Prop} :
    Guarded sizeOf sessionId start abandoned
      (fun state => Resting sizeOf sessionId start state ∧ abandoned state.world.writer.buffer ∨
        Terminated sizeOf sessionId start abandoned state) Data.fail
      (fun _ => Terminated sizeOf sessionId start abandoned) broken := by
  have lasting : ∀ state, Resting sizeOf sessionId start state ∧ abandoned state.world.writer.buffer ∨
      Terminated sizeOf sessionId start abandoned state → Lasting sizeOf sessionId start abandoned state := by
    intro state reached
    rcases reached with ⟨resting, _⟩ | ended
    · exact resting.lasting
    · exact ended.lasting
  refine FencedTriple.bind (readWriter_guarded lasting) (fun writer => ?_) fun _ _ reached => by cases reached.2
  intro state reached
  obtain ⟨reached, same⟩ := reached
  obtain rfl := Except.ok.inj same
  rcases reached with ⟨resting, given⟩ | ended
  · rw [if_pos resting.active]
    refine (?_ : Guarded sizeOf sessionId start abandoned
      (fun state => Resting sizeOf sessionId start state ∧ abandoned state.world.writer.buffer) _ _ _) state
      ⟨resting, given⟩
    have emptied : Guarded sizeOf sessionId start abandoned
        (fun state => Resting sizeOf sessionId start state ∧ abandoned state.world.writer.buffer)
        (ask (.modifyWriter (·.withBuffer [])))
        (outcome (fun _ => Failing sizeOf sessionId start abandoned) never) broken := by
      refine modifyWriter_guarded (fun _ => Failing.lasting) fun state reached => ?_
      obtain ⟨⟨chunks, leftover, tidy, working⟩, given⟩ := reached
      rw [moved_shorter (state.world.writer.withBuffer []) (Nat.zero_le _)]
      exact ⟨chunks, leftover, ⟨working.held.books.withWriter _, working.held.tallies, working.held.named,
        working.held.elsewhere.files, working.held.elsewhere.segments⟩, working.tree, tidy,
        state.world.writer.buffer, working.appended, .inr given⟩
    refine FencedTriple.bind emptied (fun _ => ?_) fun _ _ raised => raised.elim
    refine FencedTriple.bind markFailed_guarded (fun _ => ?_) fun _ _ reached => reached.1
    exact FencedTriple.finish fun _ reached => reached.1
  · obtain ⟨chunks, leftover, halted⟩ := ended
    rw [if_neg halted.ended]
    exact FencedTriple.finish (fun _ ended => ended) state ⟨chunks, leftover, halted⟩

/-! Runs of calls. -/

/-- Every call of a run meets a condition in the state it is made in. -/
def Each (condition : WriterCall → List Choice → Watched → Prop) : List (WriterCall × List Choice) → Watched → Prop
  | [], _ => True
  | (call, choices) :: later, state =>
    condition call choices state ∧ Each condition later (call.program.run watch calm choices state).2.1

instance Each.decidable {condition : WriterCall → List Choice → Watched → Prop}
    [∀ call choices state, Decidable (condition call choices state)] :
    (calls : List (WriterCall × List Choice)) → (state : Watched) → Decidable (Each condition calls state)
  | [], _ => inferInstanceAs (Decidable True)
  | (call, choices) :: later, state =>
    have : Decidable (Each condition later (call.program.run watch calm choices state).2.1) := Each.decidable _ _
    inferInstanceAs (Decidable (condition call choices state ∧ _))

/-- What each call of a run returns or raises. -/
def answers : List (WriterCall × List Choice) → Watched → List (Except PyException Unit)
  | [], _ => []
  | (call, choices) :: later, state =>
    (call.program.run watch calm choices state).1 :: answers later (call.program.run watch calm choices state).2.1

/-- The storage behaves during a call. -/
def Behaves (sizeOf : SegmentTable → Nat) (call : WriterCall) (choices : List Choice) (state : Watched) : Prop :=
  Program.Meets watch calm (usual sizeOf) call.program choices state

/-- The code around each effect of a call takes its failure, if any, into account. -/
def Accounted (call : WriterCall) (choices : List Choice) (state : Watched) : Prop :=
  Program.Meets watch calm handled call.program choices state

/-- A file under the canonical name of an unregistered index is one whose removal failed. -/
def Unstrayed (sessionId : Uuid) (state : Watched) : Prop :=
  ∀ index, (∀ row ∈ sessionSegments sessionId state.world.database, row.segmentIndex ≠ index) →
    state.world.files (segmentRelativePath sessionId index) ≠ none →
      segmentRelativePath sessionId index ∈ state.unremoved

/-- A refusal leaves everything as it was; any other exception has ended the session with its books balanced. -/
def AtomicFailure (sessionId : Uuid) (before : Watched) (error : PyException) (after : Watched) : Prop :=
  if error.refusal then after.world = before.world ∧ after.world.writer.session.state = .active
  else after.world.writer.session.state ≠ .active ∧
    Balanced after.world.writer.session.toSessionRow (sessionSegments sessionId after.world.database) ∧
    Unstrayed sessionId after

instance (sizeOf : SegmentTable → Nat) (call : WriterCall) (choices : List Choice) (state : Watched) :
    Decidable (Behaves sizeOf call choices state) :=
  inferInstanceAs (Decidable (Program.Meets watch calm (usual sizeOf) call.program choices state))

instance (call : WriterCall) (choices : List Choice) (state : Watched) : Decidable (Accounted call choices state) :=
  inferInstanceAs (Decidable (Program.Meets watch calm handled call.program choices state))

/-- Whatever an append or a final flush raises is an atomic failure. -/
def Atomic (sessionId : Uuid) (call : WriterCall) (choices : List Choice) (state : Watched) : Prop :=
  match call with
  | .append _ | .flushPending => ∀ error, (call.program.run watch calm choices state).1 = .error error →
      AtomicFailure sessionId state error (call.program.run watch calm choices state).2.1
  | _ => True

theorem Over.unstrayed {leftover : String} (halted : Over sizeOf sessionId start abandoned chunks leftover state) :
    Unstrayed sessionId state := by
  intro index unregistered present
  rcases halted.tree.segments index present with small | same
  · have keys := halted.held.books.keys
    have listed : (index, segmentRelativePath sessionId index) ∈
        (List.range chunks.length).map fun index => (index, segmentRelativePath sessionId index) :=
      List.mem_map_of_mem (List.mem_range.mpr small)
    rw [← keys] at listed
    obtain ⟨row, member, key⟩ := List.mem_map.mp listed
    exact absurd (Prod.mk.inj key).1 (unregistered row member)
  · rcases halted.tidy with temporary | ⟨_, remembered⟩
    · exact absurd (same.trans temporary) (segment_ne_nextTemporary index)
    · rw [same]
      exact remembered

theorem Failed.atomic {error : PyException} {before : Watched}
    (failed : Failed sizeOf sessionId start abandoned error state) : AtomicFailure sessionId before error state := by
  obtain ⟨⟨chunks, leftover, halted⟩, own⟩ := failed
  rw [AtomicFailure, own]
  exact ⟨halted.ended, halted.held.books.balanced halted.held.tallies, halted.unstrayed⟩

theorem Spoiled.not_atomic {error : PyException} {before : Watched}
    (spoiled : Spoiled sizeOf sessionId start error state) : ¬AtomicFailure sessionId before error state := by
  obtain ⟨own, chunks, leftover, _, working⟩ := spoiled
  rw [AtomicFailure, own]
  exact fun atomic => atomic.1 working.active

theorem Appended.atomic {error : PyException} {before : Watched}
    (appended : Appended sizeOf sessionId start abandoned before (.error error) state) :
    AtomicFailure sessionId before error state := by
  rcases appended with ⟨refusal, rfl, ready⟩ | failed
  · rw [AtomicFailure, if_pos refusal]
    exact ⟨rfl, ready.active⟩
  · exact failed.atomic

variable (sizeOf sessionId start abandoned) in
/-- What a call that was accounted for leaves. -/
def Answered (before : Watched) (result : Except PyException Unit) (after : Watched) : Prop :=
  Steady sizeOf sessionId start abandoned after ∧
    ∀ error, result = .error error → AtomicFailure sessionId before error after

/-- A call on a writer that has ended leaves it ended. -/
theorem ended_guarded {continuation : Unit → DataProgram Unit} {before : Watched}
    (ended : Terminated sizeOf sessionId start abandoned state) :
    Guarded sizeOf sessionId start abandoned (· = state) (requireActive >>= continuation)
      (Answered sizeOf sessionId start abandoned before) (Spoiled sizeOf sessionId start) := by
  refine (requireActive_ended fun state ended => ⟨.inr ended, fun error same => ?_⟩).consequence
    (fun _ same => same ▸ ended) (fun _ _ reached => reached) fun _ _ spoiled => spoiled
  obtain rfl := Except.error.inj same
  exact Failed.atomic ⟨ended, rfl⟩

theorem append_answered (sized : ∀ table, sizeOf table ≠ 0) (batch : FrameBatch)
    (steady : Steady sizeOf sessionId start abandoned state) :
    Guarded sizeOf sessionId start abandoned (· = state) (append batch) (Answered sizeOf sessionId start abandoned state)
      (Spoiled sizeOf sessionId start) := by
  rcases steady with ready | ended
  · refine (append_guarded sized batch ready).consequence (fun _ same => same) (fun result after appended => ?_)
      fun _ _ spoiled => spoiled
    cases result with
    | ok value => exact ⟨.inl appended, fun _ same => by cases same⟩
    | error error =>
      refine ⟨?_, fun other same => Except.error.inj same ▸ Appended.atomic appended⟩
      rcases appended with ⟨_, _, unchanged⟩ | failed
      · exact .inl unchanged
      · exact .inr failed.1
  · exact ended_guarded ended

theorem flushPending_answered (sized : ∀ table, sizeOf table ≠ 0)
    (steady : Steady sizeOf sessionId start abandoned state) :
    Guarded sizeOf sessionId start abandoned (· = state) flushPending (Answered sizeOf sessionId start abandoned state)
      (Spoiled sizeOf sessionId start) := by
  rcases steady with ready | ended
  · refine (flushPending_guarded sized).consequence (fun _ same => same ▸ ready) (fun result after reached => ?_)
      fun _ _ spoiled => spoiled
    cases result with
    | ok value => exact ⟨.inl reached, fun _ same => by cases same⟩
    | error error =>
      have failed : Failed sizeOf sessionId start abandoned error after := reached
      exact ⟨.inr failed.1, fun other same => Except.error.inj same ▸ failed.atomic⟩
  · exact ended_guarded ended

/-- The result of a call is dropped, its exception is not. -/
theorem discarding_guarded {Value : Type} {program : DataProgram Value} {pre left : Watched → Prop}
    (inner : Guarded sizeOf sessionId start abandoned pre program (fun _ => left) never) :
    Guarded sizeOf sessionId start abandoned pre (discarding program) (fun _ => left) never :=
  fun state holds => Fenced.andThen (inner state holds) (fun _ _ reached => reached) fun _ _ spoiled => spoiled.elim

private theorem commitCompleted_steady (steady : Steady sizeOf sessionId start abandoned state) :
    Guarded sizeOf sessionId start abandoned (· = state) (WriterCall.program .commitCompleted)
      (fun _ => Steady sizeOf sessionId start abandoned) never := by
  refine discarding_guarded ?_
  rcases steady with ready | ended
  · exact (commitCompleted_guarded (fun _ => Ready.resting) fun _ _ => Ready.advance).consequence
      (fun _ same => same ▸ ready) (fun _ _ reached => reached) fun _ _ spoiled => spoiled
  · exact (requireActive_ended fun _ ended => .inr ended).consequence (fun _ same => same ▸ ended)
      (fun _ _ reached => reached) fun _ _ spoiled => spoiled

private theorem fail_steady (given : abandoned state.world.writer.buffer)
    (steady : Steady sizeOf sessionId start abandoned state) :
    Guarded sizeOf sessionId start abandoned (· = state) (WriterCall.program .fail)
      (fun _ => Steady sizeOf sessionId start abandoned) never := by
  refine discarding_guarded (fail_guarded.consequence (fun _ same => ?_) (fun _ _ => .inr) fun _ _ spoiled => spoiled)
  rw [same]
  exact steady.imp_left fun ready => ⟨ready.resting, given⟩

/-- A call either is accounted for, and then atomic with steady books, or is neither. -/
theorem call_outcome {call : WriterCall} {choices : List Choice} (sized : ∀ table, sizeOf table ≠ 0)
    (permitted : call = .fail → abandoned state.world.writer.buffer)
    (steady : Steady sizeOf sessionId start abandoned state)
    (behaves : Behaves sizeOf call choices state) :
    Accounted call choices state ∧ Atomic sessionId call choices state ∧
        Steady sizeOf sessionId start abandoned (call.program.run watch calm choices state).2.1 ∨
      ¬Accounted call choices state ∧ ¬Atomic sessionId call choices state ∧
        ∃ error, Spoiled sizeOf sessionId start error (call.program.run watch calm choices state).2.1 := by
  have writes (answered : Guarded sizeOf sessionId start abandoned (· = state) call.program
      (Answered sizeOf sessionId start abandoned state) (Spoiled sizeOf sessionId start))
      (shape : Atomic sessionId call choices state ↔
        ∀ error, (call.program.run watch calm choices state).1 = .error error →
          AtomicFailure sessionId state error (call.program.run watch calm choices state).2.1) :
      Accounted call choices state ∧ Atomic sessionId call choices state ∧
          Steady sizeOf sessionId start abandoned (call.program.run watch calm choices state).2.1 ∨
        ¬Accounted call choices state ∧ ¬Atomic sessionId call choices state ∧
          ∃ error, Spoiled sizeOf sessionId start error (call.program.run watch calm choices state).2.1 := by
    rcases (answered state rfl).outcome behaves with ⟨met, reached⟩ | ⟨unmet, error, raised, spoiled⟩
    · exact .inl ⟨met, shape.mpr reached.2, reached.1⟩
    · exact .inr ⟨unmet, fun atomic => spoiled.not_atomic (shape.mp atomic error raised), error, spoiled⟩
  have ends (kept : Guarded sizeOf sessionId start abandoned (· = state) call.program
      (fun _ => Steady sizeOf sessionId start abandoned) never) (free : Atomic sessionId call choices state) :
      Accounted call choices state ∧ Atomic sessionId call choices state ∧
          Steady sizeOf sessionId start abandoned (call.program.run watch calm choices state).2.1 := by
    rcases (kept state rfl).outcome behaves with ⟨met, reached⟩ | ⟨_, _, _, spoiled⟩
    · exact ⟨met, free, reached⟩
    · exact spoiled.elim
  cases call with
  | append batch => exact writes (append_answered sized batch steady) Iff.rfl
  | flushPending => exact writes (flushPending_answered sized steady) Iff.rfl
  | commitCompleted => exact .inl (ends (commitCompleted_steady steady) trivial)
  | fail => exact .inl (ends (fail_steady (permitted rfl) steady) trivial)

/-- A session that has just started, with no file under any of its names. -/
theorem Started.ready {world : World} (started : Started sessionId world)
    (fresh : ∀ index, world.files (segmentRelativePath sessionId index) = none ∧
      world.files (temporaryPath (segmentRelativePath sessionId index)) = none) :
    Ready sizeOf sessionId world (.opened world) := by
  obtain ⟨projectId, streamId, startedAt, initial⟩ := started.fresh
  have kept := started.kept
  have unsegmented : sessionSegments sessionId world.database = [] := by
    refine List.filter_eq_nil_iff.mpr fun segment member => ?_
    simpa using started.unsegmented segment member
  have drained : world.writer.buffer = [] := by
    rw [started.writer]
    rfl
  have tallies : Tallies world.writer.session.toSessionRow [] := by
    rw [initial]
    exact ⟨rfl, rfl, rfl, rfl, rfl, rfl⟩
  have books : Books sizeOf sessionId [] world := by
    refine ⟨?_, ?_, ⟨_, started.row, tallies⟩, .nil⟩
    · rw [unsegmented]
      rfl
    · rw [unsegmented]
      exact .nil
  have named : world.writer.session.sessionId = sessionId := by
    rw [initial]
    rfl
  have active : world.writer.session.state = .active := by
    rw [initial]
    rfl
  have marked : Marked world.writer ([] ++ world.writer.buffer) := by
    rw [drained]
    exact kept.marked
  have tree : Tree sessionId 0 (nextTemporary sessionId 0) world.files :=
    ⟨fun index present => absurd (fresh index).1 present, fun index present => absurd (fresh index).2 present⟩
  have appended : [] = [] ++ world.writer.buffer := by
    rw [drained]
    rfl
  exact ⟨[], ⟨books, tallies, named, ⟨fun _ _ => rfl, fun _ _ => Iff.rfl⟩⟩, rfl, active, marked, tree, appended⟩

/-- From any state between two calls. -/
theorem Steady.atomic_iff (sized : ∀ table, sizeOf table ≠ 0) {calls : List (WriterCall × List Choice)}
    (steady : Steady sizeOf sessionId start (fun _ => True) state) (behaves : Each (Behaves sizeOf) calls state) :
    Each (Atomic sessionId) calls state ↔ Each Accounted calls state := by
  induction calls generalizing state with
  | nil => exact Iff.rfl
  | cons entry later ih =>
    obtain ⟨call, choices⟩ := entry
    obtain ⟨here, rest⟩ := behaves
    rcases call_outcome sized (fun _ => trivial) steady here with ⟨met, atomic, next⟩ | ⟨unmet, broken, _⟩
    · have continued := ih next rest
      exact ⟨fun all => ⟨met, continued.mp all.2⟩, fun all => ⟨atomic, continued.mpr all.2⟩⟩
    · exact ⟨fun all => absurd all.1 broken, fun all => absurd all.1 unmet⟩

/-- In a run of calls every failure is atomic just when every failed effect is taken into account. -/
theorem writer_failures_atomic {world : World} {calls : List (WriterCall × List Choice)}
    (sized : ∀ table, sizeOf table ≠ 0) (started : Started sessionId world)
    (fresh : ∀ index, world.files (segmentRelativePath sessionId index) = none ∧
      world.files (temporaryPath (segmentRelativePath sessionId index)) = none)
    (behaves : Each (Behaves sizeOf) calls (.opened world)) :
    Each (Atomic sessionId) calls (.opened world) ↔ Each Accounted calls (.opened world) :=
  Steady.atomic_iff sized (.inl (started.ready fresh)) behaves

theorem usual_calm (request : DataEffect) (state : Watched) : usual (fun _ => 100) request Data.calm state := by
  cases request <;> simp [usual, Data.calm]

theorem one_unsigned : 1 ≤ 0xFFFFFFFFFFFFFFFF := by decide

/-- A segment is registered; the registration of the next one meets a locked database, and the removal of its file
fails as well; a final flush follows. -/
def refusedRegistration : List (WriterCall × List Choice) :=
  [(.append (sampleBatch 0 zero_unsigned), []),
    (.append (sampleBatch 1 one_unsigned),
      List.replicate 14 calm ++ [{ calm with fault := some .sqlite }, { calm with fault := some .os }]),
    (.flushPending, [])]

theorem writer_failures_atomic_refused :
    Each (Atomic sampleSessionId) refusedRegistration (.opened (sampleWorld 1 Nat.one_pos)) ∧
      answers refusedRegistration (.opened (sampleWorld 1 Nat.one_pos)) =
        [.ok (), .error registrationFailed, .error notActive] := by
  have behaves : Each (Behaves fun _ => 100) refusedRegistration (.opened (sampleWorld 1 Nat.one_pos)) := by
    decide +kernel
  have accounted : Each Accounted refusedRegistration (.opened (sampleWorld 1 Nat.one_pos)) := by decide +kernel
  refine ⟨?_, by decide +kernel⟩
  exact (writer_failures_atomic (fun _ => by decide) (sampleWorld_started _ _) (fun _ => ⟨rfl, rfl⟩) behaves).mpr
    accounted

/-- The registration overflows on the sequence number of a canonical frame: the writer stays active and the file of the
unregistered segment stays where it was published. -/
theorem append_overflow_not_atomic :
    Each (Behaves fun _ => 100) [(.append (sampleBatch 9223372036854775808 (by decide)), [])]
        (.opened (sampleWorld 1 Nat.one_pos)) ∧
      ¬Each (Atomic sampleSessionId) [(.append (sampleBatch 9223372036854775808 (by decide)), [])]
        (.opened (sampleWorld 1 Nat.one_pos)) := by
  refine ⟨⟨Program.Meets.of_default usual_calm, trivial⟩, fun atomic => ?_⟩
  have raised : ((WriterCall.append (sampleBatch 9223372036854775808 (by decide))).program.run watch Data.calm []
      (.opened (sampleWorld 1 Nat.one_pos))).1 = .error .overflow := by decide +kernel
  have active : ((WriterCall.append (sampleBatch 9223372036854775808 (by decide))).program.run watch Data.calm []
      (.opened (sampleWorld 1 Nat.one_pos))).2.1.world.writer.session.state = .active := by decide +kernel
  exact (atomic.1 .overflow raised).1 active

/-- No handler around that registration takes an overflow into account. -/
example :
    ¬Accounted (.append (sampleBatch 9223372036854775808 (by decide))) [] (.opened (sampleWorld 1 Nat.one_pos)) := by
  decide +kernel

end CanX.Data
