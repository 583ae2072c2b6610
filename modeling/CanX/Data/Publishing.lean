import CanX.Data.Watch

/-! A segment on its way from the buffer into the books: its temporary file, its canonical name, its row, the writer's
next snapshot, and what a failure at each of these leaves. -/

namespace CanX.Data

open Domain Storage Transition
open Transition.Program (FencedTriple Fenced)

variable {sizeOf : SegmentTable → Nat} {sessionId : Uuid} {start : World} {abandoned : List Frame → Prop}
variable {chunks : List (List Frame)} {leftover : String} {writer : Writer} {state : Watched}

theorem temporary_left (sessionId : Uuid) (chunks : List (List Frame)) :
    Leftover sessionId chunks (nextTemporary sessionId chunks.length) := .inl rfl

theorem segment_left (sessionId : Uuid) (chunks : List (List Frame)) :
    Leftover sessionId chunks (nextSegment sessionId chunks.length) := .inr rfl

variable (sizeOf sessionId start chunks writer) in
/-- An active writer with at most a temporary file of its next segment. -/
def Idle (state : Watched) : Prop :=
  Working sizeOf sessionId start chunks (nextTemporary sessionId chunks.length) writer state

variable (sizeOf sessionId start chunks writer) in
/-- The next segment's table lies under one of its names. -/
def Stored (leftover : String) (table : SegmentTable) (state : Watched) : Prop :=
  Working sizeOf sessionId start chunks leftover writer state ∧ state.world.files leftover = some (.table table)

variable (sizeOf sessionId start chunks writer) in
/-- A write that failed in a way that `_commit_segment` may take into account. -/
def Refused (caught : PyException → Bool) (error : PyException) (state : Watched) : Prop :=
  Idle sizeOf sessionId start chunks writer state ∧ caught error = true ∧ error.refusal = false

theorem Idle.lasting (idle : Idle sizeOf sessionId start chunks writer state) :
    Lasting sizeOf sessionId start abandoned state :=
  Working.lasting idle (temporary_left sessionId chunks)

theorem Stored.lasting {table : SegmentTable} (stored : Stored sizeOf sessionId start chunks writer leftover table state)
    (left : Leftover sessionId chunks leftover) : Lasting sizeOf sessionId start abandoned state :=
  stored.1.lasting left

theorem Working.spoiled {error : PyException} (working : Working sizeOf sessionId start chunks leftover writer state)
    (left : Leftover sessionId chunks leftover) (own : error.refusal = false) :
    Spoiled sizeOf sessionId start error state := by
  obtain rfl := working.writes
  exact ⟨own, chunks, leftover, left, working⟩

/-- A fault of an effect of the guarded part of `write_segment` either is of a handled class or escapes. -/
theorem Idle.struck {request : DataEffect} {choice : Choice} {error : PyException} {before : Watched}
    (shape : handled request choice before ↔ ∀ error, choice.fault = some error → error.isWriteFailure = true)
    (faulted : choice.fault = some error) (own : error.refusal = false)
    (left : Idle sizeOf sessionId start chunks writer state) :
    handled request choice before ∧ Refused sizeOf sessionId start chunks writer PyException.isWriteFailure error state ∨
      ¬handled request choice before ∧ Escaped sizeOf sessionId start PyException.isWriteFailure error state := by
  rw [shape]
  by_cases failure : error.isWriteFailure = true
  · refine .inl ⟨fun other same => ?_, left, failure, own⟩
    obtain rfl := Option.some.inj (faulted.symm.trans same)
    exact failure
  · refine .inr ⟨fun admitted => failure (admitted error faulted), by simpa using failure, ?_⟩
    exact Working.spoiled left (temporary_left sessionId chunks) own

/-- An effect that changes nothing leaves the writer as it was. -/
theorem Working.still {leftover : String} (idle : Working sizeOf sessionId start chunks leftover writer state) :
    Working sizeOf sessionId start chunks leftover writer (state.moved state.world) := by
  have same : state.moved state.world = state := moved_still rfl
  rw [same]
  exact idle

/-- An effect without a fault is handled. -/
theorem calm_handled {choice : Choice} (calm : choice.fault = none) (holds : PyException → Prop) :
    ∀ error, choice.fault = some error → holds error := by
  intro error faulted
  rw [calm] at faulted
  cases faulted

theorem refused_lasting {Value : Type} {kept : Value → Watched → Prop} {caught : PyException → Bool}
    (lasting : ∀ value state, kept value state → Lasting sizeOf sessionId start abandoned state)
    (result : Except PyException Value) (state : Watched)
    (reached : outcome kept (Refused sizeOf sessionId start chunks writer caught) result state) :
    Lasting sizeOf sessionId start abandoned state := by
  cases result with
  | ok value => exact lasting value state reached
  | error error => exact Idle.lasting reached.1

theorem writeTemporary_guarded {table : SegmentTable} :
    Guarded sizeOf sessionId start abandoned (Idle sizeOf sessionId start chunks writer)
      (writeTemporary (nextSegment sessionId chunks.length) table)
      (outcome (fun byteSize state => Stored sizeOf sessionId start chunks writer (nextSegment sessionId chunks.length)
        table state ∧ byteSize = sizeOf table)
        (Refused sizeOf sessionId start chunks writer PyException.isWriteFailure))
      (Escaped sizeOf sessionId start PyException.isWriteFailure) := by
  have parent : Guarded sizeOf sessionId start abandoned (Idle sizeOf sessionId start chunks writer)
      (ask (.makeParent (nextSegment sessionId chunks.length)))
      (outcome (fun _ => Idle sizeOf sessionId start chunks writer)
        (Refused sizeOf sessionId start chunks writer PyException.isWriteFailure))
      (Escaped sizeOf sessionId start PyException.isWriteFailure) := by
    refine ask_guarded (fun _ same => by cases same) (refused_lasting fun _ _ => Idle.lasting)
      (fun state choice error idle met faulted _ => ?_) fun state choice idle _ calm => ?_
    · exact Idle.struck Iff.rfl faulted (met error faulted) (Working.still idle)
    · exact .inl ⟨calm_handled (calm rfl) _, Working.still idle⟩
  have build : Guarded sizeOf sessionId start abandoned (Idle sizeOf sessionId start chunks writer)
      (ask (.framesToTable table))
      (outcome (fun built state => Idle sizeOf sessionId start chunks writer state ∧ built = table)
        (Refused sizeOf sessionId start chunks writer PyException.isWriteFailure))
      (Escaped sizeOf sessionId start PyException.isWriteFailure) := by
    refine ask_guarded (fun _ same => by cases same) (refused_lasting fun _ _ built => built.1.lasting)
      (fun state choice error idle met faulted _ => ?_)
        fun state choice idle _ calm => .inl ⟨calm_handled (calm rfl) _, ?_⟩
    · exact Idle.struck Iff.rfl faulted (met error faulted) (Working.still idle)
    · by_cases empty : table.frames = []
      · simp only [act, empty, if_true, moved_still]
        exact ⟨idle, rfl, rfl⟩
      · simp only [act, empty, if_false, moved_still]
        exact ⟨idle, rfl⟩
  have store : Guarded sizeOf sessionId start abandoned (Idle sizeOf sessionId start chunks writer)
      (ask (.writeTable table (nextTemporary sessionId chunks.length)))
      (outcome (fun _ => Stored sizeOf sessionId start chunks writer (nextTemporary sessionId chunks.length) table)
        (Refused sizeOf sessionId start chunks writer PyException.isWriteFailure))
      (Escaped sizeOf sessionId start PyException.isWriteFailure) := by
    have temporary := temporary_left sessionId chunks
    refine ask_guarded (fun _ same => by cases same) (refused_lasting fun _ _ stored => stored.lasting temporary)
      (fun state choice error idle met faulted _ => ?_)
        fun state choice idle _ calm => .inl ⟨calm_handled (calm rfl) _, ?_⟩
    · have spoilt : state.moved (disturbed (.writeTable table (nextTemporary sessionId chunks.length)) state.world) =
          { state with world := state.world.withFile (nextTemporary sessionId chunks.length) (some .truncated) } :=
        moved_still rfl
      exact Idle.struck Iff.rfl faulted (met error faulted) (spoilt ▸ idle.rewritten temporary _)
    · simp only [act, moved_withFile]
      exact ⟨idle.rewritten temporary _, Function.update_self _ _ _⟩
  have measure : Guarded sizeOf sessionId start abandoned
      (Stored sizeOf sessionId start chunks writer (nextTemporary sessionId chunks.length) table)
      (ask (.fileSize (nextTemporary sessionId chunks.length)))
      (outcome (fun byteSize state => Stored sizeOf sessionId start chunks writer
          (nextTemporary sessionId chunks.length) table state ∧ byteSize = sizeOf table)
        (Refused sizeOf sessionId start chunks writer PyException.isWriteFailure))
      (Escaped sizeOf sessionId start PyException.isWriteFailure) := by
    have temporary := temporary_left sessionId chunks
    refine ask_guarded (fun _ same => by cases same) (refused_lasting fun _ _ stored => stored.1.lasting temporary)
      (fun state choice error stored met faulted _ => ?_) fun state choice stored met calm => ?_
    · exact Idle.struck Iff.rfl faulted (met.1 error faulted) (Working.still stored.1)
    · refine .inl ⟨calm_handled (calm rfl) _, ?_⟩
      have size := met.2 table stored.2
      simp only [act, stored.2, Option.isSome_some, if_true, moved_still]
      exact ⟨stored, size⟩
  have publish : Guarded sizeOf sessionId start abandoned
      (Stored sizeOf sessionId start chunks writer (nextTemporary sessionId chunks.length) table)
      (ask (.replaceFile (nextTemporary sessionId chunks.length) (nextSegment sessionId chunks.length)))
      (outcome (fun _ => Stored sizeOf sessionId start chunks writer (nextSegment sessionId chunks.length) table)
        (Refused sizeOf sessionId start chunks writer PyException.isWriteFailure))
      (Escaped sizeOf sessionId start PyException.isWriteFailure) := by
    have temporary := temporary_left sessionId chunks
    have canonical := segment_left sessionId chunks
    refine ask_guarded (fun _ same => by cases same) (refused_lasting fun _ _ stored => stored.lasting canonical)
      (fun state choice error stored met faulted _ => ?_) fun state choice stored _ calm => ?_
    · exact Idle.struck Iff.rfl faulted (met error faulted) (Working.still stored.1)
    · refine .inl ⟨calm_handled (calm rfl) _, ?_⟩
      have renamed : act (.replaceFile (nextTemporary sessionId chunks.length) (nextSegment sessionId chunks.length))
          choice state.world = ((state.world.withFile (nextTemporary sessionId chunks.length) none).withFile
            (nextSegment sessionId chunks.length) (some (.table table)), .ok ()) := by
        simp only [act, stored.2]
      have still : state.moved ((state.world.withFile (nextTemporary sessionId chunks.length) none).withFile
          (nextSegment sessionId chunks.length) (some (.table table))) = { state with
            world := (state.world.withFile (nextTemporary sessionId chunks.length) none).withFile
              (nextSegment sessionId chunks.length) (some (.table table)) } := moved_still rfl
      rw [renamed, still]
      have emptied := stored.1.rewritten temporary none
      exact ⟨emptied.withFile canonical (stored.1.tree.publish _), Function.update_self _ _ _⟩
  refine FencedTriple.bind parent (fun _ => ?_) fun _ _ refused => refused
  refine FencedTriple.bind build (fun built => ?_) fun _ _ refused => refused
  intro state reached
  obtain ⟨idle, same⟩ := reached
  rw [same]
  refine (?_ : Guarded sizeOf sessionId start abandoned (Idle sizeOf sessionId start chunks writer) _ _ _) state idle
  refine FencedTriple.bind store (fun _ => ?_) fun _ _ refused => refused
  refine FencedTriple.bind measure (fun byteSize => ?_) fun _ _ refused => refused
  intro state reached
  obtain ⟨stored, sized⟩ := reached
  refine (?_ : Guarded sizeOf sessionId start abandoned
    (Stored sizeOf sessionId start chunks writer (nextTemporary sessionId chunks.length) table) _ _ _) state stored
  refine FencedTriple.bind publish (fun _ => ?_) fun _ _ refused => refused
  exact FencedTriple.finish fun _ published => ⟨published, sized⟩

/-! Failing the session. -/

variable (sizeOf sessionId start abandoned) in
/-- A writer about to be failed. -/
def Failing (state : Watched) : Prop :=
  ∃ chunks leftover, Stopping sizeOf sessionId start abandoned chunks leftover state

theorem Failing.lasting (failing : Failing sizeOf sessionId start abandoned state) :
    Lasting sizeOf sessionId start abandoned state := by
  obtain ⟨chunks, leftover, stopping⟩ := failing
  exact stopping.lasting

theorem Working.failing (working : Working sizeOf sessionId start chunks leftover writer state)
    (tidy : Tidy sessionId chunks leftover state) : Failing sizeOf sessionId start abandoned state :=
  ⟨chunks, leftover, working.held, working.tree, tidy, writer.buffer, working.appended,
    .inl (working.writes ▸ List.suffix_refl _)⟩

theorem Idle.failing (idle : Idle sizeOf sessionId start chunks writer state) :
    Failing sizeOf sessionId start abandoned state :=
  Working.failing idle (.inl rfl)

theorem Terminated.lasting (ended : Terminated sizeOf sessionId start abandoned state) :
    Lasting sizeOf sessionId start abandoned state := by
  obtain ⟨chunks, leftover, halted⟩ := ended
  exact halted.toStopping.lasting

/-- The state of a session row is advanced: its figures stay. -/
theorem Held.advance {session : DataSession} (held : Held sizeOf sessionId start chunks state) :
    Held sizeOf sessionId start chunks
      { state with world := { state.world with database := (advanceSessionState session state.world.database).1 } } where
  books := held.books.advance
  tallies := held.tallies
  named := held.named
  elsewhere := ⟨held.elsewhere.files, held.elsewhere.segments⟩

theorem Terminated.advance {session : DataSession} (ended : Terminated sizeOf sessionId start abandoned state) :
    Terminated sizeOf sessionId start abandoned
      { state with world := { state.world with database := (advanceSessionState session state.world.database).1 } } := by
  obtain ⟨chunks, leftover, halted⟩ := ended
  exact ⟨chunks, leftover, ⟨halted.held.advance, halted.tree, halted.tidy, halted.begins⟩, halted.ended⟩

/-- The conditional update of the session's state, where it changes nothing that matters. -/
theorem advance_guarded {session : DataSession} {pre : Watched → Prop} {broken : PyException → Watched → Prop}
    (lasting : ∀ state, pre state → Lasting sizeOf sessionId start abandoned state)
    (kept : ∀ state, pre state → pre
      { state with world := { state.world with database := (advanceSessionState session state.world.database).1 } }) :
    Guarded sizeOf sessionId start abandoned pre (ask (.advanceSessionState session))
      (fun result state => pre state ∧ ∀ error, result = .error error → error.refusal = false) broken := by
  refine ask_guarded (fun _ same => by cases same) (fun _ state reached => lasting state reached.1)
    (fun state choice error holds met faulted _ => ?_) fun state choice holds _ _ => .inl ⟨trivial, ?_⟩
  · have still : state.moved (disturbed (.advanceSessionState session) state.world) = state := moved_still rfl
    rw [still]
    refine .inl ⟨trivial, holds, fun other same => ?_⟩
    obtain rfl := Except.error.inj same
    exact met error faulted
  · have still : state.moved (act (.advanceSessionState session) choice state.world).1 = { state with
        world := { state.world with database := (advanceSessionState session state.world.database).1 } } :=
      moved_still rfl
    rw [still]
    exact ⟨kept state holds, fun _ same => by cases same⟩

theorem suppressed_guarded {session : DataSession} {broken : PyException → Watched → Prop} :
    Guarded sizeOf sessionId start abandoned (Terminated sizeOf sessionId start abandoned)
      (suppressStorage (ask (.advanceSessionState session)))
      (fun result state => Terminated sizeOf sessionId start abandoned state ∧
        ∀ error, result = .error error → error.refusal = false) broken := by
  have advanced : Guarded sizeOf sessionId start abandoned (Terminated sizeOf sessionId start abandoned)
      (ask (.advanceSessionState session)) (fun result state => Terminated sizeOf sessionId start abandoned state ∧
        ∀ error, result = .error error → error.refusal = false) never :=
    advance_guarded (fun _ => Terminated.lasting) (fun _ => Terminated.advance)
  refine FencedTriple.catching advanced (fun _ _ reached => reached) (fun error => ?_) fun _ _ spoiled => spoiled.elim
  by_cases storage : error.isStorage = true
  · rw [if_pos storage]
    exact FencedTriple.finish fun _ reached => ⟨reached.1, fun _ same => by cases same⟩
  · rw [if_neg storage]
    refine FencedTriple.finish fun _ reached => ⟨reached.1, fun other same => ?_⟩
    obtain rfl := Except.error.inj same
    exact reached.2 error rfl

/-- The writer takes a snapshot that has ended and counts what it counted. -/
theorem endWriter_guarded {failed : DataSession} {broken : PyException → Watched → Prop}
    (ended : failed.state ≠ .active) (named : failed.sessionId = writer.session.sessionId)
    (tallied : ∀ chunks, Tallies writer.session.toSessionRow chunks → Tallies failed.toSessionRow chunks) :
    Guarded sizeOf sessionId start abandoned
      (fun state => Failing sizeOf sessionId start abandoned state ∧ state.world.writer = writer)
      (ask (.modifyWriter (·.withSession failed)))
      (outcome (fun _ => Terminated sizeOf sessionId start abandoned) never) broken := by
  refine modifyWriter_guarded (fun _ => Terminated.lasting) fun state reached => ?_
  obtain ⟨⟨chunks, leftover, stopping⟩, rfl⟩ := reached
  rw [moved_writer (state.world.writer.withSession failed) rfl]
  have held : Held sizeOf sessionId start chunks { state with
      world := ⟨state.world.database, state.world.files, state.world.writer.withSession failed⟩ } :=
    ⟨stopping.held.books.withWriter _, tallied chunks stopping.held.tallies, named.trans stopping.held.named,
      stopping.held.elsewhere.files, stopping.held.elsewhere.segments⟩
  exact ⟨chunks, leftover, ⟨held, stopping.tree, stopping.tidy, stopping.begins⟩, ended⟩

/-- `_mark_failed` ends the writer, whatever becomes of the row. -/
theorem markFailed_guarded {broken : PyException → Watched → Prop} :
    Guarded sizeOf sessionId start abandoned (Failing sizeOf sessionId start abandoned) markFailed
      (fun result state => Terminated sizeOf sessionId start abandoned state ∧
        ∀ error, result = .error error → error.refusal = false) broken := by
  refine FencedTriple.bind (readWriter_guarded fun _ => Failing.lasting) (fun writer => ?_)
    fun _ _ reached => by cases reached.2
  refine FencedTriple.bind (utcNow_guarded fun _ reached => reached.1.lasting) (fun updatedAt => ?_)
    fun _ _ raised => raised.elim
  rw [DataSession.make_of_check (check_failed writer.session.valid), made_ok_bind]
  generalize failing : (⟨_, check_failed writer.session.valid⟩ : DataSession) = failed
  have ended : failed.state ≠ .active := by
    intro active
    rw [← failing] at active
    cases active
  have named : failed.sessionId = writer.session.sessionId := by rw [← failing]
  have tallied : ∀ chunks, Tallies writer.session.toSessionRow chunks → Tallies failed.toSessionRow chunks := by
    intro chunks tallies
    rw [← failing]
    exact { tallies with }
  intro state reached
  obtain ⟨failing, same⟩ := reached
  refine (?_ : Guarded sizeOf sessionId start abandoned
    (fun state => Failing sizeOf sessionId start abandoned state ∧ state.world.writer = writer) _ _ _) state
    ⟨failing, (Except.ok.inj same).symm⟩
  refine FencedTriple.bind (endWriter_guarded ended named tallied) (fun _ => ?_) fun _ _ raised => raised.elim
  refine FencedTriple.bind suppressed_guarded (fun _ => ?_) fun _ _ reached => ?_
  · exact FencedTriple.finish fun _ reached => ⟨reached.1, fun _ same => by cases same⟩
  · refine ⟨reached.1, fun other same => ?_⟩
    obtain rfl := Except.error.inj same
    exact reached.2 _ rfl

/-! Writing the file. -/

variable (sizeOf sessionId start writer chunks) in
/-- The table lies under the canonical name of the next segment, and its size is known. -/
def Published (table : SegmentTable) (byteSize : Nat) (state : Watched) : Prop :=
  Stored sizeOf sessionId start chunks writer (nextSegment sessionId chunks.length) table state ∧ byteSize = sizeOf table

variable (sizeOf sessionId start abandoned) in
/-- The writer has ended, with an exception that is none of its refusals. -/
def Failed (error : PyException) (state : Watched) : Prop :=
  Terminated sizeOf sessionId start abandoned state ∧ error.refusal = false

/-- An `ArrowException` or `OSError` removes the temporary file and raises the one `ParquetWriteError`. -/
theorem cleaned_guarded {table : SegmentTable} {broken : PyException → Watched → Prop} :
    Guarded sizeOf sessionId start abandoned (Idle sizeOf sessionId start chunks writer)
      (do
        removeQuietly (temporaryPath (nextSegment sessionId chunks.length))
        raise parquetWriteError)
      (outcome (Published sizeOf sessionId start chunks writer table)
        (Refused sizeOf sessionId start chunks writer PyException.isData)) broken := by
  have temporary := temporary_left sessionId chunks
  have removed : Guarded sizeOf sessionId start abandoned (Idle sizeOf sessionId start chunks writer)
      (removeQuietly (temporaryPath (nextSegment sessionId chunks.length)))
      (outcome (fun _ => Idle sizeOf sessionId start chunks writer) never) broken :=
    removeQuietly_guarded (fun _ => Idle.lasting) (fun _ idle => idle.rewritten temporary none)
      fun _ idle => Working.withUnremoved idle _
  refine FencedTriple.bind removed (fun _ => ?_) fun _ _ raised => raised.elim
  exact FencedTriple.finish fun _ idle => ⟨idle, rfl, rfl⟩

private theorem writeSegment_guarded {table : SegmentTable} :
    Guarded sizeOf sessionId start abandoned (Idle sizeOf sessionId start chunks writer)
      (writeSegment (nextSegment sessionId chunks.length) table)
      (outcome (Published sizeOf sessionId start chunks writer table)
        (Refused sizeOf sessionId start chunks writer PyException.isData))
      (Escaped sizeOf sessionId start PyException.isWriteFailure) := by
  unfold writeSegment
  split
  · exact FencedTriple.finish fun _ idle => ⟨idle, rfl, rfl⟩
  refine FencedTriple.catching writeTemporary_guarded (fun _ _ published => published) (fun error => ?_)
    fun error _ escaped => ?_
  · intro state refused
    obtain ⟨idle, failure, own⟩ := refused
    cases error with
    | arrow => exact cleaned_guarded state idle
    | os => exact cleaned_guarded state idle
    | data error =>
      have passed : Refused sizeOf sessionId start chunks writer PyException.isData (.data error) state :=
        ⟨idle, rfl, own⟩
      exact passed
    | sqlite => cases failure
    | overflow => cases failure
    | foreign => cases failure
  · refine ⟨error, ?_, escaped⟩
    have uncaught := escaped.1
    cases error with
    | arrow => cases uncaught
    | os => cases uncaught
    | _ => rfl

/-- Only a `DataError` fails the session here, and the others escape. -/
theorem writeOrFail_guarded {table : SegmentTable} :
    Guarded sizeOf sessionId start abandoned (Idle sizeOf sessionId start chunks writer)
      (writeOrFail (nextSegment sessionId chunks.length) table)
      (outcome (Published sizeOf sessionId start chunks writer table) (Failed sizeOf sessionId start abandoned))
      (Spoiled sizeOf sessionId start) := by
  refine FencedTriple.catching writeSegment_guarded (fun _ _ published => published) (fun error => ?_)
    fun error _ escaped => ?_
  · intro state refused
    obtain ⟨idle, data, own⟩ := refused
    cases error with
    | data error =>
      refine (?_ : Guarded sizeOf sessionId start abandoned (Failing sizeOf sessionId start abandoned) _ _ _) state
        idle.failing
      refine FencedTriple.bind markFailed_guarded (fun _ => ?_) fun raised _ reached => ⟨reached.1, reached.2 raised rfl⟩
      exact FencedTriple.finish fun _ reached => ⟨reached.1, own⟩
    | _ => cases data
  · refine ⟨error, ?_, escaped.2⟩
    have uncaught := escaped.1
    cases error with
    | data error => cases uncaught
    | _ => rfl

/-! Registering the row. -/

variable {frames rest : List Frame} {first last : Frame}

variable (sizeOf sessionId start) in
/-- The row is registered and the writer still holds its old snapshot. -/
structure Entered (chunks : List (List Frame)) (rest : List Frame) (writer : Writer) (updated : DataSession)
    (state : Watched) : Prop where
  books : Books sizeOf sessionId chunks state.world
  tallies : Tallies updated.toSessionRow chunks
  named : updated.sessionId = sessionId
  elsewhere : Elsewhere sessionId start state.world
  writes : state.world.writer = writer
  active : updated.state = .active
  marked : Marked writer (chunks.flatten ++ rest)
  tree : Tree sessionId chunks.length (nextTemporary sessionId chunks.length) state.world.files
  appended : state.appended = chunks.flatten ++ rest
  buffered : rest <:+ writer.buffer

theorem Entered.lasting {updated : DataSession}
    (entered : Entered sizeOf sessionId start chunks rest writer updated state) :
    Lasting sizeOf sessionId start abandoned state :=
  ⟨chunks, _, entered.books, entered.elsewhere, entered.tree, .inl rfl, rest, entered.appended,
    .inl (entered.writes ▸ entered.buffered)⟩

/-- A registration commits, or a constraint refuses it, or an integer does not bind. -/
theorem registerSegment_cases (segment : DataSegment) (session : DataSession) (database : Database) :
    (∃ after, registerSegment segment session database = .ok after ∧ bindable segment.integers = true ∧
        bindable session.integers = true) ∨
      (registerSegment segment session database = .error .sqlite ∧ bindable segment.integers = true ∧
        ¬segmentAdmitted segment.toSegmentRow database = true) ∨
      (registerSegment segment session database = .error .overflow ∧ ¬(bindable segment.integers = true ∧
        (segmentAdmitted segment.toSegmentRow database = true → bindable session.integers = true))) := by
  unfold registerSegment
  by_cases first : bindable segment.integers = true
  · rw [if_neg (not_not.mpr first)]
    by_cases admitted : segmentAdmitted segment.toSegmentRow database = true
    · rw [dif_pos admitted]
      by_cases second : bindable session.integers = true
      · rw [if_neg (not_not.mpr second)]
        exact .inl ⟨_, rfl, first, second⟩
      · rw [if_pos second]
        exact .inr (.inr ⟨rfl, fun both => second (both.2 admitted)⟩)
    · rw [dif_neg admitted]
      exact .inr (.inl ⟨rfl, first, admitted⟩)
  · rw [if_pos first]
    exact .inr (.inr ⟨rfl, fun both => first both.1⟩)

theorem Elsewhere.register {segment : DataSegment} {session : DataSession} {world : World} {database : Database}
    (elsewhere : Elsewhere sessionId start world) (named : segment.sessionId = sessionId)
    (committed : registerSegment segment session world.database = .ok database) :
    Elsewhere sessionId start { world with database } where
  files := elsewhere.files
  segments row other := by
    obtain ⟨admitted, rfl⟩ := registerSegment_ok committed
    have appended : (updateSession session (insertSegment segment.toSegmentRow world.database admitted)).segments =
        world.database.segments ++ [segment.toSegmentRow] := rfl
    rw [appended, List.mem_append, List.mem_singleton, ← elsewhere.segments row other]
    constructor
    · rintro (stored | rfl)
      · exact stored
      · exact absurd named other
    · exact .inl

/-- The row of the published segment and the writer's next snapshot are in the books. -/
theorem Working.enter {segment : DataSegment} {updated : DataSession} {segmentId : Uuid} {byteSize : Nat}
    {createdAt updatedAt : DateTime} {database : Database}
    (published : Published sizeOf sessionId start chunks writer (segmentTable writer.session frames) byteSize state)
    (split : writer.buffer = frames ++ rest)
    (segmentMade : segment.toSegmentRow = segmentRow writer.session segmentId frames first last byteSize createdAt)
    (sessionMade : updated.toSessionRow = withSegment writer.session frames first last updatedAt)
    (head : frames.head? = some first) (tail : frames.getLast? = some last)
    (committed : registerSegment segment updated state.world.database = .ok database) :
    Entered sizeOf sessionId start (chunks ++ [frames]) rest writer updated
      { state with world := { state.world with database } } := by
  obtain ⟨⟨working, stored⟩, sized⟩ := published
  have tallies := working.held.tallies
  have named := working.held.named
  rw [working.writes] at tallies named
  have marked := working.marked
  rw [split] at marked
  have flat : (chunks ++ [frames]).flatten ++ rest = chunks.flatten ++ (frames ++ rest) := by simp
  have ordered : (chunks.flatten ++ frames).Pairwise inOrder := by
    have whole := marked.ordered
    rw [← List.append_assoc] at whole
    exact (List.pairwise_append.mp whole).1
  have segmentNamed : segment.sessionId = sessionId := by
    rw [segmentMade]
    exact named
  have count : (chunks ++ [frames]).length = chunks.length + 1 := by simp
  refine ⟨working.held.books.register tallies named stored rfl sized segmentMade sessionMade head tail ordered committed,
    ?_, ?_, working.held.elsewhere.register segmentNamed committed, working.writes, ?_, ?_, ?_, ?_, ?_⟩
  · rw [sessionMade]
    exact tallies.withSegment head tail updatedAt
  · rw [sessionMade]
    exact named
  · rw [sessionMade]
    exact working.active
  · rw [flat]
    exact marked
  · rw [count]
    exact working.tree.register _
  · rw [flat, ← split]
    exact working.appended
  · rw [split]
    exact List.suffix_append _ _

/-- A registration that fails leaves the published file where it is. -/
theorem enter_guarded {segment : DataSegment} {updated : DataSession} {segmentId : Uuid} {byteSize : Nat}
    {createdAt updatedAt : DateTime} (split : writer.buffer = frames ++ rest)
    (segmentMade : segment.toSegmentRow = segmentRow writer.session segmentId frames first last byteSize createdAt)
    (sessionMade : updated.toSessionRow = withSegment writer.session frames first last updatedAt)
    (head : frames.head? = some first) (tail : frames.getLast? = some last) :
    Guarded sizeOf sessionId start abandoned
      (Published sizeOf sessionId start chunks writer (segmentTable writer.session frames) byteSize)
      (ask (.registerSegment segment updated))
      (outcome (fun _ => Entered sizeOf sessionId start (chunks ++ [frames]) rest writer updated) fun error state =>
        Working sizeOf sessionId start chunks (nextSegment sessionId chunks.length) writer state ∧
          error.isStorage = true)
      (Escaped sizeOf sessionId start PyException.isStorage) := by
  have canonical := segment_left sessionId chunks
  refine ask_guarded (fun _ same => by cases same) (fun result state reached => ?_)
    (fun state choice error published met faulted _ => ?_) fun state choice published _ calm => ?_
  · cases result with
    | ok value => exact Entered.lasting reached
    | error error => exact reached.1.lasting canonical
  · have still : state.moved (disturbed (.registerSegment segment updated) state.world) = state := moved_still rfl
    rw [still]
    by_cases storage : error.isStorage = true
    · refine .inl ⟨⟨fun other same => ?_, fun none => ?_⟩, published.1.1, storage⟩
      · obtain rfl := Option.some.inj (faulted.symm.trans same)
        exact storage
      · rw [none] at faulted
        cases faulted
    · refine .inr ⟨fun admitted => storage (admitted.1 error faulted), by simpa using storage, ?_⟩
      exact published.1.1.spoiled canonical (met error faulted)
  · have quiet := calm rfl
    rcases registerSegment_cases segment updated state.world.database with ⟨database, committed, first, second⟩ |
      ⟨refused, first, unadmitted⟩ | ⟨refused, unbound⟩
    · have acted : act (.registerSegment segment updated) choice state.world =
          ({ state.world with database }, .ok ()) := by
        simp [act, committed, storageErrors, World.committed]
      have still : state.moved { state.world with database } = { state with world := { state.world with database } } :=
        moved_still rfl
      rw [acted, still]
      refine .inl ⟨⟨calm_handled quiet _, fun _ => ⟨first, fun _ => second⟩⟩, ?_⟩
      exact Working.enter published split segmentMade sessionMade head tail committed
    · have acted : act (.registerSegment segment updated) choice state.world =
          (state.world, .error (.data (storageError "data.session.registration_failed"))) := by
        simp [act, refused, storageErrors, World.committed]
      have still : state.moved state.world = state := moved_still rfl
      rw [acted, still]
      exact .inl ⟨⟨calm_handled quiet _, fun _ => ⟨first, fun admitted => absurd admitted unadmitted⟩⟩,
        published.1.1, rfl⟩
    · have acted : act (.registerSegment segment updated) choice state.world = (state.world, .error .overflow) := by
        simp [act, refused, storageErrors, World.committed]
      have still : state.moved state.world = state := moved_still rfl
      rw [acted, still]
      refine .inr ⟨fun admitted => unbound (admitted.2 quiet), .overflow, rfl, rfl, ?_⟩
      exact published.1.1.spoiled canonical rfl

/-- A storage failure of the registration removes the file and fails the session. -/
theorem unpublish_guarded {broken : PyException → Watched → Prop} :
    Guarded sizeOf sessionId start abandoned
      (Working sizeOf sessionId start chunks (nextSegment sessionId chunks.length) writer)
      (removeQuietly (nextSegment sessionId chunks.length))
      (outcome (fun _ => Failing sizeOf sessionId start abandoned) never) broken := by
  have canonical := segment_left sessionId chunks
  refine removeQuietly_guarded (fun _ => Failing.lasting) (fun state working => ?_) fun state working => ?_
  · exact Idle.failing (working.withFile canonical working.tree.unpublish)
  · have remembered := working.withUnremoved (nextSegment sessionId chunks.length)
    exact remembered.failing (.inr ⟨rfl, Set.mem_insert _ _⟩)

theorem registerOrFail_guarded {segment : DataSegment} {updated : DataSession} {segmentId : Uuid} {byteSize : Nat}
    {createdAt updatedAt : DateTime} (split : writer.buffer = frames ++ rest)
    (segmentMade : segment.toSegmentRow = segmentRow writer.session segmentId frames first last byteSize createdAt)
    (sessionMade : updated.toSessionRow = withSegment writer.session frames first last updatedAt)
    (head : frames.head? = some first) (tail : frames.getLast? = some last) :
    Guarded sizeOf sessionId start abandoned
      (Published sizeOf sessionId start chunks writer (segmentTable writer.session frames) byteSize)
      (registerOrFail (nextSegment sessionId chunks.length) segment updated)
      (outcome (fun _ => Entered sizeOf sessionId start (chunks ++ [frames]) rest writer updated)
        (Failed sizeOf sessionId start abandoned)) (Spoiled sizeOf sessionId start) := by
  refine FencedTriple.catching (enter_guarded split segmentMade sessionMade head tail) (fun _ _ entered => entered)
    (fun error => ?_) fun error _ escaped => ?_
  · intro state raised
    obtain ⟨working, storage⟩ := raised
    rw [if_pos storage]
    refine (?_ : Guarded sizeOf sessionId start abandoned
      (Working sizeOf sessionId start chunks (nextSegment sessionId chunks.length) writer) _ _ _) state working
    refine FencedTriple.bind unpublish_guarded (fun _ => ?_) fun _ _ raised => raised.elim
    refine FencedTriple.bind markFailed_guarded (fun _ => ?_) fun raised _ reached => ⟨reached.1, reached.2 raised rfl⟩
    exact FencedTriple.finish fun _ reached => ⟨reached.1, rfl⟩
  · refine ⟨error, ?_, escaped.2⟩
    rw [if_neg (by simp [escaped.1])]
    rfl

/-! The whole commit. -/

variable (sizeOf sessionId start) in
/-- The chunk is in the books and still at the head of the buffer. -/
structure Taken (chunks : List (List Frame)) (rest : List Frame) (writer : Writer) (state : Watched) : Prop where
  held : Held sizeOf sessionId start chunks state
  active : state.world.writer.session.state = .active
  writes : ∃ updated, state.world.writer = writer.withSession updated
  marked : Marked writer (chunks.flatten ++ rest)
  tree : Tree sessionId chunks.length (nextTemporary sessionId chunks.length) state.world.files
  appended : state.appended = chunks.flatten ++ rest
  buffered : rest <:+ writer.buffer

theorem Taken.lasting (taken : Taken sizeOf sessionId start chunks rest writer state) :
    Lasting sizeOf sessionId start abandoned state := by
  refine ⟨chunks, _, taken.held.books, taken.held.elsewhere, taken.tree, .inl rfl, rest, taken.appended, .inl ?_⟩
  obtain ⟨updated, same⟩ := taken.writes
  rw [same]
  exact taken.buffered

theorem Entered.taken {updated : DataSession}
    (entered : Entered sizeOf sessionId start chunks rest writer updated state) :
    Taken sizeOf sessionId start chunks rest writer
      { state with world := ⟨state.world.database, state.world.files, state.world.writer.withSession updated⟩ } where
  held := ⟨entered.books.withWriter _, entered.tallies, entered.named, entered.elsewhere.files,
    entered.elsewhere.segments⟩
  active := entered.active
  writes := ⟨updated, by rw [entered.writes]⟩
  marked := entered.marked
  tree := entered.tree
  appended := entered.appended
  buffered := entered.buffered

theorem Idle.ordered (idle : Idle sizeOf sessionId start chunks writer state) (split : writer.buffer = frames ++ rest) :
    (chunks.flatten ++ frames).Pairwise inOrder := by
  have marked := Working.marked idle
  rw [split, ← List.append_assoc] at marked
  exact (List.pairwise_append.mp marked.ordered).1

theorem commitFrames_guarded (sized : ∀ table, sizeOf table ≠ 0) (split : writer.buffer = frames ++ rest)
    (head : frames.head? = some first) (tail : frames.getLast? = some last) :
    Guarded sizeOf sessionId start abandoned (Idle sizeOf sessionId start chunks writer)
      (commitFrames writer.session (nextSegment sessionId chunks.length) frames first last)
      (outcome (fun _ => Taken sizeOf sessionId start (chunks ++ [frames]) rest writer)
        (Failed sizeOf sessionId start abandoned)) (Spoiled sizeOf sessionId start) := by
  intro state idle
  have tallies := idle.held.tallies
  rw [idle.writes] at tallies
  have ordered := idle.ordered split
  have checked (updatedAt : DateTime) : (withSegment writer.session frames first last updatedAt).check = .ok () :=
    withSegment_check idle.active tallies.firstSequence tallies.firstTimestamp ordered head tail
  refine (?_ : Guarded sizeOf sessionId start abandoned (Idle sizeOf sessionId start chunks writer) _ _ _) state idle
  refine FencedTriple.bind (utcNow_guarded fun _ => Idle.lasting) (fun createdAt => ?_) fun _ _ raised => raised.elim
  refine FencedTriple.bind writeOrFail_guarded (fun byteSize => ?_) fun _ _ failed => failed
  have lasting : ∀ state, Published sizeOf sessionId start chunks writer (segmentTable writer.session frames) byteSize
      state → Lasting sizeOf sessionId start abandoned state :=
    fun _ published => published.1.lasting (segment_left sessionId chunks)
  refine FencedTriple.bind (uuid4_guarded lasting) (fun segmentId => ?_) fun _ _ raised => raised.elim
  intro state published
  have stored : byteSize ≠ 0 := published.2 ▸ sized _
  have passed : (segmentRow writer.session segmentId frames first last byteSize createdAt).check = .ok () :=
    segmentRow_check (List.pairwise_append.mp ordered).2.1 head tail stored
  rw [DataSegment.make_of_check passed, made_ok_bind]
  refine (?_ : Guarded sizeOf sessionId start abandoned (Published sizeOf sessionId start chunks writer
    (segmentTable writer.session frames) byteSize) _ _ _) state published
  refine FencedTriple.bind (utcNow_guarded lasting) (fun updatedAt => ?_) fun _ _ raised => raised.elim
  rw [DataSession.make_of_check (checked updatedAt), made_ok_bind]
  refine FencedTriple.bind (registerOrFail_guarded split rfl rfl head tail) (fun _ => ?_) fun _ _ failed => failed
  have snapshot : Guarded sizeOf sessionId start abandoned
      (Entered sizeOf sessionId start (chunks ++ [frames]) rest writer ⟨_, checked updatedAt⟩)
      (ask (.modifyWriter (·.withSession ⟨_, checked updatedAt⟩)))
      (outcome (fun _ => Taken sizeOf sessionId start (chunks ++ [frames]) rest writer) never)
      (Spoiled sizeOf sessionId start) := by
    refine modifyWriter_guarded (fun _ => Taken.lasting) fun state entered => ?_
    rw [moved_writer (state.world.writer.withSession ⟨_, checked updatedAt⟩) rfl]
    exact entered.taken
  exact snapshot.consequence (fun _ entered => entered) (fun result _ reached => by
    cases result with
    | ok value => exact reached
    | error error => exact reached.elim) fun _ _ spoiled => spoiled

theorem commitSegment_guarded (sized : ∀ table, sizeOf table ≠ 0) (split : writer.buffer = frames ++ rest)
    (nonempty : frames ≠ []) :
    Guarded sizeOf sessionId start abandoned (Idle sizeOf sessionId start chunks writer) (commitSegment frames)
      (outcome (fun _ => Taken sizeOf sessionId start (chunks ++ [frames]) rest writer)
        (Failed sizeOf sessionId start abandoned)) (Spoiled sizeOf sessionId start) := by
  refine FencedTriple.bind (readWriter_guarded fun _ => Idle.lasting) (fun read => ?_)
    fun _ _ reached => by cases reached.2
  intro state reached
  obtain ⟨idle, same⟩ := reached
  obtain rfl : read = writer := (Except.ok.inj same).trans idle.writes
  have named : read.session.sessionId = sessionId := idle.writes ▸ idle.held.named
  have counted : read.session.segmentCount = chunks.length := idle.writes ▸ idle.held.tallies.segmentCount
  have temporary := temporary_left sessionId chunks
  refine (?_ : Guarded sizeOf sessionId start abandoned (Idle sizeOf sessionId start chunks read) _ _ _) state idle
  dsimp only
  rw [named, counted]
  have resolved : Guarded sizeOf sessionId start abandoned (Idle sizeOf sessionId start chunks read)
      (ask (.resolveWithinRoot (segmentRelativePath sessionId chunks.length)))
      (outcome (fun target state => Idle sizeOf sessionId start chunks read state ∧
        target = nextSegment sessionId chunks.length) never) (Spoiled sizeOf sessionId start) := by
    refine ask_guarded (fun _ same => by cases same) (fun result state reached => ?_)
      (fun state choice error idle met faulted _ => ?_) fun state choice idle _ calm => ?_
    · cases result with
      | ok value => exact Idle.lasting reached.1
      | error error => exact reached.elim
    · have still : state.moved (disturbed (.resolveWithinRoot (segmentRelativePath sessionId chunks.length))
          state.world) = state := moved_still rfl
      rw [still]
      refine .inr ⟨fun calm => ?_, Working.spoiled idle temporary (met error faulted)⟩
      have none : choice.fault = none := calm
      rw [none] at faulted
      cases faulted
    · have still : state.moved state.world = state := moved_still rfl
      exact .inl ⟨calm rfl, (congrArg _ still).mpr idle, rfl⟩
  refine FencedTriple.bind resolved (fun target => ?_) fun _ _ raised => raised.elim
  intro state reached
  obtain ⟨idle, same⟩ := reached
  rw [same, List.head?_eq_some_head nonempty, List.getLast?_eq_some_getLast nonempty]
  exact commitFrames_guarded sized split (List.head?_eq_some_head nonempty)
    (List.getLast?_eq_some_getLast nonempty) state idle

end CanX.Data
