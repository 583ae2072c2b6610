import CanX.Data.Ledger

/-! The calls of a writer against its ledger: committing a segment moves the first
frames not yet registered into the books, a refused or failed call loses the session. -/

namespace CanX.Data

open Domain Storage Transition

variable {sessionId : Uuid} {world : World} {final : Bool}

/-! Writing and registering a segment. -/

variable {accepted rest : List Frame} {writer : Writer}

theorem Registered.withFile {chunks : List (List Frame)} {path : String}
    {file : Option StoredFile} (registered : Registered sessionId chunks world)
    (fresh : ∀ index < chunks.length, segmentRelativePath sessionId index ≠ path) :
    Registered sessionId chunks (world.withFile path file) := by
  refine ⟨registered.keys, fun index frames stored => ?_⟩
  have other := fresh index (List.getElem?_eq_some_iff.mp stored).1
  obtain ⟨streamId, found⟩ := registered.files index frames stored
  exact ⟨streamId, (Function.update_of_ne other _ _).trans found⟩

/-- A file that is not one of the registered segments. -/
theorem Ledger.withFile {path : String} {file : Option StoredFile}
    (ledger : Ledger sessionId accepted rest world)
    (fresh : ∀ index < world.writer.session.segmentCount,
      segmentRelativePath sessionId index ≠ path) :
    Ledger sessionId accepted rest (world.withFile path file) := by
  obtain ⟨chunks, registered, content, count, bounds⟩ := ledger.books
  rw [count] at fresh
  exact ⟨⟨ledger.opened.named, ledger.opened.uncompleted, ledger.opened.row⟩, ledger.active,
    ledger.marked, ledger.row, chunks, registered.withFile fresh, content, count, bounds⟩

/-- The ledger while `writer` commits its next segment. -/
def Writing (sessionId : Uuid) (accepted rest : List Frame) (writer : Writer) (world : World) :
    Prop :=
  Ledger sessionId accepted rest world ∧ world.writer = writer

theorem Writing.opened (writing : Writing sessionId accepted rest writer world) :
    Open sessionId world :=
  writing.1.opened

theorem Writing.withFile {path : String} {file : Option StoredFile}
    (writing : Writing sessionId accepted rest writer world)
    (fresh : ∀ index < writer.session.segmentCount,
      segmentRelativePath sessionId index ≠ path) :
    Writing sessionId accepted rest writer (world.withFile path file) := by
  obtain ⟨ledger, rfl⟩ := writing
  exact ⟨ledger.withFile fresh, rfl⟩

/-- Where `writer` puts its next segment. -/
def nextPath (sessionId : Uuid) (writer : Writer) : String :=
  segmentRelativePath sessionId writer.session.segmentCount

theorem nextPath_fresh (index : Nat) (registered : index < writer.session.segmentCount) :
    segmentRelativePath sessionId index ≠ nextPath sessionId writer := by
  intro same
  have next := segmentRelativePath_injective same
  omega

theorem temporary_fresh (path : String) (index : Nat) :
    segmentRelativePath sessionId index ≠ temporaryPath path :=
  (temporaryPath_ne_segment path sessionId index).symm

/-- The ledger, with a file in place for the next segment. -/
def Written (sessionId : Uuid) (accepted rest : List Frame) (writer : Writer) (path : String)
    (table : SegmentTable) (world : World) : Prop :=
  Writing sessionId accepted rest writer world ∧ world.files path = some (.table table)

/-- An exception of the guarded part of `write_segment`. -/
def orRefused (sessionId : Uuid) (accepted rest : List Frame) (writer : Writer) {Value : Type}
    (kept : Value → World → Prop) : Except PyException Value → World → Prop
  | .ok value => kept value
  | .error error => fun world =>
    Writing sessionId accepted rest writer world ∧ error.isWriteFailure = true

theorem writeTemporary_triple {table : SegmentTable} :
    LedgerTriple final (Writing sessionId accepted rest writer)
      (writeTemporary (nextPath sessionId writer) table)
      (orRefused sessionId accepted rest writer fun byteSize world =>
        Written sessionId accepted rest writer (nextPath sessionId writer) table world ∧
          (final = false → byteSize ≠ 0)) := by
  have parent : LedgerTriple final (Writing sessionId accepted rest writer)
      (ask (.makeParent (nextPath sessionId writer)))
      (orRefused sessionId accepted rest writer fun _ => Writing sessionId accepted rest writer) :=
    ask_triple (fun _ _ error holds admitted faulted _ => ⟨holds, admitted error faulted⟩)
      fun _ _ holds _ => holds
  have build : LedgerTriple final (Writing sessionId accepted rest writer)
      (ask (.framesToTable table))
      (orRefused sessionId accepted rest writer fun built world =>
        Writing sessionId accepted rest writer world ∧ built = table) := by
    refine ask_triple (fun _ _ error holds admitted faulted _ => ⟨holds, admitted error faulted⟩)
      fun world _ holds _ => ?_
    simp only [act]
    split
    · exact ⟨holds, rfl⟩
    · exact ⟨holds, rfl⟩
  have store : LedgerTriple final (Writing sessionId accepted rest writer)
      (ask (.writeTable table (temporaryPath (nextPath sessionId writer))))
      (orRefused sessionId accepted rest writer fun _ =>
        Written sessionId accepted rest writer (temporaryPath (nextPath sessionId writer)) table) := by
    refine ask_triple (fun _ _ error holds admitted faulted _ => ⟨?_, admitted error faulted⟩)
      fun world _ holds _ => ⟨?_, Function.update_self _ _ _⟩
    · exact holds.withFile fun index _ => temporary_fresh _ index
    · exact holds.withFile fun index _ => temporary_fresh _ index
  have measure : LedgerTriple final
      (Written sessionId accepted rest writer (temporaryPath (nextPath sessionId writer)) table)
      (ask (.fileSize (temporaryPath (nextPath sessionId writer))))
      (orRefused sessionId accepted rest writer fun byteSize world =>
        Written sessionId accepted rest writer (temporaryPath (nextPath sessionId writer)) table
          world ∧ (final = false → byteSize ≠ 0)) := by
    refine ask_triple
      (fun _ _ error holds admitted faulted _ => ⟨holds.1, admitted.1 error faulted⟩)
      fun world choice holds admitted => ?_
    simp only [act, holds.2, Option.isSome_some, if_true]
    exact ⟨holds, admitted.2⟩
  have publish : LedgerTriple final
      (Written sessionId accepted rest writer (temporaryPath (nextPath sessionId writer)) table)
      (ask (.replaceFile (temporaryPath (nextPath sessionId writer)) (nextPath sessionId writer)))
      (orRefused sessionId accepted rest writer fun _ =>
        Written sessionId accepted rest writer (nextPath sessionId writer) table) := by
    refine ask_triple
      (fun _ _ error holds admitted faulted _ => ⟨holds.1, admitted error faulted⟩)
      fun world choice holds _ => ?_
    simp only [act, holds.2]
    refine ⟨(holds.1.withFile fun index _ => temporary_fresh _ index).withFile nextPath_fresh, ?_⟩
    exact Function.update_self _ _ _
  refine ledger_bind parent (fun _ => ?_) fun _ _ refused => refused
  refine ledger_bind build (fun built => ?_) fun _ _ refused => refused
  intro world reached
  obtain ⟨writing, same⟩ := reached
  rw [same]
  refine (?_ : LedgerTriple final (Writing sessionId accepted rest writer) _ _) world writing
  refine ledger_bind store (fun _ => ?_) fun _ _ refused => refused
  refine ledger_bind measure (fun byteSize => ?_) fun _ _ refused => refused
  intro world reached
  obtain ⟨written, positive⟩ := reached
  refine (?_ : LedgerTriple final (Written sessionId accepted rest writer _ table) _ _) world written
  exact ledger_bind publish (fun _ => ledger_finish fun _ published => ⟨published, positive⟩)
    fun _ _ refused => refused

/-- What an exception out of `write_segment` leaves. -/
def Raised (sessionId : Uuid) (error : PyException) (world : World) : Prop :=
  Open sessionId world ∧ (world.writer.session.state ≠ .active ∨ error.isData = true)

theorem Lost.raised {error : PyException} (lost : Lost sessionId final error world) :
    Raised sessionId error world :=
  ⟨lost.1, lost.2.imp_right And.right⟩

def orRaised (sessionId : Uuid) {Value : Type} (kept : Value → World → Prop) :
    Except PyException Value → World → Prop
  | .ok value => kept value
  | .error error => Raised sessionId error

def WrittenNext (sessionId : Uuid) (accepted rest : List Frame) (writer : Writer) (final : Bool)
    (table : SegmentTable) (byteSize : Nat) (world : World) : Prop :=
  Written sessionId accepted rest writer (nextPath sessionId writer) table world ∧
    (final = false → byteSize ≠ 0)

private theorem writeSegment_triple {table : SegmentTable} :
    LedgerTriple final (Writing sessionId accepted rest writer)
      (writeSegment (nextPath sessionId writer) table)
      (orRaised sessionId (WrittenNext sessionId accepted rest writer final table)) := by
  have cleaned : LedgerTriple final (Writing sessionId accepted rest writer)
      (do
        removeQuietly (temporaryPath (nextPath sessionId writer))
        raise parquetWriteError)
      (orRaised sessionId (WrittenNext sessionId accepted rest writer final table)) := by
    refine ledger_bind (removeQuietly_triple (fun _ writing => writing.opened)
      fun _ writing => writing.withFile fun index _ => temporary_fresh _ index) (fun _ => ?_)
      fun _ _ lost => Lost.raised lost
    exact ledger_finish fun _ writing => ⟨writing.opened, .inr rfl⟩
  unfold writeSegment
  split
  · exact ledger_finish fun _ writing => ⟨writing.opened, .inr rfl⟩
  refine ledger_catching writeTemporary_triple (fun _ _ written => written) fun error => ?_
  intro world refused
  obtain ⟨writing, failure⟩ := refused
  cases error with
  | arrow | os => exact cleaned world writing
  | data error =>
    exact ledger_finish (fun _ writing => ⟨writing.opened, .inr rfl⟩) world writing
  | sqlite | overflow | foreign => cases failure

/-- Only a `DataError` fails the session here, and the others do not get here. -/
theorem writeOrFail_triple {table : SegmentTable} :
    LedgerTriple final (Writing sessionId accepted rest writer)
      (writeOrFail (nextPath sessionId writer) table)
      (orLost sessionId final (WrittenNext sessionId accepted rest writer final table)) := by
  refine ledger_catching writeSegment_triple (fun _ _ written => written) fun error => ?_
  intro world raised
  cases error with
  | data error =>
    refine (?_ : LedgerTriple final (Open sessionId) _ _) world raised.1
    exact ledger_bind markFailed_triple
      (fun _ => ledger_finish fun _ dead => dead.lost final _) fun _ _ lost => lost
  | sqlite | os | arrow | overflow | foreign =>
    exact ledger_finish (fun _ raised => ⟨raised.1, .inl (raised.2.resolve_right (by decide))⟩)
      world raised

/-! The rows of a registration pass their checks. -/

variable {frames registered : List Frame} {first last : Frame}

private theorem ordered_bounds (ordered : frames.Pairwise inOrder) (head : frames.head? = some first)
    (tail : frames.getLast? = some last) : first.sequence ≤ last.sequence ∧
      first.normalizedTimestamp ≤ last.normalizedTimestamp := by
  cases frames with
  | nil => cases head
  | cons lead rest =>
    cases head
    rcases List.mem_cons.mp (List.mem_of_getLast? tail) with rfl | later
    · exact ⟨Nat.le_refl _, Rat.le_refl⟩
    · have before := (List.pairwise_cons.mp ordered).1 last later
      exact ⟨before.1.le, before.2⟩

theorem segmentRow_check {session : DataSession} {segmentId : Uuid} {byteSize : Nat}
    {createdAt : DateTime} (ordered : frames.Pairwise inOrder)
    (head : frames.head? = some first) (tail : frames.getLast? = some last)
    (stored : byteSize ≠ 0) :
    (segmentRow session segmentId frames first last byteSize createdAt).check = .ok () := by
  obtain ⟨sequences, timestamps⟩ := ordered_bounds ordered head tail
  have nonempty : frames ≠ [] := by
    rintro rfl
    cases head
  simp only [SegmentRow.check, checks_ok, requireTimestamp, refuseIf_ok, Rat.not_lt, Nat.not_lt]
  exact ⟨segmentRelativePath_accepted _ _, mt List.length_eq_zero_iff.mp nonempty, sequences,
    first.normalized_nonnegative, last.normalized_nonnegative, timestamps, stored⟩

/-- The first bound a session keeps is that of its first registered frame. -/
theorem getD_first {Bound : Type} (registered : List Frame) (bound : Frame → Bound)
    (head : frames.head? = some first) :
    some ((registered.head?.map bound).getD (bound first)) =
      (registered ++ frames).head?.map bound := by
  cases registered with
  | nil => simp [head]
  | cons lead rest => rfl

theorem withSegment_check {session : DataSession} {updatedAt : DateTime}
    (active : session.state = .active)
    (firstSequence : session.firstSequence = registered.head?.map Frame.sequence)
    (firstTimestamp : session.firstTimestamp = registered.head?.map Frame.normalizedTimestamp)
    (ordered : (registered ++ frames).Pairwise inOrder)
    (head : frames.head? = some first) (tail : frames.getLast? = some last) :
    (withSegment session frames first last updatedAt).check = .ok () := by
  obtain ⟨lead, leads⟩ : ∃ lead, (registered ++ frames).head? = some lead := by
    cases registered with
    | nil => exact ⟨first, head⟩
    | cons lead rest => exact ⟨lead, rfl⟩
  have ends : (registered ++ frames).getLast? = some last := by
    rw [List.getLast?_append, tail]
    rfl
  obtain ⟨sequences, timestamps⟩ := ordered_bounds ordered leads ends
  have sequence := getD_first registered Frame.sequence head
  have timestamp := getD_first registered Frame.normalizedTimestamp head
  rw [leads, Option.map_some, Option.some.injEq] at sequence timestamp
  have nonempty : frames ≠ [] := by
    rintro rfl
    cases head
  have named : session.streamId ≠ "" := by
    have passed := session.valid
    simp only [SessionRow.check, checks_ok, refuseIf_ok] at passed
    exact passed.1
  simp only [SessionRow.check, checks_ok, withSegment, requireOptionalSequenceBounds,
    requireOptionalTimestampBounds, requireTimestamp, refuseIf_ok, Rat.not_lt, firstSequence,
    firstTimestamp, sequence, timestamp, active]
  have counted : session.frameCount + frames.length ≠ 0 := by
    have some_frame := List.length_pos_iff.mpr nonempty
    omega
  refine ⟨named, by simp, Nat.not_lt.mpr sequences, ⟨lead.normalized_nonnegative,
    last.normalized_nonnegative, timestamps⟩, by simp, fun empty => counted empty.1⟩

/-! Registration. -/

theorem sessionSegments_register {segment : DataSegment} {session : DataSession}
    {database after : Database} (named : segment.sessionId = sessionId)
    (committed : registerSegment segment session database = .ok after) :
    sessionSegments sessionId after =
      sessionSegments sessionId database ++ [segment.toSegmentRow] := by
  obtain ⟨admitted, rfl⟩ := registerSegment_ok committed
  have appended : (updateSession session
      (insertSegment segment.toSegmentRow database admitted)).segments =
        database.segments ++ [segment.toSegmentRow] := rfl
  rw [sessionSegments, appended, List.filter_append]
  simp [sessionSegments, named]

theorem sessionRow_register {segment : DataSegment} {session : DataSession}
    {database after : Database} {stored : SessionRow} (named : session.sessionId = sessionId)
    (found : sessionRow sessionId database = some stored)
    (committed : registerSegment segment session database = .ok after) :
    sessionRow sessionId after = some session.toSessionRow := by
  obtain ⟨admitted, rfl⟩ := registerSegment_ok committed
  rw [sessionRow_updateSession, if_pos named, sessionRow_insertSegment, found]
  rfl

/-- One more segment in the books. -/
theorem Registered.append {chunks : List (List Frame)} {database : Database} {row : SegmentRow}
    {streamId : String} (registered : Registered sessionId chunks world)
    (key : segmentKey row = (chunks.length, segmentRelativePath sessionId chunks.length))
    (appended : sessionSegments sessionId database =
      sessionSegments sessionId world.database ++ [row])
    (stored : world.files (segmentRelativePath sessionId chunks.length) =
      some (.table ⟨sessionId, streamId, chunks.length, frames⟩)) (writer : Writer) :
    Registered sessionId (chunks ++ [frames]) ⟨database, world.files, writer⟩ := by
  constructor
  · rw [appended, List.map_append, registered.keys, List.length_append, List.length_singleton,
      List.range_succ, List.map_append]
    simp [key]
  · intro index chunk found
    by_cases earlier : index < chunks.length
    · rw [List.getElem?_append_left earlier] at found
      exact registered.files index chunk found
    · have bound := (List.getElem?_eq_some_iff.mp found).1
      rw [List.length_append, List.length_singleton] at bound
      obtain rfl : index = chunks.length := by omega
      rw [List.getElem?_concat_length, Option.some.injEq] at found
      exact ⟨streamId, found ▸ stored⟩

/-- What a registration that committed leaves once the writer has taken the snapshot. -/
theorem Writing.register {segment : DataSegment} {updated : DataSession} {database : Database}
    {segmentId : Uuid} {byteSize : Nat} {createdAt updatedAt : DateTime}
    (writing : Writing sessionId accepted (frames ++ rest) writer world)
    (stored : world.files (nextPath sessionId writer) =
      some (.table (segmentTable writer.session frames)))
    (segmentMade : segment.toSegmentRow =
      segmentRow writer.session segmentId frames first last byteSize createdAt)
    (sessionMade : updated.toSessionRow =
      withSegment writer.session frames first last updatedAt)
    (head : frames.head? = some first)
    (committed : registerSegment segment updated world.database = .ok database) :
    Ledger sessionId accepted rest ⟨database, world.files, writer.withSession updated⟩ := by
  obtain ⟨ledger, rfl⟩ := writing
  obtain ⟨chunks, registered, content, count, firstSequence, firstTimestamp⟩ := ledger.books
  obtain ⟨row, found, -⟩ := ledger.row
  have named : updated.sessionId = sessionId := by
    rw [sessionMade]
    exact ledger.opened.named
  have active : updated.state = .active := by
    rw [sessionMade]
    exact ledger.active
  have segmentNamed : segment.sessionId = sessionId := by
    rw [segmentMade]
    exact ledger.opened.named
  have rowAfter := sessionRow_register named found committed
  have key : segmentKey segment.toSegmentRow =
      (chunks.length, segmentRelativePath sessionId chunks.length) := by
    rw [segmentMade, ← count, ← ledger.opened.named]
    rfl
  rw [nextPath, count, segmentTable, count, ledger.opened.named] at stored
  have more := sessionSegments_register segmentNamed committed
  refine ⟨⟨named, ?_, ?_⟩, active, ⟨ledger.marked.1, ledger.marked.2, ledger.marked.3⟩,
    ⟨_, rowAfter, rfl⟩, chunks ++ [frames], registered.append key more stored _, ?_, ?_, ?_, ?_⟩
  · show updated.state ≠ .completed
    rw [active]
    decide
  · simp [RowCompleted, sessionState, rowAfter, active]
  · rw [List.flatten_append, List.flatten_singleton, List.append_assoc, content]
  · show updated.segmentCount = _
    rw [sessionMade, List.length_append, ← count]
    rfl
  · show updated.firstSequence = _
    rw [sessionMade, List.flatten_append, List.flatten_singleton,
      ← getD_first chunks.flatten Frame.sequence head, ← firstSequence]
    rfl
  · show updated.firstTimestamp = _
    rw [sessionMade, List.flatten_append, List.flatten_singleton,
      ← getD_first chunks.flatten Frame.normalizedTimestamp head, ← firstTimestamp]
    rfl

/-- Where every integer binds, a registration is refused by a constraint only. -/
theorem registerSegment_refused {segment : DataSegment} {session : DataSession}
    {database : Database} {error : PyException} (segmentBinds : bindable segment.integers = true)
    (sessionBinds : bindable session.integers = true)
    (refused : registerSegment segment session database = .error error) : error = .sqlite := by
  simp only [registerSegment, segmentBinds, sessionBinds, not_true_eq_false, if_false] at refused
  split at refused <;> cases refused
  rfl

/-- The row is registered and the writer still holds its old snapshot. -/
def Recorded (sessionId : Uuid) (accepted rest : List Frame) (writer : Writer)
    (updated : DataSession) (world : World) : Prop :=
  Ledger sessionId accepted rest { world with writer := writer.withSession updated } ∧
    world.writer = writer

theorem registerOrFail_triple {segment : DataSegment} {updated : DataSession}
    {segmentId : Uuid} {byteSize : Nat} {createdAt updatedAt : DateTime}
    (segmentMade : segment.toSegmentRow =
      segmentRow writer.session segmentId frames first last byteSize createdAt)
    (sessionMade : updated.toSessionRow =
      withSegment writer.session frames first last updatedAt)
    (head : frames.head? = some first) :
    LedgerTriple final
      (Written sessionId accepted (frames ++ rest) writer (nextPath sessionId writer)
        (segmentTable writer.session frames))
      (registerOrFail (nextPath sessionId writer) segment updated)
      (orLost sessionId final fun _ => Recorded sessionId accepted rest writer updated) := by
  have registered : LedgerTriple final
      (Written sessionId accepted (frames ++ rest) writer (nextPath sessionId writer)
        (segmentTable writer.session frames))
      (ask (.registerSegment segment updated)) fun
        | .ok _ => Recorded sessionId accepted rest writer updated
        | .error error => fun world => Open sessionId world ∧ error.isStorage = true := by
    refine .effect (stable_eq _) (fun _ => stable_eq _) fun world choice holds admitted => ⟨trivial, ?_⟩
    unfold perform
    cases faulted : choice.fault with
    | some error => exact ⟨holds.1.opened, admitted.1 error faulted⟩
    | none =>
      obtain ⟨segmentBinds, sessionBinds⟩ := admitted.2 faulted
      cases committed : registerSegment segment updated world.database with
      | ok database =>
        have recorded : Recorded sessionId accepted rest writer updated { world with database } :=
          ⟨holds.1.register holds.2 segmentMade sessionMade head committed, holds.1.2⟩
        simpa [act, World.committed, committed, storageErrors] using recorded
      | error error =>
        have refused := registerSegment_refused segmentBinds sessionBinds committed
        simpa [act, World.committed, committed, storageErrors, refused, PyException.isStorage]
          using holds.1.opened
  refine ledger_catching registered (fun _ _ recorded => recorded) fun error => ?_
  intro world raised
  rw [if_pos raised.2]
  refine (?_ : LedgerTriple final (Open sessionId) _ _) world raised.1
  refine ledger_bind (removeQuietly_triple (fun _ opened => opened)
    fun _ opened => ⟨opened.named, opened.uncompleted, opened.row⟩) (fun _ => ?_) fun _ _ lost => lost
  exact ledger_bind markFailed_triple
    (fun _ => ledger_finish fun _ dead => dead.lost final _) fun _ _ lost => lost

/-! The whole commit. -/

/-- The writer's snapshot after its next segment passes its check. -/
theorem Writing.withSegment_check (writing : Writing sessionId accepted (frames ++ rest) writer world)
    (head : frames.head? = some first) (tail : frames.getLast? = some last)
    (updatedAt : DateTime) :
    (withSegment writer.session frames first last updatedAt).check = .ok () := by
  obtain ⟨ledger, rfl⟩ := writing
  obtain ⟨chunks, -, content, -, firstSequence, firstTimestamp⟩ := ledger.books
  have ordered := ledger.marked.ordered
  rw [← content, ← List.append_assoc] at ordered
  exact Data.withSegment_check ledger.active firstSequence firstTimestamp
    (List.pairwise_append.mp ordered).1 head tail

theorem Writing.ordered (writing : Writing sessionId accepted (frames ++ rest) writer world) :
    frames.Pairwise inOrder := by
  obtain ⟨chunks, -, content, -⟩ := writing.1.books
  have ordered := writing.1.marked.ordered
  rw [← content] at ordered
  exact (List.pairwise_append.mp (List.pairwise_append.mp ordered).2.1).1

/-- What a committed segment leaves: the writer with its next snapshot. -/
def Committed (sessionId : Uuid) (accepted rest : List Frame) (writer : Writer) (world : World) :
    Prop :=
  Ledger sessionId accepted rest world ∧ ∃ updated, world.writer = writer.withSession updated

theorem Recorded.committed {updated : DataSession}
    (recorded : Recorded sessionId accepted rest writer updated world) :
    Committed sessionId accepted rest writer
      { world with writer := world.writer.withSession updated } := by
  obtain ⟨ledger, same⟩ := recorded
  rw [same]
  exact ⟨ledger, updated, rfl⟩

theorem commitFrames_triple (head : frames.head? = some first)
    (tail : frames.getLast? = some last) :
    LedgerTriple final (Writing sessionId accepted (frames ++ rest) writer)
      (commitFrames writer.session (nextPath sessionId writer) frames first last)
      (orLost sessionId final fun _ => Committed sessionId accepted rest writer) := by
  intro world writing
  have ordered := writing.ordered
  have checked := writing.withSegment_check head tail
  refine (?_ : LedgerTriple final (Writing sessionId accepted (frames ++ rest) writer) _ _)
    world writing
  refine ledger_bind (utcNow_triple fun _ writing => writing.opened) (fun createdAt => ?_)
    fun _ _ lost => lost
  refine ledger_bind writeOrFail_triple (fun byteSize => ?_) fun _ _ lost => lost
  have identified : LedgerTriple final
      (WrittenNext sessionId accepted (frames ++ rest) writer final
        (segmentTable writer.session frames) byteSize) (ask .uuid4)
      (orLost sessionId final fun _ => WrittenNext sessionId accepted (frames ++ rest) writer final
        (segmentTable writer.session frames) byteSize) :=
    uuid4_triple fun _ written => written.1.1.opened
  refine ledger_bind identified (fun segmentId => ?_) fun _ _ lost => lost
  intro world written
  cases segmentMade : DataSegment.make
      (segmentRow writer.session segmentId frames first last byteSize createdAt) with
  | error error =>
    -- only a file that `stat` reports empty is refused here
    have tolerated : final = true := by
      rw [← Bool.not_eq_false]
      intro early
      rw [DataSegment.make_of_check (segmentRow_check ordered head tail (written.2 early))]
        at segmentMade
      cases segmentMade
    exact ledger_finish (fun _ opened => ⟨opened, .inr ⟨tolerated, rfl⟩⟩) world
      written.1.1.opened
  | ok segment =>
    have row := DataSegment.make_row segmentMade
    rw [made_ok_bind]
    refine (?_ : LedgerTriple final (Written sessionId accepted (frames ++ rest) writer
      (nextPath sessionId writer) (segmentTable writer.session frames)) _ _) world written.1
    refine ledger_bind (utcNow_triple fun _ written => written.1.opened) (fun updatedAt => ?_)
      fun _ _ lost => lost
    rw [DataSession.make_of_check (checked updatedAt), made_ok_bind]
    refine ledger_bind (registerOrFail_triple row rfl head) (fun _ => ?_) fun _ _ lost => lost
    exact modifyWriter_ledger fun world recorded => recorded.committed

private theorem resolve_triple {path : String} {pre : World → Prop}
    (opened : ∀ world, pre world → Open sessionId world) :
    LedgerTriple final pre (ask (.resolveWithinRoot path))
      (orLost sessionId final fun target world => pre world ∧ target = path) :=
  ask_triple (fun world _ error holds admitted faulted _ =>
    ⟨opened world holds, .inr (admitted error faulted)⟩) fun _ _ holds _ => ⟨holds, rfl⟩

theorem commitSegment_triple (nonempty : frames ≠ []) :
    LedgerTriple final (Writing sessionId accepted (frames ++ rest) writer) (commitSegment frames)
      (orLost sessionId final fun _ => Committed sessionId accepted rest writer) := by
  refine ledger_bind readWriter_ledger (fun read => ?_) fun _ _ reached => by cases reached.2
  intro world reached
  obtain ⟨writing, same⟩ := reached
  obtain rfl : read = writer := (Except.ok.inj same).trans writing.2
  have named : read.session.sessionId = sessionId := writing.2 ▸ writing.opened.named
  refine (?_ : LedgerTriple final (Writing sessionId accepted (frames ++ rest) read) _ _)
    world writing
  dsimp only
  rw [named]
  refine ledger_bind (resolve_triple fun _ writing => writing.opened) (fun target => ?_)
    fun _ _ lost => lost
  intro world reached
  obtain ⟨writing, rfl⟩ := reached
  rw [List.head?_eq_some_head nonempty, List.getLast?_eq_some_getLast nonempty]
  exact commitFrames_triple (List.head?_eq_some_head nonempty)
    (List.getLast?_eq_some_getLast nonempty) world writing

/-! The calls. -/

/-- The accepted frames that no segment holds are the buffered ones. -/
def Kept (sessionId : Uuid) (accepted : List Frame) (world : World) : Prop :=
  Ledger sessionId accepted world.writer.buffer world

theorem Ledger.withBuffer (ledger : Ledger sessionId accepted rest world) (buffer : List Frame) :
    Ledger sessionId accepted rest { world with writer := world.writer.withBuffer buffer } := by
  obtain ⟨chunks, registered, books⟩ := ledger.books
  exact ⟨⟨ledger.opened.named, ledger.opened.uncompleted, ledger.opened.row⟩, ledger.active,
    ⟨ledger.marked.1, ledger.marked.2, ledger.marked.3⟩, ledger.row, chunks,
    ⟨registered.keys, registered.files⟩, books⟩

theorem Ledger.extended {batch : FrameBatch} (ledger : Ledger sessionId accepted rest world)
    (admitted : world.writer.admits batch = .ok ()) :
    Ledger sessionId (accepted ++ batch.frames) (rest ++ batch.frames)
      { world with writer := world.writer.extended batch } := by
  obtain ⟨chunks, registered, content, books⟩ := ledger.books
  refine ⟨⟨ledger.opened.named, ledger.opened.uncompleted, ledger.opened.row⟩, ledger.active,
    ledger.marked.extended admitted, ledger.row, chunks,
    ⟨registered.keys, registered.files⟩, ?_, books⟩
  rw [← List.append_assoc, content]

/-- A round takes one full segment out of the buffer, so the rounds do not run out. -/
theorem flushFullSegments_triple (rounds : Nat) :
    LedgerTriple final
      (fun world => Kept sessionId accepted world ∧ world.writer.buffer.length ≤ rounds)
      (flushFullSegments rounds) (orLost sessionId final fun _ world =>
        Kept sessionId accepted world ∧
          world.writer.buffer.length < world.writer.maxFramesPerSegment) := by
  induction rounds with
  | zero =>
    refine ledger_finish fun world kept => ⟨kept.1, ?_⟩
    have positive := world.writer.threshold_positive
    omega
  | succ rounds ih =>
    refine ledger_bind readWriter_ledger (fun writer => ?_) fun _ _ reached => by cases reached.2
    intro world reached
    obtain ⟨⟨kept, bound⟩, same⟩ := reached
    cases same
    by_cases full : world.writer.maxFramesPerSegment ≤ world.writer.buffer.length
    · rw [if_pos full]
      have positive := world.writer.threshold_positive
      have nonempty : world.writer.buffer.take world.writer.maxFramesPerSegment ≠ [] := by
        rw [← List.length_pos_iff, List.length_take]
        omega
      have split := List.take_append_drop world.writer.maxFramesPerSegment world.writer.buffer
      refine (?_ : LedgerTriple final (Writing sessionId accepted
        (world.writer.buffer.take world.writer.maxFramesPerSegment ++
          world.writer.buffer.drop world.writer.maxFramesPerSegment) world.writer) _ _) world
        ⟨split.symm ▸ kept, rfl⟩
      refine ledger_bind (commitSegment_triple nonempty) (fun _ => ?_) fun _ _ lost => lost
      refine ledger_bind (modifyWriter_ledger fun after committed => ?_) (fun _ => ih)
        fun _ _ lost => lost
      obtain ⟨ledger, updated, same⟩ := committed
      have left : after.writer.buffer.drop after.writer.maxFramesPerSegment =
          world.writer.buffer.drop world.writer.maxFramesPerSegment := by
        rw [same]
        rfl
      constructor
      · show Ledger sessionId accepted (after.writer.buffer.drop _) _
        rw [left]
        exact ledger.withBuffer _
      · show (after.writer.buffer.drop _).length ≤ rounds
        rw [left, List.length_drop]
        omega
    · rw [if_neg full]
      exact ledger_finish (fun _ kept => kept) world ⟨kept, Nat.lt_of_not_le full⟩

/-- Between two calls: the books are right, or the session is lost. -/
def Keeping (sessionId : Uuid) (accepted : List Frame) (world : World) : Prop :=
  Kept sessionId accepted world ∨ Dead sessionId world

theorem Kept.opened (kept : Kept sessionId accepted world) : Open sessionId world :=
  Ledger.opened kept

theorem Keeping.opened (keeping : Keeping sessionId accepted world) : Open sessionId world := by
  rcases keeping with kept | dead
  · exact kept.opened
  · exact dead.1

theorem requireActive_kept :
    LedgerTriple final (Kept sessionId accepted) requireActive
      fun result world => result = .ok () ∧ Kept sessionId accepted world := by
  refine ledger_bind readWriter_ledger (fun writer => ?_) fun _ _ reached => by cases reached.2
  intro world reached
  obtain ⟨kept, same⟩ := reached
  cases same
  rw [if_pos kept.active]
  exact ledger_finish (fun _ kept => ⟨rfl, kept⟩) world kept

private theorem requireActive_dead :
    LedgerTriple final (Dead sessionId) requireActive
      fun result world => result = .error notActive ∧ Dead sessionId world := by
  refine ledger_bind readWriter_ledger (fun writer => ?_) fun _ _ reached => by cases reached.2
  intro world reached
  obtain ⟨dead, same⟩ := reached
  cases same
  rw [if_neg dead.2]
  exact ledger_finish (fun _ dead => ⟨rfl, dead⟩) world dead

/-- A call that starts with `_require_active` leaves a lost session lost. -/
theorem requireActive_bind_dead {Value : Type} {continuation : Unit → DataProgram Value} :
    LedgerTriple final (Dead sessionId) (requireActive >>= continuation)
      fun result world => result = .error notActive ∧ Dead sessionId world := by
  refine ledger_bind requireActive_dead (fun value => ?_)
    fun error world reached => ⟨by cases reached.1; rfl, reached.2⟩
  intro world reached
  cases reached.1

/-- Outside the final flush an exception has lost the session. -/
theorem Lost.dead {error : PyException} (lost : Lost sessionId false error world) :
    Dead sessionId world :=
  ⟨lost.1, lost.2.resolve_right fun tolerated => by cases tolerated.1⟩

/-- What an append leaves. -/
def appendedBooks (sessionId : Uuid) (accepted : List Frame) (batch : FrameBatch) :
    Except PyException Unit → World → Prop
  | .ok _ => Kept sessionId (accepted ++ batch.frames)
  | .error _ => Keeping sessionId accepted

/-- `append` either takes the whole batch into the books, or refuses it, or loses the
session. -/
theorem append_triple (batch : FrameBatch) :
    LedgerTriple false (Keeping sessionId accepted) (append batch)
      (appendedBooks sessionId accepted batch) := by
  intro world keeping
  rcases keeping with kept | dead
  · refine (?_ : LedgerTriple false (Kept sessionId accepted) _ _) world kept
    refine ledger_bind requireActive_kept (fun _ => ?_) fun _ _ reached => by cases reached.1
    refine ledger_bind readWriter_ledger (fun writer => ?_) fun _ _ reached => by cases reached.2
    intro world reached
    obtain ⟨⟨-, kept⟩, same⟩ := reached
    cases same
    cases admitted : world.writer.admits batch with
    | error error =>
      exact ledger_finish (fun _ kept => .inl kept) world kept
    | ok value =>
      rw [made_ok_bind]
      have taken : LedgerTriple false (· = world) (ask (.modifyWriter (·.extended batch)))
          (orLost sessionId false fun _ after =>
            Kept sessionId (accepted ++ batch.frames) after ∧
              after.writer.buffer.length ≤ world.writer.buffer.length + batch.frameCount) := by
        refine modifyWriter_ledger fun after same => ?_
        rw [same]
        exact ⟨kept.extended admitted, by rw [Writer.extended, List.length_append]; rfl⟩
      refine ledger_bind taken (fun _ => ?_) (fun _ _ lost => .inr lost.dead) world rfl
      refine (flushFullSegments_triple _).consequence (fun _ extended => extended)
        fun result after reached => ?_
      cases result with
      | ok value => exact reached.1
      | error error => exact .inr (Lost.dead reached)
  · refine requireActive_bind_dead.consequence (fun _ dead => dead) (fun result world reached => ?_)
      world dead
    cases result with
    | ok value => cases reached.1
    | error error => exact .inr reached.2

/-- Everything accepted is registered and nothing is buffered. -/
def Flushed (sessionId : Uuid) (accepted : List Frame) (world : World) : Prop :=
  Ledger sessionId accepted [] world ∧ world.writer.buffer = []

theorem flushPending_triple :
    LedgerTriple final (Keeping sessionId accepted) flushPending
      (orLost sessionId final fun _ => Flushed sessionId accepted) := by
  intro world keeping
  rcases keeping with kept | dead
  · refine (?_ : LedgerTriple final (Kept sessionId accepted) _ _) world kept
    refine ledger_bind requireActive_kept (fun _ => ?_) fun _ _ reached => by cases reached.1
    refine ledger_bind readWriter_ledger (fun writer => ?_) fun _ _ reached => by cases reached.2
    intro world reached
    obtain ⟨⟨-, kept⟩, same⟩ := reached
    cases same
    by_cases drained : world.writer.buffer = []
    · rw [if_pos drained]
      exact ledger_finish (fun _ flushed => flushed) world ⟨drained ▸ kept, drained⟩
    · rw [if_neg drained]
      refine (?_ : LedgerTriple final
        (Writing sessionId accepted (world.writer.buffer ++ []) world.writer) _ _) world
        ⟨(List.append_nil _).symm ▸ kept, rfl⟩
      refine ledger_bind (commitSegment_triple drained) (fun _ => ?_) fun _ _ lost => lost
      exact modifyWriter_ledger fun after committed => ⟨committed.1.withBuffer [], rfl⟩
  · refine requireActive_bind_dead.consequence (fun _ dead => dead) (fun result world reached => ?_)
      world dead
    cases result with
    | ok value => cases reached.1
    | error error => exact reached.2.lost final error

theorem Flushed.settled (flushed : Flushed sessionId accepted world) :
    Settled sessionId accepted world := by
  obtain ⟨ledger, drained⟩ := flushed
  obtain ⟨chunks, registered, content, count, -⟩ := ledger.books
  obtain ⟨row, found, same⟩ := ledger.row
  exact ⟨drained, chunks, registered, by rw [← content, List.append_nil], row, found,
    same.trans count⟩

theorem Started.kept (started : Started sessionId world) : Kept sessionId [] world := by
  obtain ⟨projectId, streamId, startedAt, fresh⟩ := started.fresh
  have drained : world.writer.buffer = [] := by
    rw [started.writer]
    rfl
  have unsegmented : sessionSegments sessionId world.database = [] := by
    apply List.filter_eq_nil_iff.mpr
    intro segment member
    simpa using started.unsegmented segment member
  refine ⟨started.open, ?_, ⟨.nil, ?_, ?_⟩, ⟨_, started.row, rfl⟩, [], ⟨?_, ?_⟩, ?_, ?_, ?_, ?_⟩
  · rw [fresh]
    rfl
  · rw [started.writer]
    rfl
  · rw [started.writer]
    rfl
  · rw [unsegmented]
    rfl
  · intro index frames stored
    cases stored
  · rw [drained]
    rfl
  all_goals
    rw [fresh]
    rfl

end CanX.Data
