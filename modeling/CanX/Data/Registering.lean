import CanX.Data.Shelf

/-! The calls of a writer, effect by effect: each keeps the registered tables on their shelf, and a commit adds the
next one. -/

namespace CanX.Data

namespace Shelving

open Domain Storage Transition

section Attributes

variable {sizeOf : StoredFile → Nat} {sessionId : Uuid} {streamId : String} {tables : List SegmentTable}
variable {world : World} {rest frames : List Frame} {writer : Writer} {Value : Type} {kept : Value → World → Prop}

theorem readWriter_busy {continuation : Writer → DataProgram Value}
    (next : ShelfTriple sizeOf sessionId streamId (Busy sizeOf sessionId streamId tables writer) (continuation writer)
      (orIdle sizeOf sessionId streamId kept)) :
    ShelfTriple sizeOf sessionId streamId (Busy sizeOf sessionId streamId tables writer)
      (ask .readWriter >>= continuation) (orIdle sizeOf sessionId streamId kept) := by
  refine shelf_observe (fun read => read = writer) steady_busy (fun _ => Busy.idle) (fun _ => rfl)
    (fun world choice busy _ => ⟨rfl, fun read answered => ?_⟩) fun read same => ?_
  · exact (Except.ok.inj answered).symm.trans busy.2
  · rw [same]
    exact next

/-- A call begins with the writer as it is. -/
theorem readWriter_idle {continuation : Writer → DataProgram Value}
    (next : ∀ tables writer, ShelfTriple sizeOf sessionId streamId (Busy sizeOf sessionId streamId tables writer)
      (continuation writer) (orIdle sizeOf sessionId streamId kept)) :
    ShelfTriple sizeOf sessionId streamId (Idle sizeOf sessionId streamId) (ask .readWriter >>= continuation)
      (orIdle sizeOf sessionId streamId kept) := by
  intro world idle
  obtain ⟨tables, held⟩ := idle
  exact readWriter_busy (next tables world.writer) world ⟨held, rfl⟩

/-- An effect whose answer tells nothing. -/
theorem shelf_blind {request : DataEffect} {pre : World → Prop} {continuation : request.Answer → DataProgram Value}
    (steady : Steady sessionId streamId pre) (idle : ∀ world, pre world → Idle sizeOf sessionId streamId world)
    (traceless : ∀ world, disturbed request world = world)
    (unmoved : ∀ world choice, (act request choice world).1 = world)
    (next : ∀ value, ShelfTriple sizeOf sessionId streamId pre (continuation value)
      (orIdle sizeOf sessionId streamId kept)) :
    ShelfTriple sizeOf sessionId streamId pre (ask request >>= continuation)
      (orIdle sizeOf sessionId streamId kept) :=
  shelf_observe (fun _ => True) steady idle traceless
    (fun world choice _ _ => ⟨unmoved world choice, fun _ _ => trivial⟩) fun value _ => next value

theorem requireActive_idle : ShelfTriple sizeOf sessionId streamId (Idle sizeOf sessionId streamId) requireActive
    (orIdle sizeOf sessionId streamId fun _ => Idle sizeOf sessionId streamId) := by
  refine readWriter_idle fun tables writer => ?_
  split
  · exact .finish steady_idle fun _ => Busy.idle
  · exact shelf_raise fun _ => Busy.idle

/-- Advancing a row leaves the writer where it is. -/
theorem advance_busy {session : DataSession} :
    ShelfTriple sizeOf sessionId streamId (Busy sizeOf sessionId streamId tables writer)
      (ask (.advanceSessionState session)) fun _ => Busy sizeOf sessionId streamId tables writer := by
  refine shelf_ask steady_busy (fun _ => steady_busy) (fun _ world error busy => ⟨busy.1.unmoved, busy⟩)
    fun world choice busy _ => ?_
  have advanced : Shelf sizeOf sessionId streamId tables
      { world with database := (advanceSessionState session world.database).1 } :=
    busy.1.shelf.advance (ended_dated session)
  exact ⟨⟨tables, [], busy.1.shelf, by rw [List.append_nil]; exact advanced⟩, ⟨advanced, busy.1.ready⟩, busy.2⟩

private theorem advance_idle {session : DataSession} :
    ShelfTriple sizeOf sessionId streamId (Idle sizeOf sessionId streamId)
      (suppressStorage (ask (.advanceSessionState session)))
      (orIdle sizeOf sessionId streamId fun _ => Idle sizeOf sessionId streamId) := by
  intro world idle
  obtain ⟨tables, held⟩ := idle
  have advanced : ShelfTriple sizeOf sessionId streamId (Busy sizeOf sessionId streamId tables world.writer)
      (ask (.advanceSessionState session)) (orIdle sizeOf sessionId streamId fun _ => Idle sizeOf sessionId streamId) :=
    advance_busy.consequence (fun _ busy => busy) fun result _ busy => by
      cases result <;> exact busy.idle
  refine shelf_catching (fun _ => steady_idle) advanced (fun error => ?_) world ⟨held, rfl⟩
  split
  · exact .finish steady_idle fun _ idle => idle
  · exact shelf_raise fun _ idle => idle

theorem Ready.withSession {session : DataSession} (ready : Ready sessionId streamId tables rest writer)
    (named : session.sessionId = writer.session.sessionId) (streamed : session.streamId = writer.session.streamId)
    (counted : session.segmentCount = writer.session.segmentCount) :
    Ready sessionId streamId tables rest (writer.withSession session) :=
  { ready with
    named := named.trans ready.named
    streamed := streamed.trans ready.streamed
    counted := counted.trans ready.counted }

/-- The writer takes a snapshot that names the same session, stream and segments. -/
theorem shelf_assign {session : DataSession} {continuation : Unit → DataProgram Value}
    (named : session.sessionId = writer.session.sessionId) (streamed : session.streamId = writer.session.streamId)
    (counted : session.segmentCount = writer.session.segmentCount)
    (next : ShelfTriple sizeOf sessionId streamId (Idle sizeOf sessionId streamId) (continuation ())
      (orIdle sizeOf sessionId streamId kept)) :
    ShelfTriple sizeOf sessionId streamId (Busy sizeOf sessionId streamId tables writer)
      (ask (.modifyWriter (·.withSession session)) >>= continuation) (orIdle sizeOf sessionId streamId kept) := by
  refine shelf_modify steady_busy steady_idle (fun world busy => ?_) next
  obtain ⟨held, rfl⟩ := busy
  exact ⟨⟨tables, held.shelf⟩, tables, held.shelf.withWriter _, held.ready.withSession named streamed counted⟩

theorem markFailed_idle : ShelfTriple sizeOf sessionId streamId (Idle sizeOf sessionId streamId) markFailed
    (orIdle sizeOf sessionId streamId fun _ => Idle sizeOf sessionId streamId) := by
  refine readWriter_idle fun tables writer => ?_
  refine shelf_blind steady_busy (fun _ => Busy.idle) (fun _ => rfl) (fun _ _ => rfl) fun updatedAt => ?_
  refine shelf_made (fun _ => Busy.idle) fun failed built => ?_
  have same := DataSession.make_row built
  refine shelf_assign (by rw [same]) (by rw [same]) (by rw [same]) ?_
  exact shelf_bind advance_idle fun _ => .finish steady_idle fun _ idle => idle

theorem removeQuietly_shelf {path : String} {pre : World → Prop} (steady : Steady sessionId streamId pre)
    (idle : ∀ world, pre world → Idle sizeOf sessionId streamId world)
    (removed : ∀ world, pre world → Grown sizeOf sessionId streamId world (world.withFile path none) ∧
      pre (world.withFile path none)) :
    ShelfTriple sizeOf sessionId streamId pre (removeQuietly path) (orIdle sizeOf sessionId streamId fun _ => pre) := by
  have unmoved (world : World) (holds : pre world) : Grown sizeOf sessionId streamId world world := by
    obtain ⟨tables, held⟩ := idle world holds
    exact held.unmoved
  have removal : ShelfTriple sizeOf sessionId streamId pre (ask (.removeFile path)) fun _ => pre := by
    refine shelf_ask steady (fun _ => steady) (fun _ world error holds => ⟨unmoved world holds, holds⟩)
      fun world choice holds _ => ?_
    simp only [act]
    split
    · exact removed world holds
    · exact ⟨unmoved world holds, holds⟩
  refine .catching Aside.refl removal (fun _ => ⟨steady, fun _ holds => holds⟩) fun error => ?_
  cases error with
  | os => exact .finish steady fun _ holds => holds
  | _ => exact shelf_raise idle

end Attributes

section Segments

variable {sizeOf : StoredFile → Nat} {sessionId : Uuid} {streamId : String} {tables : List SegmentTable}
variable {world : World} {rest frames : List Frame} {writer : Writer} {table : SegmentTable} {path : String}

theorem free_temporary (path : String) : Free sessionId tables (temporaryPath path) :=
  fun index _ => (temporaryPath_ne_segment path sessionId index).symm

theorem free_next : Free sessionId tables (segmentRelativePath sessionId tables.length) := by
  intro index small same
  have next := segmentRelativePath_injective same
  omega

theorem Busy.withFile (busy : Busy sizeOf sessionId streamId tables writer world) (free : Free sessionId tables path)
    (file : Option StoredFile) :
    Grown sizeOf sessionId streamId world (world.withFile path file) ∧
      Busy sizeOf sessionId streamId tables writer (world.withFile path file) := by
  have shelf : Shelf sizeOf sessionId streamId tables (world.withFile path file) := busy.1.shelf.withFile free
  exact ⟨⟨tables, [], busy.1.shelf, by rw [List.append_nil]; exact shelf⟩, ⟨shelf, busy.1.ready⟩, busy.2⟩

theorem removeTemporary_idle : ShelfTriple sizeOf sessionId streamId (Idle sizeOf sessionId streamId)
    (removeQuietly (temporaryPath path)) (orIdle sizeOf sessionId streamId fun _ => Idle sizeOf sessionId streamId) := by
  refine removeQuietly_shelf steady_idle (fun _ idle => idle) fun world idle => ?_
  obtain ⟨tables, held⟩ := idle
  have busy : Busy sizeOf sessionId streamId tables world.writer world := ⟨held, rfl⟩
  obtain ⟨grown, after⟩ := busy.withFile (free_temporary path) none
  exact ⟨grown, after.idle⟩

/-- The writer, with a table in a file. -/
def OnDisk (sizeOf : StoredFile → Nat) (sessionId : Uuid) (streamId : String) (tables : List SegmentTable)
    (writer : Writer) (path : String) (table : SegmentTable) (world : World) : Prop :=
  Busy sizeOf sessionId streamId tables writer world ∧ world.files path = some (.table table)

theorem steady_onDisk : Steady sessionId streamId (OnDisk sizeOf sessionId streamId tables writer path table) :=
  fun before after moved held => ⟨steady_busy before after moved held.1, by rw [moved.files]; exact held.2⟩

/-- The table is in its file, and its size is known. -/
def Measured (sizeOf : StoredFile → Nat) (sessionId : Uuid) (streamId : String) (tables : List SegmentTable)
    (writer : Writer) (path : String) (table : SegmentTable) (byteSize : Nat) (world : World) : Prop :=
  OnDisk sizeOf sessionId streamId tables writer path table world ∧ byteSize = sizeOf (.table table)

private theorem steady_measured {byteSize : Nat} :
    Steady sessionId streamId (Measured sizeOf sessionId streamId tables writer path table byteSize) :=
  fun before after moved held => ⟨steady_onDisk before after moved held.1, held.2⟩

private theorem writeTemporary_shelf (free : Free sessionId tables path) :
    ShelfTriple sizeOf sessionId streamId (Busy sizeOf sessionId streamId tables writer) (writeTemporary path table)
      (orIdle sizeOf sessionId streamId (Measured sizeOf sessionId streamId tables writer path table)) := by
  refine shelf_blind steady_busy (fun _ => Busy.idle) (fun _ => rfl) (fun _ _ => rfl) fun _ => ?_
  refine shelf_observe (fun built => built = table) steady_busy (fun _ => Busy.idle) (fun _ => rfl)
    (fun world choice _ _ => ?_) fun built same => ?_
  · simp only [act]
    split
    · exact ⟨rfl, fun _ answered => by cases answered⟩
    · exact ⟨rfl, fun _ answered => (Except.ok.inj answered).symm⟩
  rw [same]
  have stored : ShelfTriple sizeOf sessionId streamId (Busy sizeOf sessionId streamId tables writer)
      (ask (.writeTable table (temporaryPath path))) (orIdle sizeOf sessionId streamId fun _ =>
        OnDisk sizeOf sessionId streamId tables writer (temporaryPath path) table) := by
    refine shelf_ask steady_busy (steady_orIdle fun _ => steady_onDisk) (fun _ world error busy => ?_)
      fun world choice busy _ => ?_
    · obtain ⟨grown, after⟩ := busy.withFile (free_temporary path) (some .truncated)
      exact ⟨grown, after.idle⟩
    · obtain ⟨grown, after⟩ := busy.withFile (free_temporary path) (some (.table table))
      exact ⟨grown, after, Function.update_self _ _ _⟩
  refine shelf_bind stored fun _ => ?_
  refine shelf_observe (fun byteSize => byteSize = sizeOf (.table table)) steady_onDisk (fun _ held => held.1.idle)
    (fun _ => rfl) (fun world choice held told => ?_) fun byteSize sized => ?_
  · have answers : act (.fileSize (temporaryPath path)) choice world = (world, .ok choice.byteSize) := by
      simp only [act, held.2, Option.isSome_some, if_true]
    rw [answers]
    exact ⟨rfl, fun value answered => (Except.ok.inj answered).symm.trans (told _ held.2)⟩
  have renamed : ShelfTriple sizeOf sessionId streamId
      (OnDisk sizeOf sessionId streamId tables writer (temporaryPath path) table)
      (ask (.replaceFile (temporaryPath path) path)) (orIdle sizeOf sessionId streamId fun _ =>
        OnDisk sizeOf sessionId streamId tables writer path table) := by
    refine shelf_ask steady_onDisk (steady_orIdle fun _ => steady_onDisk)
      (fun _ world error held => ⟨held.1.1.unmoved, held.1.idle⟩) fun world choice held _ => ?_
    simp only [act, held.2]
    obtain ⟨cleared, between⟩ := held.1.withFile (free_temporary path) none
    obtain ⟨published, after⟩ := between.withFile free (some (.table table))
    exact ⟨cleared.trans published, after, Function.update_self _ _ _⟩
  exact shelf_bind renamed fun _ => .finish steady_measured fun _ held => ⟨held, sized⟩

theorem writeOrFail_shelf (free : Free sessionId tables path) :
    ShelfTriple sizeOf sessionId streamId (Busy sizeOf sessionId streamId tables writer) (writeOrFail path table)
      (orIdle sizeOf sessionId streamId (Measured sizeOf sessionId streamId tables writer path table)) := by
  have segment : ShelfTriple sizeOf sessionId streamId (Busy sizeOf sessionId streamId tables writer)
      (writeSegment path table)
      (orIdle sizeOf sessionId streamId (Measured sizeOf sessionId streamId tables writer path table)) := by
    unfold writeSegment
    split
    · exact shelf_raise fun _ => Busy.idle
    refine shelf_catching (fun _ => steady_measured) (writeTemporary_shelf free) fun error => ?_
    cases error with
    | arrow => exact shelf_bind removeTemporary_idle fun _ => shelf_raise fun _ idle => idle
    | os => exact shelf_bind removeTemporary_idle fun _ => shelf_raise fun _ idle => idle
    | _ => exact shelf_raise fun _ idle => idle
  refine shelf_catching (fun _ => steady_measured) segment fun error => ?_
  cases error with
  | data error => exact shelf_bind markFailed_idle fun _ => shelf_raise fun _ idle => idle
  | _ => exact shelf_raise fun _ idle => idle

end Segments

section Registration

variable {sizeOf : StoredFile → Nat} {sessionId : Uuid} {streamId : String} {tables : List SegmentTable}
variable {world : World} {rest frames : List Frame} {writer : Writer} {table : SegmentTable} {path : String}
variable {segment : DataSegment} {updated : DataSession} {first last : Frame}

theorem tableFrames_snoc : tableFrames (tables ++ [table]) = tableFrames tables ++ table.frames := by
  simp [tableFrames]

/-- One more table on the shelf. -/
theorem Shelf.register {database : Database} (shelf : Shelf sizeOf sessionId streamId tables world)
    (held : OnShelf sizeOf sessionId streamId world.files table segment.toSegmentRow)
    (own : segment.sessionId = sessionId) (named : updated.sessionId = sessionId)
    (streamed : updated.streamId = streamId) (index : table.segmentIndex = tables.length)
    (ascending : Ascending Frame.sequence (tableFrames tables ++ table.frames))
    (committed : registerSegment segment updated world.database = .ok database) :
    Shelf sizeOf sessionId streamId (tables ++ [table]) { world with database } where
  indices := by
    rw [List.map_append, shelf.indices, List.length_append, List.length_singleton, List.range_succ, List.map_singleton,
      index]
  rows := by
    rw [sessionSegments_register own committed]
    exact List.rel_append shelf.rows (.cons held .nil)
  listed := by
    obtain ⟨row, found, -⟩ := shelf.listed
    exact ⟨updated.toSessionRow, sessionRow_register named found committed, updated.valid, streamed⟩
  ascending := by
    rw [tableFrames_snoc]
    exact ascending

/-- The next table is registered, and the writer has not taken the snapshot yet. -/
def Landed (sizeOf : StoredFile → Nat) (sessionId : Uuid) (streamId : String) (tables : List SegmentTable)
    (writer : Writer) (world : World) : Prop :=
  Shelf sizeOf sessionId streamId tables world ∧ world.writer = writer

theorem steady_landed : Steady sessionId streamId (Landed sizeOf sessionId streamId tables writer) :=
  fun _ _ moved held => ⟨held.1.aside moved, moved.writer.trans held.2⟩

/-- The first frames of the buffer are registered, and the writer still holds them. -/
def Committed (sizeOf : StoredFile → Nat) (sessionId : Uuid) (streamId : String) (rest : List Frame) (writer : Writer)
    (world : World) : Prop :=
  ∃ tables session, Kept sizeOf sessionId streamId tables rest world ∧ world.writer = writer.withSession session

theorem steady_committed : Steady sessionId streamId (Committed sizeOf sessionId streamId rest writer) := by
  rintro before after moved ⟨tables, session, held, same⟩
  exact ⟨tables, session, held.aside moved, moved.writer.trans same⟩

/-- A registration that raises has changed nothing. -/
def afterRegister (sizeOf : StoredFile → Nat) (sessionId : Uuid) (streamId : String) (tables : List SegmentTable)
    (writer : Writer) (table : SegmentTable) : Except PyException Unit → World → Prop
  | .ok _ => Landed sizeOf sessionId streamId (tables ++ [table]) writer
  | .error _ => Busy sizeOf sessionId streamId tables writer

/-- A registration lands, or the file is removed again. -/
theorem registerOrFail_shelf (free : Free sessionId tables path)
    (lands : ∀ world database, OnDisk sizeOf sessionId streamId tables writer path table world →
      registerSegment segment updated world.database = .ok database →
      Shelf sizeOf sessionId streamId (tables ++ [table]) { world with database }) :
    ShelfTriple sizeOf sessionId streamId (OnDisk sizeOf sessionId streamId tables writer path table)
      (registerOrFail path segment updated)
      (orIdle sizeOf sessionId streamId fun _ => Landed sizeOf sessionId streamId (tables ++ [table]) writer) := by
  have registered : ShelfTriple sizeOf sessionId streamId (OnDisk sizeOf sessionId streamId tables writer path table)
      (ask (.registerSegment segment updated)) (afterRegister sizeOf sessionId streamId tables writer table) := by
    refine shelf_ask steady_onDisk (fun result => ?_) (fun _ world error held => ⟨held.1.1.unmoved, held.1⟩)
      fun world choice held _ => ?_
    · cases result with
      | ok value => exact steady_landed
      | error error => exact steady_busy
    · simp only [act, World.committed]
      split
      · rename_i database committed
        have shelf := lands world database held (storageErrors_ok committed)
        exact ⟨⟨tables, [table], held.1.1.shelf, shelf⟩, shelf, held.1.2⟩
      · exact ⟨held.1.1.unmoved, held.1⟩
  refine .catching Aside.refl registered (fun _ => ⟨steady_landed, fun _ landed => landed⟩) fun error => ?_
  refine (?_ : ShelfTriple sizeOf sessionId streamId (Busy sizeOf sessionId streamId tables writer) _ _)
  split
  · refine shelf_bind (removeQuietly_shelf steady_busy (fun _ => Busy.idle) fun world busy => busy.withFile free none)
      fun _ => ?_
    refine shelf_bind (Program.Triple.consequence markFailed_idle (fun _ => Busy.idle) fun _ _ reached => reached)
      fun _ => ?_
    exact shelf_raise fun _ idle => idle
  · exact shelf_raise fun _ => Busy.idle

theorem commitFrames_shelf (held : writer.buffer = frames ++ rest) (head : frames.head? = some first)
    (tail : frames.getLast? = some last) (path : String)
    (next : path = segmentRelativePath writer.session.sessionId writer.session.segmentCount) :
    ShelfTriple sizeOf sessionId streamId (Busy sizeOf sessionId streamId tables writer)
      (commitFrames writer.session path frames first last)
      (orIdle sizeOf sessionId streamId fun _ => Committed sizeOf sessionId streamId rest writer) := by
  refine shelf_given (fun world busy => busy.2 ▸ busy.1.ready) fun ready => ?_
  have canonical : path = segmentRelativePath sessionId tables.length := by rw [next, ready.named, ready.counted]
  have free : Free sessionId tables path := canonical ▸ free_next
  refine shelf_blind steady_busy (fun _ => Busy.idle) (fun _ => rfl) (fun _ _ => rfl) fun createdAt => ?_
  refine shelf_bind (writeOrFail_shelf free) fun byteSize => ?_
  refine shelf_given (fun world reached => reached.2) fun sized => ?_
  refine Program.Triple.consequence ?_ (fun world reached => reached.1) fun _ _ reached => reached
  refine shelf_blind steady_onDisk (fun _ held => held.1.idle) (fun _ => rfl) (fun _ _ => rfl) fun segmentId => ?_
  refine shelf_made (fun _ held => held.1.idle) fun segment segmentMade => ?_
  refine shelf_blind steady_onDisk (fun _ held => held.1.idle) (fun _ => rfl) (fun _ _ => rfl) fun updatedAt => ?_
  refine shelf_made (fun _ held => held.1.idle) fun updated sessionMade => ?_
  have row := DataSegment.make_row segmentMade
  have session := DataSession.make_row sessionMade
  have pending := ready.pending
  have behind := ready.behind
  rw [held, ← List.append_assoc] at pending behind
  have own : segment.sessionId = sessionId := by rw [row]; exact ready.named
  have named : updated.sessionId = sessionId := by rw [session]; exact ready.named
  have streamed : updated.streamId = streamId := by rw [session]; exact ready.streamed
  have counted : updated.segmentCount = tables.length + 1 := by
    rw [session, withSegment, ← ready.counted]
  refine shelf_bind (registerOrFail_shelf free fun world database onDisk committed => ?_) fun _ => ?_
  · refine onDisk.1.1.shelf.register ?_ own named streamed ready.counted (List.pairwise_append.mp pending).1 committed
    have valid := segment.valid
    have bindables := (registerSegment_registrable committed).1
    rw [row] at valid bindables ⊢
    have bound : writer.session.segmentCount ≤ largestBoundInteger :=
      of_decide_eq_true (List.all_eq_true.mp bindables _ List.mem_cons_self)
    refine ⟨valid, ready.named, ready.streamed, rfl, bound, ?_, rfl, ?_, ?_, ?_, sized⟩
    · rw [segmentTable, segmentRow, ready.named]
    · rw [segmentTable, head]
      rfl
    · rw [segmentTable, tail]
      rfl
    · rw [segmentRow, ← next]
      exact onDisk.2
  · refine shelf_ask steady_landed (steady_orIdle fun _ => steady_committed) (fun memory => by cases memory)
      fun world choice landed _ => ?_
    obtain ⟨shelf, rfl⟩ := landed
    have after : Shelf sizeOf sessionId streamId _ { world with writer := world.writer.withSession updated } :=
      shelf.withWriter _
    refine ⟨⟨_, [], shelf, by rw [List.append_nil]; exact after⟩, _, updated, ⟨after, ?_⟩, rfl⟩
    refine ⟨named, streamed, ?_, ?_, ?_⟩
    · rw [List.length_append, List.length_singleton]
      exact counted
    · rw [tableFrames_snoc]
      exact pending
    · rw [tableFrames_snoc]
      exact behind

theorem commitSegment_shelf (held : writer.buffer = frames ++ rest) :
    ShelfTriple sizeOf sessionId streamId (Busy sizeOf sessionId streamId tables writer) (commitSegment frames)
      (orIdle sizeOf sessionId streamId fun _ => Committed sizeOf sessionId streamId rest writer) := by
  refine readWriter_busy ?_
  refine shelf_observe
    (fun path => path = segmentRelativePath writer.session.sessionId writer.session.segmentCount) steady_busy
    (fun _ => Busy.idle) (fun _ => rfl) (fun _ _ _ _ => ⟨rfl, fun _ answered => (Except.ok.inj answered).symm⟩)
    fun path next => ?_
  split
  · rename_i first last head tail
    exact commitFrames_shelf held head tail path next
  · exact shelf_raise fun _ => Busy.idle

end Registration

section Calls

variable {sizeOf : StoredFile → Nat} {sessionId : Uuid} {streamId : String} {tables : List SegmentTable}
variable {world : World} {rest : List Frame} {writer : Writer} {batch : FrameBatch}

/-- What is registered leaves the buffer. -/
theorem dropCommitted_shelf {Value : Type} {change : Writer → Writer} {continuation : Unit → DataProgram Value}
    {kept : Value → World → Prop} (dropped : ∀ session, change (writer.withSession session) =
      (writer.withSession session).withBuffer rest)
    (next : ShelfTriple sizeOf sessionId streamId (Idle sizeOf sessionId streamId) (continuation ())
      (orIdle sizeOf sessionId streamId kept)) :
    ShelfTriple sizeOf sessionId streamId (Committed sizeOf sessionId streamId rest writer)
      (ask (.modifyWriter change) >>= continuation) (orIdle sizeOf sessionId streamId kept) := by
  refine shelf_modify steady_committed steady_idle (fun world committed => ?_) next
  obtain ⟨tables, session, held, same⟩ := committed
  refine ⟨⟨tables, held.shelf⟩, tables, held.shelf.withWriter _, ?_⟩
  rw [same, dropped session, ← same]
  exact { held.ready with }

private theorem flushFullSegments_shelf (rounds : Nat) :
    ShelfTriple sizeOf sessionId streamId (Idle sizeOf sessionId streamId) (flushFullSegments rounds)
      (orIdle sizeOf sessionId streamId fun _ => Idle sizeOf sessionId streamId) := by
  induction rounds with
  | zero => exact .finish steady_idle fun _ idle => idle
  | succ rounds ih =>
    refine readWriter_idle fun tables writer => ?_
    split
    · refine shelf_bind (commitSegment_shelf (List.take_append_drop writer.maxFramesPerSegment writer.buffer).symm)
        fun _ => ?_
      exact dropCommitted_shelf (fun _ => rfl) ih
    · exact .finish steady_idle fun _ => Busy.idle

/-- The frames of a batch lie between its bounds. -/
theorem batch_bounds {frame : Frame} (ascending : descends batch.frames = false) (member : frame ∈ batch.frames) :
    batch.firstSequence ≤ frame.sequence ∧ frame.sequence ≤ batch.lastSequence := by
  have ordered := FrameBatch.pairwise_inOrder ascending
  have head : batch.frames.head? = some batch.firstFrame := List.head?_eq_some_head batch.nonempty
  have tail : batch.frames.getLast? = some batch.lastFrame := List.getLast?_eq_some_getLast batch.nonempty
  exact ⟨(head_notAfter ordered head member).1, (notAfter_last ordered tail member).1⟩

/-- An admitted batch goes on above everything that was accepted before. -/
theorem Ready.extended (ready : Ready sessionId streamId tables writer.buffer writer)
    (admitted : writer.admits batch = .ok ()) :
    Ready sessionId streamId tables (writer.buffer ++ batch.frames) (writer.extended batch) := by
  obtain ⟨contiguous, ascending, -⟩ := writer.admits_ok admitted
  have above : ∀ frame ∈ tableFrames tables ++ writer.buffer, frame.sequence < batch.firstSequence := by
    intro frame member
    obtain ⟨last, marked, bound⟩ := ready.behind frame member
    simp only [requireContiguousSequence, marked, refuseIf_ok, not_not] at contiguous
    omega
  refine ⟨ready.named, ready.streamed, ready.counted, ?_, ?_⟩
  · rw [← List.append_assoc]
    refine List.pairwise_append.mpr ⟨ready.pending, FrameBatch.pairwise_sequence batch, ?_⟩
    intro frame member later inside
    exact Nat.lt_of_lt_of_le (above frame member) (batch_bounds ascending inside).1
  · rw [← List.append_assoc]
    intro frame member
    refine ⟨batch.lastSequence, rfl, ?_⟩
    rcases List.mem_append.mp member with earlier | inside
    · obtain ⟨lower, upper⟩ := batch_bounds ascending (List.head_mem batch.nonempty)
      have before := above frame earlier
      omega
    · exact (batch_bounds ascending inside).2

theorem append_shelf (batch : FrameBatch) : ShelfTriple sizeOf sessionId streamId (Idle sizeOf sessionId streamId)
    (append batch) (orIdle sizeOf sessionId streamId fun _ => Idle sizeOf sessionId streamId) := by
  refine shelf_bind requireActive_idle fun _ => readWriter_idle fun tables writer => ?_
  refine shelf_made (fun _ => Busy.idle) fun _ admitted => ?_
  refine shelf_modify steady_busy steady_idle (fun world busy => ?_) (flushFullSegments_shelf _)
  obtain ⟨held, rfl⟩ := busy
  exact ⟨⟨tables, held.shelf⟩, tables, held.shelf.withWriter _, held.ready.extended admitted⟩

theorem flushPending_shelf : ShelfTriple sizeOf sessionId streamId (Idle sizeOf sessionId streamId)
    flushPending (orIdle sizeOf sessionId streamId fun _ => Idle sizeOf sessionId streamId) := by
  refine shelf_bind requireActive_idle fun _ => readWriter_idle fun tables writer => ?_
  split
  · exact .finish steady_idle fun _ => Busy.idle
  · refine shelf_bind (commitSegment_shelf (List.append_nil writer.buffer).symm) fun _ => ?_
    have returned : ShelfTriple sizeOf sessionId streamId (Idle sizeOf sessionId streamId) (pure ())
        (orIdle sizeOf sessionId streamId fun _ => Idle sizeOf sessionId streamId) :=
      .finish steady_idle fun _ idle => idle
    exact dropCommitted_shelf (fun _ => rfl) returned

private theorem commitCompleted_shelf : ShelfTriple sizeOf sessionId streamId (Idle sizeOf sessionId streamId)
    commitCompleted (orIdle sizeOf sessionId streamId fun _ => Idle sizeOf sessionId streamId) := by
  refine shelf_bind requireActive_idle fun _ => ?_
  refine shelf_blind steady_idle (fun _ idle => idle) (fun _ => rfl) (fun _ _ => rfl) fun endedAt => ?_
  refine readWriter_idle fun tables writer => shelf_made (fun _ => Busy.idle) fun completed built => ?_
  have same := DataSession.make_row built
  have advanced : ShelfTriple sizeOf sessionId streamId (Busy sizeOf sessionId streamId tables writer)
      (advanceOrFail completed)
        (orIdle sizeOf sessionId streamId fun _ => Busy sizeOf sessionId streamId tables writer) := by
    refine .catching Aside.refl advance_busy (fun _ => ⟨steady_busy, fun _ busy => busy⟩) fun error => ?_
    split
    · refine shelf_bind (Program.Triple.consequence markFailed_idle (fun _ => Busy.idle) fun _ _ reached => reached)
        fun _ => ?_
      exact shelf_raise fun _ idle => idle
    · exact shelf_raise fun _ => Busy.idle
  refine shelf_bind advanced fun won => ?_
  split
  · exact shelf_assign (by rw [same]) (by rw [same]) (by rw [same]) (.finish steady_idle fun _ idle => idle)
  · refine shelf_bind (Program.Triple.consequence markFailed_idle (fun _ => Busy.idle) fun _ _ reached => reached)
      fun _ => ?_
    exact shelf_raise fun _ idle => idle

private theorem fail_shelf : ShelfTriple sizeOf sessionId streamId (Idle sizeOf sessionId streamId)
    Data.fail (orIdle sizeOf sessionId streamId fun _ => Idle sizeOf sessionId streamId) := by
  have steady : Steady sessionId streamId (Idle sizeOf sessionId streamId) := steady_idle
  refine readWriter_idle fun tables writer => ?_
  split
  · refine shelf_modify steady_busy steady (fun world busy => ?_) ?_
    · obtain ⟨held, rfl⟩ := busy
      refine ⟨⟨tables, held.shelf⟩, tables, held.shelf.withWriter _, ?_⟩
      have registered := List.sublist_append_left (tableFrames tables) world.writer.buffer
      refine { held.ready with pending := ?_, behind := ?_ }
      · rw [Writer.withBuffer, List.append_nil]
        exact held.ready.pending.sublist registered
      · intro frame member
        rw [Writer.withBuffer, List.append_nil] at member
        exact held.ready.behind frame (registered.subset member)
    · exact shelf_bind markFailed_idle fun _ => .finish steady_idle fun _ idle => idle
  · exact .finish steady_idle fun _ => Busy.idle

private theorem discarding_shelf {Value : Type} {program : DataProgram Value}
    (triple : ShelfTriple sizeOf sessionId streamId (Idle sizeOf sessionId streamId) program
      (orIdle sizeOf sessionId streamId fun _ => Idle sizeOf sessionId streamId)) :
    ShelfTriple sizeOf sessionId streamId (Idle sizeOf sessionId streamId) (discarding program)
      (orIdle sizeOf sessionId streamId fun _ => Idle sizeOf sessionId streamId) := by
  refine .andThen Aside.refl triple fun result => ?_
  cases result with
  | ok value => exact .finish steady_idle fun _ idle => idle
  | error error => exact .finish steady_idle fun _ idle => idle

/-- Every call on the writer, whatever fails in it. -/
theorem program_shelf (call : WriterCall) : ShelfTriple sizeOf sessionId streamId (Idle sizeOf sessionId streamId)
    call.program fun _ => Idle sizeOf sessionId streamId := by
  have kept : ShelfTriple sizeOf sessionId streamId (Idle sizeOf sessionId streamId) call.program
      (orIdle sizeOf sessionId streamId fun _ => Idle sizeOf sessionId streamId) := by
    cases call with
    | append batch => exact append_shelf batch
    | flushPending => exact flushPending_shelf
    | commitCompleted => exact discarding_shelf commitCompleted_shelf
    | fail => exact discarding_shelf fail_shelf
  refine kept.consequence (fun _ idle => idle) fun result _ reached => ?_
  cases result with
  | ok value => exact reached
  | error error => exact reached

end Calls

section Runs

variable {sizeOf : StoredFile → Nat} {sessionId : Uuid} {streamId : String} {tables : List SegmentTable}
variable {world : World} {state next : Sharing} {turn : Turn} {output : Unit} {trace : List (Turn × Unit)}

theorem perform_aside {request : DataEffect} {choice : Choice} (stands : bystands request) :
    Aside sessionId streamId world (perform request choice world).1 := by
  unfold perform
  split
  · cases request <;> first | exact stands.elim | exact Aside.refl _
  cases request with
  | failActiveSession named moment => exact ⟨rfl, rfl, rfl, fun listed => listed.advance (by simp)⟩
  | markSessionInterrupted named moment =>
    exact ⟨rfl, rfl, rfl, fun listed => listed.advance fun _ => Option.some_ne_none moment⟩
  | utcNow => exact Aside.refl _
  | listSessionsInState state => exact Aside.refl _
  | readSession named => exact Aside.refl _
  | _ => exact stands.elim

/-- The file system answers the writer truly. -/
def Honest (sizeOf : StoredFile → Nat) (state : Sharing) (turn : Turn) : Prop :=
  match turn, state.writer with
  | .write choice, .perform request _ => measured sizeOf state.world request choice
  | _, _ => True

/-- The registered tables are on their shelf, and the call in progress keeps them there. -/
structure Attended (sizeOf : StoredFile → Nat) (sessionId : Uuid) (streamId : String) (state : Sharing) : Prop where
  shelf : ∃ tables, Shelf sizeOf sessionId streamId tables state.world
  writer : Program.Safe perform (measured sizeOf) (Aside sessionId streamId)
    (fun before _ after => Grown sizeOf sessionId streamId before after) (fun _ => Idle sizeOf sessionId streamId)
    state.writer state.world
  others : ∀ program ∈ state.others, Bystands program

theorem Grown.of_same {after : World} (shelf : Shelf sizeOf sessionId streamId tables world)
    (same : Shelf sizeOf sessionId streamId tables after) : Grown sizeOf sessionId streamId world after :=
  ⟨tables, [], shelf, by rw [List.append_nil]; exact same⟩

theorem Grown.shelf {after : World} (grown : Grown sizeOf sessionId streamId world after) :
    ∃ tables, Shelf sizeOf sessionId streamId tables after := by
  obtain ⟨tables, more, _, shelf⟩ := grown
  exact ⟨tables ++ more, shelf⟩

/-- One turn leaves the registered tables where they are, and may add to them. -/
theorem Attended.step (attended : Attended sizeOf sessionId streamId state) (honest : Honest sizeOf state turn)
    (moved : state.step turn = some (next, output)) :
    Attended sizeOf sessionId streamId next ∧ Grown sizeOf sessionId streamId state.world next.world := by
  obtain ⟨⟨tables, shelf⟩, safe, others⟩ := attended
  cases turn with
  | call call =>
    simp only [Sharing.step] at moved
    split at moved
    · rename_i result finished
      obtain ⟨rfl, rfl⟩ := Prod.mk.inj (Option.some.inj moved)
      rw [finished] at safe
      exact ⟨⟨⟨tables, shelf⟩, program_shelf call _ (safe.finished Aside.refl), others⟩, .of_same shelf shelf⟩
    · cases moved
  | write choice =>
    simp only [Sharing.step, Option.map_eq_some_iff] at moved
    obtain ⟨⟨⟨rest, world⟩, request⟩, progressed, same⟩ := moved
    obtain ⟨rfl, rfl⟩ := Prod.mk.inj same
    have told : measured sizeOf state.world request choice := by
      cases running : state.writer with
      | finish result =>
        rw [running] at progressed
        cases progressed
      | perform asked continues =>
        rw [running] at progressed
        simp only [Honest, running] at honest
        simp only [Program.step, Option.some.injEq, Prod.mk.injEq] at progressed
        rw [← progressed.2]
        exact honest
    obtain ⟨grown, after⟩ := safe.stepped Aside.refl progressed told
    exact ⟨⟨grown.shelf, after, others⟩, grown⟩
  | intervene call =>
    obtain ⟨rfl, rfl⟩ := Prod.mk.inj (Option.some.inj moved)
    refine ⟨⟨⟨tables, shelf⟩, safe, fun program member => ?_⟩, .of_same shelf shelf⟩
    rcases List.mem_append.mp member with earlier | added
    · exact others program earlier
    · rw [List.mem_singleton.mp added]
      exact call.program_bystands
  | other position choice =>
    simp only [Sharing.step, Option.bind_eq_bind, Option.bind_eq_some_iff] at moved
    obtain ⟨running, found, ⟨⟨rest, world⟩, request⟩, progressed, same⟩ := moved
    obtain ⟨rfl, rfl⟩ := Prod.mk.inj (Option.some.inj same)
    have conforms := others running (List.mem_of_getElem? found)
    cases running with
    | finish result => cases progressed
    | perform asked continues =>
      simp only [Program.step, Option.some.injEq, Prod.mk.injEq] at progressed
      obtain ⟨⟨rfl, rfl⟩, rfl⟩ := progressed
      have aside : Aside sessionId streamId state.world (perform asked choice state.world).1 :=
        perform_aside conforms.1
      have same := shelf.aside aside
      refine ⟨⟨⟨tables, same⟩, safe.interfere (fun _ _ _ => Aside.trans) aside, fun program member => ?_⟩,
        .of_same shelf same⟩
      rcases List.mem_or_eq_of_mem_set member with before | rfl
      · exact others program before
      · exact conforms.2 _ trivial

/-- A session that was just started has registered nothing. -/
theorem started_attended (started : Started sessionId world) :
    Attended sizeOf sessionId world.writer.session.streamId (.opened world) := by
  have listed : Listed sessionId world.writer.session.streamId world.database :=
    ⟨_, started.row, world.writer.session.valid, rfl⟩
  have segments : sessionSegments sessionId world.database = [] :=
    List.filter_eq_nil_iff.mpr fun segment member same => started.unsegmented segment member (of_decide_eq_true same)
  have shelf : Shelf sizeOf sessionId world.writer.session.streamId [] world :=
    ⟨rfl, by rw [segments]; exact .nil, listed, .nil⟩
  have named : world.writer.session.sessionId = sessionId := sessionRow_key started.row
  have count : world.writer.session.segmentCount = 0 := by
    obtain ⟨_, _, _, fresh⟩ := started.fresh
    rw [fresh]
    rfl
  have buffer : world.writer.buffer = [] := by rw [started.writer]; rfl
  have idle : Idle sizeOf sessionId world.writer.session.streamId world := by
    refine ⟨[], shelf, named, rfl, count, ?_, ?_⟩
    · rw [buffer]
      exact .nil
    · rw [buffer]
      simp [tableFrames]
  refine ⟨⟨[], shelf⟩, fun current moved => steady_idle _ _ moved idle, fun program member => ?_⟩
  cases member

end Runs

end Shelving

end CanX.Data
