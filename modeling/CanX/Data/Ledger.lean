import CanX.Data.Completion

/-! What a writer has accepted, registered and still buffers. `Ledger` says that the
registered segments followed by the frames not yet registered are the accepted frames;
every call on the writer keeps it or loses the session. -/

namespace CanX.Data

open Domain Storage Transition

variable {sessionId : Uuid} {world : World} {accepted : List Frame}

/-! The order of accepted frames. -/

/-- Sequences ascend and timestamps do not descend. -/
def inOrder (first second : Frame) : Prop :=
  first.sequence < second.sequence ∧ first.normalizedTimestamp ≤ second.normalizedTimestamp

theorem inOrder_trans {first second third : Frame} (left : inOrder first second)
    (right : inOrder second third) : inOrder first third :=
  ⟨left.1.trans right.1, Rat.le_trans left.2 right.2⟩

theorem pairwise_of_descends {frames : List Frame} (ascending : descends frames = false) :
    frames.Pairwise (fun first second => first.normalizedTimestamp ≤ second.normalizedTimestamp) := by
  induction frames with
  | nil => exact .nil
  | cons first rest ih =>
    cases rest with
    | nil => exact List.pairwise_singleton _ _
    | cons second rest =>
      simp only [descends, Bool.or_eq_false_iff, decide_eq_false_iff_not, Rat.not_lt] at ascending
      have later := ih ascending.2
      refine List.pairwise_cons.mpr ⟨fun frame member => ?_, later⟩
      rcases List.mem_cons.mp member with rfl | beyond
      · exact ascending.1
      · exact Rat.le_trans ascending.1 ((List.pairwise_cons.mp later).1 frame beyond)

theorem FrameBatch.pairwise_sequence (batch : FrameBatch) :
    batch.frames.Pairwise (fun first second => first.sequence < second.sequence) := by
  have ascending : (batch.frames.map Frame.sequence).Pairwise (· < ·) := by
    rw [batch.contiguous]
    exact List.pairwise_lt_range' _ Nat.one_pos
  exact List.pairwise_map.mp ascending

/-- The writer's markers are those of the last accepted frame. -/
structure Marked (writer : Writer) (accepted : List Frame) : Prop where
  ordered : accepted.Pairwise inOrder
  lastSequence : writer.lastAppendedSequence = accepted.getLast?.map Frame.sequence
  lastTimestamp : writer.lastAppendedTimestamp = accepted.getLast?.map Frame.normalizedTimestamp

theorem checks_ok {first second : Except DataError Unit} :
    (first >>= fun _ => second) = .ok () ↔ first = .ok () ∧ second = .ok () := by
  cases first with
  | ok value => simp [bind, Except.bind]
  | error error => simp [bind, Except.bind]

/-- What an admitted batch has passed. -/
theorem Writer.admits_ok {writer : Writer} {batch : FrameBatch}
    (admitted : writer.admits batch = .ok ()) :
    requireContiguousSequence writer batch = .ok () ∧ descends batch.frames = false ∧
      ∀ previous, writer.lastAppendedTimestamp = some previous →
        previous ≤ batch.firstFrame.normalizedTimestamp := by
  simp only [Writer.admits, checks_ok, requireOrderedTimestamps] at admitted
  obtain ⟨-, contiguous, ascending, timestamps⟩ := admitted
  refine ⟨contiguous, Bool.eq_false_iff.mpr (refuseIf_ok.mp ascending), fun previous marked => ?_⟩
  rw [marked] at timestamps
  exact Rat.not_lt.mp (refuseIf_ok.mp timestamps)

/-- Every accepted frame is in order before the first frame of an admitted batch. -/
theorem Marked.before_batch {writer : Writer} {accepted : List Frame} {batch : FrameBatch}
    (marked : Marked writer accepted) (admitted : writer.admits batch = .ok ())
    {frame : Frame} (member : frame ∈ accepted) : inOrder frame batch.firstFrame := by
  obtain ⟨contiguous, -, timestamps⟩ := writer.admits_ok admitted
  obtain ⟨earlier, last, rfl⟩ : ∃ earlier last, accepted = earlier ++ [last] := by
    rcases List.eq_nil_or_concat accepted with rfl | ⟨earlier, last, rfl⟩
    · cases member
    · exact ⟨earlier, last, List.concat_eq_append⟩
  have lastSequence := marked.lastSequence
  have lastTimestamp := marked.lastTimestamp
  rw [List.getLast?_concat, Option.map_some] at lastSequence lastTimestamp
  have next : inOrder last batch.firstFrame := by
    refine ⟨?_, timestamps _ lastTimestamp⟩
    simp only [requireContiguousSequence, lastSequence, refuseIf_ok, not_not] at contiguous
    simp only [FrameBatch.firstSequence] at contiguous
    omega
  rcases List.mem_append.mp member with before | same
  · have ordered := (List.pairwise_append.mp marked.ordered).2.2
    exact inOrder_trans (ordered frame before last (List.mem_singleton_self last)) next
  · rw [List.mem_singleton.mp same]
    exact next

theorem FrameBatch.pairwise_inOrder {batch : FrameBatch} (ascending : descends batch.frames = false) :
    batch.frames.Pairwise inOrder :=
  (FrameBatch.pairwise_sequence batch).and (pairwise_of_descends ascending)

/-- A frame in order before the first of an ordered list is in order before all of it. -/
theorem inOrder_of_head {frame : Frame} {frames : List Frame} (nonempty : frames ≠ [])
    (before : inOrder frame (frames.head nonempty)) (ordered : frames.Pairwise inOrder)
    {later : Frame} (member : later ∈ frames) : inOrder frame later := by
  cases frames with
  | nil => cases member
  | cons first rest =>
    rcases List.mem_cons.mp member with rfl | beyond
    · exact before
    · exact inOrder_trans before ((List.pairwise_cons.mp ordered).1 later beyond)

theorem Marked.extended {writer : Writer} {accepted : List Frame} {batch : FrameBatch}
    (marked : Marked writer accepted) (admitted : writer.admits batch = .ok ()) :
    Marked (writer.extended batch) (accepted ++ batch.frames) := by
  have inside : batch.frames.Pairwise inOrder :=
    FrameBatch.pairwise_inOrder (writer.admits_ok admitted).2.1
  have last : (accepted ++ batch.frames).getLast? = some batch.lastFrame := by
    rw [List.getLast?_append, List.getLast?_eq_some_getLast batch.nonempty]
    rfl
  refine ⟨List.pairwise_append.mpr ⟨marked.ordered, inside, ?_⟩, ?_, ?_⟩
  · intro frame member later inBatch
    exact inOrder_of_head batch.nonempty (marked.before_batch admitted member) inside inBatch
  · rw [last]
    rfl
  · rw [last]
    rfl

/-! What is registered. -/

def sessionSegments (sessionId : Uuid) (database : Database) : List SegmentRow :=
  database.segments.filter (·.sessionId = sessionId)

def segmentKey (row : SegmentRow) : Nat × String := (row.segmentIndex, row.relativePath)

/-- The segments of a session are numbered from 0 and their files hold `chunks`. -/
structure Registered (sessionId : Uuid) (chunks : List (List Frame)) (world : World) : Prop where
  keys : (sessionSegments sessionId world.database).map segmentKey =
    (List.range chunks.length).map fun index => (index, segmentRelativePath sessionId index)
  files : ∀ index frames, chunks[index]? = some frames → ∃ streamId,
    world.files (segmentRelativePath sessionId index) =
      some (.table ⟨sessionId, streamId, index, frames⟩)

/-- The accepted frames are those of the registered segments followed by `rest`. -/
structure Ledger (sessionId : Uuid) (accepted rest : List Frame) (world : World) : Prop where
  opened : Open sessionId world
  active : world.writer.session.state = .active
  marked : Marked world.writer accepted
  row : ∃ row, sessionRow sessionId world.database = some row ∧
    row.segmentCount = world.writer.session.segmentCount
  books : ∃ chunks : List (List Frame), Registered sessionId chunks world ∧
    chunks.flatten ++ rest = accepted ∧
    world.writer.session.segmentCount = chunks.length ∧
    world.writer.session.firstSequence = chunks.flatten.head?.map Frame.sequence ∧
    world.writer.session.firstTimestamp = chunks.flatten.head?.map Frame.normalizedTimestamp

/-- Closed books: everything accepted is in the registered segments. Unlike a ledger it
says nothing of the session's state. -/
structure Settled (sessionId : Uuid) (accepted : List Frame) (world : World) : Prop where
  drained : world.writer.buffer = []
  books : ∃ chunks : List (List Frame), Registered sessionId chunks world ∧
    chunks.flatten = accepted ∧
    ∃ row, sessionRow sessionId world.database = some row ∧ row.segmentCount = chunks.length

def framesAt (world : World) (path : String) : Option (List Frame) :=
  match world.files path with
  | some (.table table) => some table.frames
  | _ => none

/-- The frames of a session, read back from its segments in index order. -/
def recordedFrames (sessionId : Uuid) (world : World) : Option (List Frame) :=
  ((segmentRows sessionId world.database).mapM fun row => framesAt world row.relativePath).map
    List.flatten

/-- Segments 0 to `segment_count` - 1 hold the accepted frames and nothing is buffered. -/
structure Complete (sessionId : Uuid) (accepted : List Frame) (world : World) : Prop where
  indices : ∃ row, sessionRow sessionId world.database = some row ∧
    (segmentRows sessionId world.database).map SegmentRow.segmentIndex =
      List.range row.segmentCount
  frames : recordedFrames sessionId world = some accepted
  drained : world.writer.buffer = []

theorem Registered.indices {chunks : List (List Frame)}
    (registered : Registered sessionId chunks world) :
    (sessionSegments sessionId world.database).map SegmentRow.segmentIndex =
      List.range chunks.length := by
  have keys := congrArg (List.map Prod.fst) registered.keys
  simpa [List.map_map, Function.comp_def, segmentKey] using keys

/-- Registered in index order, the rows are listed as they were appended. -/
theorem Registered.segmentRows {chunks : List (List Frame)}
    (registered : Registered sessionId chunks world) :
    segmentRows sessionId world.database = sessionSegments sessionId world.database := by
  have ascending : ((sessionSegments sessionId world.database).map SegmentRow.segmentIndex).Pairwise
      (· ≤ ·) := by
    rw [registered.indices]
    exact List.pairwise_le_range
  exact List.Pairwise.insertionSort_eq (List.pairwise_map.mp ascending)

theorem mapM_some {chunks : List (List Frame)} {rows : List SegmentRow}
    {read : SegmentRow → Option (List Frame)} (found : rows.map read = chunks.map some) :
    rows.mapM read = some chunks := by
  induction rows generalizing chunks with
  | nil =>
    cases chunks with
    | nil => rfl
    | cons chunk chunks => cases found
  | cons row rows ih =>
    cases chunks with
    | nil => cases found
    | cons chunk chunks =>
      obtain ⟨first, others⟩ := List.cons.inj found
      simp [first, ih others]

theorem Registered.frames {chunks : List (List Frame)}
    (registered : Registered sessionId chunks world) :
    (sessionSegments sessionId world.database).map (fun row => framesAt world row.relativePath) =
      chunks.map some := by
  have keys := congrArg (List.map fun key => framesAt world key.2) registered.keys
  simp only [List.map_map, Function.comp_def, segmentKey] at keys
  rw [keys]
  apply List.ext_getElem
  · simp
  · intro index _ bound
    rw [List.length_map] at bound
    obtain ⟨streamId, stored⟩ :=
      registered.files index chunks[index] (List.getElem?_eq_getElem bound)
    simp [framesAt, stored]

theorem Settled.complete (settled : Settled sessionId accepted world) :
    Complete sessionId accepted world := by
  obtain ⟨chunks, registered, content, row, found, count⟩ := settled.books
  refine ⟨⟨row, found, ?_⟩, ?_, settled.drained⟩
  · rw [registered.segmentRows, registered.indices, count]
  · rw [recordedFrames, registered.segmentRows, mapM_some registered.frames, Option.map_some, content]

/-- The effects of a call that leaves the books alone. -/
def keepsBooks : DataEffect → Prop
  | .readWriter | .utcNow | .advanceSessionState _ => True
  | .modifyWriter change => ∀ writer : Writer, writer.buffer = [] → (change writer).buffer = []
  | _ => False

abbrev KeepsBooks {Value : Type} (program : DataProgram Value) : Prop :=
  Program.Conforms keepsBooks anyAnswer program

theorem perform_settled {request : DataEffect} (choice : Choice)
    (settled : Settled sessionId accepted world) (keeps : keepsBooks request) :
    Settled sessionId accepted (perform request choice world).1 := by
  obtain ⟨drained, chunks, registered, content, row, found, count⟩ := settled
  have books : Registered sessionId chunks world := registered
  unfold perform
  split
  · cases request <;> first | exact keeps.elim | exact ⟨drained, chunks, books, content, row, found, count⟩
  cases request with
  | modifyWriter change =>
    exact ⟨keeps world.writer drained, chunks, ⟨books.keys, books.files⟩, content, row, found, count⟩
  | advanceSessionState session =>
    have moved := sessionRow_sessionAdvance sessionId session.sessionId session.state
      session.endedAt session.updatedAt world.database
    rw [found, Option.map_some] at moved
    refine ⟨drained, chunks, ⟨books.keys, books.files⟩, content, _, moved, ?_⟩
    split
    · exact count
    · exact count
  | readWriter => exact ⟨drained, chunks, books, content, row, found, count⟩
  | utcNow => exact ⟨drained, chunks, books, content, row, found, count⟩
  | _ => exact keeps.elim

private theorem markFailed_keepsBooks : KeepsBooks markFailed :=
  .effect_bind trivial fun _ _ => .effect_bind trivial fun _ _ => .bind (made_conforms _) fun _ =>
    .effect_bind (fun _ drained => drained) fun _ _ =>
    .bind (.catching (.effect trivial) fun _ => by split <;> trivial) fun _ => trivial

private theorem requireActive_keepsBooks : KeepsBooks requireActive :=
  .effect_bind trivial fun _ _ => by
    split <;> trivial

theorem commitCompleted_keepsBooks : KeepsBooks commitCompleted := by
  refine .bind requireActive_keepsBooks fun _ => .effect_bind trivial fun _ _ =>
    .effect_bind trivial fun _ _ => .bind (made_conforms _) fun completed => ?_
  refine .bind (.catching (.effect trivial) fun _ => ?_) fun advanced => ?_
  · split
    · exact .bind markFailed_keepsBooks fun _ => trivial
    · trivial
  · split
    · exact .effect_bind (fun _ drained => drained) fun _ _ => trivial
    · exact .bind markFailed_keepsBooks fun _ => trivial

theorem fail_keepsBooks : KeepsBooks Data.fail :=
  .effect_bind trivial fun _ _ => by
    split
    · exact .effect_bind (fun _ _ => rfl) fun _ _ => .bind markFailed_keepsBooks fun _ => trivial
    · trivial

/-- A session that nothing will complete any more: its writer knows that it ended. -/
def Dead (sessionId : Uuid) (world : World) : Prop :=
  Open sessionId world ∧ world.writer.session.state ≠ .active

/-- What an exception out of a call leaves. During the final flush a `DataError` may
leave the writer active, since the recorder then takes the failure down itself. -/
def Lost (sessionId : Uuid) (final : Bool) (error : PyException) (world : World) : Prop :=
  Open sessionId world ∧
    (world.writer.session.state ≠ .active ∨ final = true ∧ error.isData = true)

theorem Dead.lost (dead : Dead sessionId world) (final : Bool) (error : PyException) :
    Lost sessionId final error world :=
  ⟨dead.1, .inl dead.2⟩

/-- `except DataError` around `except (ArrowException, OSError)`. -/
def PyException.isWriteFailure : PyException → Bool
  | .data _ | .os | .arrow => true
  | _ => false

/-- A fault that the code around the effect turns into a failed session. -/
def harmless (final : Bool) (request : DataEffect) (choice : Choice) : Prop :=
  match request with
  | .utcNow | .uuid4 | .resolveWithinRoot _ =>
    ∀ error, choice.fault = some error → final = true ∧ error.isData = true
  | .makeParent _ | .framesToTable _ | .writeTable _ _ | .replaceFile _ _ =>
    ∀ error, choice.fault = some error → error.isWriteFailure = true
  | .fileSize _ =>
    (∀ error, choice.fault = some error → error.isWriteFailure = true) ∧
      (final = false → choice.byteSize ≠ 0)
  | .removeFile _ =>
    ∀ error, choice.fault = some error → error = .os ∨ final = true ∧ error.isData = true
  | .registerSegment segment session =>
    (∀ error, choice.fault = some error → error.isStorage = true) ∧
      (choice.fault = none → bindable segment.integers = true ∧ bindable session.integers = true)
  | _ => True

abbrev LedgerTriple (final : Bool) {Value : Type} (pre : World → Prop)
    (program : DataProgram Value) (post : Except PyException Value → World → Prop) : Prop :=
  Program.Triple perform (fun _ => harmless final) Eq (fun _ _ _ => True) pre program post

theorem stable_eq (assertion : World → Prop) : Program.Stable Eq assertion :=
  fun _ _ same holds => same ▸ holds

variable {final : Bool}

/-- The rule of one effect: it raises and leaves its trace, or it acts. -/
theorem ask_triple {request : DataEffect} {pre : World → Prop}
    {post : Except PyException request.Answer → World → Prop}
    (raised : ∀ world choice error, pre world → harmless final request choice →
      choice.fault = some error → request.inMemory = false →
      post (.error error) (disturbed request world))
    (acted : ∀ world choice, pre world → harmless final request choice →
      post (act request choice world).2 (act request choice world).1) :
    LedgerTriple final pre (ask request) post := by
  refine .effect (stable_eq _) (fun _ => stable_eq _) fun world choice holds admitted => ⟨trivial, ?_⟩
  unfold perform
  split
  · rename_i error faulted
    by_cases memory : request.inMemory = true
    · simp [memory] at faulted
    · simp only [memory, Bool.false_eq_true, if_false] at faulted
      exact raised world choice error holds admitted faulted (Bool.eq_false_iff.mpr memory)
  · exact acted world choice holds admitted

theorem ledger_bind {Value Other : Type} {program : DataProgram Value}
    {continuation : Value → DataProgram Other} {pre : World → Prop}
    {mid : Except PyException Value → World → Prop}
    {post : Except PyException Other → World → Prop}
    (first : LedgerTriple final pre program mid)
    (second : ∀ value, LedgerTriple final (mid (.ok value)) (continuation value) post)
    (raised : ∀ error world, mid (.error error) world → post (.error error) world) :
    LedgerTriple final pre (program >>= continuation) post :=
  .bind (fun _ => rfl) first second fun error => ⟨stable_eq _, raised error⟩

theorem ledger_catching {Value : Type} {program : DataProgram Value}
    {handler : PyException → DataProgram Value} {pre : World → Prop}
    {mid post : Except PyException Value → World → Prop}
    (first : LedgerTriple final pre program mid)
    (returned : ∀ value world, mid (.ok value) world → post (.ok value) world)
    (second : ∀ error, LedgerTriple final (mid (.error error)) (handler error) post) :
    LedgerTriple final pre (program.catching handler) post :=
  .catching (fun _ => rfl) first (fun value => ⟨stable_eq _, returned value⟩) second

theorem ledger_finish {Value : Type} {result : Except PyException Value} {pre : World → Prop}
    {post : Except PyException Value → World → Prop}
    (implied : ∀ world, pre world → post result world) :
    LedgerTriple final pre (Program.finish result) post :=
  .finish (stable_eq _) implied

/-- The usual postcondition of a call on the writer. -/
def orLost (sessionId : Uuid) (final : Bool) {Value : Type} (kept : Value → World → Prop) :
    Except PyException Value → World → Prop
  | .ok value => kept value
  | .error error => Lost sessionId final error

/-- An unguarded effect that has no trace. -/
theorem quiet_triple {request : DataEffect} {pre : World → Prop}
    (opened : ∀ world, pre world → Open sessionId world)
    (traceless : ∀ world, disturbed request world = world)
    (faults : ∀ choice, harmless final request choice → ∀ error, choice.fault = some error →
      final = true ∧ error.isData = true)
    (acts : ∀ choice world, ∃ value, act request choice world = (world, .ok value)) :
    LedgerTriple final pre (ask request) (orLost sessionId final fun _ => pre) := by
  refine ask_triple (fun world choice error holds admitted faulted _ => ?_)
    fun world choice holds _ => ?_
  · rw [traceless]
    exact ⟨opened world holds, .inr (faults choice admitted error faulted)⟩
  · obtain ⟨value, acted⟩ := acts choice world
    rw [acted]
    exact holds

theorem utcNow_triple {pre : World → Prop} (opened : ∀ world, pre world → Open sessionId world) :
    LedgerTriple final pre (ask .utcNow) (orLost sessionId final fun _ => pre) :=
  quiet_triple opened (fun _ => rfl) (fun _ admitted => admitted) fun choice _ => ⟨choice.now, rfl⟩

theorem uuid4_triple {pre : World → Prop} (opened : ∀ world, pre world → Open sessionId world) :
    LedgerTriple final pre (ask .uuid4) (orLost sessionId final fun _ => pre) :=
  quiet_triple opened (fun _ => rfl) (fun _ admitted => admitted) fun choice _ => ⟨choice.uuid, rfl⟩

/-- The writer's attributes are read without a fault. -/
theorem readWriter_ledger {pre : World → Prop} :
    LedgerTriple final pre (ask .readWriter) fun result world =>
      pre world ∧ result = .ok world.writer :=
  ask_triple (fun _ _ _ _ _ _ memory => by cases memory) fun _ _ holds _ => ⟨holds, rfl⟩

theorem modifyWriter_ledger {pre post : World → Prop} {change : Writer → Writer}
    (changed : ∀ world, pre world → post { world with writer := change world.writer }) :
    LedgerTriple final pre (ask (.modifyWriter change)) (orLost sessionId final fun _ => post) :=
  ask_triple (fun _ _ _ _ _ _ memory => by cases memory) fun world _ holds _ => changed world holds

theorem removeQuietly_triple {path : String} {pre : World → Prop}
    (opened : ∀ world, pre world → Open sessionId world)
    (kept : ∀ world, pre world → pre (world.withFile path none)) :
    LedgerTriple final pre (removeQuietly path) (orLost sessionId final fun _ => pre) := by
  have removed : LedgerTriple final pre (ask (.removeFile path)) fun result world =>
      pre world ∧ ∀ error, result = .error error →
        error = .os ∨ final = true ∧ error.isData = true := by
    refine ask_triple (fun world choice error holds admitted faulted _ => ?_)
      fun world choice holds _ => ?_
    · exact ⟨holds, fun raised same => by cases same; exact admitted error faulted⟩
    · simp only [act]
      split
      · exact ⟨kept world holds, fun _ same => by cases same⟩
      · exact ⟨holds, fun error same => by cases same; exact .inl rfl⟩
  refine ledger_catching removed (fun _ _ reached => reached.1) fun error => ?_
  cases error with
  | os => exact ledger_finish fun _ reached => reached.1
  | _ =>
    refine ledger_finish fun world reached => ⟨opened world reached.1, ?_⟩
    rcases reached.2 _ rfl with same | tolerated
    · cases same
    · exact .inr tolerated

/-- Failing a session needs nothing that its row does not already satisfy. -/
theorem check_failed {row : SessionRow} {updatedAt : DateTime} (passed : row.check = .ok ()) :
    { row with state := .failed, updatedAt }.check = .ok () := by
  simp only [SessionRow.check, checks_ok, refuseIf_ok] at passed ⊢
  refine ⟨passed.1, by simp, passed.2.2⟩

private theorem advance_dead {failed : DataSession} (uncompleted : Uncompleted sessionId failed) :
    LedgerTriple final (Dead sessionId) (suppressStorage (ask (.advanceSessionState failed)))
      fun _ => Dead sessionId := by
  have advanced : LedgerTriple final (Dead sessionId) (ask (.advanceSessionState failed))
      fun _ => Dead sessionId := by
    refine .effect (stable_eq _) (fun _ => stable_eq _) fun world choice dead _ => ⟨trivial, ?_⟩
    have keeps : keepsOpen sessionId (.advanceSessionState failed) := uncompleted
    refine ⟨(perform_open _ dead.1 keeps).1, ?_⟩
    have same : (perform (.advanceSessionState failed) choice world).1.writer = world.writer := by
      unfold perform
      split <;> rfl
    rw [same]
    exact dead.2
  refine ledger_catching advanced (fun _ _ dead => dead) fun error => ?_
  split <;> exact ledger_finish fun _ dead => dead

theorem markFailed_triple :
    LedgerTriple final (Open sessionId) markFailed
      (orLost sessionId final fun _ => Dead sessionId) := by
  refine ledger_bind readWriter_ledger (fun writer => ?_) fun _ _ reached => by cases reached.2
  refine ledger_bind (utcNow_triple fun _ reached => reached.1) (fun updatedAt => ?_)
    fun _ _ lost => lost
  rw [DataSession.make_of_check (check_failed writer.session.valid), made_ok_bind]
  generalize failing : (⟨_, check_failed writer.session.valid⟩ : DataSession) = failed
  have state : failed.state = .failed := by rw [← failing]
  have named : failed.sessionId = writer.session.sessionId := by rw [← failing]
  intro world reached
  have writes : Except.ok writer = Except.ok world.writer := reached.2
  have uncompleted : Uncompleted sessionId failed := by
    cases writes
    exact ⟨named.trans reached.1.named, by rw [state]; decide⟩
  suffices rest : LedgerTriple final (Open sessionId) _ _ from rest world reached.1
  have assigned : LedgerTriple final (Open sessionId)
      (ask (.modifyWriter (·.withSession failed))) (orLost sessionId final fun _ => Dead sessionId) :=
    modifyWriter_ledger fun _ opened =>
      ⟨⟨uncompleted.1, uncompleted.2, opened.row⟩, fun active => by
        have ended : failed.state = .active := active
        rw [state] at ended
        cases ended⟩
  refine ledger_bind assigned (fun _ => ?_) fun _ _ lost => lost
  exact ledger_bind (advance_dead uncompleted) (fun _ => ledger_finish fun _ dead => dead)
    fun error _ dead => dead.lost final error

theorem perform_dead {request : DataEffect} (choice : Choice) (dead : Dead sessionId world)
    (reads : onlyReads request) : Dead sessionId (perform request choice world).1 ∧
      endedAnswers request (perform request choice world).2 := by
  cases request with
  | readWriter => exact ⟨dead, dead.2⟩
  | _ => exact reads.elim

end CanX.Data
