import CanX.Data.Session

/-! `DataSessionWriter`, and the calls of `DataSessionService` that end a session
from outside its writer. -/

namespace CanX.Data

open Domain Storage Transition

def ask (request : DataEffect) : DataProgram request.Answer := Program.effect request

def raise {Value : Type} (error : PyException) : DataProgram Value := Program.finish (.error error)

/-- Raise what a model constructor refuses. -/
def made {Value : Type} : Except DataError Value → DataProgram Value
  | .ok value => pure value
  | .error error => raise (.data error)

/-- `except (DataError, sqlite3.Error, OSError)`. -/
def PyException.isStorage : PyException → Bool
  | .data _ | .sqlite | .os => true
  | _ => false

/-- `with suppress(OSError): path.unlink()`. -/
def removeQuietly (path : String) : DataProgram Unit :=
  (ask (.removeFile path)).catching fun
    | .os => pure ()
    | error => raise error

def parquetWriteError : PyException :=
  .data ⟨.parquetWrite, "data.parquet_write_failed", "The Parquet segment could not be committed."⟩

def emptySegmentError : PyException :=
  .data ⟨.parquetWrite, "data.parquet_write_failed",
    "A frame segment must hold at least one frame."⟩

/-- The guarded part of `write_segment`. -/
def writeTemporary (path : String) (table : SegmentTable) : DataProgram Nat := do
  ask (.makeParent path)
  let built ← ask (.framesToTable table)
  ask (.writeTable built (temporaryPath path))
  let byteSize ← ask (.fileSize (temporaryPath path))
  ask (.replaceFile (temporaryPath path) path)
  pure byteSize

def writeSegment (path : String) (table : SegmentTable) : DataProgram Nat :=
  if table.frames = [] then raise emptySegmentError
  else (writeTemporary path table).catching fun
    | .arrow | .os => do
      removeQuietly (temporaryPath path)
      raise parquetWriteError
    | error => raise error

def Writer.withSession (writer : Writer) (session : DataSession) : Writer :=
  { writer with session }

def Writer.withBuffer (writer : Writer) (buffer : List Frame) : Writer :=
  { writer with buffer }

def suppressStorage (program : DataProgram Bool) : DataProgram Bool :=
  program.catching fun error => if error.isStorage then pure false else raise error

/-- The in-memory state first; the row only while it is still `ACTIVE`. -/
def markFailed : DataProgram Unit := do
  let writer ← ask .readWriter
  let updatedAt ← ask .utcNow
  let failed ← made (DataSession.make
    { writer.session.toSessionRow with state := .failed, updatedAt })
  ask (.modifyWriter (·.withSession failed))
  let _ ← suppressStorage (ask (.advanceSessionState failed))
  pure ()

def notActive : PyException :=
  .data ⟨.sessionState, "data.session.not_active", "The data session is no longer active."⟩

def requireActive : DataProgram Unit := do
  let writer ← ask .readWriter
  if writer.session.state = .active then pure () else raise notActive

def registrationFailed : PyException :=
  .data ⟨.storage, "data.session.registration_failed",
    "The committed segment could not be registered in the project database."⟩

/-- The row of a segment about to be registered. -/
def segmentRow (session : DataSession) (segmentId : Uuid) (frames : List Frame)
    (first last : Frame) (byteSize : Nat) (createdAt : DateTime) : SegmentRow where
  segmentId
  sessionId := session.sessionId
  segmentIndex := session.segmentCount
  relativePath := segmentRelativePath session.sessionId session.segmentCount
  frameCount := frames.length
  firstSequence := first.sequence
  lastSequence := last.sequence
  firstTimestamp := first.normalizedTimestamp
  lastTimestamp := last.normalizedTimestamp
  byteSize
  createdAt

/-- The session snapshot once a segment is registered. -/
def withSegment (session : DataSession) (frames : List Frame) (first last : Frame)
    (updatedAt : DateTime) : SessionRow :=
  { session.toSessionRow with
    frameCount := session.frameCount + frames.length
    segmentCount := session.segmentCount + 1
    firstSequence := some (session.firstSequence.getD first.sequence)
    lastSequence := some last.sequence
    firstTimestamp := some (session.firstTimestamp.getD first.normalizedTimestamp)
    lastTimestamp := some last.normalizedTimestamp
    updatedAt }

def segmentTable (session : DataSession) (frames : List Frame) : SegmentTable :=
  ⟨session.sessionId, session.streamId, session.segmentCount, frames⟩

/-- `write_segment_file` inside `_commit_segment`: only a `DataError` fails the session. -/
def writeOrFail (target : String) (table : SegmentTable) : DataProgram Nat :=
  (writeSegment target table).catching fun
    | .data error => do
      markFailed
      raise (.data error)
    | error => raise error

def registerOrFail (target : String) (segment : DataSegment) (updated : DataSession) :
    DataProgram Unit :=
  (ask (.registerSegment segment updated)).catching fun error =>
    if error.isStorage then do
      removeQuietly target
      markFailed
      raise registrationFailed
    else raise error

/-- The rest of `_commit_segment` once its frames are known not to be empty. -/
def commitFrames (session : DataSession) (target : String) (frames : List Frame)
    (first last : Frame) : DataProgram Unit := do
  let createdAt ← ask .utcNow
  let byteSize ← writeOrFail target (segmentTable session frames)
  let segmentId ← ask .uuid4
  let segment ← made (DataSegment.make
    (segmentRow session segmentId frames first last byteSize createdAt))
  let updatedAt ← ask .utcNow
  let updated ← made (DataSession.make (withSegment session frames first last updatedAt))
  registerOrFail target segment updated
  ask (.modifyWriter (·.withSession updated))

def commitSegment (frames : List Frame) : DataProgram Unit := do
  let writer ← ask .readWriter
  let session := writer.session
  let target ← ask (.resolveWithinRoot
    (segmentRelativePath session.sessionId session.segmentCount))
  -- an empty tuple has no first frame: IndexError
  match frames.head?, frames.getLast? with
  | some first, some last => commitFrames session target frames first last
  | _, _ => raise .foreign

/-- `while len(buffer) >= max_frames_per_segment`. Every round takes at least one
frame out, so as many rounds as there are buffered frames are enough. -/
def flushFullSegments : Nat → DataProgram Unit
  | 0 => pure ()
  | rounds + 1 => do
    let writer ← ask .readWriter
    if writer.maxFramesPerSegment ≤ writer.buffer.length then do
      commitSegment (writer.buffer.take writer.maxFramesPerSegment)
      ask (.modifyWriter fun writer =>
        writer.withBuffer (writer.buffer.drop writer.maxFramesPerSegment))
      flushFullSegments rounds
    else pure ()

def streamMismatch : DataError :=
  ⟨.streamMismatch, "data.session.stream_mismatch",
    "The batch belongs to a different capture stream than this session."⟩

def sequenceRegression : DataError :=
  ⟨.integrity, "data.integrity.sequence_regression",
    "The batch does not continue this session's sequence."⟩

def timestampRegression (message : String) : DataError :=
  ⟨.integrity, "data.integrity.timestamp_regression", message⟩

/-- Whether some timestamp is below its predecessor. -/
def descends : List Frame → Bool
  | first :: second :: rest =>
    second.normalizedTimestamp < first.normalizedTimestamp || descends (second :: rest)
  | _ => false

def requireContiguousSequence (writer : Writer) (batch : FrameBatch) : Except DataError Unit :=
  match writer.lastAppendedSequence with
  | none => .ok ()
  | some previous => refuseIf (batch.firstSequence ≠ previous + 1) sequenceRegression

def requireOrderedTimestamps (writer : Writer) (batch : FrameBatch) : Except DataError Unit := do
  refuseIf (descends batch.frames) (timestampRegression "The batch timestamps are not in order.")
  match writer.lastAppendedTimestamp with
  | none => .ok ()
  | some previous =>
    refuseIf (batch.firstFrame.normalizedTimestamp < previous)
      (timestampRegression "The batch starts before the last committed frame in this session.")

/-- What `append` checks of a batch once the session is known to be active. -/
def Writer.admits (writer : Writer) (batch : FrameBatch) : Except DataError Unit := do
  refuseIf (batch.streamId ≠ writer.session.streamId) streamMismatch
  requireContiguousSequence writer batch
  requireOrderedTimestamps writer batch

def Writer.extended (writer : Writer) (batch : FrameBatch) : Writer :=
  { writer with
    buffer := writer.buffer ++ batch.frames
    lastAppendedSequence := some batch.lastSequence
    lastAppendedTimestamp := some batch.lastFrame.normalizedTimestamp }

def append (batch : FrameBatch) : DataProgram Unit := do
  requireActive
  let writer ← ask .readWriter
  made (writer.admits batch)
  ask (.modifyWriter (·.extended batch))
  flushFullSegments (writer.buffer.length + batch.frameCount)

def flushPending : DataProgram Unit := do
  requireActive
  let writer ← ask .readWriter
  if writer.buffer = [] then pure ()
  else do
    commitSegment writer.buffer
    ask (.modifyWriter (·.withBuffer []))

def finalizeFailed : PyException :=
  .data ⟨.storage, "data.session.finalize_failed",
    "The completed data session could not be persisted."⟩

def completionRefused : PyException :=
  .data ⟨.sessionState, "data.session.completion_refused",
    "Another writer terminated the data session before it could complete."⟩

/-- The one conditional write that completes a session. -/
def advanceOrFail (completed : DataSession) : DataProgram Bool :=
  (ask (.advanceSessionState completed)).catching fun error =>
    if error.isStorage then do
      markFailed
      raise finalizeFailed
    else raise error

def commitCompleted : DataProgram DataSession := do
  requireActive
  let endedAt ← ask .utcNow
  let writer ← ask .readWriter
  let completed ← made (DataSession.make { writer.session.toSessionRow with
    state := .completed, endedAt := some endedAt, updatedAt := endedAt })
  let advanced ← advanceOrFail completed
  if advanced then do
    ask (.modifyWriter (·.withSession completed))
    pure completed
  else do
    markFailed
    raise completionRefused

def fail : DataProgram Bool := do
  let writer ← ask .readWriter
  if writer.session.state = .active then do
    ask (.modifyWriter (·.withBuffer []))
    markFailed
    pure true
  else pure false

/-- `DataSessionService.fail_active_session`. -/
def serviceFailActiveSession (sessionId : Uuid) : DataProgram Bool := do
  let moment ← ask .utcNow
  ask (.failActiveSession sessionId moment)

def sessionNotFound : PyException :=
  .data ⟨.session, "data.session.not_found",
    "The data session is not registered in this project."⟩

/-- `DataSessionService.get_session`. -/
def serviceGetSession (sessionId : Uuid) : DataProgram DataSession := do
  match ← ask (.readSession sessionId) with
  | some session => pure session
  | none => raise sessionNotFound

def markInterrupted (moment : DateTime) : List DataSession → DataProgram Unit
  | [] => pure ()
  | session :: rest => do
    ask (.markSessionInterrupted session.sessionId moment)
    markInterrupted moment rest

/-- `DataSessionService.recover_incomplete_sessions`: the list is read once. -/
def serviceRecoverIncompleteSessions : DataProgram (List Uuid) := do
  let recoveredAt ← ask .utcNow
  let active ← ask (.listSessionsInState .active)
  markInterrupted recoveredAt active
  pure (active.map (·.sessionId))

/-- A call another thread or process makes on `DataSessionService`. -/
inductive ServiceCall where
  | failActiveSession (sessionId : Uuid)
  | recoverIncompleteSessions

/-- The result of a call is its caller's, its effects are everyone's. -/
def discarding {Value : Type} (program : DataProgram Value) : DataProgram Unit :=
  program.andThen fun result => .finish (result.map fun _ => ())

def ServiceCall.program : ServiceCall → DataProgram Unit
  | failActiveSession sessionId => discarding (serviceFailActiveSession sessionId)
  | recoverIncompleteSessions => discarding serviceRecoverIncompleteSessions

/-- The session `DataSessionService.start` registers and hands to its writer. -/
def initialSession (sessionId projectId : Uuid) (streamId : String) (startedAt : DateTime) :
    SessionRow where
  sessionId
  projectId
  streamId
  state := .active
  startedAt
  endedAt := none
  frameCount := 0
  segmentCount := 0
  firstSequence := none
  lastSequence := none
  firstTimestamp := none
  lastTimestamp := none
  createdAt := startedAt
  updatedAt := startedAt

def initialWriter (session : DataSession) (maxFramesPerSegment : Nat)
    (positive : 0 < maxFramesPerSegment) : Writer :=
  ⟨session, maxFramesPerSegment, [], none, none, positive⟩

/-- What a successful `DataSessionService.start` leaves behind: the session's row, no
segment of it, and its new writer. -/
structure Started (sessionId : Uuid) (world : World) : Prop where
  row : sessionRow sessionId world.database = some world.writer.session.toSessionRow
  unsegmented : ∀ segment ∈ world.database.segments, segment.sessionId ≠ sessionId
  fresh : ∃ projectId streamId startedAt, world.writer.session.toSessionRow =
    initialSession sessionId projectId streamId startedAt
  writer : world.writer = initialWriter world.writer.session world.writer.maxFramesPerSegment
    world.writer.threshold_positive

/-- Registering the session of a start, under an identity the project does not know. -/
theorem started_of_insert {session : DataSession} {database registered : Database}
    {files : String → Option StoredFile} {maxFramesPerSegment : Nat}
    (positive : 0 < maxFramesPerSegment)
    (initial : session.toSessionRow = initialSession sessionId projectId streamId startedAt)
    (inserted : insertSession session database = .ok registered) :
    Started sessionId ⟨registered, files, initialWriter session maxFramesPerSegment positive⟩ := by
  have named : session.sessionId = sessionId := by rw [initial]; rfl
  unfold insertSession at inserted
  split at inserted
  · cases inserted
  split at inserted
  · rename_i fresh
    cases inserted
    refine ⟨?_, ?_, ⟨projectId, streamId, startedAt, initial⟩, rfl⟩
    · have absent : lookup SessionRow.sessionId sessionId database.sessions = none := by
        refine List.find?_eq_none.mpr fun row member same => fresh ?_
        rw [named, ← of_decide_eq_true same]
        exact List.mem_map_of_mem member
      have found := lookup_append_fresh SessionRow.sessionId sessionId database.sessions
        session.toSessionRow absent
      rw [if_pos named] at found
      exact found
    · intro segment member same
      apply fresh
      rw [named, ← same]
      exact database.segment_session segment member
  · cases inserted

/-! A session of one-frame segments, for concrete schedules. -/

def sampleSessionId : Uuid := ⟨"00000000-0000-4000-8000-000000000001", by decide⟩

def sampleProjectId : Uuid := ⟨"00000000-0000-4000-8000-000000000002", by decide⟩

def sampleSegmentId : Uuid := ⟨"00000000-0000-4000-8000-000000000003", by decide⟩

/-- A classic data frame with the given sequence. -/
def sampleFrame (sequence : Nat) (unsigned : sequence ≤ 0xFFFFFFFFFFFFFFFF) : Frame where
  sequence
  channelId := "can0"
  arbitrationId := 0x100
  isExtended := false
  isFd := false
  bitrateSwitch := false
  errorStateIndicator := false
  dlc := 1
  data := [7]
  direction := .rx
  hardwareTimestamp := none
  hostTimestamp := 1
  normalizedTimestamp := 1
  clockDomain := "host"
  timestampQuality := .host
  flags := 0
  sequence_unsigned := unsigned
  channel_named := by decide
  arbitration_range := by decide
  dlc_allowed := by decide
  data_length := by decide
  classic_flags := by decide
  host_nonnegative := by decide
  normalized_nonnegative := by decide
  hardware_nonnegative := by decide
  clock_named := by decide
  flags_unsigned := by decide

def sampleBatch (sequence : Nat) (unsigned : sequence ≤ 0xFFFFFFFFFFFFFFFF) : FrameBatch where
  streamId := "stream"
  frames := [sampleFrame sequence unsigned]
  stream_named := by decide
  nonempty := by simp
  contiguous := rfl

def sampleSession : DataSession :=
  ⟨initialSession sampleSessionId sampleProjectId "stream" 0, by decide⟩

def sampleWorld (maxFramesPerSegment : Nat) (positive : 0 < maxFramesPerSegment) : World where
  database := ⟨[sampleSession.toSessionRow], [], by simp, by simp, by simp, by simp, by simp⟩
  files := fun _ => none
  writer := initialWriter sampleSession maxFramesPerSegment positive

theorem sampleWorld_started (maxFramesPerSegment : Nat) (positive : 0 < maxFramesPerSegment) :
    Started sampleSessionId (sampleWorld maxFramesPerSegment positive) where
  row := by
    simp [sampleWorld, initialWriter, sessionRow, lookup, sampleSession, initialSession]
  unsegmented segment member := by cases member
  fresh := ⟨sampleProjectId, "stream", 0, rfl⟩
  writer := rfl

/-- The environment at rest. -/
def calm : Choice := ⟨none, 0, sampleSegmentId, 100⟩

end CanX.Data
