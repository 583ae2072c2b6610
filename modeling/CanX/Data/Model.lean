import CanX.Domain.Frame

/-! Data sessions and segments, and the errors of the data layer. A constructor
that can refuse its arguments is `make`, and the value it returns carries the
check it passed. Error details other than the code and the text are left out. -/

namespace CanX.Data

open Domain

inductive DataErrorKind where
  | validation
  | session
  | sessionState
  | streamMismatch
  | storage
  | parquetWrite
  | integrity
  deriving DecidableEq

structure DataError where
  kind : DataErrorKind
  code : String
  message : String
  deriving DecidableEq

/-- What a Python operation of the data layer can raise. `overflow` is the
`OverflowError` of a bound integer, `foreign` is every class no handler names. -/
inductive PyException where
  | data (error : DataError)
  | sqlite
  | os
  | arrow
  | overflow
  | foreign
  deriving DecidableEq

def PyException.isData : PyException → Bool
  | .data _ => true
  | _ => false

/-- Instants in microseconds; every stored time is timezone-aware. -/
abbrev DateTime := Int

def isUuidCharacter (character : Char) : Bool :=
  character ∈ "0123456789abcdef-".toList

/-- The canonical text `str(UUID(value))` of an identity. -/
structure Uuid where
  text : String
  canonical : text.toList.all isUuidCharacter = true
  deriving DecidableEq

inductive DataSessionState where
  | active
  | completed
  | interrupted
  | failed
  deriving DecidableEq

namespace DataSessionState

def value : DataSessionState → String
  | active => "active"
  | completed => "completed"
  | interrupted => "interrupted"
  | failed => "failed"

def terminal (state : DataSessionState) : Prop := state ≠ active

instance (state : DataSessionState) : Decidable state.terminal :=
  inferInstanceAs (Decidable (state ≠ active))

end DataSessionState

def validationError (code message : String) : DataError := ⟨.validation, code, message⟩

/-- Refuse with `error` when a condition holds. -/
def refuseIf (condition : Prop) [Decidable condition] (error : DataError) :
    Except DataError Unit :=
  if condition then .error error else .ok ()

/-- The columns of one `data_sessions` row. -/
structure SessionRow where
  sessionId : Uuid
  projectId : Uuid
  streamId : String
  state : DataSessionState
  startedAt : DateTime
  endedAt : Option DateTime
  frameCount : Nat
  segmentCount : Nat
  firstSequence : Option Nat
  lastSequence : Option Nat
  firstTimestamp : Option Seconds
  lastTimestamp : Option Seconds
  createdAt : DateTime
  updatedAt : DateTime
  deriving DecidableEq

def requireTimestamp (field : String) (value : Seconds) : Except DataError Unit :=
  refuseIf (value < 0) (validationError "data.segment.invalid_timestamp"
    (field ++ " must be a finite non-negative number of seconds."))

def requireOptionalSequenceBounds (first last : Option Nat) : Except DataError Unit :=
  match first, last with
  | none, none => .ok ()
  | some first, some last => refuseIf (last < first)
      (validationError "data.session.invalid_sequence" "session sequence bounds are inverted.")
  | _, _ => .error (validationError "data.session.invalid_sequence"
      "session sequence bounds must be both set or both absent.")

def requireOptionalTimestampBounds (first last : Option Seconds) : Except DataError Unit :=
  match first, last with
  | none, none => .ok ()
  | some first, some last => do
    requireTimestamp "first_timestamp" first
    requireTimestamp "last_timestamp" last
    refuseIf (last < first) (validationError "data.session.invalid_timestamp"
      "session timestamp bounds are inverted.")
  | _, _ => .error (validationError "data.session.invalid_timestamp"
      "session timestamp bounds must be both set or both absent.")

/-- `DataSession.__post_init__` after the type checks. -/
def SessionRow.check (row : SessionRow) : Except DataError Unit := do
  refuseIf (row.streamId = "") (validationError "data.session.invalid_stream_id"
    "stream_id must be a non-empty string.")
  refuseIf ((row.state = .completed ∨ row.state = .interrupted) ∧ row.endedAt = none)
    (validationError "data.session.ended_at_required"
      ("A " ++ row.state.value ++ " session must record ended_at."))
  requireOptionalSequenceBounds row.firstSequence row.lastSequence
  requireOptionalTimestampBounds row.firstTimestamp row.lastTimestamp
  refuseIf (0 < row.frameCount ∧ row.firstSequence = none)
    (validationError "data.session.invalid_sequence"
      "A session with committed frames must report its sequence bounds.")
  refuseIf (row.frameCount = 0 ∧ row.firstSequence ≠ none)
    (validationError "data.session.invalid_sequence"
      "A session with no committed frames must not report sequence bounds.")

/-- Metadata of one capture session that passed its own check. -/
structure DataSession extends SessionRow where
  valid : toSessionRow.check = .ok ()
  deriving DecidableEq

def DataSession.make (row : SessionRow) : Except DataError DataSession :=
  match checked : row.check with
  | .ok () => .ok ⟨row, checked⟩
  | .error error => .error error

/-- The columns of one `data_segments` row. -/
structure SegmentRow where
  segmentId : Uuid
  sessionId : Uuid
  segmentIndex : Nat
  relativePath : String
  frameCount : Nat
  firstSequence : Nat
  lastSequence : Nat
  firstTimestamp : Seconds
  lastTimestamp : Seconds
  byteSize : Nat
  createdAt : DateTime
  deriving DecidableEq

/-- `PurePosixPath.is_absolute` or `PureWindowsPath.is_absolute` of a path that
has no backslash. -/
def isAbsolutePath (path : String) : Bool :=
  match path.toList with
  | '/' :: _ => true
  | _ :: ':' :: '/' :: _ => true
  | _ => false

def requireRelativePath (path : String) : Except DataError Unit := do
  refuseIf (path = "") (validationError "data.segment.invalid_relative_path"
    "relative_path must be a non-empty string.")
  refuseIf ('\\' ∈ path.toList) (validationError "data.segment.invalid_relative_path"
    "relative_path must use '/' separators.")
  refuseIf (isAbsolutePath path = true) (validationError "data.segment.invalid_relative_path"
    "relative_path must be relative to the project root.")

/-- `DataSegment.__post_init__` after the type checks. -/
def SegmentRow.check (row : SegmentRow) : Except DataError Unit := do
  requireRelativePath row.relativePath
  refuseIf (row.frameCount = 0) (validationError "data.segment.invalid_frame_count"
    "A committed segment must hold at least one frame.")
  refuseIf (row.lastSequence < row.firstSequence)
    (validationError "data.segment.invalid_sequence" "segment sequence bounds are inverted.")
  requireTimestamp "first_timestamp" row.firstTimestamp
  requireTimestamp "last_timestamp" row.lastTimestamp
  refuseIf (row.lastTimestamp < row.firstTimestamp)
    (validationError "data.segment.invalid_timestamp" "segment timestamp bounds are inverted.")
  refuseIf (row.byteSize = 0) (validationError "data.segment.invalid_byte_size"
    "A committed segment file must not be empty.")

/-- Metadata of one committed Parquet segment that passed its own check. -/
structure DataSegment extends SegmentRow where
  valid : toSegmentRow.check = .ok ()
  deriving DecidableEq

def DataSegment.make (row : SegmentRow) : Except DataError DataSegment :=
  match checked : row.check with
  | .ok () => .ok ⟨row, checked⟩
  | .error error => .error error

theorem DataSession.make_row {row : SessionRow} {session : DataSession}
    (made : DataSession.make row = .ok session) : session.toSessionRow = row := by
  unfold DataSession.make at made
  split at made
  · cases made
    rfl
  · cases made

theorem DataSegment.make_row {row : SegmentRow} {segment : DataSegment}
    (made : DataSegment.make row = .ok segment) : segment.toSegmentRow = row := by
  unfold DataSegment.make at made
  split at made
  · cases made
    rfl
  · cases made

/-- A row that passes its check has its model, whatever the check read. -/
theorem DataSession.make_of_check {row : SessionRow} (passed : row.check = .ok ()) :
    DataSession.make row = .ok ⟨row, passed⟩ := by
  unfold DataSession.make
  split
  · rfl
  · rename_i refused
    rw [passed] at refused
    cases refused

theorem DataSegment.make_of_check {row : SegmentRow} (passed : row.check = .ok ()) :
    DataSegment.make row = .ok ⟨row, passed⟩ := by
  unfold DataSegment.make
  split
  · rfl
  · rename_i refused
    rw [passed] at refused
    cases refused

@[simp] theorem refuseIf_bind_ok {condition : Prop} [Decidable condition] {error : DataError}
    {rest : Unit → Except DataError Unit} :
    (refuseIf condition error >>= rest) = .ok () ↔ ¬condition ∧ rest () = .ok () := by
  unfold refuseIf
  split
  · simp_all [bind, Except.bind]
  · simp_all [bind, Except.bind]

@[simp] theorem refuseIf_ok {condition : Prop} [Decidable condition] {error : DataError} :
    refuseIf condition error = .ok () ↔ ¬condition := by
  unfold refuseIf
  split <;> simp_all

@[simp] theorem requireTimestamp_bind_ok {field : String} {value : Seconds}
    {rest : Unit → Except DataError Unit} :
    (requireTimestamp field value >>= rest) = .ok () ↔ 0 ≤ value ∧ rest () = .ok () := by
  simp only [requireTimestamp, refuseIf_bind_ok, Rat.not_lt]

end CanX.Data
