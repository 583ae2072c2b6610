import CanX.Data.Model
import CanX.Storage.Table
import Mathlib.Data.List.Sort

/-! The two data tables and the statement blocks of the repository. A block runs
in one transaction: it is applied whole, or it raises and changes nothing. -/

namespace CanX.Data

open Domain Storage

/-- The data tables with the keys their schema declares. -/
structure Database where
  sessions : List SessionRow
  segments : List SegmentRow
  session_key : (sessions.map SessionRow.sessionId).Nodup
  segment_key : (segments.map SegmentRow.segmentId).Nodup
  segment_index : (segments.map fun row => (row.sessionId, row.segmentIndex)).Nodup
  segment_path : (segments.map SegmentRow.relativePath).Nodup
  segment_session : ∀ row ∈ segments, row.sessionId ∈ sessions.map SessionRow.sessionId
  deriving DecidableEq

def storageError (code : String) : DataError :=
  ⟨.storage, code, "The data-session metadata could not be persisted."⟩

/-- `with _storage_errors(code=…)` around a block. -/
def storageErrors (code : String) : Except PyException α → Except PyException α
  | .error .sqlite => .error (.data (storageError code))
  | other => other

/-- The largest integer the `sqlite3` module binds. -/
def largestBoundInteger : Nat := 0x7FFFFFFFFFFFFFFF

def SessionRow.integers (row : SessionRow) : List Nat :=
  [row.frameCount, row.segmentCount] ++ row.firstSequence.toList ++ row.lastSequence.toList

def SegmentRow.integers (row : SegmentRow) : List Nat :=
  [row.segmentIndex, row.frameCount, row.firstSequence, row.lastSequence, row.byteSize]

def bindable (values : List Nat) : Bool := values.all (· ≤ largestBoundInteger)

def sessionRow (sessionId : Uuid) (database : Database) : Option SessionRow :=
  lookup SessionRow.sessionId sessionId database.sessions

def sessionState (sessionId : Uuid) (database : Database) : Option DataSessionState :=
  (sessionRow sessionId database).map SessionRow.state

/-- An `UPDATE` of the session table that leaves the key column alone. -/
def updateSessions (selected : SessionRow → Bool) (change : SessionRow → SessionRow)
    (keeps : ∀ row, selected row = true → (change row).sessionId = row.sessionId)
    (database : Database) : Database :=
  { database with
    sessions := modifyWhere selected change database.sessions
    session_key := by
      rw [map_modifyWhere _ _ _ _ keeps]
      exact database.session_key
    segment_session := by
      rw [map_modifyWhere _ _ _ _ keeps]
      exact database.segment_session }

/-- `_SESSION_UPDATE`: every column but the key, whatever the row's state. -/
def updateSession (session : DataSession) (database : Database) : Database :=
  updateSessions (fun row => row.sessionId = session.sessionId)
    (fun _ => session.toSessionRow) (fun _ chosen => (of_decide_eq_true chosen).symm) database

def advanceCondition (sessionId : Uuid) (row : SessionRow) : Bool :=
  row.sessionId = sessionId ∧ row.state = .active

/-- The three columns a terminal transition writes. -/
def SessionRow.advanced (row : SessionRow) (state : DataSessionState)
    (endedAt : Option DateTime) (updatedAt : DateTime) : SessionRow :=
  { row with state, endedAt, updatedAt }

@[simp] theorem advanced_sessionId (row : SessionRow) (state : DataSessionState)
    (endedAt : Option DateTime) (updatedAt : DateTime) :
    (row.advanced state endedAt updatedAt).sessionId = row.sessionId := rfl

@[simp] theorem advanced_state (row : SessionRow) (state : DataSessionState)
    (endedAt : Option DateTime) (updatedAt : DateTime) :
    (row.advanced state endedAt updatedAt).state = state := rfl

/-- `_SESSION_ADVANCE`: three columns of a row that is still `ACTIVE`, with whether
one row was touched. -/
def sessionAdvance (sessionId : Uuid) (state : DataSessionState) (endedAt : Option DateTime)
    (updatedAt : DateTime) (database : Database) : Database × Bool :=
  (updateSessions (advanceCondition sessionId)
      (fun row => row.advanced state endedAt updatedAt)
      (fun row _ => advanced_sessionId row state endedAt updatedAt) database,
    affected (advanceCondition sessionId) database.sessions = 1)

def advanceSessionState (session : DataSession) (database : Database) : Database × Bool :=
  sessionAdvance session.sessionId session.state session.endedAt session.updatedAt database

/-- The primary key, both `UNIQUE` constraints and the reference to the session. -/
def segmentAdmitted (segment : SegmentRow) (database : Database) : Bool :=
  segment.segmentId ∉ database.segments.map SegmentRow.segmentId ∧
  (segment.sessionId, segment.segmentIndex) ∉
    database.segments.map (fun row => (row.sessionId, row.segmentIndex)) ∧
  segment.relativePath ∉ database.segments.map SegmentRow.relativePath ∧
  segment.sessionId ∈ database.sessions.map SessionRow.sessionId

def insertSegment (segment : SegmentRow) (database : Database)
    (admitted : segmentAdmitted segment database = true) : Database :=
  { database with
    segments := database.segments ++ [segment]
    segment_key := nodup_map_append database.segment_key (of_decide_eq_true admitted).1
    segment_index := nodup_map_append database.segment_index (of_decide_eq_true admitted).2.1
    segment_path := nodup_map_append database.segment_path
      (of_decide_eq_true admitted).2.2.1
    segment_session := by
      intro row member
      rcases List.mem_append.mp member with stored | added
      · exact database.segment_session row stored
      · rw [List.mem_singleton.mp added]
        exact (of_decide_eq_true admitted).2.2.2 }

def registerSegment (segment : DataSegment) (session : DataSession) (database : Database) :
    Except PyException Database :=
  if ¬bindable segment.integers then .error .overflow
  else if admitted : segmentAdmitted segment.toSegmentRow database then
    if ¬bindable session.integers then .error .overflow
    else .ok (updateSession session (insertSegment segment.toSegmentRow database admitted))
  else .error .sqlite

def failActiveSession (sessionId : Uuid) (moment : DateTime) (database : Database) :
    Database × Bool :=
  sessionAdvance sessionId .failed none moment database

def markSessionInterrupted (sessionId : Uuid) (moment : DateTime) (database : Database) :
    Database :=
  (sessionAdvance sessionId .interrupted (some moment) moment database).1

def insertSession (session : DataSession) (database : Database) : Except PyException Database :=
  if ¬bindable session.integers then .error .overflow
  else if fresh : session.sessionId ∉ database.sessions.map SessionRow.sessionId then
    .ok { database with
      sessions := database.sessions ++ [session.toSessionRow]
      session_key := nodup_map_append database.session_key fresh
      segment_session := by
        intro row member
        rw [List.map_append]
        exact List.mem_append_left _ (database.segment_session row member) }
  else .error .sqlite

def invalidSessionRow : PyException :=
  .data ⟨.integrity, "data.integrity.session_row_invalid",
    "A stored data session row does not describe a valid session."⟩

def sessionFromRow (row : SessionRow) : Except PyException DataSession :=
  match DataSession.make row with
  | .ok session => .ok session
  | .error _ => .error invalidSessionRow

def readSession (sessionId : Uuid) (database : Database) :
    Except PyException (Option DataSession) :=
  match sessionRow sessionId database with
  | none => .ok none
  | some row => (sessionFromRow row).map some

/-- `ORDER BY started_at ASC, session_id ASC`. -/
def sessionOrder (first second : SessionRow) : Prop :=
  first.startedAt < second.startedAt ∨
    first.startedAt = second.startedAt ∧ first.sessionId.text ≤ second.sessionId.text

instance (first second : SessionRow) : Decidable (sessionOrder first second) := by
  unfold sessionOrder
  infer_instance

def listSessionsInState (state : DataSessionState) (database : Database) :
    Except PyException (List DataSession) :=
  ((database.sessions.filter (·.state = state)).insertionSort sessionOrder).mapM sessionFromRow

/-- The rows of one session in index order, as `list_segments` selects them. -/
def segmentRows (sessionId : Uuid) (database : Database) : List SegmentRow :=
  (database.segments.filter (·.sessionId = sessionId)).insertionSort
    fun first second => first.segmentIndex ≤ second.segmentIndex

private theorem sessionRow_updateSessions (sessionId : Uuid) (selected : SessionRow → Bool)
    (change : SessionRow → SessionRow)
    (keeps : ∀ row, selected row = true → (change row).sessionId = row.sessionId)
    (database : Database) :
    sessionRow sessionId (updateSessions selected change keeps database) =
      (sessionRow sessionId database).map fun row => if selected row then change row else row :=
  lookup_modifyWhere _ _ _ _ _ keeps

theorem sessionRow_key {sessionId : Uuid} {database : Database} {row : SessionRow}
    (found : sessionRow sessionId database = some row) : row.sessionId = sessionId :=
  lookup_key found

/-- The row under the writer's key becomes its snapshot, every other row stays. -/
theorem sessionRow_updateSession (sessionId : Uuid) (session : DataSession)
    (database : Database) :
    sessionRow sessionId (updateSession session database) =
      if session.sessionId = sessionId then
        (sessionRow sessionId database).map fun _ => session.toSessionRow
      else sessionRow sessionId database := by
  rw [updateSession, sessionRow_updateSessions]
  cases found : sessionRow sessionId database with
  | none => simp
  | some row =>
    have key := sessionRow_key found
    by_cases same : session.sessionId = sessionId
    · simp [same, key]
    · have other : sessionId ≠ session.sessionId := fun h => same h.symm
      simp [same, other, key]

@[simp] theorem sessionRow_insertSegment (sessionId : Uuid) (segment : SegmentRow)
    (database : Database) (admitted : segmentAdmitted segment database = true) :
    sessionRow sessionId (insertSegment segment database admitted) =
      sessionRow sessionId database := rfl

/-- An advance changes three columns of the row it names, if that row is `ACTIVE`. -/
theorem sessionRow_sessionAdvance (sessionId named : Uuid) (state : DataSessionState)
    (endedAt : Option DateTime) (updatedAt : DateTime) (database : Database) :
    sessionRow sessionId (sessionAdvance named state endedAt updatedAt database).1 =
      (sessionRow sessionId database).map fun row =>
        if named = sessionId ∧ row.state = .active then row.advanced state endedAt updatedAt
        else row := by
  have updated := sessionRow_updateSessions sessionId (advanceCondition named)
    (fun row => row.advanced state endedAt updatedAt)
    (fun row _ => advanced_sessionId row state endedAt updatedAt) database
  refine updated.trans ?_
  cases found : sessionRow sessionId database with
  | none => rfl
  | some row =>
    have key := sessionRow_key found
    simp only [advanceCondition, key, Option.map_some, decide_eq_true_eq]
    simp only [eq_comm]

theorem sessionState_sessionAdvance (sessionId named : Uuid) (state : DataSessionState)
    (endedAt : Option DateTime) (updatedAt : DateTime) (database : Database) :
    sessionState sessionId (sessionAdvance named state endedAt updatedAt database).1 =
      if named = sessionId ∧ sessionState sessionId database = some .active then some state
      else sessionState sessionId database := by
  have moved := sessionRow_sessionAdvance sessionId named state endedAt updatedAt database
  cases found : sessionRow sessionId database with
  | none =>
    rw [found] at moved
    simp [sessionState, moved, found]
  | some row =>
    rw [found, Option.map_some] at moved
    by_cases advanced : named = sessionId ∧ row.state = .active
    · rw [if_pos advanced] at moved
      rw [if_pos ⟨advanced.1, by simp [sessionState, found, advanced.2]⟩]
      simp [sessionState, moved]
    · simp only [sessionState, moved, found, Option.map_some, Option.some.injEq, advanced,
        if_false]

/-- A terminal row refuses every conditional update. -/
theorem sessionState_sessionAdvance_terminal (named : Uuid) (next : DataSessionState)
    (endedAt : Option DateTime) (updatedAt : DateTime)
    (stored : sessionState sessionId database = some state) (terminal : state.terminal) :
    sessionState sessionId (sessionAdvance named next endedAt updatedAt database).1 =
      some state := by
  rw [sessionState_sessionAdvance, stored]
  simp [show state ≠ .active from terminal]

/-- The count an advance reports is 1 exactly when the named row was `ACTIVE`. -/
theorem sessionAdvance_won (named : Uuid) (state : DataSessionState)
    (endedAt : Option DateTime) (updatedAt : DateTime) (database : Database) :
    (sessionAdvance named state endedAt updatedAt database).2 = true ↔
      sessionState named database = some .active := by
  have counted : affected (advanceCondition named) database.sessions =
      if sessionState named database = some .active then 1 else 0 := by
    have keyed : ∀ row, advanceCondition named row = true → row.sessionId = named :=
      fun row chosen => (of_decide_eq_true chosen).1
    rw [affected_keyed keyed database.session_key]
    cases found : sessionRow named database with
    | none =>
      have missing : lookup SessionRow.sessionId named database.sessions = none := found
      simp [sessionState, found, missing]
    | some row =>
      have present : lookup SessionRow.sessionId named database.sessions = some row := found
      simp [sessionState, found, present, advanceCondition, sessionRow_key found]
  simp only [sessionAdvance, counted]
  split <;> simp_all

theorem storageErrors_ok {code : String} {outcome : Except PyException α} {value : α}
    (succeeded : storageErrors code outcome = .ok value) : outcome = .ok value := by
  cases outcome with
  | ok value => exact succeeded
  | error error => cases error <;> cases succeeded

/-- What a registration that committed has done. -/
theorem registerSegment_ok {segment : DataSegment} {session : DataSession}
    {database after : Database}
    (registered : registerSegment segment session database = .ok after) :
    ∃ admitted : segmentAdmitted segment.toSegmentRow database = true,
      after = updateSession session (insertSegment segment.toSegmentRow database admitted) := by
  unfold registerSegment at registered
  split at registered
  · cases registered
  split at registered
  · rename_i admitted
    split at registered <;> cases registered
    exact ⟨admitted, rfl⟩
  · cases registered

end CanX.Data
