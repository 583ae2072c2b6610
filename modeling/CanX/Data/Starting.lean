import CanX.Data.Writer
import CanX.Dbc.Asset

/-! `DataSessionService.start`: the directories of a new session, its row, and what a failure leaves of them. -/

namespace CanX.Data

open Domain Storage

/-- A path under the project root, by its names. -/
abbrev Location := List String

/-- The directories, files and data tables of one project. -/
structure ProjectTree where
  directories : List Location
  files : Location → Option StoredFile
  database : Database

/-- What one start meets: the time, the new identity, and what the storage raises at each of its steps. `retains` are
the directories that `shutil.rmtree` cannot remove. -/
structure StartConditions where
  now : DateTime
  uuid : Uuid
  refuses : Location → Bool
  opening : Option PyException
  identity : Except PyException Uuid
  beginning : Option PyException
  committing : Option PyException
  retains : Location → Bool

def dataDirectory : Location := ["data"]

def sessionsDirectory : Location := ["data", "sessions"]

def sessionDirectory (sessionId : Uuid) : Location := ["data", "sessions", sessionId.text]

def segmentsDirectory (sessionId : Uuid) : Location := ["data", "sessions", sessionId.text, "segments"]

def ProjectTree.withDirectory (tree : ProjectTree) (location : Location) : ProjectTree :=
  { tree with directories := tree.directories ++ [location] }

def ProjectTree.withDatabase (tree : ProjectTree) (database : Database) : ProjectTree := { tree with database }

/-- The missing ancestors of `Path.mkdir(parents=True)`, one by one. -/
def createParents (conditions : StartConditions) :
    List Location → ProjectTree → Except PyException Unit × ProjectTree
  | [], tree => (.ok (), tree)
  | location :: rest, tree =>
    if location ∈ tree.directories then createParents conditions rest tree
    else if conditions.refuses location then (.error .os, tree)
    else createParents conditions rest (tree.withDirectory location)

/-- `_create_session_directory`. -/
def createSessionDirectory (conditions : StartConditions) (sessionId : Uuid) (tree : ProjectTree) :
    Except PyException Unit × ProjectTree :=
  match createParents conditions [dataDirectory, sessionsDirectory, sessionDirectory sessionId] tree with
  | (.error error, tree) => (.error error, tree)
  | (.ok (), tree) =>
    if segmentsDirectory sessionId ∈ tree.directories ∨ conditions.refuses (segmentsDirectory sessionId) = true then
      (.error .os, tree)
    else (.ok (), tree.withDirectory (segmentsDirectory sessionId))

/-- `_remove_directory_quietly`. -/
def removeDirectoryQuietly (conditions : StartConditions) (location : Location) (tree : ProjectTree) : ProjectTree where
  directories := tree.directories.filter fun held => !location.isPrefixOf held || conditions.retains held
  files := fun held => if location.isPrefixOf held && !conditions.retains held then none else tree.files held
  database := tree.database

/-- A bound text; `sqlite3` raises `UnicodeEncodeError` where it has no UTF-8 form. -/
def boundText (value : Dbc.Text) : Except PyException String :=
  if value.encodable then .ok (String.ofList (value.map fun point => Char.ofNat point.val)) else .error .foreign

def raising : Option PyException → Except PyException Unit
  | none => .ok ()
  | some error => .error error

/-- `insert_session` with the model it writes, which any text that is not blank passes. -/
def insertStarted (conditions : StartConditions) (projectId : Uuid) (streamId : Dbc.Text) (database : Database) :
    Except PyException (DataSession × Database) :=
  storageErrors "data.session.insert_failed" do
    raising conditions.beginning
    let stream ← boundText streamId
    let session ← (DataSession.make (initialSession conditions.uuid projectId stream conditions.now)).mapError .data
    let inserted ← insertSession session database
    raising conditions.committing
    pure (session, inserted)

/-- What `start` does inside `data_connection`. -/
def registerStarted (conditions : StartConditions) (streamId : Dbc.Text) (database : Database) :
    Except PyException (DataSession × Database) := do
  raising conditions.opening
  let projectId ← conditions.identity
  insertStarted conditions projectId streamId database

def blankStreamId : PyException :=
  .data ⟨.validation, "data.session.invalid_stream_id",
    "stream_id must contain at least one non-whitespace character."⟩

def directoryCreateFailed : PyException :=
  .data ⟨.storage, "data.session.directory_create_failed", "The session directory could not be created."⟩

def startFailed : PyException :=
  .data ⟨.storage, "data.session.start_failed", "The data session could not be registered."⟩

/-- `DataSessionService.start`. -/
def serviceStart (maxFramesPerSegment : Nat) (positive : 0 < maxFramesPerSegment) (conditions : StartConditions)
    (streamId : Dbc.Text) (tree : ProjectTree) : Except PyException Writer × ProjectTree :=
  if streamId.blank then (.error blankStreamId, tree)
  else
    match createSessionDirectory conditions conditions.uuid tree with
    | (.error _, tree) => (.error directoryCreateFailed, tree)
    | (.ok (), tree) =>
      match registerStarted conditions streamId tree.database with
      | .error error =>
        if error.isStorage then
          (.error (if error.isData then error else startFailed),
            removeDirectoryQuietly conditions (sessionDirectory conditions.uuid) tree)
        else (.error error, tree)
      | .ok (session, database) =>
        (.ok (initialWriter session maxFramesPerSegment positive), tree.withDatabase database)

/-! What a start may leave behind. -/

/-- The project knows nothing of an identity. -/
structure Unknown (sessionId : Uuid) (tree : ProjectTree) : Prop where
  directories : ∀ location ∈ tree.directories, ¬sessionDirectory sessionId <+: location
  files : ∀ location, sessionDirectory sessionId <+: location → tree.files location = none
  row : sessionRow sessionId tree.database = none

/-- Nothing but one session and the shared parents differs. -/
structure Alongside (sessionId : Uuid) (before after : ProjectTree) : Prop where
  kept : ∀ location ∈ before.directories, location ∈ after.directories
  made : ∀ location ∈ after.directories, location ∈ before.directories ∨ location = dataDirectory ∨
    location = sessionsDirectory ∨ sessionDirectory sessionId <+: location
  files : after.files = before.files
  segments : after.database.segments = before.database.segments
  rows : ∀ other, other ≠ sessionId → sessionRow other after.database = sessionRow other before.database

/-- Both the directory and an active row of the session are there. -/
structure Present (sessionId : Uuid) (session : DataSession) (tree : ProjectTree) : Prop where
  directory : sessionDirectory sessionId ∈ tree.directories
  segments : segmentsDirectory sessionId ∈ tree.directories
  row : sessionRow sessionId tree.database = some session.toSessionRow
  active : session.state = .active

/-- The session is there whole, or a typed error has been raised and nothing of it is. -/
def AllOrNothing (sessionId : Uuid) (before : ProjectTree) : Except PyException Writer × ProjectTree → Prop
  | (.ok writer, after) => Present sessionId writer.session after ∧ Alongside sessionId before after
  | (.error error, after) => error.isData = true ∧ Unknown sessionId after ∧ Alongside sessionId before after

/-- The session's own directory gets created. -/
def Reachable (conditions : StartConditions) (tree : ProjectTree) : Prop :=
  ∀ location ∈ [dataDirectory, sessionsDirectory, sessionDirectory conditions.uuid],
    location ∉ tree.directories → conditions.refuses location = false

/-- The first thing that goes wrong with the database. -/
def registrationFault (conditions : StartConditions) (streamId : Dbc.Text) : Option PyException :=
  conditions.opening.or ((match conditions.identity with | .error error => some error | .ok _ => none).or
    (conditions.beginning.or ((if streamId.encodable then none else some PyException.foreign).or conditions.committing)))

/-- No failure strikes between the session's own directory and its `segments` directory, and the first failure after
them, if any, is of a class that `start` handles. -/
def Contained (conditions : StartConditions) (streamId : Dbc.Text) (tree : ProjectTree) : Prop :=
  streamId.blank = true ∨ ¬Reachable conditions tree ∨
    conditions.refuses (segmentsDirectory conditions.uuid) = false ∧
      ∀ error ∈ registrationFault conditions streamId, error.isStorage = true

/-! The directories. -/

section Directories

variable {conditions : StartConditions} {sessionId : Uuid} {tree after : ProjectTree} {levels : List Location}
variable {error : PyException}

/-- Only some directories have been added. -/
structure Grown (levels : List Location) (before after : ProjectTree) : Prop where
  kept : ∀ location ∈ before.directories, location ∈ after.directories
  made : ∀ location ∈ after.directories, location ∈ before.directories ∨ location ∈ levels
  files : after.files = before.files
  database : after.database = before.database

theorem Grown.refl (levels : List Location) (tree : ProjectTree) : Grown levels tree tree :=
  ⟨fun _ held => held, fun _ held => .inl held, rfl, rfl⟩

theorem Grown.withDirectory {location : Location} (grown : Grown levels (tree.withDirectory location) after) :
    Grown (location :: levels) tree after where
  kept held member := grown.kept held (List.mem_append_left _ member)
  made held member := by
    rcases grown.made held member with earlier | later
    · rcases List.mem_append.mp earlier with before | here
      · exact .inl before
      · exact .inr (List.mem_singleton.mp here ▸ List.mem_cons_self)
    · exact .inr (List.mem_cons_of_mem _ later)
  files := grown.files
  database := grown.database

theorem Grown.mono {more : List Location} (grown : Grown levels tree after) (wider : ∀ held ∈ levels, held ∈ more) :
    Grown more tree after :=
  ⟨grown.kept, fun held member => (grown.made held member).imp_right (wider held), grown.files, grown.database⟩

theorem createParents_ok (created : createParents conditions levels tree = (.ok (), after)) :
    Grown levels tree after ∧ ∀ location ∈ levels, location ∈ after.directories := by
  induction levels generalizing tree with
  | nil =>
    cases created
    exact ⟨.refl _ _, fun _ member => by cases member⟩
  | cons location rest ih =>
    simp only [createParents] at created
    split at created
    · rename_i present
      obtain ⟨grown, held⟩ := ih created
      refine ⟨grown.mono fun _ member => List.mem_cons_of_mem _ member, List.forall_mem_cons.mpr ⟨?_, held⟩⟩
      exact grown.kept location present
    split at created
    · cases created
    · obtain ⟨grown, held⟩ := ih created
      refine ⟨grown.withDirectory, List.forall_mem_cons.mpr ⟨?_, held⟩⟩
      exact grown.kept location (List.mem_append_right _ List.mem_cons_self)

/-- What fails leaves the last level unmade. -/
theorem createParents_error (failed : createParents conditions levels tree = (.error error, after)) :
    Grown levels.dropLast tree after := by
  induction levels generalizing tree with
  | nil => cases failed
  | cons location rest ih =>
    simp only [createParents] at failed
    cases rest with
    | nil =>
      simp only [createParents] at failed
      split at failed
      · cases failed
      split at failed
      · cases failed
        exact .refl _ _
      · cases failed
    | cons second others =>
      rw [List.dropLast_cons_cons]
      split at failed
      · exact (ih failed).mono fun _ member => List.mem_cons_of_mem _ member
      split at failed
      · cases failed
        exact .refl _ _
      · exact (ih failed).withDirectory

private theorem createParents_returns : (createParents conditions levels tree).1 = .ok () ↔
    ∀ location ∈ levels, location ∉ tree.directories → conditions.refuses location = false := by
  induction levels generalizing tree with
  | nil =>
    constructor
    · intro _ location member
      cases member
    · intro _
      rfl
  | cons location rest ih =>
    simp only [createParents, List.forall_mem_cons]
    split
    · rename_i present
      rw [ih]
      exact ⟨fun held => ⟨fun absent => absurd present absent, held⟩, fun both => both.2⟩
    rename_i absent
    split
    · rename_i refused
      constructor
      · intro returned
        cases returned
      · intro both
        simp [both.1 absent] at refused
    · rename_i accepted
      have made : conditions.refuses location = false := by simpa using accepted
      rw [ih]
      constructor
      · refine fun held => ⟨fun _ => made, fun other member missing => ?_⟩
        by_cases same : other = location
        · rw [same]
          exact made
        · refine held other member fun present => ?_
          rcases List.mem_append.mp present with before | here
          · exact missing before
          · exact same (List.mem_singleton.mp here)
      · rintro ⟨_, held⟩ other member missing
        exact held other member fun before => missing (List.mem_append_left _ before)

/-- The three ways `_create_session_directory` can end for a new identity. -/
theorem createSessionDirectory_cases (unknown : Unknown conditions.uuid tree) :
    (¬Reachable conditions tree ∧ ∃ after error, createSessionDirectory conditions conditions.uuid tree =
        (.error error, after) ∧ Grown [dataDirectory, sessionsDirectory] tree after) ∨
      (Reachable conditions tree ∧ conditions.refuses (segmentsDirectory conditions.uuid) = true ∧
        ∃ after error, createSessionDirectory conditions conditions.uuid tree = (.error error, after) ∧
          sessionDirectory conditions.uuid ∈ after.directories) ∨
      (Reachable conditions tree ∧ conditions.refuses (segmentsDirectory conditions.uuid) = false ∧
        ∃ after, createSessionDirectory conditions conditions.uuid tree = (.ok (), after) ∧
          Grown [dataDirectory, sessionsDirectory, sessionDirectory conditions.uuid,
            segmentsDirectory conditions.uuid] tree after ∧
          sessionDirectory conditions.uuid ∈ after.directories ∧
          segmentsDirectory conditions.uuid ∈ after.directories) := by
  have reachable : _ ↔ Reachable conditions tree := createParents_returns
  unfold createSessionDirectory
  split
  · rename_i error after failed
    refine .inl ⟨fun held => ?_, after, error, rfl, createParents_error failed⟩
    have returned := reachable.mpr held
    rw [failed] at returned
    cases returned
  · rename_i after created
    have held : Reachable conditions tree := reachable.mp (by rw [created])
    obtain ⟨grown, made⟩ := createParents_ok created
    have session : sessionDirectory conditions.uuid ∈ after.directories := made _ (by simp)
    have missing : segmentsDirectory conditions.uuid ∉ after.directories := by
      intro present
      rcases grown.made _ present with before | among
      · exact unknown.directories _ before ⟨["segments"], rfl⟩
      · simp [segmentsDirectory, dataDirectory, sessionsDirectory, sessionDirectory] at among
    by_cases refused : conditions.refuses (segmentsDirectory conditions.uuid) = true
    · rw [if_pos (.inr refused)]
      exact .inr (.inl ⟨held, refused, after, .os, rfl, session⟩)
    · rw [if_neg (not_or.mpr ⟨missing, refused⟩)]
      refine .inr (.inr ⟨held, by simpa using refused, _, rfl, ?_, List.mem_append_left _ session,
        List.mem_append_right _ List.mem_cons_self⟩)
      refine ⟨fun location before => List.mem_append_left _ (grown.kept location before), fun location present => ?_,
        grown.files, grown.database⟩
      rcases List.mem_append.mp present with earlier | here
      · refine (grown.made location earlier).imp_right fun among => ?_
        rcases List.mem_cons.mp among with first | rest
        · exact first ▸ List.mem_cons_self
        · rcases List.mem_cons.mp rest with second | last
          · simp [second]
          · simp [List.mem_singleton.mp last]
      · exact .inr (by simp [List.mem_singleton.mp here])

end Directories

/-! The row. -/

section Registration

variable {conditions : StartConditions} {streamId : Dbc.Text} {database : Database} {error : PyException}

theorem storageErrors_storage {code : String} {outcome : Except PyException α} (raised : outcome = .error error) :
    ∃ seen, storageErrors code outcome = .error seen ∧ seen.isStorage = error.isStorage := by
  subst raised
  cases error with
  | sqlite => exact ⟨.data (storageError code), rfl, rfl⟩
  | _ => exact ⟨_, rfl, rfl⟩

theorem boundText_ok (encodable : streamId.encodable = true) :
    boundText streamId = .ok (String.ofList (streamId.map fun point => Char.ofNat point.val)) := by
  rw [boundText, if_pos encodable]

/-- A text that is not blank is not empty. -/
theorem boundText_named (unblank : ¬streamId.blank = true) :
    String.ofList (streamId.map fun point => Char.ofNat point.val) ≠ "" := by
  cases streamId with
  | nil => exact absurd rfl unblank
  | cons point rest =>
    intro empty
    have listed := congrArg String.toList empty
    simp at listed

theorem initialSession_valid (sessionId projectId : Uuid) (stream : String) (startedAt : DateTime)
    (named : stream ≠ "") : (initialSession sessionId projectId stream startedAt).check = .ok () := by
  simp [SessionRow.check, initialSession, named, requireOptionalSequenceBounds, requireOptionalTimestampBounds]
  rfl

theorem insertSession_new (session : DataSession) (small : bindable session.integers = true)
    (absent : sessionRow session.sessionId database = none) :
    ∃ inserted, insertSession session database = .ok inserted ∧
      sessionRow session.sessionId inserted = some session.toSessionRow ∧
      inserted.segments = database.segments ∧
      ∀ other, other ≠ session.sessionId → sessionRow other inserted = sessionRow other database := by
  have fresh : session.sessionId ∉ database.sessions.map SessionRow.sessionId := lookup_eq_none.mp absent
  have appended := lookup_append_fresh SessionRow.sessionId session.sessionId database.sessions
    session.toSessionRow absent
  rw [if_pos rfl] at appended
  rw [insertSession, if_neg (by simp [small]), dif_pos fresh]
  refine ⟨_, rfl, appended, rfl, fun other apart => ?_⟩
  have missed : session.sessionId ≠ other := fun same => apart same.symm
  simp [sessionRow, lookup, List.find?_append, missed]

/-- The first fault is what the block raises, in a class that is handled exactly if the fault's is. -/
theorem registerStarted_fault (faulted : registrationFault conditions streamId = some error)
    (unblank : ¬streamId.blank = true) (absent : sessionRow conditions.uuid database = none) :
    ∃ seen, registerStarted conditions streamId database = .error seen ∧ seen.isStorage = error.isStorage := by
  unfold registrationFault at faulted
  cases opening : conditions.opening with
  | some raised =>
    rw [opening] at faulted
    obtain rfl := Option.some.inj faulted
    exact ⟨raised, by simp [registerStarted, opening, raising, bind, Except.bind], rfl⟩
  | none =>
    cases identity : conditions.identity with
    | error raised =>
      rw [opening, identity] at faulted
      obtain rfl := Option.some.inj faulted
      exact ⟨raised, by simp [registerStarted, opening, identity, raising, bind, Except.bind], rfl⟩
    | ok projectId =>
      have reached : registerStarted conditions streamId database =
          insertStarted conditions projectId streamId database := by
        simp [registerStarted, opening, identity, raising, bind, Except.bind]
      rw [reached, insertStarted]
      apply storageErrors_storage
      cases beginning : conditions.beginning with
      | some raised =>
        rw [opening, identity, beginning] at faulted
        obtain rfl := Option.some.inj faulted
        simp [raising, bind, Except.bind]
      | none =>
        rw [opening, identity, beginning] at faulted
        by_cases encodable : streamId.encodable = true
        · have committing : conditions.committing = some error := by simpa [encodable] using faulted
          have valid := initialSession_valid conditions.uuid projectId _ conditions.now (boundText_named unblank)
          obtain ⟨inserted, stored, _⟩ := insertSession_new ⟨_, valid⟩ rfl absent
          simp [boundText_ok encodable, DataSession.make_of_check valid, stored, committing, raising, bind, Except.bind,
            Except.mapError]
        · have foreign : error = .foreign := by simpa [encodable] using faulted.symm
          simp [boundText, encodable, foreign, raising, bind, Except.bind]

/-- A block that meets no fault has written the row of a new active session. -/
theorem registerStarted_ok (calm : registrationFault conditions streamId = none) (unblank : ¬streamId.blank = true)
    (absent : sessionRow conditions.uuid database = none) :
    ∃ session inserted, registerStarted conditions streamId database = .ok (session, inserted) ∧
      session.state = .active ∧ sessionRow conditions.uuid inserted = some session.toSessionRow ∧
      inserted.segments = database.segments ∧
      ∀ other, other ≠ conditions.uuid → sessionRow other inserted = sessionRow other database := by
  unfold registrationFault at calm
  simp only [Option.or_eq_none_iff] at calm
  obtain ⟨opening, identified, beginning, encoded, committing⟩ := calm
  have encodable : streamId.encodable = true := by
    by_contra refused
    simp [refused] at encoded
  cases identity : conditions.identity with
  | error raised => simp [identity] at identified
  | ok projectId =>
    have valid := initialSession_valid conditions.uuid projectId _ conditions.now (boundText_named unblank)
    obtain ⟨inserted, stored, row, segments, others⟩ := insertSession_new ⟨_, valid⟩ rfl absent
    refine ⟨⟨_, valid⟩, inserted, ?_, rfl, row, segments, others⟩
    simp [registerStarted, insertStarted, storageErrors, opening, identity, beginning, committing,
      boundText_ok encodable, DataSession.make_of_check valid, stored, raising, bind, Except.bind, Except.mapError,
      pure, Except.pure]

end Registration

/-! The whole call. -/

section Start

variable {conditions : StartConditions} {streamId : Dbc.Text} {tree after : ProjectTree} {maxFramesPerSegment : Nat}
variable {positive : 0 < maxFramesPerSegment} {sessionId : Uuid}

theorem Grown.alongside {levels : List Location} (grown : Grown levels tree after)
    (among : ∀ location ∈ levels, location = dataDirectory ∨ location = sessionsDirectory ∨
      sessionDirectory sessionId <+: location) : Alongside sessionId tree after where
  kept := grown.kept
  made location member := (grown.made location member).imp_right (among location)
  files := grown.files
  segments := by rw [grown.database]
  rows other _ := by rw [grown.database]

/-- Where only the shared parents have been made, the project still knows nothing of the session. -/
theorem Grown.unknown (unknown : Unknown sessionId tree)
    (grown : Grown [dataDirectory, sessionsDirectory] tree after) : Unknown sessionId after where
  directories location member inside := by
    rcases grown.made location member with before | among
    · exact unknown.directories location before inside
    · have long := inside.length_le
      rcases List.mem_cons.mp among with rfl | second
      · simp [sessionDirectory, dataDirectory] at long
      · rw [List.mem_singleton.mp second] at long
        simp [sessionDirectory, sessionsDirectory] at long
  files location inside := by
    rw [grown.files]
    exact unknown.files location inside
  row := by
    rw [grown.database]
    exact unknown.row

/-- A removal that succeeds takes the session's directories and nothing else. -/
theorem removed_directory (unknown : Unknown sessionId tree) (alongside : Alongside sessionId tree after)
    (row : sessionRow sessionId after.database = none) (removes : ∀ location, conditions.retains location = false) :
    Unknown sessionId (removeDirectoryQuietly conditions (sessionDirectory sessionId) after) ∧
      Alongside sessionId tree (removeDirectoryQuietly conditions (sessionDirectory sessionId) after) := by
  have stays (location : Location) : location ∈
      (removeDirectoryQuietly conditions (sessionDirectory sessionId) after).directories ↔
        location ∈ after.directories ∧ ¬sessionDirectory sessionId <+: location := by
    simp [removeDirectoryQuietly, removes, ← Bool.not_eq_true]
  constructor
  · refine ⟨fun location member => ((stays location).mp member).2, fun location inside => ?_, row⟩
    simp [removeDirectoryQuietly, removes, inside]
  · refine ⟨fun location held => ?_, fun location member => alongside.made location ((stays location).mp member).1, ?_,
      alongside.segments, alongside.rows⟩
    · exact (stays location).mpr ⟨alongside.kept location held, unknown.directories location held⟩
    funext location
    by_cases inside : sessionDirectory sessionId <+: location
    · simp [removeDirectoryQuietly, removes, inside, unknown.files location inside]
    · simp [removeDirectoryQuietly, inside, alongside.files]

private theorem serviceStart_refused {error : PyException} (unblank : ¬streamId.blank = true)
    (outcome : createSessionDirectory conditions conditions.uuid tree = (.error error, after)) :
    serviceStart maxFramesPerSegment positive conditions streamId tree = (.error directoryCreateFailed, after) := by
  simp only [serviceStart, unblank, outcome, Bool.false_eq_true, if_false]

private theorem serviceStart_created (unblank : ¬streamId.blank = true)
    (outcome : createSessionDirectory conditions conditions.uuid tree = (.ok (), after)) :
    serviceStart maxFramesPerSegment positive conditions streamId tree =
      match registerStarted conditions streamId after.database with
      | .error error =>
        if error.isStorage then
          (.error (if error.isData then error else startFailed),
            removeDirectoryQuietly conditions (sessionDirectory conditions.uuid) after)
        else (.error error, after)
      | .ok (session, database) =>
        (.ok (initialWriter session maxFramesPerSegment positive), after.withDatabase database) := by
  simp only [serviceStart, unblank, outcome, Bool.false_eq_true, if_false]

/-- For a new identity and a removal that succeeds, a start is all or nothing exactly if no directory fails after the
session's own and the database raises nothing that `start` does not handle. -/
theorem serviceStart_allOrNothing (unknown : Unknown conditions.uuid tree)
    (removes : ∀ location, conditions.retains location = false) :
    AllOrNothing conditions.uuid tree (serviceStart maxFramesPerSegment positive conditions streamId tree) ↔
      Contained conditions streamId tree := by
  by_cases blank : streamId.blank = true
  · rw [serviceStart, if_pos blank]
    have alongside : Alongside conditions.uuid tree tree := (Grown.refl [] tree).alongside (List.forall_mem_nil _)
    exact ⟨fun _ => .inl blank, fun _ => ⟨rfl, unknown, alongside⟩⟩
  rcases createSessionDirectory_cases unknown with ⟨outside, after, error, outcome, grown⟩ |
    ⟨reachable, refused, after, error, outcome, made⟩ | ⟨reachable, accepted, after, outcome, grown, made, segmented⟩
  · rw [serviceStart_refused blank outcome]
    refine ⟨fun _ => .inr (.inl outside), fun _ => ⟨rfl, grown.unknown unknown, grown.alongside ?_⟩⟩
    intro location member
    rcases List.mem_cons.mp member with first | second
    · exact .inl first
    · exact .inr (.inl (List.mem_singleton.mp second))
  · rw [serviceStart_refused blank outcome]
    constructor
    · rintro ⟨_, clean, _⟩
      exact absurd (List.prefix_refl _) (clean.directories _ made)
    · rintro (stream | outside | ⟨accepted, _⟩)
      · exact absurd stream blank
      · exact absurd reachable outside
      · rw [refused] at accepted
        cases accepted
  · rw [serviceStart_created blank outcome]
    have alongside : Alongside conditions.uuid tree after := by
      refine grown.alongside fun location member => ?_
      rcases List.mem_cons.mp member with first | rest
      · exact .inl first
      rcases List.mem_cons.mp rest with second | rest
      · exact .inr (.inl second)
      rcases List.mem_cons.mp rest with third | rest
      · exact .inr (.inr (third ▸ List.prefix_refl _))
      · rw [List.mem_singleton.mp rest]
        exact .inr (.inr ⟨["segments"], rfl⟩)
    have absent : sessionRow conditions.uuid after.database = none := by
      rw [grown.database]
      exact unknown.row
    cases faulted : registrationFault conditions streamId with
    | none =>
      obtain ⟨session, inserted, registered, active, row, segments, others⟩ := registerStarted_ok faulted blank absent
      rw [registered]
      constructor
      · intro _
        refine .inr (.inr ⟨accepted, fun error member => ?_⟩)
        rw [faulted] at member
        cases member
      · intro _
        refine ⟨⟨made, segmented, row, active⟩, alongside.kept, alongside.made, alongside.files,
          segments.trans alongside.segments, fun other apart => (others other apart).trans (alongside.rows other apart)⟩
    | some error =>
      obtain ⟨seen, raised, same⟩ := registerStarted_fault faulted blank absent
      rw [raised]
      by_cases handled : seen.isStorage = true
      · simp only [handled, if_true]
        constructor
        · intro _
          refine .inr (.inr ⟨accepted, fun other member => ?_⟩)
          rw [faulted] at member
          rw [← Option.some.inj member, ← same]
          exact handled
        · intro _
          refine ⟨?_, removed_directory unknown alongside absent removes⟩
          by_cases data : seen.isData = true
          · rw [if_pos data]
            exact data
          · rw [if_neg data]
            rfl
      · simp only [handled, Bool.false_eq_true, if_false]
        constructor
        · rintro ⟨_, clean, _⟩
          exact absurd (List.prefix_refl _) (clean.directories _ made)
        · rintro (stream | outside | ⟨_, storage⟩)
          · exact absurd stream blank
          · exact absurd reachable outside
          · exact absurd (same.trans (storage error faulted)) handled

end Start

/-- A project without sessions. -/
def emptyTree : ProjectTree where
  directories := [dataDirectory]
  files := fun _ => none
  database := ⟨[], [], List.nodup_nil, List.nodup_nil, List.nodup_nil, List.nodup_nil, List.forall_mem_nil _⟩

/-- A start that meets no failure. -/
def calmStart : StartConditions where
  now := 0
  uuid := sampleSessionId
  refuses := fun _ => false
  opening := none
  identity := .ok sampleProjectId
  beginning := none
  committing := none
  retains := fun _ => false

private theorem emptyTree_unknown (sessionId : Uuid) : Unknown sessionId emptyTree where
  directories location member inside := by
    rw [List.mem_singleton.mp member] at inside
    have long := inside.length_le
    simp [sessionDirectory, dataDirectory] at long
  files _ _ := rfl
  row := rfl

/-- The commit fails: nothing of the session remains. -/
theorem serviceStart_allOrNothing_commit :
    AllOrNothing sampleSessionId emptyTree
      (serviceStart 1 Nat.one_pos { calmStart with committing := some .sqlite } (Dbc.text "stream") emptyTree) := by
  have unknown := emptyTree_unknown sampleSessionId
  have whole := @serviceStart_allOrNothing { calmStart with committing := some .sqlite } (Dbc.text "stream") emptyTree 1
    Nat.one_pos unknown (fun _ => rfl)
  refine whole.mpr (.inr (.inr ⟨rfl, fun error faulted => ?_⟩))
  have fault : registrationFault { calmStart with committing := some .sqlite } (Dbc.text "stream") = some .sqlite := by
    decide
  rw [fault] at faulted
  cases faulted
  rfl

/-- A directory that remains refutes it. -/
theorem residue_refutes {sessionId : Uuid} {before : ProjectTree} {result : Except PyException Writer × ProjectTree}
    {error : PyException} (raised : result.1 = .error error)
    (remains : sessionDirectory sessionId ∈ result.2.directories) : ¬AllOrNothing sessionId before result := by
  obtain ⟨outcome, after⟩ := result
  obtain rfl : outcome = .error error := raised
  rintro ⟨_, clean, _⟩
  exact clean.directories _ remains (List.prefix_refl _)

/-- A stream identity with an unpaired surrogate escapes the handler, and a refused `segments` directory is not
compensated: both leave the session's directory behind. -/
theorem serviceStart_residue :
    ¬AllOrNothing sampleSessionId emptyTree (serviceStart 1 Nat.one_pos calmStart [0xD800] emptyTree) ∧
      ¬AllOrNothing sampleSessionId emptyTree (serviceStart 1 Nat.one_pos
        { calmStart with refuses := fun location => location == segmentsDirectory sampleSessionId }
        (Dbc.text "stream") emptyTree) := by
  constructor
  · have raised : (serviceStart 1 Nat.one_pos calmStart [0xD800] emptyTree).1 = .error .foreign := rfl
    exact residue_refutes raised (by decide)
  · have raised : (serviceStart 1 Nat.one_pos
        { calmStart with refuses := fun location => location == segmentsDirectory sampleSessionId }
        (Dbc.text "stream") emptyTree).1 = .error directoryCreateFailed := rfl
    exact residue_refutes raised (by decide)

end CanX.Data
