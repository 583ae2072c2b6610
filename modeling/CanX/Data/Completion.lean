import CanX.Data.Writer

/-! Which programs can make a session row `COMPLETED`, and what a thread may assume of
the others while it holds the writer. -/

namespace CanX.Data

open Domain Transition

variable {sessionId : Uuid}

def RowCompleted (sessionId : Uuid) (world : World) : Prop :=
  sessionState sessionId world.database = some .completed

/-- What a thread that does not hold the writer can do to the one that does. -/
def Beside (sessionId : Uuid) (before after : World) : Prop :=
  before.writer = after.writer ∧ (RowCompleted sessionId before ↔ RowCompleted sessionId after)

theorem Beside.refl (sessionId : Uuid) (world : World) : Beside sessionId world world :=
  ⟨rfl, Iff.rfl⟩

theorem Beside.trans (first : Beside sessionId a b) (second : Beside sessionId b c) :
    Beside sessionId a c :=
  ⟨first.1.trans second.1, first.2.trans second.2⟩

/-- The writer of a session that nothing has completed. -/
structure Open (sessionId : Uuid) (world : World) : Prop where
  named : world.writer.session.sessionId = sessionId
  uncompleted : world.writer.session.state ≠ .completed
  row : ¬RowCompleted sessionId world

/-- The writer of a session it has completed itself. -/
structure Shut (sessionId : Uuid) (world : World) : Prop where
  state : world.writer.session.state = .completed
  row : RowCompleted sessionId world

theorem Open.beside (opened : Open sessionId before) (moved : Beside sessionId before after) :
    Open sessionId after :=
  ⟨moved.1 ▸ opened.named, moved.1 ▸ opened.uncompleted, fun row => opened.row (moved.2.mpr row)⟩

theorem Shut.beside (shut : Shut sessionId before) (moved : Beside sessionId before after) :
    Shut sessionId after :=
  ⟨moved.1 ▸ shut.state, moved.2.mp shut.row⟩

def Uncompleted (sessionId : Uuid) (session : DataSession) : Prop :=
  session.sessionId = sessionId ∧ session.state ≠ .completed

/-- The effects of every writer call but a completion. -/
def keepsOpen (sessionId : Uuid) : DataEffect → Prop
  | .modifyWriter change => ∀ writer, Uncompleted sessionId writer.session →
      Uncompleted sessionId (change writer).session
  | .registerSegment _ session | .advanceSessionState session => Uncompleted sessionId session
  | _ => True

def openAnswers (sessionId : Uuid) :
    (request : DataEffect) → Except PyException request.Answer → Prop
  | .readWriter, .ok writer => Uncompleted sessionId writer.session
  | _, _ => True

/-- The effects of a call that an ended session refuses. -/
def onlyReads : DataEffect → Prop
  | .readWriter => True
  | _ => False

def endedAnswers : (request : DataEffect) → Except PyException request.Answer → Prop
  | .readWriter, .ok writer => writer.session.state ≠ .active
  | _, _ => True

/-- The effects of a thread that does not hold the writer. -/
def bystands : DataEffect → Prop
  | .utcNow | .failActiveSession _ _ | .markSessionInterrupted _ _ | .listSessionsInState _
  | .readSession _ => True
  | _ => False

def anyAnswer (request : DataEffect) (_ : Except PyException request.Answer) : Prop := True

abbrev KeepsOpen (sessionId : Uuid) {Value : Type} (program : DataProgram Value) : Prop :=
  Program.Conforms (keepsOpen sessionId) (openAnswers sessionId) program

abbrev OnlyReads {Value : Type} (program : DataProgram Value) : Prop :=
  Program.Conforms onlyReads endedAnswers program

abbrev Bystands {Value : Type} (program : DataProgram Value) : Prop :=
  Program.Conforms bystands anyAnswer program

/-! One effect of each kind. -/

private theorem sessionState_updateSession (session : DataSession) (database : Database) :
    sessionState sessionId (updateSession session database) =
      if session.sessionId = sessionId then
        (sessionState sessionId database).map fun _ => session.state
      else sessionState sessionId database := by
  simp only [sessionState, sessionRow_updateSession]
  split
  · simp [Function.comp_def]
  · rfl

private theorem registerSegment_uncompleted {segment : DataSegment} {session : DataSession}
    {database after : Database} (uncompleted : Uncompleted sessionId session)
    (registered : registerSegment segment session database = .ok after) :
    sessionState sessionId after ≠ some .completed := by
  obtain ⟨admitted, rfl⟩ := registerSegment_ok registered
  rw [sessionState_updateSession, if_pos uncompleted.1]
  intro completed
  obtain ⟨previous, -, same⟩ := Option.map_eq_some_iff.mp completed
  exact uncompleted.2 same

private theorem advance_uncompleted {session : DataSession} {database : Database}
    (uncompleted : Uncompleted sessionId session)
    (row : sessionState sessionId database ≠ some .completed) :
    sessionState sessionId (advanceSessionState session database).1 ≠ some .completed := by
  rw [advanceSessionState, sessionState_sessionAdvance]
  split
  · simpa using uncompleted.2
  · exact row

/-- An advance to another state than `COMPLETED` neither completes a row nor touches a
completed one. -/
theorem advance_completed_iff {named : Uuid} {state : DataSessionState}
    {endedAt : Option DateTime} {updatedAt : DateTime} {database : Database}
    (other : state ≠ .completed) :
    sessionState sessionId (sessionAdvance named state endedAt updatedAt database).1 =
      some .completed ↔ sessionState sessionId database = some .completed := by
  rw [sessionState_sessionAdvance]
  split
  · rename_i advanced
    simp [advanced.2, other]
  · rfl

theorem perform_open {request : DataEffect} {world : World} (choice : Choice)
    (opened : Open sessionId world) (keeps : keepsOpen sessionId request) :
    Open sessionId (perform request choice world).1 ∧
      openAnswers sessionId request (perform request choice world).2 := by
  obtain ⟨named, uncompleted, row⟩ := opened
  unfold perform
  split
  · cases request <;> exact ⟨⟨named, uncompleted, row⟩, trivial⟩
  cases request with
  | readWriter => exact ⟨⟨named, uncompleted, row⟩, named, uncompleted⟩
  | modifyWriter change =>
    obtain ⟨named, uncompleted⟩ := keeps world.writer ⟨named, uncompleted⟩
    exact ⟨⟨named, uncompleted, row⟩, trivial⟩
  | registerSegment segment session =>
    refine ⟨?_, trivial⟩
    simp only [act, World.committed]
    split
    · rename_i after committed
      exact ⟨named, uncompleted,
        registerSegment_uncompleted keeps (storageErrors_ok committed)⟩
    · exact ⟨named, uncompleted, row⟩
  | advanceSessionState session =>
    exact ⟨⟨named, uncompleted, advance_uncompleted keeps row⟩, trivial⟩
  | failActiveSession sessionId moment =>
    exact ⟨⟨named, uncompleted, mt (advance_completed_iff (by decide)).mp row⟩, trivial⟩
  | markSessionInterrupted sessionId moment =>
    exact ⟨⟨named, uncompleted, mt (advance_completed_iff (by decide)).mp row⟩, trivial⟩
  | fileSize path => simp only [act]; split <;> exact ⟨⟨named, uncompleted, row⟩, trivial⟩
  | removeFile path => simp only [act]; split <;> exact ⟨⟨named, uncompleted, row⟩, trivial⟩
  | replaceFile source target =>
    simp only [act]
    split <;> exact ⟨⟨named, uncompleted, row⟩, trivial⟩
  | framesToTable table => simp only [act]; split <;> exact ⟨⟨named, uncompleted, row⟩, trivial⟩
  | _ => exact ⟨⟨named, uncompleted, row⟩, trivial⟩

theorem perform_shut {request : DataEffect} {world : World} (choice : Choice)
    (shut : Shut sessionId world) (reads : onlyReads request) :
    Shut sessionId (perform request choice world).1 ∧
      endedAnswers request (perform request choice world).2 := by
  cases request with
  | readWriter =>
    refine ⟨shut, ?_⟩
    show world.writer.session.state ≠ .active
    rw [shut.state]
    decide
  | _ => exact reads.elim

theorem perform_beside {request : DataEffect} {choice : Choice} {world : World}
    (stands : bystands request) :
    Beside sessionId world (perform request choice world).1 := by
  unfold perform
  split
  · cases request <;> first | exact stands.elim | exact Beside.refl _ _
  cases request with
  | failActiveSession named moment => exact ⟨rfl, (advance_completed_iff (by decide)).symm⟩
  | markSessionInterrupted named moment => exact ⟨rfl, (advance_completed_iff (by decide)).symm⟩
  | utcNow => exact Beside.refl _ _
  | listSessionsInState state => exact Beside.refl _ _
  | readSession named => exact Beside.refl _ _
  | _ => exact stands.elim

/-! What each call performs. -/

theorem made_conforms {Value : Type} {admits : DataEffect → Prop}
    {answers : (request : DataEffect) → Except PyException request.Answer → Prop}
    (outcome : Except DataError Value) :
    Program.Conforms admits answers (made outcome) := by
  cases outcome <;> trivial

theorem made_ok_bind {Value Other : Type} (value : Value)
    (continuation : Value → DataProgram Other) :
    (made (.ok value) >>= continuation) = continuation value := rfl

theorem removeQuietly_keepsOpen (path : String) : KeepsOpen sessionId (removeQuietly path) :=
  Program.Conforms.catching (.effect trivial) fun error => by cases error <;> trivial

theorem withState_uncompleted {session failed : DataSession} {row : SessionRow}
    (kept : Uncompleted sessionId session)
    (built : DataSession.make row = .ok failed) (named : row.sessionId = session.sessionId)
    (state : row.state = .failed ∨ row.state = session.state) :
    Uncompleted sessionId failed := by
  have same := DataSession.make_row built
  constructor
  · rw [same, named]
    exact kept.1
  · rw [same]
    rcases state with failing | unchanged
    · simp [failing]
    · rw [unchanged]
      exact kept.2

/-- Raising a refused constructor performs nothing, and a value it returns was made. -/
theorem made_bind_conforms {Value Other : Type} {admits : DataEffect → Prop}
    {answers : (request : DataEffect) → Except PyException request.Answer → Prop}
    {outcome : Except DataError Value} {continuation : Value → DataProgram Other}
    (rest : ∀ value, outcome = .ok value →
      Program.Conforms admits answers (continuation value)) :
    Program.Conforms admits answers (made outcome >>= continuation) := by
  cases outcome with
  | ok value => exact rest value rfl
  | error error => trivial

private theorem suppressStorage_keepsOpen {program : DataProgram Bool}
    (kept : KeepsOpen sessionId program) : KeepsOpen sessionId (suppressStorage program) :=
  Program.Conforms.catching kept fun error => by
    split <;> trivial

theorem markFailed_keepsOpen : KeepsOpen sessionId markFailed := by
  refine .effect_bind trivial fun writer kept => ?_
  refine .effect_bind trivial fun updatedAt _ => ?_
  refine made_bind_conforms fun failed built => ?_
  have uncompleted : Uncompleted sessionId failed :=
    withState_uncompleted kept built rfl (.inl rfl)
  refine .effect_bind (fun _ _ => uncompleted) fun _ _ => ?_
  exact .bind (suppressStorage_keepsOpen (.effect uncompleted)) fun _ => trivial

private theorem writeSegment_keepsOpen (path : String) (table : SegmentTable) :
    KeepsOpen sessionId (writeSegment path table) := by
  unfold writeSegment
  split
  · trivial
  refine .catching ?_ fun error => ?_
  · exact .effect_bind trivial fun _ _ => .effect_bind trivial fun _ _ =>
      .effect_bind trivial fun _ _ => .effect_bind trivial fun _ _ =>
      .effect_bind trivial fun _ _ => trivial
  · cases error <;> first | trivial | exact .bind (removeQuietly_keepsOpen _) fun _ => trivial

private theorem commitFrames_keepsOpen {session : DataSession} (kept : Uncompleted sessionId session)
    (target : String) (frames : List Frame) (first last : Frame) :
    KeepsOpen sessionId (commitFrames session target frames first last) := by
  refine .effect_bind trivial fun createdAt _ => ?_
  refine .bind (.catching (writeSegment_keepsOpen _ _) fun error => ?_) fun byteSize => ?_
  · cases error <;> first | trivial | exact .bind markFailed_keepsOpen fun _ => trivial
  refine .effect_bind trivial fun segmentId _ => ?_
  refine made_bind_conforms fun segment _ => ?_
  refine .effect_bind trivial fun updatedAt _ => ?_
  refine made_bind_conforms fun updated built => ?_
  have uncompleted : Uncompleted sessionId updated :=
    withState_uncompleted kept built rfl (.inr rfl)
  refine .bind (.catching (.effect uncompleted) fun error => ?_) fun _ => ?_
  · split
    · exact .bind (removeQuietly_keepsOpen _) fun _ => .bind markFailed_keepsOpen fun _ => trivial
    · trivial
  · exact .effect fun _ _ => uncompleted

private theorem commitSegment_keepsOpen (frames : List Frame) :
    KeepsOpen sessionId (commitSegment frames) := by
  refine .effect_bind trivial fun writer kept => ?_
  refine .effect_bind trivial fun target _ => ?_
  split
  · exact commitFrames_keepsOpen kept _ _ _ _
  · trivial

private theorem flushFullSegments_keepsOpen (rounds : Nat) :
    KeepsOpen sessionId (flushFullSegments rounds) := by
  induction rounds with
  | zero => trivial
  | succ rounds ih =>
    refine .effect_bind trivial fun writer _ => ?_
    split
    · exact .bind (commitSegment_keepsOpen _) fun _ =>
        .effect_bind (fun _ kept => kept) fun _ _ => ih
    · trivial

/-- An ended session refuses every call on its writer at its first check. -/
theorem requireActive_bind_onlyReads {Value : Type} (continuation : Unit → DataProgram Value) :
    OnlyReads (requireActive >>= continuation) := by
  refine ⟨trivial, fun answer ended => ?_⟩
  cases answer with
  | ok writer =>
    have inactive : writer.session.state ≠ .active := ended
    dsimp only [bind, Program.bind, Program.andThen]
    rw [if_neg inactive]
    trivial
  | error error => trivial

theorem append_onlyReads (batch : FrameBatch) : OnlyReads (append batch) :=
  requireActive_bind_onlyReads _

theorem requireActive_keepsOpen : KeepsOpen sessionId requireActive :=
  .effect_bind trivial fun _ _ => by
    split <;> trivial

theorem append_keepsOpen (batch : FrameBatch) : KeepsOpen sessionId (append batch) :=
  .bind requireActive_keepsOpen fun _ => .effect_bind trivial fun _ _ =>
    .bind (made_conforms _) fun _ => .effect_bind (fun _ kept => kept) fun _ _ =>
    flushFullSegments_keepsOpen _

theorem flushPending_keepsOpen : KeepsOpen sessionId flushPending :=
  .bind requireActive_keepsOpen fun _ => .effect_bind trivial fun _ _ => by
    split
    · trivial
    · exact .bind (commitSegment_keepsOpen _) fun _ => .effect fun _ kept => kept

theorem fail_keepsOpen : KeepsOpen sessionId Data.fail :=
  .effect_bind trivial fun _ _ => by
    split
    · exact .effect_bind (fun _ kept => kept) fun _ _ => .bind markFailed_keepsOpen fun _ => trivial
    · trivial

private theorem discarding_conforms {Value : Type} {admits : DataEffect → Prop}
    {answers : (request : DataEffect) → Except PyException request.Answer → Prop}
    {program : DataProgram Value} (conforms : Program.Conforms admits answers program) :
    Program.Conforms admits answers (discarding program) :=
  conforms.andThen fun _ => trivial

theorem serviceFailActiveSession_bystands (named : Uuid) :
    Bystands (serviceFailActiveSession named) :=
  .effect_bind trivial fun _ _ => .effect trivial

private theorem markInterrupted_bystands (moment : DateTime) (sessions : List DataSession) :
    Bystands (markInterrupted moment sessions) := by
  induction sessions with
  | nil => trivial
  | cons session rest ih => exact .effect_bind trivial fun _ _ => ih

theorem ServiceCall.program_bystands (call : ServiceCall) : Bystands call.program := by
  cases call with
  | failActiveSession named =>
    exact discarding_conforms (serviceFailActiveSession_bystands named)
  | recoverIncompleteSessions =>
    exact discarding_conforms (.effect_bind trivial fun _ _ => .effect_bind trivial fun _ _ =>
      .bind (markInterrupted_bystands _ _) fun _ => trivial)

/-! The completion, and the helper that asks the row for the verdict. -/

/-- A completed row stays completed. -/
def KeepsCompleted (sessionId : Uuid) (before after : World) : Prop :=
  RowCompleted sessionId before → RowCompleted sessionId after

def anyChoice (_ : World) (_ : DataEffect) (_ : Choice) : Prop := True

/-- Triples of the thread that holds the writer while it completes the session. -/
abbrev CompletionTriple (sessionId : Uuid) {Value : Type} (pre : World → Prop)
    (program : DataProgram Value) (post : Except PyException Value → World → Prop) : Prop :=
  Program.Triple perform anyChoice (Beside sessionId)
    (fun before _ after => KeepsCompleted sessionId before after) pre program post

theorem stable_open : Program.Stable (Beside sessionId) (Open sessionId) :=
  fun _ _ moved opened => opened.beside moved

theorem KeepsOpen.triple {Value : Type} {program : DataProgram Value}
    (kept : KeepsOpen sessionId program) :
    CompletionTriple sessionId (Open sessionId) program (fun _ => Open sessionId) :=
  Program.Triple.of_conforms stable_open (fun _ _ _ opened keeps _ =>
    ⟨fun row => absurd row opened.row, perform_open _ opened keeps⟩) kept

/-- The row is completed and the writer does not know it yet. -/
structure Granted (sessionId : Uuid) (world : World) : Prop where
  row : RowCompleted sessionId world

theorem stable_granted : Program.Stable (Beside sessionId) (Granted sessionId) :=
  fun _ _ moved granted => ⟨moved.2.mp granted.row⟩

def afterAdvance (sessionId : Uuid) : Except PyException Bool → World → Prop
  | .ok true => Granted sessionId
  | _ => Open sessionId

private theorem stable_afterAdvance (result : Except PyException Bool) :
    Program.Stable (Beside sessionId) (afterAdvance sessionId result) := by
  cases result with
  | ok advanced =>
    cases advanced with
    | true => exact stable_granted
    | false => exact stable_open
  | error error => exact stable_open

/-- The conditional write completes the row exactly when it reports that it advanced. -/
theorem perform_advance_completed {completed : DataSession} {choice : Choice} {world : World}
    (named : completed.sessionId = sessionId) (state : completed.state = .completed)
    (opened : Open sessionId world) :
    afterAdvance sessionId (perform (.advanceSessionState completed) choice world).2
      (perform (.advanceSessionState completed) choice world).1 := by
  unfold perform
  split
  · exact opened
  have moved := sessionState_sessionAdvance sessionId completed.sessionId completed.state
    completed.endedAt completed.updatedAt world.database
  have won := sessionAdvance_won completed.sessionId completed.state
    completed.endedAt completed.updatedAt world.database
  rw [named] at moved won
  simp only [act, World.advanced, advanceSessionState, named]
  by_cases active : sessionState sessionId world.database = some .active
  · rw [won.mpr active]
    rw [if_pos ⟨rfl, active⟩] at moved
    exact ⟨moved.trans (congrArg some state)⟩
  · have lost : (sessionAdvance sessionId completed.state completed.endedAt completed.updatedAt
        world.database).2 = false := by
      rw [← Bool.not_eq_true, won]
      exact active
    rw [lost]
    rw [if_neg (fun both => active both.2)] at moved
    exact ⟨opened.named, opened.uncompleted, fun row => opened.row (moved.symm.trans row)⟩

theorem advanceOrFail_triple {completed : DataSession} (named : completed.sessionId = sessionId)
    (state : completed.state = .completed) :
    CompletionTriple sessionId (Open sessionId) (advanceOrFail completed)
      (afterAdvance sessionId) := by
  refine .catching (Beside.refl _) (.effect stable_open stable_afterAdvance ?_)
    (fun value => ⟨stable_afterAdvance _, fun _ reached => reached⟩) fun error => ?_
  · intro world choice opened _
    exact ⟨fun row => absurd row opened.row, perform_advance_completed named state opened⟩
  · split
    · exact .bind (Beside.refl _) markFailed_keepsOpen.triple
        (fun _ => .finish stable_open fun _ opened => opened)
        (fun _ => ⟨stable_open, fun _ opened => opened⟩)
    · exact .finish stable_open fun _ opened => opened

def afterCompletion (sessionId : Uuid) : Except PyException DataSession → World → Prop
  | .ok _ => Shut sessionId
  | .error _ => Open sessionId

private theorem stable_shut : Program.Stable (Beside sessionId) (Shut sessionId) :=
  fun _ _ moved shut => shut.beside moved

/-- An effect that tells nothing and leaves the session as it is. -/
theorem effect_triple {request : DataEffect} (keeps : keepsOpen sessionId request) :
    CompletionTriple sessionId (Open sessionId) (ask request) (fun _ => Open sessionId) :=
  KeepsOpen.triple (.effect keeps)

private theorem readWriter_triple :
    CompletionTriple sessionId (Open sessionId) (ask .readWriter) fun result world =>
      Open sessionId world ∧ openAnswers sessionId .readWriter result := by
  refine .effect stable_open (fun _ _ _ moved reached => ⟨reached.1.beside moved, reached.2⟩) ?_
  intro world choice opened _
  exact ⟨fun row => absurd row opened.row, perform_open _ opened trivial⟩

private theorem assignCompleted_triple {completed : DataSession} (state : completed.state = .completed) :
    CompletionTriple sessionId (Granted sessionId)
      (ask (.modifyWriter (·.withSession completed))) fun result world =>
        result.isOk = true ∧ Shut sessionId world := by
  refine .effect stable_granted
    (fun _ _ _ moved reached => ⟨reached.1, reached.2.beside moved⟩) ?_
  intro world choice granted _
  exact ⟨fun row => row, rfl, state, granted.row⟩

/-- The decisive half of a finalization: it returns with a completed row and writer, or
it raises and the row is not completed. -/
theorem commitCompleted_triple :
    CompletionTriple sessionId (Open sessionId) commitCompleted (afterCompletion sessionId) := by
  have raised : ∀ error : PyException,
      Program.Stable (Beside sessionId) (afterCompletion sessionId (.error error)) ∧
        ∀ world, Open sessionId world → afterCompletion sessionId (.error error) world :=
    fun _ => ⟨stable_open, fun _ opened => opened⟩
  refine .bind (Beside.refl _) requireActive_keepsOpen.triple (fun _ => ?_) raised
  refine .bind (Beside.refl _) (effect_triple trivial) (fun endedAt => ?_) raised
  refine .bind (Beside.refl _) readWriter_triple (fun writer => ?_)
    (fun error => ⟨stable_open, fun _ reached => reached.1⟩)
  intro world reached
  obtain ⟨opened, kept⟩ := reached
  suffices remaining : CompletionTriple sessionId (Open sessionId) _ (afterCompletion sessionId)
    from remaining world opened
  generalize completing : DataSession.make _ = outcome
  cases outcome with
  | error error => exact .finish (raised _).1 (raised _).2
  | ok completed =>
    have row := DataSession.make_row completing
    have named : completed.sessionId = sessionId := by rw [row]; exact kept.1
    have state : completed.state = .completed := by rw [row]
    rw [made_ok_bind]
    refine .bind (Beside.refl _) (advanceOrFail_triple named state) (fun advanced => ?_) raised
    cases advanced with
    | true =>
      exact .bind (Beside.refl _) (assignCompleted_triple state)
        (fun _ => .finish stable_shut fun _ reached => reached.2)
        fun _ => ⟨stable_open, fun _ reached => by cases reached.1⟩
    | false =>
      exact .bind (Beside.refl _) markFailed_keepsOpen.triple
        (fun _ => .finish stable_open fun _ opened => opened) raised

/-- Triples of a thread that does not hold the writer: the others may complete the row. -/
abbrev BystanderTriple (sessionId : Uuid) {Value : Type} (pre : World → Prop)
    (program : DataProgram Value) (post : Except PyException Value → World → Prop) : Prop :=
  Program.Triple perform anyChoice (KeepsCompleted sessionId)
    (fun before _ after => Beside sessionId before after) pre program post

theorem KeepsCompleted.refl (world : World) : KeepsCompleted sessionId world world :=
  fun row => row

theorem Beside.keepsCompleted (moved : Beside sessionId before after) :
    KeepsCompleted sessionId before after :=
  moved.2.mp

private theorem readSession_completed {database : Database} {session : DataSession}
    (read : readSession sessionId database = .ok (some session))
    (state : session.state = .completed) :
    sessionState sessionId database = some .completed := by
  unfold readSession at read
  split at read
  · cases read
  · rename_i row found
    unfold sessionFromRow at read
    split at read
    · rename_i built
      cases read
      simp [sessionState, found, ← DataSession.make_row built, state]
    · cases read

/-- A session read as `COMPLETED` has a completed row. -/
def readTruly (sessionId : Uuid) : Except PyException (Option DataSession) → World → Prop
  | .ok (some session), world => session.state = .completed → RowCompleted sessionId world
  | _, _ => True

def reportedTruly (sessionId : Uuid) : Except PyException DataSession → World → Prop
  | .ok session, world => session.state = .completed → RowCompleted sessionId world
  | _, _ => True

private theorem stable_readTruly (result : Except PyException (Option DataSession)) :
    Program.Stable (KeepsCompleted sessionId) (readTruly sessionId result) := by
  intro before after moved reached
  match result, reached with
  | .ok (some session), reached => exact fun state => moved (reached state)
  | .ok none, _ => trivial
  | .error _, _ => trivial

private theorem stable_reportedTruly (result : Except PyException DataSession) :
    Program.Stable (KeepsCompleted sessionId) (reportedTruly sessionId result) := by
  intro before after moved reached
  cases result with
  | ok session => exact fun state => moved (reached state)
  | error error => trivial

theorem stable_always : Program.Stable (KeepsCompleted sessionId) fun _ => True :=
  fun _ _ _ _ => trivial

private theorem readSession_triple :
    BystanderTriple sessionId (fun _ => True) (ask (.readSession sessionId))
      (readTruly sessionId) := by
  refine .effect stable_always stable_readTruly fun world choice _ _ => ⟨perform_beside trivial, ?_⟩
  unfold perform
  split
  · trivial
  simp only [act]
  cases found : readSession sessionId world.database with
  | error error => trivial
  | ok stored =>
    cases stored with
    | none => trivial
    | some session => exact readSession_completed found

/-- What the settle thread asks: it reports `COMPLETED` only of a row that is, and
stays, completed. -/
theorem serviceGetSession_triple :
    BystanderTriple sessionId (fun _ => True) (serviceGetSession sessionId)
      (reportedTruly sessionId) := by
  refine .bind KeepsCompleted.refl readSession_triple (fun stored => ?_)
    fun _ => ⟨stable_always, fun _ _ => trivial⟩
  cases stored with
  | none => exact .finish stable_always fun _ _ => trivial
  | some session => exact .finish (stable_reportedTruly _) fun _ reached => reached

theorem bystands_triple {Value : Type} {program : DataProgram Value}
    (stands : Bystands program) :
    BystanderTriple sessionId (fun _ => True) program (fun _ _ => True) :=
  Program.Triple.of_conforms stable_always
    (fun _ _ _ _ bystanding _ => ⟨perform_beside bystanding, trivial, trivial⟩) stands

theorem Started.open (started : Started sessionId world) : Open sessionId world := by
  obtain ⟨projectId, streamId, startedAt, fresh⟩ := started.fresh
  refine ⟨by rw [fresh]; rfl, by rw [fresh]; simp [initialSession], ?_⟩
  intro completed
  simp [RowCompleted, sessionState, started.row, fresh, initialSession] at completed

end CanX.Data
