import CanX.Data.Writer
import CanX.Transition.Path

/-! One writer and any number of service calls of other threads and processes on the
same database, one statement block at a time: when a terminal session row is final. -/

namespace CanX.Data

open Domain Transition

/-- A call on the writer. -/
inductive WriterCall where
  | append (batch : FrameBatch)
  | flushPending
  | commitCompleted
  | fail

def WriterCall.program : WriterCall → DataProgram Unit
  | append batch => Data.append batch
  | flushPending => Data.flushPending
  | commitCompleted => discarding Data.commitCompleted
  | fail => discarding Data.fail

/-- The world, the writer call in progress and the service calls in progress. -/
structure Sharing where
  world : World
  writer : DataProgram Unit
  others : List (DataProgram Unit)

def Sharing.opened (world : World) : Sharing := ⟨world, pure (), []⟩

inductive Turn where
  | call (call : WriterCall)
  | write (choice : Choice)
  | intervene (call : ServiceCall)
  | other (position : Nat) (choice : Choice)

/-- One turn. The writer takes one call at a time; the effects of every call in
progress interleave freely. -/
def Sharing.step (state : Sharing) : Turn → Option (Sharing × Unit)
  | .call call =>
    match state.writer with
    | .finish _ => some ({ state with writer := call.program }, ())
    | .perform _ _ => none
  | .write choice =>
    (Program.step perform (state.writer, state.world) choice).map fun ((writer, world), _) =>
      ({ state with writer, world }, ())
  | .intervene call => some ({ state with others := state.others ++ [call.program] }, ())
  | .other position choice => do
    let running ← state.others[position]?
    let ((rest, world), _) ← Program.step perform (running, state.world) choice
    pure ({ state with world, others := state.others.set position rest }, ())

/-- A registration that no fault, bound integer or constraint of the tables stops. -/
def Registrable (segment : DataSegment) (session : DataSession) (database : Database) : Prop :=
  bindable segment.integers = true ∧ segmentAdmitted segment.toSegmentRow database = true ∧
    bindable session.integers = true

/-- The next effect is a segment registration that commits while its session's row is
already terminal. -/
def Rewrites (program : DataProgram Unit) (choice : Choice) (world : World) : Prop :=
  match program with
  | .perform (.registerSegment segment session) _ =>
    choice.fault = none ∧ Registrable segment session world.database ∧
      ∃ state, sessionState session.sessionId world.database = some state ∧ state.terminal
  | _ => False

/-- No segment registration commits on a terminal row. -/
def NoRewrite (state : Sharing) : Turn → Prop
  | .write choice => ¬Rewrites state.writer choice state.world
  | .other position choice => ∀ running, state.others[position]? = some running →
      ¬Rewrites running choice state.world
  | _ => True

theorem registerSegment_registrable {segment : DataSegment} {session : DataSession}
    {database after : Database}
    (registered : registerSegment segment session database = .ok after) :
    Registrable segment session database := by
  unfold registerSegment at registered
  split at registered
  · cases registered
  rename_i segmentBound
  split at registered
  · rename_i admitted
    split at registered
    · cases registered
    rename_i sessionBound
    exact ⟨by simpa using segmentBound, admitted, by simpa using sessionBound⟩
  · cases registered

/-- Another session's row is left alone by a registration. -/
theorem sessionState_registerSegment_other {segment : DataSegment} {session : DataSession}
    {database after : Database} {sessionId : Uuid}
    (registered : registerSegment segment session database = .ok after)
    (other : session.sessionId ≠ sessionId) :
    sessionState sessionId after = sessionState sessionId database := by
  obtain ⟨admitted, rfl⟩ := registerSegment_ok registered
  simp [sessionState, sessionRow_updateSession, other]

/-- One effect keeps a terminal row's state unless it is a rewriting registration. -/
theorem perform_terminal {request : DataEffect} {choice : Choice} {world : World}
    {sessionId : Uuid} {state : DataSessionState}
    (next : Except PyException request.Answer → DataProgram Unit)
    (stored : sessionState sessionId world.database = some state) (terminal : state.terminal)
    (harmless : ¬Rewrites (.perform request next) choice world) :
    sessionState sessionId (perform request choice world).1.database = some state := by
  unfold perform
  split
  · cases request <;> exact stored
  rename_i calm
  cases request with
  | registerSegment segment session =>
    simp only [act, World.committed]
    split
    · rename_i after committed
      have registered := storageErrors_ok committed
      by_cases same : session.sessionId = sessionId
      · refine absurd ⟨?_, registerSegment_registrable registered, state, ?_, terminal⟩ harmless
        · simpa [DataEffect.inMemory] using calm
        · rw [same]
          exact stored
      · rw [sessionState_registerSegment_other registered same]
        exact stored
    · exact stored
  | advanceSessionState session =>
    exact sessionState_sessionAdvance_terminal _ _ _ _ stored terminal
  | failActiveSession named moment =>
    exact sessionState_sessionAdvance_terminal _ _ _ _ stored terminal
  | markSessionInterrupted named moment =>
    exact sessionState_sessionAdvance_terminal _ _ _ _ stored terminal
  | fileSize path => simp only [act]; split <;> exact stored
  | removeFile path => simp only [act]; split <;> exact stored
  | replaceFile source target => simp only [act]; split <;> exact stored
  | framesToTable table => simp only [act]; split <;> exact stored
  | _ => exact stored

/-- One effect of a program that does not rewrite keeps a terminal row's state. -/
theorem program_terminal {program rest : DataProgram Unit} {choice : Choice}
    {world after : World} {request : DataEffect} {sessionId : Uuid} {state : DataSessionState}
    (moved : Program.step perform (program, world) choice = some ((rest, after), request))
    (stored : sessionState sessionId world.database = some state) (terminal : state.terminal)
    (harmless : ¬Rewrites program choice world) :
    sessionState sessionId after.database = some state := by
  cases program with
  | finish result => simp [Program.step] at moved
  | perform asked next =>
    simp only [Program.step, Option.some.injEq, Prod.mk.injEq] at moved
    obtain ⟨⟨rfl, rfl⟩, rfl⟩ := moved
    exact perform_terminal next stored terminal harmless

theorem step_terminal {before after : Sharing} {turn : Turn} {output : Unit}
    {sessionId : Uuid} {state : DataSessionState}
    (moved : before.step turn = some (after, output)) (harmless : NoRewrite before turn)
    (stored : sessionState sessionId before.world.database = some state)
    (terminal : state.terminal) :
    sessionState sessionId after.world.database = some state := by
  cases turn with
  | call call =>
    simp only [Sharing.step] at moved
    split at moved
    · cases moved
      exact stored
    · cases moved
  | write choice =>
    simp only [Sharing.step, Option.map_eq_some_iff] at moved
    obtain ⟨⟨⟨rest, world⟩, request⟩, progressed, same⟩ := moved
    cases same
    exact program_terminal progressed stored terminal harmless
  | intervene call =>
    cases moved
    exact stored
  | other position choice =>
    simp only [Sharing.step, Option.bind_eq_bind, Option.bind_eq_some_iff] at moved
    obtain ⟨running, found, ⟨⟨rest, world⟩, request⟩, progressed, same⟩ := moved
    cases same
    exact program_terminal progressed stored terminal (harmless running found)

/-- Once a session row is terminal, a run in which no segment registration commits on
a terminal row never changes its state. -/
theorem terminal_row_final {source target : Sharing} {trace : List (Turn × Unit)}
    {sessionId : Uuid} {state : DataSessionState}
    (run : Path Sharing.step NoRewrite source trace target)
    (stored : sessionState sessionId source.world.database = some state)
    (terminal : state.terminal) :
    sessionState sessionId target.world.database = some state :=
  run.preserves (fun reached => sessionState sessionId reached.world.database = some state)
    (fun _ _ _ _ stored harmless moved => step_terminal moved harmless stored terminal) stored

def sampleSharing : Sharing := .opened (sampleWorld 1 Nat.one_pos)

theorem zero_unsigned : 0 ≤ 0xFFFFFFFFFFFFFFFF := Nat.zero_le _

/-- A one-frame append that is interrupted, right before it registers its segment, by a recovery that lists the session
and by another party that fails it. -/
def listedAndFailed : List Turn :=
  .call (.append (sampleBatch 0 zero_unsigned)) :: List.replicate 14 (.write calm) ++
    [.intervene .recoverIncompleteSessions, .other 0 calm, .other 0 calm,
      .intervene (.failActiveSession sampleSessionId), .other 1 calm, .other 1 calm]

/-- The recovery marks the session that it listed, and the registration meets a locked database: the writer removes its
file and fails the session. -/
def refusedAfterwards : List Turn :=
  .other 0 calm :: .write { calm with fault := some .sqlite } :: List.replicate 5 (.write calm)

/-- The next effect is no registration that commits. -/
def sparesRow (program : DataProgram Unit) (choice : Choice) : Bool :=
  match program with
  | .perform (.registerSegment _ _) _ => choice.fault.isSome
  | _ => true

def sparesRows (state : Sharing) : Turn → Bool
  | .write choice => sparesRow state.writer choice
  | .other position choice => (state.others[position]?).all fun running => sparesRow running choice
  | _ => true

private theorem sparesRow_sound {program : DataProgram Unit} {choice : Choice} {world : World}
    (spared : sparesRow program choice = true) : ¬Rewrites program choice world := by
  intro rewrites
  unfold Rewrites at rewrites
  split at rewrites
  · rw [sparesRow, rewrites.1] at spared
    cases spared
  · exact rewrites

private theorem sparesRows_sound (state : Sharing) (turn : Turn) (spared : sparesRows state turn = true) :
    NoRewrite state turn := by
  cases turn with
  | call call => trivial
  | write choice => exact sparesRow_sound spared
  | intervene call => trivial
  | other position choice =>
    intro running found
    rw [sparesRows, found] at spared
    exact sparesRow_sound spared

/-- The state of the session's row, and the state that its writer holds. -/
def rowAndWriter (reached : Sharing) : Option DataSessionState × DataSessionState :=
  (sessionState sampleSessionId reached.world.database, reached.world.writer.session.state)

/-- A recovery, a failed registration and the writer's own failure all meet the row that another party failed. -/
theorem terminal_row_final_failed :
    ∃ before after middle final,
      Path Sharing.step anyLabel sampleSharing before middle ∧
      Path Sharing.step NoRewrite middle after final ∧
      middle.world.writer.session.state = .active ∧ final.world.writer.session.state = .failed ∧
      sessionState sampleSessionId middle.world.database = some .failed ∧
      sessionState sampleSessionId final.world.database = some .failed := by
  have evaluated : (follow Sharing.step sampleSharing listedAndFailed).bind (fun reached =>
      (followWithin Sharing.step sparesRows reached.1 refusedAfterwards).map fun last =>
        (rowAndWriter reached.1, rowAndWriter last.1)) =
          some ((some .failed, .active), (some .failed, .failed)) := by
    decide +kernel
  obtain ⟨before, after, middle, final, begun, run, early, late⟩ :=
    Path.observed_then _ _ rowAndWriter _ _ sparesRows_sound evaluated
  obtain ⟨stored, active⟩ := Prod.mk.inj early
  obtain ⟨-, failed⟩ := Prod.mk.inj late
  exact ⟨before, after, middle, final, begun, run, active, failed, stored,
    terminal_row_final run stored (by decide)⟩

/-- A one-frame append that is interrupted, right before it registers its segment, by
another party failing the session. -/
def failedMidFlush : List Turn :=
  .call (.append (sampleBatch 0 zero_unsigned)) :: List.replicate 14 (.write calm) ++
    [.intervene (.failActiveSession sampleSessionId), .other 0 calm, .other 0 calm]

/-- The registration lands, and the next completion is granted. -/
def completedAfterwards : List Turn :=
  List.replicate 3 (.write calm) ++ .call .commitCompleted :: List.replicate 5 (.write calm)

/-- A session row another party declared `FAILED` ends `COMPLETED`. -/
theorem failed_row_completed :
    ∃ before after middle final,
      Path Sharing.step anyLabel sampleSharing before middle ∧
      Path Sharing.step anyLabel middle after final ∧
      sessionState sampleSessionId middle.world.database = some .failed ∧
      sessionState sampleSessionId final.world.database = some .completed :=
  Path.observed_twice failedMidFlush completedAfterwards
    (fun reached : Sharing => sessionState sampleSessionId reached.world.database) _ _
    (by decide +kernel)

end CanX.Data
