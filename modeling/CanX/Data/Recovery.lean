import CanX.Data.Finality
import CanX.Transition.Raising

/-! `DataSessionService.recover_incomplete_sessions` among live writers and other recoveries: one effect of the call, or
one transaction of another party, at a time. -/

namespace CanX.Data

open Domain Storage Transition

/-- The `now` argument of a recovery. -/
inductive RecoveryTime where
  | omitted
  | aware (moment : DateTime)
  | naive

def invalidRecoveryTime : PyException :=
  .data (validationError "data.session.invalid_recovery_time" "now must be a timezone-aware datetime.")

/-- What a recovery does once its moment is known. -/
def recoverAt (moment : DateTime) : DataProgram (List Uuid) := do
  let active ← ask (.listSessionsInState .active)
  markInterrupted moment active
  pure (active.map (·.sessionId))

def recoverIncompleteSessions : RecoveryTime → DataProgram (List Uuid)
  | .omitted => serviceRecoverIncompleteSessions
  | .aware moment => recoverAt moment
  | .naive => raise invalidRecoveryTime

/-- A transaction of another thread or process: a writer completes or fails its session or registers a segment of it,
a service call fails, interrupts or starts one. A writer registers only what it takes to be active. -/
inductive Transaction where
  | advanceSessionState (session : DataSession) (terminal : session.state.terminal)
  | failActiveSession (sessionId : Uuid) (moment : DateTime)
  | markSessionInterrupted (sessionId : Uuid) (moment : DateTime)
  | insertSession (session : DataSession)
  | registerSegment (segment : DataSegment) (session : DataSession) (active : session.state = .active)

/-- The database after a transaction, which changes nothing if it raises. -/
def Database.after (database : Database) : Except PyException Database → Database
  | .ok committed => committed
  | .error _ => database

def Transaction.apply : Transaction → Database → Database
  | advanceSessionState session _, database => (Data.advanceSessionState session database).1
  | failActiveSession sessionId moment, database => (Data.failActiveSession sessionId moment database).1
  | markSessionInterrupted sessionId moment, database => Data.markSessionInterrupted sessionId moment database
  | insertSession session, database => database.after (Data.insertSession session database)
  | registerSegment segment session _, database => database.after (Data.registerSegment segment session database)

/-- The session a transaction ends if it is still active. -/
def Transaction.ends : Transaction → Option Uuid
  | advanceSessionState session _ => some session.sessionId
  | failActiveSession sessionId _ | markSessionInterrupted sessionId _ => some sessionId
  | _ => none

def Ended (sessionId : Uuid) (database : Database) : Prop :=
  ∃ state, sessionState sessionId database = some state ∧ state.terminal

/-- A registration that commits while its session's row is already terminal. -/
def Transaction.Late (database : Database) : Transaction → Prop
  | registerSegment segment session _ => Registrable segment session database ∧ Ended session.sessionId database
  | _ => False

/-- Only the state, the end and the time of the last update of stored sessions differ. -/
structure Untouched (before after : Database) : Prop where
  segments : after.segments = before.segments
  rows : ∀ sessionId row, sessionRow sessionId before = some row →
    ∃ state endedAt updatedAt, sessionRow sessionId after = some (row.advanced state endedAt updatedAt)

/-- One call of the recovery among others: what it has listed and not yet updated, what it has, and what it has moved
from `ACTIVE` to `INTERRUPTED`. -/
structure Recovery where
  world : World
  program : DataProgram (List Uuid)
  pending : List Uuid
  done : List Uuid
  moved : List Uuid

namespace Recovery

def begun (world : World) (now : RecoveryTime) : Recovery := ⟨world, recoverIncompleteSessions now, [], [], []⟩

/-- Whether an update took a row from `ACTIVE` to `INTERRUPTED`. -/
def interrupts (sessionId : Uuid) (before after : Database) : Bool :=
  sessionState sessionId before = some .active ∧ sessionState sessionId after = some .interrupted

/-- The books after one effect of the call. -/
def account (state : Recovery) (after : Database) :
    (request : DataEffect) → Except PyException request.Answer → Recovery
  | .listSessionsInState _, .ok sessions => { state with pending := sessions.map (·.sessionId) }
  | .markSessionInterrupted sessionId _, .ok () =>
    { state with
      pending := state.pending.tail
      done := state.done ++ [sessionId]
      moved := if interrupts sessionId state.world.database after then state.moved ++ [sessionId] else state.moved }
  | _, _ => state

inductive Turn where
  | own (choice : Choice)
  | other (transaction : Transaction)

def withDatabase (state : Recovery) (database : Database) : Recovery :=
  { state with world := { state.world with database } }

def step (state : Recovery) : Recovery.Turn → Option (Recovery × Unit)
  | .own choice =>
    match state.program with
    | .finish _ => none
    | .perform request next =>
      let (world, answer) := perform request choice state.world
      some ({ state.account world.database request answer with world, program := next answer }, ())
  | .other transaction => some (state.withDatabase (transaction.apply state.world.database), ())

/-- No registration lands on a terminal row. -/
def Timely (state : Recovery) : Recovery.Turn → Prop
  | .own _ => True
  | .other transaction => ¬transaction.Late state.world.database

/-- Nor does another party end a session that the call has listed, before the call updates it. -/
def Undisturbed (state : Recovery) : Recovery.Turn → Prop
  | .own _ => True
  | .other transaction => ¬transaction.Late state.world.database ∧ ∀ sessionId ∈ state.pending,
      transaction.ends = some sessionId → sessionState sessionId state.world.database ≠ some .active

end Recovery

/-! What a transaction does to the row of a session. -/

theorem Ended.known (ended : Ended sessionId database) : sessionState sessionId database ≠ none := by
  obtain ⟨state, stored, _⟩ := ended
  rw [stored]
  simp

theorem ended_or_active (known : sessionState sessionId database ≠ none) :
    Ended sessionId database ∨ sessionState sessionId database = some .active := by
  obtain ⟨state, stored⟩ := Option.ne_none_iff_exists'.mp known
  by_cases active : state = .active
  · exact .inr (by rw [stored, active])
  · exact .inl ⟨state, stored, active⟩

theorem Ended.not_active (ended : Ended sessionId database) : sessionState sessionId database ≠ some .active := by
  obtain ⟨state, stored, terminal⟩ := ended
  intro active
  exact terminal (Option.some.inj (stored.symm.trans active))

theorem Ended.sessionAdvance (ended : Ended sessionId database) :
    Ended sessionId (sessionAdvance named state endedAt updatedAt database).1 := by
  obtain ⟨stored, held, terminal⟩ := ended
  exact ⟨stored, sessionState_sessionAdvance_terminal named state endedAt updatedAt held terminal, terminal⟩

theorem sessionAdvance_untouched :
    Untouched database (sessionAdvance named state endedAt updatedAt database).1 where
  segments := rfl
  rows sessionId row stored := by
    have moved := sessionRow_sessionAdvance sessionId named state endedAt updatedAt database
    rw [stored, Option.map_some] at moved
    split at moved
    · exact ⟨state, endedAt, updatedAt, moved⟩
    · exact ⟨row.state, row.endedAt, row.updatedAt, moved⟩

theorem Untouched.refl (database : Database) : Untouched database database where
  segments := rfl
  rows _ row stored := ⟨row.state, row.endedAt, row.updatedAt, stored⟩

theorem Untouched.trans {first second third : Database} (before : Untouched first second)
    (after : Untouched second third) : Untouched first third where
  segments := after.segments.trans before.segments
  rows sessionId row stored := by
    obtain ⟨_, _, _, between⟩ := before.rows sessionId row stored
    obtain ⟨state, endedAt, updatedAt, reached⟩ := after.rows sessionId _ between
    exact ⟨state, endedAt, updatedAt, reached⟩

/-- Every way to end a session is one conditional update to a terminal state. -/
theorem Transaction.apply_ends {transaction : Transaction} (ends : transaction.ends = some named) :
    ∃ state endedAt updatedAt, state.terminal ∧ ∀ database,
      transaction.apply database = (sessionAdvance named state endedAt updatedAt database).1 := by
  cases transaction with
  | advanceSessionState session terminal =>
    obtain rfl := Option.some.inj ends
    exact ⟨session.state, session.endedAt, session.updatedAt, terminal, fun _ => rfl⟩
  | failActiveSession sessionId moment =>
    obtain rfl := Option.some.inj ends
    exact ⟨.failed, none, moment, by decide, fun _ => rfl⟩
  | markSessionInterrupted sessionId moment =>
    obtain rfl := Option.some.inj ends
    exact ⟨.interrupted, some moment, moment, by decide, fun _ => rfl⟩
  | insertSession session => cases ends
  | registerSegment segment session active => cases ends

/-- A session that is registered already is not inserted again. -/
theorem sessionRow_insertSession (session : DataSession) (known : sessionRow sessionId database ≠ none) :
    sessionRow sessionId (database.after (insertSession session database)) = sessionRow sessionId database := by
  unfold insertSession
  split
  · rfl
  split
  · obtain ⟨row, stored⟩ := Option.ne_none_iff_exists'.mp known
    have present : database.sessions.find? (fun row => decide (row.sessionId = sessionId)) = some row := stored
    show (database.sessions ++ [session.toSessionRow]).find? (fun row => decide (row.sessionId = sessionId)) = _
    rw [List.find?_append, present, Option.some_or]
    exact stored.symm
  · rfl

/-- A registration rewrites the row it names to the writer's own snapshot, and no other. -/
theorem sessionState_registerSegment (segment : DataSegment) {session : DataSession}
    (active : session.state = .active) (known : sessionState sessionId database ≠ none) :
    sessionState sessionId (database.after (registerSegment segment session database)) =
        sessionState sessionId database ∨
      session.sessionId = sessionId ∧ Registrable segment session database ∧
        sessionState sessionId (database.after (registerSegment segment session database)) = some .active := by
  cases registered : registerSegment segment session database with
  | error error => exact .inl rfl
  | ok after =>
    by_cases same : session.sessionId = sessionId
    · refine .inr ⟨same, registerSegment_registrable registered, ?_⟩
      obtain ⟨admitted, rfl⟩ := registerSegment_ok registered
      obtain ⟨state, stored⟩ := Option.ne_none_iff_exists'.mp known
      obtain ⟨row, found, _⟩ := Option.map_eq_some_iff.mp stored
      have rewritten := sessionRow_updateSession sessionId session
        (insertSegment segment.toSegmentRow database admitted)
      rw [if_pos same, sessionRow_insertSegment, found, Option.map_some] at rewritten
      simp only [Database.after, sessionState, rewritten, Option.map_some, active]
    · exact .inl (sessionState_registerSegment_other registered same)

section Others

variable {transaction : Transaction} {database : Database} {sessionId : Uuid}

theorem Transaction.apply_known (known : sessionState sessionId database ≠ none) :
    sessionState sessionId (transaction.apply database) ≠ none := by
  have advances (named : Uuid) (state : DataSessionState) (endedAt : Option DateTime) (updatedAt : DateTime) :
      sessionState sessionId (sessionAdvance named state endedAt updatedAt database).1 ≠ none := by
    rw [sessionState_sessionAdvance]
    split
    · simp
    · exact known
  cases transaction with
  | advanceSessionState session terminal => exact advances _ _ _ _
  | failActiveSession named moment => exact advances _ _ _ _
  | markSessionInterrupted named moment => exact advances _ _ _ _
  | insertSession session =>
    have stored : sessionRow sessionId database ≠ none := fun absent => known (by rw [sessionState, absent]; rfl)
    have stays := sessionRow_insertSession session stored
    rw [Transaction.apply, sessionState, stays]
    exact known
  | registerSegment segment session active =>
    rcases sessionState_registerSegment segment active known with stays | ⟨_, _, rewritten⟩
    · rw [Transaction.apply, stays]
      exact known
    · rw [Transaction.apply, rewritten]
      simp

/-- Nothing but a late registration brings an ended session back. -/
theorem Transaction.apply_ended (timely : ¬transaction.Late database) (ended : Ended sessionId database) :
    Ended sessionId (transaction.apply database) := by
  cases transaction with
  | advanceSessionState session terminal => exact ended.sessionAdvance
  | failActiveSession named moment => exact ended.sessionAdvance
  | markSessionInterrupted named moment => exact ended.sessionAdvance
  | insertSession session =>
    have stored : sessionRow sessionId database ≠ none :=
      fun absent => ended.known (by rw [sessionState, absent]; rfl)
    have stays := sessionRow_insertSession session stored
    obtain ⟨state, stored, terminal⟩ := ended
    refine ⟨state, ?_, terminal⟩
    rw [Transaction.apply, sessionState, stays]
    exact stored
  | registerSegment segment session active =>
    rcases sessionState_registerSegment segment active ended.known with stays | ⟨rfl, registrable, _⟩
    · obtain ⟨state, stored, terminal⟩ := ended
      exact ⟨state, stays.trans stored, terminal⟩
    · exact absurd ⟨registrable, ended⟩ timely

/-- A session that a transaction does not end stays active. -/
theorem Transaction.apply_active (apart : transaction.ends ≠ some sessionId)
    (active : sessionState sessionId database = some .active) :
    sessionState sessionId (transaction.apply database) = some .active := by
  have known : sessionState sessionId database ≠ none := by simp [active]
  have advances {named : Uuid} (other : some named ≠ some sessionId) (state : DataSessionState)
      (endedAt : Option DateTime) (updatedAt : DateTime) :
      sessionState sessionId (sessionAdvance named state endedAt updatedAt database).1 = some .active := by
    rw [sessionState_sessionAdvance, if_neg fun both => other (congrArg some both.1)]
    exact active
  cases transaction with
  | advanceSessionState session terminal => exact advances apart _ _ _
  | failActiveSession named moment => exact advances apart _ _ _
  | markSessionInterrupted named moment => exact advances apart _ _ _
  | insertSession session =>
    have stored : sessionRow sessionId database ≠ none := fun absent => known (by rw [sessionState, absent]; rfl)
    have stays := sessionRow_insertSession session stored
    rw [Transaction.apply, sessionState, stays]
    exact active
  | registerSegment segment session snapshot =>
    rcases sessionState_registerSegment segment snapshot known with stays | ⟨_, _, rewritten⟩
    · exact stays.trans active
    · exact rewritten

theorem Transaction.apply_stopped (ends : transaction.ends = some sessionId)
    (active : sessionState sessionId database = some .active) : Ended sessionId (transaction.apply database) := by
  obtain ⟨state, endedAt, updatedAt, terminal, applied⟩ := Transaction.apply_ends ends
  refine ⟨state, ?_, terminal⟩
  rw [applied, sessionState_sessionAdvance, if_pos ⟨rfl, active⟩]

/-- Only a registration touches counters, bounds or segment rows. -/
theorem Transaction.apply_untouched
    (ordinary : ∀ segment session active, transaction ≠ .registerSegment segment session active) :
    Untouched database (transaction.apply database) := by
  cases transaction with
  | advanceSessionState session terminal => exact sessionAdvance_untouched
  | failActiveSession named moment => exact sessionAdvance_untouched
  | markSessionInterrupted named moment => exact sessionAdvance_untouched
  | insertSession session =>
    refine ⟨?_, fun sessionId row stored => ⟨row.state, row.endedAt, row.updatedAt, ?_⟩⟩
    · simp only [Transaction.apply, Data.insertSession]
      split
      · rfl
      split <;> rfl
    · rw [Transaction.apply, sessionRow_insertSession session (by simp [stored])]
      exact stored
  | registerSegment segment session active => exact absurd rfl (ordinary segment session active)

end Others

/-! The steps of the call itself. -/

private theorem sessionFromRow_row {row : SessionRow} {session : DataSession} (read : sessionFromRow row = .ok session) :
    session.toSessionRow = row := by
  unfold sessionFromRow at read
  split at read
  · rename_i made
    cases read
    exact DataSession.make_row made
  · cases read

/-- The listed sessions are the active ones, each once. -/
theorem listSessionsInState_ok {sessions : List DataSession}
    (listed : listSessionsInState .active database = .ok sessions) :
    (sessions.map (·.sessionId)).Nodup ∧ ∀ sessionId, sessionId ∈ sessions.map (·.sessionId) ↔
      sessionState sessionId database = some .active := by
  have keyed : ∀ row session, sessionFromRow row = .ok session → session.sessionId = row.sessionId :=
    fun row session read => congrArg SessionRow.sessionId (sessionFromRow_row read)
  have ids := mapM_map keyed listed
  have sorted := List.perm_insertionSort sessionOrder (database.sessions.filter (·.state = .active))
  have same := sorted.map SessionRow.sessionId
  rw [← ids] at same
  constructor
  · exact same.nodup_iff.mpr (database.session_key.sublist (List.filter_sublist.map _))
  · intro sessionId
    rw [same.mem_iff, List.mem_map]
    constructor
    · rintro ⟨row, member, rfl⟩
      obtain ⟨stored, active⟩ := List.mem_filter.mp member
      have found : sessionRow row.sessionId database = some row := lookup_of_mem database.session_key stored
      rw [sessionState, found, Option.map_some, of_decide_eq_true active]
    · intro active
      obtain ⟨row, found, state⟩ := Option.map_eq_some_iff.mp active
      exact ⟨row, List.mem_filter.mpr ⟨lookup_mem found, decide_eq_true state⟩, sessionRow_key found⟩

namespace Recovery

/-- What is left of the call once its list is read. -/
def marking (moment : DateTime) (sessions : List DataSession) (ids : List Uuid) : DataProgram (List Uuid) :=
  markInterrupted moment sessions >>= fun _ => pure ids

/-- How far the call has come. -/
inductive Phase : Recovery → Prop where
  | unread {world : World} (now : RecoveryTime) : Phase (.begun world now)
  | updating {world : World} {done moved : List Uuid} (moment : DateTime) (sessions : List DataSession) :
      Phase ⟨world, marking moment sessions (done ++ sessions.map (·.sessionId)),
        sessions.map (·.sessionId), done, moved⟩
  | raised {world : World} {pending done moved : List Uuid} (error : PyException) :
      Phase ⟨world, .finish (.error error), pending, done, moved⟩

/-- What one effect of the call can do. -/
inductive Own : Recovery → Recovery → Prop where
  | raised {state : Recovery} (error : PyException) : Own state { state with program := .finish (.error error) }
  | timed {world : World} (moment : DateTime) : Own (.begun world .omitted) (.begun world (.aware moment))
  | listed {world : World} (moment : DateTime) (sessions : List DataSession)
      (read : listSessionsInState .active world.database = .ok sessions) :
      Own (.begun world (.aware moment))
        ⟨world, marking moment sessions (sessions.map (·.sessionId)), sessions.map (·.sessionId), [], []⟩
  | updated {world : World} {done moved : List Uuid} (moment : DateTime) (session : DataSession)
      (sessions : List DataSession) :
      Own ⟨world, marking moment (session :: sessions) (done ++ (session :: sessions).map (·.sessionId)),
          (session :: sessions).map (·.sessionId), done, moved⟩
        ⟨{ world with database := markSessionInterrupted session.sessionId moment world.database },
          marking moment sessions (done ++ [session.sessionId] ++ sessions.map (·.sessionId)),
          sessions.map (·.sessionId), done ++ [session.sessionId],
          if sessionState session.sessionId world.database = some .active then moved ++ [session.sessionId]
          else moved⟩

variable {start database : Database} {world : World} {state next : Recovery} {sessionId : Uuid}

theorem interrupts_marked (sessionId : Uuid) (moment : DateTime) (database : Database) :
    interrupts sessionId database (markSessionInterrupted sessionId moment database) =
      decide (sessionState sessionId database = some .active) := by
  have moved := sessionState_sessionAdvance sessionId sessionId .interrupted (some moment) moment database
  by_cases active : sessionState sessionId database = some .active
  · rw [if_pos ⟨rfl, active⟩] at moved
    simp [interrupts, markSessionInterrupted, active, moved]
  · simp [interrupts, active]

/-- An effect outside the writer raises what its environment chose, or acts. -/
theorem perform_cases (request : DataEffect) (choice : Choice) (world : World) (outside : request.inMemory = false) :
    (∃ error, perform request choice world = (disturbed request world, .error error)) ∨
      perform request choice world = act request choice world := by
  cases faulted : choice.fault with
  | none => exact .inr (by simp [perform, outside, faulted])
  | some error => exact .inl ⟨error, by simp [perform, outside, faulted]⟩

theorem step_perform {request : DataEffect} {choice : Choice} {after : World}
    {answer : Except PyException request.Answer}
    (rest : Except PyException request.Answer → DataProgram (List Uuid)) (pending done moved : List Uuid)
    (outcome : perform request choice world = (after, answer)) :
    Recovery.step ⟨world, .perform request rest, pending, done, moved⟩ (.own choice) =
      some ({ account ⟨world, .perform request rest, pending, done, moved⟩ after.database request answer with
        world := after, program := rest answer }, ()) := by
  simp only [step, outcome]

theorem step_own {choice : Choice} (phase : Phase state) (stepped : state.step (.own choice) = some (next, ())) :
    Own state next := by
  cases phase with
  | raised error => cases stepped
  | @unread world now =>
    cases now with
    | naive => cases stepped
    | omitted =>
      rcases perform_cases .utcNow choice world rfl with ⟨error, outcome⟩ | outcome
      · cases (step_perform _ [] [] [] outcome).symm.trans stepped
        exact .raised error
      · cases (step_perform _ [] [] [] outcome).symm.trans stepped
        exact .timed choice.now
    | aware moment =>
      rcases perform_cases (.listSessionsInState .active) choice world rfl with ⟨error, outcome⟩ | outcome
      · cases (step_perform _ [] [] [] outcome).symm.trans stepped
        exact .raised error
      · cases read : listSessionsInState .active world.database with
        | error error =>
          have acted : perform (.listSessionsInState .active) choice world = (world, .error error) :=
            outcome.trans (by rw [act, read])
          cases (step_perform _ [] [] [] acted).symm.trans stepped
          exact .raised error
        | ok sessions =>
          have acted : perform (.listSessionsInState .active) choice world = (world, .ok sessions) :=
            outcome.trans (by rw [act, read])
          cases (step_perform _ [] [] [] acted).symm.trans stepped
          exact .listed moment sessions read
  | @updating world done moved moment sessions =>
    cases sessions with
    | nil => cases stepped
    | cons session rest =>
      rcases perform_cases (.markSessionInterrupted session.sessionId moment) choice world rfl with
        ⟨error, outcome⟩ | outcome
      · cases (step_perform _ _ done moved outcome).symm.trans stepped
        exact .raised error
      · have updated := @Own.updated world done moved moment session rest
        rw [List.append_assoc, List.singleton_append] at updated
        cases (step_perform _ _ done moved outcome).symm.trans stepped
        simp only [account, interrupts_marked, decide_eq_true_eq]
        exact updated

/-! What holds between two steps of any call, as long as no registration is late. -/

/-- A program that has not listed anything, or has raised. -/
def Unread (program : DataProgram (List Uuid)) : Prop :=
  (∃ now, program = recoverIncompleteSessions now) ∨ ∃ error, program = .finish (.error error)

structure Standing (start : Database) (state : Recovery) : Prop where
  unrepeated : (state.done ++ state.pending).Nodup
  known : ∀ sessionId ∈ state.pending, sessionState sessionId state.world.database ≠ none
  counted : ∀ sessionId ∈ state.moved, sessionId ∈ state.done
  lasting : ∀ sessionId, sessionState sessionId start ≠ none → sessionState sessionId state.world.database ≠ none
  covered : Unread state.program ∨ ∀ sessionId, sessionState sessionId start = some .active →
    Ended sessionId state.world.database ∨ sessionId ∈ state.pending
  phase : Phase state

/-- What the call reports will be what it did. -/
structure Intact (state : Recovery) : Prop where
  credited : ∀ sessionId ∈ state.done, sessionId ∈ state.moved
  active : ∀ sessionId ∈ state.pending, sessionState sessionId state.world.database = some .active

theorem begun_standing (world : World) (now : RecoveryTime) : Standing world.database (begun world now) where
  unrepeated := List.nodup_nil
  known _ member := by cases member
  counted _ member := by cases member
  lasting _ known := known
  covered := .inl (.inl ⟨now, rfl⟩)
  phase := .unread now

theorem begun_intact (world : World) (now : RecoveryTime) : Intact (begun world now) where
  credited _ member := by cases member
  active _ member := by cases member

private theorem marking_read (moment : DateTime) (session : DataSession) (sessions : List DataSession)
    (ids : List Uuid) :
    ¬Unread (marking moment (session :: sessions) ids) := by
  rintro (⟨now, same⟩ | ⟨error, same⟩)
  · cases now <;> cases same
  · cases same

theorem marked_state (moment : DateTime) (named sessionId : Uuid) (database : Database) :
    sessionState sessionId (markSessionInterrupted named moment database) =
      if named = sessionId ∧ sessionState sessionId database = some .active then some .interrupted
      else sessionState sessionId database :=
  sessionState_sessionAdvance sessionId named .interrupted (some moment) moment database

private theorem marked_ended (moment : DateTime) (known : sessionState sessionId database ≠ none) :
    Ended sessionId (markSessionInterrupted sessionId moment database) := by
  rcases ended_or_active known with ended | active
  · exact ended.sessionAdvance
  · refine ⟨.interrupted, ?_, by decide⟩
    rw [marked_state, if_pos ⟨rfl, active⟩]

theorem Standing.own (standing : Standing start state) (own : Own state next) : Standing start next := by
  cases own with
  | raised error =>
    exact { standing with covered := .inl (.inr ⟨error, rfl⟩), phase := .raised error }
  | timed moment =>
    exact { standing with covered := .inl (.inl ⟨.aware moment, rfl⟩), phase := .unread (.aware moment) }
  | @listed world moment sessions read =>
    obtain ⟨unrepeated, listed⟩ := listSessionsInState_ok read
    refine ⟨unrepeated, fun sessionId member => ?_, standing.counted, standing.lasting,
      .inr fun sessionId active => ?_, @Phase.updating world [] [] moment sessions⟩
    · rw [(listed sessionId).mp member]
      simp
    · have known := standing.lasting sessionId (by simp [active])
      exact (ended_or_active known).imp_right (listed sessionId).mpr
  | @updated world done moved moment session sessions =>
    have unrepeated : (done ++ [session.sessionId] ++ sessions.map (·.sessionId)).Nodup := by
      rw [List.append_assoc]
      exact standing.unrepeated
    have knows {sessionId : Uuid} (known : sessionState sessionId world.database ≠ none) :
        sessionState sessionId (markSessionInterrupted session.sessionId moment world.database) ≠ none := by
      rw [marked_state]
      split
      · simp
      · exact known
    refine ⟨unrepeated, fun sessionId member => knows (standing.known sessionId (List.mem_cons_of_mem _ member)),
      fun sessionId member => ?_, fun sessionId known => knows (standing.lasting sessionId known), ?_,
      .updating moment sessions⟩
    · have counted := standing.counted sessionId
      by_cases active : sessionState session.sessionId world.database = some .active
      · rw [if_pos active] at member
        rcases List.mem_append.mp member with earlier | here
        · exact List.mem_append_left _ (counted earlier)
        · exact List.mem_append_right _ here
      · rw [if_neg active] at member
        exact List.mem_append_left _ (counted member)
    · refine .inr fun sessionId active => ?_
      rcases standing.covered with unread | covered
      · exact absurd unread (marking_read _ _ _ _)
      rcases covered sessionId active with ended | waiting
      · exact .inl ended.sessionAdvance
      rcases List.mem_cons.mp waiting with rfl | later
      · exact .inl (marked_ended moment (standing.known _ List.mem_cons_self))
      · exact .inr later

theorem Standing.other {transaction : Transaction} (standing : Standing start state)
    (timely : ¬transaction.Late state.world.database) :
    Standing start (state.withDatabase (transaction.apply state.world.database)) where
  unrepeated := standing.unrepeated
  known sessionId member := transaction.apply_known (standing.known sessionId member)
  counted := standing.counted
  lasting sessionId known := transaction.apply_known (standing.lasting sessionId known)
  covered := standing.covered.imp_right fun covered sessionId active =>
    (covered sessionId active).imp_left (transaction.apply_ended timely)
  phase := by
    have phase := standing.phase
    cases phase with
    | unread now => exact .unread now
    | updating moment sessions => exact .updating moment sessions
    | raised error => exact .raised error

theorem Standing.step {turn : Recovery.Turn} (standing : Standing start state) (timely : Timely state turn)
    (stepped : state.step turn = some (next, ())) : Standing start next := by
  cases turn with
  | own choice => exact standing.own (step_own standing.phase stepped)
  | other transaction =>
    cases stepped
    exact standing.other timely

/-- An effect of the call leaves its report right exactly if it was. -/
theorem Own.intact (standing : Standing start state) (own : Own state next) : Intact next ↔ Intact state := by
  cases own with
  | raised error =>
    constructor
    · exact fun intact => ⟨intact.credited, intact.active⟩
    · exact fun intact => ⟨intact.credited, intact.active⟩
  | timed moment => exact ⟨fun _ => begun_intact _ _, fun _ => begun_intact _ _⟩
  | @listed world moment sessions read =>
    refine ⟨fun _ => begun_intact _ _, fun _ => ⟨fun sessionId member => ?_, fun sessionId member => ?_⟩⟩
    · cases member
    · exact ((listSessionsInState_ok read).2 sessionId).mp member
  | @updated world done moved moment session sessions =>
    obtain ⟨fresh, apart⟩ : session.sessionId ∉ done ∧ session.sessionId ∉ sessions.map (·.sessionId) := by
      have unrepeated := standing.unrepeated
      rw [List.map_cons, List.nodup_append] at unrepeated
      obtain ⟨_, rest, disjoint⟩ := unrepeated
      exact ⟨fun member => disjoint _ member _ List.mem_cons_self rfl, (List.nodup_cons.mp rest).1⟩
    have unmoved : session.sessionId ∉ moved := fun member => fresh (standing.counted _ member)
    have stays (sessionId : Uuid) (member : sessionId ∈ sessions.map (·.sessionId)) :
        sessionState sessionId (markSessionInterrupted session.sessionId moment world.database) =
          sessionState sessionId world.database := by
      rw [marked_state, if_neg]
      rintro ⟨rfl, _⟩
      exact apart member
    constructor
    · intro intact
      have credited := intact.credited
      by_cases active : sessionState session.sessionId world.database = some .active
      · rw [if_pos active] at credited
        refine ⟨fun sessionId member => ?_, fun sessionId member => ?_⟩
        · rcases List.mem_append.mp (credited sessionId (List.mem_append_left _ member)) with earlier | here
          · exact earlier
          · rw [List.mem_singleton.mp here] at member
            exact absurd member fresh
        · rcases List.mem_cons.mp member with rfl | later
          · exact active
          · exact (stays sessionId later).symm.trans (intact.active sessionId later)
      · rw [if_neg active] at credited
        exact absurd (credited _ (List.mem_append_right _ List.mem_cons_self)) unmoved
    · intro intact
      have active := intact.active _ List.mem_cons_self
      refine ⟨fun sessionId member => ?_, fun sessionId member => ?_⟩
      · rw [if_pos active]
        rcases List.mem_append.mp member with earlier | here
        · exact List.mem_append_left _ (intact.credited sessionId earlier)
        · exact List.mem_append_right _ here
      · exact (stays sessionId member).trans (intact.active sessionId (List.mem_cons_of_mem _ member))

/-- A timely transaction leaves the report right exactly if it was and the transaction is no disturbance. -/
theorem other_intact {transaction : Transaction} (standing : Standing start state)
    (timely : ¬transaction.Late state.world.database) :
    Intact (state.withDatabase (transaction.apply state.world.database)) ↔
      Intact state ∧ Undisturbed state (.other transaction) := by
  constructor
  · intro intact
    refine ⟨⟨intact.credited, fun sessionId member => ?_⟩, timely, fun sessionId member ends active => ?_⟩
    · rcases ended_or_active (standing.known sessionId member) with ended | active
      · exact absurd (intact.active sessionId member) (transaction.apply_ended timely ended).not_active
      · exact active
    · exact (transaction.apply_stopped ends active).not_active (intact.active sessionId member)
  · rintro ⟨intact, _, undisturbed⟩
    refine ⟨intact.credited, fun sessionId member => ?_⟩
    have active := intact.active sessionId member
    exact transaction.apply_active (fun ends => undisturbed sessionId member ends active) active

theorem step_intact {turn : Recovery.Turn} (standing : Standing start state) (timely : Timely state turn)
    (stepped : state.step turn = some (next, ())) : Intact next ↔ Intact state ∧ Undisturbed state turn := by
  cases turn with
  | own choice => exact (Own.intact standing (step_own standing.phase stepped)).trans (and_iff_left trivial).symm
  | other transaction =>
    cases stepped
    exact other_intact standing timely

theorem run_standing {trace : List (Recovery.Turn × Unit)} {now : RecoveryTime}
    (run : Path Recovery.step Timely (begun world now) trace state) : Standing world.database state :=
  run.preserves (Standing world.database) (fun _ _ _ _ standing timely stepped => standing.step timely stepped)
    (begun_standing world now)

theorem run_intact {trace : List (Recovery.Turn × Unit)} {now : RecoveryTime}
    (run : Path Recovery.step Timely (begun world now) trace state) :
    Intact state ↔ Path Recovery.step Undisturbed (begun world now) trace state :=
  run.exactly_iff (Standing world.database) Intact (begun_standing world now) (begun_intact world now)
    (fun _ _ _ _ standing timely stepped => standing.step timely stepped)
    (fun _ _ _ _ standing timely stepped => step_intact standing timely stepped)

theorem Undisturbed.timely {turn : Recovery.Turn} (undisturbed : Undisturbed state turn) : Timely state turn := by
  cases turn with
  | own choice => trivial
  | other transaction => exact undisturbed.1

/-- A call that has returned has updated all it listed, and returns that. -/
theorem Phase.returned {ids : List Uuid} (phase : Phase state) (returned : state.program = .finish (.ok ids)) :
    state.pending = [] ∧ ids = state.done := by
  cases phase with
  | unread now => cases now <;> cases returned
  | raised error => cases returned
  | updating moment sessions =>
    cases sessions with
    | cons session rest => cases returned
    | nil =>
      cases returned
      exact ⟨rfl, List.append_nil _⟩

/-! What a step leaves of the counters, bounds and segment rows. -/

/-- Every step but a registration of another party. -/
def Ordinary (_ : Recovery) : Recovery.Turn → Prop
  | .other (.registerSegment _ _ _) => False
  | _ => True

theorem Own.phase (own : Own state next) : Phase next := by
  cases own with
  | raised error => exact .raised error
  | timed moment => exact .unread (.aware moment)
  | @listed world moment sessions read => exact @Phase.updating world [] [] moment sessions
  | updated moment session sessions => exact .updating moment sessions

theorem Own.untouched (own : Own state next) : Untouched state.world.database next.world.database := by
  cases own with
  | updated moment session sessions => exact sessionAdvance_untouched
  | _ => exact .refl _

theorem Phase.step {turn : Recovery.Turn} (phase : Phase state) (stepped : state.step turn = some (next, ())) :
    Phase next := by
  cases turn with
  | own choice => exact (step_own phase stepped).phase
  | other transaction =>
    cases stepped
    cases phase with
    | unread now => exact .unread now
    | updating moment sessions => exact .updating moment sessions
    | raised error => exact .raised error

theorem run_phase {trace : List (Recovery.Turn × Unit)} {now : RecoveryTime}
    {allowed : Recovery → Recovery.Turn → Prop} (run : Path Recovery.step allowed (begun world now) trace state) :
    Phase state :=
  run.preserves Phase (fun _ _ _ _ phase _ stepped => phase.step stepped) (.unread now)

theorem step_untouched {turn : Recovery.Turn} (phase : Phase state) (ordinary : Ordinary state turn)
    (stepped : state.step turn = some (next, ())) : Untouched state.world.database next.world.database := by
  cases turn with
  | own choice => exact (step_own phase stepped).untouched
  | other transaction =>
    cases stepped
    refine transaction.apply_untouched ?_
    rintro segment session active rfl
    exact ordinary

theorem run_untouched {trace : List (Recovery.Turn × Unit)} {now : RecoveryTime}
    (run : Path Recovery.step Ordinary (begun world now) trace state) :
    Untouched world.database state.world.database :=
  (run.preserves (fun reached => Phase reached ∧ Untouched world.database reached.world.database)
    (fun _ _ _ _ held ordinary stepped =>
      ⟨held.1.step stepped, held.2.trans (step_untouched held.1 ordinary stepped)⟩)
    ⟨.unread now, .refl _⟩).2

/-- The returned ids are the sessions this call moved. -/
def Reports (ids : List Uuid) (state : Recovery) : Prop :=
  ∀ sessionId, sessionId ∈ ids ↔ sessionId ∈ state.moved

/-- Every session that was active at the start is in a terminal state. -/
def Settled (start : Database) (state : Recovery) : Prop :=
  ∀ sessionId, sessionState sessionId start = some .active → Ended sessionId state.world.database

theorem Standing.settled {ids : List Uuid} (standing : Standing start state)
    (returned : state.program = .finish (.ok ids)) : Settled start state := by
  obtain ⟨emptied, _⟩ := standing.phase.returned returned
  intro sessionId active
  rcases standing.covered with (⟨now, same⟩ | ⟨error, same⟩) | covered
  · cases now <;> cases same.symm.trans returned
  · cases same.symm.trans returned
  · rcases covered sessionId active with ended | waiting
    · exact ended
    · rw [emptied] at waiting
      cases waiting

theorem Standing.reports {ids : List Uuid} (standing : Standing start state)
    (returned : state.program = .finish (.ok ids)) : Reports ids state ↔ Intact state := by
  obtain ⟨emptied, rfl⟩ := standing.phase.returned returned
  constructor
  · intro reports
    refine ⟨fun sessionId => (reports sessionId).mp, fun sessionId member => ?_⟩
    rw [emptied] at member
    cases member
  · intro intact sessionId
    exact ⟨intact.credited sessionId, standing.counted sessionId⟩

/-- The ids of a call that has returned. -/
def returnedIds (state : Recovery) : Option (List Uuid) :=
  match state.program with
  | .finish (.ok ids) => some ids
  | _ => none

theorem returnedIds_some {ids : List Uuid} (returned : state.returnedIds = some ids) :
    state.program = .finish (.ok ids) := by
  unfold returnedIds at returned
  split at returned
  · rename_i shape
    rw [shape, Option.some.inj returned]
  · cases returned

end Recovery

open Recovery in
/-- No step of a recovery touches a counter, a bound or a segment row, nor does any other step but a registration. A
call that returns while no registration lands on a terminal row has ended every session that was active at its start,
and it reports exactly the sessions it moved if and only if no other party ends one that it has listed and not yet
updated. -/
theorem recoverIncompleteSessions_reports {world : World} {now : RecoveryTime} {target : Recovery} {ids : List Uuid}
    {trace : List (Recovery.Turn × Unit)} (run : Path Recovery.step anyLabel (begun world now) trace target)
    (returned : target.program = .finish (.ok ids)) :
    (∀ front back choice, trace = front ++ (.own choice, ()) :: back → ∃ before after,
        Path Recovery.step anyLabel (begun world now) front before ∧ before.step (.own choice) = some (after, ()) ∧
        Path Recovery.step anyLabel after back target ∧ Untouched before.world.database after.world.database) ∧
      (Path Recovery.step Ordinary (begun world now) trace target →
        Untouched world.database target.world.database) ∧
      (Path Recovery.step Undisturbed (begun world now) trace target →
        Reports ids target ∧ Recovery.Settled world.database target) ∧
      (Path Recovery.step Timely (begun world now) trace target → Recovery.Settled world.database target ∧
        (Reports ids target → Path Recovery.step Undisturbed (begun world now) trace target)) := by
  refine ⟨?_, run_untouched, fun undisturbed => ?_, fun timely => ?_⟩
  · rintro front back choice rfl
    obtain ⟨before, after, prior, _, stepped, rest⟩ := run.at_label
    have ordinary : Ordinary before (.own choice) := trivial
    exact ⟨before, after, prior, stepped, rest, step_untouched (run_phase prior) ordinary stepped⟩
  · have timely := undisturbed.weaken fun _ _ => Undisturbed.timely
    have standing := run_standing timely
    have intact := (run_intact timely).mpr undisturbed
    exact ⟨(standing.reports returned).mpr intact, standing.settled returned⟩
  · have standing := run_standing timely
    refine ⟨standing.settled returned, fun reports => ?_⟩
    exact (run_intact timely).mp ((standing.reports returned).mp reports)

/-- A recovery of the sample session while another party turns to a session nobody has registered. -/
def quietRecovery : List Recovery.Turn :=
  [.own calm, .own calm, .other (.failActiveSession sampleProjectId 5), .own calm]

/-- The turns of the call, and those of others that only fail sessions it does not wait for. -/
def Recovery.apart (state : Recovery) : Recovery.Turn → Bool
  | .own _ => true
  | .other (.failActiveSession sessionId _) => sessionId ∉ state.pending
  | _ => false

theorem Recovery.apart_undisturbed (state : Recovery) (turn : Recovery.Turn) (apart : state.apart turn = true) :
    Undisturbed state turn := by
  cases turn with
  | own choice => trivial
  | other transaction =>
    cases transaction with
    | failActiveSession named moment =>
      refine ⟨id, fun sessionId member ends _ => ?_⟩
      obtain rfl := Option.some.inj ends
      exact of_decide_eq_true apart member
    | _ => cases apart

theorem recoverIncompleteSessions_reports_quiet : ∃ trace target,
    Path Recovery.step anyLabel (.begun (sampleWorld 1 Nat.one_pos) .omitted) trace target ∧
      target.moved = [sampleSessionId] ∧ Recovery.Reports [sampleSessionId] target ∧
      Recovery.Settled (sampleWorld 1 Nat.one_pos).database target := by
  have evaluated : (followWithin Recovery.step Recovery.apart (.begun (sampleWorld 1 Nat.one_pos) .omitted)
      quietRecovery).map (fun reached => (reached.1.returnedIds, reached.1.moved)) =
        some (some [sampleSessionId], [sampleSessionId]) := by decide +kernel
  obtain ⟨trace, target, run, seen⟩ := Path.observedWithin quietRecovery
    (fun reached : Recovery × List (Recovery.Turn × Unit) => (reached.1.returnedIds, reached.1.moved)) _
    Recovery.apart_undisturbed evaluated
  obtain ⟨returned, moved⟩ := Prod.mk.inj seen
  have reported := recoverIncompleteSessions_reports run.anyLabel (Recovery.returnedIds_some returned)
  obtain ⟨reports, settled⟩ := reported.2.2.1 run
  exact ⟨trace, target, run.anyLabel, moved, reports, settled⟩

/-- The writer's session is failed from outside between the list and the update. -/
def disturbedRecovery : List Recovery.Turn :=
  [.own calm, .own calm, .other (.failActiveSession sampleSessionId 5), .own calm]

/-- The call reports a session as recovered that another party failed and that it never moved. -/
theorem recovery_reports_failed : ∃ trace target,
    Path Recovery.step anyLabel (.begun (sampleWorld 1 Nat.one_pos) .omitted) trace target ∧
      target.program = .finish (.ok [sampleSessionId]) ∧
      sessionState sampleSessionId target.world.database = some .failed ∧
      ¬Recovery.Reports [sampleSessionId] target := by
  have evaluated : (follow Recovery.step (.begun (sampleWorld 1 Nat.one_pos) .omitted) disturbedRecovery).map
      (fun reached => (reached.1.returnedIds, reached.1.moved,
        sessionState sampleSessionId reached.1.world.database)) =
        some (some [sampleSessionId], [], some .failed) := by decide +kernel
  obtain ⟨trace, target, run, seen⟩ := Path.observed disturbedRecovery
    (fun reached : Recovery => (reached.returnedIds, reached.moved,
      sessionState sampleSessionId reached.world.database)) _ (fun _ _ _ => trivial) evaluated
  obtain ⟨returned, rest⟩ := Prod.mk.inj seen
  obtain ⟨moved, failed⟩ := Prod.mk.inj rest
  refine ⟨trace, target, run, Recovery.returnedIds_some returned, failed, fun reports => ?_⟩
  have credited := (reports sampleSessionId).mp List.mem_cons_self
  rw [moved] at credited
  cases credited

end CanX.Data
