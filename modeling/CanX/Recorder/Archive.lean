import CanX.Query.Summary
import CanX.Recorder.Completeness
import CanX.Recorder.Settlement

/-! A recorder and a reader of its session. The threads of the recorder share one writer through its lock, so what is
known of a writer with services beside it is known of them; a reader that has followed the pages of a completed session
to their end has every frame that was accepted. -/

namespace CanX.Recorder

open Domain Data Query Shelving Storage Transition Transport

section Threads

/-- The call on the writer that a thread has in progress while it holds the lock. -/
def Appender.running : Appender → Option (DataProgram Unit)
  | appending _ rest => some rest
  | _ => none

def Worker.running : Worker → Option (DataProgram Unit)
  | flushing rest => some rest
  | committing rest => some (discarding rest)
  | failing rest => some (discarding rest)
  | _ => none

namespace Recording

/-- The call in progress of whichever thread holds the lock. -/
def calling (state : Recording) : DataProgram Unit :=
  (state.appender.running <|> state.worker.running).getD (pure ())

/-- The writer that the threads share, with the services beside it. -/
def sharing (state : Recording) : Sharing := ⟨state.world, state.calling, state.others⟩

/-- The file system is honest with the thread that holds the lock. -/
def Honest (sizeOf : StoredFile → Nat) (state : Recording) : Event → Prop
  | .appendStep choice => ∀ request continuation, state.appender.running = some (.perform request continuation) →
    measured sizeOf state.world request choice
  | .work choice _ => ∀ request continuation, state.worker.running = some (.perform request continuation) →
    measured sizeOf state.world request choice
  | _ => True

end Recording

variable {sizeOf : StoredFile → Nat} {sessionId : Uuid} {streamId : String} {state next : Recording}
variable {choice : Choice} {reading : Seconds} {answer : Option FrameBatch}

theorem appender_holds : state.appender.holdsLock = state.appender.running.isSome := by
  cases state.appender <;> rfl

theorem worker_holds : state.worker.holdsLock = state.worker.running.isSome := by
  cases state.worker <;> rfl

/-- How a call in progress goes on in one step of the thread that makes it, and the world with it. -/
inductive Goes (choice : Choice) (world : World) (free : Bool) (before : Option (DataProgram Unit)) :
    World → Option (DataProgram Unit) → Prop
  | aside (idle : before = none) : Goes choice world free before world none
  | takes (idle : before = none) (lockFree : free = true) (call : WriterCall) :
      Goes choice world free before world (some call.program)
  | performs (request : DataEffect) (continuation : Except PyException request.Answer → DataProgram Unit)
      (running : before = some (.perform request continuation)) :
      Goes choice world free before (perform request choice world).1
        (some (continuation (perform request choice world).2))
  | returns (result : Except PyException Unit) (running : before = some (.finish result)) :
      Goes choice world free before world none

/-- What one step of the finalization thread does to the call it has in progress. -/
theorem work_goes (moved : state.work choice reading = some next) :
    next.appender = state.appender ∧ next.others = state.others ∧ next.settler = state.settler ∧
      Goes choice state.world state.lockFree state.worker.running next.world next.worker.running := by
  cases place : state.worker with
  | absent | cancelled | finished => simp [Recording.work, place] at moved
  | awaitFlush =>
    simp only [Recording.work, place, Option.ite_none_right_eq_some, Option.some.injEq] at moved
    obtain ⟨free, rfl⟩ := moved
    exact ⟨rfl, rfl, rfl, .takes rfl free .flushPending⟩
  | awaitCommit =>
    simp only [Recording.work, place, Option.ite_none_right_eq_some, Option.some.injEq] at moved
    obtain ⟨free, rfl⟩ := moved
    exact ⟨rfl, rfl, rfl, .takes rfl free .commitCompleted⟩
  | awaitFail =>
    simp only [Recording.work, place, Option.ite_none_right_eq_some, Option.some.injEq] at moved
    obtain ⟨free, rfl⟩ := moved
    exact ⟨rfl, rfl, rfl, .takes rfl free .fail⟩
  | flushing rest =>
    cases rest with
    | perform request continuation =>
      simp only [Recording.work, place, Option.some.injEq] at moved
      subst moved
      exact ⟨rfl, rfl, rfl, .performs request continuation rfl⟩
    | finish result =>
      have returned : Worker.running (.flushing (.finish result)) = some (.finish result) := rfl
      rcases result with error | value
      · cases error <;> simp only [Recording.work, place, Option.some.injEq] at moved <;> subst moved <;>
          exact ⟨rfl, rfl, rfl, .returns _ returned⟩
      · simp only [Recording.work, place, Option.some.injEq] at moved
        subst moved
        exact ⟨rfl, rfl, rfl, .returns _ returned⟩
  | committing rest =>
    cases rest with
    | perform request continuation =>
      simp only [Recording.work, place, Option.some.injEq] at moved
      subst moved
      exact ⟨rfl, rfl, rfl, .performs request (fun answer => discarding (continuation answer)) rfl⟩
    | finish result =>
      have returned : Worker.running (.committing (.finish result)) = some (.finish (result.map fun _ => ())) := rfl
      rcases result with error | value
      · cases error <;> simp only [Recording.work, place, Option.some.injEq] at moved <;> subst moved <;>
          exact ⟨rfl, rfl, rfl, .returns _ returned⟩
      · simp only [Recording.work, place, Option.some.injEq] at moved
        subst moved
        exact ⟨rfl, rfl, rfl, .returns _ returned⟩
  | failing rest =>
    cases rest with
    | perform request continuation =>
      simp only [Recording.work, place, Option.some.injEq] at moved
      subst moved
      exact ⟨rfl, rfl, rfl, .performs request (fun answer => discarding (continuation answer)) rfl⟩
    | finish result =>
      simp only [Recording.work, place, Option.some.injEq] at moved
      subst moved
      have returned : Worker.running (.failing (.finish result)) = some (.finish (result.map fun _ => ())) := rfl
      exact ⟨rfl, rfl, rfl, .returns _ returned⟩
  | checkFailure | gateFailure | gateDeadline | gateClock deadline | readCompleted =>
    simp only [Recording.work, place, Option.some.injEq] at moved
    subst moved
    refine ⟨rfl, rfl, rfl, ?_⟩
    dsimp only
    split <;> exact .aside rfl
  | awaitTerminal =>
    simp only [Recording.work, place, Option.ite_none_left_eq_some, Option.some.injEq] at moved
    obtain ⟨-, rfl⟩ := moved
    exact ⟨rfl, rfl, rfl, .aside rfl⟩
  | _ =>
    simp only [Recording.work, place, Option.some.injEq] at moved
    subst moved
    exact ⟨rfl, rfl, rfl, .aside rfl⟩

/-- What one step of the thread of an append does to its call. -/
theorem appendStep_goes (moved : state.appendStep choice = some (next, answer)) :
    next.worker = state.worker ∧ next.others = state.others ∧ next.settler = state.settler ∧
      Goes choice state.world state.lockFree state.appender.running next.world next.appender.running := by
  cases place : state.appender with
  | idle => simp [Recording.appendStep, place] at moved
  | waiting batch =>
    simp only [Recording.appendStep, place, Option.ite_none_right_eq_some, Option.some.injEq, Prod.mk.injEq] at moved
    obtain ⟨free, rfl, -⟩ := moved
    exact ⟨rfl, rfl, rfl, .takes rfl free (.append batch)⟩
  | appending batch rest =>
    cases rest with
    | perform request continuation =>
      simp only [Recording.appendStep, place, Option.some.injEq, Prod.mk.injEq] at moved
      obtain ⟨rfl, -⟩ := moved
      exact ⟨rfl, rfl, rfl, .performs request continuation rfl⟩
    | finish result =>
      have returned : Appender.running (.appending batch (.finish result)) = some (.finish result) := rfl
      cases result with
      | ok value =>
        simp only [Recording.appendStep, place, Option.some.injEq, Prod.mk.injEq] at moved
        obtain ⟨rfl, -⟩ := moved
        exact ⟨rfl, rfl, rfl, .returns _ returned⟩
      | error error =>
        simp only [Recording.appendStep, place, Option.some.injEq, Prod.mk.injEq] at moved
        obtain ⟨rfl, -⟩ := moved
        exact ⟨rfl, rfl, rfl, .returns _ returned⟩

end Threads

section Shelved

variable {sizeOf : StoredFile → Nat} {sessionId : Uuid} {streamId : String} {state next : Recording}
variable {choice : Choice} {reading : Seconds} {answer : Option FrameBatch} {world : World}
variable {others : List (DataProgram Unit)} {program : DataProgram Unit}

/-- The registered tables are on their shelf, whichever thread holds the lock; the thread that settles stands by. -/
structure Archived (sizeOf : StoredFile → Nat) (sessionId : Uuid) (streamId : String) (state : Recording) : Prop where
  attended : Attended sizeOf sessionId streamId state.sharing
  exclusive : state.appender.running = none ∨ state.worker.running = none
  settler : ∀ rest, state.settler = .running rest → Bystands rest

/-- A step of the thread that holds the lock, or of one that may take it. -/
theorem attended_goes {before after : Option (DataProgram Unit)} {free : Bool} {reached : World}
    (attended : Attended sizeOf sessionId streamId ⟨world, before.getD (pure ()), others⟩)
    (goes : Goes choice world free before reached after)
    (told : ∀ request continuation, before = some (.perform request continuation) →
      measured sizeOf world request choice) :
    Attended sizeOf sessionId streamId ⟨reached, after.getD (pure ()), others⟩ ∧
      Grown sizeOf sessionId streamId world reached := by
  obtain ⟨tables, shelf⟩ := attended.shelf
  cases goes with
  | aside idle =>
    subst idle
    exact ⟨attended, .of_same shelf shelf⟩
  | takes idle lockFree call =>
    subst idle
    exact attended.step (show Shelving.Honest sizeOf _ (.call call) from trivial) rfl
  | performs request continuation running =>
    subst running
    exact attended.step (show Shelving.Honest sizeOf _ (.write choice) from told request continuation rfl) rfl
  | returns result running =>
    subst running
    have idle : Idle sizeOf sessionId streamId world := attended.writer.finished Aside.refl
    exact ⟨⟨⟨tables, shelf⟩, fun current moved => steady_idle _ _ moved idle, attended.others⟩, .of_same shelf shelf⟩

theorem settleDurableState_bystands (named : Uuid) : Bystands (settleDurableState named) := by
  refine .bind (serviceFailActiveSession_bystands named) fun _ => .effect_bind trivial fun stored _ => ?_
  cases stored with
  | none => trivial
  | some session => trivial

/-- An effect of a thread that stands by. -/
theorem attended_aside {request : DataEffect} (choice : Choice)
    (attended : Attended sizeOf sessionId streamId ⟨world, program, others⟩)
    (stands : bystands request) :
    Attended sizeOf sessionId streamId ⟨(perform request choice world).1, program, others⟩ ∧
      Grown sizeOf sessionId streamId world (perform request choice world).1 := by
  obtain ⟨tables, shelf⟩ := attended.shelf
  have aside : Aside sessionId streamId world (perform request choice world).1 := perform_aside stands
  have same := shelf.aside aside
  exact ⟨⟨⟨tables, same⟩, attended.writer.interfere (fun _ _ _ => Aside.trans) aside, attended.others⟩,
    .of_same shelf same⟩

theorem calling_appender (exclusive : state.worker.running = none) :
    state.calling = state.appender.running.getD (pure ()) := by
  rw [Recording.calling, exclusive]
  cases state.appender.running <;> rfl

theorem calling_worker (exclusive : state.appender.running = none) :
    state.calling = state.worker.running.getD (pure ()) := by
  rw [Recording.calling, exclusive]
  rfl

theorem lockFree_running (free : state.lockFree = true) :
    state.appender.running = none ∧ state.worker.running = none := by
  simpa [Recording.lockFree, appender_holds, worker_holds] using free

theorem Goes.exclusive {before after : Option (DataProgram Unit)} {other : Option (DataProgram Unit)} {free : Bool}
    {reached : World} (goes : Goes choice world free before reached after) (exclusive : other = none ∨ before = none)
    (lock : free = true → other = none) : other = none ∨ after = none := by
  cases goes with
  | aside idle => exact .inr rfl
  | takes idle lockFree call => exact .inl (lock lockFree)
  | performs request continuation running =>
    rw [running] at exclusive
    exact .inl (exclusive.resolve_right (Option.some_ne_none _))
  | returns result running => exact .inr rfl

/-- A thread that cannot take the lock leaves the writer alone. -/
theorem Goes.stays {before after : Option (DataProgram Unit)} {free : Bool} {reached : World}
    (goes : Goes choice world free before reached after) (waiting : before = none) (locked : free = false) :
    reached = world ∧ after = none := by
  cases goes with
  | aside idle => exact ⟨rfl, rfl⟩
  | takes idle lockFree call =>
    rw [locked] at lockFree
    cases lockFree
  | performs request continuation running =>
    rw [waiting] at running
    cases running
  | returns result running => exact ⟨rfl, rfl⟩

private theorem lockFree_held (held : state.appender.running ≠ none ∨ state.worker.running ≠ none) :
    state.lockFree = false := by
  rw [Bool.eq_false_iff]
  intro free
  obtain ⟨appender, worker⟩ := lockFree_running free
  rcases held with appending | working
  · exact appending appender
  · exact working worker

theorem attended_unmoved (attended : Attended sizeOf sessionId streamId state.sharing) :
    Grown sizeOf sessionId streamId state.world state.world := by
  obtain ⟨tables, shelf⟩ := attended.shelf
  exact .of_same shelf shelf

/-- A step of the finalization thread. -/
theorem work_archived (archived : Archived sizeOf sessionId streamId state)
    (moved : state.work choice reading = some next) (honest : state.Honest sizeOf (.work choice reading)) :
    Archived sizeOf sessionId streamId next ∧ Grown sizeOf sessionId streamId state.world next.world := by
  obtain ⟨appender, others, settler, goes⟩ := work_goes moved
  have exclusive : next.appender.running = none ∨ next.worker.running = none := by
    rw [appender]
    exact goes.exclusive archived.exclusive fun free => (lockFree_running free).1
  have settles : ∀ rest, next.settler = .running rest → Bystands rest := by
    rw [settler]
    exact archived.settler
  have attended := archived.attended
  by_cases idle : state.appender.running = none
  · rw [Recording.sharing, calling_worker idle] at attended
    obtain ⟨after, grown⟩ := attended_goes attended goes honest
    refine ⟨⟨?_, exclusive, settles⟩, grown⟩
    rw [Recording.sharing, calling_worker (appender ▸ idle), others]
    exact after
  · obtain ⟨world, worker⟩ := goes.stays (archived.exclusive.resolve_left idle) (lockFree_held (.inl idle))
    rw [world]
    refine ⟨⟨?_, exclusive, settles⟩, attended_unmoved attended⟩
    rw [Recording.sharing, calling_appender (archived.exclusive.resolve_left idle)] at attended
    rw [Recording.sharing, calling_appender worker, appender, others, world]
    exact attended

/-- A step of the thread of an append. -/
theorem appendStep_archived (archived : Archived sizeOf sessionId streamId state)
    (moved : state.appendStep choice = some (next, answer)) (honest : state.Honest sizeOf (.appendStep choice)) :
    Archived sizeOf sessionId streamId next ∧ Grown sizeOf sessionId streamId state.world next.world := by
  obtain ⟨worker, others, settler, goes⟩ := appendStep_goes moved
  have exclusive : next.appender.running = none ∨ next.worker.running = none := by
    rw [worker]
    exact (goes.exclusive archived.exclusive.symm fun free => (lockFree_running free).2).symm
  have settles : ∀ rest, next.settler = .running rest → Bystands rest := by
    rw [settler]
    exact archived.settler
  have attended := archived.attended
  by_cases idle : state.worker.running = none
  · rw [Recording.sharing, calling_appender idle] at attended
    obtain ⟨after, grown⟩ := attended_goes attended goes honest
    refine ⟨⟨?_, exclusive, settles⟩, grown⟩
    rw [Recording.sharing, calling_appender (worker ▸ idle), others]
    exact after
  · obtain ⟨world, appender⟩ := goes.stays (archived.exclusive.resolve_right idle) (lockFree_held (.inr idle))
    rw [world]
    refine ⟨⟨?_, exclusive, settles⟩, attended_unmoved attended⟩
    rw [Recording.sharing, calling_worker (archived.exclusive.resolve_right idle)] at attended
    rw [Recording.sharing, calling_worker appender, worker, others, world]
    exact attended

/-- A step that leaves the world, the calls in progress and the services alone. -/
theorem Archived.quiet (archived : Archived sizeOf sessionId streamId state) (world : next.world = state.world)
    (appender : next.appender.running = state.appender.running) (worker : next.worker.running = state.worker.running)
    (others : next.others = state.others) (settler : ∀ rest, next.settler = .running rest → Bystands rest) :
    Archived sizeOf sessionId streamId next ∧ Grown sizeOf sessionId streamId state.world next.world := by
  have same : next.sharing = state.sharing := by
    rw [Recording.sharing, Recording.sharing, Recording.calling, Recording.calling, world, appender, worker, others]
  refine ⟨⟨?_, ?_, settler⟩, ?_⟩
  · rw [same]
    exact archived.attended
  · rw [appender, worker]
    exact archived.exclusive
  · rw [world]
    exact attended_unmoved archived.attended

theorem abandoned_running (worker : Worker) : worker.abandoned.running = worker.running := by
  cases worker <;> rfl

private theorem settle_archived (archived : Archived sizeOf sessionId streamId state)
    (moved : state.settle choice = some next) :
    Archived sizeOf sessionId streamId next ∧ Grown sizeOf sessionId streamId state.world next.world := by
  cases place : state.settler with
  | absent | finished => simp [Recording.settle, place] at moved
  | running rest =>
    have stands := archived.settler rest place
    cases rest with
    | perform request continuation =>
      simp only [Recording.settle, place, Option.some.injEq] at moved
      subst moved
      obtain ⟨attended, grown⟩ := attended_aside choice archived.attended stands.1
      refine ⟨⟨attended, archived.exclusive, fun rest running => ?_⟩, grown⟩
      obtain rfl := Settler.running.inj running
      exact stands.2 _ trivial
    | finish result =>
      rcases result with error | value
      · cases error <;> simp only [Recording.settle, place, Option.some.injEq] at moved <;> subst moved <;>
          exact archived.quiet rfl rfl rfl rfl fun rest running => by cases running
      · simp only [Recording.settle, place, Option.some.injEq] at moved
        subst moved
        exact archived.quiet rfl rfl rfl rfl fun rest running => by cases running

/-- Every step of a recorder keeps the registered tables on their shelf, and may add to them. -/
theorem step_archived (archived : Archived sizeOf sessionId streamId state)
    (idle : state.owner = .recording → state.worker = .absent) {event : Event} (honest : state.Honest sizeOf event)
    (moved : state.step event = some (next, answer)) :
    Archived sizeOf sessionId streamId next ∧ Grown sizeOf sessionId streamId state.world next.world := by
  cases event with
  | appendStep choice => exact appendStep_archived archived moved honest
  | report failure =>
    cases moved
    exact archived.quiet rfl rfl rfl rfl archived.settler
  | intervene call =>
    cases moved
    have step := archived.attended.step (show Shelving.Honest sizeOf _ (.intervene call) from trivial) rfl
    exact ⟨⟨step.1, archived.exclusive, archived.settler⟩, step.2⟩
  | work choice reading =>
    simp only [Recording.step, Recording.silent, Option.map_eq_some_iff, Prod.mk.injEq] at moved
    obtain ⟨reached, moved, rfl, -⟩ := moved
    exact work_archived archived moved honest
  | settle choice =>
    simp only [Recording.step, Recording.silent, Option.map_eq_some_iff, Prod.mk.injEq] at moved
    obtain ⟨reached, moved, rfl, -⟩ := moved
    exact settle_archived archived moved
  | other position choice =>
    simp only [Recording.step, Recording.silent, Option.map_eq_some_iff, Prod.mk.injEq, Recording.other] at moved
    obtain ⟨reached, moved, rfl, -⟩ := moved
    split at moved
    · rename_i request continuation found
      cases moved
      have taken : state.sharing.step (.other position choice) =
          some (⟨(perform request choice state.world).1, state.calling,
            state.others.set position (continuation (perform request choice state.world).2)⟩, ()) := by
        simp only [Sharing.step, Recording.sharing, found]
        rfl
      have step := archived.attended.step (show Shelving.Honest sizeOf _ (.other position choice) from trivial) taken
      exact ⟨⟨step.1, archived.exclusive, archived.settler⟩, step.2⟩
    · cases moved
  | abandonStop =>
    simp only [Recording.step, Recording.silent, Recording.abandonStop] at moved
    split at moved <;> cases moved
    exact archived.quiet rfl rfl (abandoned_running _) rfl archived.settler
  | stop =>
    simp only [Recording.step, Recording.silent, Recording.stop] at moved
    split at moved <;> cases moved
    rename_i recording
    refine archived.quiet rfl rfl ?_ rfl archived.settler
    rw [idle recording]
    rfl
  | append batch =>
    simp only [Recording.step, Recording.silent, Recording.append] at moved
    split at moved
    · rename_i recording waiting
      have free : Appender.running (.waiting batch) = state.appender.running := by
        rw [waiting]
        rfl
      split at moved
      · cases moved
      · split at moved <;> cases moved
        · exact archived.quiet rfl free rfl rfl archived.settler
        · exact archived.quiet rfl rfl rfl rfl archived.settler
    · cases moved
  | dropAppend =>
    simp only [Recording.step, Recording.silent, Recording.dropAppend] at moved
    split at moved <;> cases moved
    rename_i waiting _
    refine archived.quiet rfl ?_ rfl rfl archived.settler
    rw [waiting]
    rfl
  | own =>
    simp only [Recording.step, Recording.silent, Option.map_eq_some_iff, Prod.mk.injEq, Recording.own] at moved
    obtain ⟨reached, moved, rfl, -⟩ := moved
    split at moved
    case h_5 =>
      cases moved
      refine archived.quiet rfl rfl rfl rfl fun rest running => ?_
      obtain rfl := Settler.running.inj running
      exact settleDurableState_bystands _
    all_goals
      try split at moved
      all_goals
        first
          | (cases moved; exact archived.quiet rfl rfl rfl rfl archived.settler)
          | cases moved
  | _ =>
    simp only [Recording.step, Recording.silent, Option.map_eq_some_iff, Prod.mk.injEq, Recording.armStopDeadline,
      Recording.returnStop, Recording.closeFinalizationGate, Recording.gateTimeout] at moved
    obtain ⟨reached, moved, rfl, -⟩ := moved
    split at moved <;> (try split at moved) <;>
      first
        | (cases moved; exact archived.quiet rfl rfl rfl rfl archived.settler)
        | cases moved

end Shelved

section Runs

/-- A recorder, and a reader that follows the pages of a query over its session. -/
structure Archive where
  recording : Recording
  cursor : Option Nat
  hasMore : Bool
  requests : List (World × FrameQueryPage)

inductive Access where
  | event (event : Event)
  | page (page : FrameQueryPage)

namespace Archive

def opened (sessionId : Uuid) (diagnosis : RecorderFailure) (world : World) : Archive :=
  ⟨.started sessionId diagnosis world, none, true, []⟩

/-- A step of the recorder, or the answer to the next request of the reader as long as there is one to make. -/
def step (state : Archive) : Access → Option (Archive × Option FrameBatch)
  | .event event => (state.recording.step event).map fun taken => ({ state with recording := taken.1 }, taken.2)
  | .page page =>
    if state.hasMore then
      some (⟨state.recording, page.nextAfterSequence, page.hasMore,
        state.requests ++ [(state.recording.world, page)]⟩, none)
    else none

/-- What the reader sees of the recorder. -/
def browsing (state : Archive) : Browsing := ⟨state.recording.sharing, state.cursor, state.hasMore, state.requests⟩

/-- The file system is honest, and a page is what the query answers with. -/
def Allowed (sizeOf : StoredFile → Nat) (query : FrameQuery) (state : Archive) : Access → Prop
  | .event event => state.recording.Honest sizeOf event
  | .page page => QueryService.QueryFrames state.recording.world.database (projectTree sizeOf state.recording.world)
      (query.after state.cursor) (.ok page)

/-- One recording from its start to its stop, whose faults are all handled. -/
def Accountable (sizeOf : StoredFile → Nat) (query : FrameQuery) (state : Archive) (access : Access) : Prop :=
  state.Allowed sizeOf query access ∧
    match access with
    | .event event => Recorder.Accountable state.recording event
    | .page _ => True

end Archive

variable {sizeOf : StoredFile → Nat} {query : FrameQuery} {streamId : String} {world : World}
variable {diagnosis : RecorderFailure} {state next : Archive} {access : Access} {answer : Option FrameBatch}
variable {trace : List (Access × Option FrameBatch)} {accepted : List Frame}

/-- The invariant of every run: what is registered stays, and the reader follows its pages. -/
structure Filed (sizeOf : StoredFile → Nat) (query : FrameQuery) (streamId : String) (state : Archive) : Prop where
  archived : Archived sizeOf query.filter.sessionId streamId state.recording
  truthful : Truthful False state.recording
  refines : ∃ log, Refines sizeOf query streamId state.browsing log

private theorem refines_grown {browsing : Browsing} {sharing : Sharing} {log : List (List Frame × Page Frame Nat)}
    (refines : Refines sizeOf query streamId browsing log)
    (attended : Attended sizeOf query.filter.sessionId streamId sharing)
    (grown : Grown sizeOf query.filter.sessionId streamId browsing.sharing.world sharing.world) :
    Refines sizeOf query streamId { browsing with sharing } log := by
  obtain ⟨tables, more, before, after⟩ := grown
  refine ⟨attended, refines.requested, refines.models, fun entry member others shelf => ?_⟩
  obtain rfl := after.unique shelf
  exact (refines.grown entry member tables before).trans ((tableFrames_begins more).filter _)

theorem Filed.step (filed : Filed sizeOf query streamId state) (allowed : state.Allowed sizeOf query access)
    (moved : state.step access = some (next, answer)) : Filed sizeOf query streamId next := by
  obtain ⟨archived, truthful, log, refines⟩ := filed
  cases access with
  | event event =>
    simp only [Archive.step, Option.map_eq_some_iff, Prod.mk.injEq] at moved
    obtain ⟨⟨recording, given⟩, moved, rfl, rfl⟩ := moved
    obtain ⟨after, grown⟩ := step_archived archived truthful.idle allowed moved
    exact ⟨after, step_truthful truthful False.elim moved, log, refines_grown refines after.attended grown⟩
  | page page =>
    simp only [Archive.step] at moved
    split at moved
    · rename_i more
      obtain ⟨rfl, rfl⟩ := Prod.mk.inj (Option.some.inj moved)
      have turned : state.browsing.step (.page page) = some (⟨state.recording.sharing, page.nextAfterSequence,
          page.hasMore, state.requests ++ [(state.recording.world, page)]⟩, ()) := if_pos more
      exact ⟨archived, truthful, refines.step (show Browsing.Allowed sizeOf query _ (.page page) from allowed) turned⟩
    · cases moved

theorem opened_filed (started : Started query.filter.sessionId world) :
    Filed sizeOf query world.writer.session.streamId (.opened query.filter.sessionId diagnosis world) := by
  have attended : Attended sizeOf query.filter.sessionId world.writer.session.streamId (.opened world) :=
    started_attended started
  refine ⟨⟨attended, .inl rfl, fun rest running => by cases running⟩, started_truthful started diagnosis, [], ?_⟩
  exact ⟨attended, .start, .nil, fun entry member => by cases member⟩

private theorem archive_filed (started : Started query.filter.sessionId world)
    (path : Path Archive.step (Archive.Allowed sizeOf query) (.opened query.filter.sessionId diagnosis world) trace
      state) :
    Filed sizeOf query world.writer.session.streamId state :=
  path.preserves (Filed sizeOf query world.writer.session.streamId) (fun _ _ _ _ => Filed.step) (opened_filed started)

/-- Whatever the threads of a recorder, its owner and the services do: following the pages of a query over the session
answers every request, never a frame twice or out of order, and with all that was registered by the last request once
there is no more to come; summaries and histograms agree with it. -/
theorem archive_exact (started : Started query.filter.sessionId world)
    (path : Path Archive.step (Archive.Allowed sizeOf query) (.opened query.filter.sessionId diagnosis world) trace
      state) :
    state.browsing.Exact sizeOf query ∧ state.browsing.Aggregated sizeOf query := by
  obtain ⟨-, -, log, refines⟩ := archive_filed started path
  exact ⟨refines.exact, refines.aggregated⟩

/-- The frames of the batches that the recorder has accepted, in order. -/
def acceptedBy (trace : List (Access × Option FrameBatch)) : List Frame :=
  trace.flatMap fun entry => entry.2.elim [] FrameBatch.frames

/-- The accepted frames that a query asks for, as the services give them. -/
def wanted (query : FrameQuery) (accepted : List Frame) : List PyFrame :=
  (accepted.filter query.filter.accepts).map PyFrame.ofFrame

/-- Once the session is completed, its aggregates are those of every accepted frame; a reader that has followed the
pages of a completed session to their end has received all of them. -/
structure Archive.Delivers (sizeOf : StoredFile → Nat) (query : FrameQuery) (accepted : List Frame) (state : Archive) :
    Prop where
  completed : RowCompleted query.filter.sessionId state.recording.world →
    Aggregates sizeOf query.filter state.recording.world (wanted query accepted)
  drained : state.hasMore = false → ∀ last ∈ state.requests.getLast?, RowCompleted query.filter.sessionId last.1 →
    state.browsing.received = wanted query accepted

/-- The invariant of an accountable run: after a request of a completed session nothing more is accepted. -/
structure Closed (query : FrameQuery) (accepted : List Frame) (state : Archive) : Prop where
  accounted : Accounted query.filter.sessionId accepted state.recording
  requested : ∀ request ∈ state.requests, RowCompleted query.filter.sessionId request.1 →
    state.recording.worker.present = true ∧ recordedFrames query.filter.sessionId request.1 = some accepted

/-- Before its stop a recorder's session is not completed. -/
theorem accounted_present {sessionId : Uuid} {recording : Recording}
    (accounted : Accounted sessionId accepted recording) (completed : RowCompleted sessionId recording.world) :
    recording.worker.present = true := by
  cases place : recording.worker with
  | absent =>
    have sound := accounted.worker
    rw [place] at sound
    have opened : Open sessionId recording.world := by
      cases waits : recording.appender with
      | appending batch rest =>
        rw [waits] at sound
        exact sound.1
      | idle | waiting batch =>
        rw [waits] at sound
        exact Keeping.opened sound
    exact absurd completed opened.row
  | _ => rfl

/-- After the stop nothing is accepted. -/
theorem accounted_silent {sessionId : Uuid} {recording reached : Recording} {event : Event}
    (accounted : Accounted sessionId accepted recording) (present : recording.worker.present = true)
    (moved : recording.step event = some (reached, answer)) : answer = none := by
  cases event with
  | appendStep choice =>
    have idle : recording.appender = .idle := by
      refine accounted.alone.resolve_left fun absent => ?_
      rw [absent] at present
      cases present
    simp [Recording.step, Recording.appendStep, idle] at moved
  | report failure | intervene call =>
    cases moved
    rfl
  | _ =>
    simp only [Recording.step, Recording.silent, Option.map_eq_some_iff, Prod.mk.injEq] at moved
    obtain ⟨_, _, _, rfl⟩ := moved
    rfl

theorem Closed.step (closed : Closed query accepted state) (filed : Filed sizeOf query streamId state)
    (allowed : state.Accountable sizeOf query access) (moved : state.step access = some (next, answer)) :
    Closed query (accepted ++ answer.elim [] FrameBatch.frames) next := by
  cases access with
  | event event =>
    simp only [Archive.step, Option.map_eq_some_iff, Prod.mk.injEq] at moved
    obtain ⟨⟨recording, given⟩, moved, rfl, rfl⟩ := moved
    refine ⟨step_accounted closed.accounted allowed.2 moved, fun request member completed => ?_⟩
    obtain ⟨present, recorded⟩ := closed.requested request member completed
    have silent : given = none := accounted_silent closed.accounted present moved
    rw [silent, Option.elim, List.append_nil]
    exact ⟨(step_keeps filed.truthful.idle moved).present present, recorded⟩
  | page page =>
    simp only [Archive.step] at moved
    split at moved
    · obtain ⟨rfl, rfl⟩ := Prod.mk.inj (Option.some.inj moved)
      rw [Option.elim, List.append_nil]
      refine ⟨closed.accounted, fun request member completed => ?_⟩
      rcases List.mem_append.mp member with earlier | added
      · exact closed.requested request earlier completed
      · rw [List.mem_singleton.mp added] at completed ⊢
        exact ⟨accounted_present closed.accounted completed, (closed.accounted.complete completed).frames⟩
    · cases moved

theorem archive_closed (started : Started query.filter.sessionId world)
    (path : Path Archive.step (Archive.Accountable sizeOf query) (.opened query.filter.sessionId diagnosis world) trace
      state) :
    Filed sizeOf query world.writer.session.streamId state ∧ Closed query (acceptedBy trace) state := by
  refine path.preserves_trace (fun trace state => Filed sizeOf query world.writer.session.streamId state ∧
    Closed query (acceptedBy trace) state) ?_ fun trace state access next answer _ held allowed moved => ?_
  · refine ⟨opened_filed started, started_accounted started diagnosis, fun request member => ?_⟩
    cases member
  · refine ⟨held.1.step allowed.1 moved, ?_⟩
    have closed := held.2.step held.1 allowed moved
    simpa [acceptedBy] using closed

/-- In an accountable run, a completed session and a reader of it have every accepted frame that the query asks for,
once, in order, and nothing else. -/
theorem archive_delivers (started : Started query.filter.sessionId world)
    (path : Path Archive.step (Archive.Accountable sizeOf query) (.opened query.filter.sessionId diagnosis world) trace
      state) :
    state.Delivers sizeOf query (acceptedBy trace) := by
  obtain ⟨⟨archived, truthful, log, refines⟩, closed⟩ := archive_closed started path
  refine ⟨fun completed => ?_, fun ended last latest completed => ?_⟩
  · obtain ⟨tables, shelf⟩ := archived.attended.shelf
    have recorded := (closed.accounted.complete completed).frames
    have same := Option.some.inj ((shelf_recorded shelf).symm.trans recorded)
    rw [wanted, ← same]
    exact aggregates_shelf shelf
  · obtain ⟨first, head⟩ : ∃ first, state.requests.head? = some first := by
      cases requests : state.requests with
      | nil =>
        rw [requests] at latest
        cases latest
      | cons request rest => exact ⟨request, rfl⟩
    obtain ⟨early, late, -, matched, -, -, all, -⟩ := refines.exact.matched first head last latest
    have recorded := (closed.requested last (List.mem_of_getLast? latest) completed).2
    rw [matchedFrames, recorded, Option.map_some] at matched
    rw [(all ended).1, wanted, Option.some.inj matched]

/-- A recording during which the reader asks for nothing. -/
theorem archive_events (query : FrameQuery) (state : Archive) {target : Recording}
    {events : List (Event × Option FrameBatch)}
    (recording : Path Recording.step (fun reached event => Recorder.Accountable reached event ∧
      reached.Honest sizeOf event) state.recording events target) :
    Path Archive.step (Archive.Accountable sizeOf query) state (events.map fun entry => (.event entry.1, entry.2))
      { state with recording := target } := by
  induction recording with
  | refl => exact .refl
  | @snoc trace middle event target answer _ allowed moved ih =>
    rw [List.map_append]
    have stepped : Archive.step { state with recording := middle } (.event event) =
        some ({ state with recording := target }, answer) := by
      simp only [Archive.step, moved, Option.map_some]
    exact .snoc ih ⟨allowed.2, allowed.1⟩ stepped

theorem acceptedBy_events (events : List (Event × Option FrameBatch)) :
    acceptedBy (events.map fun entry => (.event entry.1, entry.2)) = acceptedFrames events := by
  rw [acceptedBy, acceptedFrames, List.flatMap_map]

end Runs

section Sample

/-- No fault, and every file has 100 bytes. -/
def calmly (state : Recording) (event : Event) : Bool :=
  undisturbedly state event &&
    match event with
    | .appendStep choice | .work choice _ => choice.byteSize = 100
    | _ => true

private theorem measured_hundred {world : World} {request : DataEffect} {choice : Choice}
    (sized : choice.byteSize = 100) :
    measured (fun _ => 100) world request choice := by
  cases request with
  | fileSize path => exact fun _ _ => sized
  | _ => trivial

private theorem calmly_sound (state : Recording) (event : Event) (passed : calmly state event = true) :
    Accountable state event ∧ state.Honest (fun _ => 100) event := by
  obtain ⟨quiet, sized⟩ := Bool.and_eq_true_iff.mp passed
  refine ⟨undisturbedly_sound state event quiet, ?_⟩
  cases event with
  | appendStep choice => exact fun _ _ _ => measured_hundred (of_decide_eq_true sized)
  | work choice reading => exact fun _ _ _ => measured_hundred (of_decide_eq_true sized)
  | _ => trivial

theorem one_positive : 0 < 1 := Nat.one_pos

theorem zero_word : 0 ≤ 0xFFFFFFFFFFFFFFFF := Nat.zero_le _

/-- What is seen of a recording: the state of its session, what was accepted and what is registered. -/
def ledgers (reached : Recording × List (Event × Option FrameBatch)) :
    Option DataSessionState × List Frame × Option (List Frame) :=
  (sessionState sampleSessionId reached.1.world.database, acceptedFrames reached.2,
    recordedFrames sampleSessionId reached.1.world)

/-- A recording of one frame up to its completion, and the request that follows it. -/
theorem sampleArchive_path : ∃ trace final,
    Path Archive.step (Archive.Accountable (fun _ => 100) pagedQuery)
        (.opened sampleSessionId stopDeadlineExceeded (sampleWorld 1 one_positive)) trace final ∧
      acceptedBy trace = [Data.sampleFrame 0 zero_word] ∧ final.hasMore = false ∧
      ∃ last ∈ final.requests.getLast?, RowCompleted sampleSessionId last.1 := by
  have evaluated : (followWithin Recording.step calmly (recording 1 one_positive)
      (oneBatch (sampleBatch 0 zero_word) 19 22)).map ledgers =
        some (some .completed, [Data.sampleFrame 0 zero_word], some [Data.sampleFrame 0 zero_word]) := by
    decide +kernel
  obtain ⟨trace, final, run, seen⟩ := Path.observedWithin _ ledgers _ calmly_sound evaluated
  simp only [ledgers, Prod.mk.injEq] at seen
  obtain ⟨completed, accepted, recorded⟩ := seen
  let start : Archive := .opened sampleSessionId stopDeadlineExceeded (sampleWorld 1 one_positive)
  have events := archive_events pagedQuery start run
  have started : Started pagedQuery.filter.sessionId (sampleWorld 1 one_positive) := sampleWorld_started 1 one_positive
  obtain ⟨⟨archived, -, -⟩, -⟩ := archive_closed started events
  obtain ⟨tables, shelf⟩ := archived.attended.shelf
  have same : tableFrames tables = [Data.sampleFrame 0 zero_word] :=
    Option.some.inj ((shelf_recorded shelf).symm.trans recorded)
  have answer : QueryService.QueryFrames _ _ (pagedQuery.after none) _ := (queryFrames_shelf shelf).mpr rfl
  rw [same] at answer
  let page := pagedFrames none [Data.sampleFrame 0 zero_word]
  have last : page.hasMore = false := by decide +kernel
  have allowed : Archive.Accountable (fun _ => 100) pagedQuery ⟨final, none, true, []⟩ (.page page) := ⟨answer, trivial⟩
  have moved : Archive.step ⟨final, none, true, []⟩ (.page page) =
      some (⟨final, page.nextAfterSequence, page.hasMore, [(final.world, page)]⟩, none) := rfl
  refine ⟨_, _, events.snoc allowed moved, ?_, last, _, rfl, completed⟩
  rw [acceptedBy, List.flatMap_append, List.flatMap_singleton, Option.elim, List.append_nil]
  exact (acceptedBy_events trace).trans accepted

/-- The reader of a completed recording of one frame. -/
theorem archive_exact_frame : ∃ trace final,
    Path Archive.step (Archive.Allowed (fun _ => 100) pagedQuery)
        (.opened sampleSessionId stopDeadlineExceeded (sampleWorld 1 one_positive)) trace final ∧
      final.hasMore = false ∧ final.browsing.Exact (fun _ => 100) pagedQuery ∧
      final.browsing.Aggregated (fun _ => 100) pagedQuery := by
  obtain ⟨trace, final, path, -, ended, -⟩ := sampleArchive_path
  have within := path.weaken fun _ _ accountable => accountable.1
  exact ⟨trace, final, within, ended,
    archive_exact (sampleWorld_started 1 one_positive) within⟩

/-- It has received that frame. -/
theorem archive_delivers_frame : ∃ trace final,
    Path Archive.step (Archive.Accountable (fun _ => 100) pagedQuery)
        (.opened sampleSessionId stopDeadlineExceeded (sampleWorld 1 one_positive)) trace final ∧
      final.Delivers (fun _ => 100) pagedQuery (acceptedBy trace) ∧
      final.browsing.received = [PyFrame.ofFrame (Data.sampleFrame 0 zero_word)] := by
  obtain ⟨trace, final, path, accepted, ended, last, latest, completed⟩ := sampleArchive_path
  have delivers : final.Delivers (fun _ => 100) pagedQuery (acceptedBy trace) :=
    archive_delivers (sampleWorld_started 1 one_positive) path
  refine ⟨trace, final, path, delivers, ?_⟩
  rw [delivers.drained ended last latest completed, accepted]
  rfl

end Sample

end CanX.Recorder
