import CanX.Data.Completion
import CanX.Recorder.Finalization

/-! The owner's verdict and the durable one. `Truthful` ties the gate, the locks, the
place of each thread and the session row together; every step keeps it. -/

namespace CanX.Recorder

open Domain Data Transition

variable {sessionId : Uuid} {world after : World}

/-- A call on the writer in progress: of a session nothing has completed, or refused. -/
def Running (sessionId : Uuid) (program : DataProgram Unit) (world : World) : Prop :=
  Open sessionId world ∧ KeepsOpen sessionId program ∨ Shut sessionId world ∧ OnlyReads program

/-- What the holder of the writer leaves to the others while no completion is running. -/
structure Advances (sessionId : Uuid) (before after : World) : Prop where
  opened : Open sessionId before → Open sessionId after
  shut : Shut sessionId before → Shut sessionId after
  completed : KeepsCompleted sessionId before after

theorem Beside.advances (moved : Beside sessionId world after) :
    Advances sessionId world after :=
  ⟨fun opened => opened.beside moved, fun shut => shut.beside moved, moved.keepsCompleted⟩

private theorem advances_of_open (before : Open sessionId world) (opened : Open sessionId after) :
    Advances sessionId world after :=
  ⟨fun _ => opened, fun shut => absurd shut.row before.row, fun row => absurd row before.row⟩

private theorem advances_of_shut (before : Shut sessionId world) (shut : Shut sessionId after) :
    Advances sessionId world after :=
  ⟨fun opened => absurd before.row opened.row, fun _ => shut, fun _ => shut.row⟩

theorem Running.perform {request : DataEffect}
    {next : Except PyException request.Answer → DataProgram Unit}
    (running : Running sessionId (.perform request next) world) (choice : Choice) :
    Running sessionId (next (perform request choice world).2) (perform request choice world).1 ∧
      Advances sessionId world (perform request choice world).1 := by
  rcases running with ⟨opened, kept⟩ | ⟨shut, reads⟩
  · obtain ⟨reached, answered⟩ := perform_open choice opened kept.1
    exact ⟨.inl ⟨reached, kept.2 _ answered⟩, advances_of_open opened reached⟩
  · obtain ⟨reached, answered⟩ := perform_shut choice shut reads.1
    exact ⟨.inr ⟨reached, reads.2 _ answered⟩, advances_of_shut shut reached⟩

theorem Running.beside {program : DataProgram Unit} (running : Running sessionId program world)
    (moved : Beside sessionId world after) : Running sessionId program after := by
  rcases running with ⟨opened, kept⟩ | ⟨shut, reads⟩
  · exact .inl ⟨opened.beside moved, kept⟩
  · exact .inr ⟨shut.beside moved, reads⟩

def Undecided (sessionId : Uuid) (world : World) (recorder : ProjectRecorder) : Prop :=
  recorder.completed = false ∧ Open sessionId world

def Decided (sessionId : Uuid) (world : World) (recorder : ProjectRecorder) : Prop :=
  recorder.completed = true ∧ Shut sessionId world ∨ Undecided sessionId world recorder

abbrev Completing (sessionId : Uuid) (rest : DataProgram DataSession) (world : World) : Prop :=
  Program.Safe perform anyChoice (Beside sessionId)
    (fun before _ after => KeepsCompleted sessionId before after) (afterCompletion sessionId)
    rest world

abbrev Settling (sessionId : Uuid) (rest : DataProgram DataSession) (world : World) : Prop :=
  Program.Safe perform anyChoice (KeepsCompleted sessionId)
    (fun before _ after => Beside sessionId before after) (reportedTruly sessionId) rest world

/-- What holds where the finalization thread is. -/
def WorkerOk (sessionId : Uuid) (world : World) (recorder : ProjectRecorder) : Worker → Prop
  | .flushing rest => Undecided sessionId world recorder ∧ KeepsOpen sessionId rest
  | .failing rest => Undecided sessionId world recorder ∧ KeepsOpen sessionId rest
  | .gateClock deadline =>
    Undecided sessionId world recorder ∧ recorder.deadline = some deadline
  | .committing rest => recorder.completed = false ∧ Completing sessionId rest world
  | .recordCompleted => recorder.completed = false ∧ Shut sessionId world
  | .setStopped => recorder.completed = true ∧ Shut sessionId world
  | .readCompleted | .releaseTerminal | .clearInFlight | .setSettled | .finished =>
    Decided sessionId world recorder
  | _ => Undecided sessionId world recorder

/-- The worker has been let through the gate and has not been refused since. -/
def Worker.passedGate : Worker → Bool
  | awaitCommit | committing _ | recordCompleted => true
  | _ => false

/-- The owner has closed the gate on a worker that is not past it. -/
structure GateClosed (recorder : ProjectRecorder) (worker : Worker) : Prop where
  deadline : recorder.deadline = some 0
  uncompleted : recorder.completed = false
  held : worker.passedGate = false

/-- `sound` stands for a clock that a closed gate can rely on; without it the owner knows
nothing of the worker it has refused. -/
def OwnerOk (sound : Prop) (sessionId : Uuid) (world : World) (recorder : ProjectRecorder)
    (worker : Worker) : Owner → Prop
  | .recording => worker = .absent
  | .gateClosing => recorder.completed = false
  | .gateReleasing | .settling | .joining | .readVerdict | .reporting | .returned .failed =>
    sound → GateClosed recorder worker
  | .returned .completed => RowCompleted sessionId world
  | _ => True

def AppenderOk (sessionId : Uuid) (world : World) : Appender → Prop
  | .appending _ rest => Running sessionId rest world
  | _ => True

def SettlerOk (sessionId : Uuid) (world : World) : Settler → Prop
  | .running rest => Settling sessionId rest world
  | _ => True

/-- The invariant of every reachable state. -/
structure Truthful (sound : Prop) (state : Recording) : Prop where
  lock : state.appender.holdsLock = true → state.worker.holdsLock = false
  terminal : state.owner.holdsTerminal = true → state.worker.holdsTerminal = false
  appender : AppenderOk state.sessionId state.world state.appender
  worker : WorkerOk state.sessionId state.world state.recorder state.worker
  owner : OwnerOk sound state.sessionId state.world state.recorder state.worker state.owner
  settler : SettlerOk state.sessionId state.world state.settler
  others : ∀ program ∈ state.others, Bystands program
  verdict : state.verdict = some .completed → RowCompleted state.sessionId state.world

/-! How each component follows a step of another thread. -/

theorem WorkerOk.advances {recorder : ProjectRecorder} {worker : Worker}
    (ok : WorkerOk sessionId world recorder worker) (free : worker.holdsLock = false)
    (moved : Advances sessionId world after) : WorkerOk sessionId after recorder worker := by
  cases worker with
  | flushing rest => cases free
  | committing rest => cases free
  | failing rest => cases free
  | gateClock deadline => exact ⟨⟨ok.1.1, moved.opened ok.1.2⟩, ok.2⟩
  | recordCompleted => exact ⟨ok.1, moved.shut ok.2⟩
  | setStopped => exact ⟨ok.1, moved.shut ok.2⟩
  | readCompleted | releaseTerminal | clearInFlight | setSettled | finished =>
    rcases ok with ⟨completed, shut⟩ | ⟨uncompleted, opened⟩
    · exact .inl ⟨completed, moved.shut shut⟩
    · exact .inr ⟨uncompleted, moved.opened opened⟩
  | _ => exact ⟨ok.1, moved.opened ok.2⟩

theorem WorkerOk.beside {recorder : ProjectRecorder} {worker : Worker}
    (ok : WorkerOk sessionId world recorder worker) (moved : Beside sessionId world after) :
    WorkerOk sessionId after recorder worker := by
  cases worker with
  | flushing rest => exact ⟨⟨ok.1.1, ok.1.2.beside moved⟩, ok.2⟩
  | failing rest => exact ⟨⟨ok.1.1, ok.1.2.beside moved⟩, ok.2⟩
  | committing rest => exact ⟨ok.1, ok.2.interfere (fun _ _ _ => Beside.trans) moved⟩
  | _ => exact WorkerOk.advances ok rfl (Beside.advances moved)

theorem OwnerOk.follows {sound : Prop} {recorder recorder' : ProjectRecorder}
    {worker worker' : Worker} {owner : Owner}
    (ok : OwnerOk sound sessionId world recorder worker owner)
    (started : worker = .absent → worker' = .absent)
    (closing : owner = .gateClosing → recorder'.completed = recorder.completed)
    (gate : sound → GateClosed recorder worker → GateClosed recorder' worker')
    (moved : KeepsCompleted sessionId world after) :
    OwnerOk sound sessionId after recorder' worker' owner := by
  cases owner with
  | recording => exact started ok
  | gateClosing => exact (closing rfl).trans ok
  | returned outcome =>
    cases outcome with
    | completed => exact moved ok
    | failed => exact fun holds => gate holds (ok holds)
    | pending => trivial
  | gateReleasing | settling | joining | readVerdict | reporting =>
    exact fun holds => gate holds (ok holds)
  | _ => trivial

theorem SettlerOk.follows {settler : Settler} (ok : SettlerOk sessionId world settler)
    (moved : KeepsCompleted sessionId world after) : SettlerOk sessionId after settler := by
  cases settler with
  | running rest => exact ok.interfere (fun _ _ _ first second row => second (first row)) moved
  | _ => trivial

theorem AppenderOk.beside {appender : Appender} (ok : AppenderOk sessionId world appender)
    (moved : Beside sessionId world after) : AppenderOk sessionId after appender := by
  cases appender with
  | appending batch rest => exact Running.beside ok moved
  | _ => trivial

theorem AppenderOk.free {appender : Appender} (free : appender.holdsLock = false) :
    AppenderOk sessionId world appender := by
  cases appender with
  | appending batch rest => cases free
  | _ => trivial

variable {sound : Prop} {state next : Recording}

theorem Truthful.appender_free (inv : Truthful sound state) (held : state.worker.holdsLock = true) :
    state.appender.holdsLock = false := by
  rw [← Bool.not_eq_true]
  intro appending
  rw [inv.lock appending] at held
  cases held

theorem lockFree_iff : state.lockFree = true ↔
    state.appender.holdsLock = false ∧ state.worker.holdsLock = false := by
  simp [Recording.lockFree]

/-- The finalization thread moves without touching the database. -/
theorem Truthful.moveWorker (inv : Truthful sound state) {worker : Worker}
    {recorder : ProjectRecorder} (present : state.worker ≠ .absent)
    (lock : worker.holdsLock = true → state.lockFree = true)
    (terminal : worker.holdsTerminal = true →
      state.worker.holdsTerminal = true ∨ state.owner.holdsTerminal = false)
    (ok : WorkerOk state.sessionId state.world recorder worker)
    (closing : state.owner = .gateClosing → recorder.completed = state.recorder.completed)
    (gate : sound → GateClosed state.recorder state.worker → GateClosed recorder worker) :
    Truthful sound { state with worker, recorder } where
  lock appending := by
    rw [← Bool.not_eq_true]
    intro held
    have free := (lockFree_iff.mp (lock held)).1
    rw [free] at appending
    cases appending
  terminal held := by
    rw [← Bool.not_eq_true]
    intro holds
    rcases terminal holds with before | refused
    · rw [inv.terminal held] at before
      cases before
    · rw [refused] at held
      cases held
  appender := inv.appender
  worker := ok
  owner := OwnerOk.follows inv.owner (fun absent => absurd absent present) closing gate
    (KeepsCompleted.refl _)
  settler := inv.settler
  others := inv.others
  verdict := inv.verdict

/-- The finalization thread performs one effect of a call on the writer. -/
theorem Truthful.workerEffect (inv : Truthful sound state) {worker : Worker} {world : World}
    (held : state.worker.holdsLock = true)
    (terminal : worker.holdsTerminal = state.worker.holdsTerminal)
    (gate : worker.passedGate = state.worker.passedGate)
    (kept : KeepsCompleted state.sessionId state.world world)
    (ok : WorkerOk state.sessionId world state.recorder worker) :
    Truthful sound { state with world, worker } where
  lock appending := by
    rw [inv.appender_free held] at appending
    cases appending
  terminal owned := terminal.trans (inv.terminal owned)
  appender := AppenderOk.free (inv.appender_free held)
  worker := ok
  owner := OwnerOk.follows inv.owner (fun absent => by rw [absent] at held; cases held)
    (fun _ => rfl) (fun _ closed => ⟨closed.deadline, closed.uncompleted, gate.trans closed.held⟩)
    kept
  settler := inv.settler.follows kept
  others := inv.others
  verdict reported := kept (inv.verdict reported)

/-- A reading compared with the deadline of a closed gate is above minus the grace
period. -/
def ClockAboveGrace (state : Recording) : Event → Prop
  | .work _ reading => state.worker = .gateClock 0 → -terminalGraceSeconds < reading
  | _ => True

private theorem closed_gate_refuses {reading : Seconds} (above : -terminalGraceSeconds < reading) :
    ¬reading + terminalGraceSeconds ≤ 0 := by
  intro within
  grind

/-- A step of the finalization thread that takes no lock and passes no gate. -/
theorem Truthful.quiet (inv : Truthful sound state) {worker : Worker} {recorder : ProjectRecorder}
    (present : state.worker ≠ .absent)
    (completed : recorder.completed = state.recorder.completed)
    (deadline : recorder.deadline = state.recorder.deadline)
    (lock : worker.holdsLock = false) (gate : worker.passedGate = false)
    (terminal : worker.holdsTerminal = true →
      state.worker.holdsTerminal = true ∨ state.owner.holdsTerminal = false)
    (ok : WorkerOk state.sessionId state.world recorder worker) :
    Truthful sound { state with worker, recorder } :=
  inv.moveWorker present (fun held => by rw [lock] at held; cases held) terminal ok
    (fun _ => completed)
    (fun _ closed => ⟨deadline.trans closed.deadline, completed.trans closed.uncompleted, gate⟩)

/-- An effect of a flush or of a failure, which never completes the row. -/
theorem effect_undecided {recorder : ProjectRecorder} {request : DataEffect} {Value : Type}
    {next : Except PyException request.Answer → DataProgram Value}
    (undecided : Undecided sessionId world recorder)
    (kept : KeepsOpen sessionId (.perform request next)) (choice : Choice) :
    KeepsCompleted sessionId world (perform request choice world).1 ∧
      Undecided sessionId (perform request choice world).1 recorder ∧
      KeepsOpen sessionId (next (perform request choice world).2) := by
  obtain ⟨reached, answered⟩ := perform_open choice undecided.2 kept.1
  exact ⟨fun row => absurd row undecided.2.row, ⟨undecided.1, reached⟩, kept.2 _ answered⟩

theorem work_truthful (inv : Truthful sound state) {choice : Choice} {reading : Seconds}
    (above : sound → state.worker = .gateClock 0 → -terminalGraceSeconds < reading)
    (moved : state.work choice reading = some next) : Truthful sound next := by
  have ok := inv.worker
  have terminal := inv.terminal
  cases place : state.worker with
  | absent | cancelled | finished => simp [Recording.work, place] at moved
  | queued =>
    simp only [Recording.work, place, Option.some.injEq] at moved ok
    subst moved
    exact inv.quiet (by simp [place]) rfl rfl rfl rfl (fun holds => by cases holds) ok
  | checkFailure =>
    simp only [Recording.work, place, Option.some.injEq] at moved ok
    subst moved
    split
    · exact inv.quiet (by simp [place]) rfl rfl rfl rfl (fun holds => by cases holds) ok
    · exact inv.quiet (by simp [place]) rfl rfl rfl rfl (fun holds => by cases holds) ok
  | awaitFlush =>
    simp only [Recording.work, place, Option.ite_none_right_eq_some, Option.some.injEq]
      at moved ok
    obtain ⟨free, rfl⟩ := moved
    exact inv.moveWorker (by simp [place]) (fun _ => free) (fun holds => by cases holds)
      ⟨ok, flushPending_keepsOpen⟩ (fun _ => rfl)
      (fun _ closed => ⟨closed.deadline, closed.uncompleted, rfl⟩)
  | flushing rest =>
    rw [place] at ok
    cases rest with
    | perform request continuation =>
      simp only [Recording.work, place, Option.some.injEq] at moved
      subst moved
      obtain ⟨kept, undecided, rest⟩ := effect_undecided ok.1 ok.2 choice
      exact inv.workerEffect (by rw [place]; rfl) (by rw [place]; rfl) (by rw [place]; rfl) kept
        ⟨undecided, rest⟩
    | finish result =>
      rcases result with (error | sqlite | os | arrow | overflow | foreign) | value <;>
        simp only [Recording.work, place, Option.some.injEq] at moved <;> subst moved <;>
        exact inv.quiet (by simp [place]) rfl rfl rfl rfl (fun holds => by cases holds) ok.1
  | diagnoseFlush error =>
    simp only [Recording.work, place, Option.some.injEq] at moved ok
    subst moved
    exact inv.quiet (by simp [place]) rfl rfl rfl rfl (fun holds => by cases holds) ok
  | awaitTerminal =>
    simp only [Recording.work, place, Option.ite_none_left_eq_some, Option.some.injEq]
      at moved ok
    obtain ⟨free, rfl⟩ := moved
    exact inv.quiet (by simp [place]) rfl rfl rfl rfl
      (fun _ => .inr (Bool.not_eq_true _ ▸ free)) ok
  | gateFailure =>
    simp only [Recording.work, place, Option.some.injEq] at moved ok
    subst moved
    have held : state.worker.holdsTerminal = true := by rw [place]; rfl
    split
    · exact inv.quiet (by simp [place]) rfl rfl rfl rfl (fun _ => .inl held) ok
    · exact inv.quiet (by simp [place]) rfl rfl rfl rfl (fun _ => .inl held) (.inr ok)
  | gateDeadline =>
    simp only [Recording.work, place, Option.some.injEq] at moved ok
    subst moved
    have held : state.worker.holdsTerminal = true := by rw [place]; rfl
    split
    · rename_i unarmed
      exact inv.moveWorker (by simp [place]) (fun holds => by cases holds) (fun _ => .inl held) ok
        (fun _ => rfl) (fun _ closed => by rw [closed.deadline] at unarmed; cases unarmed)
    · rename_i deadline armed
      exact inv.quiet (by simp [place]) rfl rfl rfl rfl (fun _ => .inl held) ⟨ok, armed⟩
  | gateClock deadline =>
    simp only [Recording.work, place, Option.some.injEq] at moved ok
    subst moved
    have held : state.worker.holdsTerminal = true := by rw [place]; rfl
    split
    · rename_i within
      refine inv.moveWorker (by simp [place]) (fun holds => by cases holds) (fun _ => .inl held)
        ok.1 (fun _ => rfl) fun reliable closed => ?_
      -- a closed gate left the deadline 0, which no allowed reading meets
      have zero : deadline = 0 := Option.some.inj (ok.2.symm.trans closed.deadline)
      exact absurd (zero ▸ within) (closed_gate_refuses (above reliable (zero ▸ place)))
    · exact inv.quiet (by simp [place]) rfl rfl rfl rfl (fun _ => .inl held) (.inr ok.1)
  | awaitCommit =>
    simp only [Recording.work, place, Option.ite_none_right_eq_some, Option.some.injEq]
      at moved ok
    obtain ⟨free, rfl⟩ := moved
    have held : state.worker.holdsTerminal = true := by rw [place]; rfl
    exact inv.moveWorker (by simp [place]) (fun _ => free) (fun _ => .inl held)
      ⟨ok.1, commitCompleted_triple _ ok.2⟩ (fun _ => rfl)
      (fun _ closed => by have refused := closed.held; rw [place] at refused; cases refused)
  | committing rest =>
    rw [place] at ok
    have held : state.worker.holdsTerminal = true := by rw [place]; rfl
    have passed : ¬GateClosed state.recorder state.worker := fun closed => by
      have refused := closed.held
      rw [place] at refused
      cases refused
    cases rest with
    | perform request continuation =>
      simp only [Recording.work, place, Option.some.injEq] at moved
      subst moved
      obtain ⟨kept, rest⟩ := ok.2 state.world (Beside.refl _ _) choice trivial
      exact inv.workerEffect (by rw [place]; rfl) (by rw [place]; rfl) (by rw [place]; rfl) kept
        ⟨ok.1, rest⟩
    | finish result =>
      have reached := ok.2.finished (Beside.refl _)
      rcases result with (error | sqlite | os | arrow | overflow | foreign) | value <;>
        simp only [Recording.work, place, Option.some.injEq] at moved <;> subst moved
      case ok =>
        exact inv.moveWorker (by simp [place]) (fun holds => by cases holds) (fun _ => .inl held)
          ⟨ok.1, reached⟩ (fun _ => rfl) (fun _ closed => absurd closed passed)
      case error.data =>
        exact inv.quiet (by simp [place]) rfl rfl rfl rfl (fun _ => .inl held) ⟨ok.1, reached⟩
      all_goals
        exact inv.quiet (by simp [place]) rfl rfl rfl rfl (fun _ => .inl held)
          (.inr ⟨ok.1, reached⟩)
  | diagnoseCommit error =>
    simp only [Recording.work, place, Option.some.injEq] at moved ok
    subst moved
    have held : state.worker.holdsTerminal = true := by rw [place]; rfl
    exact inv.quiet (by simp [place]) rfl rfl rfl rfl (fun _ => .inl held) (.inr ok)
  | recordCompleted =>
    simp only [Recording.work, place, Option.some.injEq] at moved ok
    subst moved
    have held : state.worker.holdsTerminal = true := by rw [place]; rfl
    refine inv.moveWorker (by simp [place]) (fun holds => by cases holds) (fun _ => .inl held)
      (.inl ⟨rfl, ok.2⟩) (fun closing => ?_) fun _ closed => ?_
    · rw [closing, held] at terminal
      cases terminal rfl
    · have refused := closed.held
      rw [place] at refused
      cases refused
  | readCompleted =>
    simp only [Recording.work, place, Option.some.injEq] at moved ok
    subst moved
    have held : state.worker.holdsTerminal = true := by rw [place]; rfl
    rcases ok with ⟨completed, shut⟩ | undecided
    · rw [if_pos completed]
      exact inv.quiet (by simp [place]) rfl rfl rfl rfl (fun _ => .inl held) ⟨completed, shut⟩
    · rw [if_neg (by simp [undecided.1])]
      exact inv.quiet (by simp [place]) rfl rfl rfl rfl (fun _ => .inl held) undecided
  | setStopped =>
    simp only [Recording.work, place, Option.some.injEq] at moved ok
    subst moved
    have held : state.worker.holdsTerminal = true := by rw [place]; rfl
    exact inv.quiet (by simp [place]) rfl rfl rfl rfl (fun _ => .inl held) (.inl ok)
  | reportDeadline =>
    simp only [Recording.work, place, Option.some.injEq] at moved ok
    subst moved
    have held : state.worker.holdsTerminal = true := by rw [place]; rfl
    split
    · exact inv.quiet (by simp [place]) rfl rfl rfl rfl (fun _ => .inl held) ok
    · exact inv.quiet (by simp [place]) rfl rfl rfl rfl (fun _ => .inl held) ok
  | setFailed =>
    simp only [Recording.work, place, Option.some.injEq] at moved ok
    subst moved
    have held : state.worker.holdsTerminal = true := by rw [place]; rfl
    exact inv.quiet (by simp [place]) rfl rfl rfl rfl (fun _ => .inl held) ok
  | awaitFail =>
    simp only [Recording.work, place, Option.ite_none_right_eq_some, Option.some.injEq]
      at moved ok
    obtain ⟨free, rfl⟩ := moved
    have held : state.worker.holdsTerminal = true := by rw [place]; rfl
    exact inv.moveWorker (by simp [place]) (fun _ => free) (fun _ => .inl held)
      ⟨ok, fail_keepsOpen⟩ (fun _ => rfl)
      (fun _ closed => ⟨closed.deadline, closed.uncompleted, rfl⟩)
  | failing rest =>
    rw [place] at ok
    have held : state.worker.holdsTerminal = true := by rw [place]; rfl
    cases rest with
    | perform request continuation =>
      simp only [Recording.work, place, Option.some.injEq] at moved
      subst moved
      obtain ⟨kept, undecided, rest⟩ := effect_undecided ok.1 ok.2 choice
      exact inv.workerEffect (by rw [place]; rfl) (by rw [place]; rfl) (by rw [place]; rfl) kept
        ⟨undecided, rest⟩
    | finish result =>
      simp only [Recording.work, place, Option.some.injEq] at moved
      subst moved
      exact inv.quiet (by simp [place]) rfl rfl rfl rfl (fun _ => .inl held) (.inr ok.1)
  | releaseTerminal =>
    simp only [Recording.work, place, Option.some.injEq] at moved ok
    subst moved
    exact inv.quiet (by simp [place]) rfl rfl rfl rfl (fun holds => by cases holds) ok
  | clearInFlight =>
    simp only [Recording.work, place, Option.some.injEq] at moved ok
    subst moved
    exact inv.quiet (by simp [place]) rfl rfl rfl rfl (fun holds => by cases holds) ok
  | setSettled =>
    simp only [Recording.work, place, Option.some.injEq] at moved ok
    subst moved
    exact inv.quiet (by simp [place]) rfl rfl rfl rfl (fun holds => by cases holds) ok

theorem WorkerOk.same {recorder recorder' : ProjectRecorder} {worker : Worker}
    (ok : WorkerOk sessionId world recorder worker)
    (completed : recorder'.completed = recorder.completed)
    (deadline : recorder'.deadline = recorder.deadline) :
    WorkerOk sessionId world recorder' worker := by
  revert ok
  cases worker <;> simp only [WorkerOk, Decided, Undecided, completed, deadline, imp_self]

/-- A step of the owner, or of another thread, that leaves the finalization thread, its
gate and the database alone. -/
theorem Truthful.beside_worker (inv : Truthful sound state) {appender : Appender}
    {recorder : ProjectRecorder} (completed : recorder.completed = state.recorder.completed)
    (deadline : recorder.deadline = state.recorder.deadline)
    (lock : appender.holdsLock = true → state.worker.holdsLock = false)
    (ok : AppenderOk state.sessionId state.world appender) :
    Truthful sound { state with appender, recorder } where
  lock := lock
  terminal := inv.terminal
  appender := ok
  worker := inv.worker.same completed deadline
  owner := OwnerOk.follows inv.owner id (fun _ => completed)
    (fun _ closed => ⟨deadline.trans closed.deadline, completed.trans closed.uncompleted,
      closed.held⟩) (KeepsCompleted.refl _)
  settler := inv.settler
  others := inv.others
  verdict := inv.verdict

/-- While no call is in progress the session is open or completed by its writer. -/
theorem WorkerOk.standing {recorder : ProjectRecorder} {worker : Worker}
    (ok : WorkerOk sessionId world recorder worker) (free : worker.holdsLock = false) :
    Open sessionId world ∨ Shut sessionId world := by
  cases worker with
  | flushing rest | committing rest | failing rest => cases free
  | gateClock deadline => exact .inl ok.1.2
  | recordCompleted | setStopped => exact .inr ok.2
  | readCompleted | releaseTerminal | clearInFlight | setSettled | finished =>
    rcases ok with ⟨-, shut⟩ | ⟨-, opened⟩
    · exact .inr shut
    · exact .inl opened
  | _ => exact .inl ok.2

theorem append_truthful (inv : Truthful sound state) {batch : FrameBatch}
    (moved : state.append batch = some next) : Truthful sound next := by
  unfold Recording.append at moved
  split at moved
  · rename_i idle
    split at moved
    · cases moved
    split at moved <;> cases moved
    · exact inv.beside_worker rfl rfl (fun holds => by cases holds) trivial
    · exact inv.beside_worker rfl rfl inv.lock inv.appender
  · cases moved

theorem appended_completed (state : Recording) (batch : FrameBatch) :
    (state.appended batch).completed = state.recorder.completed ∧
      (state.appended batch).deadline = state.recorder.deadline := by
  unfold Recording.appended
  split <;> exact ⟨rfl, rfl⟩

theorem appendStep_truthful (inv : Truthful sound state) {choice : Choice}
    {accepted : Option FrameBatch} (moved : state.appendStep choice = some (next, accepted)) :
    Truthful sound next := by
  unfold Recording.appendStep at moved
  split at moved
  · cases moved
  · rename_i batch waiting
    split at moved <;> cases moved
    rename_i free
    have unheld := (lockFree_iff.mp free).2
    refine inv.beside_worker rfl rfl (fun _ => unheld) ?_
    rcases inv.worker.standing unheld with opened | shut
    · exact .inl ⟨opened, append_keepsOpen batch⟩
    · exact .inr ⟨shut, append_onlyReads batch⟩
  · cases moved
    have same := appended_completed state
    exact inv.beside_worker (same _).1 (same _).2 (fun holds => by cases holds) trivial
  · cases moved
    exact inv.beside_worker rfl rfl (fun holds => by cases holds) trivial
  · rename_i batch request continuation running
    cases moved
    have appending : state.appender.holdsLock = true := by rw [running]; rfl
    have free := inv.lock appending
    have ok := inv.appender
    rw [running] at ok
    obtain ⟨rest, advances⟩ := Running.perform ok choice
    exact {
      lock := fun _ => free
      terminal := inv.terminal
      appender := rest
      worker := inv.worker.advances free advances
      owner := OwnerOk.follows inv.owner id (fun _ => rfl) (fun _ => id) advances.completed
      settler := inv.settler.follows advances.completed
      others := inv.others
      verdict := fun reported => advances.completed (inv.verdict reported) }

theorem dropAppend_truthful (inv : Truthful sound state) (moved : state.dropAppend = some next) :
    Truthful sound next := by
  unfold Recording.dropAppend at moved
  split at moved <;> cases moved
  exact inv.beside_worker rfl rfl (fun holds => by cases holds) trivial

/-- The owner moves, and may write to the recorder what no thread's step has read. -/
theorem Truthful.moveOwner (inv : Truthful sound state) {owner : Owner} {recorder : ProjectRecorder}
    (terminal : owner.holdsTerminal = true → state.worker.holdsTerminal = false)
    (worker : WorkerOk state.sessionId state.world recorder state.worker)
    (ok : OwnerOk sound state.sessionId state.world recorder state.worker owner) :
    Truthful sound { state with owner, recorder } where
  lock := inv.lock
  terminal := terminal
  appender := inv.appender
  worker := worker
  owner := ok
  settler := inv.settler
  others := inv.others
  verdict := inv.verdict

theorem armStopDeadline_truthful (inv : Truthful sound state) {seconds reading : Seconds}
    (moved : state.armStopDeadline seconds reading = some next) : Truthful sound next := by
  unfold Recording.armStopDeadline at moved
  split at moved
  · rename_i recording unarmed
    split at moved <;> cases moved
    have absent := inv.owner
    have ok := inv.worker
    rw [recording] at absent
    have idle : state.worker = .absent := absent
    refine inv.moveOwner ?_ ?_ ?_
    · rw [idle]
      exact fun _ => rfl
    · rw [idle] at ok ⊢
      exact ok
    · rw [recording]
      exact idle
  · cases moved

theorem stop_truthful (inv : Truthful sound state) (moved : state.stop = some next) :
    Truthful sound next := by
  unfold Recording.stop at moved
  split at moved <;> cases moved
  rename_i recording
  have absent := inv.owner
  have ok := inv.worker
  rw [recording] at absent
  rw [absent] at ok
  exact {
    lock := fun _ => rfl
    terminal := fun _ => rfl
    appender := inv.appender
    worker := ok
    owner := trivial
    settler := inv.settler
    others := inv.others
    verdict := inv.verdict }

private theorem abandoned_holdsLock (worker : Worker) : worker.abandoned.holdsLock = worker.holdsLock := by
  cases worker <;> rfl

theorem WorkerOk.abandoned {recorder : ProjectRecorder} {worker : Worker}
    (ok : WorkerOk sessionId world recorder worker) :
    WorkerOk sessionId world recorder worker.abandoned := by
  cases worker <;> exact ok

theorem abandonStop_truthful (inv : Truthful sound state) (moved : state.abandonStop = some next) :
    Truthful sound next := by
  unfold Recording.abandonStop at moved
  split at moved <;> cases moved
  exact {
    lock := fun appending => (abandoned_holdsLock _).trans (inv.lock appending)
    terminal := fun holds => by cases holds
    appender := inv.appender
    worker := inv.worker.abandoned.same rfl rfl
    owner := trivial
    settler := inv.settler
    others := inv.others
    verdict := inv.verdict }

/-- A stop abandoned before its thread begins: the settle thread fails the session, and the owner says so. -/
example : (follow Recording.step (.started sampleSessionId stopDeadlineExceeded (sampleWorld 1 Nat.one_pos))
    ([.stop, .abandonStop, .closeFinalizationGate] ++ List.replicate 5 .own ++ List.replicate 4 (.settle calm) ++
      List.replicate 3 .own)).map (fun reached => (reached.1.owner,
        sessionState sampleSessionId reached.1.world.database)) = some (.returned .failed, some .failed) := by
  decide +kernel

theorem returnStop_truthful (inv : Truthful sound state) (moved : state.returnStop = some next) :
    Truthful sound next := by
  unfold Recording.returnStop at moved
  split at moved <;> cases moved
  exact inv.moveOwner (fun holds => by cases holds) (inv.worker.same rfl rfl) trivial

theorem closeFinalizationGate_truthful (inv : Truthful sound state)
    (moved : state.closeFinalizationGate = some next) : Truthful sound next := by
  unfold Recording.closeFinalizationGate at moved
  split at moved <;> cases moved
  exact inv.moveOwner (fun holds => by cases holds) inv.worker trivial

theorem gateTimeout_truthful (inv : Truthful sound state) (moved : state.gateTimeout = some next) :
    Truthful sound next := by
  unfold Recording.gateTimeout at moved
  split at moved <;> cases moved
  exact inv.moveOwner (fun holds => by cases holds) inv.worker trivial

/-- A recorder that says it completed has a completed row. -/
theorem WorkerOk.shut {recorder : ProjectRecorder} {worker : Worker}
    (ok : WorkerOk sessionId world recorder worker) (completed : recorder.completed = true) :
    Shut sessionId world := by
  have refuted {assertion : Prop} (uncompleted : recorder.completed = false) : assertion := by
    rw [completed] at uncompleted
    cases uncompleted
  cases worker with
  | committing rest | recordCompleted => exact refuted ok.1
  | setStopped => exact ok.2
  | readCompleted | releaseTerminal | clearInFlight | setSettled | finished =>
    rcases ok with ⟨-, shut⟩ | undecided
    · exact shut
    · exact refuted undecided.1
  | flushing rest | failing rest | gateClock deadline => exact refuted ok.1.1
  | _ => exact refuted ok.1

/-- A recorder that did not complete, and is not about to, has a row that is not
completed. -/
theorem WorkerOk.uncompleted {recorder : ProjectRecorder} {worker : Worker}
    (ok : WorkerOk sessionId world recorder worker) (uncompleted : recorder.completed = false)
    (held : worker.passedGate = false) : Open sessionId world := by
  have refuted {assertion : Prop} (completed : recorder.completed = true) : assertion := by
    rw [uncompleted] at completed
    cases completed
  cases worker with
  | committing rest | recordCompleted => cases held
  | setStopped => exact refuted ok.1
  | readCompleted | releaseTerminal | clearInFlight | setSettled | finished =>
    rcases ok with ⟨completed, -⟩ | undecided
    · exact refuted completed
    · exact undecided.2
  | flushing rest | failing rest | gateClock deadline => exact ok.1.2
  | _ => exact ok.2

private theorem settleDurableState_triple :
    BystanderTriple sessionId (fun _ => True) (settleDurableState sessionId)
      (reportedTruly sessionId) :=
  .bind KeepsCompleted.refl (bystands_triple (serviceFailActiveSession_bystands sessionId))
    (fun _ => serviceGetSession_triple) fun _ => ⟨stable_always, fun _ _ => trivial⟩

/-- A worker outside the terminal section can be refused by a deadline of zero. -/
theorem gateClosed_of_free {recorder : ProjectRecorder} {worker : Worker}
    (uncompleted : recorder.completed = false) (free : worker.holdsTerminal = false) :
    GateClosed { recorder with deadline := some 0 } worker := by
  refine ⟨rfl, uncompleted, ?_⟩
  cases worker <;> first | rfl | cases free

theorem WorkerOk.closeGate {recorder : ProjectRecorder} {worker : Worker}
    (ok : WorkerOk sessionId world recorder worker) (free : worker.holdsTerminal = false) :
    WorkerOk sessionId world { recorder with deadline := some 0 } worker := by
  cases worker <;> first | exact ok | cases free

theorem own_truthful (inv : Truthful sound state) (moved : state.own = some next) :
    Truthful sound next := by
  have ok := inv.owner
  cases place : state.owner with
  | recording | stopping | stopped | returned => simp [Recording.own, place] at moved
  | gateWaiting =>
    simp only [Recording.own, place, Option.ite_none_left_eq_some, Option.some.injEq] at moved
    obtain ⟨free, rfl⟩ := moved
    exact inv.moveOwner (fun _ => Bool.not_eq_true _ ▸ free) inv.worker trivial
  | gateReading =>
    simp only [Recording.own, place, Option.some.injEq] at moved
    subst moved
    have free := inv.terminal (by rw [place]; rfl)
    split
    · rename_i completed
      exact inv.moveOwner (fun holds => by cases holds) inv.worker (inv.worker.shut completed).row
    · rename_i uncompleted
      exact inv.moveOwner (fun _ => free) inv.worker (Bool.eq_false_iff.mpr uncompleted)
  | gateClosing =>
    simp only [Recording.own, place, Option.some.injEq] at moved ok
    subst moved
    have free := inv.terminal (by rw [place]; rfl)
    exact inv.moveOwner (fun _ => free) (inv.worker.closeGate free)
      fun _ => gateClosed_of_free ok free
  | gateReleasing =>
    simp only [Recording.own, place, Option.some.injEq] at moved ok
    subst moved
    exact inv.moveOwner (fun holds => by cases holds) inv.worker ok
  | settling =>
    simp only [Recording.own, place, Option.some.injEq] at moved ok
    subst moved
    exact {
      lock := inv.lock
      terminal := fun holds => by cases holds
      appender := inv.appender
      worker := inv.worker
      owner := ok
      settler := settleDurableState_triple _ trivial
      others := inv.others
      verdict := inv.verdict }
  | joining =>
    simp only [Recording.own, place, Option.some.injEq] at moved ok
    subst moved
    exact inv.moveOwner (fun holds => by cases holds) inv.worker ok
  | readVerdict =>
    simp only [Recording.own, place, Option.some.injEq] at moved ok
    subst moved
    split
    · rename_i reported
      exact inv.moveOwner (fun holds => by cases holds) inv.worker (inv.verdict reported)
    · exact inv.moveOwner (fun holds => by cases holds) inv.worker ok
  | reporting =>
    simp only [Recording.own, place, Option.some.injEq] at moved ok
    subst moved
    exact inv.moveOwner (fun holds => by cases holds) (inv.worker.same rfl rfl)
      fun reliable => ⟨(ok reliable).deadline, (ok reliable).uncompleted, (ok reliable).held⟩

/-- A thread that does not hold the writer performs one effect. -/
theorem Truthful.besideEffect (inv : Truthful sound state) {world : World} {settler : Settler}
    {others : List (DataProgram Unit)} (moved : Beside state.sessionId state.world world)
    (settlerOk : SettlerOk state.sessionId world settler)
    (othersOk : ∀ program ∈ others, Bystands program) :
    Truthful sound { state with world, settler, others } where
  lock := inv.lock
  terminal := inv.terminal
  appender := inv.appender.beside moved
  worker := inv.worker.beside moved
  owner := OwnerOk.follows inv.owner id (fun _ => rfl) (fun _ => id) moved.keepsCompleted
  settler := settlerOk
  others := othersOk
  verdict reported := moved.keepsCompleted (inv.verdict reported)

theorem settle_truthful (inv : Truthful sound state) {choice : Choice}
    (moved : state.settle choice = some next) : Truthful sound next := by
  have ok := inv.settler
  unfold Recording.settle at moved
  split at moved
  · cases moved
  · cases moved
  · rename_i request continuation running
    cases moved
    rw [running] at ok
    obtain ⟨beside, rest⟩ := ok state.world (KeepsCompleted.refl _) choice trivial
    exact inv.besideEffect beside rest inv.others
  · rename_i session running
    cases moved
    rw [running] at ok
    have settling : Settling state.sessionId (.finish (.ok session)) state.world := ok
    have reported := settling.finished KeepsCompleted.refl
    exact { inv with
      settler := trivial
      verdict := fun completed => reported (Option.some.inj completed) }
  · cases moved
    exact { inv with settler := trivial, verdict := fun reported => by cases reported }
  · cases moved
    exact { inv with settler := trivial }

private theorem other_truthful (inv : Truthful sound state) {position : Nat} {choice : Choice}
    (moved : state.other position choice = some next) : Truthful sound next := by
  unfold Recording.other at moved
  split at moved
  · rename_i request continuation running
    cases moved
    have stands := inv.others _ (List.mem_of_getElem? running)
    have beside : Beside state.sessionId state.world (perform request choice state.world).1 :=
      perform_beside stands.1
    refine inv.besideEffect beside (inv.settler.follows beside.keepsCompleted) ?_
    intro program member
    rcases List.mem_or_eq_of_mem_set member with kept | rfl
    · exact inv.others program kept
    · exact stands.2 _ trivial
  · cases moved

theorem step_truthful (inv : Truthful sound state) {event : Event} {accepted : Option FrameBatch}
    (above : sound → ClockAboveGrace state event)
    (moved : state.step event = some (next, accepted)) : Truthful sound next := by
  cases event with
  | appendStep choice => exact appendStep_truthful inv moved
  | report failure =>
    cases moved
    exact inv.beside_worker rfl rfl inv.lock inv.appender
  | intervene call =>
    cases moved
    refine { inv with others := ?_ }
    intro program member
    rcases List.mem_append.mp member with running | started
    · exact inv.others program running
    · rw [List.mem_singleton.mp started]
      exact call.program_bystands
  | _ =>
    simp only [Recording.step, Recording.silent, Option.map_eq_some_iff, Prod.mk.injEq] at moved
    obtain ⟨reached, moved, rfl, -⟩ := moved
    first
      | exact append_truthful inv moved
      | exact dropAppend_truthful inv moved
      | exact armStopDeadline_truthful inv moved
      | exact stop_truthful inv moved
      | exact work_truthful inv above moved
      | exact abandonStop_truthful inv moved
      | exact returnStop_truthful inv moved
      | exact closeFinalizationGate_truthful inv moved
      | exact gateTimeout_truthful inv moved
      | exact own_truthful inv moved
      | exact settle_truthful inv moved
      | exact other_truthful inv moved

theorem started_truthful (started : Started sessionId world) (diagnosis : RecorderFailure) :
    Truthful sound (Recording.started sessionId diagnosis world) where
  lock holds := by cases holds
  terminal holds := by cases holds
  appender := trivial
  worker := ⟨rfl, started.open⟩
  owner := rfl
  settler := trivial
  others program member := by cases member
  verdict reported := by cases reported

/-- What no step takes back: the session, a returned verdict, a finished worker and
what it has settled. -/
structure Retains (before after : Recording) : Prop where
  sessionId : after.sessionId = before.sessionId
  returned : ∀ outcome, before.owner = .returned outcome → after.owner = .returned outcome
  finished : before.worker = .finished →
    after.worker = .finished ∧ after.recorder.completed = before.recorder.completed

theorem Retains.trans {before middle after : Recording} (first : Retains before middle)
    (second : Retains middle after) : Retains before after where
  sessionId := second.sessionId.trans first.sessionId
  returned outcome given := second.returned outcome (first.returned outcome given)
  finished done := by
    obtain ⟨still, same⟩ := first.finished done
    obtain ⟨finally_, kept⟩ := second.finished still
    exact ⟨finally_, kept.trans same⟩

private theorem work_retains {choice : Choice} {reading : Seconds}
    (moved : state.work choice reading = some next) : Retains state next := by
  unfold Recording.work at moved
  split at moved <;> (try split at moved) <;> cases moved <;>
    exact ⟨rfl, fun _ given => given, fun done => by simp_all⟩

private theorem appendStep_retains {choice : Choice} {accepted : Option FrameBatch}
    (moved : state.appendStep choice = some (next, accepted)) : Retains state next := by
  unfold Recording.appendStep at moved
  split at moved
  · cases moved
  · split at moved <;> cases moved
    exact ⟨rfl, fun _ given => given, fun done => ⟨done, rfl⟩⟩
  · cases moved
    exact ⟨rfl, fun _ given => given, fun done => ⟨done, (appended_completed state _).1⟩⟩
  · cases moved
    exact ⟨rfl, fun _ given => given, fun done => ⟨done, rfl⟩⟩
  · cases moved
    exact ⟨rfl, fun _ given => given, fun done => ⟨done, rfl⟩⟩

private theorem own_retains (moved : state.own = some next) : Retains state next := by
  unfold Recording.own at moved
  split at moved <;> (try split at moved) <;> cases moved <;>
    exact ⟨rfl, fun _ given => by simp_all, fun done => ⟨done, rfl⟩⟩

/-- Only a recording owner, whose finalization thread does not exist yet, can stop. -/
theorem stop_retains (inv : Truthful sound state) (moved : state.stop = some next) :
    Retains state next := by
  unfold Recording.stop at moved
  split at moved <;> cases moved
  rename_i recording
  have absent := inv.owner
  rw [recording] at absent
  refine ⟨rfl, fun _ given => ?_, fun done => ?_⟩
  · rw [recording] at given
    cases given
  · rw [done] at absent
    cases absent

theorem step_retains (inv : Truthful sound state) {event : Event} {accepted : Option FrameBatch}
    (moved : state.step event = some (next, accepted)) : Retains state next := by
  cases event with
  | appendStep choice => exact appendStep_retains moved
  | report failure =>
    cases moved
    exact ⟨rfl, fun _ given => given, fun done => ⟨done, rfl⟩⟩
  | intervene call =>
    cases moved
    exact ⟨rfl, fun _ given => given, fun done => ⟨done, rfl⟩⟩
  | _ =>
    simp only [Recording.step, Recording.silent, Option.map_eq_some_iff, Prod.mk.injEq] at moved
    obtain ⟨reached, moved, rfl, -⟩ := moved
    first
      | exact work_retains moved
      | exact own_retains moved
      | exact stop_retains inv moved
      | (simp only [Recording.append, Recording.dropAppend, Recording.armStopDeadline,
          Recording.abandonStop, Recording.returnStop, Recording.closeFinalizationGate,
          Recording.gateTimeout, Recording.settle, Recording.other] at moved
         split at moved <;> (try split at moved) <;> (try split at moved) <;> cases moved <;>
           exact ⟨rfl, fun _ given => by simp_all, fun done => by simp_all [Worker.abandoned,
             ProjectRecorder.fail, ProjectRecorder.detach]⟩)

theorem run_retains (inv : Truthful True state) {target : Recording}
    {trace : List (Event × Option FrameBatch)}
    (run : Path Recording.step ClockAboveGrace state trace target) :
    Truthful True target ∧ Retains state target :=
  run.preserves (fun reached => Truthful True reached ∧ Retains state reached)
    (fun _ _ _ _ reached above moved =>
      ⟨step_truthful reached.1 (fun _ => above) moved, reached.2.trans (step_retains reached.1 moved)⟩)
    ⟨inv, rfl, fun _ given => given, fun done => ⟨done, rfl⟩⟩

theorem outcome_completed {recorder : ProjectRecorder}
    (reported : recorder.finalizationOutcome = .completed) : recorder.completed = true := by
  unfold ProjectRecorder.finalizationOutcome at reported
  split at reported
  · cases reported
  split at reported
  · assumption
  · cases reported

private theorem outcome_failed {recorder : ProjectRecorder}
    (reported : recorder.finalizationOutcome = .failed) : recorder.completed = false := by
  unfold ProjectRecorder.finalizationOutcome at reported
  split at reported
  · cases reported
  split at reported
  · cases reported
  · rename_i uncompleted
    exact Bool.eq_false_iff.mpr uncompleted

/-- For every interleaving and every clock that, against a closed gate, stays above
minus the grace period: a gate that answered `FAILED` is never followed by a completion, a gate that answers
`COMPLETED` finds the row completed, and the outcome a finished worker leaves is the
row's for ever after. -/
theorem verdict_truthful (started : Started sessionId world) {diagnosis : RecorderFailure}
    {front back : List (Event × Option FrameBatch)} {middle final : Recording}
    (before : Path Recording.step ClockAboveGrace (.started sessionId diagnosis world)
      front middle)
    (after : Path Recording.step ClockAboveGrace middle back final) :
    (middle.owner = .returned .failed →
      ¬RowCompleted sessionId final.world ∧ final.recorder.completed = false) ∧
    (middle.owner = .returned .completed → RowCompleted sessionId middle.world) ∧
    (middle.worker = .finished → middle.recorder.finalizationOutcome = .completed →
      RowCompleted sessionId final.world) ∧
    (middle.worker = .finished → middle.recorder.finalizationOutcome = .failed →
      ¬RowCompleted sessionId final.world) := by
  obtain ⟨inv, begun⟩ := run_retains (started_truthful started diagnosis) before
  obtain ⟨invFinal, kept⟩ := run_retains inv after
  have named : middle.sessionId = sessionId := begun.sessionId
  have namedFinal : final.sessionId = sessionId := kept.sessionId.trans named
  refine ⟨fun given => ?_, fun given => ?_, fun done reported => ?_, fun done reported => ?_⟩
  · have closed := invFinal.owner
    rw [kept.returned _ given] at closed
    have opened := invFinal.worker.uncompleted (closed trivial).uncompleted (closed trivial).held
    exact ⟨namedFinal ▸ opened.row, (closed trivial).uncompleted⟩
  · have row := inv.owner
    rw [given] at row
    exact named ▸ row
  · obtain ⟨-, same⟩ := kept.finished done
    have shut := invFinal.worker.shut (same.trans (outcome_completed reported))
    exact namedFinal ▸ shut.row
  · obtain ⟨still, same⟩ := kept.finished done
    have held : final.worker.passedGate = false := by rw [still]; rfl
    have opened := invFinal.worker.uncompleted (same.trans (outcome_failed reported)) held
    exact namedFinal ▸ opened.row

def sampleRecording : Recording :=
  .started sampleSessionId stopDeadlineExceeded (sampleWorld 1 Nat.one_pos)

/-- A finalization thread flushes while its owner gives up, closes the gate and loses
its settle thread to the join timeout; it has checked the failure flag before. -/
def abandonedAtGate (reading : Seconds) : List Event :=
  .stop :: List.replicate 6 (.work calm reading) ++
    [.abandonStop, .closeFinalizationGate, .own, .own, .own, .own] ++
    List.replicate 3 (.work calm reading) ++ [.own, .own, .own, .own]

/-- What the owner has answered, the row and the flag. -/
def verdicts (state : Recording) : Owner × Option DataSessionState × Bool :=
  (state.owner, sessionState sampleSessionId state.world.database, state.recorder.completed)

/-- A thread whose clock reads minus one finds the closed gate open: the owner has
answered `FAILED`, and the session ends `COMPLETED`. -/
theorem failed_verdict_completed :
    ∃ front back middle final, Path Recording.step anyLabel sampleRecording front middle ∧
      Path Recording.step anyLabel middle back final ∧
      verdicts middle = (.returned .failed, some .active, false) ∧
      verdicts final = (.returned .failed, some .completed, true) :=
  Path.observed_twice (abandonedAtGate (-1)) (List.replicate 9 (.work calm (-1)))
    verdicts _ _ (by decide +kernel)

private theorem abandonedAtGate_above (event : Event) (member : event ∈ abandonedAtGate 1)
    (reached : Recording) : ClockAboveGrace reached event := by
  cases event with
  | work choice reading =>
    have one : reading = 1 := by
      simp [abandonedAtGate] at member
      grind
    rw [one]
    exact fun _ => by decide +kernel
  | _ => trivial

/-- The same schedule under a clock that reads one. -/
theorem verdict_truthful_abandoned :
    ∃ trace middle, Path Recording.step ClockAboveGrace sampleRecording trace middle ∧
      middle.owner = .returned .failed ∧ ¬RowCompleted sampleSessionId middle.world := by
  have evaluated : (follow Recording.step sampleRecording (abandonedAtGate 1)).map
      (fun reached => verdicts reached.1) = some (.returned .failed, some .active, false) := by
    decide +kernel
  obtain ⟨trace, middle, run, seen⟩ :=
    Path.observed (abandonedAtGate 1) verdicts _ abandonedAtGate_above evaluated
  have given : middle.owner = .returned .failed := congrArg Prod.fst seen
  have truthful := verdict_truthful (sampleWorld_started 1 (by decide)) run .refl
  exact ⟨trace, middle, run, given, (truthful.1 given).1⟩

/-- A thread that ends in time completes the session, and the owner says so. -/
example : (follow Recording.step sampleRecording (.stop :: List.replicate 22 (.work calm 1) ++
    [.returnStop, .closeFinalizationGate, .own, .own])).map (fun reached => verdicts reached.1) =
      some (.returned .completed, some .completed, true) := by
  decide +kernel

end CanX.Recorder
