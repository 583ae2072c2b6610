import CanX.Agent.Dispatch
import CanX.Agent.Ownership

/-! Work that conflicts is never in progress together, as long as no task enters in front of one that is. -/

namespace CanX.Agent

open Dbc (CodePoint Text codePoint text)
open Transition

/-- The task is running or may be dispatched at once. -/
def Engaged (board : Board) (task : TaskContract) : Prop := task.status = .inProgress ∨ task.taskId ∈ board.wave

/-- Of two conflicting tasks at most one is engaged, and the later one only after the earlier one has landed. -/
structure Serial (config : AgentConfig) (board : Board) : Prop where
  apart : ∀ first ∈ board.tasks, ∀ second ∈ board.tasks, Blocking config first second →
    ¬(Engaged board first ∧ Engaged board second)
  behind : ∀ first ∈ board.tasks, ∀ second ∈ board.tasks, Blocking config first second → Engaged board second →
    Precedes config board.tasks first second → first.status = .done
  fits : board.wave ≠ [] → (board.tasks.map TaskContract.taskId).Nodup ∧
    running board.tasks + board.wave.length ≤ config.maxSubAgents

section Steps

variable {config : AgentConfig} {board next : Board} {tasks : List TaskContract} {taskId : Text}
variable {status : TaskStatus} {made : OrchestrationPlan}

theorem Serial.initial (idle : ∀ task ∈ tasks, task.status ≠ .inProgress) : Serial config ⟨tasks, []⟩ := by
  have none (task : TaskContract) (member : task ∈ tasks) : ¬Engaged ⟨tasks, []⟩ task := by
    rintro (running | named)
    · exact idle task member running
    · cases named
  refine ⟨fun first inFirst _ _ _ both => none first inFirst both.1, fun _ _ second inSecond _ engaged _ => ?_,
    fun some => absurd rfl some⟩
  exact absurd engaged (none second inSecond)

private theorem activeIds_length {order : List Text} (distinct : (tasks.map TaskContract.taskId).Nodup)
    (ordered : (TaskGraph.mk tasks).integrationOrder config = .ok order) :
    (activeIds ⟨tasks⟩ order).length = running tasks := by
  have same := orderedIds_perm distinct ordered
  unfold activeIds running
  rw [← List.countP_eq_length_filter, same.countP_eq, TaskGraph.ids, List.countP_map]
  refine List.countP_congr fun task member => ?_
  rw [Function.comp, statusOf_of_mem distinct member, occupiesSubAgentSlot, decide_eq_true_eq, decide_eq_true_eq]
  exact readiness_started (by decide)

/-- A new plan names tasks only behind those that have landed. -/
theorem Serial.planned (serial : Serial config board) (planned : plan board.tasks config = .ok made) :
    Serial config ⟨board.tasks, made.runnableIds⟩ := by
  obtain ⟨order, distinct, ordered, rfl⟩ := plan_ok planned
  have once : (TaskGraph.mk board.tasks).ids.Nodup := distinct
  -- A named task has not started, so that it is neither running nor done.
  have waiting (task : TaskContract) (member : task ∈ board.tasks)
      (named : task.taskId ∈ (planOver ⟨board.tasks⟩ order config).runnableIds) (status : TaskStatus)
      (started : status ≠ .ready ∧ status ≠ .blocked ∧ status ≠ .planned) : task.status ≠ status := by
    intro own
    have ready := runnable_ready named
    have derived : (TaskGraph.mk board.tasks).statusOf task.taskId = status :=
      (statusOf_of_mem once member).trans ((readiness_started started).mpr own)
    exact started.1 (derived.symm.trans ready)
  have behind (first second : TaskContract) (inFirst : first ∈ board.tasks) (inSecond : second ∈ board.tasks)
      (blocking : Blocking config first second)
      (engaged : Engaged ⟨board.tasks, (planOver ⟨board.tasks⟩ order config).runnableIds⟩ second)
      (earlier : order.idxOf first.taskId < order.idxOf second.taskId) : first.status = .done := by
    rcases engaged with running | named
    · exact serial.behind first inFirst second inSecond blocking (.inl running) ⟨order, ordered, earlier⟩
    · exact owner_done distinct inFirst inSecond blocking earlier named
  have undone (task : TaskContract) (member : task ∈ board.tasks)
      (engaged : Engaged ⟨board.tasks, (planOver ⟨board.tasks⟩ order config).runnableIds⟩ task) :
      task.status ≠ .done := by
    rcases engaged with running | named
    · rw [running]
      decide
    · exact waiting task member named .done (by decide)
  refine ⟨fun first inFirst second inSecond blocking both => ?_,
    fun first inFirst second inSecond blocking engaged before => ?_, fun some => ⟨distinct, ?_⟩⟩
  · rcases order_total distinct ordered inFirst blocking.1 with earlier | later
    · exact undone first inFirst both.1 (behind first second inFirst inSecond blocking both.2 earlier)
    · exact undone second inSecond both.2 (behind second first inSecond inFirst blocking.symm both.1 later)
  · obtain ⟨_, again, earlier⟩ := before
    obtain rfl := Except.ok.inj (ordered.symm.trans again)
    exact behind first second inFirst inSecond blocking engaged earlier
  · have fits := runnable_fits ((orderedIds_perm once ordered).nodup_iff.mpr once) some
    rw [activeIds_length distinct ordered] at fits
    exact fits

/-- What a change of status keeps of a task. -/
theorem withStatus_source {after : TaskContract} (member : after ∈ withStatus taskId status tasks) :
    ∃ before ∈ tasks, after.taskId = before.taskId ∧
      (∀ other, Blocking config after other ↔ Blocking config before other) ∧
      (after.status = .inProgress → before.status = .inProgress ∨ before.taskId = taskId ∧ status = .inProgress) ∧
      (before.taskId ≠ taskId → after.status = before.status) := by
  obtain ⟨before, inside, ⟨other, rfl⟩ | ⟨named, rfl⟩⟩ := mem_withStatus member
  · exact ⟨after, inside, rfl, fun _ => Iff.rfl, .inl, fun _ => rfl⟩
  · exact ⟨before, inside, rfl, fun _ => Iff.rfl, fun now => .inr ⟨named, now⟩, fun other => absurd named other⟩

/-- A change of status that starts only work of the wave, and none anew that has landed. -/
theorem Serial.changed {wave : List Text} (serial : Serial config board)
    (starting : status = .inProgress → taskId ∈ board.wave) (shrunk : wave ⊆ board.wave)
    (unlanded : ∀ task ∈ board.tasks, task.taskId = taskId → task.status ≠ .done)
    (fits : wave ≠ [] → (board.tasks.map TaskContract.taskId).Nodup ∧
      running (withStatus taskId status board.tasks) + wave.length ≤ config.maxSubAgents) :
    Serial config ⟨withStatus taskId status board.tasks, wave⟩ := by
  have engaged {before after : TaskContract} (same : after.taskId = before.taskId)
      (began : after.status = .inProgress →
        before.status = .inProgress ∨ before.taskId = taskId ∧ status = .inProgress)
      (now : Engaged ⟨withStatus taskId status board.tasks, wave⟩ after) : Engaged board before := by
    rcases now with running | named
    · rcases began running with running | ⟨rfl, started⟩
      · exact .inl running
      · exact .inr (starting started)
    · exact .inr (same ▸ shrunk named)
  constructor
  · intro first inFirst second inSecond blocking both
    obtain ⟨firstBefore, inFirst, sameFirst, blockingFirst, beganFirst, _⟩ := withStatus_source inFirst
    obtain ⟨secondBefore, inSecond, sameSecond, blockingSecond, beganSecond, _⟩ := withStatus_source inSecond
    have pair := (blockingSecond _).mp ((blockingFirst _).mp blocking).symm
    exact serial.apart _ inFirst _ inSecond pair.symm
      ⟨engaged sameFirst beganFirst both.1, engaged sameSecond beganSecond both.2⟩
  · intro first inFirst second inSecond blocking now before
    obtain ⟨firstBefore, inFirst, sameFirst, blockingFirst, _, keptFirst⟩ := withStatus_source inFirst
    obtain ⟨secondBefore, inSecond, sameSecond, blockingSecond, beganSecond, _⟩ := withStatus_source inSecond
    have pair := (blockingSecond _).mp ((blockingFirst _).mp blocking).symm
    obtain ⟨order, ordered, earlier⟩ := Precedes.withStatus.mp before
    rw [sameFirst, sameSecond] at earlier
    have landed := serial.behind _ inFirst _ inSecond pair.symm (engaged sameSecond beganSecond now)
      ⟨order, ordered, earlier⟩
    rw [keptFirst fun named => unlanded _ inFirst named landed]
    exact landed
  · intro some
    rw [ids_withStatus]
    exact fits some

theorem Serial.dispatched (serial : Serial config board) (named : taskId ∈ board.wave)
    (waiting : ∀ task ∈ board.tasks, task.taskId = taskId → task.waits = true) :
    Serial config ⟨withStatus taskId .inProgress board.tasks, board.wave.erase taskId⟩ ∧
      running (withStatus taskId .inProgress board.tasks) ≤ config.maxSubAgents := by
  obtain ⟨distinct, fits⟩ := serial.fits (List.ne_nil_of_mem named)
  have started : running (withStatus taskId .inProgress board.tasks) + (board.wave.erase taskId).length ≤
      config.maxSubAgents := by
    have more : running (withStatus taskId .inProgress board.tasks) ≤
        running board.tasks + (board.tasks.map TaskContract.taskId).count taskId := running_withStatus
    have once := List.nodup_iff_count_le_one.mp distinct taskId
    have fewer := List.length_erase_of_mem named
    have some := List.length_pos_of_mem named
    omega
  refine ⟨serial.changed (fun _ => named) List.erase_subset (fun task member own landed => ?_) fun _ =>
    ⟨distinct, started⟩, by omega⟩
  have waits := waiting task member own
  rw [TaskContract.waits, landed] at waits
  cases waits

theorem Serial.moved (serial : Serial config board) (elsewhere : status ≠ .inProgress)
    (permitted : ∀ task ∈ board.tasks, task.taskId = taskId → canTransition task.status status = true) :
    Serial config ⟨withStatus taskId status board.tasks, board.wave⟩ := by
  refine serial.changed (fun same => absurd same elsewhere) (List.Subset.refl _) (fun task member own landed => ?_)
    fun some => ?_
  · have moves := permitted task member own
    rw [landed, done_final] at moves
    cases moves
  · obtain ⟨distinct, fits⟩ := serial.fits some
    have fewer : running (withStatus taskId status board.tasks) ≤ running board.tasks :=
      running_withStatus_le elsewhere
    exact ⟨distinct, by omega⟩

/-- A new task waits, so that the others keep apart. -/
theorem Serial.added {task : TaskContract} (serial : Serial config board) (waiting : task.waits = true)
    (orderly : Orderly config (withTask task board.tasks)) : Serial config ⟨withTask task board.tasks, []⟩ := by
  have old {other : TaskContract} (member : other ∈ withTask task board.tasks)
      (engaged : Engaged ⟨withTask task board.tasks, []⟩ other) :
      other ∈ board.tasks ∧ other.status = .inProgress := by
    have running := engaged.resolve_right List.not_mem_nil
    rcases List.mem_append.mp member with kept | new
    · exact ⟨(List.mem_filter.mp kept).1, running⟩
    · rw [List.mem_singleton.mp new] at running
      rw [TaskContract.waits, running] at waiting
      cases waiting
  refine ⟨fun first inFirst second inSecond blocking both => ?_,
    fun first inFirst second inSecond blocking engaged before => ?_, fun some => absurd rfl some⟩
  · obtain ⟨inFirst, runsFirst⟩ := old inFirst both.1
    obtain ⟨inSecond, runsSecond⟩ := old inSecond both.2
    exact serial.apart first inFirst second inSecond blocking ⟨.inl runsFirst, .inl runsSecond⟩
  · exact orderly first inFirst second inSecond blocking (old inSecond engaged).2 before

theorem Serial.step {action : Action} (serial : Serial config board) (inOrder : AddsInOrder config board action)
    (moved : board.step config action = some (next, ())) : Serial config next := by
  cases action with
  | plan =>
    cases planned : Agent.plan board.tasks config with
    | error error =>
      rw [Board.step, planned] at moved
      cases moved
    | ok made =>
      rw [Board.step, planned] at moved
      cases moved
      exact serial.planned planned
  | dispatch taskId =>
    rw [Board.step, Option.ite_none_right_eq_some] at moved
    obtain ⟨⟨named, waiting⟩, same⟩ := moved
    cases same
    exact (serial.dispatched named waiting).1
  | move taskId destination =>
    rw [Board.step, Option.ite_none_right_eq_some] at moved
    obtain ⟨⟨elsewhere, permitted⟩, same⟩ := moved
    cases same
    exact serial.moved elsewhere permitted
  | add task =>
    rw [Board.step, Option.ite_none_right_eq_some] at moved
    obtain ⟨⟨waiting, _⟩, same⟩ := moved
    cases same
    exact serial.added waiting inOrder

end Steps

/-- As long as no task is added in front of running work that conflicts with it: conflicting tasks are never in progress
together, no dispatch exceeds the capacity, and the conflict gate lets at most one of them pass before either landed. -/
theorem parallel_work_serial {config : AgentConfig} {tasks : List TaskContract} {board : Board}
    {trace : List (Action × Unit)} (idle : ∀ task ∈ tasks, task.status ≠ .inProgress)
    (run : Path (Board.step config) (AddsInOrder config) ⟨tasks, []⟩ trace board) :
    (∀ first ∈ board.tasks, ∀ second ∈ board.tasks, Blocking config first second →
      ¬(first.status = .inProgress ∧ second.status = .inProgress)) ∧
    (∀ taskId next, board.step config (.dispatch taskId) = some (next, ()) →
      running next.tasks ≤ config.maxSubAgents) ∧
    ∀ includePlan context, contextPlan board.tasks config includePlan = .ok context →
      ∀ first ∈ board.tasks, ∀ second ∈ board.tasks, Blocking config first second →
        first.status ≠ .done ∧ second.status ≠ .done →
        ¬(conflictGate context first.taskId = true ∧ conflictGate context second.taskId = true) := by
  have serial : Serial config board :=
    run.preserves (Serial config) (fun _ _ _ _ held inOrder moved => held.step inOrder moved) (.initial idle)
  refine ⟨fun first inFirst second inSecond blocking both => ?_, fun taskId next moved => ?_,
    fun includePlan context built first inFirst second inSecond blocking unlanded both => ?_⟩
  · exact serial.apart first inFirst second inSecond blocking ⟨.inl both.1, .inl both.2⟩
  · rw [Board.step, Option.ite_none_right_eq_some] at moved
    obtain ⟨⟨named, waiting⟩, same⟩ := moved
    cases same
    exact (serial.dispatched named waiting).2
  · obtain ⟨made, rfl, planned⟩ := contextPlan_ok built both.1
    exact gate_exclusive planned inFirst inSecond blocking unlanded both

/-- A task that is added behind the conflicting one in progress waits for it. -/
theorem parallel_work_serial_behind : ∃ trace board,
    Path (Board.step safetyConfig) (AddsInOrder safetyConfig)
      ⟨[taskOn (text "first") (text "safety/a.py") .planned 1], []⟩ trace board ∧
    board.tasks = [taskOn (text "first") (text "safety/a.py") .inProgress 1,
      taskOn (text "second") (text "safety/a.py") .planned 1] ∧
    ∀ first ∈ board.tasks, ∀ second ∈ board.tasks, Blocking safetyConfig first second →
      ¬(first.status = .inProgress ∧ second.status = .inProgress) := by
  have evaluated : (followWithin (Board.step safetyConfig)
      (fun board action => decide (AddsInOrder safetyConfig board action))
      ⟨[taskOn (text "first") (text "safety/a.py") .planned 1], []⟩
      [.plan, .dispatch (text "first"), .add (taskOn (text "second") (text "safety/a.py") .planned 1), .plan]).map
        (fun reached => reached.1.tasks) = some [taskOn (text "first") (text "safety/a.py") .inProgress 1,
          taskOn (text "second") (text "safety/a.py") .planned 1] := by
    decide +kernel
  obtain ⟨trace, board, run, same⟩ := Path.observedWithin _ _ _ (fun _ _ met => of_decide_eq_true met) evaluated
  exact ⟨trace, board, run, same, (parallel_work_serial (by decide) run).1⟩

/-- A new revision of a failed task overtakes the conflicting task in progress. -/
theorem revision_races : ∃ trace board,
    Path (Board.step safetyConfig) anyLabel ⟨[taskOn (text "first") (text "docs/a.md") .failed 1,
      taskOn (text "second") (text "safety/a.py") .planned 1], []⟩ trace board ∧
    ∃ first ∈ board.tasks, ∃ second ∈ board.tasks, Blocking safetyConfig first second ∧
      first.status = .inProgress ∧ second.status = .inProgress := by
  have evaluated : (follow (Board.step safetyConfig) ⟨[taskOn (text "first") (text "docs/a.md") .failed 1,
      taskOn (text "second") (text "safety/a.py") .planned 1], []⟩
      [.plan, .move (text "second") .ready, .dispatch (text "second"),
        .add (taskOn (text "first") (text "safety/a.py") .planned 2), .plan, .move (text "first") .ready,
        .dispatch (text "first")]).map (fun reached => reached.1.tasks) =
      some [taskOn (text "second") (text "safety/a.py") .inProgress 1,
        taskOn (text "first") (text "safety/a.py") .inProgress 2] := by
    decide +kernel
  obtain ⟨trace, board, run, same⟩ := Path.observed _ _ _ (fun _ _ _ => trivial) evaluated
  refine ⟨trace, board, run, ?_⟩
  rw [same]
  exact ⟨_, List.mem_cons_self, _, List.mem_cons_of_mem _ List.mem_cons_self, by decide +kernel, rfl, rfl⟩

/-- The task behind the conflicting one in progress is not dispatched. -/
example : (follow (Board.step safetyConfig) ⟨[taskOn (text "first") (text "safety/a.py") .planned 1], []⟩
    [.plan, .dispatch (text "first"), .add (taskOn (text "second") (text "safety/a.py") .planned 1), .plan,
      .dispatch (text "second")]).isNone = true := by
  decide +kernel

end CanX.Agent
