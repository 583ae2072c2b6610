import CanX.Agent.Leases
import CanX.Transition.Path

/-! Runs of the planner: planning cycles, dispatches of what the last plan named, other status changes, and new tasks
between the cycles. -/

namespace CanX.Agent

open Dbc (CodePoint Text codePoint text)
open Transition

/-- A set of tasks, and the identities of the last plan's wave that have not been dispatched yet. -/
structure Board where
  tasks : List TaskContract
  wave : List Text

inductive Action where
  | plan
  | dispatch (taskId : Text)
  | move (taskId : Text) (destination : TaskStatus)
  | add (task : TaskContract)

/-- The task has not started. -/
def TaskContract.waits (task : TaskContract) : Bool := task.status ∈ [TaskStatus.planned, .ready, .blocked]

/-- `with_status`. -/
def withStatus (taskId : Text) (status : TaskStatus) (tasks : List TaskContract) : List TaskContract :=
  tasks.map fun task => if task.taskId = taskId then { task with status } else task

/-- A new task joins, in the place of the failed one whose identity it takes over. -/
def withTask (task : TaskContract) (tasks : List TaskContract) : List TaskContract :=
  (tasks.filter fun other => other.taskId ≠ task.taskId) ++ [task]

def running (tasks : List TaskContract) : Nat := tasks.countP fun task => task.status = .inProgress

/-- A dispatch takes a task of the wave that has not started; any other change of status is an allowed transition that
starts no work; a new task ends the planning cycle. -/
def Board.step (config : AgentConfig) (board : Board) : Action → Option (Board × Unit)
  | .plan =>
    match Agent.plan board.tasks config with
    | .ok made => some (⟨board.tasks, made.runnableIds⟩, ())
    | .error _ => none
  | .dispatch taskId =>
    if taskId ∈ board.wave ∧ ∀ task ∈ board.tasks, task.taskId = taskId → task.waits = true then
      some (⟨withStatus taskId .inProgress board.tasks, board.wave.erase taskId⟩, ())
    else none
  | .move taskId destination =>
    if destination ≠ .inProgress ∧
        ∀ task ∈ board.tasks, task.taskId = taskId → canTransition task.status destination = true then
      some (⟨withStatus taskId destination board.tasks, board.wave⟩, ())
    else none
  | .add task =>
    if task.waits = true ∧ ∀ other ∈ board.tasks, other.taskId = task.taskId → other.status = .failed then
      some (⟨withTask task board.tasks, []⟩, ())
    else none

/-- One task comes before another in the integration order. -/
def Precedes (config : AgentConfig) (tasks : List TaskContract) (first second : TaskContract) : Prop :=
  ∃ order, (TaskGraph.mk tasks).integrationOrder config = .ok order ∧
    order.idxOf first.taskId < order.idxOf second.taskId

instance {config : AgentConfig} {tasks : List TaskContract} {first second : TaskContract} :
    Decidable (Precedes config tasks first second) :=
  match ordered : (TaskGraph.mk tasks).integrationOrder config with
  | .ok order => decidable_of_iff (order.idxOf first.taskId < order.idxOf second.taskId) (by
      unfold Precedes
      rw [ordered]
      exact ⟨fun earlier => ⟨order, rfl, earlier⟩, fun ⟨_, same, earlier⟩ => Except.ok.inj same ▸ earlier⟩)
  | .error _ => isFalse fun ⟨_, same, _⟩ => by
      rw [ordered] at same
      cases same

/-- A running task comes after none that conflicts with it and has not landed. -/
def Orderly (config : AgentConfig) (tasks : List TaskContract) : Prop :=
  ∀ first ∈ tasks, ∀ second ∈ tasks, Blocking config first second → second.status = .inProgress →
    Precedes config tasks first second → first.status = .done

instance {config : AgentConfig} {tasks : List TaskContract} : Decidable (Orderly config tasks) := by
  unfold Orderly
  infer_instance

/-- A task is added only where no running task comes after a conflicting one then that has not landed. -/
def AddsInOrder (config : AgentConfig) (board : Board) : Action → Prop
  | .add task => Orderly config (withTask task board.tasks)
  | _ => True

instance {config : AgentConfig} {board : Board} : DecidablePred (AddsInOrder config board) := fun action =>
  match action with
  | .add task => inferInstanceAs (Decidable (Orderly config (withTask task board.tasks)))
  | .plan => isTrue trivial
  | .dispatch _ => isTrue trivial
  | .move _ _ => isTrue trivial

/-! A change of status leaves the rest of a task as it is. -/

section Statuses

variable {config : AgentConfig} {tasks : List TaskContract} {taskId : Text} {status : TaskStatus}
variable {task first second : TaskContract}

theorem mem_withStatus (member : task ∈ withStatus taskId status tasks) :
    ∃ before ∈ tasks, before.taskId ≠ taskId ∧ task = before ∨
      before.taskId = taskId ∧ task = { before with status } := by
  obtain ⟨before, inside, same⟩ := List.mem_map.mp member
  by_cases named : before.taskId = taskId
  · rw [if_pos named] at same
    exact ⟨before, inside, .inr ⟨named, same.symm⟩⟩
  · rw [if_neg named] at same
    exact ⟨before, inside, .inl ⟨named, same.symm⟩⟩

theorem ids_withStatus : (withStatus taskId status tasks).map TaskContract.taskId = tasks.map TaskContract.taskId := by
  unfold withStatus
  rw [List.map_map]
  refine List.map_congr_left fun task _ => ?_
  by_cases named : task.taskId = taskId <;> simp [named]

private theorem find_withStatus (other : Text) : (TaskGraph.mk (withStatus taskId status tasks)).find other =
    ((TaskGraph.mk tasks).find other).map fun task => if task.taskId = taskId then { task with status } else task := by
  unfold TaskGraph.find withStatus
  rw [List.find?_map]
  congr 2
  funext task
  by_cases named : task.taskId = taskId <;> simp [named]

/-- What does not read the status of a task is read alike. -/
theorem read_withStatus {Value : Type} (read : TaskContract → Value)
    (blind : ∀ task : TaskContract, read { task with status } = read task) (other : Text) :
    ((TaskGraph.mk (withStatus taskId status tasks)).find other).map read =
      ((TaskGraph.mk tasks).find other).map read := by
  rw [find_withStatus, Option.map_map]
  congr 1
  funext task
  rw [Function.comp]
  by_cases named : task.taskId = taskId
  · rw [if_pos named]
    exact blind task
  · rw [if_neg named]

/-- The integration order does not depend on the statuses. -/
theorem integrationOrder_withStatus : (TaskGraph.mk (withStatus taskId status tasks)).integrationOrder config =
    (TaskGraph.mk tasks).integrationOrder config := by
  have ids : (TaskGraph.mk (withStatus taskId status tasks)).ids = (TaskGraph.mk tasks).ids := ids_withStatus
  have dependencies : (TaskGraph.mk (withStatus taskId status tasks)).dependenciesOf =
      (TaskGraph.mk tasks).dependenciesOf := by
    funext other
    unfold TaskGraph.dependenciesOf
    rw [read_withStatus TaskContract.dependencies fun _ => rfl]
  have before : (TaskGraph.mk (withStatus taskId status tasks)).precedesBy
      (fun task => !TaskGraph.freezesTruth task config) =
      (TaskGraph.mk tasks).precedesBy fun task => !TaskGraph.freezesTruth task config := by
    funext first second
    have group (other : Text) : ((TaskGraph.mk (withStatus taskId status tasks)).find other).map
        (fun task => !TaskGraph.freezesTruth task config) = ((TaskGraph.mk tasks).find other).map
          fun task => !TaskGraph.freezesTruth task config := read_withStatus _ (fun _ => rfl) other
    unfold TaskGraph.precedesBy
    dsimp only
    rw [group, group]
  have length : (withStatus taskId status tasks).length = tasks.length := List.length_map _
  have order : Kahn.order (TaskGraph.mk (withStatus taskId status tasks)).ids
      (TaskGraph.mk (withStatus taskId status tasks)).dependenciesOf
      ((TaskGraph.mk (withStatus taskId status tasks)).precedesBy fun task => !TaskGraph.freezesTruth task config) =
      Kahn.order (TaskGraph.mk tasks).ids (TaskGraph.mk tasks).dependenciesOf
        ((TaskGraph.mk tasks).precedesBy fun task => !TaskGraph.freezesTruth task config) := by
    rw [ids, dependencies]
    exact Kahn.order_congr before
  unfold TaskGraph.integrationOrder TaskGraph.orderedIds
  dsimp only
  rw [order, length]

theorem Precedes.withStatus : Precedes config (withStatus taskId status tasks) first second ↔
    Precedes config tasks first second := by
  unfold Precedes
  rw [integrationOrder_withStatus]

theorem running_withStatus_le (elsewhere : status ≠ .inProgress) :
    running (withStatus taskId status tasks) ≤ running tasks := by
  unfold running withStatus
  rw [List.countP_map]
  refine List.countP_mono_left fun task _ now => ?_
  rw [Function.comp, decide_eq_true_eq] at now
  by_cases named : task.taskId = taskId
  · rw [if_pos named] at now
    exact absurd now elsewhere
  · rw [if_neg named] at now
    exact decide_eq_true now

/-- A dispatch starts the tasks of one identity. -/
theorem running_withStatus : running (withStatus taskId .inProgress tasks) ≤
    running tasks + (tasks.map TaskContract.taskId).count taskId := by
  unfold running withStatus
  induction tasks with
  | nil => exact Nat.le_refl _
  | cons task rest ih =>
    rw [List.map_cons, List.map_cons, List.countP_cons, List.countP_cons, List.count_cons]
    by_cases named : task.taskId = taskId
    · rw [if_pos named, if_pos (beq_iff_eq.mpr named), if_pos (decide_eq_true rfl)]
      omega
    · have other : ¬(task.taskId == taskId) = true := by simpa using named
      rw [if_neg named, if_neg other]
      omega

end Statuses

end CanX.Agent
