import CanX.Agent.Contracts
import CanX.Agent.Kahn

/-! The dependency graph of a set of tasks: which ones may start, and in what order they are integrated. -/

namespace CanX.Agent

open Dbc (CodePoint Text codePoint text)

def taskInvalid (field : String) : AgentError := ⟨"agent.task_invalid", some field⟩

def dependencyInvalid : AgentError := ⟨"agent.dependency_invalid", none⟩

def dagCycle : AgentError := ⟨"agent.dag_cycle", none⟩

def isAlphanumeric (point : CodePoint) : Bool :=
  isDriveLetter point || (codePoint '0' ≤ point && point ≤ codePoint '9')

def isTaskIdCharacter (point : CodePoint) : Bool := isAlphanumeric point || point ∈ text "._-"

/-- The text that `TASK_ID_RE` spells out. -/
def isTaskIdBody (value : Text) : Bool :=
  value.all isTaskIdCharacter && value.length ≤ 64 && value.head?.any isAlphanumeric && value.getLast?.any isAlphanumeric

/-- `TASK_ID_RE.match`; its `$` also matches before a newline at the end. -/
def isTaskId (value : Text) : Bool :=
  isTaskIdBody value || (value.getLast? = some newline && isTaskIdBody value.dropLast)

structure TaskGraph where
  tasks : List TaskContract

namespace TaskGraph

/-- `index()[task_id]`; the identities of a built graph are distinct. -/
def find (graph : TaskGraph) (taskId : Text) : Option TaskContract := graph.tasks.find? fun task => task.taskId = taskId

def ids (graph : TaskGraph) : List Text := graph.tasks.map TaskContract.taskId

def dependenciesOf (graph : TaskGraph) (taskId : Text) : List Text :=
  ((graph.find taskId).map TaskContract.dependencies).getD []

/-- What `_ordered_ids` sorts by: whether a task comes in the second group, then its identity. -/
def precedesBy (graph : TaskGraph) (late : TaskContract → Bool) (first second : Text) : Prop :=
  let group (taskId : Text) : Bool := ((graph.find taskId).map late).getD false
  group first = false ∧ group second = true ∨ group first = group second ∧ first ≤ second

instance (graph : TaskGraph) (late : TaskContract → Bool) :
    DecidableRel (graph.precedesBy late) := fun first second => by
  unfold precedesBy
  infer_instance

/-- `_ordered_ids`. -/
def orderedIds (graph : TaskGraph) (late : TaskContract → Bool) : Except AgentError (List Text) :=
  let order := Kahn.order graph.ids graph.dependenciesOf (graph.precedesBy late)
  if order.length ≠ graph.tasks.length then .error dagCycle else .ok order

def topologicalOrder (graph : TaskGraph) : Except AgentError (List Text) := graph.orderedIds fun _ => false

def freezesTruth (task : TaskContract) (config : AgentConfig) : Bool :=
  task.allowedPaths.any fun pattern => config.publicTruthPaths.any (patternsOverlap pattern)

def integrationOrder (graph : TaskGraph) (config : AgentConfig) : Except AgentError (List Text) :=
  graph.orderedIds fun task => !freezesTruth task config

def checkIds : List Text → List TaskContract → Except AgentError Unit
  | _, [] => .ok ()
  | seen, task :: rest => do
    refuseIf (isTaskId task.taskId = false) (taskInvalid "task_id")
    refuseIf (task.taskId ∈ seen) (taskInvalid "task_id")
    checkIds (task.taskId :: seen) rest

def checkDependencies (seen : List Text) (task : TaskContract) : List Text → Except AgentError Unit
  | [] => .ok ()
  | dependency :: rest => do
    refuseIf (dependency = task.taskId) dependencyInvalid
    refuseIf (dependency ∉ seen) dependencyInvalid
    checkDependencies seen task rest

def checkAllDependencies (seen : List Text) : List TaskContract → Except AgentError Unit
  | [] => .ok ()
  | task :: rest => do
    checkDependencies seen task task.dependencies
    checkAllDependencies seen rest

def build (tasks : List TaskContract) : Except AgentError TaskGraph := do
  checkIds [] tasks
  checkAllDependencies (tasks.map TaskContract.taskId) tasks
  let _ ← topologicalOrder ⟨tasks⟩
  return ⟨tasks⟩

def isDone (graph : TaskGraph) (taskId : Text) : Bool := (graph.find taskId).any fun task => task.status = .done

/-- The dependencies that are not `DONE`. -/
def unsatisfiedDependencies (graph : TaskGraph) (taskId : Text) : List Text :=
  (graph.dependenciesOf taskId).filter fun dependency => !graph.isDone dependency

/-- The entry of `readiness()` for a task: whether one that has not started may start. -/
def readiness (graph : TaskGraph) (task : TaskContract) : TaskStatus :=
  if task.status = .planned ∨ task.status = .ready ∨ task.status = .blocked then
    if graph.unsatisfiedDependencies task.taskId = [] then .ready else .blocked
  else task.status

def statusOf (graph : TaskGraph) (taskId : Text) : TaskStatus :=
  ((graph.find taskId).map graph.readiness).getD .planned

end TaskGraph

section Orders

variable {graph : TaskGraph} {late : TaskContract → Bool} {order : List Text} {task : TaskContract}

/-- An order has every task once. -/
theorem orderedIds_perm (distinct : graph.ids.Nodup) (ordered : graph.orderedIds late = .ok order) :
    order.Perm graph.ids := by
  have drained : (Kahn.order graph.ids graph.dependenciesOf (graph.precedesBy late)).Nodup ∧
      ∀ taskId ∈ Kahn.order graph.ids graph.dependenciesOf (graph.precedesBy late), taskId ∈ graph.ids :=
    Kahn.order_nodes distinct
  unfold TaskGraph.orderedIds at ordered
  dsimp only at ordered
  by_cases complete : (Kahn.order graph.ids graph.dependenciesOf (graph.precedesBy late)).length = graph.tasks.length
  · rw [if_neg (not_not.mpr complete)] at ordered
    rw [← Except.ok.inj ordered]
    refine (List.subperm_of_subset drained.1 drained.2).perm_of_length_le ?_
    rw [complete, TaskGraph.ids, List.length_map]
  · rw [if_pos complete] at ordered
    cases ordered

theorem find_of_mem (distinct : graph.ids.Nodup) (member : task ∈ graph.tasks) : graph.find task.taskId = some task := by
  unfold TaskGraph.find
  unfold TaskGraph.ids at distinct
  generalize graph.tasks = tasks at distinct member
  induction tasks with
  | nil => cases member
  | cons first rest ih =>
    obtain ⟨apart, others⟩ := List.nodup_cons.mp distinct
    rcases List.mem_cons.mp member with rfl | later
    · simp
    · have different : first.taskId ≠ task.taskId := fun same => apart (same ▸ List.mem_map_of_mem later)
      rw [List.find?_cons_of_neg (by simpa using different)]
      exact ih others later

theorem find_mem {taskId : Text} (found : graph.find taskId = some task) :
    task ∈ graph.tasks ∧ task.taskId = taskId := by
  unfold TaskGraph.find at found
  exact ⟨List.mem_of_find?_eq_some found, by simpa using List.find?_some found⟩

theorem statusOf_of_mem (distinct : graph.ids.Nodup) (member : task ∈ graph.tasks) :
    graph.statusOf task.taskId = graph.readiness task := by
  rw [TaskGraph.statusOf, find_of_mem distinct member]
  rfl

/-- A status that only a started task has is its own. -/
theorem readiness_started {status : TaskStatus} (started : status ≠ .ready ∧ status ≠ .blocked ∧ status ≠ .planned) :
    graph.readiness task = status ↔ task.status = status := by
  unfold TaskGraph.readiness
  by_cases waiting : task.status = .planned ∨ task.status = .ready ∨ task.status = .blocked
  · rw [if_pos waiting]
    constructor
    · intro derived
      split at derived
      · exact absurd derived.symm started.1
      · exact absurd derived.symm started.2.1
    · rintro rfl
      rcases waiting with planned | ready | blocked
      · exact absurd planned started.2.2
      · exact absurd ready started.1
      · exact absurd blocked started.2.1
  · rw [if_neg waiting]

private theorem checkIds_nodup {seen : List Text} {tasks : List TaskContract}
    (passed : TaskGraph.checkIds seen tasks = .ok ()) :
    (tasks.map TaskContract.taskId).Nodup ∧ ∀ task ∈ tasks, task.taskId ∉ seen := by
  induction tasks generalizing seen with
  | nil => exact ⟨List.nodup_nil, fun _ member => by cases member⟩
  | cons task rest ih =>
    unfold TaskGraph.checkIds refuseIf at passed
    by_cases named : isTaskId task.taskId = false
    · rw [if_pos named] at passed
      cases passed
    by_cases duplicate : task.taskId ∈ seen
    · rw [if_neg named, if_pos duplicate] at passed
      cases passed
    · rw [if_neg named, if_neg duplicate] at passed
      obtain ⟨distinct, fresh⟩ := ih passed
      refine ⟨List.nodup_cons.mpr ⟨?_, distinct⟩, fun other member => ?_⟩
      · intro member
        obtain ⟨other, inside, same⟩ := List.mem_map.mp member
        exact fresh other inside (same ▸ List.mem_cons_self)
      · rcases List.mem_cons.mp member with rfl | later
        · exact duplicate
        · exact fun known => fresh other later (List.mem_cons_of_mem _ known)

/-- A built graph is its tasks, under distinct identities. -/
theorem build_ok {tasks : List TaskContract} (built : TaskGraph.build tasks = .ok graph) :
    graph = ⟨tasks⟩ ∧ (tasks.map TaskContract.taskId).Nodup := by
  unfold TaskGraph.build at built
  cases ids : TaskGraph.checkIds [] tasks with
  | error error =>
    rw [ids] at built
    cases built
  | ok value =>
    have distinct := (checkIds_nodup ids).1
    rw [ids] at built
    cases known : TaskGraph.checkAllDependencies (tasks.map TaskContract.taskId) tasks with
    | error error =>
      rw [known] at built
      cases built
    | ok value =>
      rw [known] at built
      cases ordered : TaskGraph.topologicalOrder ⟨tasks⟩ with
      | error error =>
        rw [ordered] at built
        cases built
      | ok order =>
        rw [ordered] at built
        exact ⟨(Except.ok.inj built).symm, distinct⟩

end Orders

end CanX.Agent
