import CanX.Agent.Conflicts
import CanX.Agent.Graph
import Mathlib.Data.List.Dedup

/-! The plan of a set of tasks: which of them may be dispatched now, and what holds the others back. -/

namespace CanX.Agent

open Dbc (CodePoint Text codePoint text)

structure TaskPlanEntry where
  taskId : Text
  status : TaskStatus
  deferredBy : List Text
  serialReviewRequired : Bool
  capacityDeferred : Bool
  replanRequiredBy : List Text

def TaskPlanEntry.runnable (entry : TaskPlanEntry) : Bool :=
  entry.status = .ready ∧ entry.deferredBy = [] ∧ entry.capacityDeferred = false ∧ entry.replanRequiredBy = []

structure OrchestrationPlan where
  entries : List TaskPlanEntry
  conflicts : List PairConflict
  integrationOrder : List Text
  maxSubAgents : Nat
  activeIds : List Text
  availableSlots : Nat
  activeOverCapacity : Nat

namespace OrchestrationPlan

/-- The identities that may be dispatched now, in integration order. -/
def runnableIds (plan : OrchestrationPlan) : List Text :=
  plan.integrationOrder.filter fun taskId =>
    taskId ∈ (plan.entries.filter TaskPlanEntry.runnable).map TaskPlanEntry.taskId

def blockingConflicts (plan : OrchestrationPlan) : List PairConflict :=
  plan.conflicts.filter fun conflict => !conflict.autoResolvable

end OrchestrationPlan

/-- The owner and the waiter of a pair, by the integration order. -/
def earlierAndLater (conflict : PairConflict) (order : List Text) : Text × Text :=
  if order.idxOf conflict.left ≤ order.idxOf conflict.right then (conflict.left, conflict.right)
  else (conflict.right, conflict.left)

section Planning

variable (graph : TaskGraph) (conflicts : List PairConflict) (order : List Text)

/-- The owners that a task waits for, in a status of a kind. -/
def ownersOf (kind : TaskStatus → Bool) (taskId : Text) : List Text :=
  (conflicts.filter fun conflict => !conflict.autoResolvable && (earlierAndLater conflict order).2 = taskId &&
    kind (graph.statusOf (earlierAndLater conflict order).1)).map fun conflict => (earlierAndLater conflict order).1

def deferred (taskId : Text) : List Text := ownersOf graph conflicts order holdsConflictLease taskId

/-- The other branch of the lease test; the two kinds of status are disjoint. -/
def replan (taskId : Text) : List Text := ownersOf graph conflicts order requiresConflictReplan taskId

def candidates : List Text :=
  order.filter fun taskId => graph.statusOf taskId = .ready ∧ deferred graph conflicts order taskId = [] ∧
    replan graph conflicts order taskId = []

def activeIds : List Text := order.filter fun taskId => occupiesSubAgentSlot (graph.statusOf taskId)

end Planning

/-- The plan over a graph and its integration order. -/
def planOver (graph : TaskGraph) (order : List Text) (config : AgentConfig) : OrchestrationPlan :=
  let conflicts := classifyAll config graph.tasks
  let active := activeIds graph order
  let availableSlots := config.maxSubAgents - active.length
  let overCapacity := (candidates graph conflicts order).drop availableSlots
  { entries := order.map fun taskId => {
      taskId
      status := graph.statusOf taskId
      deferredBy := sortedSet (deferred graph conflicts order taskId)
      serialReviewRequired := (graph.find taskId).any fun task => requiresSerialReview task config
      capacityDeferred := taskId ∈ overCapacity
      replanRequiredBy := sortedSet (replan graph conflicts order taskId) }
    conflicts
    integrationOrder := order
    maxSubAgents := config.maxSubAgents
    activeIds := active
    availableSlots
    activeOverCapacity := active.length - config.maxSubAgents }

/-- `plan`. -/
def plan (tasks : List TaskContract) (config : AgentConfig) : Except AgentError OrchestrationPlan := do
  let graph ← TaskGraph.build tasks
  let order ← graph.integrationOrder config
  return planOver graph order config

/-- `_conflict_blocker` of a task: the earlier owners it waits on. -/
def waitingOn (plan : OrchestrationPlan) (taskId : Text) : List Text :=
  ((plan.blockingConflicts.filter fun conflict => taskId ∈ [conflict.left, conflict.right]).map fun conflict =>
    if conflict.left = taskId then conflict.right else conflict.left).filter fun other =>
      (plan.entries.find? (·.taskId = other)).map TaskPlanEntry.status ≠ some .done ∧
        plan.integrationOrder.idxOf other < plan.integrationOrder.idxOf taskId

/-- The conflict gate of `evaluate_integration`. -/
def passesConflictGate (plan : OrchestrationPlan) (taskId : Text) : Bool := waitingOn plan taskId = []

/-- The plan of `IntegrationContext.build`, if it is to hold one. -/
def contextPlan (tasks : List TaskContract) (config : AgentConfig) (includePlan : Bool) :
    Except AgentError (Option OrchestrationPlan) := do
  let _ ← TaskGraph.build tasks
  if includePlan then
    return some (← plan tasks config)
  else return none

/-- `evaluate_integration` refuses a context that cannot prove the conflict gate. -/
def conflictGate (context : Option OrchestrationPlan) (taskId : Text) : Bool :=
  context.any fun plan => passesConflictGate plan taskId

section Plans

variable {tasks : List TaskContract} {config : AgentConfig} {made : OrchestrationPlan}
variable {graph : TaskGraph} {order : List Text} {taskId : Text}

theorem plan_ok (planned : plan tasks config = .ok made) : ∃ order, (tasks.map TaskContract.taskId).Nodup ∧
    (TaskGraph.mk tasks).integrationOrder config = .ok order ∧ made = planOver ⟨tasks⟩ order config := by
  unfold plan at planned
  cases built : TaskGraph.build tasks with
  | error error =>
    rw [built] at planned
    cases planned
  | ok graph =>
    obtain ⟨rfl, distinct⟩ := build_ok built
    cases ordered : (TaskGraph.mk tasks).integrationOrder config with
    | error error =>
      simp only [built, ordered, bind, Except.bind] at planned
      cases planned
    | ok order =>
      simp only [built, ordered, bind, Except.bind] at planned
      exact ⟨order, distinct, rfl, (Except.ok.inj planned).symm⟩

theorem contextPlan_ok {includePlan : Bool} {context : Option OrchestrationPlan}
    (built : contextPlan tasks config includePlan = .ok context) (proven : conflictGate context taskId = true) :
    ∃ made, context = some made ∧ plan tasks config = .ok made := by
  cases context with
  | none => cases proven
  | some made =>
    refine ⟨made, rfl, ?_⟩
    unfold contextPlan at built
    cases graph : TaskGraph.build tasks with
    | error error =>
      rw [graph] at built
      cases built
    | ok value =>
      rw [graph] at built
      cases includePlan with
      | false => cases built
      | true =>
        cases planned : plan tasks config with
        | error error =>
          rw [planned] at built
          cases built
        | ok same =>
          rw [planned] at built
          cases built
          rfl

private theorem sortedSet_eq_nil {values : List Text} : sortedSet values = [] ↔ values = [] := by
  constructor
  · intro empty
    refine List.eq_nil_iff_forall_not_mem.mpr fun value member => ?_
    have kept : value ∈ sortedSet values := (List.mem_insertionSort _).mpr (List.mem_dedup.mpr member)
    rw [empty] at kept
    cases kept
  · rintro rfl
    rfl

/-- The runnable identities are the candidates that fit into the free slots. -/
theorem mem_runnableIds : taskId ∈ (planOver graph order config).runnableIds ↔
    taskId ∈ candidates graph (classifyAll config graph.tasks) order ∧
      taskId ∉ (candidates graph (classifyAll config graph.tasks) order).drop
        (config.maxSubAgents - (activeIds graph order).length) := by
  unfold OrchestrationPlan.runnableIds
  rw [List.mem_filter, decide_eq_true_eq, List.mem_map]
  constructor
  · rintro ⟨_, entry, member, rfl⟩
    obtain ⟨listed, runnable⟩ := List.mem_filter.mp member
    obtain ⟨taskId, ordered, rfl⟩ := List.mem_map.mp listed
    obtain ⟨ready, undeferred, fits, unflagged⟩ := of_decide_eq_true runnable
    refine ⟨List.mem_filter.mpr ⟨ordered, decide_eq_true ⟨ready, ?_, ?_⟩⟩, of_decide_eq_false fits⟩
    · exact sortedSet_eq_nil.mp undeferred
    · exact sortedSet_eq_nil.mp unflagged
  · rintro ⟨candidate, fits⟩
    obtain ⟨ordered, ready⟩ := List.mem_filter.mp candidate
    obtain ⟨ready, undeferred, unflagged⟩ := of_decide_eq_true ready
    refine ⟨ordered, _, List.mem_filter.mpr ⟨List.mem_map_of_mem ordered, ?_⟩, rfl⟩
    exact decide_eq_true ⟨ready, sortedSet_eq_nil.mpr undeferred, decide_eq_false fits, sortedSet_eq_nil.mpr unflagged⟩

/-- The slots that are taken and those that a plan gives out are no more than there are. -/
theorem runnable_fits (distinct : order.Nodup) (some : (planOver graph order config).runnableIds ≠ []) :
    (activeIds graph order).length + (planOver graph order config).runnableIds.length ≤ config.maxSubAgents := by
  have inside : ∀ taskId ∈ (planOver graph order config).runnableIds,
      taskId ∈ (candidates graph (classifyAll config graph.tasks) order).take
        (config.maxSubAgents - (activeIds graph order).length) := by
    intro taskId member
    obtain ⟨candidate, fits⟩ := mem_runnableIds.mp member
    rw [← List.take_append_drop (config.maxSubAgents - (activeIds graph order).length)
      (candidates graph (classifyAll config graph.tasks) order)] at candidate
    exact (List.mem_append.mp candidate).resolve_right fits
  have once : (planOver graph order config).runnableIds.Nodup := distinct.filter _
  have short := (List.subperm_of_subset once inside).length_le
  rw [List.length_take] at short
  have positive := List.length_pos_iff.mpr some
  omega

end Plans

end CanX.Agent
