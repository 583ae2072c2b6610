import CanX.Agent.Paths

/-! Task contracts, the statuses a task moves through, and the configuration of the planner. Titles, objectives and
other prose of a contract are left out: nothing below reads them. -/

namespace CanX.Agent

open Dbc (CodePoint Text codePoint text)

inductive TaskStatus where
  | planned
  | ready
  | inProgress
  | handoffReady
  | blocked
  | integrating
  | done
  | failed
  | cancelled
  deriving DecidableEq

inductive RiskClass where
  | low
  | medium
  | high
  | safetyCritical
  deriving DecidableEq

inductive ExecutionMode where
  | isolatedWorktree
  | nativeShared
  deriving DecidableEq

structure ContractRef where
  path : Text
  sha : Option Text
  deriving DecidableEq

structure TaskContract where
  taskId : Text
  baseSha : Text
  branch : Option Text
  worktree : Option Text
  owner : Text
  allowedPaths : List Text
  forbiddenPaths : List Text
  dependencies : List Text
  sharedContracts : List ContractRef
  acceptanceCriteria : List Text
  requiredTests : List Text
  handoffRequirements : List Text
  riskClass : RiskClass
  status : TaskStatus
  revision : Int
  integrationPaths : List Text
  executionMode : ExecutionMode
  schemaVersion : Int
  deriving DecidableEq

/-- Every path that the delivery range of a task may contain. -/
def TaskContract.ownershipSurface (task : TaskContract) : List Text :=
  if task.executionMode = .nativeShared then task.allowedPaths ++ task.integrationPaths else task.allowedPaths

structure AgentConfig where
  maxSubAgents : Nat
  branchPrefix : Text
  worktreesDir : Text
  mainAgentIds : List Text
  protectedPaths : List Text
  publicTruthPaths : List Text
  safetyPaths : List Text

def AgentConfig.isMainAgent (config : AgentConfig) (owner : Text) : Bool := owner ∈ config.mainAgentIds

/-! The lifecycle. -/

/-- `ALLOWED_TRANSITIONS`. -/
def TaskStatus.allowed : TaskStatus → List TaskStatus
  | planned => [.ready, .blocked, .cancelled]
  | ready => [.inProgress, .blocked, .cancelled]
  | inProgress => [.handoffReady, .blocked, .failed, .cancelled]
  | handoffReady => [.integrating, .blocked, .failed]
  | blocked => [.ready, .failed, .cancelled]
  | integrating => [.done, .blocked, .failed]
  | done => []
  | failed => []
  | cancelled => []

def canTransition (source destination : TaskStatus) : Bool := destination ∈ source.allowed

def occupiesSubAgentSlot (status : TaskStatus) : Bool := status = .inProgress

/-- `CONFLICT_LEASE_STATUSES`. -/
def holdsConflictLease (status : TaskStatus) : Bool :=
  status ∈ [TaskStatus.planned, .ready, .inProgress, .handoffReady, .blocked, .integrating]

/-- `CONFLICT_REPLAN_STATUSES`. -/
def requiresConflictReplan (status : TaskStatus) : Bool := status ∈ [TaskStatus.failed, .cancelled]

/-- Only a task that has landed neither holds its surface nor asks for a new plan. -/
theorem released_iff (status : TaskStatus) :
    holdsConflictLease status = false ∧ requiresConflictReplan status = false ↔ status = .done := by
  cases status <;> decide

/-- A task that has landed stays so. -/
theorem done_final {destination : TaskStatus} : canTransition .done destination = false := rfl

end CanX.Agent
