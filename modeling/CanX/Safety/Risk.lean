import CanX.Safety.Vocabulary

/-! The operation table: what an operation does to the vehicle and what executing it
costs. -/

namespace CanX.Safety

inductive RiskLevel where
  | read
  | compute
  | writeProject
  | tx
  | diagnosticMutation
  | actuation
  | ecuMutation
  | critical
  deriving DecidableEq

namespace RiskLevel

def value : RiskLevel → Nat
  | read => 1
  | compute => 2
  | writeProject => 3
  | tx => 4
  | diagnosticMutation => 5
  | actuation => 6
  | ecuMutation => 7
  | critical => 8

/-- Above `WRITE_PROJECT`: the effect can change the vehicle. -/
def isDangerous (risk : RiskLevel) : Bool := value writeProject < risk.value

end RiskLevel

inductive Capability where
  | read
  | compute
  | writeProject
  | canTx
  | diagnosticMutation
  | actuation
  | ecuMutation
  | criticalOperation
  deriving DecidableEq

def Capability.value : Capability → String
  | read => "READ"
  | compute => "COMPUTE"
  | writeProject => "WRITE_PROJECT"
  | canTx => "CAN_TX"
  | diagnosticMutation => "DIAGNOSTIC_MUTATION"
  | actuation => "ACTUATION"
  | ecuMutation => "ECU_MUTATION"
  | criticalOperation => "CRITICAL_OPERATION"

/-- `DANGEROUS_CAPABILITIES`. -/
def Capability.isDangerous : Capability → Bool
  | canTx | diagnosticMutation | actuation | ecuMutation | criticalOperation => true
  | _ => false

inductive OperationClass where
  | engineeringRead
  | engineeringCompute
  | projectWrite
  | busTransmit
  | busReplay
  | busInjection
  | diagnosticRead
  | diagnosticMutation
  | actuation
  | ecuMutation
  | criticalOperation
  deriving DecidableEq

namespace OperationClass

def value : OperationClass → String
  | engineeringRead => "engineering.read"
  | engineeringCompute => "engineering.compute"
  | projectWrite => "project.write"
  | busTransmit => "bus.transmit"
  | busReplay => "bus.replay"
  | busInjection => "bus.injection"
  | diagnosticRead => "diagnostic.read"
  | diagnosticMutation => "diagnostic.mutation"
  | actuation => "actuation"
  | ecuMutation => "ecu.mutation"
  | criticalOperation => "critical"

def all : List OperationClass :=
  [engineeringRead, engineeringCompute, projectWrite, busTransmit, busReplay, busInjection,
    diagnosticRead, diagnosticMutation, actuation, ecuMutation, criticalOperation]

/-- `OperationClass(text)`. -/
def ofValue? (text : String) : Option OperationClass := all.find? (·.value = text)

theorem ofValue?_value (operation : OperationClass) : ofValue? operation.value = some operation := by
  cases operation <;> decide

end OperationClass

/-- `_EFFECT_CAPABILITY`. -/
def effectCapability : RiskLevel → Capability
  | .read => .read
  | .compute => .compute
  | .writeProject => .writeProject
  | .tx => .canTx
  | .diagnosticMutation => .diagnosticMutation
  | .actuation => .actuation
  | .ecuMutation => .ecuMutation
  | .critical => .criticalOperation

/-- `OperationPolicy.__post_init__`: the effect is among the required capabilities, and
a dangerous effect is delivered over the bus. -/
def wellFormedPolicy (effectRisk : RiskLevel) (requiredCapabilities : List Capability) : Bool :=
  requiredCapabilities.Nodup && effectCapability effectRisk ∈ requiredCapabilities &&
    (!effectRisk.isDangerous || Capability.canTx ∈ requiredCapabilities)

/-- What an operation is: its effect, and everything executing it requires. -/
structure OperationPolicy where
  operationClass : OperationClass
  effectRisk : RiskLevel
  requiredCapabilities : List Capability
  wellFormed : wellFormedPolicy effectRisk requiredCapabilities = true
  deriving DecidableEq

namespace OperationPolicy

def transmitsToVehicle (policy : OperationPolicy) : Bool :=
  Capability.canTx ∈ policy.requiredCapabilities

def requiresArm (policy : OperationPolicy) : Bool :=
  policy.effectRisk.isDangerous || policy.transmitsToVehicle

def effectCapability (policy : OperationPolicy) : Capability :=
  Safety.effectCapability policy.effectRisk

theorem dangerous_transmits (policy : OperationPolicy)
    (dangerous : policy.effectRisk.isDangerous = true) :
    Capability.canTx ∈ policy.requiredCapabilities := by
  have checked := policy.wellFormed
  simp only [wellFormedPolicy, Bool.and_eq_true, Bool.or_eq_true, dangerous, Bool.not_true,
    Bool.false_eq_true, false_or, decide_eq_true_eq] at checked
  exact checked.2

/-- An operation that needs the arm state transmits. -/
theorem requiresArm_iff (policy : OperationPolicy) :
    policy.requiresArm = true ↔ Capability.canTx ∈ policy.requiredCapabilities := by
  simp only [requiresArm, transmitsToVehicle, Bool.or_eq_true, decide_eq_true_eq]
  constructor
  · rintro (dangerous | transmits)
    · exact policy.dangerous_transmits dangerous
    · exact transmits
  · exact .inr

end OperationPolicy

/-- `_OPERATION_POLICIES`. -/
def operationPolicies : OperationClass → OperationPolicy
  | .engineeringRead => ⟨.engineeringRead, .read, [.read], rfl⟩
  | .engineeringCompute => ⟨.engineeringCompute, .compute, [.compute], rfl⟩
  | .projectWrite => ⟨.projectWrite, .writeProject, [.writeProject], rfl⟩
  | .busTransmit => ⟨.busTransmit, .tx, [.canTx], rfl⟩
  | .busReplay => ⟨.busReplay, .tx, [.canTx], rfl⟩
  | .busInjection => ⟨.busInjection, .tx, [.canTx], rfl⟩
  | .diagnosticRead => ⟨.diagnosticRead, .read, [.read, .canTx], rfl⟩
  | .diagnosticMutation => ⟨.diagnosticMutation, .diagnosticMutation, [.canTx, .diagnosticMutation], rfl⟩
  | .actuation => ⟨.actuation, .actuation, [.canTx, .actuation], rfl⟩
  | .ecuMutation => ⟨.ecuMutation, .ecuMutation, [.canTx, .ecuMutation], rfl⟩
  | .criticalOperation => ⟨.criticalOperation, .critical, [.canTx, .criticalOperation], rfl⟩

def operationPolicy (operationClass : String) : Except SafetyFault OperationPolicy :=
  match OperationClass.ofValue? operationClass with
  | some operation => .ok (operationPolicies operation)
  | none => .error ⟨.unknownOperation,
      "The operation class is not part of the CAN-X risk taxonomy."⟩

end CanX.Safety
