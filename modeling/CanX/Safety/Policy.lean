import CanX.Safety.Approval
import Mathlib.Data.List.Sort

/-! The policy core: a deterministic function from a request, the authority held and the
approval store to a verdict and the store it leaves. -/

namespace CanX.Safety

inductive ArmState where
  | disarmed
  | arming
  | armed
  deriving DecidableEq

def ArmState.value : ArmState → String
  | disarmed => "disarmed"
  | arming => "arming"
  | armed => "armed"

inductive DecisionOutcome where
  | allow
  | deny
  deriving DecidableEq

def DecisionOutcome.value : DecisionOutcome → String
  | allow => "allow"
  | deny => "deny"

inductive SafetyReason where
  | allowed
  | notArmed
  | scopeViolation
  | permissionDenied
  | callerNotPermitted
  | approvalRequired
  | approvalInvalid
  | approvalExpired
  | approvalReused
  | unknownOperation
  | invalidTransition
  | policyFailure
  | emergencyStop
  deriving DecidableEq

def SafetyReason.value : SafetyReason → String
  | allowed => "safety.allowed"
  | notArmed => "safety.not_armed"
  | scopeViolation => "safety.scope_violation"
  | permissionDenied => "safety.permission_denied"
  | callerNotPermitted => "safety.caller_not_permitted"
  | approvalRequired => "safety.approval_required"
  | approvalInvalid => "safety.approval_invalid"
  | approvalExpired => "safety.approval_expired"
  | approvalReused => "safety.approval_reused"
  | unknownOperation => "safety.unknown_operation"
  | invalidTransition => "safety.invalid_transition"
  | policyFailure => "safety.policy_failure"
  | emergencyStop => "safety.emergency_stop_active"

/-- One verdict, with everything needed to explain it later. -/
structure PolicyDecision where
  outcome : DecisionOutcome
  reasonCode : SafetyReason
  message : String
  riskLevel : Option RiskLevel
  requiredConditions : List String
  deriving DecidableEq

def allow (riskLevel : RiskLevel) : PolicyDecision :=
  ⟨.allow, .allowed, "The operation is authorised.", some riskLevel, []⟩

def deny (reasonCode : SafetyReason) (message : String) (riskLevel : Option RiskLevel)
    (requiredConditions : List String) : PolicyDecision :=
  ⟨.deny, reasonCode, message, riskLevel, requiredConditions⟩

structure ApprovalRequirement where
  required : Bool
  singleUseRequired : Bool
  exactTargetRequired : Bool
  humanIssuerRequired : Bool
  deriving DecidableEq

def noApproval : ApprovalRequirement := ⟨false, false, false, false⟩

/-- The fallback for a level the table does not list. -/
def everyApproval : ApprovalRequirement := ⟨true, true, true, true⟩

/-- `_DEFAULT_APPROVAL_REQUIREMENTS`. -/
def defaultApprovalRequirements : RiskLevel → Option ApprovalRequirement
  | .read | .compute | .writeProject => some noApproval
  | .tx => some ⟨true, false, true, false⟩
  | .diagnosticMutation => some ⟨true, true, true, false⟩
  | .actuation | .ecuMutation | .critical => some ⟨true, true, true, true⟩

structure SafetyPolicy where
  requirements : RiskLevel → Option ApprovalRequirement

/-- `SafetyPolicy()`. -/
def standardPolicy : SafetyPolicy := ⟨defaultApprovalRequirements⟩

def SafetyPolicy.approvalRequirement (policy : SafetyPolicy) (risk : RiskLevel) :
    ApprovalRequirement :=
  (policy.requirements risk).getD everyApproval

/-- One request for authorisation. The class is text, since nothing but the policy
checks that it is one of the vocabulary. -/
structure OperationRequest where
  operationId : AuditIdentifier
  operationClass : String
  caller : CallerIdentity
  target : OperationTarget
  requestedAt : Rat
  approvalId : Option AuditIdentifier
  parametersDigest : Option Sha256Digest
  deriving DecidableEq

/-- What the policy may consult; the approval store is its state. -/
structure SafetyContext where
  now : PyFloat
  armState : ArmState
  armScope : Option ArmScope
  permissions : PermissionSet
  emergencyStopEngaged : Bool

/-- How the chain can end early: with a verdict, or with an unexpected exception. -/
inductive Exit where
  | refusal (decision : PolicyDecision)
  | fault (fault : SafetyFault)

/-- A rule of the chain: it may end it, and what it did to the store stays done. -/
def Chain (Value : Type) := ApprovalStore → Except Exit Value × ApprovalStore

namespace Chain

variable {Value Other : Type}

instance : Monad Chain where
  pure value := fun store => (.ok value, store)
  bind rule next := fun store =>
    match rule store with
    | (.ok value, after) => next value after
    | (.error exit, after) => (.error exit, after)

/-- A rule that reads the store at most. -/
def guard (outcome : Except Exit Value) : Chain Value := fun store => (outcome, store)

def refuseUnless (condition : Prop) [Decidable condition] (decision : PolicyDecision) :
    Chain Unit :=
  guard (if condition then .ok () else .error (.refusal decision))

def onlyIf (condition : Bool) (rule : Chain Unit) : Chain Unit :=
  if condition then rule else pure ()

end Chain

def sortedCapabilities (capabilities : List Capability) : List Capability :=
  capabilities.insertionSort fun first second => first.value ≤ second.value

def listed (capabilities : List Capability) : String :=
  ", ".intercalate (capabilities.map Capability.value)

namespace SafetyPolicy

def operationPolicyRule (request : OperationRequest) : Chain OperationPolicy :=
  Chain.guard (match operationPolicy request.operationClass with
    | .ok operation => .ok operation
    | .error _ => .error (.refusal (deny .unknownOperation
        "The operation is not part of the CAN-X risk taxonomy; it is refused."
        none ["known_operation_class"])))

def requireStopReleased (operation : OperationPolicy) (context : SafetyContext) : Chain Unit :=
  Chain.refuseUnless (context.emergencyStopEngaged = false) (deny .emergencyStop
    "The global emergency stop is engaged; no vehicle operation is authorised."
    (some operation.effectRisk) ["emergency_stop_released"])

/-- `_uncovered_by_arm_scope`: only the vehicle capabilities are compared. -/
def uncoveredByArmScope (operation : OperationPolicy) (request : OperationRequest)
    (context : SafetyContext) (scope : ArmScope) : List Capability :=
  sortedCapabilities ((operation.requiredCapabilities.filter Capability.isDangerous).filter
    fun capability => !scope.covers capability request.target context.now)

def requireArm (operation : OperationPolicy) (request : OperationRequest)
    (context : SafetyContext) : Chain Unit :=
  match context.armState, context.armScope with
  | .armed, some scope =>
    Chain.refuseUnless (uncoveredByArmScope operation request context scope = [])
      (deny .scopeViolation
        ("The arm scope does not cover " ++
          listed (uncoveredByArmScope operation request context scope) ++ " at this target.")
        (some operation.effectRisk)
        ((uncoveredByArmScope operation request context scope).map ("arm_scope:" ++ ·.value)))
  | _, _ => Chain.guard (.error (.refusal (deny .notArmed
      "The runtime is not armed for this operation." (some operation.effectRisk)
      ["runtime_armed"])))

def missingPermissions (operation : OperationPolicy) (request : OperationRequest)
    (context : SafetyContext) : List Capability :=
  sortedCapabilities (operation.requiredCapabilities.filter fun capability =>
    !context.permissions.covers capability request.target context.now)

def requirePermissions (operation : OperationPolicy) (request : OperationRequest)
    (context : SafetyContext) : Chain Unit :=
  Chain.refuseUnless (missingPermissions operation request context = [])
    (deny .permissionDenied
      ("The session holds no grant for " ++ listed (missingPermissions operation request context) ++
        " at this target.")
      (some operation.effectRisk)
      ((missingPermissions operation request context).map ("permission:" ++ ·.value)))

/-- `_approval_check`, run inside the store's critical section. -/
def approvalCheck (capability : Capability) (requirement : ApprovalRequirement)
    (request : OperationRequest) (context : SafetyContext) (candidate : Approval) :
    Except SafetyFault Unit := do
  require (candidate.isExpired context.now = false)
    ⟨.approvalExpired, "The approval expired before this operation was requested."⟩
  require (candidate.capability = capability)
    ⟨.approval, "The approval authorises a different capability than this operation needs."⟩
  require (requirement.exactTargetRequired = true →
      candidate.exactlyMatches capability request.target = true)
    ⟨.scope, "The approval does not name exactly the target this operation uses."⟩
  require (requirement.exactTargetRequired = false →
      candidate.covers capability request.target = true)
    ⟨.scope, "The approval does not cover this operation's target."⟩
  require (requirement.singleUseRequired = true → candidate.singleUse = true)
    ⟨.approval, "This operation requires a single-use approval."⟩
  require (requirement.humanIssuerRequired = true → candidate.issuer = .humanOperator)
    ⟨.approval, "This operation requires an approval issued by a human operator."⟩
  require (∀ scope ∈ context.armScope, scope.target.covers candidate.target = true)
    ⟨.scope, "The approval reaches outside the current arm scope."⟩

/-- The refusal an exception of `consume` becomes, if it is one of its own. -/
def approvalRefusal (risk : RiskLevel) (fault : SafetyFault) : Exit :=
  match fault.kind with
  | .approvalExpired => .refusal (deny .approvalExpired
      "The approval expired before this operation was requested." (some risk) ["approval_valid"])
  | .approvalReused => .refusal (deny .approvalReused
      "This approval has already been consumed by an earlier operation." (some risk)
      ["unspent_approval"])
  | .scope => .refusal (deny .scopeViolation
      "The approval does not cover exactly this operation's target." (some risk)
      ["approval_covers_operation"])
  | .approval | .approvalProvenance => .refusal (deny .approvalInvalid
      "The presented approval does not authorise this operation." (some risk) ["approval_valid"])
  | _ => .fault fault

def requireApproval (policy : SafetyPolicy) (operation : OperationPolicy)
    (request : OperationRequest) (context : SafetyContext) : Chain Unit :=
  let requirement := policy.approvalRequirement operation.effectRisk
  Chain.onlyIf requirement.required fun store =>
    match request.approvalId with
    | none => (.error (.refusal (deny .approvalRequired
        "This operation requires an approval and none was presented."
        (some operation.effectRisk) ["approval"])), store)
    | some approvalId =>
      match store.consume approvalId
          (approvalCheck operation.effectCapability requirement request context) with
      | .ok (_, after) => (.ok (), after)
      | .error fault => (.error (approvalRefusal operation.effectRisk fault), store)

/-- `_decide`. -/
def chain (policy : SafetyPolicy) (request : OperationRequest) (context : SafetyContext) :
    Chain PolicyDecision := do
  let operation ← operationPolicyRule request
  Chain.onlyIf operation.requiresArm (requireStopReleased operation context)
  Chain.onlyIf operation.requiresArm (requireArm operation request context)
  requirePermissions operation request context
  Chain.onlyIf operation.effectRisk.isDangerous
    (policy.requireApproval operation request context)
  pure (allow operation.effectRisk)

def policyFailure : PolicyDecision :=
  deny .policyFailure
    "The safety policy could not complete its evaluation; the operation is refused." none []

/-- The verdict, and the store the chain left. -/
def decide (policy : SafetyPolicy) (request : OperationRequest) (context : SafetyContext)
    (store : ApprovalStore) : PolicyDecision × ApprovalStore :=
  match policy.chain request context store with
  | (.ok decision, after) => (decision, after)
  | (.error (.refusal decision), after) => (decision, after)
  | (.error (.fault _), after) => (policyFailure, after)

end SafetyPolicy

/-! What a verdict says about the authority it was taken against. -/

namespace Chain

variable {Value Other : Type}

/-- An early end is a refusal that the store does not remember. -/
def Refuses (rule : Chain Value) : Prop :=
  ∀ store exit after, rule store = (.error exit, after) →
    after = store ∧ ∀ decision, exit = .refusal decision → decision.outcome = .deny

/-- The rule never changes the store. -/
def Reads (rule : Chain Value) : Prop := ∀ store, (rule store).2 = store

theorem bind_ok {rule : Chain Value} {next : Value → Chain Other} {store after : ApprovalStore}
    {value : Other} (passed : (rule >>= next) store = (.ok value, after)) :
    ∃ between middle, rule store = (.ok between, middle) ∧ next between middle = (.ok value, after) := by
  change (match rule store with
    | (.ok between, middle) => next between middle
    | (.error exit, middle) => (.error exit, middle)) = _ at passed
  split at passed
  · rename_i between middle ran
    exact ⟨between, middle, ran, passed⟩
  · cases passed

theorem Refuses.bind {rule : Chain Value} {next : Value → Chain Other} (refuses : Refuses rule)
    (reads : Reads rule) (rest : ∀ value, Refuses (next value)) : Refuses (rule >>= next) := by
  intro store exit after ended
  change (match rule store with
    | (.ok between, middle) => next between middle
    | (.error exit, middle) => (.error exit, middle)) = _ at ended
  have kept := reads store
  split at ended
  · rename_i between middle ran
    rw [ran] at kept
    have later := rest between middle exit after ended
    exact ⟨later.1.trans kept, later.2⟩
  · rename_i raised middle ran
    cases ended
    exact refuses store exit after ran

/-- A rule after which the chain only answers. -/
theorem Refuses.last {rule : Chain Value} (refuses : Refuses rule) (answer : Other) :
    Refuses (rule >>= fun _ => pure answer) := by
  intro store exit after ended
  change (match rule store with
    | (.ok _, middle) => ((.ok answer, middle) : Except Exit Other × ApprovalStore)
    | (.error exit, middle) => (.error exit, middle)) = _ at ended
  split at ended
  · cases ended
  · rename_i raised middle ran
    cases ended
    exact refuses store exit after ran

theorem Reads.kept {rule : Chain Value} {store after : ApprovalStore} {value : Value}
    (reads : Reads rule) (passed : rule store = (.ok value, after)) : after = store :=
  (congrArg Prod.snd passed).symm.trans (reads store)

theorem reads_guard (outcome : Except Exit Value) : Reads (guard outcome) := fun _ => rfl

theorem reads_refuseUnless (condition : Prop) [Decidable condition] (decision : PolicyDecision) :
    Reads (refuseUnless condition decision) := fun _ => rfl

theorem reads_onlyIf {rule : Chain Unit} (condition : Bool) (reads : Reads rule) :
    Reads (onlyIf condition rule) := by
  cases condition with
  | true => exact reads
  | false => exact fun _ => rfl

private theorem refuses_pure (value : Value) : Refuses (pure value) := by
  intro store exit after ended
  cases ended

theorem refuses_refuseUnless (condition : Prop) [Decidable condition] {decision : PolicyDecision}
    (denied : decision.outcome = .deny) : Refuses (refuseUnless condition decision) := by
  intro store exit after ended
  simp only [refuseUnless, guard, Prod.mk.injEq] at ended
  obtain ⟨refused, rfl⟩ := ended
  split at refused
  · cases refused
  · cases refused
    refine ⟨rfl, fun other same => ?_⟩
    cases same
    exact denied

theorem refuses_onlyIf {rule : Chain Unit} (condition : Bool) (refuses : Refuses rule) :
    Refuses (onlyIf condition rule) := by
  cases condition with
  | true => exact refuses
  | false => exact refuses_pure ()

theorem refuseUnless_ok {condition : Prop} [Decidable condition] {decision : PolicyDecision}
    {store after : ApprovalStore}
    (passed : refuseUnless condition decision store = (.ok (), after)) :
    condition ∧ after = store := by
  simp only [refuseUnless, guard, Prod.mk.injEq] at passed
  obtain ⟨held, rfl⟩ := passed
  split at held
  · exact ⟨by assumption, rfl⟩
  · cases held

theorem onlyIf_ok {rule : Chain Unit} {condition : Bool} {store after : ApprovalStore}
    (passed : onlyIf condition rule store = (.ok (), after)) :
    (condition = true → rule store = (.ok (), after)) ∧ (condition = false → after = store) := by
  cases condition with
  | true => exact ⟨fun _ => passed, fun skipped => (by cases skipped)⟩
  | false =>
    cases passed
    exact ⟨fun asked => (by cases asked), fun _ => rfl⟩

end Chain

namespace SafetyPolicy

variable {policy : SafetyPolicy} {operation : OperationPolicy} {request : OperationRequest}
  {context : SafetyContext} {store after : ApprovalStore}

private theorem refuses_requireArm : (requireArm operation request context).Refuses := by
  unfold requireArm
  split
  · exact Chain.refuses_refuseUnless _ rfl
  · intro store exit after ended
    cases ended
    exact ⟨rfl, fun _ same => by cases same; rfl⟩

theorem reads_requireArm : (requireArm operation request context).Reads := by
  unfold requireArm
  split
  · exact Chain.reads_refuseUnless _ _
  · exact Chain.reads_guard _

private theorem refuses_operationPolicyRule : (operationPolicyRule request).Refuses := by
  intro store exit after ended
  simp only [operationPolicyRule, Chain.guard, Prod.mk.injEq] at ended
  obtain ⟨refused, rfl⟩ := ended
  split at refused
  · cases refused
  · cases refused
    exact ⟨rfl, fun _ same => by cases same; rfl⟩

private theorem approvalRefusal_denies (risk : RiskLevel) (fault : SafetyFault)
    (decision : PolicyDecision) (refused : approvalRefusal risk fault = .refusal decision) :
    decision.outcome = .deny := by
  unfold approvalRefusal at refused
  split at refused <;> cases refused <;> rfl

private theorem refuses_requireApproval :
    (policy.requireApproval operation request context).Refuses := by
  apply Chain.refuses_onlyIf
  intro store exit after ended
  split at ended
  · cases ended
    exact ⟨rfl, fun _ same => by cases same; rfl⟩
  · dsimp only at ended
    split at ended
    · cases ended
    · cases ended
      exact ⟨rfl, fun decision same => approvalRefusal_denies _ _ decision same⟩

/-- No refusal follows a consumption: the approval is asked for last. -/
theorem refuses_chain : (policy.chain request context).Refuses := by
  refine .bind refuses_operationPolicyRule (Chain.reads_guard _) fun operation => ?_
  refine .bind (Chain.refuses_onlyIf _ (Chain.refuses_refuseUnless _ rfl))
    (Chain.reads_onlyIf _ (Chain.reads_refuseUnless _ _)) fun _ => ?_
  refine .bind (Chain.refuses_onlyIf _ refuses_requireArm)
    (Chain.reads_onlyIf _ reads_requireArm) fun _ => ?_
  refine .bind (Chain.refuses_refuseUnless _ rfl) (Chain.reads_refuseUnless _ _) fun _ => ?_
  exact Chain.Refuses.last (Chain.refuses_onlyIf _ refuses_requireApproval) _

/-- What backs an `ALLOW`. -/
structure Allowed (policy : SafetyPolicy) (operation : OperationPolicy)
    (request : OperationRequest) (context : SafetyContext) (store after : ApprovalStore) : Prop where
  classified : operationPolicy request.operationClass = .ok operation
  released : operation.requiresArm = true → context.emergencyStopEngaged = false
  armed : operation.requiresArm = true → context.armState = .armed ∧
    ∃ scope, context.armScope = some scope ∧ ∀ capability ∈ operation.requiredCapabilities,
      capability.isDangerous = true → scope.covers capability request.target context.now = true
  permitted : ∀ capability ∈ operation.requiredCapabilities,
    context.permissions.covers capability request.target context.now = true
  approved : operation.effectRisk.isDangerous = true →
    (policy.approvalRequirement operation.effectRisk).required = true →
    ∃ approvalId approval, request.approvalId = some approvalId ∧
      store.consume approvalId (approvalCheck operation.effectCapability
        (policy.approvalRequirement operation.effectRisk) request context) = .ok (approval, after)
  untouched : (operation.effectRisk.isDangerous = true →
    (policy.approvalRequirement operation.effectRisk).required = false) → after = store

private theorem sortedCapabilities_nil {capabilities : List Capability}
    (empty : sortedCapabilities capabilities = []) : capabilities = [] := by
  have permuted : (sortedCapabilities capabilities).Perm capabilities := List.perm_insertionSort _ _
  rw [empty] at permuted
  exact List.nil_perm.mp permuted

theorem requireArm_ok (passed : requireArm operation request context store = (.ok (), after)) :
    after = store ∧ context.armState = .armed ∧ ∃ scope, context.armScope = some scope ∧
      ∀ capability ∈ operation.requiredCapabilities, capability.isDangerous = true →
        scope.covers capability request.target context.now = true := by
  cases armed : context.armState with
  | disarmed => simp [requireArm, armed, Chain.guard] at passed
  | arming => simp [requireArm, armed, Chain.guard] at passed
  | armed =>
    cases held : context.armScope with
    | none => simp [requireArm, armed, held, Chain.guard] at passed
    | some scope =>
      simp only [requireArm, armed, held] at passed
      obtain ⟨covered, same⟩ := Chain.refuseUnless_ok passed
      refine ⟨same, rfl, scope, rfl, fun capability member dangerous => ?_⟩
      by_contra uncovered
      have empty := sortedCapabilities_nil covered
      refine List.filter_eq_nil_iff.mp empty capability ?_ ?_
      · exact List.mem_filter.mpr ⟨member, dangerous⟩
      · simpa using uncovered

private theorem requirePermissions_ok
    (passed : requirePermissions operation request context store = (.ok (), after)) :
    after = store ∧ ∀ capability ∈ operation.requiredCapabilities,
      context.permissions.covers capability request.target context.now = true := by
  obtain ⟨covered, same⟩ := Chain.refuseUnless_ok passed
  refine ⟨same, fun capability member => ?_⟩
  by_contra uncovered
  refine List.filter_eq_nil_iff.mp (sortedCapabilities_nil covered) capability member ?_
  simpa using uncovered

private theorem requireApproval_ok
    (passed : policy.requireApproval operation request context store = (.ok (), after)) :
    ((policy.approvalRequirement operation.effectRisk).required = true →
      ∃ approvalId approval, request.approvalId = some approvalId ∧
        store.consume approvalId (approvalCheck operation.effectCapability
          (policy.approvalRequirement operation.effectRisk) request context) =
            .ok (approval, after)) ∧
    ((policy.approvalRequirement operation.effectRisk).required = false → after = store) := by
  obtain ⟨asked, skipped⟩ := Chain.onlyIf_ok passed
  refine ⟨fun required => ?_, skipped⟩
  have ran := asked required
  split at ran
  · cases ran
  · rename_i approvalId presented
    split at ran
    · rename_i approval spent found
      cases ran
      exact ⟨approvalId, approval, presented, found⟩
    · cases ran

private theorem operationPolicyRule_ok
    (passed : operationPolicyRule request store = (.ok operation, after)) :
    operationPolicy request.operationClass = .ok operation ∧ after = store := by
  simp only [operationPolicyRule, Chain.guard, Prod.mk.injEq] at passed
  obtain ⟨found, rfl⟩ := passed
  split at found
  · rename_i classified
    cases found
    exact ⟨classified, rfl⟩
  · cases found

private theorem chain_ok {decision : PolicyDecision}
    (passed : policy.chain request context store = (.ok decision, after)) :
    ∃ operation, decision = allow operation.effectRisk ∧
      Allowed policy operation request context store after := by
  obtain ⟨operation, afterClass, classified, passed⟩ := Chain.bind_ok passed
  obtain ⟨_, afterStop, released, passed⟩ := Chain.bind_ok passed
  obtain ⟨_, afterArm, armed, passed⟩ := Chain.bind_ok passed
  obtain ⟨_, afterPermissions, permitted, passed⟩ := Chain.bind_ok passed
  obtain ⟨_, afterApproval, approved, passed⟩ := Chain.bind_ok passed
  cases passed
  obtain ⟨known, rfl⟩ := operationPolicyRule_ok classified
  have keptStop : afterStop = afterClass :=
    (Chain.reads_onlyIf _ (Chain.reads_refuseUnless _ _)).kept released
  have keptArm : afterArm = afterStop := (Chain.reads_onlyIf _ reads_requireArm).kept armed
  subst keptStop keptArm
  obtain ⟨rfl, covered⟩ := requirePermissions_ok permitted
  obtain ⟨asked, skipped⟩ := Chain.onlyIf_ok approved
  refine ⟨operation, rfl, known, ?_, ?_, covered, ?_, ?_⟩
  · intro arm
    exact (Chain.refuseUnless_ok ((Chain.onlyIf_ok released).1 arm)).1
  · intro arm
    exact (requireArm_ok ((Chain.onlyIf_ok armed).1 arm)).2
  · intro dangerous required
    exact (requireApproval_ok (asked dangerous)).1 required
  · intro unneeded
    cases dangerous : operation.effectRisk.isDangerous with
    | true => exact (requireApproval_ok (asked dangerous)).2 (unneeded dangerous)
    | false => exact skipped dangerous

/-- A verdict is an `ALLOW` with its whole authority, or a `DENY` that spent nothing. -/
theorem decide_cases {decision : PolicyDecision}
    (decided : policy.decide request context store = (decision, after)) :
    (∃ operation, decision = allow operation.effectRisk ∧
      Allowed policy operation request context store after) ∨
    decision.outcome = .deny ∧ after = store := by
  unfold decide at decided
  split at decided
  · rename_i passed
    cases decided
    exact .inl (chain_ok passed)
  · rename_i refused
    cases decided
    obtain ⟨same, denies⟩ := refuses_chain _ _ _ refused
    exact .inr ⟨denies _ rfl, same⟩
  · rename_i raised
    cases decided
    exact .inr ⟨rfl, (refuses_chain _ _ _ raised).1⟩

/-- What the validator of an approval has checked. -/
theorem approvalCheck_ok {capability : Capability} {requirement : ApprovalRequirement}
    {candidate : Approval}
    (passed : approvalCheck capability requirement request context candidate = .ok ()) :
    candidate.isExpired context.now = false ∧ candidate.capability = capability ∧
      (requirement.exactTargetRequired = true → candidate.target = request.target) ∧
      candidate.target.covers request.target = true ∧
      (requirement.singleUseRequired = true → candidate.singleUse = true) ∧
      (requirement.humanIssuerRequired = true → candidate.issuer = .humanOperator) ∧
      ∀ scope ∈ context.armScope, scope.target.covers candidate.target = true := by
  simp only [approvalCheck, require_bind_ok, require_ok] at passed
  obtain ⟨lasting, named, exact_, covered, single, human, inside⟩ := passed
  have aimed : requirement.exactTargetRequired = true → candidate.target = request.target := by
    intro required
    have matched := exact_ required
    simp only [Approval.exactlyMatches, Bool.and_eq_true, decide_eq_true_eq] at matched
    exact matched.2
  refine ⟨lasting, named, aimed, ?_, single, human, inside⟩
  cases required : requirement.exactTargetRequired with
  | true =>
    rw [aimed required]
    exact OperationTarget.covers_refl _
  | false =>
    have covers := covered required
    simp only [Approval.covers, Bool.and_eq_true] at covers
    exact covers.2

end SafetyPolicy

end CanX.Safety
