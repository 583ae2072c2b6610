import CanX.Safety.Effect
import CanX.Transition.Path

/-! An `ALLOW` is backed by the whole authority chain. -/

namespace CanX.Safety

open Transition

/-- Every stored approval was stored by a caller that may supply an authority. -/
def Provided (trace : List Entry) (kernel : SafetyKernel) : Prop :=
  ∀ approvalId record, kernel.approvals.get approvalId = some record →
    ∃ entry ∈ trace, ∃ caller, entry.Granted record.approval caller

section Run

variable {permissions : PermissionSet} {policy : SafetyPolicy} {trace : List Entry}
  {kernel next : SafetyKernel} {moment : Moment} {call : Call} {report : Report}

theorem Provided.step (provided : Provided trace kernel)
    (moved : kernel.step (moment, call) = some (next, report)) :
    Provided (trace ++ [((moment, call), report)]) next := by
  intro approvalId record found
  obtain ⟨rfl, rfl, effect⟩ := SafetyKernel.step_effect moved
  rcases effect.stored found with ⟨consumed, before, _⟩ | ⟨_, caller, granted⟩
  · obtain ⟨entry, member, caller, granted⟩ := provided approvalId _ before
    exact ⟨entry, List.mem_append_left _ member, caller, granted⟩
  · exact ⟨_, List.mem_append_right _ (List.mem_singleton_self _), caller, granted⟩

theorem run_provided
    (path : Path SafetyKernel.step anyLabel (SafetyKernel.start permissions policy) trace kernel) :
    Provided trace kernel := by
  refine path.preserves_trace Provided ?_ ?_
  · intro approvalId record found
    cases found
  · rintro trace state ⟨moment, call⟩ next output _ provided _ moved
    exact provided.step moved

theorem run_fixed
    (path : Path SafetyKernel.step anyLabel (SafetyKernel.start permissions policy) trace kernel) :
    kernel.permissions = permissions ∧ kernel.policy = policy := by
  refine path.preserves (fun state => state.permissions = permissions ∧ state.policy = policy) ?_
    ⟨rfl, rfl⟩
  rintro state ⟨moment, call⟩ next output fixed _ moved
  obtain ⟨_, _, effect⟩ := SafetyKernel.step_effect moved
  exact ⟨effect.fixed.1.trans fixed.1, effect.fixed.2.trans fixed.2⟩

end Run

namespace SafetyKernel

variable {kernel next : SafetyKernel} {moment : Moment} {request : OperationRequest}
  {report : Report} {decision : PolicyDecision}

/-- What a verdict was taken against. -/
theorem context_ok {context : SafetyContext} (consulted : kernel.context moment = .ok context) :
    moment.now = .ok context.now ∧ context.armState = kernel.armController.state ∧
      kernel.armController.activeScope moment.scopeNow = .ok context.armScope ∧
      context.permissions = kernel.permissions ∧
      context.emergencyStopEngaged = kernel.emergency.engaged := by
  cases now : moment.now with
  | error fault => simp [SafetyKernel.context, now, bind, Except.bind] at consulted
  | ok reading =>
    cases active : kernel.armController.activeScope moment.scopeNow with
    | error fault => simp [SafetyKernel.context, now, active, bind, Except.bind] at consulted
    | ok scope =>
      simp only [SafetyKernel.context, now, active, bind, Except.bind, pure, Except.pure,
        Except.ok.injEq] at consulted
      subst consulted
      exact ⟨rfl, rfl, rfl, rfl, rfl⟩

/-- An evaluation that answered took its verdict from the policy. -/
theorem Effect.told {reply : Reply Outcome} (effect : Effect kernel moment (.evaluate request) reply)
    (answered : reply.result = .ok (.decision decision)) :
    ∃ context, kernel.context moment = .ok context ∧
      kernel.policy.decide request context kernel.approvals = (decision, reply.kernel.approvals) := by
  cases effect with
  | decided consulted verdict told =>
    cases told _ answered
    exact ⟨_, consulted, verdict⟩
  | refused => cases answered
  | kept asks => cases asks
  | disarmed disarms => cases disarms
  | dropped drops => cases drops
  | cleared clears => cases clears

/-- An `ALLOW` that was handed back was taken against its whole authority. -/
theorem allowed_of_verdict {operation : OperationPolicy}
    (moved : kernel.step (moment, .evaluate request) = some (next, report))
    (answered : report.result = .ok (.decision decision)) (permit : decision.outcome = .allow)
    (classified : operationPolicy request.operationClass = .ok operation) :
    ∃ context, kernel.context moment = .ok context ∧
      SafetyPolicy.Allowed kernel.policy operation request context kernel.approvals
        next.approvals := by
  obtain ⟨context, consulted, verdict⟩ := (step_effect moved).2.2.told answered
  rcases SafetyPolicy.decide_cases verdict with ⟨known, _, allowed⟩ | ⟨denied, _⟩
  · have same : known = operation := Except.ok.inj (allowed.classified.symm.trans classified)
    exact ⟨context, consulted, same ▸ allowed⟩
  · rw [permit] at denied
    cases denied

end SafetyKernel

/-- The approval that backs a dangerous effect. -/
structure Backed (trace : List Entry) (kernel : SafetyKernel) (now : PyFloat) (scope : ArmScope)
    (request : OperationRequest) (operation : OperationPolicy) (approvalId : AuditIdentifier)
    (approval : Approval) : Prop where
  presented : request.approvalId = some approvalId
  unspent : kernel.approvals.get approvalId = some ⟨approval, false⟩
  lasting : approval.isExpired now = false
  named : approval.capability = operation.effectCapability
  aimed : approval.target = request.target
  inside : scope.target.covers approval.target = true
  single : (standardPolicy.approvalRequirement operation.effectRisk).singleUseRequired = true →
    approval.singleUse = true
  human : (standardPolicy.approvalRequirement operation.effectRisk).humanIssuerRequired = true →
    approval.issuer = .humanOperator
  provided : ∃ entry ∈ trace, ∃ caller, entry.Granted approval caller ∧
    (caller.kind = .humanUi ∨ caller.kind = .system)

/-- The authority a request is granted on, at the instant its verdict is taken. -/
structure Authorised (trace : List Entry) (permissions : PermissionSet) (kernel : SafetyKernel)
    (moment : Moment) (request : OperationRequest) (operation : OperationPolicy) (now : PyFloat)
    (scope : ArmScope) : Prop where
  read : moment.now = .ok now
  released : kernel.emergency.engaged = false
  armed : kernel.armController = ⟨.armed, some scope⟩
  lasting : scope.isExpired now = false
  live : ∃ later, moment.scopeNow = .ok later ∧ scope.isExpired later = false
  contained : ∀ capability ∈ operation.requiredCapabilities, capability.isDangerous = true →
    capability ∈ scope.capabilities
  covering : scope.target.covers request.target = true
  permitted : ∀ capability ∈ operation.requiredCapabilities,
    permissions.covers capability request.target now = true
  backed : operation.effectRisk.isDangerous = true →
    ∃ approvalId approval, Backed trace kernel now scope request operation approvalId approval

/-- The default table asks for an approval of exactly the target at every dangerous level. -/
theorem standardPolicy_demands {risk : RiskLevel} (dangerous : risk.isDangerous = true) :
    (standardPolicy.approvalRequirement risk).required = true ∧
      (standardPolicy.approvalRequirement risk).exactTargetRequired = true := by
  cases risk <;> first | exact ⟨rfl, rfl⟩ | cases dangerous

private theorem authorityBearing_kinds {kind : CallerKind} (bears : kind.authorityBearing = true) :
    kind = .humanUi ∨ kind = .system := by
  cases kind with
  | humanUi => exact .inl rfl
  | system => exact .inr rfl
  | agent | script | automation => cases bears

private theorem allowed_backed {trace : List Entry} {kernel : SafetyKernel} {request : OperationRequest}
    {context : SafetyContext} {operation : OperationPolicy} {after : ApprovalStore}
    {scope : ArmScope} (provided : Provided trace kernel) (active : context.armScope = some scope)
    (dangerous : operation.effectRisk.isDangerous = true)
    (allowed : SafetyPolicy.Allowed standardPolicy operation request context kernel.approvals after) :
    ∃ approvalId approval,
      Backed trace kernel context.now scope request operation approvalId approval := by
  obtain ⟨required, exactly⟩ := standardPolicy_demands dangerous
  obtain ⟨approvalId, approval, presented, spent⟩ := allowed.approved dangerous required
  obtain ⟨unspent, checked, _⟩ := ApprovalStore.consume_ok spent
  obtain ⟨lasting, named, aimed, _, single, human, inside⟩ := SafetyPolicy.approvalCheck_ok checked
  obtain ⟨entry, member, caller, granted⟩ := provided approvalId _ unspent
  exact ⟨approvalId, approval, presented, unspent, lasting, named, aimed exactly,
    inside scope active, single, human, entry, member, caller, granted,
    authorityBearing_kinds granted.bears⟩

theorem allow_authorised {permissions : PermissionSet} {trace : List Entry}
    {kernel next : SafetyKernel} {moment : Moment} {request : OperationRequest} {report : Report}
    {decision : PolicyDecision} {operation : OperationPolicy}
    (path : Path SafetyKernel.step anyLabel (SafetyKernel.start permissions standardPolicy) trace kernel)
    (moved : kernel.step (moment, .evaluate request) = some (next, report))
    (answered : report.result = .ok (.decision decision)) (permit : decision.outcome = .allow)
    (classified : operationPolicy request.operationClass = .ok operation)
    (vehicle : operation.requiresArm = true) :
    ∃ now scope, Authorised trace permissions kernel moment request operation now scope := by
  obtain ⟨context, consulted, allowed⟩ :=
    SafetyKernel.allowed_of_verdict moved answered permit classified
  obtain ⟨read, state, active, held, engaged⟩ := SafetyKernel.context_ok consulted
  obtain ⟨fixedPermissions, fixedPolicy⟩ := run_fixed path
  rw [fixedPolicy] at allowed
  obtain ⟨_, scope, attached, covers⟩ := allowed.armed vehicle
  rw [attached] at active
  obtain ⟨armed, kept, later, readLater, unexpired⟩ := ArmController.activeScope_ok active
  -- An operation that needs the arm state transmits, so its scope was compared.
  have transmits := operation.requiresArm_iff.mp vehicle
  obtain ⟨lasting, _, covering⟩ := ArmScope.covers_iff.mp (covers _ transmits rfl)
  refine ⟨context.now, scope, read, engaged ▸ allowed.released vehicle, ?_, lasting,
    ⟨later, readLater, unexpired⟩, ?_, covering, ?_, ?_⟩
  · rw [← armed, ← kept]
  · intro capability member dangerous
    exact (ArmScope.covers_iff.mp (covers capability member dangerous)).2.1
  · intro capability member
    have permitted := allowed.permitted capability member
    rwa [held, fixedPermissions] at permitted
  · intro dangerous
    exact allowed_backed (run_provided path) attached dangerous allowed

def sampleIdentifier : AuditIdentifier := ⟨"operator.1", by decide +kernel⟩

def sampleDigest : Sha256Digest := ⟨String.ofList (List.replicate 64 '0'), by decide +kernel⟩

def operator : CallerIdentity := ⟨.humanUi, sampleIdentifier⟩

/-- Any device, channel and address. -/
def anywhere : OperationTarget := ⟨none, none, none, by simp⟩

def sampleScope : ArmScope :=
  ⟨[.canTx], anywhere, 0, 10, by decide, by decide, by decide +kernel⟩

def samplePermissions : PermissionSet :=
  [⟨[.canTx], anywhere, some (.finite 10), by decide, by decide, fun _ => rfl⟩]

def sampleSpec : ApprovalSpec :=
  ⟨sampleIdentifier, .canTx, anywhere, 0, 10, true, by decide +kernel⟩

def sampleTransmit : OperationRequest :=
  ⟨sampleIdentifier, "bus.transmit", operator, anywhere, 1, some sampleIdentifier, none⟩

/-- A call during which the environment answers honestly, at time 1. -/
def honest : Moment :=
  ⟨.ok (.finite 1), .ok (.finite 1), .ok (.finite 1), .ok (.finite 1), .ok sampleIdentifier,
    .ok "{}", .ok sampleDigest, true⟩

/-- An operator arms the runtime and approves a transmission. -/
def authorising : List (Moment × Call) :=
  [(honest, .arm sampleScope operator), (honest, .confirmArm operator),
    (honest, .grantApproval sampleSpec operator)]

def answered (kernel : SafetyKernel) : Option (Except SafetyFault Outcome) :=
  (kernel.step (honest, .evaluate sampleTransmit)).map (·.2.result)

theorem allow_authorised_transmit :
    ∃ trace kernel next report now scope,
      Path SafetyKernel.step anyLabel (SafetyKernel.start samplePermissions standardPolicy)
        trace kernel ∧
      kernel.step (honest, .evaluate sampleTransmit) = some (next, report) ∧
      Authorised trace samplePermissions kernel honest sampleTransmit
        (operationPolicies .busTransmit) now scope := by
  have evaluated : (follow SafetyKernel.step (SafetyKernel.start samplePermissions standardPolicy)
      authorising).map (fun reached => answered reached.1) =
        some (some (.ok (.decision (allow .tx)))) := by
    decide +kernel
  obtain ⟨trace, kernel, path, seen⟩ :=
    Path.observed authorising answered _ (fun _ _ _ => trivial) evaluated
  obtain ⟨⟨next, report⟩, moved, told⟩ := Option.map_eq_some_iff.mp seen
  have classified : operationPolicy sampleTransmit.operationClass =
      .ok (operationPolicies .busTransmit) := by
    decide +kernel
  obtain ⟨now, scope, authorised⟩ := allow_authorised path moved told rfl classified rfl
  exact ⟨trace, kernel, next, report, now, scope, path, moved, authorised⟩

/-- Armed and without an approval, the same request is denied. -/
example : (follow SafetyKernel.step (SafetyKernel.start samplePermissions standardPolicy) (authorising.take 2)).map
    (fun reached => answered reached.1) = some (some (.ok (.decision (deny .approvalInvalid
      "The presented approval does not authorise this operation." (some .tx) ["approval_valid"])))) := by
  decide +kernel

end CanX.Safety
