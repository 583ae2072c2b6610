import CanX.Safety.Audit

/-! The safety kernel: every public call as a function of the kernel and of what the
environment answers during the call. -/

namespace CanX.Safety

/-- The control actions that move authority, each with its fixed record. -/
inductive ControlAction where
  | armRequested
  | armConfirmed
  | disarm
  | approvalGranted
  | emergencyStopEngaged
  | emergencyStopReleased
  deriving DecidableEq

namespace ControlAction

def value : ControlAction → String
  | armRequested => "arm.requested"
  | armConfirmed => "arm.confirmed"
  | disarm => "disarm"
  | approvalGranted => "approval.granted"
  | emergencyStopEngaged => "emergency_stop.engaged"
  | emergencyStopReleased => "emergency_stop.released"

def reasonCode : ControlAction → SafetyReason
  | armRequested | armConfirmed | approvalGranted => .allowed
  | disarm => .notArmed
  | emergencyStopEngaged | emergencyStopReleased => .emergencyStop

def message : ControlAction → String
  | armRequested => "Arming was requested with a bounded scope."
  | armConfirmed => "The runtime is armed within its scope."
  | disarm => "The runtime was disarmed."
  | approvalGranted => "An approval was recorded for this session."
  | emergencyStopEngaged => "The global emergency stop was engaged."
  | emergencyStopReleased => "The emergency stop was released."

/-- `f"kernel.{action}"`. -/
def operationId (action : ControlAction) : AuditIdentifier :=
  ⟨"kernel." ++ action.value, by cases action <;> decide +kernel⟩

theorem operationId_injective {first second : ControlAction}
    (same : first.operationId = second.operationId) : first = second := by
  revert same
  cases first <;> cases second <;> decide +kernel

end ControlAction

/-- The kernel's authority state, and its calls of `engage` in progress, innermost first. -/
structure SafetyKernel where
  armController : ArmController
  approvals : ApprovalStore
  emergency : EmergencyStopState
  cancellers : List AuditIdentifier
  permissions : PermissionSet
  policy : SafetyPolicy
  engagements : List Engagement

/-- What one call answers, the kernel it leaves and the event the sink accepted. -/
structure Reply (Value : Type) where
  result : Except SafetyFault Value
  kernel : SafetyKernel
  recorded : Option SafetyAuditEvent

def Reply.map {Value Other : Type} (wrap : Value → Other) (reply : Reply Value) : Reply Other :=
  ⟨reply.result.map wrap, reply.kernel, reply.recorded⟩

/-- Everything that keeps an event from being prepared is an audit fault. -/
def prepared (message : String) :
    Except SafetyFault SafetyAuditEvent → Except SafetyFault SafetyAuditEvent
  | .ok event => .ok event
  | .error _ => .error ⟨.audit, message⟩

/-- `_write`. -/
def write (moment : Moment) (event : SafetyAuditEvent) : Except SafetyFault SafetyAuditEvent :=
  if moment.sinkAccepts then .ok event
  else .error ⟨.audit, "The safety decision could not be recorded; it is not handed back."⟩

def restoreEngagement (state : EmergencyStopState) : Except SafetyFault EmergencyStopState := do
  require (state.engaged = true) ⟨.state, "Only an engaged stop state can be restored."⟩
  pure state

def requireArmAuthority (caller : CallerIdentity) : Except SafetyFault Unit :=
  require (caller.mayControlArm = true)
    ⟨.caller, "An Agent, script or automation rule may not control the arm state."⟩

/-- Also the first check of `reset`. -/
def requireReleaseAuthority (caller : CallerIdentity) : Except SafetyFault Unit :=
  require (caller.mayReleaseEmergencyStop = true)
    ⟨.caller, "Only a human operator or the host system may release the emergency stop."⟩

namespace SafetyKernel

variable {Value : Type}

/-- A new kernel: no authority but the permissions it was handed. -/
def start (permissions : PermissionSet) (policy : SafetyPolicy) : SafetyKernel :=
  ⟨.disarmed, .empty, .released, [], permissions, policy, []⟩

def requireEmergencyStopReleased (kernel : SafetyKernel) : Except SafetyFault Unit :=
  require (kernel.emergency.engaged = false)
    ⟨.emergencyStop, "The global emergency stop is engaged; no dangerous authority may be " ++
      "established or pre-staged while the runtime is stopped."⟩

/-- A call that ends with an exception before anything is recorded. -/
def refused (kernel : SafetyKernel) (fault : SafetyFault) : Reply Value :=
  ⟨.error fault, kernel, none⟩

/-- A call that answers if its event is recorded and raises otherwise; nothing is undone. -/
def answering (kernel : SafetyKernel) (record : Except SafetyFault SafetyAuditEvent)
    (answer : Value) : Reply Value :=
  match record with
  | .ok event => ⟨.ok answer, kernel, some event⟩
  | .error fault => kernel.refused fault

def recordControl (kernel : SafetyKernel) (moment : Moment) (action : ControlAction)
    (caller : CallerIdentity) (detail : Option String) (reasonDigest : Option Sha256Digest) :
    Except SafetyFault SafetyAuditEvent := do
  let event ← prepared "The safety control event could not be prepared; the action is not recorded."
    (do
      let eventId ← moment.eventId
      let recordedAt ← moment.recordedAt
      SafetyAuditEvent.make
        { eventId, recordedAt
          callerKind := caller.kind.value
          callerId := caller.callerId
          operationId := action.operationId
          operationClass := "safety.control"
          riskLevel := none
          deviceId := none
          channel := none
          targetAddress := none
          decision := "control"
          reasonCode := action.reasonCode.value
          message := action.message
          detail
          approvalId := none
          parametersDigest := none
          reasonDigest
          armState := kernel.armController.state.value
          armScopeExpired := none
          emergencyStopEngaged := kernel.emergency.engaged
          outcome := "control" })
  write moment event

/-- Whether the scope held has lapsed; the clock is read only if one is. -/
def armScopeExpired (kernel : SafetyKernel) (now : Reading) : Except SafetyFault (Option Bool) :=
  match kernel.armController.scope with
  | none => .ok none
  | some scope => do
    let reading ← now
    pure (some (scope.isExpired reading))

def recordDecision (kernel : SafetyKernel) (moment : Moment) (request : OperationRequest)
    (decision : PolicyDecision) : Except SafetyFault SafetyAuditEvent := do
  let event ← prepared "The safety decision could not be prepared; it is not handed back."
    (do
      let eventId ← moment.eventId
      let recordedAt ← moment.recordedAt
      let armScopeExpired ← kernel.armScopeExpired moment.scopeRecordedAt
      SafetyAuditEvent.make
        { eventId, recordedAt
          callerKind := request.caller.kind.value
          callerId := request.caller.callerId
          operationId := request.operationId
          operationClass := request.operationClass
          riskLevel := decision.riskLevel.map RiskLevel.value
          deviceId := request.target.deviceId
          channel := request.target.channel
          targetAddress := request.target.targetAddress
          decision := decision.outcome.value
          reasonCode := decision.reasonCode.value
          message := decision.message
          detail := none
          approvalId := request.approvalId
          parametersDigest := request.parametersDigest
          reasonDigest := none
          armState := kernel.armController.state.value
          armScopeExpired
          emergencyStopEngaged := kernel.emergency.engaged
          outcome := "decision" })
  write moment event

def rollbackFailed : SafetyFault :=
  ⟨.rollback, "An authority change could not be audited and could not be rolled " ++
    "back; the runtime safety state can no longer be trusted."⟩

def notCommitted : SafetyFault :=
  ⟨.audit, "The authority change could not be committed to the safety audit " ++
    "trail; it has been rolled back and is not handed back."⟩

/-- `_commit_authority_change_with_audit` and `_roll_back_authority`. -/
def commitWithAudit (changed : SafetyKernel) (record : Except SafetyFault SafetyAuditEvent)
    (rollback : Except SafetyFault SafetyKernel) (answer : Value) : Reply Value :=
  match record with
  | .ok event => ⟨.ok answer, changed, some event⟩
  | .error fault =>
    match rollback with
    | .error _ => changed.refused rollbackFailed
    | .ok restored => restored.refused (if fault.kind = .audit then fault else notCommitted)

def disarmed (kernel : SafetyKernel) : SafetyKernel :=
  { kernel with armController := .disarmed }

def requestArm (kernel : SafetyKernel) (moment : Moment) (scope : ArmScope)
    (caller : CallerIdentity) : Except SafetyFault ArmController := do
  requireArmAuthority caller
  kernel.requireEmergencyStopReleased
  kernel.armController.request scope moment.now

def arm (kernel : SafetyKernel) (moment : Moment) (scope : ArmScope) (caller : CallerIdentity) :
    Reply ArmState :=
  match kernel.requestArm moment scope caller with
  | .error fault => kernel.refused fault
  | .ok armController =>
    let changed := { kernel with armController }
    changed.commitWithAudit
      (do
        let detail ← moment.rendered
        changed.recordControl moment .armRequested caller (some detail) none)
      (.ok changed.disarmed) armController.state

def requireConfirmation (kernel : SafetyKernel) (caller : CallerIdentity) :
    Except SafetyFault Unit := do
  requireArmAuthority caller
  kernel.requireEmergencyStopReleased

def confirmArm (kernel : SafetyKernel) (moment : Moment) (caller : CallerIdentity) :
    Reply ArmState :=
  match kernel.requireConfirmation caller, kernel.armController.confirm moment.now with
  | .error fault, _ => kernel.refused fault
  | .ok (), (armController, .error fault) => { kernel with armController }.refused fault
  | .ok (), (armController, .ok ()) =>
    let changed := { kernel with armController }
    changed.commitWithAudit (changed.recordControl moment .armConfirmed caller none none)
      (.ok changed.disarmed) armController.state

/-- The reason is digested after the machine is disarmed, and may raise there. -/
def disarm (kernel : SafetyKernel) (moment : Moment) (caller : CallerIdentity) : Reply ArmState :=
  kernel.disarmed.answering
    (do
      let reasonDigest ← moment.reasonDigest
      kernel.disarmed.recordControl moment .disarm caller none (some reasonDigest))
    .disarmed

/-- The approval a grant stores, and the store that holds it. -/
def grantStored (kernel : SafetyKernel) (spec : ApprovalSpec) (grantedBy : CallerIdentity) :
    Except SafetyFault (Approval × ApprovalStore) := do
  require (grantedBy.mayIssueApproval = true) callerRefused
  kernel.requireEmergencyStopReleased
  let issuer ← issuerFor grantedBy
  let approvals ← kernel.approvals.grant ⟨spec, issuer⟩ grantedBy
  pure (⟨spec, issuer⟩, approvals)

def grantApproval (kernel : SafetyKernel) (moment : Moment) (spec : ApprovalSpec)
    (grantedBy : CallerIdentity) : Reply Approval :=
  match kernel.grantStored spec grantedBy with
  | .error fault => kernel.refused fault
  | .ok (approval, approvals) =>
    let changed := { kernel with approvals }
    changed.commitWithAudit
      (do
        let detail ← moment.rendered
        changed.recordControl moment .approvalGranted grantedBy (some detail) none)
      (.ok { changed with approvals := (approvals.revoke approval.approvalId).1 }) approval

def revokeApproval (kernel : SafetyKernel) (approvalId : AuditIdentifier) : Reply Bool :=
  let (approvals, held) := kernel.approvals.revoke approvalId
  ⟨.ok held, { kernel with approvals }, none⟩

/-- The authority a verdict is taken against; the clock is read up to twice. -/
def context (kernel : SafetyKernel) (moment : Moment) : Except SafetyFault SafetyContext := do
  let now ← moment.now
  let armScope ← kernel.armController.activeScope moment.scopeNow
  pure ⟨now, kernel.armController.state, armScope, kernel.permissions, kernel.emergency.engaged⟩

def evaluate (kernel : SafetyKernel) (moment : Moment) (request : OperationRequest) :
    Reply PolicyDecision :=
  match kernel.context moment with
  | .error fault => kernel.refused fault
  | .ok context =>
    let (decision, approvals) := kernel.policy.decide request context kernel.approvals
    let changed := { kernel with approvals }
    changed.answering (changed.recordDecision moment request decision) decision

def registerCanceller (kernel : SafetyKernel) (cancellerId : String) : Reply Unit :=
  match validateAuditIdentifier cancellerId "canceller identifier" with
  | .error fault => kernel.refused fault
  | .ok validated => ⟨.ok (), { kernel with cancellers := kernel.cancellers ++ [validated] }, none⟩

/-- `engage_emergency_stop` up to its cancellation fan-out. -/
def engageEmergencyStop (kernel : SafetyKernel) (moment : Moment) (caller : CallerIdentity) :
    SafetyKernel :=
  let reasonDigest := moment.reasonDigest.toOption
  { kernel with
    armController := .disarmed
    emergency := if kernel.emergency.engaged then kernel.emergency
      else ⟨true, readEngagedAt moment.now, reasonDigest, [], []⟩
    engagements := ⟨caller, reasonDigest, kernel.cancellers, [], []⟩ :: kernel.engagements }

/-- The next canceller of the innermost engagement answers. -/
def cancellerAnswered (kernel : SafetyKernel) (answer : CancellerAnswer) : Option SafetyKernel :=
  match kernel.engagements with
  | [] => none
  | engagement :: outer =>
    match engagement.remaining with
    | [] => none
    | cancellerId :: remaining =>
      some { kernel with
        engagements := { engagement with remaining }.heard cancellerId answer :: outer }

/-- `engage_emergency_stop` from the end of its fan-out. -/
def engagementReturned (kernel : SafetyKernel) (moment : Moment) :
    Option (Reply EmergencyStopState) :=
  match kernel.engagements with
  | [] => none
  | engagement :: outer =>
    match engagement.remaining with
    | _ :: _ => none
    | [] =>
      let emergency := { kernel.emergency with
        requestedCancellations := engagement.requested
        cancellationFailures := engagement.failures }
      let changed := { kernel with emergency, approvals := .empty, engagements := outer }
      some (changed.answering
        (do
          let detail ← moment.rendered
          changed.recordControl moment .emergencyStopEngaged engagement.caller (some detail)
            engagement.reasonDigest)
        emergency)

def released (kernel : SafetyKernel) : SafetyKernel :=
  { kernel with armController := .disarmed, approvals := .empty, emergency := .released }

def releaseEmergencyStop (kernel : SafetyKernel) (moment : Moment) (caller : CallerIdentity) :
    Reply EmergencyStopState :=
  match requireReleaseAuthority caller with
  | .error fault => kernel.refused fault
  | .ok () =>
    kernel.released.commitWithAudit
      (kernel.released.recordControl moment .emergencyStopReleased caller none none)
      (do
        let emergency ← restoreEngagement kernel.emergency
        pure { kernel.released with emergency })
      .released

/-- A call on the store that `approvals` exposes. -/
def withStore (kernel : SafetyKernel) (outcome : Except SafetyFault (Value × ApprovalStore)) :
    Reply Value :=
  match outcome with
  | .error fault => kernel.refused fault
  | .ok (answer, approvals) => ⟨.ok answer, { kernel with approvals }, none⟩

end SafetyKernel

/-- The public surface: the kernel's methods, and those of the store it exposes. An
engagement is its beginning, one answer for each canceller, and its return. -/
inductive Call where
  | arm (scope : ArmScope) (caller : CallerIdentity)
  | confirmArm (caller : CallerIdentity)
  | disarm (caller : CallerIdentity)
  | grantApproval (spec : ApprovalSpec) (grantedBy : CallerIdentity)
  | revokeApproval (approvalId : AuditIdentifier)
  | evaluate (request : OperationRequest)
  | registerCanceller (cancellerId : String)
  | engageEmergencyStop (caller : CallerIdentity)
  | cancellerAnswered (answer : CancellerAnswer)
  | engagementReturned
  | releaseEmergencyStop (caller : CallerIdentity)
  | storeGrant (approval : Approval) (grantedBy : CallerIdentity)
  | storeConsume (approvalId : AuditIdentifier) (check : Approval → Except SafetyFault Unit)
  | storeRevoke (approvalId : AuditIdentifier)
  | storeClear

inductive Outcome where
  | armState (state : ArmState)
  | approval (approval : Approval)
  | held (held : Bool)
  | decision (decision : PolicyDecision)
  | stop (state : EmergencyStopState)
  | nothing
  deriving DecidableEq

/-- What a call was seen to do. -/
structure Report where
  before : SafetyKernel
  after : SafetyKernel
  result : Except SafetyFault Outcome
  recorded : Option SafetyAuditEvent

namespace SafetyKernel

/-- The kernel's lock is free, or held by an engagement that is asking a canceller,
which may call back. -/
def callable (kernel : SafetyKernel) : Bool :=
  match kernel.engagements with
  | [] => true
  | engagement :: _ => !engagement.remaining.isEmpty

def perform (kernel : SafetyKernel) (moment : Moment) : Call → Option (Reply Outcome)
  | .arm scope caller => some ((kernel.arm moment scope caller).map .armState)
  | .confirmArm caller => some ((kernel.confirmArm moment caller).map .armState)
  | .disarm caller => some ((kernel.disarm moment caller).map .armState)
  | .grantApproval spec grantedBy => some ((kernel.grantApproval moment spec grantedBy).map .approval)
  | .revokeApproval approvalId => some ((kernel.revokeApproval approvalId).map .held)
  | .evaluate request => some ((kernel.evaluate moment request).map .decision)
  | .registerCanceller cancellerId => some ((kernel.registerCanceller cancellerId).map fun _ => .nothing)
  | .engageEmergencyStop caller => some ⟨.ok .nothing, kernel.engageEmergencyStop moment caller, none⟩
  | .cancellerAnswered answer =>
    (kernel.cancellerAnswered answer).map fun heard => ⟨.ok .nothing, heard, none⟩
  | .engagementReturned => (kernel.engagementReturned moment).map (·.map .stop)
  | .releaseEmergencyStop caller => some ((kernel.releaseEmergencyStop moment caller).map .stop)
  | .storeGrant approval grantedBy =>
    some ((kernel.withStore ((kernel.approvals.grant approval grantedBy).map ((), ·))).map
      fun _ => .nothing)
  | .storeConsume approvalId check =>
    some ((kernel.withStore (kernel.approvals.consume approvalId check)).map .approval)
  | .storeRevoke approvalId =>
    let (approvals, held) := kernel.approvals.revoke approvalId
    some ⟨.ok (.held held), { kernel with approvals }, none⟩
  | .storeClear => some ⟨.ok .nothing, { kernel with approvals := .empty }, none⟩

end SafetyKernel

/-- The calls that take the kernel's lock. -/
def Call.locks : Call → Bool
  | .arm .. | .confirmArm _ | .disarm _ | .grantApproval .. | .revokeApproval _ | .evaluate _
  | .engageEmergencyStop _ | .releaseEmergencyStop _ => true
  | _ => false

def SafetyKernel.step (kernel : SafetyKernel) (label : Moment × Call) :
    Option (SafetyKernel × Report) :=
  if label.2.locks = true ∧ kernel.callable = false then none
  else (kernel.perform label.1 label.2).map fun reply =>
    (reply.kernel, ⟨kernel, reply.kernel, reply.result, reply.recorded⟩)

end CanX.Safety
