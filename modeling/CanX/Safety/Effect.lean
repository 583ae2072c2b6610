import CanX.Safety.Kernel

/-! What one call can do to the authority a kernel holds, said once for every call. -/

namespace CanX.Safety

namespace Call

def asks : Call → Bool
  | .registerCanceller _ | .cancellerAnswered _ => true
  | _ => false

def disarms : Call → Bool
  | .arm .. | .confirmArm _ | .disarm _ => true
  | _ => false

def drops : Call → Bool
  | .grantApproval .. | .revokeApproval _ | .storeRevoke _ => true
  | _ => false

def clears : Call → Bool
  | .engagementReturned | .storeClear => true
  | _ => false

end Call

namespace SafetyKernel

/-- Every way a call can end. A case with a reduction covers the calls that reduce and
the calls that undo what they could not record. -/
inductive Effect (kernel : SafetyKernel) (moment : Moment) : Call → Reply Outcome → Prop where
  | refused {call fault} : Effect kernel moment call (kernel.refused fault)
  | kept {call engagements cancellers} (asks : call.asks = true)
      (nested : kernel.engagements = [] ↔ engagements = []) :
      Effect kernel moment call ⟨.ok .nothing, { kernel with engagements, cancellers }, none⟩
  | disarmed {call result recorded} (disarms : call.disarms = true) :
      Effect kernel moment call ⟨result, kernel.disarmed, recorded⟩
  | arming {scope caller event} (idle : kernel.armController.state = .disarmed)
      (free : kernel.emergency.engaged = false)
      (audited : event.operationId = ControlAction.armRequested.operationId) :
      Effect kernel moment (.arm scope caller)
        ⟨.ok (.armState .arming), { kernel with armController := ⟨.arming, some scope⟩ }, some event⟩
  | armed {scope caller event} (pending : kernel.armController = ⟨.arming, some scope⟩)
      (free : kernel.emergency.engaged = false)
      (audited : event.operationId = ControlAction.armConfirmed.operationId) :
      Effect kernel moment (.confirmArm caller)
        ⟨.ok (.armState .armed), { kernel with armController := ⟨.armed, some scope⟩ }, some event⟩
  | granted {spec grantedBy issuer event} (free : kernel.emergency.engaged = false)
      (bears : grantedBy.kind.authorityBearing = true) (issued : issuerFor grantedBy = .ok issuer)
      (audited : event.operationId = ControlAction.approvalGranted.operationId) :
      Effect kernel moment (.grantApproval spec grantedBy)
        ⟨.ok (.approval ⟨spec, issuer⟩),
          { kernel with approvals := kernel.approvals.put ⟨⟨spec, issuer⟩, false⟩ }, some event⟩
  | dropped {call result approvalId} (drops : call.drops = true)
      (quiet : ∀ outcome, result = .ok outcome → ∃ held, outcome = .held held) :
      Effect kernel moment call
        ⟨result, { kernel with approvals := kernel.approvals.drop approvalId }, none⟩
  | decided {request context decision approvals result recorded}
      (consulted : kernel.context moment = .ok context)
      (verdict : kernel.policy.decide request context kernel.approvals = (decision, approvals))
      (told : ∀ outcome, result = .ok outcome → outcome = .decision decision) :
      Effect kernel moment (.evaluate request) ⟨result, { kernel with approvals }, recorded⟩
  | engaged {caller} :
      Effect kernel moment (.engageEmergencyStop caller)
        ⟨.ok .nothing, kernel.engageEmergencyStop moment caller, none⟩
  | cleared {call emergency engagements result recorded} (clears : call.clears = true)
      (same : emergency.engaged = kernel.emergency.engaged) :
      Effect kernel moment call
        ⟨result, { kernel with emergency, engagements, approvals := .empty }, recorded⟩
  | released {caller event}
      (audited : event.operationId = ControlAction.emergencyStopReleased.operationId) :
      Effect kernel moment (.releaseEmergencyStop caller)
        ⟨.ok (.stop .released), kernel.released, some event⟩
  | unreleased {caller emergency fault} (same : emergency.engaged = kernel.emergency.engaged) :
      Effect kernel moment (.releaseEmergencyStop caller)
        ({ kernel.released with emergency }.refused fault)
  | storeGranted {approval grantedBy} (bears : grantedBy.kind.authorityBearing = true)
      (issued : issuerFor grantedBy = .ok approval.issuer) :
      Effect kernel moment (.storeGrant approval grantedBy)
        ⟨.ok .nothing, { kernel with approvals := kernel.approvals.put ⟨approval, false⟩ }, none⟩
  | storeSpent {approvalId check approval}
      (unspent : kernel.approvals.get approvalId = some ⟨approval, false⟩) :
      Effect kernel moment (.storeConsume approvalId check)
        ⟨.ok (.approval approval), { kernel with approvals :=
          if approval.singleUse then kernel.approvals.put ⟨approval, true⟩ else kernel.approvals },
          none⟩

variable {kernel : SafetyKernel} {moment : Moment} {caller : CallerIdentity}

private theorem prepared_ok {message : String} {outcome : Except SafetyFault SafetyAuditEvent}
    {event : SafetyAuditEvent} (ready : prepared message outcome = .ok event) :
    outcome = .ok event := by
  cases outcome with
  | error fault => cases ready
  | ok built => exact ready

/-- A control event that was recorded names its action and its caller. -/
theorem recordControl_signed {action : ControlAction} {detail : Option String}
    {reasonDigest : Option Sha256Digest} {event : SafetyAuditEvent}
    (recorded : kernel.recordControl moment action caller detail reasonDigest = .ok event) :
    event.operationId = action.operationId ∧ event.callerId = caller.callerId := by
  simp only [recordControl, bind, Except.bind] at recorded
  split at recorded
  · cases recorded
  rename_i built ready
  simp only [write] at recorded
  split at recorded
  · cases recorded
    have made := prepared_ok ready
    cases eventId : moment.eventId with
    | error fault => simp [eventId] at made
    | ok identifier =>
      cases recordedAt : moment.recordedAt with
      | error fault => simp [eventId, recordedAt] at made
      | ok reading =>
        simp only [eventId, recordedAt] at made
        have fields := SafetyAuditEvent.make_fields made
        exact ⟨congrArg AuditFields.operationId fields, congrArg AuditFields.callerId fields⟩
  · cases recorded

theorem recordControl_names {action : ControlAction} {detail : Option String}
    {reasonDigest : Option Sha256Digest} {event : SafetyAuditEvent}
    (recorded : kernel.recordControl moment action caller detail reasonDigest = .ok event) :
    event.operationId = action.operationId :=
  (recordControl_signed recorded).1

/-- The same when the detail is rendered inside the transaction. -/
theorem renderedControl_names {action : ControlAction} {reasonDigest : Option Sha256Digest}
    {event : SafetyAuditEvent}
    (recorded : (do
      let detail ← moment.rendered
      kernel.recordControl moment action caller (some detail) reasonDigest) = .ok event) :
    event.operationId = action.operationId := by
  cases rendered : moment.rendered with
  | error fault => simp [rendered, bind, Except.bind] at recorded
  | ok detail =>
    rw [rendered] at recorded
    exact recordControl_names recorded

/-- A change is recorded and kept, undone, or could not be undone. -/
theorem commitWithAudit_ends {Value : Type} {changed : SafetyKernel}
    {record : Except SafetyFault SafetyAuditEvent} {rollback : Except SafetyFault SafetyKernel}
    {answer : Value} (Ending : Reply Value → Prop)
    (recorded : ∀ event, record = .ok event → Ending ⟨.ok answer, changed, some event⟩)
    (undone : ∀ restored fault, rollback = .ok restored → Ending (restored.refused fault))
    (stuck : ∀ fault, rollback = .error fault → Ending (changed.refused rollbackFailed)) :
    Ending (changed.commitWithAudit record rollback answer) := by
  cases record with
  | ok event => exact recorded event rfl
  | error raised =>
    cases rollback with
    | ok restored => exact undone restored _ rfl
    | error failure => exact stuck failure rfl

theorem answering_ends {Value : Type} {changed : SafetyKernel}
    {record : Except SafetyFault SafetyAuditEvent} {answer : Value} (Ending : Reply Value → Prop)
    (recorded : ∀ event, record = .ok event → Ending ⟨.ok answer, changed, some event⟩)
    (raised : ∀ fault, Ending (changed.refused fault)) : Ending (changed.answering record answer) := by
  cases record with
  | ok event => exact recorded event rfl
  | error fault => exact raised fault

theorem requireEmergencyStopReleased_ok
    (checked : kernel.requireEmergencyStopReleased = .ok ()) : kernel.emergency.engaged = false :=
  require_ok.mp checked

private theorem requestArm_ok {scope : ArmScope} {armController : ArmController}
    (requested : kernel.requestArm moment scope caller = .ok armController) :
    kernel.emergency.engaged = false ∧ kernel.armController.state = .disarmed ∧
      armController = ⟨.arming, some scope⟩ := by
  simp only [requestArm, bind, Except.bind] at requested
  split at requested
  · cases requested
  split at requested
  · cases requested
  rename_i checked
  obtain ⟨idle, rfl⟩ := ArmController.request_ok requested
  exact ⟨requireEmergencyStopReleased_ok checked, idle, rfl⟩

theorem arm_effect (scope : ArmScope) (caller : CallerIdentity) :
    Effect kernel moment (.arm scope caller) ((kernel.arm moment scope caller).map .armState) := by
  unfold arm
  split
  · exact .refused
  · rename_i armController requested
    obtain ⟨free, idle, rfl⟩ := requestArm_ok requested
    refine commitWithAudit_ends (fun reply => Effect kernel moment _ (reply.map .armState)) ?_ ?_ ?_
    · intro event recorded
      exact .arming idle free (renderedControl_names recorded)
    · intro restored fault undone
      cases undone
      exact .disarmed rfl
    · intro fault stuck
      cases stuck

private theorem requireConfirmation_ok (checked : kernel.requireConfirmation caller = .ok ()) :
    kernel.emergency.engaged = false := by
  simp only [requireConfirmation, bind, Except.bind] at checked
  split at checked
  · cases checked
  · exact requireEmergencyStopReleased_ok checked

theorem confirmArm_effect (caller : CallerIdentity) :
    Effect kernel moment (.confirmArm caller)
      ((kernel.confirmArm moment caller).map .armState) := by
  unfold confirmArm
  cases checked : kernel.requireConfirmation caller with
  | error fault => exact .refused
  | ok permitted =>
    rcases kernel.armController.confirm_cases moment.now with
      ⟨scope, arming, attached, confirmed⟩ | ⟨fault, unchanged | lapsed⟩
    · have pending : kernel.armController = ⟨.arming, some scope⟩ := by
        rw [← arming, ← attached]
      rw [confirmed]
      refine commitWithAudit_ends (fun reply => Effect kernel moment _ (reply.map .armState)) ?_ ?_ ?_
      · intro event recorded
        exact .armed pending (requireConfirmation_ok checked) (recordControl_names recorded)
      · intro restored fault undone
        cases undone
        exact .disarmed rfl
      · intro fault stuck
        cases stuck
    · rw [unchanged]
      exact .refused
    · rw [lapsed]
      exact .disarmed rfl

theorem disarm_effect (caller : CallerIdentity) :
    Effect kernel moment (.disarm caller) ((kernel.disarm moment caller).map .armState) := by
  unfold disarm
  refine answering_ends (fun reply => Effect kernel moment _ (reply.map .armState)) ?_ ?_
  · intro event recorded
    exact .disarmed rfl
  · intro fault
    exact .disarmed rfl

private theorem grantStored_ok {spec : ApprovalSpec} {approval : Approval} {approvals : ApprovalStore}
    (stored : kernel.grantStored spec caller = .ok (approval, approvals)) :
    kernel.emergency.engaged = false ∧ caller.kind.authorityBearing = true ∧
      ∃ issuer, issuerFor caller = .ok issuer ∧ approval = ⟨spec, issuer⟩ ∧
        approvals = kernel.approvals.put ⟨approval, false⟩ := by
  simp only [grantStored, bind, Except.bind] at stored
  split at stored
  · cases stored
  split at stored
  · cases stored
  rename_i checked
  cases issued : issuerFor caller with
  | error fault => simp [issued] at stored
  | ok issuer =>
    simp only [issued] at stored
    split at stored
    · cases stored
    · rename_i held granted
      cases stored
      obtain ⟨bears, _, rfl⟩ := ApprovalStore.grant_ok granted
      exact ⟨requireEmergencyStopReleased_ok checked, bears, issuer, rfl, rfl, rfl⟩

theorem grantApproval_effect (spec : ApprovalSpec) (grantedBy : CallerIdentity) :
    Effect kernel moment (.grantApproval spec grantedBy)
      ((kernel.grantApproval moment spec grantedBy).map .approval) := by
  unfold grantApproval
  split
  · exact .refused
  · rename_i approval approvals stored
    obtain ⟨free, bears, issuer, issued, rfl, rfl⟩ := grantStored_ok stored
    refine commitWithAudit_ends (fun reply => Effect kernel moment _ (reply.map .approval)) ?_ ?_ ?_
    · intro event recorded
      exact .granted free bears issued (renderedControl_names recorded)
    · intro restored fault undone
      cases undone
      -- The undo drops the id, also when the grant had replaced an approval.
      have gone := kernel.approvals.drop_put ⟨⟨spec, issuer⟩, false⟩
      simp only [ApprovalStore.revoke]
      rw [show spec.approvalId = StoredApproval.approvalId ⟨⟨spec, issuer⟩, false⟩ from rfl, gone]
      exact .dropped rfl (fun _ answered => (by cases answered))
    · intro fault stuck
      cases stuck

theorem evaluate_effect (request : OperationRequest) :
    Effect kernel moment (.evaluate request)
      ((kernel.evaluate moment request).map .decision) := by
  unfold evaluate
  split
  · exact .refused
  · rename_i context consulted
    refine answering_ends (fun reply => Effect kernel moment _ (reply.map .decision)) ?_ ?_
    · intro event recorded
      exact .decided consulted rfl (fun outcome answered => (Except.ok.inj answered).symm)
    · intro fault
      exact .decided consulted rfl (fun _ answered => (by cases answered))

theorem registerCanceller_effect (cancellerId : String) :
    Effect kernel moment (.registerCanceller cancellerId)
      ((kernel.registerCanceller cancellerId).map fun _ => .nothing) := by
  unfold registerCanceller
  split
  · exact .refused
  · exact .kept rfl Iff.rfl

theorem cancellerAnswered_effect {answer : CancellerAnswer} {heard : SafetyKernel}
    (moved : kernel.cancellerAnswered answer = some heard) :
    Effect kernel moment (.cancellerAnswered answer) ⟨.ok .nothing, heard, none⟩ := by
  unfold cancellerAnswered at moved
  split at moved
  · cases moved
  rename_i engagement outer asking
  split at moved
  · cases moved
  · cases moved
    exact .kept rfl (by simp [asking])

theorem engagementReturned_effect {reply : Reply EmergencyStopState}
    (returned : kernel.engagementReturned moment = some reply) :
    Effect kernel moment .engagementReturned (reply.map .stop) := by
  unfold engagementReturned at returned
  split at returned
  · cases returned
  rename_i engagement outer asking
  split at returned
  · cases returned
  · cases returned
    refine answering_ends (fun reply => Effect kernel moment _ (reply.map .stop)) ?_ ?_
    · intro event recorded
      exact .cleared rfl rfl
    · intro fault
      exact .cleared rfl rfl

theorem releaseEmergencyStop_effect (caller : CallerIdentity) :
    Effect kernel moment (.releaseEmergencyStop caller)
      ((kernel.releaseEmergencyStop moment caller).map .stop) := by
  unfold releaseEmergencyStop
  split
  · exact .refused
  · refine commitWithAudit_ends (fun reply => Effect kernel moment _ (reply.map .stop)) ?_ ?_ ?_
    · intro event recorded
      exact .released (recordControl_names recorded)
    · intro restored fault undone
      by_cases held : kernel.emergency.engaged = true
      · simp only [restoreEngagement, require, held, if_true, bind, Except.bind, pure, Except.pure,
          Except.ok.injEq] at undone
        subst undone
        exact .unreleased rfl
      · simp [restoreEngagement, require, held, bind, Except.bind] at undone
    · intro fault stuck
      by_cases held : kernel.emergency.engaged = true
      · simp [restoreEngagement, require, held, bind, Except.bind, pure, Except.pure] at stuck
      · exact .unreleased (Bool.eq_false_iff.mpr held).symm

private theorem storeGrant_effect (approval : Approval) (grantedBy : CallerIdentity) :
    Effect kernel moment (.storeGrant approval grantedBy)
      ((kernel.withStore ((kernel.approvals.grant approval grantedBy).map ((), ·))).map
        fun _ => .nothing) := by
  cases granted : kernel.approvals.grant approval grantedBy with
  | error fault => exact .refused
  | ok approvals =>
    obtain ⟨bears, issued, rfl⟩ := ApprovalStore.grant_ok granted
    exact .storeGranted bears issued

private theorem storeConsume_effect (approvalId : AuditIdentifier)
    (check : Approval → Except SafetyFault Unit) :
    Effect kernel moment (.storeConsume approvalId check)
      ((kernel.withStore (kernel.approvals.consume approvalId check)).map .approval) := by
  cases spent : kernel.approvals.consume approvalId check with
  | error fault => exact .refused
  | ok pair =>
    obtain ⟨approval, approvals⟩ := pair
    obtain ⟨unspent, _, rfl⟩ := ApprovalStore.consume_ok spent
    exact .storeSpent unspent

theorem perform_effect {call : Call} {reply : Reply Outcome}
    (performed : kernel.perform moment call = some reply) : Effect kernel moment call reply := by
  cases call with
  | arm scope caller => exact Option.some.inj performed ▸ arm_effect scope caller
  | confirmArm caller => exact Option.some.inj performed ▸ confirmArm_effect caller
  | disarm caller => exact Option.some.inj performed ▸ disarm_effect caller
  | grantApproval spec grantedBy =>
    exact Option.some.inj performed ▸ grantApproval_effect spec grantedBy
  | revokeApproval approvalId =>
    refine Option.some.inj performed ▸ .dropped rfl fun outcome answered => ?_
    exact ⟨(kernel.approvals.get approvalId).isSome, (Except.ok.inj answered).symm⟩
  | evaluate request => exact Option.some.inj performed ▸ evaluate_effect request
  | registerCanceller cancellerId =>
    exact Option.some.inj performed ▸ registerCanceller_effect cancellerId
  | engageEmergencyStop caller => exact Option.some.inj performed ▸ .engaged
  | cancellerAnswered answer =>
    obtain ⟨heard, moved, rfl⟩ := Option.map_eq_some_iff.mp performed
    exact cancellerAnswered_effect moved
  | engagementReturned =>
    obtain ⟨ended, returned, rfl⟩ := Option.map_eq_some_iff.mp performed
    exact engagementReturned_effect returned
  | releaseEmergencyStop caller =>
    exact Option.some.inj performed ▸ releaseEmergencyStop_effect caller
  | storeGrant approval grantedBy =>
    exact Option.some.inj performed ▸ storeGrant_effect approval grantedBy
  | storeConsume approvalId check =>
    exact Option.some.inj performed ▸ storeConsume_effect approvalId check
  | storeRevoke approvalId =>
    refine Option.some.inj performed ▸ .dropped rfl fun outcome answered => ?_
    exact ⟨(kernel.approvals.get approvalId).isSome, (Except.ok.inj answered).symm⟩
  | storeClear => exact Option.some.inj performed ▸ .cleared rfl rfl

/-- A step is one call's effect, seen with the kernel before and after it. -/
theorem step_effect {next : SafetyKernel} {call : Call} {report : Report}
    (moved : kernel.step (moment, call) = some (next, report)) :
    report.before = kernel ∧ report.after = next ∧
      Effect kernel moment call ⟨report.result, next, report.recorded⟩ := by
  unfold step at moved
  split at moved
  · cases moved
  · obtain ⟨reply, performed, answered⟩ := Option.map_eq_some_iff.mp moved
    cases answered
    exact ⟨rfl, rfl, perform_effect performed⟩

/-- What a kernel was handed stays as it is. -/
theorem Effect.fixed {call : Call} {reply : Reply Outcome}
    (effect : Effect kernel moment call reply) :
    reply.kernel.permissions = kernel.permissions ∧ reply.kernel.policy = kernel.policy := by
  cases effect <;> exact ⟨rfl, rfl⟩

/-- A call that stored an approval unspent: an audited grant of the kernel, or a grant of
the store it exposes. -/
structure Grant (kernel : SafetyKernel) (call : Call) (reply : Reply Outcome)
    (approval : Approval) (caller : CallerIdentity) : Prop where
  bears : caller.kind.authorityBearing = true
  issued : issuerFor caller = .ok approval.issuer
  asked : ((∃ spec, call = .grantApproval spec caller) ∧ reply.result = .ok (.approval approval) ∧
      kernel.emergency.engaged = false ∧
      ∃ event ∈ reply.recorded, event.operationId = ControlAction.approvalGranted.operationId) ∨
    call = .storeGrant approval caller ∧ reply.result = .ok .nothing

/-- A spent approval stays what it was. -/
theorem get_spent {store : ApprovalStore} {spent approvalId : AuditIdentifier}
    {approval : Approval} {record : StoredApproval} {fresh : Bool}
    (unspent : store.get spent = some ⟨approval, false⟩)
    (found : (if fresh then store.put ⟨approval, true⟩ else store).get approvalId = some record) :
    ∃ consumed, store.get approvalId = some ⟨record.approval, consumed⟩ ∧
      (consumed = true → record.consumed = true) := by
  cases fresh with
  | false => exact ⟨record.consumed, found, id⟩
  | true =>
    simp only [if_true, ApprovalStore.get_put] at found
    split at found
    · rename_i same
      cases found
      have known : spent = approvalId := (ApprovalStore.get_id unspent).symm.trans same
      exact ⟨false, known ▸ unspent, fun _ => rfl⟩
    · exact ⟨record.consumed, found, id⟩

/-- The same for what a verdict leaves. -/
theorem get_decided {policy : SafetyPolicy} {request : OperationRequest} {context : SafetyContext}
    {store after : ApprovalStore} {decision : PolicyDecision} {approvalId : AuditIdentifier}
    {record : StoredApproval}
    (verdict : policy.decide request context store = (decision, after))
    (found : after.get approvalId = some record) :
    ∃ consumed, store.get approvalId = some ⟨record.approval, consumed⟩ ∧
      (consumed = true → record.consumed = true) := by
  rcases SafetyPolicy.decide_cases verdict with ⟨operation, _, allowed⟩ | ⟨_, rfl⟩
  · by_cases asked : operation.effectRisk.isDangerous = true ∧
        (policy.approvalRequirement operation.effectRisk).required = true
    · obtain ⟨spent, approval, _, consumed⟩ := allowed.approved asked.1 asked.2
      obtain ⟨unspent, _, rfl⟩ := ApprovalStore.consume_ok consumed
      exact get_spent unspent found
    · have same := allowed.untouched fun dangerous =>
        Bool.eq_false_iff.mpr fun required => asked ⟨dangerous, required⟩
      subst same
      exact ⟨record.consumed, found, id⟩
  · exact ⟨record.consumed, found, id⟩

/-- A stored approval was there before, no less spent, or was granted by this call. -/
theorem Effect.stored {call : Call} {reply : Reply Outcome} {approvalId : AuditIdentifier}
    {record : StoredApproval} (effect : Effect kernel moment call reply)
    (found : reply.kernel.approvals.get approvalId = some record) :
    (∃ consumed, kernel.approvals.get approvalId = some ⟨record.approval, consumed⟩ ∧
      (consumed = true → record.consumed = true)) ∨
    record.consumed = false ∧ ∃ caller, Grant kernel call reply record.approval caller := by
  cases effect with
  | granted free bears issued audited =>
    simp only [ApprovalStore.get_put] at found
    split at found
    · cases found
      exact .inr ⟨rfl, _, bears, issued, .inl ⟨⟨_, rfl⟩, rfl, free, _, rfl, audited⟩⟩
    · exact .inl ⟨record.consumed, found, id⟩
  | storeGranted bears issued =>
    simp only [ApprovalStore.get_put] at found
    split at found
    · cases found
      exact .inr ⟨rfl, _, bears, issued, .inr ⟨rfl, rfl⟩⟩
    · exact .inl ⟨record.consumed, found, id⟩
  | dropped drops quiet =>
    simp only [ApprovalStore.get_drop] at found
    split at found
    · cases found
    · exact .inl ⟨record.consumed, found, id⟩
  | decided consulted verdict told => exact .inl (get_decided verdict found)
  | storeSpent unspent => exact .inl (get_spent unspent found)
  | cleared clears same => cases found
  | released audited => cases found
  | unreleased same => cases found
  | _ => exact .inl ⟨record.consumed, found, id⟩

/-- The machine stays above `DISARMED` only by standing still, by an audited request or by
an audited confirmation. -/
theorem Effect.raised {call : Call} {reply : Reply Outcome}
    (effect : Effect kernel moment call reply)
    (raised : reply.kernel.armController.state ≠ .disarmed) :
    reply.kernel.armController = kernel.armController ∨
    (reply.kernel.armController.state = .arming ∧ kernel.armController.state = .disarmed ∧
      kernel.emergency.engaged = false ∧ (∃ scope caller, call = .arm scope caller) ∧
      reply.result = .ok (.armState .arming) ∧
      ∃ event ∈ reply.recorded, event.operationId = ControlAction.armRequested.operationId) ∨
    (reply.kernel.armController.state = .armed ∧ kernel.armController.state = .arming ∧
      kernel.emergency.engaged = false ∧ (∃ caller, call = .confirmArm caller) ∧
      reply.result = .ok (.armState .armed) ∧
      ∃ event ∈ reply.recorded, event.operationId = ControlAction.armConfirmed.operationId) := by
  cases effect with
  | arming idle free audited =>
    exact .inr (.inl ⟨rfl, idle, free, ⟨_, _, rfl⟩, rfl, _, rfl, audited⟩)
  | armed pending free audited =>
    exact .inr (.inr ⟨rfl, by rw [pending], free, ⟨_, rfl⟩, rfl, _, rfl, audited⟩)
  | disarmed disarms => exact absurd rfl raised
  | engaged => exact absurd rfl raised
  | released audited => exact absurd rfl raised
  | unreleased same => exact absurd rfl raised
  | _ => exact .inl rfl

/-- The stop is free because it was, or by an audited release. -/
theorem Effect.freed {call : Call} {reply : Reply Outcome}
    (effect : Effect kernel moment call reply) (free : reply.kernel.emergency.engaged = false) :
    kernel.emergency.engaged = false ∨
    (reply.kernel = kernel.released ∧ (∃ caller, call = .releaseEmergencyStop caller) ∧
      reply.result = .ok (.stop .released) ∧
      ∃ event ∈ reply.recorded,
        event.operationId = ControlAction.emergencyStopReleased.operationId) := by
  cases effect with
  | released audited => exact .inr ⟨rfl, ⟨_, rfl⟩, rfl, _, rfl, audited⟩
  | cleared clears same => exact .inl (same.symm.trans free)
  | unreleased same => exact .inl (same.symm.trans free)
  | engaged =>
    refine .inl (Bool.eq_false_iff.mpr fun on => ?_)
    simp [engageEmergencyStop, on] at free
  | _ => exact .inl free

end SafetyKernel

/-- A step of a run: the call, what the environment answered, and what it did. -/
abbrev Entry := (Moment × Call) × Report

namespace Entry

def reply (entry : Entry) : Reply Outcome := ⟨entry.2.result, entry.2.after, entry.2.recorded⟩

/-- The entry stored an approval that a caller asked for. -/
def Granted (entry : Entry) (approval : Approval) (caller : CallerIdentity) : Prop :=
  SafetyKernel.Grant entry.2.before entry.1.2 entry.reply approval caller

/-- The sink accepted an event of this action during the entry's call. -/
def Accepted (entry : Entry) (action : ControlAction) : Prop :=
  ∃ event ∈ entry.2.recorded, event.operationId = action.operationId

end Entry

end CanX.Safety
