import CanX.Safety.Authority

/-! The emergency stop is an epoch boundary: no authority outlives it, and none is built
while it lasts. -/

namespace CanX.Safety

open Transition

namespace Entry

def Engages (entry : Entry) : Prop := ∃ caller, entry.1.2 = .engageEmergencyStop caller

def Releases (entry : Entry) : Prop :=
  (∃ caller, entry.1.2 = .releaseEmergencyStop caller) ∧
    ∃ state, entry.2.result = .ok (.stop state)

def RequestsArm (entry : Entry) : Prop :=
  (∃ scope caller, entry.1.2 = .arm scope caller) ∧ entry.2.result = .ok (.armState .arming)

def ConfirmsArm (entry : Entry) : Prop :=
  (∃ caller, entry.1.2 = .confirmArm caller) ∧ entry.2.result = .ok (.armState .armed)

end Entry

/-- What the store's own `grant` would accept. -/
def Acceptable (approval : Approval) (grantedBy : CallerIdentity) : Prop :=
  grantedBy.mayIssueApproval = true ∧ issuerFor grantedBy = .ok approval.issuer

/-- Nothing that the store accepts reaches it past the kernel while the stop lasts. -/
def Gated (kernel : SafetyKernel) (label : Moment × Call) : Prop :=
  match label.2 with
  | .storeGrant approval grantedBy =>
    kernel.emergency.engaged = true → kernel.engagements = [] → ¬ Acceptable approval grantedBy
  | _ => True

/-- What a stop that is engaged leaves. The approvals are dropped at the end of the call
that engages it. -/
def Stopped (kernel : SafetyKernel) : Prop :=
  kernel.emergency.engaged = true → kernel.armController = .disarmed ∧
    (kernel.engagements = [] → kernel.approvals = .empty)

namespace ApprovalStore

theorem eq_empty {store : ApprovalStore} (bare : ∀ approvalId, store.get approvalId = none) :
    store = empty := by
  rcases store with ⟨records, keyed⟩
  cases records with
  | nil => rfl
  | cons record rest =>
    have absent := bare record.approvalId
    simp [get, Storage.lookup] at absent

end ApprovalStore

section Step

variable {kernel next : SafetyKernel} {moment : Moment} {call : Call} {reply : Reply Outcome}
  {report : Report}

private theorem decide_empty {policy : SafetyPolicy} {request : OperationRequest} {context : SafetyContext}
    {after : ApprovalStore} {decision : PolicyDecision}
    (verdict : policy.decide request context .empty = (decision, after)) : after = .empty := by
  apply ApprovalStore.eq_empty
  intro approvalId
  by_contra held
  obtain ⟨record, found⟩ := Option.ne_none_iff_exists'.mp held
  obtain ⟨consumed, before, _⟩ := SafetyKernel.get_decided verdict found
  cases before

theorem Stopped.effect (stopped : Stopped kernel) (gated : Gated kernel (moment, call))
    (effect : SafetyKernel.Effect kernel moment call reply) : Stopped reply.kernel := by
  cases effect with
  | refused => exact stopped
  | kept asks nested => exact fun on => ⟨(stopped on).1, fun idle => (stopped on).2 (nested.mpr idle)⟩
  | disarmed disarms => exact fun on => ⟨rfl, (stopped on).2⟩
  | arming idle free audited => exact fun on => absurd (free.symm.trans on) Bool.false_ne_true
  | armed pending free audited => exact fun on => absurd (free.symm.trans on) Bool.false_ne_true
  | granted free bears issued audited =>
    exact fun on => absurd (free.symm.trans on) Bool.false_ne_true
  | dropped drops quiet =>
    intro on
    refine ⟨(stopped on).1, fun idle => ?_⟩
    simp only [(stopped on).2 idle]
    rfl
  | decided consulted verdict told =>
    intro on
    refine ⟨(stopped on).1, fun idle => ?_⟩
    rw [(stopped on).2 idle] at verdict
    exact decide_empty verdict
  | engaged => exact fun on => ⟨rfl, fun idle => (by cases idle)⟩
  | cleared clears same =>
    exact fun on => ⟨(stopped (same.symm.trans on)).1, fun idle => rfl⟩
  | released audited => exact fun on => (by cases on)
  | unreleased same => exact fun on => ⟨rfl, fun idle => rfl⟩
  | storeGranted bears issued =>
    intro on
    refine ⟨(stopped on).1, fun idle => ?_⟩
    exact absurd ⟨bears, issued⟩ (gated on idle)
  | storeSpent unspent =>
    intro on
    refine ⟨(stopped on).1, fun idle => ?_⟩
    rw [(stopped on).2 idle] at unspent
    cases unspent

private theorem grant_acceptable {store : ApprovalStore} {approval : Approval} {grantedBy : CallerIdentity}
    (acceptable : Acceptable approval grantedBy) :
    store.grant approval grantedBy = .ok (store.put ⟨approval, false⟩) := by
  simp [ApprovalStore.grant, require, acceptable.1, acceptable.2, bind, Except.bind, pure,
    Except.pure]

/-- A grant that does not keep to the gate leaves an approval under an engaged stop. -/
theorem ungated_staged (ungated : ¬ Gated kernel (moment, call))
    (moved : kernel.step (moment, call) = some (next, report)) : ¬ Stopped next := by
  intro stopped
  cases call with
  | storeGrant approval grantedBy =>
    simp only [Gated, Classical.not_imp, not_not] at ungated
    obtain ⟨on, idle, acceptable⟩ := ungated
    simp only [SafetyKernel.step, SafetyKernel.perform, grant_acceptable acceptable] at moved
    obtain ⟨rfl, _⟩ := Prod.mk.inj (Option.some.inj moved)
    have empty : kernel.approvals.put ⟨approval, false⟩ = .empty := (stopped on).2 idle
    have found := kernel.approvals.get_put_self ⟨approval, false⟩
    rw [empty] at found
    cases found
  | _ => exact ungated trivial

/-- A release that is reported leaves nothing behind. -/
theorem release_clears {caller : CallerIdentity} {state : EmergencyStopState}
    (effect : SafetyKernel.Effect kernel moment (.releaseEmergencyStop caller) reply)
    (answered : reply.result = .ok (.stop state)) : reply.kernel = kernel.released := by
  cases effect with
  | released audited => rfl
  | unreleased same => cases answered
  | refused => cases answered
  | kept asks => cases asks
  | disarmed disarms => cases disarms
  | dropped drops => cases drops
  | cleared clears => cases clears

end Step

/-- The authority a kernel holds after an engagement was built after a release. -/
structure Rebuilt (back : List Entry) (kernel : SafetyKernel) : Prop where
  released : kernel.emergency.engaged = false → ∃ release, [release].Sublist back ∧ release.Releases
  requested : kernel.armController.state ≠ .disarmed →
    ∃ release request, [release, request].Sublist back ∧ release.Releases ∧ request.RequestsArm
  confirmed : kernel.armController.state = .armed →
    ∃ release request confirmation, [release, request, confirmation].Sublist back ∧
      release.Releases ∧ request.RequestsArm ∧ confirmation.ConfirmsArm
  regranted : kernel.emergency.engaged = false →
    ∀ approvalId record, kernel.approvals.get approvalId = some record →
      ∃ release grant caller, [release, grant].Sublist back ∧ release.Releases ∧
        grant.Granted record.approval caller

section Run

variable {kernel next : SafetyKernel} {moment : Moment} {call : Call} {report : Report}
  {back : List Entry}

private theorem sublist_later {earlier : List Entry} {entry : Entry} (within : earlier.Sublist back) :
    earlier.Sublist (back ++ [entry]) :=
  within.trans (List.sublist_append_left _ _)

private theorem sublist_last {earlier : List Entry} {entry : Entry} (within : earlier.Sublist back) :
    (earlier ++ [entry]).Sublist (back ++ [entry]) :=
  within.append (List.Sublist.refl _)

theorem Rebuilt.step (rebuilt : Rebuilt back kernel)
    (moved : kernel.step (moment, call) = some (next, report)) :
    Rebuilt (back ++ [((moment, call), report)]) next := by
  obtain ⟨rfl, rfl, effect⟩ := SafetyKernel.step_effect moved
  refine ⟨?_, ?_, ?_, ?_⟩
  · intro free
    rcases effect.freed free with before | ⟨_, called, answered, _⟩
    · obtain ⟨release, within, releases⟩ := rebuilt.released before
      exact ⟨release, sublist_later within, releases⟩
    · exact ⟨_, List.sublist_append_right _ _, called, _, answered⟩
  · intro raised
    rcases effect.raised raised with same | ⟨_, _, free, called, answered, _⟩ | ⟨_, arming, _⟩
    · obtain ⟨release, request, within, kept⟩ := rebuilt.requested (same ▸ raised)
      exact ⟨release, request, sublist_later within, kept⟩
    · obtain ⟨release, within, releases⟩ := rebuilt.released free
      exact ⟨release, _, sublist_last within, releases, called, answered⟩
    · have pending : report.before.armController.state ≠ .disarmed := by
        rw [arming]
        exact ArmState.noConfusion
      obtain ⟨release, request, within, kept⟩ := rebuilt.requested pending
      exact ⟨release, request, sublist_later within, kept⟩
  · intro armed
    have raised : report.after.armController.state ≠ .disarmed := by
      rw [armed]
      exact ArmState.noConfusion
    rcases effect.raised raised with same | ⟨arming, _⟩ | ⟨_, arming, _, called, answered, _⟩
    · obtain ⟨release, request, confirmation, within, kept⟩ := rebuilt.confirmed (same ▸ armed)
      exact ⟨release, request, confirmation, sublist_later within, kept⟩
    · cases arming.symm.trans armed
    · have pending : report.before.armController.state ≠ .disarmed := by
        rw [arming]
        exact ArmState.noConfusion
      obtain ⟨release, request, within, releases, requests⟩ := rebuilt.requested pending
      exact ⟨release, request, _, sublist_last within, releases, requests, called, answered⟩
  · intro free approvalId record found
    rcases effect.freed free with before | ⟨cleared, _⟩
    · rcases effect.stored found with ⟨consumed, held, _⟩ | ⟨_, caller, granted⟩
      · obtain ⟨release, grant, caller, within, kept⟩ := rebuilt.regranted before _ _ held
        exact ⟨release, grant, caller, sublist_later within, kept⟩
      · obtain ⟨release, within, releases⟩ := rebuilt.released before
        exact ⟨release, _, caller, sublist_last within, releases, granted⟩
    · have empty : report.after.approvals = .empty := congrArg SafetyKernel.approvals cleared
      rw [empty] at found
      cases found

theorem engaged_rebuilt {caller : CallerIdentity}
    (moved : kernel.step (moment, .engageEmergencyStop caller) = some (next, report)) :
    Rebuilt [] next := by
  simp only [SafetyKernel.step, SafetyKernel.perform] at moved
  split at moved
  · cases moved
  · obtain ⟨rfl, _⟩ := Prod.mk.inj (Option.some.inj moved)
    have on : (kernel.engageEmergencyStop moment caller).emergency.engaged = true := by
      by_cases before : kernel.emergency.engaged = true
      · simp [SafetyKernel.engageEmergencyStop, before]
      · simp [SafetyKernel.engageEmergencyStop, before]
    refine ⟨fun free => ?_, fun raised => absurd rfl raised, fun armed => (by cases armed),
      fun free => ?_⟩
    · exact absurd (free.symm.trans on) Bool.false_ne_true
    · exact absurd (free.symm.trans on) Bool.false_ne_true

end Run

/-- The entry is an `ALLOW` of an operation. -/
structure Entry.Allows (entry : Entry) (request : OperationRequest) (operation : OperationPolicy) :
    Prop where
  called : entry.1.2 = .evaluate request
  answered : ∃ decision, entry.2.result = .ok (.decision decision) ∧ decision.outcome = .allow
  classified : operationPolicy request.operationClass = .ok operation

/-- The chain that has to be built again before a vehicle operation is allowed. -/
structure Resumed (back : List Entry) (request : OperationRequest) (operation : OperationPolicy) :
    Prop where
  rearmed : ∃ release request confirmation, [release, request, confirmation].Sublist back ∧
    release.Releases ∧ request.RequestsArm ∧ confirmation.ConfirmsArm
  regranted : operation.effectRisk.isDangerous = true →
    ∃ release grant approval caller, [release, grant].Sublist back ∧ release.Releases ∧
      grant.Granted approval caller ∧ request.approvalId = some approval.approvalId

section Boundary

variable {trace : List Entry} {kernel : SafetyKernel} {permissions : PermissionSet}
  {policy : SafetyPolicy}

/-- Every state of a run is as a stop leaves it exactly when every step keeps to the gate. -/
theorem stopped_iff_gated
    (path : Path SafetyKernel.step anyLabel (SafetyKernel.start permissions policy) trace kernel) :
    (∀ entry ∈ trace, Gated entry.2.before entry.1) ↔ ∀ entry ∈ trace, Stopped entry.2.after := by
  constructor
  · suffices stopped : (∀ entry ∈ trace, Gated entry.2.before entry.1) →
        Stopped kernel ∧ ∀ entry ∈ trace, Stopped entry.2.after from fun gated => (stopped gated).2
    refine path.preserves_trace (fun trace state => (∀ entry ∈ trace, Gated entry.2.before entry.1) →
      Stopped state ∧ ∀ entry ∈ trace, Stopped entry.2.after) ?_ ?_
    · exact fun _ => ⟨fun on => (by cases on), fun _ member => (by cases member)⟩
    · rintro trace state ⟨moment, call⟩ next report _ before _ moved gated
      obtain ⟨rfl, rfl, effect⟩ := SafetyKernel.step_effect moved
      obtain ⟨stopped, earlier⟩ := before fun entry member => gated entry (List.mem_append_left _ member)
      have here := gated _ (List.mem_append_right _ (List.mem_singleton_self _))
      have after : Stopped report.after := stopped.effect here effect
      refine ⟨after, fun entry member => ?_⟩
      rcases List.mem_append.mp member with old | last
      · exact earlier entry old
      · rw [List.mem_singleton.mp last]
        exact after
  · rintro stopped ⟨⟨moment, call⟩, report⟩ member
    obtain ⟨front, back, rfl⟩ := List.append_of_mem member
    obtain ⟨before, after, _, _, moved, _⟩ := path.at_label
    obtain ⟨rfl, rfl, _⟩ := SafetyKernel.step_effect moved
    by_contra ungated
    exact ungated_staged ungated moved (stopped _ member)

private theorem allowed_resumed {back : List Entry} {next : SafetyKernel} {moment : Moment}
    {request : OperationRequest} {operation : OperationPolicy} {report : Report}
    (rebuilt : Rebuilt back kernel) (standard : kernel.policy = standardPolicy)
    (moved : kernel.step (moment, .evaluate request) = some (next, report))
    (allows : Entry.Allows ((moment, .evaluate request), report) request operation)
    (vehicle : operation.requiresArm = true) : Resumed back request operation := by
  obtain ⟨_, ⟨decision, answered, permit⟩, classified⟩ := allows
  obtain ⟨context, consulted, allowed⟩ :=
    SafetyKernel.allowed_of_verdict moved answered permit classified
  obtain ⟨_, state, _, _, engaged⟩ := SafetyKernel.context_ok consulted
  refine ⟨rebuilt.confirmed (state ▸ (allowed.armed vehicle).1), fun dangerous => ?_⟩
  rw [standard] at allowed
  obtain ⟨approvalId, approval, presented, spent⟩ :=
    allowed.approved dangerous (standardPolicy_demands dangerous).1
  obtain ⟨unspent, _, _⟩ := ApprovalStore.consume_ok spent
  have known : approval.approvalId = approvalId := ApprovalStore.get_id unspent
  obtain ⟨release, grant, caller, within, releases, granted⟩ :=
    rebuilt.regranted (engaged ▸ allowed.released vehicle) approvalId _ unspent
  exact ⟨release, grant, approval, caller, within, releases, granted, known ▸ presented⟩

/-- The boundary, over a whole run. A stop leaves nothing in any state exactly when every
step keeps to the gate; what a release leaves, and what an `ALLOW` rests on afterwards,
do not depend on it. -/
structure EpochBoundary (trace : List Entry) : Prop where
  stops : (∀ entry ∈ trace, Gated entry.2.before entry.1) ↔ ∀ entry ∈ trace, Stopped entry.2.after
  clears : ∀ entry ∈ trace, entry.Releases →
    entry.2.after.armController = .disarmed ∧ entry.2.after.approvals = .empty
  resumes : ∀ front engagement back verdict rest request operation,
    trace = front ++ engagement :: (back ++ verdict :: rest) → engagement.Engages →
    verdict.Allows request operation → operation.requiresArm = true → Resumed back request operation

theorem epoch_boundary
    (path : Path SafetyKernel.step anyLabel (SafetyKernel.start permissions standardPolicy)
      trace kernel) :
    EpochBoundary trace := by
  refine ⟨stopped_iff_gated path, ?_, ?_⟩
  · rintro ⟨⟨moment, call⟩, report⟩ member ⟨⟨caller, called⟩, state, answered⟩
    obtain ⟨front, back, rfl⟩ := List.append_of_mem member
    obtain ⟨before, after, _, _, moved, _⟩ := path.at_label
    obtain ⟨rfl, rfl, effect⟩ := SafetyKernel.step_effect moved
    cases called
    have cleared : report.after = report.before.released := release_clears effect answered
    exact cleared ▸ ⟨rfl, rfl⟩
  · rintro front ⟨⟨moment, call⟩, report⟩ back ⟨⟨later, verdict⟩, told⟩ rest request operation rfl
      ⟨caller, engages⟩ allows vehicle
    cases engages
    obtain ⟨before, engaged, begun, _, moved, onward⟩ := path.at_label
    obtain ⟨reached, after, built, _, decided, _⟩ := onward.at_label
    have rebuilt : Rebuilt back reached := by
      refine built.preserves_trace Rebuilt (engaged_rebuilt moved) ?_
      rintro trace state ⟨moment, call⟩ next output _ rebuilt _ moved
      exact rebuilt.step moved
    cases allows.called
    exact allowed_resumed rebuilt (run_fixed ((begun.snoc trivial moved).trans built)).2 decided
      allows vehicle

end Boundary

def engaging : List (Moment × Call) :=
  [(honest, .engageEmergencyStop operator), (honest, .engagementReturned)]

/-- A stop, its release, and authority built again. -/
def resuming : List (Moment × Call) :=
  engaging ++ (honest, .releaseEmergencyStop operator) :: authorising ++
    [(honest, .evaluate sampleTransmit)]

def lastAnswer (run : SafetyKernel × List Entry) : Option (Except SafetyFault Outcome) :=
  run.2.getLast?.map (·.2.result)

theorem epoch_boundary_resumed :
    ∃ trace kernel, Path SafetyKernel.step anyLabel
        (SafetyKernel.start samplePermissions standardPolicy) trace kernel ∧
      lastAnswer (kernel, trace) = some (.ok (.decision (allow .tx))) ∧ EpochBoundary trace := by
  have evaluated : (followWithin SafetyKernel.step (fun _ _ => true)
      (SafetyKernel.start samplePermissions standardPolicy) resuming).map lastAnswer =
        some (some (.ok (.decision (allow .tx)))) := by
    decide +kernel
  obtain ⟨trace, kernel, path, seen⟩ :=
    Path.observedWithin resuming lastAnswer _ (fun _ _ _ => trivial) evaluated
  exact ⟨trace, kernel, path, seen, epoch_boundary path⟩

/-- The store a kernel exposes takes an approval while the stop is engaged. -/
theorem approval_staged_under_stop :
    ∃ trace kernel, Path SafetyKernel.step anyLabel
        (SafetyKernel.start samplePermissions standardPolicy) trace kernel ∧
      kernel.emergency.engaged = true ∧ kernel.engagements = [] ∧
      kernel.approvals.outstanding = [⟨sampleSpec, .humanOperator⟩] := by
  have evaluated : (follow SafetyKernel.step (SafetyKernel.start samplePermissions standardPolicy)
      (engaging ++ [(honest, .storeGrant ⟨sampleSpec, .humanOperator⟩ operator)])).map
        (fun reached => (reached.1.emergency.engaged, reached.1.engagements,
          reached.1.approvals.outstanding)) =
            some (true, [], [⟨sampleSpec, .humanOperator⟩]) := by
    decide +kernel
  obtain ⟨trace, kernel, path, seen⟩ := Path.observed _
    (fun state : SafetyKernel => (state.emergency.engaged, state.engagements,
      state.approvals.outstanding)) _ (fun _ _ _ => trivial) evaluated
  simp only [Prod.mk.injEq] at seen
  exact ⟨trace, kernel, path, seen⟩

/-- The kernel's own grant keeps to the gate: it takes none while the stop is engaged. -/
example : (follow SafetyKernel.step (SafetyKernel.start samplePermissions standardPolicy)
    (engaging ++ [(honest, .grantApproval sampleSpec operator)])).map
      (fun reached => (reached.1.emergency.engaged, reached.1.approvals.outstanding)) = some (true, []) := by
  decide +kernel

end CanX.Safety
