import CanX.Safety.Epoch

/-! No authority without an accepted record of it. -/

namespace CanX.Safety

open Transition

/-- The kernel's own methods; the store it exposes is left alone. -/
def OwnMethods (_ : SafetyKernel) (label : Moment × Call) : Prop :=
  match label.2 with
  | .storeGrant .. | .storeConsume .. | .storeRevoke _ | .storeClear => False
  | _ => True

/-- How far an arm state has got towards authority. -/
def ArmState.reach : ArmState → Nat
  | disarmed => 0
  | arming => 1
  | armed => 2

/-- One kernel holds no authority that another does not. -/
structure NoMorePermissive (after before : SafetyKernel) : Prop where
  arm : after.armController.state.reach ≤ before.armController.state.reach
  scope : after.armController.state ≠ .disarmed → after.armController = before.armController
  approvals : ∀ approvalId record, after.approvals.get approvalId = some record →
    ∃ consumed, before.approvals.get approvalId = some ⟨record.approval, consumed⟩ ∧
      (consumed = true → record.consumed = true)
  stop : before.emergency.engaged = true → after.emergency.engaged = true

/-- The machine is above `DISARMED` on the record of a request, and of a confirmation if it
is armed, with no visit to `DISARMED` since. -/
def ArmAudited (trace : List Entry) (kernel : SafetyKernel) : Prop :=
  kernel.armController.state ≠ .disarmed → ∃ front request back, trace = front ++ request :: back ∧
    request.RequestsArm ∧ request.Accepted .armRequested ∧
    (∀ entry ∈ request :: back, entry.2.after.armController.state ≠ .disarmed) ∧
    (kernel.armController.state = .armed →
      ∃ confirmation ∈ back, confirmation.ConfirmsArm ∧ confirmation.Accepted .armConfirmed)

/-- A stored approval is held on the record of its grant, the last one under its id. -/
def GrantsAudited (trace : List Entry) (kernel : SafetyKernel) : Prop :=
  ∀ approvalId record, kernel.approvals.get approvalId = some record →
    ∃ front grant back caller, trace = front ++ grant :: back ∧ grant.Granted record.approval caller ∧
      grant.Accepted .approvalGranted ∧
      ∀ entry ∈ back, ∀ approval caller, entry.Granted approval caller →
        approval.approvalId ≠ approvalId

section Step

variable {kernel next : SafetyKernel} {moment : Moment} {call : Call} {reply : Reply Outcome}
  {report : Report} {trace : List Entry}

/-- A call that raises leaves no authority that was not there before it. -/
theorem failed_noMorePermissive {fault : SafetyFault}
    (effect : SafetyKernel.Effect kernel moment call reply) (failed : reply.result = .error fault) :
    NoMorePermissive reply.kernel kernel := by
  have still : reply.kernel.armController.state ≠ .disarmed →
      reply.kernel.armController = kernel.armController := by
    intro raised
    rcases effect.raised raised with same | ⟨_, _, _, _, answered, _⟩ | ⟨_, _, _, _, answered, _⟩
    · exact same
    · cases failed.symm.trans answered
    · cases failed.symm.trans answered
  refine ⟨?_, still, ?_, ?_⟩
  · by_cases idle : reply.kernel.armController.state = .disarmed
    · rw [idle]
      exact Nat.zero_le _
    · rw [still idle]
  · intro approvalId record found
    rcases effect.stored found with held | ⟨_, caller, granted⟩
    · exact held
    · rcases granted.asked with ⟨_, answered, _⟩ | ⟨_, answered⟩
      · cases failed.symm.trans answered
      · cases failed.symm.trans answered
  · intro on
    by_contra off
    rcases effect.freed (Bool.eq_false_iff.mpr off) with free | ⟨_, _, answered, _⟩
    · exact Bool.false_ne_true (free.symm.trans on)
    · cases failed.symm.trans answered

theorem ArmAudited.step (audited : ArmAudited trace kernel)
    (moved : kernel.step (moment, call) = some (next, report)) :
    ArmAudited (trace ++ [((moment, call), report)]) next := by
  obtain ⟨rfl, rfl, effect⟩ := SafetyKernel.step_effect moved
  intro raised
  have extended : ∀ request back, (∀ entry ∈ request :: back,
      entry.2.after.armController.state ≠ .disarmed) →
      ∀ entry ∈ request :: (back ++ [((moment, call), report)]),
        entry.2.after.armController.state ≠ .disarmed := by
    intro request back earlier entry member
    rw [← List.cons_append] at member
    rcases List.mem_append.mp member with old | last
    · exact earlier entry old
    · rw [List.mem_singleton.mp last]
      exact raised
  rcases effect.raised raised with same |
      ⟨arming, _, _, called, answered, event, recorded, named⟩ |
      ⟨_, arming, _, called, answered, event, recorded, named⟩
  · obtain ⟨front, request, back, rfl, requests, accepted, kept, confirmed⟩ :=
      audited (same ▸ raised)
    refine ⟨front, request, back ++ [_], by simp, requests, accepted, extended _ _ kept, ?_⟩
    intro armed
    obtain ⟨confirmation, member, kept⟩ := confirmed (same ▸ armed)
    exact ⟨confirmation, List.mem_append_left _ member, kept⟩
  · refine ⟨trace, _, [], rfl, ⟨called, answered⟩, ⟨event, recorded, named⟩, ?_, ?_⟩
    · intro entry member
      rw [List.mem_singleton.mp member]
      exact raised
    · intro armed
      cases arming.symm.trans armed
  · have pending : report.before.armController.state ≠ .disarmed := by
      rw [arming]
      exact ArmState.noConfusion
    obtain ⟨front, request, back, rfl, requests, accepted, kept, _⟩ := audited pending
    refine ⟨front, request, back ++ [_], by simp, requests, accepted, extended _ _ kept, ?_⟩
    intro _
    exact ⟨_, List.mem_append_right _ (List.mem_singleton_self _), ⟨called, answered⟩, event,
      recorded, named⟩

/-- A grant leaves its approval under its id, unspent. -/
theorem grant_stores {approval : Approval} {caller : CallerIdentity}
    (effect : SafetyKernel.Effect kernel moment call reply)
    (granted : SafetyKernel.Grant kernel call reply approval caller) :
    reply.kernel.approvals.get approval.approvalId = some ⟨approval, false⟩ := by
  rcases granted.asked with ⟨⟨spec, rfl⟩, answered, _⟩ | ⟨rfl, answered⟩
  · cases effect with
    | granted free bears issued audited =>
      cases answered
      exact ApprovalStore.get_put_self _ _
    | dropped drops quiet =>
      obtain ⟨held, same⟩ := quiet _ answered
      cases same
    | refused => cases answered
    | kept asks => cases asks
    | disarmed disarms => cases disarms
    | cleared clears => cases clears
  · cases effect with
    | storeGranted bears issued => exact ApprovalStore.get_put_self _ _
    | refused => cases answered
    | kept asks => cases asks
    | disarmed disarms => cases disarms
    | dropped drops => cases drops
    | cleared clears => cases clears

theorem GrantsAudited.step (audited : GrantsAudited trace kernel)
    (own : OwnMethods kernel (moment, call))
    (moved : kernel.step (moment, call) = some (next, report)) :
    GrantsAudited (trace ++ [((moment, call), report)]) next := by
  obtain ⟨rfl, rfl, effect⟩ := SafetyKernel.step_effect moved
  intro approvalId record found
  by_cases regranted : ∃ approval caller, approval.approvalId = approvalId ∧
      SafetyKernel.Grant report.before call (Entry.reply ((moment, call), report)) approval caller
  · -- The call replaced whatever was held under the id.
    obtain ⟨approval, caller, rfl, granted⟩ := regranted
    have stored : report.after.approvals.get approval.approvalId = some ⟨approval, false⟩ :=
      grant_stores effect granted
    obtain rfl := Option.some.inj (found.symm.trans stored)
    rcases granted.asked with ⟨_, _, _, event, recorded, named⟩ | ⟨rfl, _⟩
    · exact ⟨trace, _, [], caller, rfl, granted, ⟨event, recorded, named⟩,
        fun _ member => (by cases member)⟩
    · exact own.elim
  · rcases effect.stored found with ⟨consumed, held, _⟩ | ⟨_, caller, granted⟩
    · obtain ⟨front, grant, back, caller, rfl, granted, accepted, last⟩ := audited _ _ held
      refine ⟨front, grant, back ++ [((moment, call), report)], caller, by simp, granted, accepted, ?_⟩
      intro entry member approval grantor again same
      rcases List.mem_append.mp member with old | new
      · exact last entry old approval grantor again same
      · rw [List.mem_singleton.mp new] at again
        exact regranted ⟨approval, grantor, same, again⟩
    · exact absurd ⟨record.approval, caller, ApprovalStore.get_id found, granted⟩ regranted

end Step

/-- The authority of a run is on record: what is held now, and what every call did. -/
structure Accountable (trace : List Entry) (kernel : SafetyKernel) : Prop where
  arm : ArmAudited trace kernel
  grants : GrantsAudited trace kernel
  releases : ∀ entry ∈ trace, entry.2.before.emergency.engaged = true →
    entry.2.after.emergency.engaged = false → entry.Accepted .emergencyStopReleased
  failures : ∀ entry ∈ trace, ∀ fault, entry.2.result = .error fault →
    NoMorePermissive entry.2.after entry.2.before

section Run

variable {trace : List Entry} {kernel : SafetyKernel} {permissions : PermissionSet}
  {policy : SafetyPolicy}

/-- Every entry of a run is its call's effect. -/
theorem entry_effect {entry : Entry} (path : Path SafetyKernel.step OwnMethods
      (SafetyKernel.start permissions policy) trace kernel) (member : entry ∈ trace) :
    SafetyKernel.Effect entry.2.before entry.1.1 entry.1.2 entry.reply := by
  obtain ⟨front, back, rfl⟩ := List.append_of_mem member
  obtain ⟨before, after, _, _, moved, _⟩ := path.at_label
  obtain ⟨rfl, rfl, effect⟩ := SafetyKernel.step_effect moved
  exact effect

theorem no_unaudited_authority
    (path : Path SafetyKernel.step OwnMethods (SafetyKernel.start permissions policy) trace kernel) :
    Accountable trace kernel := by
  refine ⟨?_, ?_, ?_, ?_⟩
  · refine path.preserves_trace ArmAudited (fun raised => absurd rfl raised) ?_
    rintro trace state ⟨moment, call⟩ next output _ audited _ moved
    exact audited.step moved
  · refine path.preserves_trace GrantsAudited (fun _ _ found => (by cases found)) ?_
    rintro trace state ⟨moment, call⟩ next output _ audited own moved
    exact audited.step own moved
  · intro entry member on off
    rcases (entry_effect path member).freed off with free | ⟨_, _, _, event, recorded, named⟩
    · exact absurd (free.symm.trans on) Bool.false_ne_true
    · exact ⟨event, recorded, named⟩
  · intro entry member fault failed
    exact failed_noMorePermissive (entry_effect path member) failed

end Run

/-- A call during which the sink takes nothing. -/
def refusing : Moment := { honest with sinkAccepts := false }

theorem no_unaudited_authority_armed :
    ∃ trace kernel, Path SafetyKernel.step OwnMethods
        (SafetyKernel.start samplePermissions standardPolicy) trace kernel ∧
      kernel.armController.state = .armed ∧
      kernel.approvals.outstanding = [⟨sampleSpec, .humanOperator⟩] ∧ Accountable trace kernel := by
  have evaluated : (follow SafetyKernel.step (SafetyKernel.start samplePermissions standardPolicy)
      ((refusing, .grantApproval sampleSpec operator) :: authorising)).map
        (fun reached => (reached.1.armController.state, reached.1.approvals.outstanding)) =
          some (.armed, [⟨sampleSpec, .humanOperator⟩]) := by
    decide +kernel
  have own : ∀ label ∈ (refusing, Call.grantApproval sampleSpec operator) :: authorising,
      ∀ kernel, OwnMethods kernel label := by
    simp [authorising, OwnMethods]
  obtain ⟨trace, kernel, path, seen⟩ := Path.observed _
    (fun state : SafetyKernel => (state.armController.state, state.approvals.outstanding)) _
    own evaluated
  obtain ⟨armed, held⟩ := Prod.mk.inj seen
  exact ⟨trace, kernel, path, armed, held, no_unaudited_authority path⟩

end CanX.Safety
