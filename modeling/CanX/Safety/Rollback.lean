import CanX.Safety.Accountability

/-! What an authority change that could not be recorded reports. -/

namespace CanX.Safety

/-- An authority change inside its audit transaction: the kernel it made, the transaction,
and the undo that runs if the transaction fails. -/
structure Attempt where
  changed : SafetyKernel
  record : Except SafetyFault SafetyAuditEvent
  undo : Except SafetyFault SafetyKernel

/-- The change a call takes into its transaction, if its own checks let it get there. -/
def SafetyKernel.attempt (kernel : SafetyKernel) (moment : Moment) : Call → Option Attempt
  | .arm scope caller =>
    (kernel.requestArm moment scope caller).toOption.map fun armController =>
      let changed := { kernel with armController }
      { changed
        record := do
          let detail ← moment.rendered
          changed.recordControl moment .armRequested caller (some detail) none
        undo := .ok changed.disarmed }
  | .confirmArm caller =>
    match kernel.requireConfirmation caller, kernel.armController.confirm moment.now with
    | .ok (), (armController, .ok ()) =>
      let changed := { kernel with armController }
      some
        { changed
          record := changed.recordControl moment .armConfirmed caller none none
          undo := .ok changed.disarmed }
    | _, _ => none
  | .grantApproval spec grantedBy =>
    (kernel.grantStored spec grantedBy).toOption.map fun (approval, approvals) =>
      let changed := { kernel with approvals }
      { changed
        record := do
          let detail ← moment.rendered
          changed.recordControl moment .approvalGranted grantedBy (some detail) none
        undo := .ok { changed with approvals := (approvals.revoke approval.approvalId).1 } }
  | .releaseEmergencyStop caller =>
    (requireReleaseAuthority caller).toOption.map fun _ =>
      { changed := kernel.released
        record := kernel.released.recordControl moment .emergencyStopReleased caller none none
        undo := do
          let emergency ← restoreEngagement kernel.emergency
          pure { kernel.released with emergency } }
  | _ => none

/-- After the call the kernel holds the authority the call adds, and before it did not. -/
def Adds (before after : SafetyKernel) : Call → Prop
  | .arm .. =>
    before.armController.state = .disarmed ∧ after.armController.state ≠ .disarmed
  | .confirmArm _ => before.armController.state ≠ .armed ∧ after.armController.state = .armed
  | .grantApproval spec _ => ∃ approval,
    after.approvals.get spec.approvalId = some ⟨approval, false⟩ ∧
      before.approvals.get spec.approvalId ≠ some ⟨approval, false⟩
  | .releaseEmergencyStop _ => before.emergency.engaged = true ∧ after.emergency.engaged = false
  | _ => False

namespace Report

def Raises (report : Report) (kind : FaultKind) : Prop :=
  ∃ fault, report.result = .error fault ∧ fault.kind = kind

/-- A failed rollback is reported exactly when authority was left behind, and otherwise
an audit failure is, with nothing more permitted than before. -/
structure Truthful (call : Call) (report : Report) : Prop where
  rollback : report.Raises .rollback ↔ Adds report.before report.after call
  otherwise : ¬ Adds report.before report.after call →
    report.Raises .audit ∧ NoMorePermissive report.after report.before

end Report

section Failure

variable {kernel next : SafetyKernel} {moment : Moment} {call : Call} {attempt : Attempt}
  {fault : SafetyFault} {report : Report}

private theorem commitWithAudit_map {Value Other : Type} (wrap : Value → Other) (changed : SafetyKernel)
    (record : Except SafetyFault SafetyAuditEvent) (undo : Except SafetyFault SafetyKernel)
    (answer : Value) :
    (changed.commitWithAudit record undo answer).map wrap =
      changed.commitWithAudit record undo (wrap answer) := by
  cases record with
  | ok event => rfl
  | error fault => cases undo <;> rfl

/-- A call that gets to its transaction commits it, or undoes it. -/
theorem attempt_performed (tried : kernel.attempt moment call = some attempt) :
    ∃ answer, kernel.perform moment call =
      some (attempt.changed.commitWithAudit attempt.record attempt.undo answer) := by
  cases call with
  | arm scope caller =>
    obtain ⟨armController, requested, rfl⟩ := Option.map_eq_some_iff.mp tried
    cases asked : kernel.requestArm moment scope caller with
    | error fault => simp [asked, Except.toOption] at requested
    | ok granted =>
      simp only [asked, Except.toOption, Option.some.injEq] at requested
      subst requested
      simp only [SafetyKernel.perform, SafetyKernel.arm, asked]
      exact ⟨_, congrArg some (commitWithAudit_map _ _ _ _ _)⟩
  | confirmArm caller =>
    simp only [SafetyKernel.attempt] at tried
    split at tried
    · rename_i checked confirmed
      cases tried
      simp only [SafetyKernel.perform, SafetyKernel.confirmArm, checked, confirmed]
      exact ⟨_, congrArg some (commitWithAudit_map _ _ _ _ _)⟩
    · cases tried
  | grantApproval spec grantedBy =>
    obtain ⟨stored, asked, rfl⟩ := Option.map_eq_some_iff.mp tried
    cases granted : kernel.grantStored spec grantedBy with
    | error fault => simp [granted, Except.toOption] at asked
    | ok pair =>
      simp only [granted, Except.toOption, Option.some.injEq] at asked
      subst asked
      simp only [SafetyKernel.perform, SafetyKernel.grantApproval, granted]
      exact ⟨_, congrArg some (commitWithAudit_map _ _ _ _ _)⟩
  | releaseEmergencyStop caller =>
    obtain ⟨permitted, asked, rfl⟩ := Option.map_eq_some_iff.mp tried
    cases checked : requireReleaseAuthority caller with
    | error fault => simp [checked, Except.toOption] at asked
    | ok permission =>
      simp only [SafetyKernel.perform, SafetyKernel.releaseEmergencyStop, checked]
      exact ⟨_, congrArg some (commitWithAudit_map _ _ _ _ _)⟩
  | _ => cases tried

/-- Only the undo of a release can fail, and it does when there was no engagement to restore. -/
theorem undo_failed (tried : kernel.attempt moment call = some attempt) :
    (∃ fault, attempt.undo = .error fault) ↔
      (∃ caller, call = .releaseEmergencyStop caller) ∧ kernel.emergency.engaged = false := by
  cases call with
  | arm scope caller =>
    obtain ⟨armController, requested, rfl⟩ := Option.map_eq_some_iff.mp tried
    simp
  | confirmArm caller =>
    simp only [SafetyKernel.attempt] at tried
    split at tried
    · cases tried
      simp
    · cases tried
  | grantApproval spec grantedBy =>
    obtain ⟨stored, asked, rfl⟩ := Option.map_eq_some_iff.mp tried
    simp
  | releaseEmergencyStop caller =>
    obtain ⟨permitted, asked, rfl⟩ := Option.map_eq_some_iff.mp tried
    by_cases engaged : kernel.emergency.engaged = true
    · simp [restoreEngagement, require, engaged, bind, Except.bind, pure, Except.pure]
    · simp [restoreEngagement, require, engaged, bind, Except.bind]
  | _ => cases tried

theorem NoMorePermissive.not_adds {before after : SafetyKernel}
    (reduced : NoMorePermissive after before) : ¬ Adds before after call := by
  intro added
  cases call with
  | arm scope caller =>
    obtain ⟨idle, raised⟩ := added
    rw [reduced.scope raised] at raised
    exact raised idle
  | confirmArm caller =>
    obtain ⟨unarmed, armed⟩ := added
    have raised : after.armController.state ≠ .disarmed := by simp [armed]
    rw [reduced.scope raised] at armed
    exact unarmed armed
  | grantApproval spec grantedBy =>
    obtain ⟨approval, held, absent⟩ := added
    obtain ⟨consumed, before, spent⟩ := reduced.approvals _ _ held
    cases consumed with
    | false => exact absent before
    | true => exact absurd (spent rfl) Bool.false_ne_true
  | releaseEmergencyStop caller =>
    obtain ⟨on, off⟩ := added
    exact Bool.false_ne_true (off.symm.trans (reduced.stop on))
  | _ => exact added

/-- How a call ends whose transaction failed. -/
theorem attempt_failed (tried : kernel.attempt moment call = some attempt)
    (failed : attempt.record = .error fault)
    (moved : kernel.step (moment, call) = some (next, report)) :
    (∃ raised, report.result = .error raised) ∧
      (report.Raises .rollback ↔ ∃ stuck, attempt.undo = .error stuck) ∧
      (report.Raises .audit ↔ ∃ restored, attempt.undo = .ok restored) := by
  obtain ⟨answer, performed⟩ := attempt_performed tried
  unfold SafetyKernel.step at moved
  split at moved
  · cases moved
  rw [performed, failed] at moved
  cases undone : attempt.undo with
  | error stuck =>
    rw [undone] at moved
    cases moved
    simp [Report.Raises, SafetyKernel.commitWithAudit, SafetyKernel.refused, SafetyKernel.rollbackFailed]
  | ok restored =>
    rw [undone] at moved
    cases moved
    by_cases audit : fault.kind = .audit
    · simp [Report.Raises, SafetyKernel.commitWithAudit, SafetyKernel.refused, audit]
    · simp [Report.Raises, SafetyKernel.commitWithAudit, SafetyKernel.refused, audit, SafetyKernel.notCommitted]

/-- The report of a change that could not be recorded is truthful unless the call was a
release of a stop that was not engaged. -/
theorem rollback_report_truthful (tried : kernel.attempt moment call = some attempt)
    (failed : attempt.record = .error fault)
    (moved : kernel.step (moment, call) = some (next, report)) :
    report.Truthful call ↔
      ¬ ((∃ caller, call = .releaseEmergencyStop caller) ∧ kernel.emergency.engaged = false) := by
  obtain ⟨⟨raised, ended⟩, rollback, audit⟩ := attempt_failed tried failed moved
  obtain ⟨rfl, rfl, effect⟩ := SafetyKernel.step_effect moved
  have reduced := failed_noMorePermissive effect ended
  have nothing : ¬ Adds report.before report.after call := reduced.not_adds
  rw [← undo_failed tried]
  constructor
  · intro truthful stuck
    exact nothing (truthful.rollback.mp (rollback.mpr stuck))
  · intro undone
    refine ⟨?_, ?_⟩
    · constructor
      · intro reported
        exact absurd (rollback.mp reported) undone
      · intro added
        exact absurd added nothing
    · intro _
      refine ⟨audit.mpr ?_, reduced⟩
      cases restored : attempt.undo with
      | error stuck => exact absurd ⟨stuck, restored⟩ undone
      | ok before => exact ⟨before, rfl⟩

end Failure

/-- Arming while the sink takes nothing: the request is undone and reported as such. -/
theorem rollback_report_truthful_arm :
    ∃ attempt fault next report,
      (SafetyKernel.start samplePermissions standardPolicy).attempt refusing
        (.arm sampleScope operator) = some attempt ∧ attempt.record = .error fault ∧
      (SafetyKernel.start samplePermissions standardPolicy).step
        (refusing, .arm sampleScope operator) = some (next, report) ∧
      report.Truthful (.arm sampleScope operator) :=
  have tried := rfl
  have moved := rfl
  ⟨_, _, _, _, tried, rfl, moved,
    (rollback_report_truthful tried rfl moved).mpr (by simp)⟩

/-- Releasing a stop that was never engaged, while the sink takes nothing, is reported as a
failed rollback although nothing is left behind. -/
theorem idle_release_reported :
    ∃ attempt fault next report,
      (SafetyKernel.start samplePermissions standardPolicy).attempt refusing
        (.releaseEmergencyStop operator) = some attempt ∧ attempt.record = .error fault ∧
      (SafetyKernel.start samplePermissions standardPolicy).step
        (refusing, .releaseEmergencyStop operator) = some (next, report) ∧
      report.result = .error SafetyKernel.rollbackFailed ∧
      ¬ Adds report.before report.after (.releaseEmergencyStop operator) ∧
      ¬ report.Truthful (.releaseEmergencyStop operator) := by
  have nothing : ∀ before after : SafetyKernel, before.emergency.engaged = false →
      ¬ Adds before after (.releaseEmergencyStop operator) := by
    intro before after idle added
    exact Bool.false_ne_true (idle.symm.trans added.1)
  refine ⟨_, _, _, _, rfl, rfl, rfl, rfl, nothing _ _ rfl, ?_⟩
  intro truthful
  exact nothing _ _ rfl (truthful.rollback.mp ⟨SafetyKernel.rollbackFailed, rfl, rfl⟩)

end CanX.Safety
