import CanX.Safety.Accountability

/-! A single-use approval authorises at most one operation, and a refusal spends none. -/

namespace CanX.Safety

open Transition

/-- Whether an evaluation of this class asks for an approval. -/
def consultsApproval (policy : SafetyPolicy) (operationClass : String) : Bool :=
  match operationPolicy operationClass with
  | .ok operation =>
    operation.effectRisk.isDangerous && (policy.approvalRequirement operation.effectRisk).required
  | .error _ => false

namespace Entry

/-- The entry is an evaluation that spent the approval stored under an id. -/
def spends (approvalId : AuditIdentifier) (entry : Entry) : Bool :=
  match entry.1.2 with
  | .evaluate _ =>
    (entry.2.before.approvals.get approvalId).any (!·.consumed) &&
      (entry.2.after.approvals.get approvalId).any (·.consumed)
  | _ => false

/-- The entry is an evaluation that answered `ALLOW` on the approval under an id. -/
def allowsOn (approvalId : AuditIdentifier) (entry : Entry) : Bool :=
  match entry.1.2, entry.2.result with
  | .evaluate request, .ok (.decision decision) =>
    decision.outcome = .allow && request.approvalId = some approvalId &&
      consultsApproval entry.2.before.policy request.operationClass
  | _, _ => false

end Entry

theorem Entry.spends_true {entry : Entry} {approvalId : AuditIdentifier}
    (spends : entry.spends approvalId = true) :
    (∃ record, entry.2.before.approvals.get approvalId = some record ∧ record.consumed = false) ∧
      ∃ record, entry.2.after.approvals.get approvalId = some record ∧ record.consumed = true := by
  unfold Entry.spends at spends
  split at spends
  · simpa only [Bool.and_eq_true, Option.any_eq_true, Bool.not_eq_true'] using spends
  · cases spends

/-- What a part of a run without a new grant has done with the approval under an id. -/
structure SpentOnce (approval : Approval) (segment : List Entry) (kernel : SafetyKernel) : Prop where
  same : ∀ record, kernel.approvals.get approval.approvalId = some record →
    record.approval = approval
  once : segment.countP (Entry.spends approval.approvalId) ≤ 1
  spent : segment.countP (Entry.spends approval.approvalId) = 1 →
    ∀ record, kernel.approvals.get approval.approvalId = some record → record.consumed = true
  counted : segment.countP (Entry.allowsOn approval.approvalId) ≤
    segment.countP (Entry.spends approval.approvalId)

section Step

variable {kernel next : SafetyKernel} {moment : Moment} {call : Call} {report : Report}
  {approval : Approval} {segment : List Entry}

/-- An `ALLOW` on a stored single-use approval spends it. -/
theorem allowsOn_spends
    (same : ∀ record, kernel.approvals.get approval.approvalId = some record →
      record.approval = approval)
    (single : approval.singleUse = true)
    (moved : kernel.step (moment, call) = some (next, report))
    (allows : Entry.allowsOn approval.approvalId ((moment, call), report) = true) :
    Entry.spends approval.approvalId ((moment, call), report) = true := by
  obtain ⟨rfl, rfl, _⟩ := SafetyKernel.step_effect moved
  unfold Entry.allowsOn at allows
  split at allows
  · rename_i request decision called answered
    cases called
    simp only [Bool.and_eq_true, decide_eq_true_eq] at allows
    obtain ⟨⟨permit, presented⟩, consults⟩ := allows
    unfold consultsApproval at consults
    split at consults
    · rename_i operation classified
      simp only [Bool.and_eq_true] at consults
      obtain ⟨context, _, allowed⟩ :=
        SafetyKernel.allowed_of_verdict moved answered permit classified
      obtain ⟨approvalId, candidate, named, spent⟩ := allowed.approved consults.1 consults.2
      obtain rfl := Option.some.inj (named.symm.trans presented)
      obtain ⟨unspent, _, after⟩ := ApprovalStore.consume_ok spent
      obtain rfl := same _ unspent
      rw [if_pos single] at after
      simp only [Entry.spends, unspent, after, Option.any_some, Bool.not_false]
      exact congrArg (Option.any _) (ApprovalStore.get_put_self _ ⟨candidate, true⟩)
    · cases consults
  · cases allows

theorem SpentOnce.step (spentOnce : SpentOnce approval segment kernel)
    (single : approval.singleUse = true)
    (fresh : ∀ other caller, Entry.Granted ((moment, call), report) other caller →
      other.approvalId ≠ approval.approvalId)
    (moved : kernel.step (moment, call) = some (next, report)) :
    SpentOnce approval (segment ++ [((moment, call), report)]) next := by
  have spends := allowsOn_spends spentOnce.same single moved
  obtain ⟨rfl, rfl, effect⟩ := SafetyKernel.step_effect moved
  have held : ∀ record, report.after.approvals.get approval.approvalId = some record →
      ∃ consumed, report.before.approvals.get approval.approvalId =
        some ⟨record.approval, consumed⟩ ∧ (consumed = true → record.consumed = true) := by
    intro record found
    rcases effect.stored found with before | ⟨_, caller, granted⟩
    · exact before
    · exact absurd (ApprovalStore.get_id found) (fresh _ caller granted)
  have same : ∀ record, report.after.approvals.get approval.approvalId = some record →
      record.approval = approval := by
    intro record found
    obtain ⟨consumed, before, _⟩ := held record found
    exact spentOnce.same ⟨record.approval, consumed⟩ before
  have last : (segment ++ [((moment, call), report)]).countP (Entry.allowsOn approval.approvalId) ≤
      (segment ++ [((moment, call), report)]).countP (Entry.spends approval.approvalId) := by
    have counted := spentOnce.counted
    rw [List.countP_append, List.countP_append, List.countP_singleton, List.countP_singleton]
    split
    · rename_i allows
      rw [if_pos (spends allows)]
      omega
    · omega
  by_cases spending : Entry.spends approval.approvalId ((moment, call), report) = true
  · obtain ⟨⟨record, found, open_⟩, stored, after, closed⟩ := Entry.spends_true spending
    have unspent : segment.countP (Entry.spends approval.approvalId) = 0 := by
      by_contra before
      have one : segment.countP (Entry.spends approval.approvalId) = 1 := by
        have once := spentOnce.once
        omega
      exact Bool.false_ne_true (open_.symm.trans (spentOnce.spent one record found))
    refine ⟨same, ?_, ?_, last⟩
    · rw [List.countP_append, List.countP_singleton, if_pos spending, unspent]
    · intro _ later held
      obtain rfl := Option.some.inj (after.symm.trans held)
      exact closed
  · have unchanged : (segment ++ [((moment, call), report)]).countP
        (Entry.spends approval.approvalId) = segment.countP (Entry.spends approval.approvalId) := by
      rw [List.countP_append, List.countP_singleton, if_neg spending, Nat.add_zero]
    refine ⟨same, unchanged ▸ spentOnce.once, ?_, last⟩
    intro one record found
    obtain ⟨consumed, before, kept⟩ := held record found
    exact kept (spentOnce.spent (unchanged ▸ one) _ before)

/-- A refusal leaves the store as it was. -/
theorem denied_keeps {request : OperationRequest} {decision : PolicyDecision}
    (moved : kernel.step (moment, .evaluate request) = some (next, report))
    (answered : report.result = .ok (.decision decision)) (denied : decision.outcome = .deny) :
    next.approvals = kernel.approvals := by
  obtain ⟨context, _, verdict⟩ := (SafetyKernel.step_effect moved).2.2.told answered
  rcases SafetyPolicy.decide_cases verdict with ⟨operation, permit, _⟩ | ⟨_, same⟩
  · rw [permit] at denied
    cases denied
  · exact same

end Step

/-- What evaluations do with approvals, over a whole run. -/
structure SingleUse (trace : List Entry) : Prop where
  once : ∀ front grant segment rest approval caller,
    trace = front ++ grant :: (segment ++ rest) → grant.Granted approval caller →
    approval.singleUse = true →
    (∀ entry ∈ segment, ∀ other grantor, entry.Granted other grantor →
      other.approvalId ≠ approval.approvalId) →
    segment.countP (Entry.spends approval.approvalId) ≤ 1 ∧
      segment.countP (Entry.allowsOn approval.approvalId) ≤ 1
  kept : ∀ entry ∈ trace, ∀ request decision, entry.1.2 = .evaluate request →
    entry.2.result = .ok (.decision decision) → decision.outcome = .deny →
    entry.2.after.approvals = entry.2.before.approvals

private theorem segment_spentOnce {approval : Approval} {source kernel : SafetyKernel}
    {segment : List Entry} (stored : source.approvals.get approval.approvalId = some ⟨approval, false⟩)
    (single : approval.singleUse = true)
    (fresh : ∀ entry ∈ segment, ∀ other grantor, entry.Granted other grantor →
      other.approvalId ≠ approval.approvalId)
    (path : Path SafetyKernel.step anyLabel source segment kernel) :
    SpentOnce approval segment kernel := by
  induction path with
  | refl =>
    refine ⟨fun record found => ?_, by simp, fun one => by simp at one, by simp⟩
    rw [← Option.some.inj (stored.symm.trans found)]
  | @snoc trace middle label target output prior admitted moved ih =>
    have earlier := ih fun entry member => fresh entry (List.mem_append_left _ member)
    exact earlier.step single
      (fresh _ (List.mem_append_right _ (List.mem_singleton_self _))) moved

theorem single_use {permissions : PermissionSet} {policy : SafetyPolicy} {trace : List Entry}
    {kernel : SafetyKernel}
    (path : Path SafetyKernel.step anyLabel (SafetyKernel.start permissions policy) trace kernel) :
    SingleUse trace := by
  constructor
  · rintro front ⟨⟨moment, call⟩, report⟩ segment rest approval caller rfl granted single fresh
    obtain ⟨before, after, _, _, moved, onward⟩ := path.at_label
    obtain ⟨reached, run, _⟩ := onward.split
    obtain ⟨rfl, rfl, effect⟩ := SafetyKernel.step_effect moved
    have stored := grant_stores effect granted
    have spentOnce := segment_spentOnce stored single fresh run
    exact ⟨spentOnce.once, spentOnce.counted.trans spentOnce.once⟩
  · rintro ⟨⟨moment, call⟩, report⟩ member request decision called answered denied
    obtain ⟨front, back, rfl⟩ := List.append_of_mem member
    obtain ⟨before, after, _, _, moved, _⟩ := path.at_label
    obtain ⟨rfl, rfl, _⟩ := SafetyKernel.step_effect moved
    cases called
    exact denied_keeps moved answered denied

def verdicts (run : SafetyKernel × List Entry) : List DecisionOutcome :=
  run.2.filterMap fun entry =>
    match entry.2.result with
    | .ok (.decision decision) => some decision.outcome
    | _ => none

/-- The same request twice, on one approval. -/
theorem single_use_twice :
    ∃ trace kernel, Path SafetyKernel.step anyLabel
        (SafetyKernel.start samplePermissions standardPolicy) trace kernel ∧
      verdicts (kernel, trace) = [.allow, .deny] ∧ SingleUse trace := by
  have evaluated : (followWithin SafetyKernel.step (fun _ _ => true)
      (SafetyKernel.start samplePermissions standardPolicy)
      (authorising ++ [(honest, .evaluate sampleTransmit), (honest, .evaluate sampleTransmit)])).map
        verdicts = some [.allow, .deny] := by
    decide +kernel
  obtain ⟨trace, kernel, path, seen⟩ :=
    Path.observedWithin _ verdicts _ (fun _ _ _ => trivial) evaluated
  exact ⟨trace, kernel, path, seen, single_use path⟩

/-- A denial burns nothing: the approval still serves once the runtime is armed. -/
example : (follow SafetyKernel.step (SafetyKernel.start samplePermissions standardPolicy)
    [(honest, .grantApproval sampleSpec operator), (honest, .evaluate sampleTransmit),
      (honest, .arm sampleScope operator), (honest, .confirmArm operator), (honest, .evaluate sampleTransmit)]).map
        verdicts = some [.deny, .allow] := by
  decide +kernel

end CanX.Safety
