import CanX.Safety.Scope
import CanX.Storage.Table

/-! Approvals and the store that grants, spends and drops them. -/

namespace CanX.Safety

open Storage

inductive ApprovalIssuer where
  | humanOperator
  | hostSystem
  deriving DecidableEq

def ApprovalIssuer.value : ApprovalIssuer → String
  | humanOperator => "human.operator"
  | hostSystem => "host.system"

def callerRefused : SafetyFault :=
  ⟨.caller, "Only a human operator or the host system may issue an approval."⟩

/-- `_ISSUER_BY_CALLER_KIND`. -/
def issuerFor (caller : CallerIdentity) : Except SafetyFault ApprovalIssuer :=
  match caller.kind with
  | .humanUi => .ok .humanOperator
  | .system => .ok .hostSystem
  | _ => .error ⟨.approvalProvenance, "This caller kind cannot supply approval provenance."⟩

/-- What a caller asks to have approved. -/
@[ext] structure ApprovalSpec where
  approvalId : AuditIdentifier
  capability : Capability
  target : OperationTarget
  issuedAt : Rat
  expiresAt : Rat
  singleUse : Bool
  lasting : issuedAt < expiresAt

instance : DecidableEq ApprovalSpec := fun _ _ => decidable_of_iff _ ApprovalSpec.ext_iff.symm

/-- A narrow, expiring authorisation for one capability at one target. -/
structure Approval extends ApprovalSpec where
  issuer : ApprovalIssuer
  deriving DecidableEq

namespace Approval

def isExpired (approval : Approval) (now : PyFloat) : Bool :=
  hasLapsed now (.finite approval.expiresAt)

def covers (approval : Approval) (capability : Capability) (target : OperationTarget) : Bool :=
  approval.capability = capability && approval.target.covers target

def exactlyMatches (approval : Approval) (capability : Capability) (target : OperationTarget) :
    Bool :=
  approval.capability = capability && approval.target = target

end Approval

structure StoredApproval where
  approval : Approval
  consumed : Bool
  deriving DecidableEq

def StoredApproval.approvalId (record : StoredApproval) : AuditIdentifier :=
  record.approval.approvalId

/-- The approvals of one session, in the order a Python dict keeps them. -/
structure ApprovalStore where
  records : List StoredApproval
  keyed : (records.map StoredApproval.approvalId).Nodup
  deriving DecidableEq

namespace ApprovalStore

def empty : ApprovalStore := ⟨[], .nil⟩

def get (store : ApprovalStore) (approvalId : AuditIdentifier) : Option StoredApproval :=
  lookup StoredApproval.approvalId approvalId store.records

/-- `self._approvals[approval.approval_id] = _StoredApproval(approval)`. -/
def put (store : ApprovalStore) (record : StoredApproval) : ApprovalStore :=
  ⟨upsert StoredApproval.approvalId record store.records, upsert_nodup record store.keyed⟩

def grant (store : ApprovalStore) (approval : Approval) (grantedBy : CallerIdentity) :
    Except SafetyFault ApprovalStore := do
  require (grantedBy.mayIssueApproval = true) callerRefused
  let expected ← issuerFor grantedBy
  require (approval.issuer = expected) ⟨.approvalProvenance,
    "The approval's declared issuer is not the provenance of the caller supplying it."⟩
  pure (store.put ⟨approval, false⟩)

def unknownApproval : SafetyFault :=
  ⟨.approval, "The approval reference is not known to this runtime session."⟩

def alreadyConsumed : SafetyFault := ⟨.approvalReused, "This approval has already been consumed."⟩

/-- Resolve, validate and spend, in this order. -/
def consume (store : ApprovalStore) (approvalId : AuditIdentifier)
    (check : Approval → Except SafetyFault Unit) : Except SafetyFault (Approval × ApprovalStore) :=
  match store.get approvalId with
  | none => .error unknownApproval
  | some record =>
    match check record.approval with
    | .error fault => .error fault
    | .ok () =>
      if record.consumed then .error alreadyConsumed
      else if record.approval.singleUse then
        .ok (record.approval, store.put { record with consumed := true })
      else .ok (record.approval, store)

def drop (store : ApprovalStore) (approvalId : AuditIdentifier) : ApprovalStore :=
  ⟨remove StoredApproval.approvalId approvalId store.records,
    remove_nodup approvalId store.keyed⟩

/-- The store without an approval, and whether it was held. -/
def revoke (store : ApprovalStore) (approvalId : AuditIdentifier) : ApprovalStore × Bool :=
  (store.drop approvalId, (store.get approvalId).isSome)

def outstanding (store : ApprovalStore) : List Approval :=
  (store.records.filter (!·.consumed)).map StoredApproval.approval

theorem get_id {store : ApprovalStore} {approvalId : AuditIdentifier} {record : StoredApproval}
    (found : store.get approvalId = some record) : record.approvalId = approvalId :=
  lookup_key found

theorem get_put (store : ApprovalStore) (record : StoredApproval) (approvalId : AuditIdentifier) :
    (store.put record).get approvalId =
      if record.approvalId = approvalId then some record else store.get approvalId :=
  lookup_upsert _ _ _ _

theorem get_put_self (store : ApprovalStore) (record : StoredApproval) :
    (store.put record).get record.approvalId = some record := by
  rw [get_put, if_pos rfl]

theorem get_drop (store : ApprovalStore) (dropped approvalId : AuditIdentifier) :
    (store.drop dropped).get approvalId =
      if approvalId = dropped then none else store.get approvalId :=
  lookup_remove _ _ _ _

theorem drop_put (store : ApprovalStore) (record : StoredApproval) :
    (store.put record).drop record.approvalId = store.drop record.approvalId := by
  simp only [put, drop, remove_upsert]

/-- What a grant that succeeded has done. -/
theorem grant_ok {store after : ApprovalStore} {approval : Approval} {grantedBy : CallerIdentity}
    (granted : store.grant approval grantedBy = .ok after) :
    grantedBy.kind.authorityBearing = true ∧ issuerFor grantedBy = .ok approval.issuer ∧
      after = store.put ⟨approval, false⟩ := by
  unfold grant at granted
  by_cases permitted : grantedBy.mayIssueApproval = true
  · simp only [require, permitted, if_true, bind, Except.bind] at granted
    cases expected : issuerFor grantedBy with
    | error fault => simp [expected] at granted
    | ok issuer =>
      by_cases declared : approval.issuer = issuer
      · simp only [expected, declared, if_true, pure, Except.pure, Except.ok.injEq] at granted
        exact ⟨permitted, by rw [declared], granted.symm⟩
      · simp [expected, declared] at granted
  · simp [require, permitted, bind, Except.bind] at granted

/-- What a consumption that succeeded has checked and done. -/
theorem consume_ok {store after : ApprovalStore} {approvalId : AuditIdentifier}
    {check : Approval → Except SafetyFault Unit} {approval : Approval}
    (spent : store.consume approvalId check = .ok (approval, after)) :
    store.get approvalId = some ⟨approval, false⟩ ∧ check approval = .ok () ∧
      after = if approval.singleUse then store.put ⟨approval, true⟩ else store := by
  unfold consume at spent
  split at spent
  · cases spent
  rename_i record found
  split at spent
  · cases spent
  rename_i checked
  split at spent
  · cases spent
  rename_i unspent
  have fresh : record.consumed = false := Bool.eq_false_iff.mpr unspent
  split at spent
  · rename_i single
    cases spent
    rw [if_pos single, found]
    refine ⟨?_, checked, rfl⟩
    rw [← fresh]
  · rename_i multiple
    cases spent
    rw [if_neg multiple, found]
    refine ⟨?_, checked, rfl⟩
    rw [← fresh]

end ApprovalStore

end CanX.Safety
