import Mathlib.Data.List.Basic

/-! Faults, clock readings, audit identifiers and callers of the safety domain. A Python
constructor check is a field of its structure, so a value that exists has passed it. -/

namespace CanX.Safety

/-- The exception classes a caller can tell apart; `foreign` is every other exception. -/
inductive FaultKind where
  | state
  | emergencyStop
  | scope
  | unknownOperation
  | caller
  | approval
  | approvalExpired
  | approvalReused
  | approvalProvenance
  | audit
  | identifier
  | rollback
  | foreign
  deriving DecidableEq

def FaultKind.code : FaultKind → Option String
  | state => some "safety.invalid_transition"
  | emergencyStop => some "safety.emergency_stop_active"
  | scope => some "safety.invalid_scope"
  | unknownOperation => some "safety.unknown_operation"
  | caller => some "safety.caller_not_permitted"
  | approval => some "safety.approval_invalid"
  | approvalExpired => some "safety.approval_expired"
  | approvalReused => some "safety.approval_reused"
  | approvalProvenance => some "safety.approval_provenance"
  | audit => some "safety.audit_failure"
  | identifier => some "safety.invalid_identifier"
  | rollback => some "safety.rollback_failure"
  | foreign => none

structure SafetyFault where
  kind : FaultKind
  message : String
  deriving DecidableEq

/-- An exception that is not one of this domain's. -/
def foreignFault : SafetyFault := ⟨.foreign, ""⟩

def require (condition : Prop) [Decidable condition] (fault : SafetyFault) :
    Except SafetyFault Unit :=
  if condition then .ok () else .error fault

theorem require_ok {condition : Prop} [Decidable condition] {fault : SafetyFault} :
    require condition fault = .ok () ↔ condition := by
  unfold require
  split <;> simp_all

theorem require_bind_ok {condition : Prop} [Decidable condition] {fault : SafetyFault}
    {rest : Unit → Except SafetyFault Unit} :
    (require condition fault >>= rest) = .ok () ↔ condition ∧ rest () = .ok () := by
  unfold require
  split <;> simp_all [bind, Except.bind]

/-- A Python float, with exact rationals for its finite values. -/
inductive PyFloat where
  | nan
  | negativeInfinity
  | positiveInfinity
  | finite (value : Rat)
  deriving DecidableEq

namespace PyFloat

def isFinite : PyFloat → Bool
  | finite _ => true
  | _ => false

/-- `first < second`, which is false whenever one side is NaN. -/
def below : PyFloat → PyFloat → Bool
  | nan, _ | _, nan => false
  | negativeInfinity, negativeInfinity => false
  | negativeInfinity, _ => true
  | positiveInfinity, _ => false
  | finite _, negativeInfinity => false
  | finite _, positiveInfinity => true
  | finite first, finite second => first < second

end PyFloat

/-- `has_lapsed`: written so that a NaN reading counts as lapsed. -/
def hasLapsed (now expiresAt : PyFloat) : Bool := !now.below expiresAt

/-- What one call of the injected clock gives: a float, or an exception. -/
abbrev Reading := Except SafetyFault PyFloat

def maxAuditIdentifierLength : Nat := 64

def auditIdentifierAlphabet : String :=
  "abcdefghijklmnopqrstuvwxyz" ++ "ABCDEFGHIJKLMNOPQRSTUVWXYZ" ++ "0123456789" ++ "._:-"

def isAuditIdentifier (text : String) : Bool :=
  text ≠ "" && text.length ≤ maxAuditIdentifierLength &&
    text.toList.all (· ∈ auditIdentifierAlphabet.toList)

/-- A validated audit reference. -/
structure AuditIdentifier where
  text : String
  bounded : isAuditIdentifier text = true
  deriving DecidableEq

def validateAuditIdentifier (value role : String) : Except SafetyFault AuditIdentifier :=
  if value = "" then .error ⟨.identifier, "A " ++ role ++ " must be a non-empty string."⟩
  else if bounded : isAuditIdentifier value = true then .ok ⟨value, bounded⟩
  else .error ⟨.identifier, "A " ++ role ++ " must be a bounded identifier, not free-form text."⟩

def isSha256Digest (text : String) : Bool :=
  text.length = 64 && text.toList.all (· ∈ "0123456789abcdef".toList)

structure Sha256Digest where
  text : String
  hexadecimal : isSha256Digest text = true
  deriving DecidableEq

inductive CallerKind where
  | humanUi
  | agent
  | script
  | automation
  | system
  deriving DecidableEq

def CallerKind.value : CallerKind → String
  | humanUi => "human.ui"
  | agent => "agent"
  | script => "script"
  | automation => "automation"
  | system => "system"

/-- The kinds that may supply an authority. -/
def CallerKind.authorityBearing : CallerKind → Bool
  | humanUi | system => true
  | _ => false

structure CallerIdentity where
  kind : CallerKind
  callerId : AuditIdentifier
  deriving DecidableEq

namespace CallerIdentity

def mayIssueApproval (caller : CallerIdentity) : Bool := caller.kind.authorityBearing

def mayControlArm (caller : CallerIdentity) : Bool := caller.kind.authorityBearing

def mayReleaseEmergencyStop (caller : CallerIdentity) : Bool := caller.kind.authorityBearing

end CallerIdentity

end CanX.Safety
