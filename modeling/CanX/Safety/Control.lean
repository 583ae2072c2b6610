import CanX.Safety.Policy

/-! The arm machine and the global emergency stop. -/

namespace CanX.Safety

/-- The arm state and the scope that accompanies it. -/
structure ArmController where
  state : ArmState
  scope : Option ArmScope
  deriving DecidableEq

def noTransition (current target : ArmState) : SafetyFault :=
  ⟨.state, "The arm state machine has no " ++ current.value ++ " → " ++ target.value ++
    " transition."⟩

namespace ArmController

/-- `disarm`: idempotent, from any state. -/
def disarmed : ArmController := ⟨.disarmed, none⟩

/-- `active_scope`: the clock is read only while the machine is armed. -/
def activeScope (arm : ArmController) (now : Reading) : Except SafetyFault (Option ArmScope) :=
  match arm.state, arm.scope with
  | .armed, some scope => do
    let reading ← now
    pure (if scope.isExpired reading then none else some scope)
  | _, _ => .ok none

def request (arm : ArmController) (scope : ArmScope) (now : Reading) :
    Except SafetyFault ArmController := do
  require (arm.state = .disarmed) (noTransition arm.state .arming)
  let reading ← now
  require (scope.isExpired reading = false)
    ⟨.scope, "An already-expired scope cannot be presented for arming."⟩
  pure ⟨.arming, some scope⟩

def scopeLapsed : SafetyFault := ⟨.scope, "The arm scope expired before it was confirmed."⟩

/-- `confirm`: a scope that lapsed returns the machine to `DISARMED` before it raises. -/
def confirm (arm : ArmController) (now : Reading) : ArmController × Except SafetyFault Unit :=
  match arm.state with
  | .arming =>
    match now with
    | .error fault => (arm, .error fault)
    | .ok reading =>
      match arm.scope with
      | some scope =>
        if scope.isExpired reading then (disarmed, .error scopeLapsed)
        else (⟨.armed, some scope⟩, .ok ())
      | none => (disarmed, .error scopeLapsed)
  | other => (arm, .error (noTransition other .armed))

theorem activeScope_ok {arm : ArmController} {now : Reading} {scope : ArmScope}
    (live : arm.activeScope now = .ok (some scope)) :
    arm.state = .armed ∧ arm.scope = some scope ∧
      ∃ reading, now = .ok reading ∧ scope.isExpired reading = false := by
  unfold activeScope at live
  split at live
  · rename_i held armed attached
    cases now with
    | error fault => cases live
    | ok reading =>
      simp only [bind, Except.bind, pure, Except.pure, Except.ok.injEq] at live
      split at live
      · cases live
      · rename_i unexpired
        cases live
        exact ⟨armed, attached, reading, rfl, Bool.eq_false_iff.mpr unexpired⟩
  · cases live

theorem request_ok {arm after : ArmController} {scope : ArmScope} {now : Reading}
    (requested : arm.request scope now = .ok after) :
    arm.state = .disarmed ∧ after = ⟨.arming, some scope⟩ := by
  unfold request at requested
  by_cases idle : arm.state = .disarmed
  · simp only [require, idle, if_true, bind, Except.bind] at requested
    cases now with
    | error fault => cases requested
    | ok reading =>
      by_cases live : scope.isExpired reading = false
      · simp only [live, if_true, pure, Except.pure, Except.ok.injEq] at requested
        exact ⟨idle, requested.symm⟩
      · simp [live] at requested
  · simp [require, idle, bind, Except.bind] at requested

/-- A confirmation arms the machine, leaves it as it is, or disarms it. -/
theorem confirm_cases (arm : ArmController) (now : Reading) :
    (∃ scope, arm.state = .arming ∧ arm.scope = some scope ∧
      arm.confirm now = (⟨.armed, some scope⟩, .ok ())) ∨
    ∃ fault, arm.confirm now = (arm, .error fault) ∨ arm.confirm now = (disarmed, .error fault) := by
  cases state : arm.state with
  | arming =>
    cases now with
    | error fault => exact .inr ⟨fault, .inl (by simp [confirm, state])⟩
    | ok reading =>
      cases attached : arm.scope with
      | none => exact .inr ⟨scopeLapsed, .inr (by simp [confirm, state, attached])⟩
      | some scope =>
        by_cases lapsed : scope.isExpired reading = true
        · exact .inr ⟨scopeLapsed, .inr (by simp [confirm, state, attached, lapsed])⟩
        · exact .inl ⟨scope, rfl, rfl, by simp [confirm, state, attached, lapsed]⟩
  | disarmed => exact .inr ⟨noTransition .disarmed .armed, .inl (by simp only [confirm, state])⟩
  | armed => exact .inr ⟨noTransition .armed .armed, .inl (by simp only [confirm, state])⟩

end ArmController

inductive CancellationFailureCode where
  | cancellerRaised
  | cancellerInvalidReference
  | cancellerContractViolation
  deriving DecidableEq

structure CancellationFailure where
  cancellerId : AuditIdentifier
  failureCode : CancellationFailureCode
  failureType : Option AuditIdentifier
  deriving DecidableEq

/-- A snapshot of the global stop. -/
structure EmergencyStopState where
  engaged : Bool
  engagedAt : Option Rat
  reasonDigest : Option Sha256Digest
  requestedCancellations : List AuditIdentifier
  cancellationFailures : List CancellationFailure
  deriving DecidableEq

def EmergencyStopState.released : EmergencyStopState := ⟨false, none, none, [], []⟩

/-- One element of what a canceller returned: text, or a value of another type. -/
inductive CancellerValue where
  | text (value : String)
  | other (typeName : String)

/-- How a canceller answered. -/
inductive CancellerAnswer where
  | raised (typeName : String)
  | malformed
  | returned (values : List CancellerValue)

def identifierOrNone (value : String) : Option AuditIdentifier :=
  (validateAuditIdentifier value "cancellation failure type").toOption

/-- A call of `engage` in progress: whom it still has to ask, and what it was told. -/
structure Engagement where
  caller : CallerIdentity
  reasonDigest : Option Sha256Digest
  remaining : List AuditIdentifier
  requested : List AuditIdentifier
  failures : List CancellationFailure
  deriving DecidableEq

namespace Engagement

def failed (engagement : Engagement) (cancellerId : AuditIdentifier)
    (code : CancellationFailureCode) (typeName : Option AuditIdentifier) : Engagement :=
  { engagement with
    failures := engagement.failures ++ [⟨cancellerId, code, typeName⟩] }

def keepReference (cancellerId : AuditIdentifier) (engagement : Engagement) :
    CancellerValue → Engagement
  | .text value =>
    match validateAuditIdentifier value "operation identifier" with
    | .ok reference => { engagement with requested := engagement.requested ++ [reference] }
    | .error _ =>
      engagement.failed cancellerId .cancellerInvalidReference (identifierOrNone "str")
  | .other typeName =>
    engagement.failed cancellerId .cancellerInvalidReference (identifierOrNone typeName)

/-- `_request_cancellation`, which never raises. -/
def heard (engagement : Engagement) (cancellerId : AuditIdentifier) :
    CancellerAnswer → Engagement
  | .raised typeName =>
    engagement.failed cancellerId .cancellerRaised (identifierOrNone typeName)
  | .malformed => engagement.failed cancellerId .cancellerContractViolation none
  | .returned values => values.foldl (keepReference cancellerId) engagement

end Engagement

/-- `_read_engaged_at`: a clock that does not answer honestly leaves no time. -/
def readEngagedAt : Reading → Option Rat
  | .ok (.finite now) => some now
  | _ => none

end CanX.Safety
