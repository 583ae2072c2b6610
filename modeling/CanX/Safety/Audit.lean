import CanX.Safety.Control

/-! Audit events. An event that exists has passed its constructor's checks. -/

namespace CanX.Safety

structure AuditFields where
  eventId : AuditIdentifier
  recordedAt : PyFloat
  callerKind : String
  callerId : AuditIdentifier
  operationId : AuditIdentifier
  operationClass : String
  riskLevel : Option Nat
  deviceId : Option AuditIdentifier
  channel : Option AuditIdentifier
  targetAddress : Option Nat
  decision : String
  reasonCode : String
  message : String
  detail : Option String
  approvalId : Option AuditIdentifier
  parametersDigest : Option Sha256Digest
  reasonDigest : Option Sha256Digest
  armState : String
  armScopeExpired : Option Bool
  emergencyStopEngaged : Bool
  outcome : String
  deriving DecidableEq

namespace AuditFields

/-- `_EVENT_VOCABULARY_FIELDS`, with the role a refusal names. -/
def vocabulary (fields : AuditFields) : List (String × String) :=
  [(fields.callerKind, "caller kind"), (fields.operationClass, "operation class"),
    (fields.decision, "decision"), (fields.reasonCode, "reason code"),
    (fields.armState, "arm state"), (fields.outcome, "outcome")]

/-- `SafetyAuditEvent.__post_init__`; identifiers and digests are typed already. -/
def check (fields : AuditFields) : Except SafetyFault Unit := do
  require (fields.recordedAt.isFinite = true)
    ⟨.identifier, "A safety audit event must carry a finite recorded_at timestamp."⟩
  fields.vocabulary.forM fun (value, role) => do
    let _ ← validateAuditIdentifier value role
    pure ()

end AuditFields

/-- One safety decision or control action, recorded. -/
structure SafetyAuditEvent extends AuditFields where
  valid : toAuditFields.check = .ok ()
  deriving DecidableEq

def SafetyAuditEvent.make (fields : AuditFields) : Except SafetyFault SafetyAuditEvent :=
  match checked : fields.check with
  | .ok () => .ok ⟨fields, checked⟩
  | .error fault => .error fault

theorem SafetyAuditEvent.make_fields {fields : AuditFields} {event : SafetyAuditEvent}
    (made : SafetyAuditEvent.make fields = .ok event) : event.toAuditFields = fields := by
  unfold SafetyAuditEvent.make at made
  split at made <;> cases made
  rfl

/-- What the environment answers during one call: clock readings in the order they are
taken, the event identifier, the rendered detail, the digest of a reason, and whether
the sink accepts the event. -/
structure Moment where
  now : Reading
  scopeNow : Reading
  recordedAt : Reading
  scopeRecordedAt : Reading
  eventId : Except SafetyFault AuditIdentifier
  rendered : Except SafetyFault String
  reasonDigest : Except SafetyFault Sha256Digest
  sinkAccepts : Bool
  deriving DecidableEq

end CanX.Safety
