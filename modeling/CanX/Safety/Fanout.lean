import CanX.Safety.Rollback

/-! The kernel together with the stop controller it wires, whose own methods a canceller may
also call back. -/

namespace CanX.Safety

/-- What `attach_disarm` attached: the kernel's hook, or other code in its place. -/
inductive DisarmHook where
  | own
  | silent
  | raising
  deriving DecidableEq

/-- One entry for each call of `engage` in progress says whether it was made on the
controller itself. -/
structure WiredKernel where
  kernel : SafetyKernel
  hook : DisarmHook
  direct : List Bool

/-- A call of the kernel, a call of the controller's own methods, or an exception outside
`Exception` that leaves a canceller. -/
inductive Callback where
  | kernel (call : Call)
  | attachDisarm (hook : DisarmHook)
  | controllerEngage (caller : CallerIdentity)
  | controllerReturned
  | reset (caller : CallerIdentity)
  | restoreEngagement (state : EmergencyStopState)
  | escape

structure WiredReport where
  before : WiredKernel
  after : WiredKernel
  result : Except SafetyFault Outcome

namespace WiredKernel

def start (permissions : PermissionSet) (policy : SafetyPolicy) : WiredKernel :=
  ⟨.start permissions policy, .own, []⟩

def withKernel (wired : WiredKernel) (kernel : SafetyKernel) : WiredKernel :=
  { wired with kernel }

/-- `engage` up to its fan-out. The hook runs between the stop and the cancellers. -/
def engage (wired : WiredKernel) (moment : Moment) (caller : CallerIdentity) (direct : Bool) :
    WiredKernel × Except SafetyFault Outcome :=
  let engaged := wired.kernel.engageEmergencyStop moment caller
  match wired.hook with
  | .own => ({ wired with kernel := engaged, direct := direct :: wired.direct }, .ok .nothing)
  | .silent =>
    ({ wired with
        kernel := { engaged with armController := wired.kernel.armController }
        direct := direct :: wired.direct }, .ok .nothing)
  | .raising =>
    (wired.withKernel { wired.kernel with emergency := engaged.emergency }, .error foreignFault)

/-- The end of an `engage` that was called on the controller. -/
def controllerReturned (wired : WiredKernel) : Option (WiredKernel × EmergencyStopState) :=
  match wired.kernel.engagements, wired.direct with
  | ⟨_, _, [], requested, failures⟩ :: engagements, true :: direct =>
    let emergency := { wired.kernel.emergency with
      requestedCancellations := requested
      cancellationFailures := failures }
    some ({ wired with kernel := { wired.kernel with emergency, engagements }, direct }, emergency)
  | _, _ => none

/-- The exception also leaves the `engage` that was asking. -/
def escape (wired : WiredKernel) : Option WiredKernel :=
  match wired.kernel.engagements, wired.direct with
  | ⟨_, _, _ :: _, _, _⟩ :: engagements, _ :: direct =>
    some { wired with kernel := { wired.kernel with engagements }, direct }
  | _, _ => none

def reset (wired : WiredKernel) (caller : CallerIdentity) :
    WiredKernel × Except SafetyFault Outcome :=
  match requireReleaseAuthority caller with
  | .error fault => (wired, .error fault)
  | .ok () =>
    (wired.withKernel { wired.kernel with emergency := .released }, .ok (.stop .released))

def restore (wired : WiredKernel) (state : EmergencyStopState) :
    WiredKernel × Except SafetyFault Outcome :=
  match restoreEngagement state with
  | .error fault => (wired, .error fault)
  | .ok emergency =>
    (wired.withKernel { wired.kernel with emergency }, .ok (.stop emergency))

/-- A call of the kernel other than the two that open and close an engagement. -/
def performed (wired : WiredKernel) (label : Moment × Call) :
    Option (WiredKernel × Except SafetyFault Outcome) :=
  (wired.kernel.step label).map fun (kernel, report) => (wired.withKernel kernel, report.result)

def respond (wired : WiredKernel) (moment : Moment) :
    Callback → Option (WiredKernel × Except SafetyFault Outcome)
  | .kernel (.engageEmergencyStop caller) =>
    if wired.kernel.callable then some (wired.engage moment caller false) else none
  | .kernel .engagementReturned =>
    match wired.direct with
    | false :: direct => { wired with direct }.performed (moment, .engagementReturned)
    | _ => none
  | .kernel call => wired.performed (moment, call)
  | .attachDisarm hook => some ({ wired with hook }, .ok .nothing)
  | .controllerEngage caller =>
    if wired.kernel.callable then some (wired.engage moment caller true) else none
  | .controllerReturned =>
    wired.controllerReturned.map fun (returned, state) => (returned, .ok (.stop state))
  | .reset caller => some (wired.reset caller)
  | .restoreEngagement state => some (wired.restore state)
  | .escape => wired.escape.map fun left => (left, .error foreignFault)

def step (wired : WiredKernel) (label : Moment × Callback) : Option (WiredKernel × WiredReport) :=
  (wired.respond label.1 label.2).map fun (after, result) => (after, ⟨wired, after, result⟩)

/-- How many calls of `engage` are in progress. -/
def depth (wired : WiredKernel) : Nat := wired.kernel.engagements.length

end WiredKernel

abbrev WiredEntry := (Moment × Callback) × WiredReport

/-- The references an answer names, in order. -/
def CancellerAnswer.references : CancellerAnswer → List AuditIdentifier
  | .returned values => values.filterMap fun
    | .text value => (validateAuditIdentifier value "operation identifier").toOption
    | .other _ => none
  | _ => []

/-- The failures an answer of this canceller counts for. -/
def CancellerAnswer.failures (cancellerId : AuditIdentifier) :
    CancellerAnswer → List CancellationFailure
  | .raised typeName => [⟨cancellerId, .cancellerRaised, identifierOrNone typeName⟩]
  | .malformed => [⟨cancellerId, .cancellerContractViolation, none⟩]
  | .returned values => values.filterMap fun
    | .text value =>
      match validateAuditIdentifier value "operation identifier" with
      | .ok _ => none
      | .error _ => some ⟨cancellerId, .cancellerInvalidReference, identifierOrNone "str"⟩
    | .other typeName => some ⟨cancellerId, .cancellerInvalidReference, identifierOrNone typeName⟩

private theorem foldl_keepReference (cancellerId : AuditIdentifier) (values : List CancellerValue)
    (engagement : Engagement) :
    values.foldl (Engagement.keepReference cancellerId) engagement =
      { engagement with
        requested := engagement.requested ++ (CancellerAnswer.returned values).references
        failures := engagement.failures ++
          (CancellerAnswer.returned values).failures cancellerId } := by
  induction values generalizing engagement with
  | nil => simp [CancellerAnswer.references, CancellerAnswer.failures]
  | cons value rest ih =>
    rw [List.foldl_cons, ih]
    cases value with
    | other typeName =>
      simp [Engagement.keepReference, Engagement.failed, CancellerAnswer.references,
        CancellerAnswer.failures]
    | text value =>
      cases valid : validateAuditIdentifier value "operation identifier" with
      | ok reference =>
        simp [Engagement.keepReference, valid, CancellerAnswer.references,
          CancellerAnswer.failures, Except.toOption]
      | error fault =>
        simp [Engagement.keepReference, Engagement.failed, valid, CancellerAnswer.references,
          CancellerAnswer.failures, Except.toOption]

/-- What an engagement keeps of an answer. -/
theorem Engagement.heard_eq (engagement : Engagement) (cancellerId : AuditIdentifier)
    (answer : CancellerAnswer) :
    engagement.heard cancellerId answer =
      { engagement with
        requested := engagement.requested ++ answer.references
        failures := engagement.failures ++ answer.failures cancellerId } := by
  cases answer with
  | raised typeName => simp [heard, failed, CancellerAnswer.references, CancellerAnswer.failures]
  | malformed => simp [heard, failed, CancellerAnswer.references, CancellerAnswer.failures]
  | returned values => exact foldl_keepReference cancellerId values engagement

namespace WiredEntry

/-- The canceller that answered, at this depth of the fan-outs, and its answer. -/
def asked (depth : Nat) (entry : WiredEntry) : Option (AuditIdentifier × CancellerAnswer) :=
  match entry.1.2, entry.2.before.kernel.engagements with
  | .kernel (.cancellerAnswered answer), ⟨_, _, cancellerId :: _, _, _⟩ :: outer =>
    if outer.length = depth then some (cancellerId, answer) else none
  | _, _ => none

/-- A successful release, through the kernel or on the controller. -/
def Lifts (entry : WiredEntry) : Prop :=
  ((∃ caller, entry.1.2 = .kernel (.releaseEmergencyStop caller)) ∨
    ∃ caller, entry.1.2 = .reset caller) ∧ ∃ outcome, entry.2.result = .ok outcome

/-- The stop is engaged, or an engaged state is put back, with the machine disarmed by the
kernel's own hook or already at rest. -/
def Stops (entry : WiredEntry) : Prop :=
  match entry.1.2 with
  | .kernel (.engageEmergencyStop _) | .controllerEngage _ =>
    entry.2.before.hook = .own ∨ entry.2.before.kernel.armController.state = .disarmed
  | .restoreEngagement state =>
    state.engaged = true ∧ entry.2.before.kernel.armController.state = .disarmed
  | _ => False

end WiredEntry

/-- One call of `engage_emergency_stop`, from its beginning to its end. -/
inductive EngageCall : List WiredEntry → Prop where
  | raised {entry caller fault} (called : entry.1.2 = .kernel (.engageEmergencyStop caller))
      (ended : entry.2.result = .error fault) : EngageCall [entry]
  | ran {opening middle closing caller outcome}
      (called : opening.1.2 = .kernel (.engageEmergencyStop caller))
      (begun : opening.2.result = .ok outcome)
      (inside : ∀ entry ∈ middle, opening.2.before.depth < entry.2.after.depth)
      (ended : closing.2.after.depth = opening.2.before.depth) :
      EngageCall (opening :: middle ++ [closing])

/-- Nothing lifts the stop after the last step that engages it. -/
def Restopped (entries : List WiredEntry) : Prop :=
  ∃ front stop back, entries = front ++ stop :: back ∧ stop.Stops ∧ ∀ entry ∈ back, ¬ entry.Lifts

/-- An exception that ends the call in its fan-out, or in the hook before it, finds no
approval stored. -/
def BrokenBare (entries : List WiredEntry) : Prop :=
  ∀ entry, entries.getLast? = some entry →
    (entry.1.2 = .escape ∨ ∃ caller, entry.1.2 = .kernel (.engageEmergencyStop caller)) →
    entry.2.before.kernel.approvals = .empty

/-- Who was asked at this depth, in order, with what each answered. -/
def answers (depth : Nat) (entries : List WiredEntry) :
    List (AuditIdentifier × CancellerAnswer) :=
  entries.filterMap (WiredEntry.asked depth)

/-- The state names every canceller's references, and its failures. -/
structure Told (heard : List (AuditIdentifier × CancellerAnswer)) (state : EmergencyStopState) :
    Prop where
  requested : state.requestedCancellations = heard.flatMap fun told => told.2.references
  failures : state.cancellationFailures = heard.flatMap fun told => told.2.failures told.1

/-- What the end of a call of `engage_emergency_stop` leaves, and what it answers. -/
structure Ended (entries : List WiredEntry) (wired : WiredKernel) : Prop where
  engaged : wired.kernel.emergency.engaged = true
  disarmed : wired.kernel.armController.state = .disarmed
  bare : wired.kernel.approvals = .empty
  told : ∀ opening closing outcome, entries.head? = some opening →
    entries.getLast? = some closing → closing.2.result = .ok outcome →
    ∃ state, outcome = .stop state ∧ wired.kernel.emergency = state ∧
      (answers opening.2.before.depth entries).map Prod.fst = opening.2.before.kernel.cancellers ∧
      Told (answers opening.2.before.depth entries) state

end CanX.Safety
