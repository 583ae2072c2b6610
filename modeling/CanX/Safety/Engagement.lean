import CanX.Safety.Fanout

/-! What a call of `engage_emergency_stop` leaves when it ends, whatever its cancellers do. -/

namespace CanX.Safety

open Transition

/-- The calls that open, advance or close an engagement. -/
def Call.fans : Call → Bool
  | .engageEmergencyStop _ | .cancellerAnswered _ | .engagementReturned => true
  | _ => false

/-- The stop as an engagement has to leave it. -/
def WiredKernel.Held (wired : WiredKernel) : Prop :=
  wired.kernel.emergency.engaged = true ∧ wired.kernel.armController.state = .disarmed

section Kernel

variable {kernel : SafetyKernel} {moment : Moment} {call : Call} {reply : Reply Outcome}

theorem commitWithAudit_engagements {Value : Type} {changed : SafetyKernel}
    {record : Except SafetyFault SafetyAuditEvent} {undo : Except SafetyFault SafetyKernel}
    {answer : Value} {engagements : List Engagement} (made : changed.engagements = engagements)
    (undone : ∀ restored, undo = .ok restored → restored.engagements = engagements) :
    (changed.commitWithAudit record undo answer).kernel.engagements = engagements := by
  refine SafetyKernel.commitWithAudit_ends (fun reply => reply.kernel.engagements = engagements)
    ?_ ?_ ?_
  · intro event recorded
    exact made
  · intro restored fault back
    exact undone restored back
  · intro fault stuck
    exact made

private theorem answering_engagements {Value : Type} {changed : SafetyKernel}
    {record : Except SafetyFault SafetyAuditEvent} {answer : Value} :
    (changed.answering record answer).kernel.engagements = changed.engagements := by
  cases record with
  | ok event => rfl
  | error fault => rfl

private theorem releaseEmergencyStop_engagements (caller : CallerIdentity) :
    (kernel.releaseEmergencyStop moment caller).kernel.engagements = kernel.engagements := by
  unfold SafetyKernel.releaseEmergencyStop
  split
  · rfl
  · refine commitWithAudit_engagements rfl ?_
    intro restored undone
    cases again : restoreEngagement kernel.emergency with
    | error fault => simp [again, bind, Except.bind] at undone
    | ok emergency =>
      simp only [again, bind, Except.bind, pure, Except.pure, Except.ok.injEq] at undone
      rw [← undone]
      rfl

/-- Every other call leaves the engagements in progress alone. -/
theorem perform_engagements (ordinary : call.fans = false)
    (performed : kernel.perform moment call = some reply) :
    reply.kernel.engagements = kernel.engagements := by
  cases call with
  | arm scope caller =>
    obtain rfl := Option.some.inj performed
    simp only [SafetyKernel.arm, Reply.map]
    split
    · rfl
    · refine commitWithAudit_engagements rfl ?_
      rintro _ ⟨⟩
      rfl
  | confirmArm caller =>
    obtain rfl := Option.some.inj performed
    simp only [SafetyKernel.confirmArm, Reply.map]
    split
    · rfl
    · rfl
    · refine commitWithAudit_engagements rfl ?_
      rintro _ ⟨⟩
      rfl
  | disarm caller =>
    obtain rfl := Option.some.inj performed
    exact answering_engagements
  | grantApproval spec grantedBy =>
    obtain rfl := Option.some.inj performed
    simp only [SafetyKernel.grantApproval, Reply.map]
    split
    · rfl
    · refine commitWithAudit_engagements rfl ?_
      rintro _ ⟨⟩
      rfl
  | evaluate request =>
    obtain rfl := Option.some.inj performed
    simp only [SafetyKernel.evaluate, Reply.map]
    split
    · rfl
    · exact answering_engagements
  | registerCanceller cancellerId =>
    obtain rfl := Option.some.inj performed
    simp only [SafetyKernel.registerCanceller, Reply.map]
    split <;> rfl
  | releaseEmergencyStop caller =>
    obtain rfl := Option.some.inj performed
    exact releaseEmergencyStop_engagements caller
  | storeGrant approval grantedBy =>
    obtain rfl := Option.some.inj performed
    cases kernel.approvals.grant approval grantedBy <;> rfl
  | storeConsume approvalId check =>
    obtain rfl := Option.some.inj performed
    cases kernel.approvals.consume approvalId check <;> rfl
  | revokeApproval approvalId | storeRevoke approvalId | storeClear =>
    obtain rfl := Option.some.inj performed
    rfl
  | engageEmergencyStop caller | cancellerAnswered answer | engagementReturned => cases ordinary

/-- How a call of `engage_emergency_stop` leaves its fan-out, recorded or not. -/
theorem engagementReturned_ends {reply : Reply EmergencyStopState}
    (returned : kernel.engagementReturned moment = some reply) :
    ∃ engagement, kernel.engagements = engagement :: reply.kernel.engagements ∧
      engagement.remaining = [] ∧ reply.kernel.approvals = .empty ∧
      ∀ state, reply.result = .ok state → reply.kernel.emergency = state ∧
        state.requestedCancellations = engagement.requested ∧
        state.cancellationFailures = engagement.failures := by
  unfold SafetyKernel.engagementReturned at returned
  split at returned
  · cases returned
  rename_i engagement outer asking
  split at returned
  · cases returned
  rename_i done
  obtain rfl := Option.some.inj returned
  refine ⟨engagement, ?_⟩
  refine SafetyKernel.answering_ends (fun reply => kernel.engagements =
    engagement :: reply.kernel.engagements ∧ engagement.remaining = [] ∧
    reply.kernel.approvals = .empty ∧ ∀ state, reply.result = .ok state →
      reply.kernel.emergency = state ∧ state.requestedCancellations = engagement.requested ∧
      state.cancellationFailures = engagement.failures) ?_ ?_
  · intro event recorded
    refine ⟨asking, done, rfl, ?_⟩
    rintro state ⟨⟩
    exact ⟨rfl, rfl, rfl⟩
  · intro fault
    refine ⟨asking, done, rfl, ?_⟩
    intro state answered
    cases answered

/-- No call of the kernel but a successful release lifts a stop. -/
theorem effect_held (effect : SafetyKernel.Effect kernel moment call reply)
    (held : kernel.emergency.engaged = true ∧ kernel.armController.state = .disarmed) :
    (reply.kernel.emergency.engaged = true ∧ reply.kernel.armController.state = .disarmed) ∨
      (∃ caller, call = .releaseEmergencyStop caller) ∧ ∃ outcome, reply.result = .ok outcome := by
  obtain ⟨on, idle⟩ := held
  by_cases lifted : reply.kernel.emergency.engaged = true
  · left
    refine ⟨lifted, ?_⟩
    by_contra raised
    rcases effect.raised raised with same | ⟨_, _, free, _⟩ | ⟨_, _, free, _⟩
    · exact raised (same ▸ idle)
    · exact Bool.false_ne_true (free.symm.trans on)
    · exact Bool.false_ne_true (free.symm.trans on)
  · right
    rcases effect.freed (Bool.eq_false_iff.mpr lifted) with free | ⟨_, called, answered, _⟩
    · exact absurd (free.symm.trans on) Bool.false_ne_true
    · exact ⟨called, _, answered⟩

end Kernel

/-- What one step does to the engagements in progress. -/
inductive Turn (before : WiredKernel) (callback : Callback) (after : WiredKernel)
    (result : Except SafetyFault Outcome) : Prop where
  | kept (silent : ∀ answer, callback ≠ .kernel (.cancellerAnswered answer))
      (stack : after.kernel.engagements = before.kernel.engagements)
      (flags : after.direct = before.direct)
  | opened (engagement : Engagement) (flag : Bool)
      (silent : ∀ answer, callback ≠ .kernel (.cancellerAnswered answer))
      (own : (∃ caller, callback = .kernel (.engageEmergencyStop caller)) → flag = false)
      (fresh : engagement.remaining = before.kernel.cancellers ∧ engagement.requested = [] ∧
        engagement.failures = [])
      (stack : after.kernel.engagements = engagement :: before.kernel.engagements)
      (flags : after.direct = flag :: before.direct)
  | answered (answer : CancellerAnswer) (engagement : Engagement) (cancellerId : AuditIdentifier)
      (remaining : List AuditIdentifier) (outer : List Engagement)
      (called : callback = .kernel (.cancellerAnswered answer))
      (asking : before.kernel.engagements = engagement :: outer)
      (next : engagement.remaining = cancellerId :: remaining)
      (stack : after.kernel.engagements =
        { engagement with remaining }.heard cancellerId answer :: outer)
      (flags : after.direct = before.direct)
  | closed (engagement : Engagement) (flag : Bool)
      (silent : ∀ answer, callback ≠ .kernel (.cancellerAnswered answer))
      (asking : before.kernel.engagements = engagement :: after.kernel.engagements)
      (flags : before.direct = flag :: after.direct)
      (left : flag = false → (callback = .escape ∧ after.kernel.approvals = before.kernel.approvals ∧
          ∃ fault, result = .error fault) ∨
        (after.kernel.approvals = .empty ∧ engagement.remaining = [] ∧
          ∀ outcome, result = .ok outcome → ∃ state, outcome = .stop state ∧
            after.kernel.emergency = state ∧ state.requestedCancellations = engagement.requested ∧
            state.cancellationFailures = engagement.failures))

section Step

variable {wired next : WiredKernel} {moment : Moment} {callback : Callback} {report : WiredReport}

theorem respond_ends (moved : wired.step (moment, callback) = some (next, report)) :
    report.before = wired ∧ report.after = next ∧
      wired.respond moment callback = some (next, report.result) := by
  obtain ⟨⟨after, result⟩, responded, answered⟩ := Option.map_eq_some_iff.mp moved
  cases answered
  exact ⟨rfl, rfl, responded⟩

theorem performed_ends {call : Call} {result : Except SafetyFault Outcome}
    (performed : wired.performed (moment, call) = some (next, result)) :
    ∃ reply, wired.kernel.perform moment call = some reply ∧
      next = wired.withKernel reply.kernel ∧ result = reply.result := by
  obtain ⟨⟨kernel, told⟩, stepped, answered⟩ := Option.map_eq_some_iff.mp performed
  cases answered
  unfold SafetyKernel.step at stepped
  split at stepped
  · cases stepped
  · obtain ⟨reply, ran, seen⟩ := Option.map_eq_some_iff.mp stepped
    cases seen
    exact ⟨reply, ran, rfl, rfl⟩

theorem engage_turn (caller : CallerIdentity) (direct : Bool)
    (silent : ∀ answer, callback ≠ .kernel (.cancellerAnswered answer))
    (own : (∃ caller, callback = .kernel (.engageEmergencyStop caller)) → direct = false) :
    Turn wired callback (wired.engage moment caller direct).1
      (wired.engage moment caller direct).2 := by
  unfold WiredKernel.engage
  cases wired.hook with
  | own => exact .opened _ direct silent own ⟨rfl, rfl, rfl⟩ rfl rfl
  | silent => exact .opened _ direct silent own ⟨rfl, rfl, rfl⟩ rfl rfl
  | raising => exact .kept silent rfl rfl

theorem returned_turn {direct : List Bool} {result : Except SafetyFault Outcome}
    (flags : wired.direct = false :: direct)
    (performed : { wired with direct }.performed (moment, .engagementReturned) =
      some (next, result)) : Turn wired (.kernel .engagementReturned) next result := by
  obtain ⟨_, ran, rfl, rfl⟩ := performed_ends performed
  obtain ⟨ended, returned, rfl⟩ := Option.map_eq_some_iff.mp ran
  obtain ⟨engagement, asking, done, cleared, told⟩ := engagementReturned_ends returned
  refine .closed engagement false (fun answer same => (by cases same)) asking flags fun _ => ?_
  right
  refine ⟨cleared, done, ?_⟩
  intro outcome answered
  cases ended_result : ended.result with
  | error fault => simp [Reply.map, ended_result, Except.map] at answered
  | ok state =>
    simp only [Reply.map, ended_result, Except.map, Except.ok.injEq] at answered
    exact ⟨state, answered.symm, told state ended_result⟩

theorem answered_turn {answer : CancellerAnswer} {result : Except SafetyFault Outcome}
    (performed : wired.performed (moment, .cancellerAnswered answer) = some (next, result)) :
    Turn wired (.kernel (.cancellerAnswered answer)) next result := by
  obtain ⟨_, ran, rfl, rfl⟩ := performed_ends performed
  obtain ⟨heard, moved, rfl⟩ := Option.map_eq_some_iff.mp ran
  unfold SafetyKernel.cancellerAnswered at moved
  split at moved
  · cases moved
  rename_i engagement outer asking
  split at moved
  · cases moved
  rename_i cancellerId remaining next
  obtain rfl := Option.some.inj moved
  exact .answered answer engagement cancellerId remaining outer rfl asking next rfl rfl

theorem ordinary_turn {call : Call} {result : Except SafetyFault Outcome}
    (ordinary : call.fans = false)
    (performed : wired.performed (moment, call) = some (next, result)) :
    Turn wired (.kernel call) next result := by
  obtain ⟨reply, ran, rfl, rfl⟩ := performed_ends performed
  refine .kept ?_ (perform_engagements ordinary ran) rfl
  rintro answer ⟨⟩
  cases ordinary

theorem controllerReturned_turn {state : EmergencyStopState}
    (returned : wired.controllerReturned = some (next, state)) :
    Turn wired .controllerReturned next (.ok (.stop state)) := by
  unfold WiredKernel.controllerReturned at returned
  split at returned
  · rename_i asking flags
    cases returned
    refine .closed _ true (fun answer same => (by cases same)) asking flags ?_
    intro own
    cases own
  · cases returned

theorem escape_turn {fault : SafetyFault} (left : wired.escape = some next) :
    Turn wired .escape next (.error fault) := by
  unfold WiredKernel.escape at left
  split at left
  · rename_i flag direct asking flags
    cases left
    refine .closed _ flag (fun answer same => (by cases same)) asking flags ?_
    intro _
    exact .inl ⟨rfl, rfl, fault, rfl⟩
  · cases left

theorem reset_turn {caller : CallerIdentity} {result : Except SafetyFault Outcome}
    (told : wired.reset caller = (next, result)) : Turn wired (.reset caller) next result := by
  unfold WiredKernel.reset at told
  split at told
  · cases told
    exact .kept (fun answer same => (by cases same)) rfl rfl
  · cases told
    exact .kept (fun answer same => (by cases same)) rfl rfl

private theorem restore_turn {state : EmergencyStopState} {result : Except SafetyFault Outcome}
    (told : wired.restore state = (next, result)) :
    Turn wired (.restoreEngagement state) next result := by
  unfold WiredKernel.restore at told
  split at told
  · cases told
    exact .kept (fun answer same => (by cases same)) rfl rfl
  · cases told
    exact .kept (fun answer same => (by cases same)) rfl rfl

theorem step_turn (moved : wired.step (moment, callback) = some (next, report)) :
    report.before = wired ∧ report.after = next ∧ Turn wired callback next report.result := by
  obtain ⟨before, after, responded⟩ := respond_ends moved
  refine ⟨before, after, ?_⟩
  cases callback with
  | kernel call =>
    by_cases ordinary : call.fans = false
    · have performed : wired.performed (moment, call) = some (next, report.result) := by
        cases call with
        | engageEmergencyStop caller | cancellerAnswered answer | engagementReturned => cases ordinary
        | _ => exact responded
      exact ordinary_turn ordinary performed
    · cases call with
      | engageEmergencyStop caller =>
        simp only [WiredKernel.respond] at responded
        split at responded
        · obtain ⟨rfl, same⟩ := Prod.mk.inj (Option.some.inj responded)
          exact same ▸ engage_turn caller false (fun answer same => (by cases same)) fun _ => rfl
        · cases responded
      | cancellerAnswered answer => exact answered_turn responded
      | engagementReturned =>
        simp only [WiredKernel.respond] at responded
        split at responded
        · rename_i flags
          exact returned_turn flags responded
        · cases responded
      | _ => exact absurd rfl ordinary
  | attachDisarm hook =>
    obtain ⟨rfl, _⟩ := Prod.mk.inj (Option.some.inj responded)
    exact .kept (fun answer same => (by cases same)) rfl rfl
  | controllerEngage caller =>
    simp only [WiredKernel.respond] at responded
    split at responded
    · obtain ⟨rfl, same⟩ := Prod.mk.inj (Option.some.inj responded)
      refine same ▸ engage_turn caller true (fun answer same => (by cases same)) ?_
      rintro ⟨_, ⟨⟩⟩
    · cases responded
  | controllerReturned =>
    obtain ⟨⟨returned, state⟩, ended, answered⟩ := Option.map_eq_some_iff.mp responded
    obtain ⟨rfl, same⟩ := Prod.mk.inj answered
    exact same ▸ controllerReturned_turn ended
  | reset caller =>
    exact reset_turn (Option.some.inj responded)
  | restoreEngagement state =>
    exact restore_turn (Option.some.inj responded)
  | escape =>
    obtain ⟨left, ended, answered⟩ := Option.map_eq_some_iff.mp responded
    obtain ⟨rfl, same⟩ := Prod.mk.inj answered
    exact same ▸ escape_turn ended

private theorem engaged_on (kernel : SafetyKernel) (caller : CallerIdentity) :
    (kernel.engageEmergencyStop moment caller).emergency.engaged = true := by
  by_cases before : kernel.emergency.engaged = true
  · simp [SafetyKernel.engageEmergencyStop, before]
  · simp [SafetyKernel.engageEmergencyStop, before]

theorem engage_held {caller : CallerIdentity} {direct : Bool} {result : Except SafetyFault Outcome}
    (told : wired.engage moment caller direct = (next, result))
    (ready : wired.hook = .own ∨ wired.kernel.armController.state = .disarmed) : next.Held := by
  have on : (wired.kernel.engageEmergencyStop moment caller).emergency.engaged = true :=
    engaged_on wired.kernel caller
  unfold WiredKernel.engage at told
  split at told
  · cases told
    exact ⟨on, rfl⟩
  · rename_i hooked
    cases told
    rcases ready with own | idle
    · cases own.symm.trans hooked
    · exact ⟨on, idle⟩
  · rename_i hooked
    cases told
    rcases ready with own | idle
    · cases own.symm.trans hooked
    · exact ⟨on, idle⟩

private theorem restoreEngagement_ok {state emergency : EmergencyStopState}
    (restored : restoreEngagement state = .ok emergency) :
    state.engaged = true ∧ emergency = state := by
  unfold restoreEngagement at restored
  by_cases on : state.engaged = true
  · simp only [require, on, if_true, bind, Except.bind, pure, Except.pure, Except.ok.injEq] at restored
    exact ⟨on, restored.symm⟩
  · simp [require, on, bind, Except.bind] at restored

theorem restore_held {state : EmergencyStopState} {result : Except SafetyFault Outcome}
    (told : wired.restore state = (next, result))
    (ready : wired.Held ∨ state.engaged = true ∧ wired.kernel.armController.state = .disarmed) :
    next.Held := by
  unfold WiredKernel.restore at told
  split at told
  · rename_i fault refused
    cases told
    rcases ready with held | ⟨on, idle⟩
    · exact held
    · simp [restoreEngagement, require, on, bind, Except.bind, pure, Except.pure] at refused
  · rename_i emergency restored
    obtain ⟨on, rfl⟩ := restoreEngagement_ok restored
    cases told
    rcases ready with held | ⟨_, idle⟩
    · exact ⟨on, held.2⟩
    · exact ⟨on, idle⟩

private theorem performed_held {call : Call} {result : Except SafetyFault Outcome}
    (performed : wired.performed (moment, call) = some (next, result)) (held : wired.Held) :
    next.Held ∨ (∃ caller, call = .releaseEmergencyStop caller) ∧ ∃ outcome, result = .ok outcome := by
  obtain ⟨reply, ran, rfl, rfl⟩ := performed_ends performed
  exact effect_held (SafetyKernel.perform_effect ran) held

/-- A step that engages the stop leaves it engaged. -/
theorem step_stops (moved : wired.step (moment, callback) = some (next, report))
    (stops : WiredEntry.Stops ((moment, callback), report)) : next.Held := by
  obtain ⟨rfl, rfl, responded⟩ := respond_ends moved
  cases callback with
  | kernel call =>
    cases call with
    | engageEmergencyStop caller =>
      simp only [WiredKernel.respond] at responded
      split at responded
      · exact engage_held (Option.some.inj responded) stops
      · cases responded
    | _ => exact stops.elim
  | controllerEngage caller =>
    simp only [WiredKernel.respond] at responded
    split at responded
    · exact engage_held (Option.some.inj responded) stops
    · cases responded
  | restoreEngagement state => exact restore_held (Option.some.inj responded) (.inr stops)
  | _ => exact stops.elim

/-- Nothing but a successful release lifts a stop. -/
theorem step_held (moved : wired.step (moment, callback) = some (next, report)) (held : wired.Held)
    (unlifted : ¬ WiredEntry.Lifts ((moment, callback), report)) : next.Held := by
  obtain ⟨_, _, responded⟩ := respond_ends moved
  cases callback with
  | kernel call =>
    have lifting : ∀ {result}, (∃ caller, call = .releaseEmergencyStop caller) →
        result = report.result → ¬ ∃ outcome, result = Except.ok outcome := by
      rintro _ ⟨caller, rfl⟩ rfl answered
      exact unlifted ⟨.inl ⟨caller, rfl⟩, answered⟩
    cases call with
    | engageEmergencyStop caller =>
      simp only [WiredKernel.respond] at responded
      split at responded
      · exact engage_held (Option.some.inj responded) (.inr held.2)
      · cases responded
    | engagementReturned =>
      simp only [WiredKernel.respond] at responded
      split at responded
      · rcases performed_held responded held with still | ⟨called, _⟩
        · exact still
        · obtain ⟨_, ⟨⟩⟩ := called
      · cases responded
    | _ =>
      rcases performed_held responded held with still | ⟨called, answered⟩
      · exact still
      · exact absurd answered (lifting called rfl)
  | attachDisarm hook =>
    obtain ⟨rfl, _⟩ := Prod.mk.inj (Option.some.inj responded)
    exact held
  | controllerEngage caller =>
    simp only [WiredKernel.respond] at responded
    split at responded
    · exact engage_held (Option.some.inj responded) (.inr held.2)
    · cases responded
  | controllerReturned =>
    obtain ⟨⟨returned, state⟩, ended, answered⟩ := Option.map_eq_some_iff.mp responded
    obtain ⟨rfl, _⟩ := Prod.mk.inj answered
    unfold WiredKernel.controllerReturned at ended
    split at ended
    · cases ended
      exact held
    · cases ended
  | reset caller =>
    have told : wired.reset caller = (next, report.result) := Option.some.inj responded
    unfold WiredKernel.reset at told
    split at told
    · obtain ⟨rfl, _⟩ := Prod.mk.inj told
      exact held
    · obtain ⟨_, answered⟩ := Prod.mk.inj told
      exact absurd ⟨.inr ⟨caller, rfl⟩, _, answered.symm⟩ unlifted
  | restoreEngagement state => exact restore_held (Option.some.inj responded) (.inl held)
  | escape =>
    obtain ⟨left, ended, answered⟩ := Option.map_eq_some_iff.mp responded
    obtain ⟨rfl, _⟩ := Prod.mk.inj answered
    unfold WiredKernel.escape at ended
    split at ended
    · cases ended
      exact held
    · cases ended

/-- An engagement that is accepted puts itself on top of those in progress. -/
theorem opening_ends {caller : CallerIdentity} {outcome : Outcome}
    (moved : wired.step (moment, .kernel (.engageEmergencyStop caller)) = some (next, report))
    (begun : report.result = .ok outcome) :
    ∃ engagement : Engagement, next.kernel.engagements = engagement :: wired.kernel.engagements ∧
      next.direct = false :: wired.direct ∧ engagement.remaining = wired.kernel.cancellers ∧
      engagement.requested = [] ∧ engagement.failures = [] := by
  obtain ⟨_, _, responded⟩ := respond_ends moved
  simp only [WiredKernel.respond] at responded
  split at responded
  · have told : wired.engage moment caller false = (next, report.result) :=
      Option.some.inj responded
    unfold WiredKernel.engage at told
    split at told
    · obtain ⟨rfl, _⟩ := Prod.mk.inj told
      exact ⟨_, rfl, rfl, rfl, rfl, rfl⟩
    · obtain ⟨rfl, _⟩ := Prod.mk.inj told
      exact ⟨_, rfl, rfl, rfl, rfl, rfl⟩
    · obtain ⟨_, raised⟩ := Prod.mk.inj told
      cases raised.trans begun
  · cases responded

/-- The beginning of an engagement leaves the approvals alone. -/
theorem opening_approvals {caller : CallerIdentity}
    (moved : wired.step (moment, .kernel (.engageEmergencyStop caller)) = some (next, report)) :
    next.kernel.approvals = wired.kernel.approvals := by
  obtain ⟨_, _, responded⟩ := respond_ends moved
  simp only [WiredKernel.respond] at responded
  split at responded
  · have told : wired.engage moment caller false = (next, report.result) :=
      Option.some.inj responded
    unfold WiredKernel.engage at told
    split at told
    · obtain ⟨rfl, _⟩ := Prod.mk.inj told
      rfl
    · obtain ⟨rfl, _⟩ := Prod.mk.inj told
      rfl
    · obtain ⟨rfl, _⟩ := Prod.mk.inj told
      rfl
  · cases responded

theorem asked_silent {depth : Nat} (silent : ∀ answer, callback ≠ .kernel (.cancellerAnswered answer)) :
    WiredEntry.asked depth ((moment, callback), report) = none := by
  unfold WiredEntry.asked
  split
  · rename_i answer _ _ _ _ _ _ _ called _
    exact absurd called (silent answer)
  · rfl

end Step

theorem answers_snoc (depth : Nat) (entries : List WiredEntry) (entry : WiredEntry) :
    answers depth (entries ++ [entry]) = answers depth entries ++ (entry.asked depth).toList := by
  unfold answers
  rw [List.filterMap_append]
  cases asked : entry.asked depth <;> simp [asked]

/-- The engagement of a call in progress, below those of the calls made back during it,
and what it has heard. -/
structure Tracked (cancellers : List AuditIdentifier) (outer : List Engagement) (flags : List Bool)
    (heard : List (AuditIdentifier × CancellerAnswer)) (wired : WiredKernel) : Prop where
  stack : ∃ inner current innerFlags, wired.kernel.engagements = inner ++ current :: outer ∧
    wired.direct = innerFlags ++ false :: flags ∧ innerFlags.length = inner.length ∧
    heard.map Prod.fst ++ current.remaining = cancellers ∧
    current.requested = heard.flatMap (fun told => told.2.references) ∧
    current.failures = heard.flatMap (fun told => told.2.failures told.1)

section Run

variable {wired next source : WiredKernel} {moment : Moment} {callback : Callback}
  {report : WiredReport} {entries : List WiredEntry} {cancellers : List AuditIdentifier}
  {outer : List Engagement} {flags : List Bool}

theorem Tracked.step (tracked : Tracked cancellers outer flags (answers outer.length entries) wired)
    (deep : outer.length < next.depth)
    (moved : wired.step (moment, callback) = some (next, report)) :
    Tracked cancellers outer flags
      (answers outer.length (entries ++ [((moment, callback), report)])) next := by
  obtain ⟨before, after, turn⟩ := step_turn moved
  obtain ⟨inner, current, innerFlags, stack, flagged, level, asked, requested, failures⟩ :=
    tracked.stack
  rw [answers_snoc]
  cases turn with
  | kept silent same unchanged =>
    rw [asked_silent silent, Option.toList_none, List.append_nil]
    exact ⟨inner, current, innerFlags, same.trans stack, unchanged.trans flagged, level, asked,
      requested, failures⟩
  | opened engagement flag silent own fresh stacked pushed =>
    rw [asked_silent silent, Option.toList_none, List.append_nil]
    exact ⟨engagement :: inner, current, flag :: innerFlags, by rw [stacked, stack, List.cons_append],
      by rw [pushed, flagged, List.cons_append], by simp [level], asked, requested, failures⟩
  | answered answer engagement cancellerId remaining below called asking waiting stacked unchanged =>
    rw [Engagement.heard_eq] at stacked
    have first : WiredEntry.asked outer.length ((moment, callback), report) =
        if below.length = outer.length then some (cancellerId, answer) else none := by
      obtain ⟨caller, digest, _, requested, failures⟩ := engagement
      cases waiting
      simp only [WiredEntry.asked, called, before, asking]
    cases inner with
    | nil =>
      -- The engagement that is tracked is the one asking.
      rw [List.nil_append] at stack
      obtain ⟨rfl, rfl⟩ := List.cons.inj (asking.symm.trans stack)
      rw [first, if_pos rfl, Option.toList_some]
      refine ⟨[], _, innerFlags, stacked, unchanged.trans flagged, level, ?_, ?_, ?_⟩
      · rw [← asked, waiting]
        simp
      · simp [requested]
      · simp [failures]
    | cons top rest =>
      rw [List.cons_append] at stack
      obtain ⟨rfl, rfl⟩ := List.cons.inj (asking.symm.trans stack)
      have deeper : (rest ++ current :: outer).length ≠ outer.length := by
        simp only [List.length_append, List.length_cons]
        omega
      rw [first, if_neg deeper, Option.toList_none, List.append_nil]
      exact ⟨_ :: rest, current, innerFlags, stacked, unchanged.trans flagged, level, asked,
        requested, failures⟩
  | closed engagement flag silent asking popped left =>
    rw [asked_silent silent, Option.toList_none, List.append_nil]
    cases inner with
    | nil =>
      rw [List.nil_append] at stack
      obtain ⟨_, same⟩ := List.cons.inj (asking.symm.trans stack)
      simp only [WiredKernel.depth, same] at deep
      omega
    | cons top rest =>
      rw [List.cons_append] at stack
      obtain ⟨_, same⟩ := List.cons.inj (asking.symm.trans stack)
      cases innerFlags with
      | nil => cases level
      | cons head tail =>
        rw [List.cons_append] at flagged
        obtain ⟨_, below⟩ := List.cons.inj (popped.symm.trans flagged)
        exact ⟨rest, current, tail, same, below, Nat.succ.inj level, asked, requested, failures⟩

/-- The step that ends a call of the kernel ends the engagement that was tracked. -/
theorem Tracked.closing (tracked : Tracked cancellers outer flags (answers outer.length entries) wired)
    (level : next.depth = outer.length)
    (moved : wired.step (moment, callback) = some (next, report)) :
    (∀ answer, callback ≠ .kernel (.cancellerAnswered answer)) ∧
    ((callback = .escape ∧ next.kernel.approvals = wired.kernel.approvals ∧
      ∃ fault, report.result = .error fault) ∨
    (next.kernel.approvals = .empty ∧ ∀ outcome, report.result = .ok outcome →
      ∃ state, outcome = .stop state ∧ next.kernel.emergency = state ∧
        (answers outer.length entries).map Prod.fst = cancellers ∧
        Told (answers outer.length entries) state)) := by
  obtain ⟨_, _, turn⟩ := step_turn moved
  obtain ⟨inner, current, innerFlags, stack, flagged, aligned, asked, requested, failures⟩ :=
    tracked.stack
  have deep : outer.length < wired.kernel.engagements.length := by
    rw [stack, List.length_append, List.length_cons]
    omega
  simp only [WiredKernel.depth] at level
  cases turn with
  | kept silent same unchanged =>
    rw [same] at level
    omega
  | opened engagement flag silent own fresh stacked pushed =>
    rw [stacked, List.length_cons] at level
    omega
  | answered answer engagement cancellerId remaining below called asking waiting stacked unchanged =>
    rw [asking, List.length_cons] at deep
    rw [stacked, List.length_cons] at level
    omega
  | closed engagement flag silent asking popped left =>
    cases inner with
    | cons top rest =>
      rw [List.cons_append] at stack
      obtain ⟨_, same⟩ := List.cons.inj (asking.symm.trans stack)
      rw [same, List.length_append, List.length_cons] at level
      omega
    | nil =>
      obtain rfl := List.length_eq_zero_iff.mp aligned
      rw [List.nil_append] at stack flagged
      obtain ⟨rfl, _⟩ := List.cons.inj (asking.symm.trans stack)
      obtain ⟨own, _⟩ := List.cons.inj (popped.symm.trans flagged)
      refine ⟨silent, ?_⟩
      rcases left own with escaped | ⟨cleared, done, told⟩
      · exact .inl escaped
      · right
        refine ⟨cleared, fun outcome answered => ?_⟩
        obtain ⟨state, stopped, kept, named, failed⟩ := told outcome answered
        rw [done, List.append_nil] at asked
        exact ⟨state, stopped, kept, asked, named.trans requested, failed.trans failures⟩

/-- A run that engages the stop and does not lift it afterwards leaves it engaged. -/
theorem restopped_held (path : Path WiredKernel.step anyLabel source entries wired)
    (restopped : Restopped entries) : wired.Held := by
  revert restopped
  refine path.preserves_trace (fun entries state => Restopped entries → state.Held) ?_ ?_
  · rintro ⟨front, stop, back, empty, _⟩
    simp at empty
  · rintro trace state ⟨moment, callback⟩ next report _ earlier _ moved
      ⟨front, stop, back, whole, stops, unlifted⟩
    rcases List.eq_nil_or_concat back with rfl | ⟨rest, last, rfl⟩
    · obtain ⟨_, last⟩ := List.append_inj' whole rfl
      obtain rfl := (List.cons.inj last).1
      exact step_stops moved stops
    · rw [List.concat_eq_append, ← List.cons_append, ← List.append_assoc] at whole
      obtain ⟨rfl, same⟩ := List.append_inj' whole rfl
      obtain rfl := (List.cons.inj same).1
      have before : state.Held := earlier ⟨front, stop, rest, rfl, stops, fun entry member =>
        unlifted entry (by simp [member])⟩
      exact step_held moved before (unlifted _ (by simp))

/-- Between its first and its last step a call stays tracked. -/
theorem middle_tracked {engagement : Engagement}
    (path : Path WiredKernel.step anyLabel source entries wired)
    (inside : ∀ entry ∈ entries, outer.length < entry.2.after.depth)
    (stack : source.kernel.engagements = engagement :: outer) (flagged : source.direct = false :: flags)
    (fresh : engagement.remaining = cancellers ∧ engagement.requested = [] ∧
      engagement.failures = []) :
    Tracked cancellers outer flags (answers outer.length entries) wired := by
  revert inside
  refine path.preserves_trace (fun entries state =>
    (∀ entry ∈ entries, outer.length < entry.2.after.depth) →
      Tracked cancellers outer flags (answers outer.length entries) state) ?_ ?_
  · intro _
    exact ⟨[], engagement, [], stack, flagged, rfl, by simp [answers, fresh.1],
      by simp [answers, fresh.2.1], by simp [answers, fresh.2.2]⟩
  · rintro trace state ⟨moment, callback⟩ next report _ earlier _ moved inside
    have tracked := earlier fun entry member => inside entry (List.mem_append_left _ member)
    obtain ⟨_, rfl, _⟩ := step_turn moved
    exact tracked.step (inside _ (List.mem_append_right _ (List.mem_singleton_self _))) moved

/-- The answers of a call are those between its first and its last step. -/
theorem answers_call {opening closing : WiredEntry} {middle : List WiredEntry} {depth : Nat}
    (first : opening.asked depth = none) (last : closing.asked depth = none) :
    answers depth (opening :: middle ++ [closing]) = answers depth middle := by
  rw [answers_snoc, last, Option.toList_none, List.append_nil]
  unfold answers
  rw [List.filterMap_cons_none first]

end Run

/-- A call of `engage_emergency_stop` ends with the stop engaged, the machine disarmed and no
approval stored, and answers for every canceller. -/
theorem engagement_ends_stopped {permissions : PermissionSet} {policy : SafetyPolicy}
    {front call : List WiredEntry} {wired : WiredKernel}
    (path : Path WiredKernel.step anyLabel (.start permissions policy) (front ++ call) wired)
    (whole : EngageCall call) (restopped : Restopped call) (bare : BrokenBare call) :
    Ended call wired := by
  obtain ⟨source, _, ran⟩ := path.split
  obtain ⟨engaged, disarmed⟩ := restopped_held ran restopped
  cases whole with
  | @raised entry caller fault called ended =>
    obtain ⟨⟨moment, callback⟩, report⟩ := entry
    cases called
    obtain ⟨after, _, moved, rest⟩ := ran.first
    obtain rfl := rest.nil_eq
    obtain ⟨before, _, _⟩ := step_turn moved
    refine ⟨engaged, disarmed, ?_, ?_⟩
    · rw [opening_approvals moved, ← before]
      exact bare _ rfl (.inr ⟨caller, rfl⟩)
    · rintro _ closing outcome _ last answered
      cases last
      cases ended.symm.trans answered
  | @ran opening middle closing caller outcome called begun inside ended =>
    obtain ⟨⟨moment, callback⟩, report⟩ := opening
    obtain ⟨⟨later, closes⟩, closed⟩ := closing
    cases called
    obtain ⟨opened, _, moved, rest⟩ := ran.first
    obtain ⟨reached, during, _, last⟩ := rest.last
    obtain ⟨engagement, stack, flagged, fresh⟩ := opening_ends moved begun
    obtain ⟨rfl, _, _⟩ := step_turn moved
    obtain ⟨before, rfl, turn⟩ := step_turn last
    have tracked := middle_tracked during inside stack flagged fresh
    obtain ⟨silent, ends⟩ := tracked.closing ended last
    have finished : ((⟨(moment, .kernel (.engageEmergencyStop caller)), report⟩ : WiredEntry) ::
        middle ++ [((later, closes), closed)]).getLast? = some ((later, closes), closed) :=
      List.getLast?_concat
    rcases ends with ⟨rfl, same, fault, raised⟩ | ⟨cleared, told⟩
    · refine ⟨engaged, disarmed, ?_, ?_⟩
      · rw [same, ← before]
        exact bare _ finished (.inl rfl)
      · rintro _ _ _ _ final answered
        obtain rfl := Option.some.inj (finished.symm.trans final)
        cases raised.symm.trans answered
    · refine ⟨engaged, disarmed, cleared, ?_⟩
      rintro _ _ outcome first final answered
      obtain rfl := Option.some.inj (finished.symm.trans final)
      cases first
      obtain ⟨state, stop, kept, asked, named⟩ := told outcome answered
      have heard : answers report.before.depth (((moment, .kernel (.engageEmergencyStop caller)),
          report) :: middle ++ [((later, closes), closed)]) = answers report.before.depth middle :=
        answers_call (asked_silent fun answer same => (by cases same)) (asked_silent silent)
      exact ⟨state, stop, kept, heard ▸ asked, heard ▸ named⟩

/-- A kernel with one canceller. -/
def registering : Moment × Callback := (honest, .kernel (.registerCanceller "tx.periodic"))

def stopping : Moment × Callback := (honest, .kernel (.engageEmergencyStop operator))

def answering (values : List CancellerValue) : Moment × Callback :=
  (honest, .kernel (.cancellerAnswered (.returned values)))

def finishing : Moment × Callback := (honest, .kernel .engagementReturned)

/-- What is looked at of each step of a schedule. -/
structure Glance where
  hook : DisarmHook
  before : Nat
  after : Nat
  engaged : Bool
  result : Except SafetyFault Outcome
  deriving DecidableEq

def glance (run : WiredKernel × List WiredEntry) : List Glance :=
  run.2.map fun entry => ⟨entry.2.before.hook, entry.2.before.depth, entry.2.after.depth,
    entry.2.after.kernel.emergency.engaged, entry.2.result⟩

/-- The state a stop is answered with that named one reference and failed once. -/
def sampleStop : EmergencyStopState :=
  ⟨true, some 1, some sampleDigest, [⟨"tx.1", by decide +kernel⟩],
    [⟨⟨"tx.periodic", by decide +kernel⟩, .cancellerInvalidReference,
      some ⟨"int", by decide +kernel⟩⟩]⟩

theorem engagement_ends_stopped_asked :
    ∃ front call wired, Path WiredKernel.step anyLabel
        (.start samplePermissions standardPolicy) (front ++ call) wired ∧
      call.getLast?.map (·.2.result) = some (.ok (.stop sampleStop)) ∧ Ended call wired := by
  have evaluated : (follow WiredKernel.step (.start samplePermissions standardPolicy)
      [registering, stopping, answering [.text "tx.1", .other "int"], finishing]).map glance =
        some [⟨.own, 0, 0, false, .ok .nothing⟩, ⟨.own, 0, 1, true, .ok .nothing⟩,
          ⟨.own, 1, 1, true, .ok .nothing⟩, ⟨.own, 1, 0, true, .ok (.stop sampleStop)⟩] := by
    decide +kernel
  obtain ⟨⟨wired, trace⟩, followed, seen⟩ := Option.map_eq_some_iff.mp evaluated
  have path : Path WiredKernel.step anyLabel _ trace wired :=
    .of_follow (fun _ _ _ => trivial) followed
  have labels := follow_labels followed
  simp only [List.map_eq_cons_iff, List.map_eq_nil_iff] at labels
  obtain ⟨registered, _, rfl, _, opening, _, rfl, opens, asked, _, rfl, asks, closing, _, rfl,
    closes, rfl⟩ := labels
  simp only [glance, List.map_cons, List.map_nil, Glance.mk.injEq, List.cons.injEq] at seen
  obtain ⟨_, ⟨hook, before, _, _, begun⟩, ⟨_, _, inside, _⟩, ⟨_, _, ended, _, told⟩, _⟩ := seen
  have whole : EngageCall (opening :: [asked] ++ [closing]) := by
    refine .ran (congrArg Prod.snd opens) begun ?_ (ended.trans before.symm)
    intro entry member
    rw [List.mem_singleton.mp member, before, inside]
    exact Nat.zero_lt_one
  have stops : WiredEntry.Stops opening := by
    simp only [WiredEntry.Stops, opens, stopping]
    exact .inl hook
  have restopped : Restopped (opening :: [asked] ++ [closing]) := by
    refine ⟨[], opening, [asked, closing], rfl, stops, ?_⟩
    simp [WiredEntry.Lifts, asks, closes, answering, finishing]
  have bare : BrokenBare (opening :: [asked] ++ [closing]) := by
    intro entry last broken
    cases last
    simp [closes, finishing] at broken
  have path' : Path WiredKernel.step anyLabel (.start samplePermissions standardPolicy)
      ([registered] ++ (opening :: [asked] ++ [closing])) wired := path
  exact ⟨[registered], _, wired, path', congrArg some told,
    engagement_ends_stopped path' whole restopped bare⟩

/-- A canceller that releases the stop while it is asked leaves it released. -/
theorem canceller_releases_stop :
    ∃ front call wired, Path WiredKernel.step anyLabel
        (.start samplePermissions standardPolicy) (front ++ call) wired ∧ EngageCall call ∧
      (∃ state, call.getLast?.map (·.2.result) = some (.ok (.stop state))) ∧
      wired.kernel.emergency.engaged = false ∧ ¬ Ended call wired := by
  have evaluated : (follow WiredKernel.step (.start samplePermissions standardPolicy)
      [registering, stopping, (honest, .kernel (.releaseEmergencyStop operator)), answering [],
        finishing]).map glance =
        some [⟨.own, 0, 0, false, .ok .nothing⟩, ⟨.own, 0, 1, true, .ok .nothing⟩,
          ⟨.own, 1, 1, false, .ok (.stop .released)⟩, ⟨.own, 1, 1, false, .ok .nothing⟩,
          ⟨.own, 1, 0, false, .ok (.stop .released)⟩] := by
    decide +kernel
  obtain ⟨⟨wired, trace⟩, followed, seen⟩ := Option.map_eq_some_iff.mp evaluated
  have path : Path WiredKernel.step anyLabel _ trace wired :=
    .of_follow (fun _ _ _ => trivial) followed
  have labels := follow_labels followed
  simp only [List.map_eq_cons_iff, List.map_eq_nil_iff] at labels
  obtain ⟨registered, _, rfl, _, opening, _, rfl, opens, freeing, _, rfl, _, asked, _, rfl, _,
    closing, _, rfl, _, rfl⟩ := labels
  simp only [glance, List.map_cons, List.map_nil, Glance.mk.injEq, List.cons.injEq] at seen
  obtain ⟨_, ⟨_, before, _, _, begun⟩, ⟨_, _, lifted, _⟩, ⟨_, _, inside, _⟩,
    ⟨_, _, ended, off, told⟩, _⟩ := seen
  have whole : EngageCall (opening :: [freeing, asked] ++ [closing]) := by
    refine .ran (congrArg Prod.snd opens) begun ?_ (ended.trans before.symm)
    intro entry member
    rcases List.mem_pair.mp member with rfl | rfl
    · rw [before, lifted]
      exact Nat.zero_lt_one
    · rw [before, inside]
      exact Nat.zero_lt_one
  have cut : Path WiredKernel.step anyLabel (.start samplePermissions standardPolicy)
      ([registered, opening, freeing, asked] ++ [(closing.1, closing.2)]) wired := path
  obtain ⟨_, _, _, moved⟩ := cut.last
  obtain ⟨_, rfl, _⟩ := step_turn moved
  refine ⟨[registered], _, _, path, whole, ⟨_, congrArg some told⟩, off, ?_⟩
  intro stands
  exact Bool.false_ne_true (off.symm.trans stands.engaged)

/-- A canceller that engages the stop again leaves it engaged, and both calls end. -/
example : (follow WiredKernel.step (.start samplePermissions standardPolicy)
    [registering, stopping, stopping, answering [], finishing, answering [], finishing]).map
      (fun reached => (reached.1.kernel.emergency.engaged, reached.1.depth)) = some (true, 0) := by
  decide +kernel

end CanX.Safety
