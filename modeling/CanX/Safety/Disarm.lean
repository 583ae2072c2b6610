import CanX.Dbc.Asset
import CanX.Safety.Epoch

/-! `disarm` with the reason it was given, over the trail its sink keeps. -/

namespace CanX.Safety

open Dbc Transition

section Reasons

/-- The UTF-8 form of a code point. -/
def utf8 (point : CodePoint) : Bytes :=
  let value := point.val
  if value < 0x80 then [.ofNat value]
  else if value < 0x800 then [.ofNat (0xC0 + value / 0x40), .ofNat (0x80 + value % 0x40)]
  else if value < 0x10000 then
    [.ofNat (0xE0 + value / 0x1000), .ofNat (0x80 + value / 0x40 % 0x40), .ofNat (0x80 + value % 0x40)]
  else
    [.ofNat (0xF0 + value / 0x40000), .ofNat (0x80 + value / 0x1000 % 0x40),
      .ofNat (0x80 + value / 0x40 % 0x40), .ofNat (0x80 + value % 0x40)]

/-- `reason.encode("utf-8")`, which raises `UnicodeEncodeError` at a surrogate. -/
def encodeReason (reason : Text) : Except SafetyFault Bytes :=
  if reason.encodable then .ok (reason.flatMap utf8) else .error foreignFault

def digestReason (sha256 : Bytes → Sha256Digest) (reason : Text) : Except SafetyFault Sha256Digest :=
  (encodeReason reason).map sha256

end Reasons

section Trails

/-- The kernel and the events its sink accepted, oldest first. -/
structure Trailed where
  kernel : SafetyKernel
  trail : List SafetyAuditEvent

/-- A call, what the environment answers during it, and the reason text it was given. -/
structure Asked where
  moment : Moment
  call : Call
  reason : Text

/-- What a call with a reason was seen to do. -/
structure DisarmTurn where
  before : Trailed
  after : Trailed
  result : Except SafetyFault Outcome

variable (sha256 : Bytes → Sha256Digest)

/-- The digest of the reason is computed, not answered by the environment. -/
def Asked.during (asked : Asked) : Moment :=
  { asked.moment with reasonDigest := digestReason sha256 asked.reason }

def Trailed.step (state : Trailed) (asked : Asked) : Option (Trailed × DisarmTurn) :=
  (state.kernel.step (asked.during sha256, asked.call)).map fun (kernel, report) =>
    let after := ⟨kernel, state.trail ++ report.recorded.toList⟩
    (after, ⟨state, after, report.result⟩)

def Trailed.start (permissions : PermissionSet) (policy : SafetyPolicy) : Trailed :=
  ⟨.start permissions policy, []⟩

/-- The runtime is disarmed, and either one event says so or the caller is told that none does. -/
structure Accounted (turn : DisarmTurn) (caller : CallerIdentity) : Prop where
  disarmed : turn.after.kernel.armController.state = .disarmed
  told : (∃ event, event.operationId = ControlAction.disarm.operationId ∧ event.callerId = caller.callerId ∧
      turn.after.trail = turn.before.trail ++ [event] ∧ turn.result = .ok (.armState .disarmed)) ∨
    ∃ fault, turn.result = .error fault ∧ fault.kind = .audit

end Trails

namespace SafetyKernel

variable {kernel : SafetyKernel} {moment : Moment} {caller : CallerIdentity} {action : ControlAction}
variable {detail : Option String} {reasonDigest : Option Sha256Digest} {fault : SafetyFault}

/-- Whatever keeps a control event from being prepared or written is raised as an audit fault. -/
theorem recordControl_fault (raised : kernel.recordControl moment action caller detail reasonDigest = .error fault) :
    fault.kind = .audit := by
  simp only [recordControl, bind, Except.bind] at raised
  split at raised
  · rename_i unready
    cases raised
    unfold prepared at unready
    split at unready <;> cases unready
    rfl
  · simp only [write] at raised
    split at raised <;> cases raised
    rfl

end SafetyKernel

section Calls

variable {sha256 : Bytes → Sha256Digest} {state next : Trailed} {asked : Asked} {turn : DisarmTurn}
variable {caller : CallerIdentity} {reason : Text}

private theorem digestReason_encodable (sha256 : Bytes → Sha256Digest) (encodable : reason.encodable = true) :
    digestReason sha256 reason = .ok (sha256 (reason.flatMap utf8)) := by
  rw [digestReason, encodeReason, if_pos encodable]
  rfl

private theorem digestReason_unencodable (sha256 : Bytes → Sha256Digest) (unencodable : ¬ reason.encodable = true) :
    digestReason sha256 reason = .error foreignFault := by
  rw [digestReason, encodeReason, if_neg unencodable]
  rfl

/-- A disarm call as it is seen in the trail. -/
theorem disarm_turn (called : asked.call = .disarm caller) (moved : state.step sha256 asked = some (next, turn)) :
    turn.before = state ∧ turn.after = next ∧
      turn.result = (state.kernel.disarm (asked.during sha256) caller).result.map .armState ∧
      next = ⟨(state.kernel.disarm (asked.during sha256) caller).kernel,
        state.trail ++ (state.kernel.disarm (asked.during sha256) caller).recorded.toList⟩ := by
  obtain ⟨⟨kernel, report⟩, stepped, seen⟩ := Option.map_eq_some_iff.mp moved
  cases seen
  rw [called] at stepped
  unfold SafetyKernel.step at stepped
  split at stepped
  · cases stepped
  · obtain ⟨reply, performed, answered⟩ := Option.map_eq_some_iff.mp stepped
    cases performed
    cases answered
    exact ⟨rfl, rfl, rfl, rfl⟩

/-- A disarm call accounts for itself exactly if its reason has a UTF-8 form. -/
theorem disarm_accounted (called : asked.call = .disarm caller)
    (moved : state.step sha256 asked = some (next, turn)) :
    Accounted turn caller ↔ asked.reason.encodable = true := by
  obtain ⟨before, after, result, reached⟩ := disarm_turn called moved
  by_cases encodable : asked.reason.encodable = true
  · refine iff_of_true ?_ encodable
    have digested := digestReason_encodable sha256 encodable
    have record : state.kernel.disarm (asked.during sha256) caller =
        state.kernel.disarmed.answering (state.kernel.disarmed.recordControl (asked.during sha256) .disarm caller none
          (some (sha256 (asked.reason.flatMap utf8)))) .disarmed := by
      simp only [SafetyKernel.disarm, Asked.during, digested, bind, Except.bind]
    cases outcome : state.kernel.disarmed.recordControl (asked.during sha256) .disarm caller none
        (some (sha256 (asked.reason.flatMap utf8))) with
    | ok event =>
      obtain ⟨named, signed⟩ := SafetyKernel.recordControl_signed outcome
      rw [record, outcome] at result reached
      refine ⟨?_, .inl ⟨event, named, signed, ?_, result⟩⟩
      · rw [after, reached]
        rfl
      · rw [after, before, reached]
        rfl
    | error fault =>
      rw [record, outcome] at result reached
      refine ⟨?_, .inr ⟨fault, result, SafetyKernel.recordControl_fault outcome⟩⟩
      rw [after, reached]
      rfl
  · refine iff_of_false ?_ encodable
    intro accounted
    have digested := digestReason_unencodable sha256 encodable
    have raised : turn.result = .error foreignFault := by
      rw [result]
      simp only [SafetyKernel.disarm, Asked.during, digested, bind, Except.bind]
      rfl
    rcases accounted.told with ⟨event, _, _, _, answered⟩ | ⟨fault, answered, audit⟩
    · cases raised.symm.trans answered
    · cases raised.symm.trans answered
      cases audit

/-- Every disarm call of a run accounts for itself exactly if each was given a reason with a UTF-8 form. -/
theorem disarms_accounted {permissions : PermissionSet} {policy : SafetyPolicy} {trace : List (Asked × DisarmTurn)}
    (path : Path (Trailed.step sha256) anyLabel (.start permissions policy) trace state) :
    (∀ entry ∈ trace, ∀ caller, entry.1.call = .disarm caller → Accounted entry.2 caller) ↔
      ∀ entry ∈ trace, ∀ caller, entry.1.call = .disarm caller → entry.1.reason.encodable = true := by
  have each : ∀ entry ∈ trace, ∀ caller, entry.1.call = .disarm caller →
      (Accounted entry.2 caller ↔ entry.1.reason.encodable = true) := by
    intro entry member caller called
    obtain ⟨front, back, rfl⟩ := List.append_of_mem member
    obtain ⟨before, after, _, _, moved, _⟩ := path.at_label
    exact disarm_accounted called moved
  constructor
  · intro accounted entry member caller called
    exact (each entry member caller called).mp (accounted entry member caller called)
  · intro encodable entry member caller called
    exact (each entry member caller called).mpr (encodable entry member caller called)

end Calls

section Sample

def sampleDisarm (reason : Text) : Asked := ⟨honest, .disarm operator, reason⟩

/-- An armed runtime is disarmed by an operator who says why. -/
theorem disarms_accounted_operator :
    ∃ trace state, Path (Trailed.step fun _ => sampleDigest) anyLabel (.start samplePermissions standardPolicy)
        trace state ∧ state.trail.length = 3 ∧
      ∀ entry ∈ trace, ∀ caller, entry.1.call = .disarm caller → Accounted entry.2 caller := by
  have evaluated : (follow (Trailed.step fun _ => sampleDigest) (.start samplePermissions standardPolicy)
      [⟨honest, .arm sampleScope operator, []⟩, ⟨honest, .confirmArm operator, []⟩,
        sampleDisarm (text "operator stop")]).map (fun reached => (reached.1.trail.length,
          decide (∀ entry ∈ reached.2, entry.1.reason.encodable = true))) = some (3, true) := by
    decide +kernel
  obtain ⟨⟨state, trace⟩, followed, seen⟩ := Option.map_eq_some_iff.mp evaluated
  obtain ⟨length, encodable⟩ := Prod.mk.inj seen
  have path : Path (Trailed.step fun _ => sampleDigest) anyLabel (.start samplePermissions standardPolicy)
      trace state := .of_follow (fun _ _ _ => trivial) followed
  refine ⟨trace, state, path, length, (disarms_accounted path).mpr ?_⟩
  intro entry member _ _
  exact of_decide_eq_true encodable entry member

/-- A reason with an unpaired surrogate disarms, records nothing and raises what is no audit fault. -/
theorem surrogate_unaccounted :
    ∃ state turn, Path (Trailed.step fun _ => sampleDigest) anyLabel (.start samplePermissions standardPolicy)
        [(sampleDisarm [0xD800], turn)] state ∧
      turn.result = .error foreignFault ∧ state.trail = [] ∧ ¬ Accounted turn operator := by
  have path : Path (Trailed.step fun _ => sampleDigest) anyLabel (.start samplePermissions standardPolicy)
      [(sampleDisarm [0xD800], _)] _ := .single trivial rfl
  refine ⟨_, _, path, rfl, rfl, ?_⟩
  intro accounted
  rcases accounted.told with ⟨_, _, _, _, answered⟩ | ⟨_, answered, audit⟩
  · cases answered
  · cases answered
    cases audit

end Sample

end CanX.Safety
