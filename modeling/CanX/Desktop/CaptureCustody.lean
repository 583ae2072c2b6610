import Mathlib.Tactic.ByContra
import CanX.Desktop.CaptureLifecycle

/-! Whose capture is running, read off the calls and their outcomes alone, and the invariant
that ties it to the phase of the lifecycle. -/

namespace CanX.Desktop

open Transition

/-- Whose capture runs: nobody's, one that was started here, one that is being stopped here,
somebody else's, or none that is known after a failure. -/
inductive Custody
  | nobody | ours | leaving | others | lost
  deriving DecidableEq

/-- A capture of somebody else is watched until the lifecycle turns idle of itself. -/
def Custody.after (custody : Custody) : CaptureLifecycleLabel × Option CapturePhase → Custody
  | (.started owned, _) => if owned then .ours else .others
  | (.startRejected _, _) => .lost
  | (.callStop, _) => .leaving
  | (.stopped, _) => .nobody
  | (.stopRejected _, _) => .lost
  | (.decide, entered) => if entered = some .idle then .nobody else custody
  | _ => custody

/-- The intent declared by a label, or the one before it. -/
def intentAfter (intent : Option Bool) : CaptureLifecycleLabel × Option CapturePhase → Option Bool
  | (.acquire, _) => some true
  | (.release, _) => some false
  | _ => intent

namespace CaptureLifecycleLabel

def isCall : CaptureLifecycleLabel → Bool
  | .callStart | .callStop => true
  | _ => false

def isOutcome : CaptureLifecycleLabel → Bool
  | .started _ | .startRejected _ | .stopped | .stopRejected _ => true
  | _ => false

def isFailure : CaptureLifecycleLabel → Bool
  | .startRejected _ | .stopRejected _ => true
  | _ => false

def isStop : CaptureLifecycleLabel → Bool
  | .callStop => true
  | _ => false

def isOwnedStart : CaptureLifecycleLabel → Bool
  | .started owned => owned
  | _ => false

end CaptureLifecycleLabel

namespace CaptureLifecycleTrace

def custody (trace : CaptureLifecycleTrace) : Custody := trace.foldl Custody.after .nobody

def intent (trace : CaptureLifecycleTrace) : Option Bool := trace.foldl intentAfter none

/-- How many labels of a kind were taken. -/
def count (trace : CaptureLifecycleTrace) (kind : CaptureLifecycleLabel → Bool) : Nat :=
  trace.countP fun entry => kind entry.1

variable {trace : CaptureLifecycleTrace} {entry : CaptureLifecycleLabel × Option CapturePhase}

@[simp] theorem custody_snoc : custody (trace ++ [entry]) = (custody trace).after entry := by
  simp [custody]

@[simp] theorem intent_snoc : intent (trace ++ [entry]) = intentAfter (intent trace) entry := by
  simp [intent]

@[simp] theorem count_snoc {kind : CaptureLifecycleLabel → Bool} :
    count (trace ++ [entry]) kind = count trace kind + if kind entry.1 then 1 else 0 := by
  simp [count, List.countP_append, List.countP_singleton]

end CaptureLifecycleTrace

def RunPosition.awaiting : RunPosition → Bool
  | .awaitingStart | .awaitingStop => true
  | _ => false

namespace CaptureLifecycle

open CaptureLifecycleTrace

variable {lifecycle next : CaptureLifecycle} {label : CaptureLifecycleLabel}
variable {entered : Option CapturePhase} {trace : CaptureLifecycleTrace}

/-- What each position of the run says of the phase and of the capture. -/
def Agrees : RunPosition → CapturePhase → Custody → Prop
  | .startDue, phase, custody | .awaitingStart, phase, custody => phase = .starting ∧ custody = .nobody
  | .stopDue, phase, custody => phase = .stopping ∧ custody = .ours
  | .awaitingStop, phase, custody => phase = .stopping ∧ custody = .leaving
  | .deciding, phase, custody | .returned, phase, custody =>
    (phase = .idle ∧ custody = .nobody) ∨ (phase = .owned ∧ custody = .ours) ∨
      (phase = .observed ∧ custody = .others) ∨ (phase = .failed ∧ custody = .lost)

/-- The phase is one that the intent leaves alone. -/
def Reconciled (wanted : Bool) (phase : CapturePhase) : Prop :=
  (wanted = true → phase ≠ .idle) ∧ (wanted = false → phase ≠ .owned ∧ phase ≠ .observed)

/-- The calls made so far, as the position and the capture have them. -/
structure Accounted (trace : CaptureLifecycleTrace) (position : RunPosition) (phase : CapturePhase) :
    Prop where
  calls : trace.count (·.isCall) = trace.count (·.isOutcome) + position.awaiting.toNat
  stops : trace.count (·.isOwnedStart) = trace.count (·.isStop) + (decide (trace.custody = .ours)).toNat
  failures : trace.count (·.isFailure) ≠ 0 → phase = .failed

/-- The invariant of a lifecycle and what has happened to it. -/
structure Kept (trace : CaptureLifecycleTrace) (lifecycle : CaptureLifecycle) : Prop where
  agrees : Agrees lifecycle.position lifecycle.state.phase trace.custody
  pumping : lifecycle.pumping = true ↔ lifecycle.position ≠ .returned
  intent : lifecycle.wanted = (trace.intent).getD false
  begun : lifecycle.position ≠ .returned → trace.intent ≠ none
  rested : lifecycle.position = .returned → trace.intent ≠ none →
    Reconciled lifecycle.wanted lifecycle.state.phase
  accounted : Accounted trace lifecycle.position lifecycle.state.phase

theorem Kept.new : Kept [] new :=
  ⟨.inl ⟨rfl, rfl⟩, by decide, rfl, fun running => absurd rfl running, fun _ some => absurd rfl some, rfl, rfl,
    fun some => absurd rfl some⟩

/-- A label that is neither a call nor its outcome leaves the accounts as they are. -/
theorem Accounted.uneventful {position after : RunPosition} {phase later : CapturePhase}
    (accounted : Accounted trace position phase) (noCall : label.isCall = false)
    (noOutcome : label.isOutcome = false)
    (quiet : (trace.custody).after (label, entered) = .ours ↔ trace.custody = .ours)
    (same : after.awaiting = position.awaiting) (final : phase = .failed → later = .failed) :
    Accounted (trace ++ [(label, entered)]) after later := by
  have noStop : label.isStop = false := by cases label <;> simp_all [CaptureLifecycleLabel.isStop,
    CaptureLifecycleLabel.isCall]
  have noStart : label.isOwnedStart = false := by cases label <;> simp_all [
    CaptureLifecycleLabel.isOwnedStart, CaptureLifecycleLabel.isOutcome]
  have noFailure : label.isFailure = false := by cases label <;> simp_all [
    CaptureLifecycleLabel.isFailure, CaptureLifecycleLabel.isOutcome]
  constructor
  · simpa [noCall, noOutcome, same] using accounted.calls
  · simpa [noStart, noStop, quiet] using accounted.stops
  · intro failed
    exact final (accounted.failures (by simpa [noFailure] using failed))

/-- An intent is only recorded while a run is under way; otherwise it starts one. -/
theorem intend_cases (wanted : Bool) (pumping : lifecycle.pumping = true ↔ lifecycle.position ≠ .returned) :
    (lifecycle.position ≠ .returned ∧ lifecycle.intend wanted = { lifecycle with wanted }) ∨
      (lifecycle.position = .returned ∧
        lifecycle.intend wanted = { lifecycle with wanted, pumping := true, position := .deciding }) := by
  unfold intend pump
  by_cases running : lifecycle.pumping = true
  · rw [if_pos running]
    exact .inl ⟨pumping.mp running, rfl⟩
  · rw [if_neg running]
    exact .inr ⟨by simpa [running] using pumping, rfl⟩

theorem Kept.intend (kept : Kept trace lifecycle) {wanted : Bool} {label : CaptureLifecycleLabel}
    (quiet : (trace.custody).after (label, none) = trace.custody)
    (declared : intentAfter trace.intent (label, none) = some wanted)
    (noCall : label.isCall = false) (noOutcome : label.isOutcome = false) :
    Kept (trace ++ [(label, none)]) (lifecycle.intend wanted) := by
  rcases intend_cases wanted kept.pumping with ⟨running, same⟩ | ⟨returned, same⟩
  · rw [same]
    refine ⟨?_, kept.pumping, ?_, ?_, fun returned => absurd returned running, ?_⟩
    · simpa [quiet] using kept.agrees
    · simp [declared]
    · simp [declared]
    · exact kept.accounted.uneventful noCall noOutcome (by rw [quiet]) rfl id
  · rw [same]
    have agrees := kept.agrees
    rw [returned] at agrees
    refine ⟨?_, by simp, ?_, ?_, fun returned => by simp at returned, ?_⟩
    · rw [custody_snoc, quiet]
      exact agrees
    · simp [declared]
    · simp [declared]
    · exact kept.accounted.uneventful noCall noOutcome (by rw [quiet]) (by rw [returned]; rfl) id

theorem Kept.notified (kept : Kept trace lifecycle) :
    Kept (trace ++ [(.notified, none)]) { lifecycle with notifying := false } := by
  refine ⟨?_, kept.pumping, ?_, ?_, ?_, kept.accounted.uneventful rfl rfl .rfl rfl id⟩
  · simpa [Custody.after] using kept.agrees
  · simpa [intentAfter] using kept.intent
  · simpa [intentAfter] using kept.begun
  · simpa [intentAfter] using kept.rested

/-- A round of the loop enters the phase of the call it is about to make, drops what was only
watched, or returns where intent and phase agree. -/
theorem Kept.reconcile (kept : Kept trace lifecycle) (deciding : lifecycle.position = .deciding) :
    Kept (trace ++ [(.decide, lifecycle.reconcile.2)]) lifecycle.reconcile.1 := by
  have agrees := kept.agrees
  have accounted := kept.accounted
  rw [deciding] at agrees accounted
  have running : lifecycle.pumping = true := kept.pumping.mpr (by rw [deciding]; decide)
  have begun : trace.intent ≠ none := kept.begun (by rw [deciding]; decide)
  unfold CaptureLifecycle.reconcile
  split
  · rename_i due
    obtain ⟨_, nobody⟩ : lifecycle.state.phase = .idle ∧ trace.custody = .nobody := by
      simpa [Agrees, due.2] using agrees
    refine ⟨⟨rfl, ?_⟩, by simpa [set] using running, ?_, fun _ => by simpa [intentAfter] using begun,
      fun returned => by simp at returned, ?_⟩
    · simpa [Custody.after] using nobody
    · simpa [set, intentAfter] using kept.intent
    · exact accounted.uneventful rfl rfl .rfl rfl (fun failed => by simp [due.2] at failed)
  split
  · rename_i due
    obtain ⟨_, ours⟩ : lifecycle.state.phase = .owned ∧ trace.custody = .ours := by
      simpa [Agrees, due.2] using agrees
    refine ⟨⟨rfl, ?_⟩, by simpa [set] using running, ?_, fun _ => by simpa [intentAfter] using begun,
      fun returned => by simp at returned, ?_⟩
    · simpa [Custody.after] using ours
    · simpa [set, intentAfter] using kept.intent
    · exact accounted.uneventful rfl rfl .rfl rfl (fun failed => by simp [due.2] at failed)
  split
  · rename_i due
    obtain ⟨_, others⟩ : lifecycle.state.phase = .observed ∧ trace.custody = .others := by
      simpa [Agrees, due.2] using agrees
    refine ⟨.inl ⟨rfl, ?_⟩, by simpa [set] using running, ?_, fun _ => by simpa [intentAfter] using begun,
      fun returned => by simp at returned, ?_⟩
    · simp [Custody.after]
    · simpa [set, intentAfter] using kept.intent
    · refine accounted.uneventful rfl rfl ?_ rfl (fun failed => by simp [due.2] at failed)
      simp [Custody.after, others]
  · rename_i noStart noStop noForget
    refine ⟨?_, by simp, ?_, fun running => absurd rfl running, fun _ _ => ?_, ?_⟩
    · rw [custody_snoc]
      exact agrees
    · simpa [intentAfter] using kept.intent
    · constructor
      · exact fun wanted idle => noStart ⟨wanted, idle⟩
      · exact fun unwanted => ⟨fun owned => noStop ⟨unwanted, owned⟩, fun observed => noForget ⟨unwanted, observed⟩⟩
    · exact accounted.uneventful rfl rfl .rfl rfl id

theorem Kept.callStart (kept : Kept trace lifecycle) (due : lifecycle.position = .startDue) :
    Kept (trace ++ [(.callStart, none)]) { lifecycle with position := .awaitingStart } := by
  obtain ⟨agrees, pumping, intent, begun, rested, calls, stops, failures⟩ := kept
  rw [due] at agrees calls
  have declared : trace.intent ≠ none := begun (by rw [due]; decide)
  refine ⟨?_, by simpa [due] using pumping, ?_, fun _ => by simpa [intentAfter] using declared,
    fun returned => by simp at returned, ?_, ?_, ?_⟩
  · simpa [Custody.after, Agrees] using agrees
  · simpa [intentAfter] using intent
  · simpa [CaptureLifecycleLabel.isCall, CaptureLifecycleLabel.isOutcome, RunPosition.awaiting] using calls
  · simpa [CaptureLifecycleLabel.isOwnedStart, CaptureLifecycleLabel.isStop, Custody.after] using stops
  · simpa [CaptureLifecycleLabel.isFailure] using failures

theorem Kept.callStop (kept : Kept trace lifecycle) (due : lifecycle.position = .stopDue) :
    Kept (trace ++ [(.callStop, none)]) { lifecycle with position := .awaitingStop } := by
  obtain ⟨agrees, pumping, intent, begun, rested, calls, stops, failures⟩ := kept
  rw [due] at agrees calls
  obtain ⟨stopping, ours⟩ := agrees
  have declared : trace.intent ≠ none := begun (by rw [due]; decide)
  refine ⟨⟨stopping, ?_⟩, by simpa [due] using pumping, ?_, fun _ => by simpa [intentAfter] using declared,
    fun returned => by simp at returned, ?_, ?_, ?_⟩
  · simp [Custody.after]
  · simpa [intentAfter] using intent
  · simpa [CaptureLifecycleLabel.isCall, CaptureLifecycleLabel.isOutcome, RunPosition.awaiting] using calls
  · simpa [CaptureLifecycleLabel.isOwnedStart, CaptureLifecycleLabel.isStop, Custody.after, ours] using stops
  · simpa [CaptureLifecycleLabel.isFailure] using failures

/-- The outcome of a call is the only one that is awaited, and enters the phase that says
whose capture runs now. -/
theorem Kept.settle (kept : Kept trace lifecycle) {phase : CapturePhase} {failureCode : Option String}
    (awaited : lifecycle.position.awaiting = true) (outcome : label.isOutcome = true)
    (agrees : Agrees .deciding phase ((trace.custody).after (label, some phase)))
    (owned : label.isOwnedStart = true ↔ phase = .owned) (failed : label.isFailure = true → phase = .failed) :
    Kept (trace ++ [(label, (lifecycle.settle phase failureCode).2)])
      (lifecycle.settle phase failureCode).1 := by
  have noCall : label.isCall = false := by cases label <;> simp_all [CaptureLifecycleLabel.isCall,
    CaptureLifecycleLabel.isOutcome]
  have noStop : label.isStop = false := by cases label <;> simp_all [CaptureLifecycleLabel.isStop,
    CaptureLifecycleLabel.isOutcome]
  have noIntent : intentAfter trace.intent (label, some phase) = trace.intent := by
    cases label <;> simp_all [intentAfter, CaptureLifecycleLabel.isOutcome]
  have before : trace.custody ≠ .ours ∧ lifecycle.state.phase ≠ .failed := by
    have held := kept.agrees
    cases position : lifecycle.position <;> simp_all [Agrees, RunPosition.awaiting]
  have away : lifecycle.position ≠ .returned := by
    intro returned
    simp [returned, RunPosition.awaiting] at awaited
  have running : lifecycle.pumping = true := kept.pumping.mpr away
  have clean : trace.count (·.isFailure) = 0 := by
    by_contra some
    exact before.2 (kept.accounted.failures some)
  have ours : (trace.custody).after (label, some phase) = .ours ↔ phase = .owned := by
    rcases agrees with ⟨rfl, held⟩ | ⟨rfl, held⟩ | ⟨rfl, held⟩ | ⟨rfl, held⟩
    all_goals simp [held]
  have calls := kept.accounted.calls
  have stops := kept.accounted.stops
  rw [awaited] at calls
  refine ⟨?_, by simpa [CaptureLifecycle.settle, set] using running, ?_,
    fun _ => by simpa [CaptureLifecycle.settle, noIntent] using kept.begun away,
    fun returned => by simp [CaptureLifecycle.settle] at returned, ?_, ?_, ?_⟩
  · simpa [CaptureLifecycle.settle, set] using agrees
  · simpa [CaptureLifecycle.settle, set, noIntent] using kept.intent
  · simpa [CaptureLifecycle.settle, noCall, outcome, RunPosition.awaiting] using calls
  · simp only [decide_eq_false before.1, Bool.toNat_false, Nat.add_zero] at stops
    by_cases same : phase = .owned
    · have mine := ours.mpr same
      subst same
      simp [CaptureLifecycle.settle, noStop, mine, owned.mpr rfl, stops]
    · have noStart : label.isOwnedStart = false := Bool.eq_false_iff.mpr fun started => same (owned.mp started)
      simp [CaptureLifecycle.settle, noStop, ours, same, noStart, stops]
  · intro some
    simp only [CaptureLifecycle.settle, set]
    refine failed ?_
    by_contra clear
    simp [CaptureLifecycle.settle, clean, clear] at some

theorem Kept.step (kept : Kept trace lifecycle) (moved : lifecycle.step label = some (next, entered)) :
    Kept (trace ++ [(label, entered)]) next := by
  have agrees := kept.agrees
  cases label with
  | acquire =>
    simp only [CaptureLifecycle.step, Option.ite_none_right_eq_some, Option.some.injEq, Prod.mk.injEq] at moved
    obtain ⟨_, rfl, rfl⟩ := moved
    exact kept.intend rfl rfl rfl rfl
  | release =>
    simp only [CaptureLifecycle.step, Option.ite_none_right_eq_some, Option.some.injEq, Prod.mk.injEq] at moved
    obtain ⟨_, rfl, rfl⟩ := moved
    exact kept.intend rfl rfl rfl rfl
  | notified =>
    simp only [CaptureLifecycle.step, Option.ite_none_right_eq_some, Option.some.injEq, Prod.mk.injEq] at moved
    obtain ⟨_, rfl, rfl⟩ := moved
    exact kept.notified
  | decide =>
    simp only [CaptureLifecycle.step, Option.ite_none_right_eq_some, Option.some.injEq] at moved
    obtain ⟨⟨_, deciding⟩, same⟩ := moved
    obtain ⟨rfl, rfl⟩ := Prod.mk.inj same
    exact kept.reconcile deciding
  | callStart =>
    simp only [CaptureLifecycle.step, Option.ite_none_right_eq_some, Option.some.injEq, Prod.mk.injEq] at moved
    obtain ⟨⟨_, due⟩, rfl, rfl⟩ := moved
    exact kept.callStart due
  | started owned =>
    simp only [CaptureLifecycle.step, Option.ite_none_right_eq_some, Option.some.injEq] at moved
    obtain ⟨awaited, same⟩ := moved
    obtain ⟨rfl, rfl⟩ := Prod.mk.inj same
    refine kept.settle (by rw [awaited]; rfl) rfl ?_ ?_ ?_
    all_goals cases owned
    all_goals simp [Agrees, Custody.after, CaptureLifecycleLabel.isOwnedStart, CaptureLifecycleLabel.isFailure]
  | startRejected cause =>
    simp only [CaptureLifecycle.step, Option.ite_none_right_eq_some, Option.some.injEq] at moved
    obtain ⟨awaited, same⟩ := moved
    obtain ⟨rfl, rfl⟩ := Prod.mk.inj same
    refine kept.settle (by rw [awaited]; rfl) rfl ?_ ?_ ?_
    all_goals simp [Agrees, Custody.after, CaptureLifecycleLabel.isOwnedStart]
  | callStop =>
    simp only [CaptureLifecycle.step, Option.ite_none_right_eq_some, Option.some.injEq, Prod.mk.injEq] at moved
    obtain ⟨⟨_, due⟩, rfl, rfl⟩ := moved
    exact kept.callStop due
  | stopped =>
    simp only [CaptureLifecycle.step, Option.ite_none_right_eq_some, Option.some.injEq] at moved
    obtain ⟨awaited, same⟩ := moved
    obtain ⟨rfl, rfl⟩ := Prod.mk.inj same
    refine kept.settle (by rw [awaited]; rfl) rfl ?_ ?_ ?_
    all_goals simp [Agrees, Custody.after, CaptureLifecycleLabel.isOwnedStart, CaptureLifecycleLabel.isFailure]
  | stopRejected cause =>
    simp only [CaptureLifecycle.step, Option.ite_none_right_eq_some, Option.some.injEq] at moved
    obtain ⟨awaited, same⟩ := moved
    obtain ⟨rfl, rfl⟩ := Prod.mk.inj same
    refine kept.settle (by rw [awaited]; rfl) rfl ?_ ?_ ?_
    all_goals simp [Agrees, Custody.after, CaptureLifecycleLabel.isOwnedStart]

theorem Kept.path (path : Path CaptureLifecycle.step anyLabel CaptureLifecycle.new trace lifecycle) :
    Kept trace lifecycle :=
  path.preserves_trace Kept .new fun _ _ _ _ _ _ kept _ moved => kept.step moved

/-- `start` is called where nobody's capture runs and no call has failed. -/
theorem Kept.start_free (kept : Kept trace lifecycle)
    (moved : lifecycle.step .callStart = some (next, entered)) :
    trace.custody = .nobody ∧ trace.count (·.isFailure) = 0 := by
  simp only [CaptureLifecycle.step, Option.ite_none_right_eq_some] at moved
  obtain ⟨⟨_, due⟩, _⟩ := moved
  have agrees := kept.agrees
  rw [due] at agrees
  obtain ⟨starting, nobody⟩ := agrees
  refine ⟨nobody, ?_⟩
  by_contra some
  exact absurd (starting.symm.trans (kept.accounted.failures some)) (by decide)

/-- `stop` is called for a capture that was started here. -/
theorem Kept.stop_owned (kept : Kept trace lifecycle)
    (moved : lifecycle.step .callStop = some (next, entered)) : trace.custody = .ours := by
  simp only [CaptureLifecycle.step, Option.ite_none_right_eq_some] at moved
  obtain ⟨⟨_, due⟩, _⟩ := moved
  have agrees := kept.agrees
  rw [due] at agrees
  exact agrees.2

/-- What was only watched is dropped when nothing wants it any more. -/
theorem Kept.dropped (kept : Kept trace lifecycle)
    (moved : lifecycle.step .decide = some (next, some .idle)) :
    trace.custody = .others ∧ trace.intent = some false := by
  simp only [CaptureLifecycle.step, Option.ite_none_right_eq_some, Option.some.injEq] at moved
  obtain ⟨⟨_, deciding⟩, same⟩ := moved
  have agrees := kept.agrees
  have begun : trace.intent ≠ none := kept.begun (by rw [deciding]; decide)
  rw [deciding] at agrees
  unfold CaptureLifecycle.reconcile at same
  split at same
  · cases same
  split at same
  · cases same
  split at same
  · rename_i due
    obtain ⟨_, others⟩ : lifecycle.state.phase = .observed ∧ trace.custody = .others := by
      simpa [Agrees, due.2] using agrees
    obtain ⟨intent, declared⟩ := Option.ne_none_iff_exists'.mp begun
    have unwanted := kept.intent.symm.trans due.1
    rw [declared, Option.getD_some] at unwanted
    exact ⟨others, by rw [declared, unwanted]⟩
  · cases same

/-- Where no call is in flight and no turn is under way, the phase is what the last intent asks
for, or what a failure left. -/
theorem Kept.converged (kept : Kept trace lifecycle) (past : lifecycle.turnOver = true)
    (settled : trace.count (·.isCall) = trace.count (·.isOutcome)) :
    (trace.intent = some false → (lifecycle.state.phase = .idle ∨ lifecycle.state.phase = .failed) ∧
        trace.count (·.isOwnedStart) = trace.count (·.isStop)) ∧
      (trace.intent = some true → lifecycle.state.phase = .owned ∨ lifecycle.state.phase = .observed ∨
        lifecycle.state.phase = .failed) := by
  have calls := kept.accounted.calls
  have stops := kept.accounted.stops
  have returned : lifecycle.position = .returned := by
    cases position : lifecycle.position <;> simp_all [turnOver, RunPosition.awaiting]
  have agrees := kept.agrees
  rw [returned] at agrees
  constructor
  · intro released
    obtain ⟨_, leaves⟩ := kept.rested returned (by simp [released])
    obtain ⟨notOwned, notObserved⟩ := leaves (by rw [kept.intent, released, Option.getD_some])
    rcases agrees with ⟨phase, held⟩ | ⟨phase, _⟩ | ⟨phase, _⟩ | ⟨phase, held⟩
    · exact ⟨.inl phase, by simpa [held] using stops⟩
    · exact absurd phase notOwned
    · exact absurd phase notObserved
    · exact ⟨.inr phase, by simpa [held] using stops⟩
  · intro acquired
    obtain ⟨starts, _⟩ := kept.rested returned (by simp [acquired])
    have notIdle := starts (by rw [kept.intent, acquired, Option.getD_some])
    rcases agrees with ⟨phase, _⟩ | ⟨phase, _⟩ | ⟨phase, _⟩ | ⟨phase, _⟩
    · exact absurd phase notIdle
    · exact .inl phase
    · exact .inr (.inl phase)
    · exact .inr (.inr phase)

end CaptureLifecycle

open CaptureLifecycleTrace

/-- A capture that was started here is stopped here, once, and nobody else's is. -/
theorem captureLifecycle_owns {trace : CaptureLifecycleTrace} {lifecycle : CaptureLifecycle}
    (path : Path CaptureLifecycle.step anyLabel .new trace lifecycle) :
    trace.count (·.isCall) ≤ trace.count (·.isOutcome) + 1 ∧
    (∀ front back entered, trace = front ++ (.callStart, entered) :: back →
      custody front = .nobody ∧ count front (·.isFailure) = 0) ∧
    (∀ front back entered, trace = front ++ (.callStop, entered) :: back → custody front = .ours) ∧
    (∀ front back, trace = front ++ (.decide, some .idle) :: back →
      custody front = .others ∧ intent front = some false) ∧
    trace.count (·.isOwnedStart) = trace.count (·.isStop) + (if trace.custody = .ours then 1 else 0) ∧
    (lifecycle.turnOver = true → trace.count (·.isCall) = trace.count (·.isOutcome) →
      (trace.intent = some false →
        (lifecycle.state.phase = .idle ∨ lifecycle.state.phase = .failed) ∧
          trace.count (·.isOwnedStart) = trace.count (·.isStop)) ∧
      (trace.intent = some true →
        lifecycle.state.phase = .owned ∨ lifecycle.state.phase = .observed ∨
          lifecycle.state.phase = .failed)) := by
  have kept := CaptureLifecycle.Kept.path path
  refine ⟨?_, ?_, ?_, ?_, ?_, kept.converged⟩
  · have calls := kept.accounted.calls
    have one := Bool.toNat_le lifecycle.position.awaiting
    omega
  · rintro front back entered rfl
    obtain ⟨before, after, prior, _, moved, _⟩ := path.at_label
    exact (CaptureLifecycle.Kept.path prior).start_free moved
  · rintro front back entered rfl
    obtain ⟨before, after, prior, _, moved, _⟩ := path.at_label
    exact (CaptureLifecycle.Kept.path prior).stop_owned moved
  · rintro front back rfl
    obtain ⟨before, after, prior, _, moved, _⟩ := path.at_label
    exact (CaptureLifecycle.Kept.path prior).dropped moved
  · have stops := kept.accounted.stops
    split
    · rename_i ours
      simpa [ours] using stops
    · rename_i other
      simpa [other] using stops

/-- An unmount while the start is under way: the capture that it turns out to own is stopped. -/
def unmountedSchedule : List CaptureLifecycleLabel :=
  [.acquire, .decide, .notified, .callStart, .release, .started true, .notified, .decide, .notified,
    .callStop, .stopped, .notified, .decide]

/-- Whether a turn is under way, the last intent, and the calls and outcomes so far. -/
def reconciliationSeen (reached : CaptureLifecycle × CaptureLifecycleTrace) :
    Bool × Option Bool × Nat × Nat :=
  (reached.1.turnOver, reached.2.intent, reached.2.count (·.isCall), reached.2.count (·.isOutcome))

theorem captureLifecycle_owns_unmounted : ∃ trace lifecycle,
    Path CaptureLifecycle.step anyLabel .new trace lifecycle ∧
      (lifecycle.state.phase = .idle ∨ lifecycle.state.phase = .failed) ∧
      count trace (·.isOwnedStart) = count trace (·.isStop) := by
  have evaluated : (followWithin CaptureLifecycle.step (fun _ _ => true) .new unmountedSchedule).map
      reconciliationSeen = some (true, some false, 2, 2) := by decide
  obtain ⟨trace, lifecycle, path, seen⟩ :=
    Path.observedWithin _ reconciliationSeen _ (fun _ _ _ => trivial : ∀ _ _, _ → anyLabel _ _) evaluated
  simp only [reconciliationSeen, Prod.mk.injEq] at seen
  obtain ⟨past, released, calls, outcomes⟩ := seen
  have rested := (captureLifecycle_owns path).2.2.2.2.2 past (calls.trans outcomes.symm)
  exact ⟨trace, lifecycle, path, rested.1 released⟩

end CanX.Desktop
