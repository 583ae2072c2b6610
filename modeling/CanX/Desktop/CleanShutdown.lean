import CanX.Desktop.RuntimeSidecar
import Mathlib.Data.List.Sublists

/-! Whether a clean shutdown is reported as stopped for good. -/

namespace CanX.Desktop

namespace RuntimeSidecar

section Traces

/-- The state that an answered poll leaves. -/
def polledState (found : Option ExitCode) (healthy : Bool) (before : LifecycleState) : LifecycleState :=
  match found with
  | some exitCode => (SidecarLifecycle.onChildExit ⟨before⟩ exitCode).state
  | none => if healthy then .ready else before

def after (sidecar : RuntimeSidecar) : SidecarEvent → RuntimeSidecar
  | .exited exitCode => { sidecar with child := some exitCode }
  | .began => { sidecar with lifecycle := ⟨.stopping⟩ }
  | .accepted | .concluded => sidecar
  | .polled _ _ _ state | .settled _ _ state => { sidecar with lifecycle := ⟨state⟩ }

/-- An event that can come next. -/
def Fits (sidecar : RuntimeSidecar) : SidecarEvent → Prop
  | .exited _ => sidecar.child = none
  | .began => True
  | .accepted => sidecar.state = .stopping
  | .concluded => sidecar.state ≠ .ready
  | .polled found healthy before state =>
    found = sidecar.child ∧ before = sidecar.state ∧ state = polledState found healthy before
  | .settled exitCode before state =>
    sidecar.child = some exitCode ∧ sidecar.state = .stopping ∧ before = .stopping ∧
      state = (SidecarLifecycle.onChildExit ⟨before⟩ exitCode).state

inductive Traced : RuntimeSidecar → List SidecarEvent → RuntimeSidecar → Prop
  | nil {sidecar : RuntimeSidecar} : Traced sidecar [] sidecar
  | cons {sidecar last : RuntimeSidecar} {event : SidecarEvent} {rest : List SidecarEvent} (fits : sidecar.Fits event)
      (later : Traced (sidecar.after event) rest last) : Traced sidecar (event :: rest) last

variable {sidecar middle last : RuntimeSidecar} {front back trace : List SidecarEvent} {event : SidecarEvent}
variable {invariant : RuntimeSidecar → Prop} {exitCode : ExitCode} {before : LifecycleState} {timeout : String}

theorem Traced.single (fits : sidecar.Fits event) : Traced sidecar [event] (sidecar.after event) := .cons fits .nil

theorem Traced.trans (first : Traced sidecar front middle) (second : Traced middle back last) :
    Traced sidecar (front ++ back) last := by
  induction first with
  | nil => exact second
  | cons fits later ih => exact .cons fits (ih second)

theorem Traced.split (traced : Traced sidecar (front ++ event :: back) last) :
    ∃ middle, Traced sidecar front middle ∧ middle.Fits event ∧ Traced (middle.after event) back last := by
  induction front generalizing sidecar with
  | nil =>
    cases traced with
    | cons fits later => exact ⟨sidecar, .nil, fits, later⟩
  | cons head rest ih =>
    cases traced with
    | cons fits later =>
      obtain ⟨middle, first, here, second⟩ := ih later
      exact ⟨middle, .cons fits first, here, second⟩

/-- What every event of a trace keeps holds at its end, and wherever one of its events came. -/
theorem Traced.keeps (traced : Traced sidecar trace last) (holds : invariant sidecar)
    (step : ∀ state event, event ∈ trace → state.Fits event → invariant state →
      invariant (state.after event)) :
    invariant last ∧ ∀ event ∈ trace, ∃ state, invariant state ∧ state.Fits event := by
  induction traced with
  | nil => exact ⟨holds, fun event member => by cases member⟩
  | @cons sidecar last event rest fits later ih =>
    have next := step sidecar event List.mem_cons_self fits holds
    obtain ⟨final, others⟩ := ih next fun state other member => step state other (List.mem_cons_of_mem _ member)
    refine ⟨final, ?_⟩
    intro other member
    rcases List.mem_cons.mp member with rfl | there
    · exact ⟨sidecar, holds, fits⟩
    · exact others other there

end Traces

section Calls

variable {sidecar : RuntimeSidecar} {timeout : String} {forced : ForcedEnd}

theorem exits_traced (sidecar : RuntimeSidecar) (exit : Option ExitCode) :
    Traced sidecar (sidecar.exits exit).2 (sidecar.exits exit).1 ∧
      (sidecar.exits exit).1.lifecycle = sidecar.lifecycle := by
  obtain ⟨child, lifecycle⟩ := sidecar
  cases child with
  | some exitCode => exact ⟨.nil, rfl⟩
  | none =>
    cases exit with
    | none => exact ⟨.nil, rfl⟩
    | some exitCode => exact ⟨.single rfl, rfl⟩

/-- Once the child was asked to exit, it has. -/
theorem exits_ended (sidecar : RuntimeSidecar) (exitCode : ExitCode) :
    ∃ code, (sidecar.exits (some exitCode)).1.child = some code := by
  obtain ⟨child, lifecycle⟩ := sidecar
  cases child with
  | some code => exact ⟨code, rfl⟩
  | none => exact ⟨exitCode, rfl⟩

theorem pollStatus_traced (sidecar : RuntimeSidecar) (moment : StatusMoment) :
    Traced sidecar (sidecar.pollStatus moment).2.2 (sidecar.pollStatus moment).2.1 := by
  have exited := (exits_traced sidecar moment.exit).1
  rw [pollStatus]
  generalize sidecar.exits moment.exit = answered at exited
  obtain ⟨asked, events⟩ := answered
  cases moment.failure with
  | some error => exact exited
  | none =>
    refine exited.trans (.cons ⟨rfl, rfl, ?_⟩ .nil)
    cases asked.child with
    | some exitCode => rfl
    | none =>
      cases moment.healthy with
      | true => rfl
      | false => rfl

theorem waitUntilReady_traced (timeout : String) (moments : List StatusMoment) (sidecar : RuntimeSidecar) :
    Traced sidecar (waitUntilReady timeout moments sidecar).2.2 (waitUntilReady timeout moments sidecar).2.1 := by
  induction moments generalizing sidecar with
  | nil => exact .nil
  | cons moment rest ih =>
    have polled := pollStatus_traced sidecar moment
    rw [waitUntilReady]
    split
    · rename_i found
      rw [found] at polled
      exact polled
    · rename_i found
      rw [found] at polled
      exact polled
    · rename_i found
      rw [found] at polled
      exact polled
    · rename_i found
      rw [found] at polled
      exact polled.trans (ih _)

private theorem settle_traced {exitCode : ExitCode} (exited : sidecar.child = some exitCode)
    (stopping : sidecar.state = .stopping) :
    Traced sidecar (sidecar.settle exitCode).2 (sidecar.settle exitCode).1 := by
  have final : (SidecarLifecycle.onChildExit ⟨sidecar.state⟩ exitCode).state ≠ .ready := by
    rw [SidecarLifecycle.onChildExit]
    split
    · exact LifecycleState.noConfusion
    · exact LifecycleState.noConfusion
  exact .cons ⟨exited, stopping, stopping, rfl⟩ (.cons final .nil)

private theorem terminate_traced (stopping : sidecar.state = .stopping) :
    Traced sidecar (terminate timeout forced sidecar).2.2 (terminate timeout forced sidecar).2.1 := by
  obtain ⟨exited, same⟩ := exits_traced sidecar forced.exit
  rw [terminate]
  generalize sidecar.exits forced.exit = answered at exited same
  obtain ⟨asked, events⟩ := answered
  have held : asked.state = .stopping := (congrArg SidecarLifecycle.state same).trans stopping
  cases forced.killFailure with
  | some error =>
    have running : asked.state ≠ .ready := by
      rw [held]
      exact LifecycleState.noConfusion
    exact exited.trans (.cons running .nil)
  | none =>
    obtain ⟨killed, kept⟩ := exits_traced asked (some forced.killed)
    obtain ⟨code, ended⟩ := exits_ended asked forced.killed
    dsimp only
    generalize asked.exits (some forced.killed) = answered at killed kept ended
    obtain ⟨final, more⟩ := answered
    have settling : final.state = .stopping := (congrArg SidecarLifecycle.state kept).trans held
    cases forced.waitFailure with
    | some error => exact exited.trans killed
    | none =>
      have settled := settle_traced ended settling
      dsimp only at ended ⊢
      rw [ended, Option.getD_some]
      exact (exited.trans killed).trans settled

private theorem awaitExit_traced (timeout : String) (forced : ForcedEnd) (moments : List StatusMoment)
    (stopping : sidecar.state = .stopping) :
    Traced sidecar (awaitExit timeout forced moments sidecar).2.2 (awaitExit timeout forced moments sidecar).2.1 := by
  induction moments generalizing sidecar with
  | nil => exact terminate_traced stopping
  | cons moment rest ih =>
    obtain ⟨exited, same⟩ := exits_traced sidecar moment.exit
    rw [awaitExit]
    generalize sidecar.exits moment.exit = answered at exited same
    obtain ⟨asked, events⟩ := answered
    have held : asked.state = .stopping := (congrArg SidecarLifecycle.state same).trans stopping
    cases moment.failure with
    | some error => exact exited
    | none =>
      cases ended : asked.child with
      | some exitCode =>
        have settled := settle_traced ended held
        dsimp only
        rw [ended]
        exact exited.trans settled
      | none =>
        dsimp only
        rw [ended]
        exact exited.trans (ih held)

private theorem shutdown_traced (timeout : String) (answer : ShutdownAnswer) (moments : List StatusMoment)
    (forced : ForcedEnd) (sidecar : RuntimeSidecar) : Traced sidecar (shutdown timeout answer moments forced sidecar).2.2
      (shutdown timeout answer moments forced sidecar).2.1 := by
  have begun : Traced sidecar [.began] { sidecar with lifecycle := sidecar.lifecycle.beginShutdown } := .single trivial
  obtain ⟨exited, same⟩ := exits_traced { sidecar with lifecycle := sidecar.lifecycle.beginShutdown } answer.exit
  rw [shutdown]
  dsimp only
  generalize RuntimeSidecar.exits { sidecar with lifecycle := sidecar.lifecycle.beginShutdown } answer.exit = answered
    at exited same
  obtain ⟨asked, events⟩ := answered
  have held : asked.state = .stopping := congrArg SidecarLifecycle.state same
  have asking := begun.trans exited
  cases answer.status with
  | error error => exact asking
  | ok status =>
    dsimp only
    split
    · exact asking
    · have waited := awaitExit_traced timeout forced moments held
      exact asking.trans (.cons held waited)

private theorem perform_traced (sidecar : RuntimeSidecar) (call : SidecarCall) :
    Traced sidecar (sidecar.perform call).2 (sidecar.perform call).1 := by
  cases call with
  | childExits exitCode => exact (exits_traced sidecar (some exitCode)).1
  | pollStatus moment => exact pollStatus_traced sidecar moment
  | waitUntilReady timeout moments => exact waitUntilReady_traced timeout moments sidecar
  | shutdown timeout answer moments forced => exact shutdown_traced timeout answer moments forced sidecar

/-- The events of every list of calls follow one another. -/
theorem history_traced (sidecar : RuntimeSidecar) (calls : List SidecarCall) :
    ∃ last, Traced sidecar (sidecar.history calls) last := by
  induction calls generalizing sidecar with
  | nil => exact ⟨sidecar, .nil⟩
  | cons call rest ih =>
    obtain ⟨last, later⟩ := ih (sidecar.perform call).1
    exact ⟨last, (perform_traced sidecar call).trans later⟩

end Calls

section Law

variable {trace front back : List SidecarEvent} {sidecar last : RuntimeSidecar} {event : SidecarEvent}
variable {exitCode : ExitCode} {before state : LifecycleState} {found : Option ExitCode} {healthy : Bool}

/-- The state that a status query leaves, where it is answered. -/
def observed : SidecarEvent → Option LifecycleState
  | .polled _ _ _ state | .settled _ _ state => some state
  | _ => none

/-- What is promised of a shutdown and of an exit. -/
structure StopsForGood (trace : List SidecarEvent) : Prop where
  stopped : ∀ event state, [.accepted, .exited (some 0), event].Sublist trace → observed event = some state →
    state = .stopped
  unready : ∀ event state, [.concluded, event].Sublist trace → observed event = some state → state ≠ .ready
  failed : ∀ front exitCode back, trace = front ++ .exited exitCode :: back →
    .began ∉ front ∨ exitCode ≠ some 0 →
    ∀ first firstHealthy firstBefore firstState found healthy before state,
      [.polled first firstHealthy firstBefore firstState, .polled found healthy before state].Sublist back →
        state = .failed exitCode

/-- No poll is answered in a state where it would forget how the child came to exit. -/
structure Remembered (trace : List SidecarEvent) : Prop where
  settled : ∀ found healthy before state,
    [.accepted, .exited (some 0), .polled found healthy before state].Sublist trace →
      before ≠ .stopped ∧ before ≠ .ready
  running : ∀ healthy before state, [.concluded, .polled none healthy before state].Sublist trace → healthy = false
  early : ∀ front back, trace = front ++ .exited (some 0) :: back → .began ∉ front →
    ∀ first firstHealthy firstBefore firstState found healthy before state,
      [.polled first firstHealthy firstBefore firstState, .polled found healthy before state].Sublist back →
        before ≠ .stopping

theorem sublist_split {events : List SidecarEvent} : (event :: events).Sublist trace ↔
    ∃ front back, trace = front ++ event :: back ∧ events.Sublist back := by
  rw [List.cons_sublist_iff]
  constructor
  · rintro ⟨start, rest, rfl, member, inside⟩
    obtain ⟨front, between, rfl⟩ := List.append_of_mem member
    refine ⟨front, between ++ rest, ?_, inside.trans (List.sublist_append_right _ _)⟩
    rw [List.append_assoc, List.cons_append]
  · rintro ⟨front, back, rfl, inside⟩
    refine ⟨front ++ [event], back, ?_, List.mem_append_right _ List.mem_cons_self, inside⟩
    rw [List.append_assoc, List.singleton_append]

theorem onChildExit_stopped : (SidecarLifecycle.onChildExit ⟨before⟩ exitCode).state = .stopped ↔
    before = .stopping ∧ exitCode = some 0 := by
  rw [SidecarLifecycle.onChildExit]
  split
  · rename_i clean
    exact iff_of_true rfl clean
  · rename_i other
    exact iff_of_false LifecycleState.noConfusion other

theorem onChildExit_failed (other : ¬(before = .stopping ∧ exitCode = some 0)) :
    (SidecarLifecycle.onChildExit ⟨before⟩ exitCode).state = .failed exitCode := by
  rw [SidecarLifecycle.onChildExit, if_neg other]

theorem onChildExit_unready : (SidecarLifecycle.onChildExit ⟨before⟩ exitCode).state ≠ .ready := by
  rw [SidecarLifecycle.onChildExit]
  split
  · exact LifecycleState.noConfusion
  · exact LifecycleState.noConfusion

/-- A child that exited stays so. -/
theorem exited_kept (fits : sidecar.Fits event) (exited : sidecar.child = some exitCode) :
    (sidecar.after event).child = some exitCode := by
  cases event with
  | exited code =>
    have running : sidecar.child = none := fits
    rw [running] at exited
    cases exited
  | began => exact exited
  | accepted => exact exited
  | concluded => exact exited
  | polled found healthy before state => exact exited
  | settled code before state => exact exited

/-- From an exit on, every poll finds it. -/
theorem Traced.polls (traced : Traced sidecar trace last) (exited : sidecar.child = some exitCode)
    (member : .polled found healthy before state ∈ trace) :
    found = some exitCode ∧ state = (SidecarLifecycle.onChildExit ⟨before⟩ exitCode).state := by
  have kept := (traced.keeps exited fun _ _ _ fits held => exited_kept fits held).2
  obtain ⟨middle, held, seen, -, left⟩ := kept _ member
  rw [held] at seen
  subst seen
  exact ⟨rfl, left⟩

/-- While the child runs, a shutdown that was accepted leaves it stopping, or ready again. -/
def Stopping (sidecar : RuntimeSidecar) : Prop :=
  sidecar.child = none → sidecar.state = .stopping ∨ sidecar.state = .ready

theorem stopping_kept (fits : sidecar.Fits event) (stopping : Stopping sidecar) : Stopping (sidecar.after event) := by
  intro running
  cases event with
  | exited code => cases running
  | began => exact .inl rfl
  | accepted => exact stopping running
  | concluded => exact stopping running
  | polled found healthy before state =>
    obtain ⟨seen, same, left⟩ := fits
    have unseen : found = none := seen.trans running
    subst unseen
    cases healthy with
    | true => exact .inr left
    | false =>
      have held : state = sidecar.state := left.trans same
      subst held
      exact stopping running
  | settled code before state =>
    obtain ⟨ended, -⟩ := fits
    have running : sidecar.child = none := running
    rw [ended] at running
    cases running

/-- After the exit that an accepted shutdown asked for. -/
def Ending (sidecar : RuntimeSidecar) : Prop :=
  sidecar.child = some (some 0) ∧ (sidecar.state = .stopping ∨ sidecar.state = .ready ∨ sidecar.state = .stopped)

/-- What a status query observes then, unless it finds the state stopped or ready. -/
theorem ending_observed (ending : Ending sidecar) (fits : sidecar.Fits event)
    (remembered : ∀ found healthy before state, event = .polled found healthy before state →
      before ≠ .stopped ∧ before ≠ .ready) (seen : observed event = some state) : state = .stopped := by
  obtain ⟨ended, stage⟩ := ending
  cases event with
  | polled found healthy before left =>
    obtain ⟨seeing, same, leaves⟩ := fits
    obtain rfl := Option.some.inj seen
    rw [ended] at seeing
    subst seeing same
    obtain ⟨unstopped, unready⟩ := remembered _ _ _ _ rfl
    have stopping : sidecar.state = .stopping := (stage.resolve_right fun later => later.elim unready unstopped)
    exact leaves.trans (onChildExit_stopped.mpr ⟨stopping, rfl⟩)
  | settled code before left =>
    obtain ⟨found, -, stopping, leaves⟩ := fits
    obtain rfl := Option.some.inj seen
    have zero : code = some 0 := Option.some.inj (found.symm.trans ended)
    exact leaves.trans (onChildExit_stopped.mpr ⟨stopping, zero⟩)
  | exited code => cases seen
  | began => cases seen
  | accepted => cases seen
  | concluded => cases seen

theorem ending_kept (ending : Ending sidecar) (fits : sidecar.Fits event)
    (remembered : ∀ found healthy before state, event = .polled found healthy before state →
      before ≠ .stopped ∧ before ≠ .ready) : Ending (sidecar.after event) := by
  have exited := exited_kept fits ending.1
  cases event with
  | polled found healthy before state =>
    exact ⟨exited, .inr (.inr (ending_observed ending fits remembered rfl))⟩
  | settled code before state => exact ⟨exited, .inr (.inr (ending_observed ending fits remembered rfl))⟩
  | exited code =>
    have running : sidecar.child = none := fits
    rw [ending.1] at running
    cases running
  | began => exact ⟨exited, .inl rfl⟩
  | accepted => exact ending
  | concluded => exact ending

theorem unready_observed (unready : sidecar.state ≠ .ready) (fits : sidecar.Fits event)
    (unhealthy : ∀ healthy before state, event = .polled none healthy before state → healthy = false)
    (seen : observed event = some state) : state ≠ .ready := by
  cases event with
  | polled found healthy before left =>
    obtain ⟨seeing, same, leaves⟩ := fits
    obtain rfl := Option.some.inj seen
    cases found with
    | some code =>
      rw [leaves]
      exact onChildExit_unready
    | none =>
      obtain rfl := unhealthy _ _ _ rfl
      have held : left = sidecar.state := leaves.trans same
      rw [held]
      exact unready
  | settled code before left =>
    obtain ⟨-, -, -, leaves⟩ := fits
    obtain rfl := Option.some.inj seen
    rw [leaves]
    exact onChildExit_unready
  | exited code => cases seen
  | began => cases seen
  | accepted => cases seen
  | concluded => cases seen

private theorem unready_kept (unready : sidecar.state ≠ .ready) (fits : sidecar.Fits event)
    (unhealthy : ∀ healthy before state, event = .polled none healthy before state → healthy = false) :
    (sidecar.after event).state ≠ .ready := by
  cases event with
  | polled found healthy before state => exact unready_observed unready fits unhealthy rfl
  | settled code before state => exact unready_observed unready fits unhealthy rfl
  | exited code => exact unready
  | began => exact LifecycleState.noConfusion
  | accepted => exact unready
  | concluded => exact unready

/-- What comes after an accepted shutdown and a clean exit, in a trace. -/
theorem Traced.ended (traced : Traced sidecar trace last) {events : List SidecarEvent}
    (ordered : (.accepted :: .exited (some 0) :: events).Sublist trace) :
    ∃ middle back, Ending middle ∧ Traced middle back last ∧ events.Sublist back ∧
      ∀ event ∈ back, [.accepted, .exited (some 0), event].Sublist trace := by
  obtain ⟨front, rest, rfl, more⟩ := sublist_split.mp ordered
  obtain ⟨between, back, rfl, inside⟩ := sublist_split.mp more
  obtain ⟨asked, -, accepted, running⟩ := traced.split
  obtain ⟨ending, until_exit, exited, after_exit⟩ := running.split
  have stopping : Stopping asked := fun _ => .inl accepted
  have stage := (until_exit.keeps stopping fun _ _ _ fits held => stopping_kept fits held).1 exited
  refine ⟨_, back, ⟨rfl, ?_⟩, after_exit, inside, ?_⟩
  · exact stage.imp_right .inl
  · intro event member
    have last : [event].Sublist back := List.singleton_sublist.mpr member
    exact sublist_split.mpr ⟨front, _, rfl, sublist_split.mpr ⟨between, back, rfl, last⟩⟩

theorem Traced.stopsForGood (traced : Traced sidecar trace last) (remembered : Remembered trace) :
    StopsForGood trace := by
  constructor
  · intro event state ordered seen
    obtain ⟨middle, back, ending, later, inside, after⟩ := traced.ended ordered
    have kept := later.keeps ending fun held other member fits stage => ending_kept stage fits (by
      rintro found healthy before state rfl
      exact remembered.settled _ _ _ _ (after _ member))
    obtain ⟨held, stage, fits⟩ := kept.2 event (List.singleton_sublist.mp inside)
    refine ending_observed stage fits ?_ seen
    rintro found healthy before state rfl
    exact remembered.settled _ _ _ _ (after _ (List.singleton_sublist.mp inside))
  · intro event state ordered seen
    obtain ⟨front, back, rfl, inside⟩ := sublist_split.mp ordered
    obtain ⟨middle, -, unready, later⟩ := traced.split
    have unhealthy : ∀ other ∈ back, ∀ healthy before state, other = .polled none healthy before state →
        healthy = false := by
      rintro other member healthy before state rfl
      exact remembered.running _ _ _ (sublist_split.mpr ⟨front, back, rfl, List.singleton_sublist.mpr member⟩)
    have step : ∀ (held : RuntimeSidecar) other, other ∈ back → held.Fits other → held.state ≠ .ready →
        (held.after other).state ≠ .ready := by
      intro held other member fits stage
      exact unready_kept stage fits (unhealthy other member)
    have kept := later.keeps unready step
    obtain ⟨held, stage, fits⟩ := kept.2 event (List.singleton_sublist.mp inside)
    exact unready_observed stage fits (unhealthy event (List.singleton_sublist.mp inside)) seen
  · rintro front exitCode back rfl early first firstHealthy firstBefore firstState found healthy before state ordered
    obtain ⟨middle, -, -, later⟩ := traced.split
    have member := ordered.subset (List.mem_cons_of_mem _ List.mem_cons_self)
    obtain ⟨-, left⟩ := later.polls rfl member
    rw [left]
    refine onChildExit_failed ?_
    rintro ⟨stopping, clean⟩
    subst clean
    obtain unbegun | failing := early
    · exact remembered.early front back rfl unbegun _ _ _ _ _ _ _ _ ordered stopping
    · exact failing rfl

theorem Traced.remembered (traced : Traced sidecar trace last) (stops : StopsForGood trace) : Remembered trace := by
  constructor
  · intro found healthy before state ordered
    obtain ⟨middle, back, ending, later, inside, -⟩ := traced.ended ordered
    obtain ⟨-, left⟩ := later.polls ending.1 (List.singleton_sublist.mp inside)
    have stopped := stops.stopped _ state ordered rfl
    have stopping := (onChildExit_stopped.mp (left.symm.trans stopped)).1
    subst stopping
    exact ⟨LifecycleState.noConfusion, LifecycleState.noConfusion⟩
  · intro healthy before state ordered
    have unready := stops.unready _ state ordered rfl
    obtain ⟨front, back, rfl, inside⟩ := sublist_split.mp ordered
    obtain ⟨start, rest, split⟩ := List.append_of_mem (List.singleton_sublist.mp inside)
    subst split
    obtain ⟨middle, -, -, later⟩ := traced.split
    obtain ⟨held, -, ⟨-, -, left⟩, -⟩ := later.split
    cases healthy with
    | false => rfl
    | true => exact absurd left unready
  · rintro front back rfl unbegun first firstHealthy firstBefore firstState found healthy before state ordered stopping
    obtain ⟨middle, -, -, later⟩ := traced.split
    have member := ordered.subset (List.mem_cons_of_mem _ List.mem_cons_self)
    obtain ⟨-, left⟩ := later.polls rfl member
    have failed := stops.failed front _ back rfl (.inl unbegun) _ _ _ _ _ _ _ _ ordered
    rw [onChildExit_stopped.mpr ⟨stopping, rfl⟩] at left
    rw [left] at failed
    cases failed

/-- A clean shutdown is reported as stopped for good exactly where no poll is answered in a state that has lost it:
stopped already or ready once the child has exited on request, ready again where it was not ended, and stopping after
an exit that nobody asked for. -/
theorem clean_shutdown (calls : List SidecarCall) :
    StopsForGood (spawned.history calls) ↔ Remembered (spawned.history calls) := by
  obtain ⟨last, traced⟩ := history_traced spawned calls
  exact ⟨traced.remembered, traced.stopsForGood⟩

/-- A shutdown that is accepted, after which the child exits with code zero, and one more poll. -/
def polledAgain : List SidecarCall :=
  [.shutdown "5s" ⟨none, .ok 202⟩ [⟨some (some 0), none, false⟩] ⟨none, none, none, none⟩,
    .pollStatus ⟨none, none, false⟩]

/-- The poll finds a state that is stopped, and makes it failed. -/
theorem stopped_forgotten : ¬∀ calls, StopsForGood (spawned.history calls) := by
  intro claimed
  have evaluated : spawned.history polledAgain = [.began, .accepted, .exited (some 0),
      .settled (some 0) .stopping .stopped, .concluded,
      .polled (some (some 0)) false .stopped (.failed (some 0))] := by decide +kernel
  have stops := claimed polledAgain
  rw [evaluated] at stops
  have stopped := stops.stopped (.polled (some (some 0)) false .stopped (.failed (some 0))) (.failed (some 0))
    (by decide) rfl
  cases stopped

end Law

end RuntimeSidecar

end CanX.Desktop
