import CanX.Runtime.Service

/-! What the helpers of the service leave alone, and how its recorders move. -/

namespace CanX.Runtime

open Domain Data Recorder Transition

/-- An owner gives up on the terminal lock only while the thread holds it. -/
def Expires (state : Recording) (event : Event) : Prop :=
  event = .gateTimeout → state.worker.holdsTerminal = true

namespace RuntimeService

variable {service next : RuntimeService} {index : ℕ} {event : Event}

/-- The recorders of one service are further on in another. -/
def Evolves (before after : List Recording) : Prop :=
  ∀ (index : ℕ) (state : Recording), before[index]? = some state →
    ∃ trace reached, after[index]? = some reached ∧
      Path Recording.step Expires state trace reached

theorem Evolves.refl (recorders : List Recording) : Evolves recorders recorders :=
  fun _ state held => ⟨[], state, held, .refl⟩

theorem Evolves.trans {first second third : List Recording} (before : Evolves first second)
    (after : Evolves second third) : Evolves first third := by
  intro index state held
  obtain ⟨front, middle, between, begun⟩ := before index state held
  obtain ⟨back, final, reached, ended⟩ := after index middle between
  exact ⟨_, final, reached, begun.trans ended⟩

theorem Evolves.append (recorders : List Recording) (fresh : Recording) :
    Evolves recorders (recorders ++ [fresh]) := by
  intro index state held
  have within : index < recorders.length := (List.getElem?_eq_some_iff.mp held).1
  refine ⟨[], state, ?_, .refl⟩
  rw [List.getElem?_append_left within]
  exact held

/-- A step of one recorder moves that recorder, and nothing else of the service. -/
theorem drive_eq (driven : service.drive index event = some next) :
    ∃ state moved answer, service.recorders[index]? = some state ∧
      state.step event = some (moved, answer) ∧
      next = { service with recorders := service.recorders.set index moved } := by
  unfold drive at driven
  obtain ⟨state, held, rest⟩ := Option.bind_eq_some_iff.mp driven
  obtain ⟨⟨moved, answer⟩, stepped, given⟩ := Option.bind_eq_some_iff.mp rest
  cases given
  exact ⟨state, moved, answer, held, stepped, rfl⟩

theorem set_self {state : Recording} (held : service.recorders[index]? = some state)
    (moved : Recording) : (service.recorders.set index moved)[index]? = some moved := by
  have within : index < service.recorders.length := (List.getElem?_eq_some_iff.mp held).1
  simp [within]

private theorem set_evolves {state moved : Recording} {answer : Option FrameBatch}
    (held : service.recorders[index]? = some state) (expires : Expires state event)
    (stepped : state.step event = some (moved, answer)) :
    Evolves service.recorders (service.recorders.set index moved) := by
  intro position before found
  by_cases same : index = position
  · subst same
    obtain rfl := Option.some.inj (held.symm.trans found)
    exact ⟨_, moved, set_self held moved, .single expires stepped⟩
  · refine ⟨[], before, ?_, .refl⟩
    rw [List.getElem?_set_ne same]
    exact found

private theorem drive_moves
    (expires : ∀ state, service.recorders[index]? = some state → Expires state event)
    (driven : service.drive index event = some next) :
    ∃ recorders, Evolves service.recorders recorders ∧
      recorders.length = service.recorders.length ∧ next = { service with recorders } := by
  obtain ⟨state, moved, answer, held, stepped, same⟩ := drive_eq driven
  exact ⟨_, set_evolves held (expires state held) stepped, List.length_set .., same⟩

theorem failAt_moves (service : RuntimeService) (index : ℕ) (failure : RecorderFailure) :
    ∃ recorders, Evolves service.recorders recorders ∧
      recorders.length = service.recorders.length ∧
      service.failAt index failure = { service with recorders } := by
  unfold failAt
  cases driven : service.drive index (.report failure) with
  | none => exact ⟨service.recorders, .refl _, rfl, rfl⟩
  | some next => exact drive_moves (fun _ _ timeout => by cases timeout) driven

/-- The two refer to the same recorder, opened or not. -/
def Backend.Same (before after : Backend) : Prop :=
  ∀ index, after = .project index ↔ before = .project index

/-- What a failure of the recorder can change. -/
structure Noted (service next : RuntimeService) : Prop where
  evolves : Evolves service.recorders next.recorders
  length : next.recorders.length = service.recorders.length
  backend : Backend.Same service.recorder next.recorder
  same : next = { service with
    recorders := next.recorders, recorder := next.recorder, msgpackFailure := next.msgpackFailure
    cleanup := next.cleanup, settlement := next.settlement, captureState := next.captureState
    failure := next.failure, archiveTask := next.archiveTask, streamTask := next.streamTask }

theorem Noted.trans {middle : RuntimeService} (first : Noted service middle)
    (second : Noted middle next) : Noted service next where
  evolves := first.evolves.trans second.evolves
  length := second.length.trans first.length
  backend index := (second.backend index).trans (first.backend index)
  same := by
    rw [second.same, first.same]

theorem Noted.refl (service : RuntimeService) : Noted service service :=
  ⟨.refl _, rfl, fun _ => Iff.rfl, rfl⟩

theorem Noted.lifecycle (noted : Noted service next) : next.lifecycle = service.lifecycle := by
  rw [noted.same]

theorem Noted.pipeline (noted : Noted service next) : next.pipeline = service.pipeline := by
  rw [noted.same]

theorem Noted.lastProjectRecorder (noted : Noted service next) :
    next.lastProjectRecorder = service.lastProjectRecorder := by
  rw [noted.same]

theorem drive_noted_expires
    (expires : ∀ state, service.recorders[index]? = some state → Expires state event)
    (driven : service.drive index event = some next) : Noted service next := by
  obtain ⟨recorders, evolves, length, rfl⟩ := drive_moves expires driven
  exact ⟨evolves, length, fun _ => Iff.rfl, rfl⟩

theorem drive_noted (driven : service.drive index event = some next) (waits : event ≠ .gateTimeout) :
    Noted service next :=
  drive_noted_expires (fun _ _ timeout => absurd timeout waits) driven

theorem failAt_noted (service : RuntimeService) (index : ℕ) (failure : RecorderFailure) :
    Noted service (service.failAt index failure) := by
  obtain ⟨recorders, evolves, length, same⟩ := failAt_moves service index failure
  rw [same]
  exact ⟨evolves, length, fun _ => Iff.rfl, rfl⟩

theorem failRecorder_noted (service : RuntimeService) (failure : RecorderFailure) :
    Noted service (service.failRecorder failure) := by
  unfold failRecorder
  split
  · exact ⟨.refl _, rfl, fun _ => Iff.rfl, rfl⟩
  · rename_i held unopened
    refine ⟨.refl _, rfl, ?_, rfl⟩
    intro index
    rw [unopened]
    constructor <;> exact fun impossible => by cases impossible
  · exact failAt_noted ..

theorem ensureRecorderCleanup_noted (service : RuntimeService) :
    Noted service service.ensureRecorderCleanup :=
  ⟨.refl _, rfl, fun _ => Iff.rfl, rfl⟩

theorem handleRecorderFailure_noted (service : RuntimeService) (failure : RecorderFailure) :
    Noted service (service.handleRecorderFailure failure) := by
  unfold handleRecorderFailure
  split
  · exact .refl service
  · have failed := failRecorder_noted service failure
    have marked : Noted (service.failRecorder failure) (ensureRecorderCleanup
        { service.failRecorder failure with
          failure := (service.failRecorder failure).recorderFailure, captureState := .degraded }) :=
      ⟨.refl _, rfl, fun _ => Iff.rfl, rfl⟩
    exact failed.trans marked

end RuntimeService

/-- What goes on around a capture, without a step of its lifecycle or its counts. -/
def ServiceEvent.background : ServiceEvent → Bool
  | subscriberFailed _ | consumerFailed _ _ | consumerEnded _ | publishArchive _ | cleanupJoined _
  | cleanupReturned | cleanupRaised _ | cleanupTimedOut | gateStep | gateExpired | gateReturned
  | settlementWoke | recorderThread _ _ => true
  | _ => false

namespace RuntimeService

variable {service next : RuntimeService} {index : ℕ} {event : Event}

theorem silent_eq {reached : Option RuntimeService} {answer : Answer}
    (moved : silent reached = some (next, answer)) : reached = some next ∧ answer = .silent := by
  obtain ⟨_, given, same⟩ := Option.map_eq_some_iff.mp moved
  obtain ⟨rfl, rfl⟩ := Prod.mk.inj same
  exact ⟨given, rfl⟩

theorem within_eq {place : Lifecycle} {target : RuntimeService}
    (moved : service.within place target = some next) : service.lifecycle = place ∧ next = target := by
  unfold within at moved
  split at moved
  · rename_i here
    cases moved
    exact ⟨here, rfl⟩
  · cases moved

theorem consumerFailed_noted {stream : Bool} {message : String}
    (moved : service.consumerFailed stream message = some next) : Noted service next := by
  have handled := handleRecorderFailure_noted service (writeFailed message)
  unfold consumerFailed at moved
  split at moved
  · cases moved
  · split at moved <;> split at moved <;> cases moved
    · exact handled.trans ⟨.refl _, rfl, fun _ => Iff.rfl, rfl⟩
    · exact handled.trans ⟨.refl _, rfl, fun _ => Iff.rfl, rfl⟩

theorem consumerEnded_noted (service : RuntimeService) (stream : Bool) :
    Noted service (service.consumerEnded stream) := by
  unfold consumerEnded
  split
  · exact ⟨.refl _, rfl, fun _ => Iff.rfl, rfl⟩
  · exact ⟨.refl _, rfl, fun _ => Iff.rfl, rfl⟩

theorem cleanupJoined_noted {reading : Seconds} (moved : service.cleanupJoined reading = some next) :
    Noted service next := by
  unfold cleanupJoined at moved
  split at moved
  · split at moved
    · obtain ⟨armed, first, rest⟩ := Option.bind_eq_some_iff.mp moved
      obtain ⟨stopping, second, given⟩ := Option.bind_eq_some_iff.mp rest
      cases given
      exact ((drive_noted first nofun).trans (drive_noted second nofun)).trans ⟨.refl _, rfl, fun _ => Iff.rfl, rfl⟩
    · cases moved
      exact ⟨.refl _, rfl, fun _ => Iff.rfl, rfl⟩
  · cases moved

theorem stopEnded_noted (moved : service.stopEnded = some next) : Noted service next := by
  unfold stopEnded at moved
  split at moved
  · split at moved
    · obtain ⟨returned, first, given⟩ := Option.bind_eq_some_iff.mp moved
      cases given
      exact (drive_noted first nofun).trans ⟨.refl _, rfl, fun _ => Iff.rfl, rfl⟩
    · cases moved
      exact ⟨.refl _, rfl, fun _ => Iff.rfl, rfl⟩
  · cases moved

theorem cleanupRaised_noted {message : String} (moved : service.cleanupRaised message = some next) :
    Noted service next := by
  obtain ⟨ended, first, given⟩ := Option.bind_eq_some_iff.mp moved
  cases given
  exact (stopEnded_noted first).trans (handleRecorderFailure_noted _ _)

theorem cleanupTimedOut_noted (moved : service.cleanupTimedOut = some next) : Noted service next := by
  unfold cleanupTimedOut at moved
  split at moved
  · split at moved
    · obtain ⟨abandoned, first, rest⟩ := Option.bind_eq_some_iff.mp moved
      obtain ⟨closing, second, given⟩ := Option.bind_eq_some_iff.mp rest
      cases given
      exact ((drive_noted first nofun).trans (drive_noted second nofun)).trans ⟨.refl _, rfl, fun _ => Iff.rfl, rfl⟩
    · cases moved
      have ended : Noted service { service with cleanup := some .done } :=
        ⟨.refl _, rfl, fun _ => Iff.rfl, rfl⟩
      exact ended.trans (handleRecorderFailure_noted _ _)
    · cases moved
  · cases moved

theorem gateStep_noted (moved : service.gateStep .own = some next) : Noted service next := by
  unfold gateStep at moved
  split at moved
  · exact drive_noted moved nofun
  · cases moved

theorem gateExpired_noted (moved : service.gateExpired = some next) : Noted service next := by
  unfold gateExpired at moved
  split at moved
  · rename_i index backend
    split at moved
    · rename_i holds
      unfold gateStep at moved
      split at moved
      · rename_i position _ same
        obtain rfl : index = position := Backend.project.inj (backend.symm.trans same)
        refine drive_noted_expires ?_ moved
        intro state held _
        simpa [held] using holds
      · cases moved
    · cases moved
  · cases moved

theorem gateReturned_noted (moved : service.gateReturned = some next) : Noted service next := by
  have ended : Noted service { service with cleanup := some .done } :=
    ⟨.refl _, rfl, fun _ => Iff.rfl, rfl⟩
  unfold gateReturned at moved
  split at moved
  · dsimp only at moved
    split at moved <;> cases moved
    · exact ended
    · exact ended.trans ⟨.refl _, rfl, fun _ => Iff.rfl, rfl⟩
    · exact ended.trans (handleRecorderFailure_noted _ _)
  · cases moved

private theorem failLast_noted (service : RuntimeService) (failure : RecorderFailure) :
    Noted service (service.failLast failure) := by
  unfold failLast
  split
  · exact failAt_noted ..
  · exact failRecorder_noted ..

private theorem publishPendingFinalizationFailure_noted (service : RuntimeService) :
    Noted service service.publishPendingFinalizationFailure := by
  unfold publishPendingFinalizationFailure
  split
  · exact ⟨.refl _, rfl, fun _ => Iff.rfl, rfl⟩
  · exact (failLast_noted service closeTimedOut).trans ⟨.refl _, rfl, fun _ => Iff.rfl, rfl⟩

theorem settlementWoke_noted (moved : service.settlementWoke = some next) : Noted service next := by
  have woken : Noted service { service with settlement := none } :=
    ⟨.refl _, rfl, fun _ => Iff.rfl, rfl⟩
  unfold settlementWoke at moved
  split at moved
  · split at moved
    · dsimp only at moved
      split at moved <;> cases moved
      · split
        · exact ⟨.refl _, rfl, fun _ => Iff.rfl, rfl⟩
        · exact woken
      · exact woken.trans (publishPendingFinalizationFailure_noted _)
    · cases moved
  · cases moved

/-- A background step is noted by what can fail, and leaves the capture alone. -/
theorem respond_noted {event : ServiceEvent} {answer : Answer} (background : event.background = true)
    (moved : service.respond event = some (next, answer)) :
    Noted service next ∧ answer = .silent := by
  cases event with
  | subscriberFailed message =>
    simp only [respond] at moved
    split at moved <;> cases moved
    exact ⟨handleRecorderFailure_noted .., rfl⟩
  | consumerEnded stream =>
    cases moved
    exact ⟨consumerEnded_noted .., rfl⟩
  | publishArchive batch =>
    simp only [respond] at moved
    split at moved
    · split at moved
      · exact ⟨drive_noted (silent_eq moved).1 nofun, (silent_eq moved).2⟩
      · cases moved
    · cases moved
  | recorderThread index event =>
    simp only [respond] at moved
    split at moved
    · rename_i thread
      have waits : event ≠ .gateTimeout := by
        rintro rfl
        cases thread
      exact ⟨drive_noted (silent_eq moved).1 waits, (silent_eq moved).2⟩
    · cases moved
  | consumerFailed stream message => exact (silent_eq moved).imp consumerFailed_noted id
  | cleanupJoined reading => exact (silent_eq moved).imp cleanupJoined_noted id
  | cleanupReturned => exact (silent_eq moved).imp stopEnded_noted id
  | cleanupRaised message => exact (silent_eq moved).imp cleanupRaised_noted id
  | cleanupTimedOut => exact (silent_eq moved).imp cleanupTimedOut_noted id
  | gateStep => exact (silent_eq moved).imp gateStep_noted id
  | gateExpired => exact (silent_eq moved).imp gateExpired_noted id
  | gateReturned => exact (silent_eq moved).imp gateReturned_noted id
  | settlementWoke => exact (silent_eq moved).imp settlementWoke_noted id
  | _ => cases background

theorem step_eq {event : ServiceEvent} {answer : Answer}
    (moved : service.step event = some (next, answer)) : service.respond event = some (next, answer) := by
  unfold step at moved
  split at moved
  · cases moved
  · exact moved

end RuntimeService

end CanX.Runtime
