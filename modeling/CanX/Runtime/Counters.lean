import CanX.Runtime.Frame

/-! The frame counters over consecutive captures. -/

namespace CanX.Runtime

open Domain Data Recorder Transition RuntimeService

/-- A stop has folded the counts of its capture into the totals, and still holds it. -/
def Lifecycle.folded : Lifecycle → Bool
  | draining | stopCleanup => true
  | _ => false

/-- The capture is held, and has not begun or never will. -/
def Lifecycle.opens : Lifecycle → Bool
  | starting | opening | aborting | abortCleanup => true
  | _ => false

def Lifecycle.stops : Lifecycle → Bool
  | stopping | draining | stopCleanup => true
  | _ => false

theorem Lifecycle.folded_stops {place : Lifecycle} (folded : place.folded = true) :
    place.stops = true := by
  cases place with
  | draining | stopCleanup => rfl
  | _ => cases folded

/-- What a step adds to the counts of its capture. -/
def capturedBy : ServiceEvent → FrameCounts
  | .captured more => more
  | _ => .zero

/-- The counts of all captures of a run. -/
def countedFrames (trace : List (ServiceEvent × Answer)) : FrameCounts :=
  trace.foldl (fun sum taken => sum.add (capturedBy taken.1)) .zero

theorem countedFrames_snoc (trace : List (ServiceEvent × Answer)) (taken : ServiceEvent × Answer) :
    countedFrames (trace ++ [taken]) = (countedFrames trace).add (capturedBy taken.1) := by
  simp [countedFrames]

theorem syncSubscriberDrops_self (counts : FrameCounts) :
    syncSubscriberDrops counts counts = (counts, .ok ()) := by
  simp [syncSubscriberDrops, setCounter_ok (Nat.le_refl counts.dropped)]

/-- No poll between the folded counts and the end of the stop, unless there is nothing to
count twice. -/
def DrainUnpolled (service : RuntimeService) (event : ServiceEvent) : Prop :=
  event = .metricsSnapshot → service.lifecycle.folded = true → service.counts = .zero

/-- The counters, the totals and the counts of the capture in progress, against the frames
counted so far. -/
structure Counted (sum : FrameCounts) (service : RuntimeService) : Prop where
  held : service.pipeline.isSome = service.streamSubscriber.isSome
  task : ∀ pipeline, service.pipeline = some pipeline → pipeline.task ≠ .absent →
    service.lifecycle = .idle ∨ service.lifecycle = .stopping
  opens : service.lifecycle.opens = true → service.counts = .zero ∧ service.metrics = service.totals
  without : service.pipeline = none → service.metrics = service.totals
  folded : service.lifecycle.folded = true → service.totals = sum ∧ service.metrics = sum
  unfolded : service.lifecycle.folded = false →
    service.totals.add service.counts = sum ∧ service.metrics.Within sum

/-- A step that touches neither the counts nor the counters. -/
structure CountsKept (service next : RuntimeService) : Prop where
  pipeline : next.pipeline = service.pipeline
  streamSubscriber : next.streamSubscriber = service.streamSubscriber
  totals : next.totals = service.totals
  metrics : next.metrics = service.metrics

theorem CountsKept.counts {service next : RuntimeService} (kept : CountsKept service next) :
    next.counts = service.counts := by
  rw [RuntimeService.counts, RuntimeService.counts, kept.pipeline, kept.streamSubscriber]

theorem CountsKept.noted {service next : RuntimeService} (noted : RuntimeService.Noted service next) :
    CountsKept service next := by
  rw [noted.same]
  exact ⟨rfl, rfl, rfl, rfl⟩

namespace Counted

variable {sum : FrameCounts} {service next : RuntimeService}

theorem counts_zero (counted : Counted sum service) (none : service.pipeline = none) :
    service.counts = .zero := by
  have unsubscribed : service.streamSubscriber = Option.none := by
    have held := counted.held
    rw [none] at held
    exact Option.isNone_iff_eq_none.mp (by simpa using held.symm)
  simp [RuntimeService.counts, none, unsubscribed, FrameCounts.zero]

/-- The counts are all in the totals, and the counters with them. -/
theorem without_eq (counted : Counted sum service) (none : service.pipeline = none) :
    service.totals = sum ∧ service.metrics = sum := by
  have metrics := counted.without none
  cases folded : service.lifecycle.folded with
  | true => exact counted.folded folded
  | false =>
    have total := (counted.unfolded folded).1
    rw [counted.counts_zero none, FrameCounts.add_zero] at total
    exact ⟨total, metrics.trans total⟩

theorem opens_eq (counted : Counted sum service) (opens : service.lifecycle.opens = true) :
    service.totals = sum ∧ service.metrics = sum := by
  obtain ⟨zero, metrics⟩ := counted.opens opens
  have unfolded : service.lifecycle.folded = false := by
    cases place : service.lifecycle <;> rw [place] at opens <;> first | rfl | cases opens
  have total := (counted.unfolded unfolded).1
  rw [zero, FrameCounts.add_zero] at total
  exact ⟨total, metrics.trans total⟩

theorem noted (counted : Counted sum service) (noted : RuntimeService.Noted service next) :
    Counted sum next := by
  rw [noted.same]
  exact ⟨counted.held, counted.task, counted.opens, counted.without, counted.folded,
    counted.unfolded⟩

/-- A service whose capture has not begun, or is dropped. -/
theorem settled (totals : service.totals = sum) (metrics : service.metrics = sum)
    (zero : service.counts = .zero) (held : service.pipeline.isSome = service.streamSubscriber.isSome)
    (task : ∀ pipeline, service.pipeline = some pipeline → pipeline.task ≠ .absent →
      service.lifecycle = .idle ∨ service.lifecycle = .stopping) : Counted sum service where
  held := held
  task := task
  opens _ := ⟨zero, metrics.trans totals.symm⟩
  without _ := metrics.trans totals.symm
  folded _ := ⟨totals, metrics⟩
  unfolded _ := by
    rw [zero, FrameCounts.add_zero, totals, metrics]
    exact ⟨rfl, .refl _⟩

theorem start (cleanupTimeout : Seconds) (timed : 0 < cleanupTimeout) :
    Counted .zero (.start cleanupTimeout timed) := by
  refine settled rfl rfl rfl rfl ?_
  intro pipeline held
  cases held

/-- Stopping a capture that has counted within its counters leaves no fault. -/
theorem pipelineStopped {closeRaised : Bool} {answer : Answer} (counted : Counted sum service)
    (moved : service.pipelineStopped closeRaised = some (next, answer)) :
    Counted sum next ∧ ∀ fault, answer ≠ .fault fault := by
  unfold RuntimeService.pipelineStopped at moved
  split at moved
  · rename_i pipeline stopping held
    have unfolded : service.lifecycle.folded = false := by rw [stopping]; rfl
    obtain ⟨total, within⟩ := counted.unfolded unfolded
    have subscribed := counted.held
    have counts : (RuntimeService.counts { service with
        pipeline := some { pipeline with task := .absent } }) = service.counts := by
      simp [RuntimeService.counts, held]
    dsimp only at moved
    split at moved
    · cases moved
      refine ⟨⟨?_, ?_, ?_, ?_, ?_, ?_⟩, by simp⟩
      · simpa [held] using subscribed
      · intro stopped same running
        cases same
        exact absurd rfl running
      · exact fun opens => by cases opens
      · exact fun none => by cases none
      · exact fun folded => by cases folded
      · exact fun _ => ⟨counts ▸ total, within⟩
    · rw [total, syncCounters_within within] at moved
      cases moved
      refine ⟨⟨?_, ?_, ?_, ?_, ?_, ?_⟩, by simp⟩
      · simpa [held] using subscribed
      · intro stopped same running
        cases same
        exact absurd rfl running
      · exact fun opens => by cases opens
      · exact fun none => by cases none
      · exact fun _ => ⟨rfl, rfl⟩
      · exact fun unfolded => by cases unfolded
  · cases moved

/-- A poll reports the frames counted so far. -/
theorem snapshot (counted : Counted sum service)
    (unpolled : service.lifecycle.folded = true → service.counts = .zero) :
    service.metricsSnapshot = ({ service with metrics := sum }, .snapshot sum) := by
  unfold RuntimeService.metricsSnapshot
  have total : service.totals.add service.counts = sum ∧ service.metrics.Within sum := by
    cases folded : service.lifecycle.folded with
    | true =>
      obtain ⟨totals, metrics⟩ := counted.folded folded
      rw [unpolled folded, FrameCounts.add_zero, totals, metrics]
      exact ⟨rfl, .refl _⟩
    | false => exact counted.unfolded folded
  cases session : service.hasSession with
  | true => simp [total.1, syncCounters_within total.2]
  | false =>
    have none : service.pipeline = none := by
      simpa [RuntimeService.hasSession] using session
    simp [total.1, (counted.without_eq none).2, syncSubscriberDrops_self]

theorem captured {more : FrameCounts} (counted : Counted sum service)
    (moved : service.captured more = some next) : Counted (sum.add more) next := by
  unfold RuntimeService.captured at moved
  split at moved
  · rename_i generated captured held
    cases moved
    have place := counted.task _ held (fun absent => by cases absent)
    have unopened : service.lifecycle.opens = false := by
      rcases place with idle | stopping
      · rw [idle]
        rfl
      · rw [stopping]
        rfl
    have unfolded : service.lifecycle.folded = false := by
      rcases place with idle | stopping
      · rw [idle]
        rfl
      · rw [stopping]
        rfl
    obtain ⟨total, within⟩ := counted.unfolded unfolded
    obtain ⟨drops, subscribed⟩ : ∃ drops, service.streamSubscriber = some drops := by
      have both := counted.held
      rw [held] at both
      exact Option.isSome_iff_exists.mp both.symm
    have counts : (RuntimeService.counts { service with
        pipeline := some ⟨.running, generated + more.generated, captured + more.captured⟩
        streamSubscriber := service.streamSubscriber.map (· + more.dropped) }) =
          service.counts.add more := by
      simp [RuntimeService.counts, held, subscribed, FrameCounts.add]
    refine ⟨?_, ?_, ?_, ?_, ?_, ?_⟩
    · simp [subscribed]
    · exact fun _ _ _ => place
    · exact fun opens => absurd (unopened.symm.trans opens) Bool.false_ne_true
    · exact fun none => by cases none
    · exact fun folded => absurd (unfolded.symm.trans folded) Bool.false_ne_true
    · intro _
      rw [counts, ← FrameCounts.add_assoc, total]
      exact ⟨rfl, within.trans (FrameCounts.within_add sum more)⟩
  · cases moved

theorem captureFailed (counted : Counted sum service) (moved : service.captureFailed = some next) :
    Counted sum next := by
  unfold RuntimeService.captureFailed at moved
  split at moved
  · rename_i pipeline held
    split at moved
    · rename_i running
      cases moved
      have place := counted.task _ held (fun absent => by rw [running] at absent; cases absent)
      have counts : (RuntimeService.counts { service with
          pipeline := some { pipeline with task := .failed } }) = service.counts := by
        simp [RuntimeService.counts, held]
      refine ⟨?_, fun _ _ _ => place, ?_, ?_, counted.folded, ?_⟩
      · simpa [held] using counted.held
      · exact fun opens => ⟨counts.trans (counted.opens opens).1, (counted.opens opens).2⟩
      · exact fun none => by cases none
      · exact fun unfolded => ⟨counts.symm ▸ (counted.unfolded unfolded).1, (counted.unfolded unfolded).2⟩
    · cases moved
  · cases moved

/-- A new capture has counted nothing yet. -/
theorem startCapture {request : CaptureRequest} (counted : Counted sum service)
    (accepted : service.refusal request = none) : Counted sum (service.startCapture request) := by
  have none : service.pipeline = none := by
    unfold RuntimeService.refusal at accepted
    split at accepted
    · cases accepted
    · rename_i free
      simpa [RuntimeService.hasSession] using free
  obtain ⟨totals, metrics⟩ := counted.without_eq none
  refine settled totals metrics rfl rfl ?_
  intro pipeline held running
  cases held
  exact absurd rfl running

/-- The place in a startup moves on. -/
theorem opened (counted : Counted sum service) (opens : service.lifecycle.opens = true)
    (kept : CountsKept service next) : Counted sum next := by
  obtain ⟨totals, metrics⟩ := counted.opens_eq opens
  refine settled (kept.totals.trans totals) (kept.metrics.trans metrics) ?_ ?_ ?_
  · rw [kept.counts]
    exact (counted.opens opens).1
  · rw [kept.pipeline, kept.streamSubscriber]
    exact counted.held
  · intro pipeline held running
    rw [kept.pipeline] at held
    rcases counted.task pipeline held running with idle | stopping
    · rw [idle] at opens
      cases opens
    · rw [stopping] at opens
      cases opens

theorem startRaised_kept (service : RuntimeService) (message : String) :
    CountsKept service (service.startRaised message) := by
  have handled := CountsKept.noted (handleRecorderFailure_noted service (openFailed message))
  exact ⟨handled.pipeline, handled.streamSubscriber, handled.totals, handled.metrics⟩

theorem pipelineStarted (counted : Counted sum service) (moved : service.pipelineStarted = some next) :
    Counted sum next := by
  unfold RuntimeService.pipelineStarted at moved
  split at moved <;> cases moved
  rename_i pipeline opening held
  have opens : service.lifecycle.opens = true := by rw [opening]; rfl
  obtain ⟨totals, metrics⟩ := counted.opens_eq opens
  refine settled totals metrics ?_ ?_ (fun _ _ _ => .inl rfl)
  · have zero := (counted.opens opens).1
    simp only [RuntimeService.counts, held] at zero
    exact zero
  · simpa [held] using counted.held

theorem stopCapture (counted : Counted sum service) (idle : service.lifecycle = .idle) :
    Counted sum service.stopCapture := by
  have unfolded : service.lifecycle.folded = false := by rw [idle]; rfl
  unfold RuntimeService.stopCapture
  split
  · exact ⟨counted.held, fun _ _ _ => .inr rfl, fun opens => (by cases opens), counted.without,
      fun folded => (by cases folded), fun _ => counted.unfolded unfolded⟩
  · exact counted

theorem drained {timedOut : Bool} (counted : Counted sum service)
    (moved : service.drained timedOut = some next) : Counted sum next := by
  unfold RuntimeService.drained at moved
  split at moved
  · rename_i drained
    cases moved
    have folded : service.lifecycle.folded = true := by rw [drained.1]; rfl
    have ended : Counted sum { service with
        archiveTask := ConsumerTask.cancelled service.archiveTask
        streamTask := ConsumerTask.cancelled service.streamTask
        lifecycle := .stopCleanup } := by
      refine ⟨counted.held, ?_, fun opens => (by cases opens), counted.without,
        fun _ => counted.folded folded, fun unfolded => (by cases unfolded)⟩
      intro pipeline held running
      rcases counted.task pipeline held running with idle | stopping
      · cases drained.1.symm.trans idle
      · cases drained.1.symm.trans stopping
    refine Counted.noted ?_ (ensureRecorderCleanup_noted _)
    split
    · exact ended.noted (handleRecorderFailure_noted _ _)
    · exact ended
  · cases moved

/-- A poll brings the counters up to the frames counted so far. -/
theorem polled (counted : Counted sum service) :
    Counted sum { service with metrics := sum } where
  held := counted.held
  task := counted.task
  opens opens := ⟨(counted.opens opens).1, (counted.opens_eq opens).1.symm⟩
  without none := (counted.without_eq none).1.symm
  folded folded := ⟨(counted.folded folded).1, rfl⟩
  unfolded unfolded := ⟨(counted.unfolded unfolded).1, .refl _⟩

theorem step {event : ServiceEvent} {answer : Answer} (counted : Counted sum service)
    (unpolled : DrainUnpolled service event) (moved : service.step event = some (next, answer)) :
    Counted (sum.add (capturedBy event)) next ∧ ∀ fault, answer ≠ .fault fault := by
  have responded := step_eq moved
  cases event with
  | startCapture request =>
    simp only [respond] at responded
    split at responded
    · obtain ⟨_, given, same⟩ := Option.map_eq_some_iff.mp responded
      obtain ⟨rfl, rfl⟩ := Prod.mk.inj same
      obtain ⟨_, rfl⟩ := within_eq given
      exact ⟨counted, by simp⟩
    · rename_i accepted
      obtain ⟨given, rfl⟩ := silent_eq responded
      obtain ⟨_, rfl⟩ := within_eq given
      exact ⟨counted.startCapture accepted, by simp⟩
  | recorderStarted =>
    obtain ⟨given, rfl⟩ := silent_eq responded
    unfold RuntimeService.recorderStarted at given
    split at given <;> cases given
    rename_i starting _
    exact ⟨counted.opened (by rw [starting]; rfl) ⟨rfl, rfl, rfl, rfl⟩, by simp⟩
  | projectRecorderStarted sessionId world registered =>
    obtain ⟨given, rfl⟩ := silent_eq responded
    unfold RuntimeService.projectRecorderStarted at given
    split at given <;> cases given
    rename_i starting _
    exact ⟨counted.opened (by rw [starting]; rfl) ⟨rfl, rfl, rfl, rfl⟩, by simp⟩
  | recorderStartRaised message =>
    obtain ⟨given, rfl⟩ := silent_eq responded
    obtain ⟨starting, rfl⟩ := within_eq given
    exact ⟨counted.opened (by rw [starting]; rfl) (startRaised_kept service message), by simp⟩
  | pipelineStartRaised message =>
    obtain ⟨given, rfl⟩ := silent_eq responded
    obtain ⟨opening, rfl⟩ := within_eq given
    exact ⟨counted.opened (by rw [opening]; rfl) (startRaised_kept service message), by simp⟩
  | pipelineStarted =>
    obtain ⟨given, rfl⟩ := silent_eq responded
    exact ⟨counted.pipelineStarted given, by simp⟩
  | consumersCancelled =>
    obtain ⟨given, rfl⟩ := silent_eq responded
    obtain ⟨aborting, rfl⟩ := within_eq given
    obtain ⟨totals, metrics⟩ := counted.opens_eq (by rw [aborting]; rfl)
    exact ⟨settled totals metrics rfl rfl (fun _ held => by cases held), by simp⟩
  | abortFinished =>
    simp only [respond] at responded
    split at responded
    · obtain ⟨_, given, same⟩ := Option.map_eq_some_iff.mp responded
      obtain ⟨rfl, rfl⟩ := Prod.mk.inj same
      obtain ⟨aborted, rfl⟩ := within_eq given
      exact ⟨counted.opened (by rw [aborted]; rfl) ⟨rfl, rfl, rfl, rfl⟩, by simp⟩
    · cases responded
  | stopCapture =>
    obtain ⟨given, rfl⟩ := silent_eq responded
    obtain ⟨idle, rfl⟩ := within_eq given
    exact ⟨counted.stopCapture idle, by simp⟩
  | pipelineStopped closeRaised => exact counted.pipelineStopped responded
  | drained timedOut =>
    obtain ⟨given, rfl⟩ := silent_eq responded
    exact ⟨counted.drained given, by simp⟩
  | stopFinished =>
    simp only [respond] at responded
    split at responded
    · obtain ⟨given, rfl⟩ := silent_eq responded
      obtain ⟨stopping, rfl⟩ := within_eq given
      obtain ⟨totals, metrics⟩ := counted.folded (by rw [stopping]; rfl)
      exact ⟨settled totals metrics rfl rfl (fun _ held => by cases held), by simp⟩
    · cases responded
  | captured more =>
    obtain ⟨given, rfl⟩ := silent_eq responded
    exact ⟨counted.captured given, by simp⟩
  | captureFailed =>
    obtain ⟨given, rfl⟩ := silent_eq responded
    exact ⟨counted.captureFailed given, by simp⟩
  | metricsSnapshot =>
    obtain ⟨rfl, rfl⟩ := Prod.mk.inj ((counted.snapshot (unpolled rfl)).symm.trans (Option.some.inj responded))
    exact ⟨counted.polled, by simp⟩
  | _ =>
    obtain ⟨noted, rfl⟩ := respond_noted rfl responded
    exact ⟨counted.noted noted, by simp⟩

end Counted

/-- A run without a poll inside a stop never moves a counter backwards, and outside a stop its
counters are the frames of all captures so far. -/
theorem counters_exact {cleanupTimeout : Seconds} {timed : 0 < cleanupTimeout}
    {trace : List (ServiceEvent × Answer)} {service : RuntimeService}
    (run : Path RuntimeService.step DrainUnpolled (.start cleanupTimeout timed) trace service) :
    (∀ taken ∈ trace, ∀ fault, taken.2 ≠ .fault fault) ∧
      (service.lifecycle.stops = false →
        (∃ polled, service.metricsSnapshot = (polled, .snapshot (countedFrames trace))) ∧
        (service.hasSession = false → service.metrics = countedFrames trace)) := by
  have inv : Counted (countedFrames trace) service ∧
      ∀ taken ∈ trace, ∀ fault, taken.2 ≠ .fault fault := by
    refine run.preserves_trace (fun trace reached => Counted (countedFrames trace) reached ∧
      ∀ taken ∈ trace, ∀ fault, taken.2 ≠ .fault fault) ?_ ?_
    · exact ⟨.start cleanupTimeout timed, fun taken member => by cases member⟩
    · intro trace before event after answer _ ⟨counted, unfaulted⟩ unpolled moved
      obtain ⟨further, told⟩ := counted.step unpolled moved
      rw [countedFrames_snoc]
      refine ⟨further, ?_⟩
      intro taken member
      rcases List.mem_append.mp member with earlier | last
      · exact unfaulted taken earlier
      · rw [List.mem_singleton.mp last]
        exact told
  obtain ⟨counted, unfaulted⟩ := inv
  refine ⟨unfaulted, fun outside => ⟨?_, ?_⟩⟩
  · have unfolded : service.lifecycle.folded = true → service.counts = .zero := by
      intro folded
      cases (Lifecycle.folded_stops folded).symm.trans outside
    exact ⟨_, counted.snapshot unfolded⟩
  · intro free
    have none : service.pipeline = none := by
      simpa [RuntimeService.hasSession] using free
    exact (counted.without_eq none).2

def someFrames (count : ℕ) : FrameCounts := ⟨count, count, 0⟩

/-- A capture of some frames, and its stop up to the folded counts. -/
def stoppedCapture (count : ℕ) : List ServiceEvent :=
  [.startCapture plainRequest, .recorderStarted, .pipelineStarted, .captured (someFrames count),
    .stopCapture, .pipelineStopped false]

/-- The rest of a stop. -/
def releasedCapture : List ServiceEvent :=
  [.consumerEnded false, .consumerEnded true, .drained false, .cleanupJoined 0, .cleanupReturned,
    .stopFinished]

structure CountersSeen where
  lifecycle : Lifecycle
  metrics : FrameCounts
  counted : FrameCounts
  answer : Option Answer
  deriving DecidableEq

def countersSeen (reached : RuntimeService × List (ServiceEvent × Answer)) : CountersSeen :=
  ⟨reached.1.lifecycle, reached.1.metrics, countedFrames reached.2, reached.2.getLast?.map Prod.snd⟩

def drainUnpolled (service : RuntimeService) : ServiceEvent → Bool
  | .metricsSnapshot => !service.lifecycle.folded
  | _ => true

private theorem drainUnpolled_sound (service : RuntimeService) (event : ServiceEvent)
    (unpolled : drainUnpolled service event = true) : DrainUnpolled service event := by
  rintro rfl folded
  rw [drainUnpolled, folded] at unpolled
  cases unpolled

/-- Two captures, polled before, between and in the second. -/
theorem counters_exact_twice :
    ∃ trace service, Path RuntimeService.step DrainUnpolled sampleService trace service ∧
      (∀ taken ∈ trace, ∀ fault, taken.2 ≠ .fault fault) ∧
      ∃ polled, service.metricsSnapshot = (polled, .snapshot (someFrames 5)) := by
  have evaluated : (followWithin RuntimeService.step drainUnpolled sampleService
      (.metricsSnapshot :: stoppedCapture 3 ++ releasedCapture ++ .metricsSnapshot ::
        (stoppedCapture 2).take 4)).map countersSeen =
        some ⟨.idle, someFrames 3, someFrames 5, some .silent⟩ := by
    decide +kernel
  obtain ⟨trace, service, run, seen⟩ := Path.observedWithin _ _ _ drainUnpolled_sound evaluated
  have exact := counters_exact run
  have outside : service.lifecycle.stops = false := by
    rw [show service.lifecycle = .idle from congrArg CountersSeen.lifecycle seen]
    rfl
  have counted : countedFrames trace = someFrames 5 := congrArg CountersSeen.counted seen
  exact ⟨trace, service, run, exact.1, counted ▸ (exact.2 outside).1⟩

/-- A poll between the folded counts and the end of the stop counts the capture twice, and the
next capture makes a counter decrease. -/
theorem drain_polled_twice :
    ∃ trace service, Path RuntimeService.step anyLabel sampleService trace service ∧
      countersSeen (service, trace) =
        ⟨.idle, someFrames 6, someFrames 5, some (.fault .decreasing)⟩ := by
  have evaluated : (followWithin RuntimeService.step (fun _ _ => true) sampleService
      (stoppedCapture 3 ++ .metricsSnapshot :: releasedCapture ++ (stoppedCapture 2).take 4 ++
        [.metricsSnapshot])).map countersSeen =
        some ⟨.idle, someFrames 6, someFrames 5, some (.fault .decreasing)⟩ := by
    decide +kernel
  exact Path.observedWithin _ _ _ (fun _ _ _ => trivial) evaluated

end CanX.Runtime
