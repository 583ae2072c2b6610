import CanX.Capture.Publication

/-! A lossless subscriber: what its queue accepts is numbered without a gap, so the batches of
its consumer abut, and a stop that comes after the pipeline has ended leaves nothing behind. -/

namespace CanX.Capture

open Domain Transition

variable {capture next : CaptureRun} {label : CaptureLabel} {event : CaptureEvent} {trace : CaptureTrace}
variable {pipeline after : CapturePipeline} {queued : Option Frame} {first : Nat} {frame : Frame}
variable {taken accepted : List Frame}

section Numbering

theorem contiguous_of_sequences {frames : List Frame} {start : Nat}
    (sequences : frames.map Frame.sequence = List.range' start frames.length) : Contiguous frames := by
  induction frames generalizing start with
  | nil => exact .nil
  | cons frame rest ih =>
    rw [List.map_cons, List.length_cons, List.range'_succ] at sequences
    obtain ⟨head, later⟩ := List.cons.inj sequences
    have remaining := ih later
    cases rest with
    | nil => exact List.isChain_singleton frame
    | cons next rest =>
      rw [List.map_cons, List.length_cons, List.range'_succ] at later
      have follows : Follows frame next := by
        rw [Follows, (List.cons.inj later).1, head]
      exact List.isChain_cons_cons.mpr ⟨follows, remaining⟩

theorem offers_none {P : Frame → Prop} (frame : Frame) (same : (none : Option Frame) = some frame) :
    P frame := by cases same

/-- What ties a lossless subscriber's pipeline to what its queue accepted and gave away. -/
structure Numbered (first : Nat) (accepted taken : List Frame) (pipeline : CapturePipeline) : Prop where
  lossless : pipeline.subscriber.lossy = false
  numbers : accepted.map Frame.sequence = List.range' first accepted.length
  offers : ∀ frame, pipeline.offered = some frame → frame.sequence = first + accepted.length ∧
    pipeline.normalizer.nextSequence = first + accepted.length + 1
  next : pipeline.running = true → pipeline.attached = true → pipeline.offered = none →
    pipeline.normalizer.nextSequence = first + accepted.length
  flow : (taken ++ pipeline.subscriber.queue).IsPrefix accepted
  whole : pipeline.subscriber.shutDown = false → taken ++ pipeline.subscriber.queue = accepted

/-- A lossless queue takes a frame only where there is room. -/
theorem put_lossless {subscriber later : FrameSubscriber} (lossless : subscriber.lossy = false)
    (moved : subscriber.put frame = some later) :
    subscriber.shutDown = false ∧ later = { subscriber with queue := subscriber.queue ++ [frame] } := by
  unfold FrameSubscriber.put at moved
  split at moved
  · cases moved
  · rename_i open_
    split at moved
    · simp [lossless] at moved
    · cases moved
      exact ⟨Bool.eq_false_of_not_eq_true open_, rfl⟩

/-- The delivery of the offered frame. -/
theorem Numbered.deliver (numbered : Numbered first accepted taken pipeline)
    (offered : pipeline.offered = some frame) {subscriber : FrameSubscriber}
    (moved : pipeline.subscriber.put frame = some subscriber) :
    Numbered first (accepted ++ [frame]) taken { pipeline with subscriber, offered := none } := by
  obtain ⟨available, rfl⟩ := put_lossless numbered.lossless moved
  obtain ⟨sequence, later⟩ := numbered.offers frame offered
  have whole := numbered.whole available
  have length : (accepted ++ [frame]).length = accepted.length + 1 := List.length_append
  have added : taken ++ (pipeline.subscriber.queue ++ [frame]) = accepted ++ [frame] := by
    rw [← List.append_assoc, whole]
  refine ⟨numbered.lossless, ?_, offers_none, ?_, ?_, fun _ => added⟩
  · rw [List.map_append, numbered.numbers, length, List.map_singleton, sequence, List.range'_concat,
      Nat.one_mul]
  · intro _ _ _
    rw [length]
    exact later
  · exact added ▸ List.prefix_rfl

/-- The queue was shut down and its frames are gone. -/
theorem Numbered.shut (numbered : Numbered first accepted taken pipeline)
    (shut : after.subscriber = pipeline.subscriber.disable) (normalizer : after.normalizer = pipeline.normalizer)
    (offered : ∀ frame, after.offered = some frame → pipeline.offered = some frame)
    (detached : after.attached = false) : Numbered first accepted taken after := by
  refine ⟨?_, numbered.numbers, ?_, ?_, ?_, ?_⟩
  · rw [shut]
    exact numbered.lossless
  · intro frame same
    rw [normalizer]
    exact numbered.offers frame (offered frame same)
  · intro _ attached
    rw [detached] at attached
    cases attached
  · rw [shut]
    exact (List.prefix_append_right_inj taken |>.mpr List.nil_prefix).trans numbered.flow
  · intro available
    rw [shut] at available
    cases available

theorem Numbered.receive (numbered : Numbered first accepted taken pipeline)
    (moved : pipeline.step (.receive frame) = some (after, queued)) :
    queued = none ∧ Numbered first accepted taken after := by
  simp only [CapturePipeline.step] at moved
  split at moved
  · rename_i idle
    obtain ⟨running, free⟩ := idle
    split at moved
    · cases moved
      exact ⟨rfl, numbered.lossless, numbered.numbers, numbered.offers, (fun halted => by cases halted),
        numbered.flow, numbered.whole⟩
    · rename_i normalized normalizer numberedAs
      obtain ⟨sequence, later⟩ := normalize_numbers numberedAs
      cases moved
      refine ⟨rfl, numbered.lossless, numbered.numbers, ?_, ?_, numbered.flow, numbered.whole⟩
      · intro offered same
        simp only at same
        split at same
        · rename_i attached
          have known := numbered.next running attached free
          cases same
          exact ⟨sequence.trans known, by rw [later, known]⟩
        · cases same
      · intro _ attached free
        have held : pipeline.attached = true := attached
        simp [held] at free
  · cases moved

/-- Every step of the pipeline keeps the numbering. -/
theorem Numbered.step (numbered : Numbered first accepted taken pipeline) {label : PipelineLabel}
    (moved : pipeline.step label = some (after, queued)) :
    Numbered first (accepted ++ queued.toList) taken after := by
  cases label with
  | receive frame =>
    obtain ⟨rfl, kept⟩ := numbered.receive moved
    rw [Option.toList_none, List.append_nil]
    exact kept
  | deliver =>
    simp only [CapturePipeline.step] at moved
    split at moved
    · cases moved
    · rename_i frame offered
      obtain ⟨subscriber, put, same⟩ := Option.map_eq_some_iff.mp moved
      cases same
      exact numbered.deliver offered put
  | refuse =>
    simp only [CapturePipeline.step] at moved
    split at moved
    · rename_i refused
      cases moved
      rw [Option.toList_none, List.append_nil]
      refine ⟨numbered.lossless, numbered.numbers, offers_none, ?_, numbered.flow, numbered.whole⟩
      intro running attached
      have held : pipeline.attached = true := attached
      simp [held] at running
    · cases moved
  | expire =>
    simp only [CapturePipeline.step] at moved
    split at moved
    · cases moved
      rw [Option.toList_none, List.append_nil]
      exact numbered.shut rfl rfl offers_none rfl
    · cases moved
  | requestStop =>
    cases moved
    rw [Option.toList_none, List.append_nil]
    exact ⟨numbered.lossless, numbered.numbers, numbered.offers, numbered.next, numbered.flow, numbered.whole⟩
  | cancelDelivery =>
    simp only [CapturePipeline.step] at moved
    split at moved
    · cases moved
      rw [Option.toList_none, List.append_nil]
      exact ⟨numbered.lossless, numbered.numbers, offers_none, (fun halted => by cases halted), numbered.flow,
        numbered.whole⟩
    · cases moved
  | finish =>
    simp only [CapturePipeline.step] at moved
    split at moved
    · cases moved
      rw [Option.toList_none, List.append_nil]
      exact ⟨numbered.lossless, numbered.numbers, numbered.offers, (fun halted => by cases halted),
        numbered.flow, numbered.whole⟩
    · cases moved
  | detach =>
    cases moved
    rw [Option.toList_none, List.append_nil]
    exact numbered.shut rfl rfl (fun _ same => same) rfl

/-- The consumer takes the oldest frame of the queue. -/
theorem Numbered.take (numbered : Numbered first accepted taken pipeline) {queue : List Frame}
    (held : pipeline.subscriber.queue = frame :: queue) :
    Numbered first accepted (taken ++ [frame])
      { pipeline with subscriber := { pipeline.subscriber with queue } } := by
  have same : (taken ++ [frame]) ++ queue = taken ++ pipeline.subscriber.queue := by
    rw [held, List.append_assoc]
    rfl
  refine ⟨numbered.lossless, numbered.numbers, numbered.offers, numbered.next, ?_, ?_⟩
  · rw [same]
    exact numbered.flow
  · intro available
    rw [same]
    exact numbered.whole available

end Numbering

section Runs

variable {batchSize capacity : Nat} {streamId : String} {sink : Sink} {lossy : Bool}
variable {normalizer : TimestampNormalizer}

theorem Numbered.quiet (numbered : Numbered first (queuedIn trace) (takenIn trace) pipeline)
    (queued : event.queuedFrames = []) (taken : event.takenFrames = []) :
    Numbered first (queuedIn (trace ++ [(label, event)])) (takenIn (trace ++ [(label, event)])) pipeline := by
  rw [queuedIn_snoc, takenIn_snoc, queued, taken, List.append_nil, List.append_nil]
  exact numbered

theorem step_numbered (numbered : Numbered first (queuedIn trace) (takenIn trace) capture.pipeline)
    (moved : captureStep capture label = some (next, event)) :
    Numbered first (queuedIn (trace ++ [(label, event)])) (takenIn (trace ++ [(label, event)]))
      next.pipeline := by
  cases label with
  | pipeline label =>
    simp only [captureStep, Option.map_eq_some_iff] at moved
    obtain ⟨⟨pipeline, queued⟩, stepped, same⟩ := moved
    have kept := numbered.step stepped
    cases queued with
    | none =>
      cases same
      rw [Option.toList_none, List.append_nil] at kept
      exact kept.quiet rfl rfl
    | some frame =>
      cases same
      rw [queuedIn_snoc, takenIn_snoc]
      simpa [CaptureEvent.queuedFrames, CaptureEvent.takenFrames] using kept
  | take =>
    simp only [captureStep] at moved
    split at moved
    · rename_i frame queue _ held
      cases moved
      rw [queuedIn_snoc, takenIn_snoc]
      simpa [CaptureEvent.queuedFrames, CaptureEvent.takenFrames] using numbered.take held
    · cases moved
  | setStopEvent =>
    cases moved
    exact numbered.quiet rfl rfl
  | publish recording =>
    simp only [captureStep] at moved
    split at moved
    · split at moved
      · cases moved
        exact numbered.quiet rfl rfl
      · cases moved
        exact numbered.quiet rfl rfl
    · cases moved
  | disabled =>
    simp only [captureStep] at moved
    split at moved
    · split at moved
      · cases moved
        exact numbered.quiet rfl rfl
      · cases moved
    · cases moved
  | _ =>
    simp only [captureStep] at moved
    split at moved <;> first
      | (cases moved; exact numbered.quiet rfl rfl)
      | cases moved

/-- The batches that reached the recorder or the broker. -/
def deliveredIn (trace : CaptureTrace) : List FrameBatch :=
  trace.flatMap fun step => match step.2 with
    | .published batch true => [batch]
    | _ => []

/-- A batch that does not reach its sink was published while the recorder was not recording. -/
theorem published_delivered (moved : captureStep capture label = some (next, event))
    (recording : label ≠ .publish false) : deliveredIn [(label, event)] = event.batches := by
  cases label with
  | pipeline label =>
    simp only [captureStep, Option.map_eq_some_iff] at moved
    obtain ⟨⟨pipeline, queued⟩, _, same⟩ := moved
    cases queued <;> (cases same; rfl)
  | setStopEvent =>
    cases moved
    rfl
  | publish accepting =>
    have accepts : accepting = true := by
      cases accepting with
      | true => rfl
      | false => exact absurd rfl recording
    subst accepts
    simp only [captureStep] at moved
    split at moved
    · split at moved
      · cases moved
        rfl
      · cases moved
        simp [deliveredIn, CaptureEvent.batches]
    · cases moved
  | disabled =>
    simp only [captureStep] at moved
    split at moved
    · split at moved
      · cases moved
        rfl
      · cases moved
    · cases moved
  | _ =>
    simp only [captureStep] at moved
    split at moved <;> first
      | (cases moved; rfl)
      | cases moved

/-- What a consumer has made of the frames it took. `partition` holds at every moment, and
`orderly` is the end of the loop. -/
structure PublishedExactly (batchSize : Nat) (trace : CaptureTrace) (capture : CaptureRun) : Prop where
  partition : capture.consumer.Alive →
    takenIn trace = framesOf (publishedIn trace) ++ capture.consumer.unpublished
  never_more : (framesOf (publishedIn trace)).IsPrefix (takenIn trace)
  orderly : capture.consumer.stage = .returned → framesOf (publishedIn trace) = takenIn trace
  sizes : ∀ batch ∈ publishedIn trace, 1 ≤ batch.frameCount ∧ batch.frameCount ≤ batchSize
  contiguous : ∀ batch ∈ publishedIn trace,
    batch.frames.map Frame.sequence = List.range' batch.firstSequence batch.frameCount
  abut : (publishedIn trace).IsChain Abuts
  accepted : ∀ message, capture.consumer.stage ≠ .raised (.value message)
  delivered : (∀ step ∈ trace, step.1 ≠ .publish false) → deliveredIn trace = publishedIn trace

private theorem create_kept (positive : 0 < batchSize) (named : streamId ≠ "") :
    Kept batchSize [] (Consumer.create streamId batchSize sink) := by
  have ready : (Consumer.create streamId batchSize sink).Ready :=
    ⟨positive, named, .nil, fun _ member => (Option.not_mem_none _ member).elim, positive⟩
  exact ⟨ready.looping, rfl, ⟨[], rfl, fun _ => rfl⟩, fun _ member => (List.not_mem_nil member).elim⟩

private theorem create_numbered : Numbered normalizer.nextSequence [] []
    (CapturePipeline.create normalizer capacity false) :=
  ⟨rfl, rfl, offers_none, fun _ _ _ => rfl, List.prefix_rfl, fun _ => rfl⟩

theorem run_kept {allowed : CaptureRun → CaptureLabel → Prop} (positive : 0 < batchSize)
    (named : streamId ≠ "")
    (path : Path captureStep allowed (.create normalizer capacity lossy streamId batchSize sink) trace capture) :
    Kept batchSize trace capture.consumer :=
  path.preserves_trace (fun trace capture => Kept batchSize trace capture.consumer)
    (create_kept positive named) fun _ _ _ _ _ _ kept _ moved => step_kept kept moved

theorem run_numbered {allowed : CaptureRun → CaptureLabel → Prop}
    (path : Path captureStep allowed (.create normalizer capacity false streamId batchSize sink) trace capture) :
    Numbered normalizer.nextSequence (queuedIn trace) (takenIn trace) capture.pipeline :=
  path.preserves_trace
    (fun trace capture => Numbered normalizer.nextSequence (queuedIn trace) (takenIn trace) capture.pipeline)
    create_numbered fun _ _ _ _ _ _ numbered _ moved => step_numbered numbered moved

theorem run_delivered {allowed : CaptureRun → CaptureLabel → Prop} {source : CaptureRun}
    (path : Path captureStep allowed source trace capture) (recording : ∀ step ∈ trace, step.1 ≠ .publish false) :
    deliveredIn trace = publishedIn trace := by
  induction path with
  | refl => rfl
  | snoc prior admitted moved ih =>
    have before := ih fun step member => recording step (List.mem_append_left _ member)
    have last := published_delivered moved (recording _ (List.mem_append_right _ List.mem_cons_self))
    rw [publishedIn_snoc, deliveredIn, List.flatMap_append]
    exact congrArg₂ (· ++ ·) before last

/-- The consumer of a lossless subscriber publishes what it takes, once and in order, in whole
batches that abut, and an orderly end leaves nothing in its partial batch. -/
theorem lossless_published (positive : 0 < batchSize) (named : streamId ≠ "")
    (path : Path captureStep anyLabel (.create normalizer capacity false streamId batchSize sink) trace
      capture) : PublishedExactly batchSize trace capture := by
  have kept := run_kept positive named path
  have numbered := run_numbered path
  obtain ⟨rest, whole, held⟩ := kept.books
  have published : (framesOf (publishedIn trace)).IsPrefix (takenIn trace) := ⟨rest, whole⟩
  have everything : Contiguous (queuedIn trace) := contiguous_of_sequences numbered.numbers
  have within : (framesOf (publishedIn trace)).IsPrefix (queuedIn trace) :=
    (published.trans (List.prefix_append _ _)).trans numbered.flow
  refine ⟨?_, published, ?_, ?_, ?_, ?_, kept.sound.accepted, run_delivered path⟩
  · intro alive
    rw [← whole, held alive]
  · intro returned
    have empty : rest = [] := by
      rw [held (alive_of returned nofun), Consumer.unpublished, returned]
    rw [← whole, empty, List.append_nil]
  · exact fun batch member => ⟨batch.frameCount_pos, kept.sizes batch member⟩
  · exact fun batch _ => batch.contiguous
  · exact abuts_of_contiguous <| List.IsChain.prefix everything within

/-- The service tells the consumers to stop once the pipeline has ended. -/
def OrderlyStop (capture : CaptureRun) (label : CaptureLabel) : Prop :=
  label = .setStopEvent → capture.pipeline.running = false ∧ capture.pipeline.offered = none

/-- The loop is over. -/
def ConsumerStage.Finishing : ConsumerStage → Prop
  | .publishing .finish | .awaiting .finish | .returned => True
  | _ => False

/-- Once told to stop, a consumer has no pipeline any more, and its loop ends on an empty queue. -/
structure Draining (capture : CaptureRun) : Prop where
  past : capture.stopEvent = true → capture.pipeline.running = false ∧ capture.pipeline.offered = none
  drained : capture.consumer.stage.Finishing → capture.stopEvent = true ∧
    capture.pipeline.subscriber.queue = []

theorem over_step {label : PipelineLabel} (past : pipeline.running = false ∧ pipeline.offered = none)
    (moved : pipeline.step label = some (after, queued)) :
    (after.running = false ∧ after.offered = none) ∧
      (pipeline.subscriber.queue = [] → after.subscriber.queue = []) := by
  obtain ⟨halted, free⟩ := past
  cases label with
  | requestStop =>
    cases moved
    exact ⟨⟨halted, free⟩, fun empty => empty⟩
  | finish =>
    simp only [CapturePipeline.step, free, if_true] at moved
    cases moved
    exact ⟨⟨rfl, rfl⟩, fun empty => empty⟩
  | detach =>
    cases moved
    exact ⟨⟨halted, free⟩, fun _ => rfl⟩
  | receive frame => simp [CapturePipeline.step, halted] at moved
  | _ => simp [CapturePipeline.step, free] at moved

private theorem notePending_stage (consumer : Consumer) (count : Nat) :
    (consumer.notePending count).stage = consumer.stage := by
  unfold Consumer.notePending
  split
  · rfl
  · rfl

private theorem appendPending_collects (consumer : Consumer) : ¬ (consumer.appendPending frame).stage.Finishing := by
  simp only [Consumer.appendPending, Consumer.notePending_move]
  split
  · rw [notePending_stage]
    exact not_false
  · rw [notePending_stage]
    exact not_false

private theorem receive_collects (consumer : Consumer) : ¬ (consumer.receive frame).stage.Finishing := by
  unfold Consumer.receive
  split
  · exact appendPending_collects consumer
  · simp only
    split
    · exact appendPending_collects _
    · exact not_false

theorem resume_collects (consumer : Consumer) {cut : Cut} (other : cut ≠ .finish) :
    ¬ (consumer.resume cut).stage.Finishing := by
  cases cut with
  | gap frame => exact appendPending_collects _
  | finish => exact absurd rfl other
  | _ => exact not_false

/-- A step of the consumer that does not end the loop. -/
theorem Draining.goes_on (draining : Draining capture) {consumer : Consumer}
    (collects : ¬ consumer.stage.Finishing) : Draining { capture with consumer } :=
  ⟨draining.past, fun finishing => absurd finishing collects⟩

private theorem check_drains (draining : Draining capture) : Draining { capture with consumer := capture.check } := by
  unfold CaptureRun.check
  split
  · exact draining.goes_on not_false
  · rename_i finished
    have drained : capture.stopEvent = true ∧ capture.pipeline.subscriber.queue = [] := by
      rw [not_or, Bool.not_eq_false, Nat.not_lt, Nat.le_zero] at finished
      exact ⟨finished.1, List.length_eq_zero_iff.mp finished.2⟩
    split
    · exact ⟨draining.past, fun _ => drained⟩
    · exact ⟨draining.past, fun _ => drained⟩

theorem draining_step (draining : Draining capture) (admitted : OrderlyStop capture label)
    (moved : captureStep capture label = some (next, event)) : Draining next := by
  cases label with
  | pipeline label =>
    simp only [captureStep, Option.map_eq_some_iff] at moved
    obtain ⟨⟨pipeline, queued⟩, stepped, same⟩ := moved
    cases same
    refine ⟨fun stopped => (over_step (draining.past stopped) stepped).1, fun finishing => ?_⟩
    obtain ⟨stopped, empty⟩ := draining.drained finishing
    exact ⟨stopped, (over_step (draining.past stopped) stepped).2 empty⟩
  | setStopEvent =>
    cases moved
    exact ⟨fun _ => admitted rfl, fun finishing => ⟨rfl, (draining.drained finishing).2⟩⟩
  | check =>
    simp only [captureStep] at moved
    split at moved
    · cases moved
      exact check_drains draining
    · cases moved
  | take =>
    simp only [captureStep] at moved
    split at moved
    · cases moved
      exact ⟨draining.past, fun finishing => absurd finishing (receive_collects _)⟩
    · cases moved
  | timeout =>
    simp only [captureStep] at moved
    split at moved
    · cases moved
      apply draining.goes_on
      split
      · exact not_false
      · exact not_false
    · cases moved
  | disabled =>
    simp only [captureStep] at moved
    split at moved
    · split at moved
      · cases moved
        exact draining.goes_on not_false
      · cases moved
    · cases moved
  | publish recording =>
    simp only [captureStep] at moved
    split at moved
    · rename_i cut publishing
      split at moved
      · cases moved
        exact draining.goes_on not_false
      · cases moved
        refine ⟨draining.past, fun finishing => draining.drained ?_⟩
        rw [publishing]
        cases cut with
        | finish => trivial
        | _ => exact finishing
    · cases moved
  | accept =>
    simp only [captureStep] at moved
    split at moved
    · rename_i cut awaiting
      cases moved
      by_cases last : cut = .finish
      · refine ⟨draining.past, fun _ => draining.drained ?_⟩
        rw [awaiting, last]
        trivial
      · exact draining.goes_on (resume_collects _ last)
    · cases moved
  | _ =>
    simp only [captureStep] at moved
    split at moved <;> first
      | (cases moved; exact draining.goes_on not_false)
      | cases moved

/-- After an orderly stop every frame that the queue accepted is published. -/
theorem orderly_stop_published (positive : 0 < batchSize) (named : streamId ≠ "")
    (path : Path captureStep OrderlyStop (.create normalizer capacity false streamId batchSize sink) trace
      capture) (returned : capture.consumer.stage = .returned)
    (open_ : capture.pipeline.subscriber.shutDown = false) :
    framesOf (publishedIn trace) = queuedIn trace := by
  have draining : Draining capture := by
    refine path.preserves Draining (fun _ _ _ _ => draining_step) ⟨nofun, fun finishing => ?_⟩
    exact finishing.elim
  have finishing : capture.consumer.stage.Finishing := by
    rw [returned]
    trivial
  have taken := (lossless_published positive named path.anyLabel).orderly returned
  have whole := (run_numbered path).whole open_
  rw [(draining.drained finishing).2, List.append_nil] at whole
  exact taken.trans whole

end Runs

section Sample

theorem sample_channel : "can0" ≠ "" := by decide

theorem sample_clock : "host" ≠ "" := by decide

theorem sample_dlc : 1 ∈ if false then Domain.fdDlc else Domain.classicDlc := by decide

theorem sample_classic : false = false → false = false ∧ false = false := fun _ => ⟨rfl, rfl⟩

theorem sample_sequence : 0 ≤ 0xFFFFFFFFFFFFFFFF := Nat.zero_le _

theorem sample_flags : 0 ≤ 0xFFFFFFFF := Nat.zero_le _

theorem sample_untimed : ∀ stamp ∈ (none : Option Domain.Seconds), 0 ≤ stamp := by simp

def sampleFrame : Frame where
  sequence := 0
  channelId := "can0"
  arbitrationId := 0x123
  isExtended := false
  isFd := false
  bitrateSwitch := false
  errorStateIndicator := false
  dlc := 1
  data := [0]
  direction := .rx
  hardwareTimestamp := none
  hostTimestamp := 0
  normalizedTimestamp := 0
  clockDomain := "host"
  timestampQuality := .host
  flags := 0
  sequence_unsigned := sample_sequence
  channel_named := sample_channel
  arbitration_range := by decide
  dlc_allowed := sample_dlc
  data_length := rfl
  classic_flags := sample_classic
  host_nonnegative := le_refl 0
  normalized_nonnegative := le_refl 0
  hardware_nonnegative := sample_untimed
  clock_named := sample_clock
  flags_unsigned := sample_flags

def arrival : List CaptureLabel := [.pipeline (.receive sampleFrame), .pipeline .deliver]

/-- Three frames in batches of two: one batch by its size, one by a timeout, and the stop. -/
def sampleSchedule : List CaptureLabel :=
  arrival ++ arrival ++ arrival ++ [.check, .take, .check, .take, .publish true, .accept, .check, .take,
    .check, .timeout, .publish true, .accept, .pipeline .requestStop, .pipeline .finish, .setStopEvent, .check]

def sampleCapture : CaptureRun := .create ⟨none, 0⟩ 500 false "stream" 2 .archive

/-- The sequences of the batches, and whether the consumer has returned. -/
def captureSeen (reached : CaptureRun × CaptureTrace) : List (List Nat) × Bool :=
  ((publishedIn reached.2).map fun batch => batch.frames.map Frame.sequence,
    match reached.1.consumer.stage with
    | .returned => true
    | _ => false)

theorem lossless_published_sample : ∃ trace capture,
    Path captureStep anyLabel sampleCapture trace capture ∧
    captureSeen (capture, trace) = ([[0, 1], [2]], true) ∧ PublishedExactly 2 trace capture := by
  have evaluated : (followWithin captureStep (fun _ _ => true) sampleCapture sampleSchedule).map captureSeen =
      some ([[0, 1], [2]], true) := by
    decide +kernel
  obtain ⟨trace, capture, path, seen⟩ :=
    Path.observedWithin sampleSchedule captureSeen _ (fun _ _ _ => trivial) evaluated
  exact ⟨trace, capture, path, seen, lossless_published (by decide) (by decide) path⟩

end Sample

end CanX.Capture
