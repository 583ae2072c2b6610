import CanX.Capture.Consumer
import Mathlib.Data.List.Infix

/-! What a consumer publishes is what it took: the batches partition the taken frames in order,
for every interleaving of deliveries, timeouts, publications and the stop. -/

namespace CanX.Capture

open Domain Transition

section Traces

abbrev CaptureTrace := List (CaptureLabel × CaptureEvent)

def CaptureEvent.queuedFrames : CaptureEvent → List Frame
  | .queued frame => [frame]
  | _ => []

def CaptureEvent.takenFrames : CaptureEvent → List Frame
  | .took frame => [frame]
  | _ => []

def CaptureEvent.batches : CaptureEvent → List FrameBatch
  | .published batch _ => [batch]
  | _ => []

/-- The frames that the queue accepted. -/
def queuedIn (trace : CaptureTrace) : List Frame := trace.flatMap fun step => step.2.queuedFrames

/-- The frames that the consumer took from the queue. -/
def takenIn (trace : CaptureTrace) : List Frame := trace.flatMap fun step => step.2.takenFrames

def publishedIn (trace : CaptureTrace) : List FrameBatch := trace.flatMap fun step => step.2.batches

def framesOf (batches : List FrameBatch) : List Frame := batches.flatMap FrameBatch.frames

variable {trace : CaptureTrace} {label : CaptureLabel} {event : CaptureEvent} {frame : Frame}
variable {batch : FrameBatch} {recorded : Bool}

@[simp] theorem queuedIn_snoc : queuedIn (trace ++ [(label, event)]) = queuedIn trace ++ event.queuedFrames := by
  simp [queuedIn]

@[simp] theorem takenIn_snoc : takenIn (trace ++ [(label, event)]) = takenIn trace ++ event.takenFrames := by
  simp [takenIn]

@[simp] theorem publishedIn_snoc :
    publishedIn (trace ++ [(label, event)]) = publishedIn trace ++ event.batches := by
  simp [publishedIn]

@[simp] theorem framesOf_append (front back : List FrameBatch) :
    framesOf (front ++ back) = framesOf front ++ framesOf back := List.flatMap_append

@[simp] theorem framesOf_single : framesOf [batch] = batch.frames := by
  simp [framesOf]

end Traces

section Batches

/-- One frame is numbered right after another. -/
def Follows (first second : Frame) : Prop := second.sequence = first.sequence + 1

/-- One batch starts right after another ends. -/
def Abuts (first second : FrameBatch) : Prop := second.firstSequence = first.lastSequence + 1

/-- Frames numbered without a gap. -/
def Contiguous (frames : List Frame) : Prop := frames.IsChain Follows

theorem Contiguous.sequences {frames : List Frame} (contiguous : Contiguous frames) (nonempty : frames ≠ []) :
    frames.map Frame.sequence = List.range' (frames.head nonempty).sequence frames.length := by
  induction frames with
  | nil => exact absurd rfl nonempty
  | cons frame rest ih =>
    cases rest with
    | nil => rfl
    | cons next rest =>
      obtain ⟨follows, remaining⟩ := List.isChain_cons_cons.mp contiguous
      have later := ih remaining (List.cons_ne_nil next rest)
      rw [List.head_cons, show next.sequence = frame.sequence + 1 from follows] at later
      rw [List.map_cons, later]
      rfl

/-- A batch can be made of frames numbered without a gap. -/
theorem create_contiguous {streamId : String} {frames : List Frame} (named : streamId ≠ "")
    (nonempty : frames ≠ []) (contiguous : Contiguous frames) :
    ∃ batch, FrameBatch.create streamId frames = .ok batch ∧ batch.frames = frames := by
  have sequences := contiguous.sequences nonempty
  refine ⟨⟨streamId, frames, named, nonempty, sequences⟩, ?_, rfl⟩
  rw [FrameBatch.create, dif_pos nonempty, dif_pos named, dif_pos sequences]

theorem Contiguous.snoc {frames : List Frame} {frame : Frame} (contiguous : Contiguous frames)
    (follows : ∀ last ∈ frames.getLast?, Follows last frame) : Contiguous (frames ++ [frame]) := by
  apply List.IsChain.append contiguous (List.isChain_singleton frame)
  intro last final head same
  cases same
  exact follows last final

/-- Batches whose frames are numbered without a gap abut. -/
theorem abuts_of_contiguous {batches : List FrameBatch} (contiguous : Contiguous (framesOf batches)) :
    batches.IsChain Abuts := by
  induction batches with
  | nil => exact .nil
  | cons batch rest ih =>
    have split : framesOf (batch :: rest) = batch.frames ++ framesOf rest := List.flatMap_cons
    unfold Contiguous at contiguous
    rw [split, List.isChain_append] at contiguous
    obtain ⟨_, later, joined⟩ := contiguous
    cases rest with
    | nil => exact List.isChain_singleton batch
    | cons next rest =>
      refine List.isChain_cons_cons.mpr ⟨?_, ih later⟩
      have first : (framesOf (next :: rest)).head? = some next.firstFrame := by
        rw [framesOf, List.flatMap_cons, List.head?_append, List.head?_eq_some_head next.nonempty]
        rfl
      have last : batch.frames.getLast? = some batch.lastFrame :=
        List.getLast?_eq_some_getLast batch.nonempty
      exact joined batch.lastFrame last next.firstFrame first

end Batches

section Shape

variable {consumer : Consumer} {frame : Frame} {cut : Cut}

/-- The frames that were taken and are not yet published. -/
def Consumer.unpublished (consumer : Consumer) : List Frame :=
  match consumer.stage with
  | .looping | .receiving | .publishing .timeout | .publishing .size | .publishing .finish =>
    consumer.pending
  | .publishing (.gap frame) => consumer.pending ++ [frame]
  | .awaiting (.gap frame) => [frame]
  | _ => []

def ConsumerStage.Collecting : ConsumerStage → Prop
  | .looping | .receiving => True
  | _ => False

/-- What holds of the local variables at every await. -/
structure Consumer.Sound (consumer : Consumer) : Prop where
  positive : 0 < consumer.batchSize
  named : consumer.streamId ≠ ""
  contiguous : Contiguous consumer.pending
  last : ∀ final ∈ consumer.pending.getLast?, consumer.lastSequence = some final.sequence
  within : consumer.pending.length ≤ consumer.batchSize
  room : consumer.stage.Collecting → consumer.pending.length < consumer.batchSize
  present : ∀ cut, consumer.stage = .publishing cut → consumer.pending ≠ []
  accepted : ∀ message, consumer.stage ≠ .raised (.value message)

theorem Consumer.notePending_move (count : Nat) (stage : ConsumerStage) :
    (consumer.notePending count).move stage = (consumer.move stage).notePending count := by
  unfold Consumer.notePending
  split
  · rename_i tracked
    rw [if_pos (show (consumer.move stage).sink.trackGaps = true from tracked)]
  · rename_i untracked
    rw [if_neg (show ¬ (consumer.move stage).sink.trackGaps = true from untracked)]
    rfl

theorem Consumer.notePending_unpublished (count : Nat) :
    (consumer.notePending count).unpublished = consumer.unpublished := by
  unfold Consumer.notePending
  split
  · rfl
  · rfl

/-- The number of pending frames is kept for others to read. -/
theorem Consumer.Sound.notePending (sound : consumer.Sound) (count : Nat) :
    (consumer.notePending count).Sound := by
  unfold Consumer.notePending
  split
  · exact sound
  · exact ⟨sound.positive, sound.named, sound.contiguous, sound.last, sound.within, sound.room,
      sound.present, sound.accepted⟩

/-- Moving to a stage that asks nothing more of the pending frames. -/
theorem Consumer.Sound.move {stage : ConsumerStage} (sound : consumer.Sound)
    (room : stage.Collecting → consumer.pending.length < consumer.batchSize)
    (present : ∀ cut, stage = .publishing cut → consumer.pending ≠ [])
    (accepted : ∀ message, stage ≠ .raised (.value message)) : (consumer.move stage).Sound :=
  ⟨sound.positive, sound.named, sound.contiguous, sound.last, sound.within, room, present, accepted⟩

/-- What holds of the local variables between two awaits, apart from the stage. -/
structure Consumer.Ready (consumer : Consumer) : Prop where
  positive : 0 < consumer.batchSize
  named : consumer.streamId ≠ ""
  contiguous : Contiguous consumer.pending
  last : ∀ final ∈ consumer.pending.getLast?, consumer.lastSequence = some final.sequence
  room : consumer.pending.length < consumer.batchSize

/-- The loop goes on. -/
theorem Consumer.Ready.looping (ready : consumer.Ready) : (consumer.move .looping).Sound := by
  refine ⟨ready.positive, ready.named, ready.contiguous, ready.last, ready.room.le, fun _ => ready.room, ?_, ?_⟩
  · intro cut same
    cases same
  · intro message same
    cases same

theorem Consumer.appendPending_sound (ready : consumer.Ready)
    (follows : ∀ last ∈ consumer.pending.getLast?, Follows last frame) :
    (consumer.appendPending frame).Sound ∧ (consumer.appendPending frame).unpublished = consumer.pending ++ [frame] := by
  have contiguous := ready.contiguous.snoc follows
  have room := ready.room
  have length : (consumer.pending ++ [frame]).length = consumer.pending.length + 1 := List.length_append
  have final : ∀ last ∈ (consumer.pending ++ [frame]).getLast?, some frame.sequence = some last.sequence := by
    intro last member
    rw [List.getLast?_concat] at member
    cases member
    rfl
  simp only [Consumer.appendPending, Consumer.notePending_move]
  split
  · have sound : Consumer.Sound (Consumer.move { consumer with
        pending := consumer.pending ++ [frame], lastSequence := some frame.sequence } (.publishing .size)) := by
      refine ⟨ready.positive, ready.named, contiguous, final, ?_, nofun, ?_, nofun⟩
      · change (consumer.pending ++ [frame]).length ≤ consumer.batchSize
        omega
      · exact fun _ _ => List.append_ne_nil_of_right_ne_nil _ (List.cons_ne_nil _ _)
    exact ⟨sound.notePending _, Consumer.notePending_unpublished _⟩
  · rename_i short
    have below : (consumer.pending ++ [frame]).length < consumer.batchSize := Nat.lt_of_not_le short
    have sound : Consumer.Ready { consumer with
        pending := consumer.pending ++ [frame], lastSequence := some frame.sequence } :=
      ⟨ready.positive, ready.named, contiguous, final, below⟩
    exact ⟨sound.looping.notePending _, Consumer.notePending_unpublished _⟩

theorem Consumer.Sound.ready (sound : consumer.Sound) (collecting : consumer.stage.Collecting) :
    consumer.Ready :=
  ⟨sound.positive, sound.named, sound.contiguous, sound.last, sound.room collecting⟩

/-- Nothing is pending any more. -/
theorem Consumer.Sound.emptied (sound : consumer.Sound) : Consumer.Ready { consumer with pending := [] } :=
  ⟨sound.positive, sound.named, .nil, fun _ member => (Option.not_mem_none _ member).elim,
    sound.positive⟩

theorem Consumer.continues_follows (ready : consumer.Ready) (continues : consumer.continues frame = true) :
    ∀ last ∈ consumer.pending.getLast?, Follows last frame := by
  intro last member
  rw [Consumer.continues, ready.last last member] at continues
  have next : frame.sequence = last.sequence + 1 := of_decide_eq_true continues
  exact next

/-- A frame that was taken is pending, or waits for the frames before it to be published. -/
theorem Consumer.receive_sound (ready : consumer.Ready) :
    (consumer.receive frame).Sound ∧ (consumer.receive frame).unpublished = consumer.pending ++ [frame] := by
  unfold Consumer.receive
  split
  · rename_i continues
    exact Consumer.appendPending_sound ready (Consumer.continues_follows ready continues)
  · simp only
    split
    · rename_i empty
      have noted : Consumer.Ready { consumer with sequenceGaps := consumer.sequenceGaps +
          if consumer.sink.trackGaps then consumer.gapBefore frame else 0 } :=
        ⟨ready.positive, ready.named, ready.contiguous, ready.last, ready.room⟩
      apply Consumer.appendPending_sound noted
      intro last member
      rw [empty] at member
      cases member
    · rename_i present
      exact ⟨⟨ready.positive, ready.named, ready.contiguous, ready.last, ready.room.le, nofun,
        fun _ _ => present, nofun⟩, rfl⟩

/-- What was published is pending no more. -/
theorem Consumer.resume_sound (sound : consumer.Sound) (waiting : consumer.stage = .awaiting cut) :
    (consumer.resume cut).Sound ∧ (consumer.resume cut).unpublished = consumer.unpublished := by
  have empty := sound.emptied
  have looping : Consumer.Sound (Consumer.move { consumer with pending := [] } .looping) := empty.looping
  have nothing (known : consumer.unpublished = []) :
      (({ consumer with pending := [] } : Consumer).notePending 0 |>.move .looping).unpublished =
        consumer.unpublished := by
    rw [Consumer.notePending_move, Consumer.notePending_unpublished, known]
    rfl
  cases cut with
  | timeout =>
    refine ⟨?_, nothing (by rw [Consumer.unpublished, waiting])⟩
    rw [Consumer.resume, Consumer.notePending_move]
    exact looping.notePending 0
  | size =>
    refine ⟨?_, nothing (by rw [Consumer.unpublished, waiting])⟩
    rw [Consumer.resume, Consumer.notePending_move]
    exact looping.notePending 0
  | gap frame =>
    have next : (Consumer.appendPending { consumer with pending := [] } frame).Sound ∧ _ :=
      Consumer.appendPending_sound empty fun _ member => (Option.not_mem_none _ member).elim
    refine ⟨next.1, next.2.trans ?_⟩
    rw [Consumer.unpublished, waiting]
    rfl
  | finish =>
    have past : (consumer.move .returned).Sound := by
      refine sound.move (fun collecting => collecting.elim) ?_ ?_
      · intro cut same
        cases same
      · intro message same
        cases same
    rw [Consumer.resume, Consumer.notePending_move, Consumer.notePending_unpublished]
    refine ⟨past.notePending 0, ?_⟩
    rw [Consumer.unpublished, Consumer.unpublished, waiting]
    rfl

@[simp] theorem Consumer.notePending_batchSize (count : Nat) :
    (consumer.notePending count).batchSize = consumer.batchSize := by
  unfold Consumer.notePending
  split
  · rfl
  · rfl

@[simp] theorem Consumer.appendPending_batchSize : (consumer.appendPending frame).batchSize = consumer.batchSize := by
  simp only [Consumer.appendPending, Consumer.notePending_move]
  split
  · exact Consumer.notePending_batchSize _
  · exact Consumer.notePending_batchSize _

@[simp] theorem Consumer.receive_batchSize : (consumer.receive frame).batchSize = consumer.batchSize := by
  unfold Consumer.receive
  split
  · exact Consumer.appendPending_batchSize
  · simp only
    split
    · exact Consumer.appendPending_batchSize
    · rfl

@[simp] theorem Consumer.resume_batchSize : (consumer.resume cut).batchSize = consumer.batchSize := by
  cases cut with
  | gap frame => exact Consumer.appendPending_batchSize
  | _ =>
    rw [Consumer.resume, Consumer.notePending_move]
    exact Consumer.notePending_batchSize _

end Shape

section Runs

variable {capture next : CaptureRun} {label : CaptureLabel} {event : CaptureEvent} {trace : CaptureTrace}
variable {batchSize : Nat}

/-- The consumer has not been ended by an exception. -/
def Consumer.Alive (consumer : Consumer) : Prop := ∀ error, consumer.stage ≠ .raised error

/-- What ties a consumer to the run so far. -/
structure Kept (batchSize : Nat) (trace : CaptureTrace) (consumer : Consumer) : Prop where
  sound : consumer.Sound
  size : consumer.batchSize = batchSize
  books : ∃ rest, framesOf (publishedIn trace) ++ rest = takenIn trace ∧
    (consumer.Alive → rest = consumer.unpublished)
  sizes : ∀ batch ∈ publishedIn trace, batch.frameCount ≤ batchSize

variable {consumer after : Consumer}

/-- A step that takes and publishes nothing. -/
theorem Kept.quiet (kept : Kept batchSize trace consumer) (alive : consumer.Alive) (sound : after.Sound)
    (size : after.batchSize = consumer.batchSize)
    (same : after.Alive → after.unpublished = consumer.unpublished) (taken : event.takenFrames = [])
    (batches : event.batches = []) : Kept batchSize (trace ++ [(label, event)]) after := by
  obtain ⟨rest, whole, held⟩ := kept.books
  refine ⟨sound, size.trans kept.size, ⟨rest, ?_, ?_⟩, ?_⟩
  · rw [publishedIn_snoc, takenIn_snoc, batches, taken, List.append_nil, List.append_nil]
    exact whole
  · exact fun living => (held alive).trans (same living).symm
  · rw [publishedIn_snoc, batches, List.append_nil]
    exact kept.sizes

/-- A step of the others. -/
theorem Kept.beside (kept : Kept batchSize trace consumer) (taken : event.takenFrames = [])
    (batches : event.batches = []) : Kept batchSize (trace ++ [(label, event)]) consumer := by
  obtain ⟨rest, whole, held⟩ := kept.books
  refine ⟨kept.sound, kept.size, ⟨rest, ?_, held⟩, ?_⟩
  · rw [publishedIn_snoc, takenIn_snoc, batches, taken, List.append_nil, List.append_nil]
    exact whole
  · rw [publishedIn_snoc, batches, List.append_nil]
    exact kept.sizes

theorem alive_of {stage : ConsumerStage} (known : consumer.stage = stage)
    (other : ∀ error, stage ≠ .raised error) : consumer.Alive := by
  intro error same
  exact other error (known.symm.trans same)

/-- An exception other than a refused batch. -/
theorem Kept.raise (kept : Kept batchSize trace consumer) (alive : consumer.Alive) {error : ConsumerError}
    (foreign : ∀ message, error ≠ .value message) (taken : event.takenFrames = [])
    (batches : event.batches = []) :
    Kept batchSize (trace ++ [(label, event)]) (consumer.move (.raised error)) := by
  have sound : (consumer.move (.raised error)).Sound := by
    refine kept.sound.move (fun collecting => collecting.elim) ?_ ?_
    · intro cut same
      cases same
    · intro message same
      cases same
      exact foreign message rfl
  exact kept.quiet alive sound rfl (fun living => absurd rfl (living error)) taken batches

theorem Kept.took (kept : Kept batchSize trace consumer) (receiving : consumer.stage = .receiving)
    (frame : Frame) : Kept batchSize (trace ++ [(label, .took frame)]) (consumer.receive frame) := by
  have collecting : consumer.stage.Collecting := by
    rw [receiving]
    trivial
  have received : (consumer.receive frame).Sound ∧ _ := Consumer.receive_sound (kept.sound.ready collecting)
  obtain ⟨sound, unpublished⟩ := received
  obtain ⟨rest, whole, held⟩ := kept.books
  have pending : rest = consumer.pending := by
    rw [held (alive_of receiving nofun), Consumer.unpublished, receiving]
  refine ⟨sound, Consumer.receive_batchSize.trans kept.size, ⟨rest ++ [frame], ?_, ?_⟩, ?_⟩
  · rw [publishedIn_snoc, takenIn_snoc, ← List.append_assoc, ← whole]
    simp [CaptureEvent.batches, CaptureEvent.takenFrames]
  · intro _
    rw [pending, unpublished]
  · rw [publishedIn_snoc]
    simpa [CaptureEvent.batches] using kept.sizes

theorem Kept.publish (kept : Kept batchSize trace consumer) {cut : Cut} {batch : FrameBatch}
    {recorded : Bool} (publishing : consumer.stage = .publishing cut)
    (created : FrameBatch.create consumer.streamId consumer.pending = .ok batch) :
    Kept batchSize (trace ++ [(label, .published batch recorded)]) (consumer.move (.awaiting cut)) := by
  have frames := FrameBatch.create_frames created
  obtain ⟨rest, whole, held⟩ := kept.books
  have split : consumer.unpublished = consumer.pending ++ (consumer.move (.awaiting cut)).unpublished := by
    cases cut <;> simp [Consumer.unpublished, publishing, Consumer.move]
  have sound : (consumer.move (.awaiting cut)).Sound := by
    refine kept.sound.move (fun collecting => collecting.elim) ?_ ?_
    · intro cut same
      cases same
    · intro message same
      cases same
  refine ⟨sound, kept.size, ⟨(consumer.move (.awaiting cut)).unpublished, ?_, fun _ => rfl⟩, ?_⟩
  · rw [publishedIn_snoc, takenIn_snoc, framesOf_append]
    simp only [CaptureEvent.batches, CaptureEvent.takenFrames, framesOf_single, List.append_nil]
    rw [frames, List.append_assoc, ← split, ← held (alive_of publishing nofun)]
    exact whole
  · intro published member
    rw [publishedIn_snoc] at member
    rcases List.mem_append.mp member with before | last
    · exact kept.sizes published before
    · rw [List.mem_singleton.mp last, FrameBatch.frameCount, frames, ← kept.size]
      exact kept.sound.within

theorem check_kept (kept : Kept batchSize trace capture.consumer)
    (looping : capture.consumer.stage = .looping) :
    Kept batchSize (trace ++ [(label, .silent)]) capture.check := by
  have alive : capture.consumer.Alive := alive_of looping nofun
  have collecting : capture.consumer.stage.Collecting := by
    rw [looping]
    trivial
  have room := kept.sound.room collecting
  have held : capture.consumer.unpublished = capture.consumer.pending := by
    rw [Consumer.unpublished, looping]
  unfold CaptureRun.check
  split
  · have sound : (capture.consumer.move .receiving).Sound :=
      kept.sound.move (fun _ => room) (fun _ same => by cases same) (fun _ same => by cases same)
    exact kept.quiet alive sound rfl (fun _ => held.symm) rfl rfl
  · split
    · rename_i empty
      have sound : (capture.consumer.move .returned).Sound :=
        kept.sound.move (fun collecting => collecting.elim) (fun _ same => by cases same)
          (fun _ same => by cases same)
      rw [Consumer.notePending_move]
      apply kept.quiet alive (sound.notePending 0) (Consumer.notePending_batchSize 0) _ rfl rfl
      intro _
      rw [Consumer.notePending_unpublished, held, empty]
      rfl
    · rename_i present
      have sound : (capture.consumer.move (.publishing .finish)).Sound :=
        kept.sound.move (fun collecting => collecting.elim) (fun _ _ => present) (fun _ same => by cases same)
      exact kept.quiet alive sound rfl (fun _ => held.symm) rfl rfl

private theorem timeout_kept (kept : Kept batchSize trace consumer) (receiving : consumer.stage = .receiving) :
    Kept batchSize (trace ++ [(label, .silent)])
      (consumer.move (if consumer.pending = [] then .looping else .publishing .timeout)) := by
  have alive : consumer.Alive := alive_of receiving nofun
  have collecting : consumer.stage.Collecting := by
    rw [receiving]
    trivial
  have room := kept.sound.room collecting
  have held : consumer.unpublished = consumer.pending := by
    rw [Consumer.unpublished, receiving]
  split
  · have sound : (consumer.move .looping).Sound :=
      kept.sound.move (fun _ => room) (fun _ same => by cases same) (fun _ same => by cases same)
    exact kept.quiet alive sound rfl (fun _ => held.symm) rfl rfl
  · rename_i present
    have sound : (consumer.move (.publishing .timeout)).Sound :=
      kept.sound.move (fun collecting => collecting.elim) (fun _ _ => present) (fun _ same => by cases same)
    exact kept.quiet alive sound rfl (fun _ => held.symm) rfl rfl

/-- One step of the capture, whoever takes it. -/
theorem step_kept (kept : Kept batchSize trace capture.consumer)
    (moved : captureStep capture label = some (next, event)) :
    Kept batchSize (trace ++ [(label, event)]) next.consumer := by
  cases label with
  | pipeline label =>
    simp only [captureStep, Option.map_eq_some_iff] at moved
    obtain ⟨⟨pipeline, queued⟩, _, same⟩ := moved
    cases queued <;> (cases same; exact kept.beside rfl rfl)
  | setStopEvent =>
    cases moved
    exact kept.beside rfl rfl
  | check =>
    simp only [captureStep] at moved
    split at moved
    · rename_i looping
      cases moved
      exact check_kept kept looping
    · cases moved
  | take =>
    simp only [captureStep] at moved
    split at moved
    · rename_i frame queue receiving _
      cases moved
      exact kept.took receiving frame
    · cases moved
  | timeout =>
    simp only [captureStep] at moved
    split at moved
    · rename_i receiving
      cases moved
      exact timeout_kept kept receiving
    · cases moved
  | disabled =>
    simp only [captureStep] at moved
    split at moved
    · rename_i receiving
      split at moved
      · cases moved
        exact kept.raise (alive_of receiving nofun) nofun rfl rfl
      · cases moved
    · cases moved
  | publish recording =>
    simp only [captureStep] at moved
    split at moved
    · rename_i cut publishing
      have present := kept.sound.present cut publishing
      obtain ⟨batch, created, _⟩ := create_contiguous kept.sound.named present kept.sound.contiguous
      rw [created] at moved
      cases moved
      exact kept.publish publishing created
    · cases moved
  | accept =>
    simp only [captureStep] at moved
    split at moved
    · rename_i cut awaiting
      cases moved
      obtain ⟨sound, same⟩ := Consumer.resume_sound kept.sound awaiting
      exact kept.quiet (alive_of awaiting nofun) sound Consumer.resume_batchSize (fun _ => same) rfl rfl
    · cases moved
  | reject =>
    simp only [captureStep] at moved
    split at moved
    · rename_i cut awaiting
      cases moved
      exact kept.raise (alive_of awaiting nofun) nofun rfl rfl
    · cases moved
  | cancel =>
    simp only [captureStep] at moved
    split at moved
    · rename_i receiving
      cases moved
      exact kept.raise (alive_of receiving nofun) nofun rfl rfl
    · rename_i cut awaiting
      cases moved
      exact kept.raise (alive_of awaiting nofun) nofun rfl rfl
    · cases moved

end Runs

end CanX.Capture
