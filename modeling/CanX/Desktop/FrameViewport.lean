import CanX.Desktop.FrameWorkerCore

/-! What the frame Worker shows: the tail of the stream that its batches make up. -/

namespace CanX.Desktop.FrameWorkerCore

open Numeric (binary64)
open Storage Transition

/-- As many as a counter can count. -/
def countLimit : Nat := maxSafeInteger + 1

section Buffer

variable {capacity : Nat} {frames : List RuntimeFrame} {core : FrameWorkerCore}

/-- The buffer keeps the last of the frames, and the counter beside it how many came before them. -/
structure Keeps (capacity : Nat) (frames : List RuntimeFrame) (core : FrameWorkerCore) : Prop where
  room : core.ring.capacity = capacity
  holds : core.ring.Holds (lastOf capacity frames)
  dropped : core.droppedViewFrames = min (frames.length - capacity) countLimit

private theorem nearestNat_succ {count : Nat} (counted : count ≤ countLimit) :
    nearestNat (count + 1) = min (count + 1) countLimit := by
  by_cases below : count + 1 ≤ maxSafeInteger
  · rw [nearestNat_small below, Nat.min_eq_left]
    exact Nat.le_succ_of_le below
  · by_cases last : count = maxSafeInteger
    · rw [last]
      decide +kernel
    · have limit : count = countLimit := by
        simp only [countLimit] at counted ⊢
        omega
      rw [limit]
      decide +kernel

private theorem push_keeps (frame : RuntimeFrame) (keeps : Keeps capacity frames core) :
    Keeps capacity (frames ++ [frame]) (core.push frame) := by
  have positive : 0 < capacity := keeps.room ▸ core.ring.capacity_pos
  have slots : core.ring.slots.length = capacity := keeps.room
  have size : min capacity frames.length = core.ring.size := by
    rw [← lastOf_length]
    exact keeps.holds.size
  by_cases free : core.ring.size < core.ring.slots.length
  · have fits : frames.length < capacity := by omega
    rw [push, dif_pos free]
    constructor
    · rw [RingBuffer.capacity_append]
      exact keeps.room
    · rw [lastOf_append_free fits]
      exact RingBuffer.append_holds keeps.holds free
    · rw [keeps.dropped, List.length_append, List.length_singleton]
      have none : frames.length - capacity = 0 ∧ frames.length + 1 - capacity = 0 := by omega
      rw [none.1, none.2]
  · have full : capacity ≤ frames.length := by omega
    have whole : core.ring.size = core.ring.slots.length := Nat.le_antisymm core.ring.size_le (Nat.le_of_not_lt free)
    rw [push, dif_neg free]
    constructor
    · rw [RingBuffer.capacity_overwrite]
      exact keeps.room
    · rw [lastOf_append_full positive full]
      exact RingBuffer.overwrite_holds keeps.holds whole
    · have next : frames.length + 1 - capacity = frames.length - capacity + 1 := by omega
      have counted : core.droppedViewFrames ≤ countLimit := keeps.dropped ▸ Nat.min_le_right _ _
      show nearestNat (core.droppedViewFrames + 1) = _
      rw [nearestNat_succ counted, keeps.dropped, List.length_append, List.length_singleton, next]
      generalize countLimit = limit
      omega

theorem pushes_keep (more : List RuntimeFrame) (keeps : Keeps capacity frames core) :
    Keeps capacity (frames ++ more) (more.foldl push core) := by
  induction more generalizing frames core with
  | nil => rwa [List.append_nil]
  | cons frame rest ih =>
    have later := ih (push_keeps frame keeps)
    rwa [List.append_assoc] at later

/-- Frames change the buffer and the counter beside it alone. -/
theorem pushes_others (more : List RuntimeFrame) (core : FrameWorkerCore) :
    ∃ ring droppedViewFrames, more.foldl push core = { core with ring, droppedViewFrames } := by
  induction more generalizing core with
  | nil => exact ⟨_, _, rfl⟩
  | cons frame rest ih =>
    obtain ⟨ring, dropped, same⟩ := ih (core.push frame)
    by_cases free : core.ring.size < core.ring.slots.length
    · exact ⟨ring, dropped, by rw [List.foldl_cons, same, push, dif_pos free]⟩
    · exact ⟨ring, dropped, by rw [List.foldl_cons, same, push, dif_neg free]⟩

theorem reset_keeps (keeps : Keeps capacity frames core) : Keeps capacity [] core.resetForStream where
  room := RingBuffer.capacity_clear.trans keeps.room
  holds := by
    rw [lastOf_short (Nat.zero_le _)]
    exact RingBuffer.clear_holds
  dropped := by simp [resetForStream]

end Buffer

section Stream

variable {capacity : Nat} {core : FrameWorkerCore} {batches : List RuntimeFrameBatch} (batch : RuntimeFrameBatch)

/-- The core stands behind these batches of one stream. -/
structure Follows (capacity : Nat) (stream : List RuntimeFrameBatch) (core : FrameWorkerCore) : Prop
    extends Keeps capacity (streamFrames stream) core where
  last : core.lastSequence = stream.getLast?.map RuntimeFrameBatch.lastSequence
  double : nearestNat core.sequenceGaps = core.sequenceGaps

/-- The core stands behind all batches it was given. -/
structure Sound (capacity : Nat) (batches : List RuntimeFrameBatch) (core : FrameWorkerCore) : Prop
    extends Follows capacity (currentStream batches) core where
  stream : core.streamId = batches.getLast?.map RuntimeFrameBatch.streamId

theorem countGap_gaps (follows : Follows capacity batches core) :
    (core.countGap batch).sequenceGaps = nearestNat (core.sequenceGaps + gapBefore batches batch) := by
  rw [countGap, gapBefore, follows.last]
  cases batches.getLast? with
  | none => exact follows.double.symm
  | some earlier =>
    simp only [Option.map_some, Option.getD_some, gapBetween]
    by_cases gap : earlier.lastSequence + 1 < batch.firstSequence
    · rw [if_pos gap]
      have counted : (if (maxSafeInteger : Int) < batch.firstSequence - earlier.lastSequence - 1 then maxSafeInteger
          else (batch.firstSequence - earlier.lastSequence - 1).toNat) =
          min (batch.firstSequence - earlier.lastSequence - 1).toNat maxSafeInteger := by
        split
        · omega
        · omega
      simp only [counted]
    · rw [if_neg gap]
      have none : (batch.firstSequence - earlier.lastSequence - 1).toNat = 0 := by omega
      rw [none, Nat.zero_min]
      exact follows.double.symm

private theorem countGap_others (core : FrameWorkerCore) :
    ∃ sequenceGaps, core.countGap batch = { core with sequenceGaps } := by
  rw [countGap]
  split
  · exact ⟨_, rfl⟩
  · split
    · exact ⟨_, rfl⟩
    · exact ⟨_, rfl⟩

/-- A batch joins the current stream, or the core begins anew. -/
theorem startBatch_joined (sound : Sound capacity batches core) :
    joined batches batch = currentStream batches ∧ core.startBatch batch = core ∨
      joined batches batch = [] ∧ core.startBatch batch = core.resetForStream := by
  rw [startBatch, sound.stream, joined]
  cases known : batches.getLast? with
  | none =>
    left
    rw [List.getLast?_eq_none_iff.mp known]
    simp [currentStream]
  | some last =>
    by_cases same : last.streamId = batch.streamId
    · simp [same]
    · simp [same]

private theorem startBatch_follows (sound : Sound capacity batches core) :
    Follows capacity (joined batches batch) (core.startBatch batch) := by
  rcases startBatch_joined batch sound with ⟨stream, same⟩ | ⟨stream, same⟩
  · rw [stream, same]
    exact sound.toFollows
  · rw [stream, same]
    exact { toKeeps := reset_keeps sound.toKeeps, last := rfl, double := nearestNat_small (Nat.zero_le _) }

theorem startBatch_gaps (sound : Sound capacity batches core)
    (exact_ : core.sequenceGaps = gapSum (currentStream batches)) :
    (core.startBatch batch).sequenceGaps = gapSum (joined batches batch) := by
  rcases startBatch_joined batch sound with ⟨stream, same⟩ | ⟨stream, same⟩
  · rw [stream, same]
    exact exact_
  · rw [stream, same]
    rfl

theorem takeBatch_gaps (sound : Sound capacity batches core) :
    (core.takeBatch batch).sequenceGaps =
      nearestNat ((core.startBatch batch).sequenceGaps + gapBefore (joined batches batch) batch) := by
  have follows := startBatch_follows batch sound
  have named : Follows capacity (joined batches batch)
      { core.startBatch batch with streamId := some batch.streamId } :=
    { room := follows.room, holds := follows.holds, dropped := follows.dropped, last := follows.last
      double := follows.double }
  obtain ⟨ring, dropped, same⟩ := pushes_others batch.frames
    (({ core.startBatch batch with streamId := some batch.streamId }).countGap batch)
  rw [takeBatch, same]
  exact countGap_gaps batch named

/-- One batch more, whatever its stream. -/
theorem takeBatch_sound (sound : Sound capacity batches core) :
    Sound capacity (batches ++ [batch]) (core.takeBatch batch) := by
  have gaps := takeBatch_gaps batch sound
  have follows := startBatch_follows batch sound
  obtain ⟨counted, same⟩ := countGap_others batch
    { core.startBatch batch with streamId := some batch.streamId }
  have keeps : Keeps capacity (streamFrames (joined batches batch))
      (({ core.startBatch batch with streamId := some batch.streamId }).countGap batch) := by
    rw [same]
    exact ⟨follows.room, follows.holds, follows.dropped⟩
  have pushed := pushes_keep batch.frames keeps
  obtain ⟨ring, dropped, others⟩ := pushes_others batch.frames
    (({ core.startBatch batch with streamId := some batch.streamId }).countGap batch)
  have frames : streamFrames (currentStream (batches ++ [batch])) =
      streamFrames (joined batches batch) ++ batch.frames := by
    rw [currentStream_concat, streamFrames_concat]
  constructor
  · constructor
    · rw [frames]
      exact ⟨pushed.room, pushed.holds, pushed.dropped⟩
    · rw [currentStream_last, List.getLast?_append, List.getLast?_singleton]
      rfl
    · rw [gaps]
      exact nearestNat_idem
  · rw [List.getLast?_append, List.getLast?_singleton, takeBatch, others, same]
    rfl

end Stream

section Runs

variable {decode : List UInt8 → Reading JsValue} {capacity : Nat} {core : FrameWorkerCore}
variable {batches : List RuntimeFrameBatch}

/-- A core, and the batches that its calls have brought so far. -/
structure Watched where
  core : FrameWorkerCore
  batches : List RuntimeFrameBatch

def watch (decode : List UInt8 → Reading JsValue) (state : Watched) (call : Call) : Option (Watched × Answer) :=
  some (⟨(state.core.perform decode call).1, state.batches ++ accepted decode call⟩,
    (state.core.perform decode call).2)

/-- What is shown of the frames of the stream, and counted beside them. -/
structure ShowsTail (capacity : Nat) (state : Watched) : Prop where
  frames : state.core.snapshot.frames = lastOf capacity (streamFrames (currentStream state.batches))
  dropped : state.core.snapshot.droppedViewFrames = (streamFrames (currentStream state.batches)).length -
    min capacity (streamFrames (currentStream state.batches)).length
  gaps : state.core.snapshot.sequenceGaps = gapSum (currentStream state.batches)

/-- The counts of a stream are doubles. -/
def Countable (capacity : Nat) (batches : List RuntimeFrameBatch) : Prop :=
  (streamFrames (currentStream batches)).length - capacity ≤ countLimit ∧
    nearestNat (gapSum (currentStream batches)) = gapSum (currentStream batches)

instance : Decidable (Countable capacity batches) := inferInstanceAs (Decidable (_ ∧ _))

theorem create_sound {length snapshotIntervalMs : JsNumber} (made : create length snapshotIntervalMs = .ok core) :
    Sound length.num.toNat [] core ∧ core.sequenceGaps = 0 := by
  have empty : (streamFrames (currentStream [])).length = 0 := rfl
  by_cases positive : length.den = 1 ∧ 0 < length.num.toNat
  · simp only [create, dif_pos positive, throwIf_bind] at made
    obtain ⟨_, _, made⟩ := made
    obtain rfl := Except.ok.inj made
    refine ⟨?_, rfl⟩
    constructor
    · constructor
      · have none : lastOf length.num.toNat (streamFrames (currentStream [])) = [] := lastOf_short (Nat.zero_le _)
        refine ⟨?_, ?_, ?_⟩
        · simp
        · rw [none]
          exact RingBuffer.empty_holds positive.2
        · rw [empty, Nat.zero_sub, Nat.zero_min]
      · rfl
      · exact nearestNat_small (Nat.zero_le _)
    · rfl
  · rw [create, dif_neg positive] at made
    cases made

theorem showsTail_iff (sound : Sound capacity batches core) : ShowsTail capacity ⟨core, batches⟩ ↔
    (streamFrames (currentStream batches)).length - capacity ≤ countLimit ∧
      core.sequenceGaps = gapSum (currentStream batches) := by
  have count : (streamFrames (currentStream batches)).length - min capacity
      (streamFrames (currentStream batches)).length = (streamFrames (currentStream batches)).length - capacity := by
    omega
  constructor
  · intro shows
    refine ⟨?_, shows.gaps⟩
    have dropped : core.droppedViewFrames = _ := shows.dropped
    rw [sound.dropped, count] at dropped
    exact min_eq_left_iff.mp dropped
  · intro ⟨counted, gaps⟩
    constructor
    · exact RingBuffer.toList_of_holds sound.holds
    · rw [count]
      exact sound.dropped.trans (Nat.min_eq_left counted)
    · exact gaps

theorem publish_core (core : FrameWorkerCore) (now : JsNumber) :
    ∃ lastSnapshotAt, (core.publish now).1 = { core with lastSnapshotAt } := by
  rw [publish]
  split
  · exact ⟨_, rfl⟩
  · split
    · exact ⟨_, rfl⟩
    · exact ⟨_, rfl⟩

theorem publish_snapshot {now : JsNumber} {shown : FrameViewportSnapshot}
    (published : (core.publish now).2 = some shown) : shown = (core.publish now).1.snapshot := by
  rw [publish] at published ⊢
  split at published
  · cases published
  · split at published
    · cases published
    · rename_i live due
      rw [if_neg live, if_neg due]
      exact (Option.some.inj published).symm

/-- The core behind the batches stands behind them whatever its clock and its freezing. -/
theorem Sound.untimed (sound : Sound capacity batches core) {frozen : Bool} {lastSnapshotAt : Option JsNumber}
    {lastDecodeMs : JsNumber} : Sound capacity batches { core with frozen, lastSnapshotAt, lastDecodeMs } where
  room := sound.room
  holds := sound.holds
  dropped := sound.dropped
  last := sound.last
  double := sound.double
  stream := sound.stream

theorem perform_sound (sound : Sound capacity batches core) (call : Call) :
    Sound capacity (batches ++ accepted decode call) (core.perform decode call).1 := by
  cases call with
  | ingest payload decodeStarted decoded now =>
    simp only [perform, ingest, accepted]
    cases DecodeFrameBatch.decodeFrameBatch decode payload with
    | error message => simpa using sound
    | ok batch =>
      obtain ⟨at_, same⟩ := publish_core
        (({ core with lastDecodeMs := binary64 (decoded - decodeStarted) }).takeBatch batch) now
      simp only [same]
      exact (takeBatch_sound batch sound.untimed).untimed
  | freeze =>
    rw [accepted, List.append_nil]
    exact sound.untimed
  | resume now =>
    rw [accepted, List.append_nil]
    exact sound.untimed
  | flush now =>
    rw [accepted, List.append_nil, perform, flush]
    split
    · exact sound
    · exact sound.untimed

/-- A counter that was exact has after a call what the exact one is rounded to. -/
theorem perform_gaps (sound : Sound capacity batches core) (exact_ : core.sequenceGaps = gapSum (currentStream batches))
    (call : Call) : (core.perform decode call).1.sequenceGaps =
      nearestNat (gapSum (currentStream (batches ++ accepted decode call))) := by
  have kept : core.sequenceGaps = nearestNat (gapSum (currentStream batches)) := by
    rw [← exact_]
    exact sound.double.symm
  cases call with
  | ingest payload decodeStarted decoded now =>
    simp only [perform, ingest, accepted]
    cases DecodeFrameBatch.decodeFrameBatch decode payload with
    | error message => simpa using kept
    | ok batch =>
      obtain ⟨at_, same⟩ := publish_core
        (({ core with lastDecodeMs := binary64 (decoded - decodeStarted) }).takeBatch batch) now
      have timed : Sound capacity batches { core with lastDecodeMs := binary64 (decoded - decodeStarted) } :=
        sound.untimed
      simp only [same]
      rw [currentStream_concat, gapSum_concat, takeBatch_gaps batch timed, startBatch_gaps batch timed exact_]
  | freeze =>
    rw [accepted, List.append_nil]
    exact kept
  | resume now =>
    rw [accepted, List.append_nil]
    exact kept
  | flush now =>
    rw [accepted, List.append_nil, perform, flush]
    split
    · exact kept
    · exact kept

/-- What a call shows is the view it leaves, and a call that throws leaves all as it was. -/
theorem watch_answer {before after : Watched} {call : Call} {answer : Answer}
    (moved : watch decode before call = some (after, answer)) :
    (∀ shown, answer = .returned (some shown) → shown = after.core.snapshot) ∧
      ∀ message, answer = .thrown message → after = before := by
  obtain ⟨rfl, rfl⟩ := Prod.mk.inj (Option.some.inj moved)
  cases call with
  | ingest payload decodeStarted decoded now =>
    simp only [perform, ingest, accepted]
    cases DecodeFrameBatch.decodeFrameBatch decode payload with
    | error message => simp
    | ok batch =>
      simp only [Answer.returned.injEq, reduceCtorEq, false_implies, implies_true, and_true]
      exact fun shown published => publish_snapshot published
  | freeze => simp [perform]
  | resume now => simp [perform, resume]
  | flush now =>
    simp only [perform, flush]
    split
    · simp
    · simp [eq_comm]

/-- The view is the tail of the stream throughout a run exactly if the counts are doubles after each of its calls.
Every snapshot is such a view, and a call that throws changes nothing. -/
theorem view_tail {length snapshotIntervalMs : JsNumber} {trace : List (Call × Answer)} {target : Watched}
    (made : create length snapshotIntervalMs = .ok core)
    (run : Path (watch decode) anyLabel ⟨core, []⟩ trace target) :
    (Throughout (watch decode) (ShowsTail length.num.toNat) ⟨core, []⟩ trace ↔
      Path (watch decode) (fun state call => Countable length.num.toNat (state.batches ++ accepted decode call))
        ⟨core, []⟩ trace target) ∧
    ∀ front call answer back, trace = front ++ (call, answer) :: back →
      ∃ before after, Path (watch decode) anyLabel ⟨core, []⟩ front before ∧
        watch decode before call = some (after, answer) ∧
        (∀ shown, answer = .returned (some shown) → shown = after.core.snapshot) ∧
        ∀ message, answer = .thrown message → after = before := by
  obtain ⟨created, untouched⟩ := create_sound made
  constructor
  · refine Path.throughout_iff (fun state => Sound length.num.toNat state.batches state.core) _
      created ?_ ?_ ?_ run
    · have empty : (streamFrames (currentStream [])).length = 0 := rfl
      rw [showsTail_iff created, empty, Nat.zero_sub]
      exact ⟨Nat.zero_le _, untouched⟩
    · intro state call next answer sound moved
      obtain ⟨rfl, rfl⟩ := Prod.mk.inj (Option.some.inj moved)
      exact perform_sound sound call
    · intro state call next answer sound shows moved
      obtain ⟨rfl, rfl⟩ := Prod.mk.inj (Option.some.inj moved)
      rw [showsTail_iff (perform_sound sound call), perform_gaps sound ((showsTail_iff sound).mp shows).2]
      rfl
  · rintro front call answer back rfl
    obtain ⟨before, after, prior, _, moved, _⟩ := run.at_label
    exact ⟨before, after, prior, moved, watch_answer moved⟩

end Runs

section Samples

def sampleFrameValue (sequence : Int) : JsValue :=
  .object [("sequence", .bigint sequence), ("channel_id", .string "ch"), ("arbitration_id", .number 1),
    ("is_extended", .boolean false), ("is_fd", .boolean false), ("bitrate_switch", .boolean false),
    ("error_state_indicator", .boolean false), ("dlc", .number 1), ("data", .bytes [0]), ("direction", .string "rx"),
    ("hardware_timestamp", .null), ("host_timestamp", .number 0), ("normalized_timestamp", .number 0),
    ("clock_domain", .string "host"), ("timestamp_quality", .string "host"), ("flags", .number 0)]

def sampleBatchValue (sequence : Int) : JsValue :=
  .object [("schema_version", .number 1), ("stream_id", .string "s"), ("first_sequence", .bigint sequence),
    ("last_sequence", .bigint sequence), ("frame_count", .number 1), ("frames", .array [sampleFrameValue sequence])]

/-- Three batches of one frame each, the last two far behind the one before. -/
def sampleDecode : List UInt8 → Reading JsValue
  | [0] => .ok (sampleBatchValue 0)
  | [1] => .ok (sampleBatchValue 0x20000000000000)
  | [2] => .ok (sampleBatchValue 0x20000000000003)
  | _ => .error "Unexpected end of input"

def sampleCore : FrameWorkerCore where
  ring := .empty 1 Nat.one_pos
  snapshotIntervalMs := 0
  frozen := false
  droppedViewFrames := 0
  sequenceGaps := 0
  lastSequence := none
  streamId := none
  lastSnapshotAt := none
  lastDecodeMs := 0

private theorem sampleCore_made : create 1 0 = .ok sampleCore := by decide +kernel

/-- What is seen of a state: the sequences shown, both counters, and the exact sum of the gaps. -/
def sampleSeen (state : Watched) : List Int × Nat × Nat × Nat :=
  (state.core.snapshot.frames.map RuntimeFrame.sequence, state.core.snapshot.droppedViewFrames,
    state.core.snapshot.sequenceGaps, gapSum (currentStream state.batches))

def countedAfter (state : Watched) (call : Call) : Prop :=
  Countable 1 (state.batches ++ accepted sampleDecode call)

instance {state : Watched} {call : Call} : Decidable (countedAfter state call) :=
  inferInstanceAs (Decidable (Countable _ _))

/-- After two of the batches the second frame is shown, the first dropped and the gap between them counted. -/
theorem view_tail_second : ∃ trace target, Path (watch sampleDecode) anyLabel ⟨sampleCore, []⟩ trace target ∧
    ShowsTail 1 target ∧ sampleSeen target = ([0x20000000000000], 1, maxSafeInteger, maxSafeInteger) := by
  have evaluated : (followWithin (watch sampleDecode) (fun state call => decide (countedAfter state call))
      ⟨sampleCore, []⟩ [.ingest [0] 0 0 0, .freeze, .ingest [1] 0 0 0, .ingest [9] 0 0 0, .resume 0]).map
      (fun reached => sampleSeen reached.1) =
        some ([0x20000000000000], 1, maxSafeInteger, maxSafeInteger) := by decide +kernel
  obtain ⟨trace, target, run, seen⟩ :=
    Path.observedWithin _ _ _ (fun _ _ passed => of_decide_eq_true passed) evaluated
  have tail := (view_tail sampleCore_made run.anyLabel).1.mpr run
  exact ⟨trace, target, run.anyLabel, tail trace [] target (List.append_nil trace).symm run.anyLabel, seen⟩

/-- The third batch makes the sum of the gaps one that is no double. -/
theorem sequenceGaps_rounded : ∃ trace target, Path (watch sampleDecode) anyLabel ⟨sampleCore, []⟩ trace target ∧
    ¬ ShowsTail 1 target := by
  have evaluated : (follow (watch sampleDecode) ⟨sampleCore, []⟩
      [.ingest [0] 0 0 0, .ingest [1] 0 0 0, .ingest [2] 0 0 0]).map (fun reached => sampleSeen reached.1) =
        some ([0x20000000000003], 2, 0x20000000000000, 0x20000000000001) := by decide +kernel
  obtain ⟨trace, target, run, seen⟩ := Path.observed _ _ _ (fun _ _ _ => trivial) evaluated
  refine ⟨trace, target, run, ?_⟩
  intro shows
  have gaps := shows.gaps
  simp only [sampleSeen, Prod.mk.injEq] at seen
  rw [seen.2.2.1, seen.2.2.2] at gaps
  exact absurd gaps (by decide)

/-- A batch behind the last one is shown, and counts as no gap. -/
example : (follow (watch sampleDecode) ⟨sampleCore, []⟩ [.ingest [1] 0 0 0, .ingest [0] 0 0 0]).map
    (fun reached => sampleSeen reached.1) = some ([0], 1, 0, 0) := by
  decide +kernel

end Samples

end CanX.Desktop.FrameWorkerCore
