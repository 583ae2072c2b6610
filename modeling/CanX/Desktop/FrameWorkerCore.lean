import CanX.Desktop.DecodeFrameBatch
import CanX.Numeric.Binary64
import CanX.Storage.RingBuffer
import CanX.Transition.Path
import Mathlib.Data.List.DropRight

/-! The core of the frame Worker: a circular buffer of the frames in view and the counters beside it. What its clock
reads is given with each call, as what the MessagePack decoder makes of the bytes is given to all of them. -/

namespace CanX.Desktop

open Numeric (binary64)
open Storage (RingBuffer lastOf)
open Transition

structure FrameWorkerCore where
  ring : RingBuffer RuntimeFrame
  snapshotIntervalMs : JsNumber
  frozen : Bool
  droppedViewFrames : Nat
  sequenceGaps : Nat
  lastSequence : Option Int
  streamId : Option String
  lastSnapshotAt : Option JsNumber
  lastDecodeMs : JsNumber
  deriving DecidableEq

namespace FrameWorkerCore

section Source

/-- The constructor. An array has no more than 2³² - 1 elements. -/
def create (capacity snapshotIntervalMs : JsNumber) : Reading FrameWorkerCore :=
  if positive : capacity.den = 1 ∧ 0 < capacity.num.toNat then do
    throwIf (snapshotIntervalMs < 0) "Snapshot interval must be non-negative"
    throwIf (0xFFFFFFFF < capacity.num.toNat) "Invalid array length"
    return { ring := .empty capacity.num.toNat positive.2, snapshotIntervalMs, frozen := false, droppedViewFrames := 0
             sequenceGaps := 0, lastSequence := none, streamId := none, lastSnapshotAt := none, lastDecodeMs := 0 }
  else .error "Frame worker capacity must be a positive integer"

/-- `#push`. A counter is a double. -/
def push (core : FrameWorkerCore) (frame : RuntimeFrame) : FrameWorkerCore :=
  if free : core.ring.size < core.ring.slots.length then { core with ring := core.ring.append frame free }
  else { core with ring := core.ring.overwrite frame, droppedViewFrames := nearestNat (core.droppedViewFrames + 1) }

/-- `#resetForStream`. -/
def resetForStream (core : FrameWorkerCore) : FrameWorkerCore :=
  { core with ring := core.ring.clear, droppedViewFrames := 0, sequenceGaps := 0, lastSequence := none
              lastSnapshotAt := none }

/-- `#snapshot`. -/
def snapshot (core : FrameWorkerCore) : FrameViewportSnapshot where
  frames := core.ring.toList
  droppedViewFrames := core.droppedViewFrames
  sequenceGaps := core.sequenceGaps
  streamId := core.streamId
  decodeMs := core.lastDecodeMs

def startBatch (core : FrameWorkerCore) (batch : RuntimeFrameBatch) : FrameWorkerCore :=
  if core.streamId ≠ none ∧ core.streamId ≠ some batch.streamId then core.resetForStream else core

def countGap (core : FrameWorkerCore) (batch : RuntimeFrameBatch) : FrameWorkerCore :=
  match core.lastSequence with
  | none => core
  | some lastSequence =>
    if lastSequence + 1 < batch.firstSequence then
      let gap := batch.firstSequence - lastSequence - 1
      let counted := if (maxSafeInteger : Int) < gap then maxSafeInteger else gap.toNat
      { core with sequenceGaps := nearestNat (core.sequenceGaps + counted) }
    else core

/-- `ingest`, from the change of stream to the frames and the last sequence. -/
def takeBatch (core : FrameWorkerCore) (batch : RuntimeFrameBatch) : FrameWorkerCore :=
  let core := ({ core.startBatch batch with streamId := some batch.streamId }).countGap batch
  { batch.frames.foldl push core with lastSequence := some batch.lastSequence }

/-- `ingest`, its end: whether a snapshot is due. -/
def publish (core : FrameWorkerCore) (now : JsNumber) : FrameWorkerCore × Option FrameViewportSnapshot :=
  if core.frozen then (core, none)
  else if core.lastSnapshotAt.any fun lastSnapshotAt => binary64 (now - lastSnapshotAt) < core.snapshotIntervalMs then
    (core, none)
  else
    let core := { core with lastSnapshotAt := some now }
    (core, some core.snapshot)

end Source

section Calls

/-- The calls, with what the clock reads in each. -/
inductive Call where
  | ingest (payload : List UInt8) (decodeStarted decoded now : JsNumber)
  | freeze
  | resume (now : JsNumber)
  | flush (now : JsNumber)

inductive Answer where
  | returned (snapshot : Option FrameViewportSnapshot)
  | thrown (message : String)
  deriving DecidableEq

variable (decode : List UInt8 → Reading JsValue)

def ingest (core : FrameWorkerCore) (payload : List UInt8) (decodeStarted decoded now : JsNumber) :
    FrameWorkerCore × Answer :=
  match DecodeFrameBatch.decodeFrameBatch decode payload with
  | .error message => (core, .thrown message)
  | .ok batch =>
    let core := ({ core with lastDecodeMs := binary64 (decoded - decodeStarted) }).takeBatch batch
    let (core, snapshot) := core.publish now
    (core, .returned snapshot)

def freeze (core : FrameWorkerCore) : FrameWorkerCore := { core with frozen := true }

def resume (core : FrameWorkerCore) (now : JsNumber) : FrameWorkerCore × FrameViewportSnapshot :=
  let core := { core with frozen := false, lastSnapshotAt := some now }
  (core, core.snapshot)

def flush (core : FrameWorkerCore) (now : JsNumber) : FrameWorkerCore × Option FrameViewportSnapshot :=
  if core.frozen then (core, none)
  else
    let core := { core with lastSnapshotAt := some now }
    (core, some core.snapshot)

def perform (core : FrameWorkerCore) : Call → FrameWorkerCore × Answer
  | .ingest payload decodeStarted decoded now => core.ingest decode payload decodeStarted decoded now
  | .freeze => (core.freeze, .returned none)
  | .resume now => ((core.resume now).1, .returned (some (core.resume now).2))
  | .flush now => ((core.flush now).1, .returned (core.flush now).2)

/-- The batch that a call brings, where its payload is a valid one. -/
def accepted : Call → List RuntimeFrameBatch
  | .ingest payload _ _ _ =>
    match DecodeFrameBatch.decodeFrameBatch decode payload with
    | .error _ => []
    | .ok batch => [batch]
  | .freeze => []
  | .resume _ => []
  | .flush _ => []

end Calls

section Stream

/-- The batches since the stream last changed. -/
def currentStream (batches : List RuntimeFrameBatch) : List RuntimeFrameBatch :=
  match batches.getLast? with
  | none => []
  | some last => batches.rtakeWhile fun batch => batch.streamId = last.streamId

def streamFrames (batches : List RuntimeFrameBatch) : List RuntimeFrame := batches.flatMap RuntimeFrameBatch.frames

/-- The sequences missing between two batches, as far as they are counted. -/
def gapBetween (earlier later : RuntimeFrameBatch) : Nat :=
  min (later.firstSequence - earlier.lastSequence - 1).toNat maxSafeInteger

def gapSum : List RuntimeFrameBatch → Nat
  | earlier :: later :: rest => gapBetween earlier later + gapSum (later :: rest)
  | _ => 0

variable {batches : List RuntimeFrameBatch} {batch : RuntimeFrameBatch}

/-- The gap before a batch that follows these. -/
def gapBefore (batches : List RuntimeFrameBatch) (batch : RuntimeFrameBatch) : Nat :=
  (batches.getLast?.map fun earlier => gapBetween earlier batch).getD 0

theorem gapSum_concat : gapSum (batches ++ [batch]) = gapSum batches + gapBefore batches batch := by
  induction batches with
  | nil => rfl
  | cons first rest ih =>
    cases rest with
    | nil => simp [gapSum, gapBefore]
    | cons second rest =>
      have last : gapBefore (first :: second :: rest) batch = gapBefore (second :: rest) batch := by
        rw [gapBefore, gapBefore, List.getLast?_cons_cons]
      rw [List.cons_append, List.cons_append, gapSum, gapSum, last, ← List.cons_append, ih, Nat.add_assoc]

theorem streamFrames_concat : streamFrames (batches ++ [batch]) = streamFrames batches ++ batch.frames := by
  rw [streamFrames, streamFrames, List.flatMap_append, List.flatMap_singleton]

/-- What a batch joins: nothing, where it is of another stream than the last one. -/
def joined (batches : List RuntimeFrameBatch) (batch : RuntimeFrameBatch) : List RuntimeFrameBatch :=
  if batches.getLast?.map RuntimeFrameBatch.streamId = some batch.streamId then currentStream batches else []

theorem currentStream_last : (currentStream batches).getLast? = batches.getLast? := by
  induction batches using List.reverseRecOn with
  | nil => rfl
  | append_singleton front last _ =>
    have kept : (front ++ [last]).rtakeWhile (fun batch => decide (batch.streamId = last.streamId)) =
        front.rtakeWhile (fun batch => decide (batch.streamId = last.streamId)) ++ [last] :=
      List.rtakeWhile_concat_pos _ _ _ (by simp)
    simp only [currentStream, List.getLast?_append, List.getLast?_singleton, Option.some_or, kept]

theorem currentStream_concat : currentStream (batches ++ [batch]) = joined batches batch ++ [batch] := by
  have kept : currentStream (batches ++ [batch]) =
      batches.rtakeWhile (fun other => decide (other.streamId = batch.streamId)) ++ [batch] := by
    simp only [currentStream, List.getLast?_append, List.getLast?_singleton, Option.some_or]
    exact List.rtakeWhile_concat_pos _ _ _ (by simp)
  rw [kept]
  congr 1
  induction batches using List.reverseRecOn with
  | nil => rfl
  | append_singleton front last _ =>
    by_cases same : last.streamId = batch.streamId
    · simp [joined, currentStream, same]
    · rw [List.rtakeWhile_concat_neg _ _ _ (by simpa using same)]
      simp [joined, same]

end Stream

end FrameWorkerCore

end CanX.Desktop
