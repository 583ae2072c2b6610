import CanX.Capture.Pipeline
import CanX.Data.Writer
import Mathlib.Data.List.Chain

/-! What the normaliser makes of a device's clock, and what the writer of a session makes of that. -/

namespace CanX.Capture

open Domain Data Numeric

section Streams

/-- The frames that a normaliser returns, until it raises. -/
def TimestampNormalizer.normalizeAll (normalizer : TimestampNormalizer) : List Frame → List Frame
  | [] => []
  | frame :: rest =>
    match normalizer.normalize frame with
    | none => []
    | some (normalized, later) => normalized :: later.normalizeAll rest

/-- A capture numbers its frames from a new normaliser. -/
def captured (frames : List Frame) : List Frame := TimestampNormalizer.normalizeAll ⟨none, 0⟩ frames

/-- `append` of each batch in turn, as far as its checks of the batch go. -/
def admitsAll (writer : Writer) : List FrameBatch → Except DataError Unit
  | [] => .ok ()
  | batch :: rest => do
    writer.admits batch
    admitsAll (writer.extended batch) rest

/-- A writer that has appended nothing. -/
def Fresh (writer : Writer) : Prop := writer.lastAppendedSequence = none ∧ writer.lastAppendedTimestamp = none

/-- Normalised frames are numbered from zero and in time order, so a writer of their stream admits any batches cut
from them in order. -/
structure ClockBlind (frames : List Frame) : Prop where
  numbered : (captured frames).map Frame.sequence = List.range (captured frames).length
  nonnegative : ∀ frame ∈ captured frames, 0 ≤ frame.normalizedTimestamp
  ordered : (captured frames).Pairwise fun earlier later => earlier.normalizedTimestamp ≤ later.normalizedTimestamp
  admitted : ∀ writer batches, Fresh writer → (∀ batch ∈ batches, batch.streamId = writer.session.streamId) →
    batches.flatMap FrameBatch.frames <+: captured frames → admitsAll writer batches = .ok ()

/-- After the first frame, the host clock steps back from no time that lies behind the first frame's. The difference
of two times is that of floats, and a stream has at most as many frames as there are sequences. -/
def Steady : List Frame → Prop
  | [] => True
  | first :: rest => ((first :: rest).take (maxSequence + 1)).IsChain fun earlier later =>
      since first.hostTimestamp earlier.hostTimestamp ≤ 0 ∨
        since first.hostTimestamp earlier.hostTimestamp ≤ since first.hostTimestamp later.hostTimestamp

end Streams

section Normalised

variable {frames : List Frame} {frame : Frame} {first : Seconds} {next : Nat}

theorem normalizeAll_numbered (normalizer : TimestampNormalizer) (frames : List Frame) :
    (normalizer.normalizeAll frames).map Frame.sequence =
      List.range' normalizer.nextSequence (normalizer.normalizeAll frames).length := by
  induction frames generalizing normalizer with
  | nil => rfl
  | cons frame rest ih =>
    rw [TimestampNormalizer.normalizeAll]
    cases moved : normalizer.normalize frame with
    | none => rfl
    | some result =>
      obtain ⟨normalized, later⟩ := result
      obtain ⟨sequence, follows⟩ := normalize_numbers moved
      rw [List.map_cons, sequence, ih later, follows, List.length_cons, List.range'_succ]

private theorem normalize_known (first : Seconds) (frame : Frame) (within : next ≤ maxSequence) :
    ∃ normalized,
      (⟨some first, next⟩ : TimestampNormalizer).normalize frame = some (normalized, ⟨some first, next + 1⟩) ∧
      normalized.normalizedTimestamp = max 0 (since first frame.hostTimestamp) := by
  rw [TimestampNormalizer.normalize, dif_pos within]
  exact ⟨_, rfl, rfl⟩

/-- Once its origin is known, a normaliser stamps every frame it can number with the time since then. -/
theorem normalizeAll_stamps : ((⟨some first, next⟩ : TimestampNormalizer).normalizeAll frames).map
      Frame.normalizedTimestamp =
    (frames.take (maxSequence + 1 - next)).map fun frame => max 0 (since first frame.hostTimestamp) := by
  induction frames generalizing next with
  | nil =>
    rw [List.take_nil]
    rfl
  | cons frame rest ih =>
    rw [TimestampNormalizer.normalizeAll]
    by_cases within : next ≤ maxSequence
    · have room : maxSequence + 1 - next = maxSequence + 1 - (next + 1) + 1 := by omega
      obtain ⟨normalized, moved, stamp⟩ := normalize_known first frame within
      rw [moved, room, List.take_succ_cons, List.map_cons, List.map_cons, ← ih, stamp]
    · have full : maxSequence + 1 - next = 0 := by omega
      have refused : (⟨some first, next⟩ : TimestampNormalizer).normalize frame = none := by
        rw [TimestampNormalizer.normalize, dif_neg within]
      rw [refused, full, List.take_zero]
      rfl

/-- The first frame of a capture is its origin. -/
theorem captured_stamps {rest : List Frame} : (captured (frame :: rest)).map Frame.normalizedTimestamp =
    ((frame :: rest).take (maxSequence + 1)).map fun other => max 0 (since frame.hostTimestamp other.hostTimestamp) := by
  have origin : captured (frame :: rest) =
      (⟨some frame.hostTimestamp, 0⟩ : TimestampNormalizer).normalizeAll (frame :: rest) := rfl
  rw [origin, normalizeAll_stamps, Nat.sub_zero]

private theorem max_zero_le {earlier later : Seconds} : max 0 earlier ≤ max 0 later ↔ earlier ≤ 0 ∨ earlier ≤ later := by
  constructor
  · intro below
    by_cases past : earlier ≤ 0
    · exact .inl past
    · right
      have least := (le_max_right 0 earlier).trans below
      rcases le_max_iff.mp least with zero | above
      · exact absurd zero past
      · exact above
  · rintro (past | above)
    · rw [max_eq_left past]
      exact le_max_left 0 later
    · exact max_le_max_left 0 above

/-- The normalised frames are in time order exactly if the host clock is steady. -/
theorem captured_ordered : ((captured frames).Pairwise fun earlier later =>
    earlier.normalizedTimestamp ≤ later.normalizedTimestamp) ↔ Steady frames := by
  rw [← List.pairwise_map, ← List.isChain_iff_pairwise]
  cases frames with
  | nil => exact iff_of_true .nil trivial
  | cons frame rest =>
    rw [captured_stamps, List.isChain_map]
    simp only [max_zero_le]
    exact Iff.rfl

end Normalised

section Writers

variable {writer : Writer} {batches : List FrameBatch} {frames : List Frame}

/-- The frames continue what a writer has appended, in sequence and in time. -/
def Continues (writer : Writer) (frames : List Frame) : Prop :=
  (∀ previous ∈ writer.lastAppendedSequence, ∀ frame ∈ frames.head?, frame.sequence = previous + 1) ∧
    ∀ previous ∈ writer.lastAppendedTimestamp, ∀ frame ∈ frames.head?, previous ≤ frame.normalizedTimestamp

private theorem descends_ordered (ordered : frames.Pairwise fun earlier later =>
    earlier.normalizedTimestamp ≤ later.normalizedTimestamp) : descends frames = false := by
  induction frames with
  | nil => rfl
  | cons first rest ih =>
    obtain ⟨ahead, tail⟩ := List.pairwise_cons.mp ordered
    cases rest with
    | nil => rfl
    | cons second rest =>
      have next := ahead second List.mem_cons_self
      rw [descends, ih tail, Bool.or_false]
      exact decide_eq_false (not_lt.mpr next)

/-- The checks of a batch, from what the writer has appended and from the batch itself. -/
theorem admits_ok {batch : FrameBatch} (own : batch.streamId = writer.session.streamId)
    (ordered : batch.frames.Pairwise fun earlier later => earlier.normalizedTimestamp ≤ later.normalizedTimestamp)
    (continues : Continues writer batch.frames) : writer.admits batch = .ok () := by
  have head : batch.frames.head? = some batch.firstFrame := List.head?_eq_some_head batch.nonempty
  have contiguous : requireContiguousSequence writer batch = .ok () := by
    rw [requireContiguousSequence]
    cases last : writer.lastAppendedSequence with
    | none => rfl
    | some previous =>
      have follows : batch.firstSequence = previous + 1 := continues.1 previous last _ head
      exact refuseIf_ok.mpr (not_not_intro follows)
  have timed : requireOrderedTimestamps writer batch = .ok () := by
    rw [requireOrderedTimestamps, refuseIf_ok.mpr (by simp [descends_ordered ordered])]
    cases last : writer.lastAppendedTimestamp with
    | none => rfl
    | some previous =>
      have after : previous ≤ batch.firstFrame.normalizedTimestamp := continues.2 previous last _ head
      exact refuseIf_ok.mpr (not_lt.mpr after)
  rw [Writer.admits, refuseIf_ok.mpr (not_not_intro own), contiguous, timed]
  rfl

private theorem head_range {frame : Frame} {start : Nat}
    (numbered : frames.map Frame.sequence = List.range' start frames.length) (first : frame ∈ frames.head?) :
    frame.sequence = start := by
  cases frames with
  | nil => cases first
  | cons head rest =>
    cases first
    rw [List.map_cons, List.length_cons, List.range'_succ] at numbered
    exact (List.cons.inj numbered).1

/-- The frame behind a numbered batch has the next sequence. -/
theorem follows_batch {batch : FrameBatch} {frame : Frame} {start : Nat}
    (numbered : batch.frames.map Frame.sequence = List.range' start batch.frames.length)
    (continued : frames.map Frame.sequence = List.range' (start + batch.frames.length) frames.length)
    (first : frame ∈ frames.head?) : frame.sequence = batch.lastSequence + 1 := by
  have begun : batch.firstSequence = start := head_range numbered (List.head?_eq_some_head batch.nonempty)
  have counted := batch.frameCount_pos
  rw [head_range continued first, batch.lastSequence_eq, begun]
  change start + batch.frameCount = _
  omega

/-- Frames that are numbered and timed in order are admitted batch by batch. -/
theorem admitsAll_ok {start : Nat} (own : ∀ batch ∈ batches, batch.streamId = writer.session.streamId)
    (numbered : (batches.flatMap FrameBatch.frames).map Frame.sequence =
      List.range' start (batches.flatMap FrameBatch.frames).length)
    (ordered : (batches.flatMap FrameBatch.frames).Pairwise fun earlier later =>
      earlier.normalizedTimestamp ≤ later.normalizedTimestamp)
    (continues : Continues writer (batches.flatMap FrameBatch.frames)) : admitsAll writer batches = .ok () := by
  induction batches generalizing writer start with
  | nil => rfl
  | cons batch rest ih =>
    obtain ⟨here, there⟩ := List.forall_mem_cons.mp own
    rw [List.flatMap_cons] at numbered ordered continues
    obtain ⟨inside, later, across⟩ := List.pairwise_append.mp ordered
    have head : (batch.frames ++ rest.flatMap FrameBatch.frames).head? = batch.frames.head? :=
      List.head?_append_of_ne_nil _ batch.nonempty
    have admitted := admits_ok here inside (by rwa [Continues, head] at continues)
    rw [List.map_append, List.length_append, ← List.range'_append_1] at numbered
    obtain ⟨own_, others⟩ := List.append_inj numbered (by simp)
    have continued : Continues (writer.extended batch) (rest.flatMap FrameBatch.frames) := by
      refine ⟨?_, ?_⟩
      · rintro previous ⟨⟩ frame first
        exact follows_batch own_ others first
      · rintro previous ⟨⟩ frame first
        exact across _ (List.getLast_mem batch.nonempty) _ (List.mem_of_head? first)
    rw [admitsAll, admitted]
    exact ih there others later continued

end Writers

section Clocks

variable {frames : List Frame}

/-- A clock that never steps back is steady. -/
theorem Steady.of_ascending
    (ascending : frames.Pairwise fun earlier later => earlier.hostTimestamp ≤ later.hostTimestamp) : Steady frames := by
  cases frames with
  | nil => trivial
  | cons first rest =>
    have since_first : ∀ frame ∈ first :: rest, first.hostTimestamp ≤ frame.hostTimestamp := by
      intro frame member
      rcases List.mem_cons.mp member with rfl | later
      · exact le_rfl
      · exact (List.pairwise_cons.mp ascending).1 frame later
    have taken := ascending.sublist (List.take_sublist (maxSequence + 1) (first :: rest))
    refine List.Pairwise.isChain (taken.imp_of_mem ?_)
    intro earlier later member _ before
    right
    have inside := since_first earlier (List.mem_of_mem_take member)
    exact binary64_mono (sub_nonneg.mpr inside) (sub_le_sub_right before _)

/-- Normalised frames are accepted exactly if the clock of their device is steady. -/
theorem clockBlind_iff (frames : List Frame) : ClockBlind frames ↔ Steady frames := by
  constructor
  · intro blind
    exact captured_ordered.mp blind.ordered
  · intro steady
    have ordered := captured_ordered.mpr steady
    have numbered : (captured frames).map Frame.sequence = List.range' 0 (captured frames).length :=
      normalizeAll_numbered ⟨none, 0⟩ frames
    refine ⟨?_, ?_, ordered, ?_⟩
    · rw [numbered, List.range_eq_range']
    · intro frame _
      exact frame.normalized_nonnegative
    · intro writer batches fresh own cut
      obtain ⟨rest, whole⟩ := cut
      rw [← whole] at numbered ordered
      rw [List.map_append, List.length_append, ← List.range'_append_1] at numbered
      obtain ⟨begun, _⟩ := List.append_inj numbered (by simp)
      refine admitsAll_ok own begun (List.pairwise_append.mp ordered).1 ?_
      simp [Continues, fresh.1, fresh.2]

end Clocks

section Sample

/-- A frame received at the given time. -/
def receivedAt (hostTimestamp : Nat) : Frame :=
  { Data.sampleFrame 0 (Nat.zero_le _) with
    hostTimestamp := (hostTimestamp : Int)
    host_nonnegative := Rat.intCast_nonneg.mpr (Int.natCast_nonneg _) }

/-- A clock that steps from two seconds after its origin back to one second after it. -/
def steppingBack : List Frame := [receivedAt 10, receivedAt 12, receivedAt 11]

theorem steppingBack_captured : captured steppingBack ≠ [] ∧
    (captured steppingBack).map Frame.sequence = [0, 1, 2] ∧
    (captured steppingBack).map Frame.normalizedTimestamp = [0, 2, 1] := by
  decide +kernel

/-- The frames of the capture, as the one batch they make. -/
def steppingBatch : FrameBatch where
  streamId := "stream"
  frames := captured steppingBack
  stream_named := by simp
  nonempty := steppingBack_captured.1
  contiguous := by decide +kernel

/-- The domain accepts the frames and the batch; the writer of a new session refuses it. -/
theorem steppingBack_refused : ¬ ClockBlind steppingBack ∧
    admitsAll (initialWriter Data.sampleSession 1 Nat.one_pos) [steppingBatch] =
      .error (timestampRegression "The batch timestamps are not in order.") := by
  have refused : admitsAll (initialWriter Data.sampleSession 1 Nat.one_pos) [steppingBatch] =
      .error (timestampRegression "The batch timestamps are not in order.") := by
    have descending : descends (captured steppingBack) = true := by decide +kernel
    have disordered : requireOrderedTimestamps (initialWriter Data.sampleSession 1 Nat.one_pos) steppingBatch =
        .error (timestampRegression "The batch timestamps are not in order.") := by
      rw [requireOrderedTimestamps, refuseIf, if_pos (show descends steppingBatch.frames = true from descending)]
      rfl
    rw [admitsAll, Writer.admits, disordered]
    rfl
  refine ⟨?_, refused⟩
  intro blind
  have admitted := blind.admitted (initialWriter Data.sampleSession 1 Nat.one_pos) [steppingBatch] ⟨rfl, rfl⟩
    (by simp [steppingBatch, initialWriter, Data.sampleSession, initialSession])
    (by rw [List.flatMap_singleton]; exact List.prefix_rfl)
  cases refused.symm.trans admitted

end Sample

end CanX.Capture
