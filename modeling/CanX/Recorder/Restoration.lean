import CanX.Recorder.MsgpackRecorder

/-! What a recording gives back: the chunks of the batches handed to the disk, in order, of which the decoder
restores those that the codec restores. -/

namespace CanX.Recorder

open Dbc Transport Transition Numeric Desktop

section Contents

variable {msgpack : MsgpackPackage} {trace : List (RecorderLabel × RecorderAnswer)}
variable {recorder next : MsgpackRecorder} {label : RecorderLabel} {answer : RecorderAnswer}

/-- The payload of a batch fits into a chunk. -/
def Packed (msgpack : MsgpackPackage) (batch : PyFrameBatch) (payload : Bytes) : Prop :=
  packBatch msgpack batch = some payload ∧ payload.length ≤ maxLength

def MsgpackRecorder.pending (recorder : MsgpackRecorder) : Bytes :=
  (recorder.writeTask.map ChunkWrite.chunk).getD []

/-- The file and the write under way hold the chunks of the batches. -/
def Holds (msgpack : MsgpackPackage) (batches : List PyFrameBatch) (recorder : MsgpackRecorder) : Prop :=
  ∃ payloads, List.Forall₂ (Packed msgpack) batches payloads ∧
    recorder.contents ++ recorder.pending = recordingMagic ++ payloads.flatMap chunkOf

/-- Short of a failure the file holds what was handed to the disk, and a stopped recorder has no write left. -/
structure Recorded (msgpack : MsgpackPackage) (trace : List (RecorderLabel × RecorderAnswer))
    (recorder : MsgpackRecorder) : Prop where
  held : recorder.state ≠ .failed → Holds msgpack (handed trace) recorder
  joined : recorder.state = .stopped → recorder.writeTask = none

theorem handed_snoc (trace : List (RecorderLabel × RecorderAnswer)) (label : RecorderLabel)
    (answer : RecorderAnswer) : handed (trace ++ [(label, answer)]) = handed trace ++ handed [(label, answer)] :=
  List.filterMap_append

theorem Holds.snoc {batches : List PyFrameBatch} {batch : PyFrameBatch} {payload : Bytes}
    (held : Holds msgpack batches recorder) (packed : Packed msgpack batch payload)
    (grown : next.contents ++ next.pending = recorder.contents ++ recorder.pending ++ chunkOf payload) :
    Holds msgpack (batches ++ [batch]) next := by
  obtain ⟨payloads, all, whole⟩ := held
  refine ⟨payloads ++ [payload], List.rel_append all (.cons packed .nil), ?_⟩
  rw [grown, whole, List.flatMap_append, List.flatMap_singleton, List.append_assoc]

theorem Recorded.failed (failed : recorder.state = .failed) : Recorded msgpack trace recorder where
  held := fun sound => absurd failed sound
  joined := fun stopped => by cases failed.symm.trans stopped

/-- A step that hands nothing to the disk keeps what the file and the write hold. -/
theorem Recorded.keep (recorded : Recorded msgpack trace recorder) (none_handed : handed [(label, answer)] = [])
    (same : next.contents ++ next.pending = recorder.contents ++ recorder.pending)
    (state : next.state ≠ .failed → recorder.state ≠ .failed)
    (joined : next.state = .stopped → next.writeTask = none) :
    Recorded msgpack (trace ++ [(label, answer)]) next := by
  refine ⟨fun sound => ?_, joined⟩
  obtain ⟨payloads, all, whole⟩ := recorded.held (state sound)
  rw [handed_snoc, none_handed, List.append_nil]
  exact ⟨payloads, all, same.trans whole⟩

/-- What `append` does: it raises and changes nothing, or begins the write of a chunk. -/
theorem append_cases {batch : PyFrameBatch} (appended : recorder.append msgpack batch = (next, answer)) :
    (∃ fault, answer = .raised fault ∧ next = recorder) ∨
      ∃ payload, Packed msgpack batch payload ∧ recorder.state = .recording ∧ answer = .begun ∧
        next = { recorder with writeTask := some ⟨batch, chunkOf payload, true⟩ } := by
  rw [MsgpackRecorder.append] at appended
  split at appended
  · cases appended
    exact .inl ⟨_, rfl, rfl⟩
  · rename_i running
    split at appended
    · cases appended
      exact .inl ⟨_, rfl, rfl⟩
    · split at appended
      · cases appended
        exact .inl ⟨_, rfl, rfl⟩
      · rename_i payload packed
        split at appended
        · cases appended
          exact .inl ⟨_, rfl, rfl⟩
        · rename_i short
          cases appended
          have recording : recorder.state = .recording := by simpa using (not_or.mp running).2
          exact .inr ⟨payload, ⟨packed, Nat.le_of_not_lt short⟩, recording, rfl, rfl⟩

/-- `stop` leaves the file and ends in a failure, in what it was, or stopped. -/
theorem stop_cases {flushed closed : Option String} (ended : recorder.stop flushed closed = (next, answer)) :
    answer ≠ .begun ∧ (next.state = .failed ∨
      next.contents = recorder.contents ∧ next.writeTask = recorder.writeTask ∧ recorder.state ≠ .failed) := by
  unfold MsgpackRecorder.stop at ended
  split at ended
  · cases ended
    refine ⟨by simp, ?_⟩
    by_cases failed : recorder.state = .failed
    · exact .inl failed
    · exact .inr ⟨rfl, rfl, failed⟩
  · cases closed with
    | some message =>
      cases ended
      exact ⟨by simp, .inl rfl⟩
    | none =>
      cases flushed with
      | some message =>
        cases ended
        exact ⟨by simp, .inl rfl⟩
      | none =>
        cases ended
        refine ⟨by simp, ?_⟩
        by_cases failed : recorder.state = .failed
        · exact .inl (if_pos failed)
        · exact .inr ⟨rfl, rfl, failed⟩

/-- One step keeps the file in order. -/
theorem Recorded.step (recorded : Recorded msgpack trace recorder)
    (moved : recorder.step msgpack label = some (next, answer)) :
    Recorded msgpack (trace ++ [(label, answer)]) next := by
  cases label with
  | append batch =>
    rw [MsgpackRecorder.step] at moved
    cases idle : recorder.writeTask with
    | some write =>
      rw [idle] at moved
      cases moved
    | none =>
      rw [idle] at moved
      rcases append_cases (Option.some.inj moved) with ⟨fault, rfl, rfl⟩ | ⟨payload, packed, recording, rfl, rfl⟩
      · exact recorded.keep rfl rfl id recorded.joined
      · refine ⟨fun sound => ?_, fun stopped => ?_⟩
        · rw [handed_snoc]
          refine (recorded.held sound).snoc packed ?_
          simp [MsgpackRecorder.pending, idle]
        · cases recording.symm.trans stopped
  | written =>
    obtain ⟨write, busy, after⟩ := Option.map_eq_some_iff.mp moved
    cases after
    refine recorded.keep rfl ?_ id fun _ => rfl
    simp [MsgpackRecorder.pending, busy]
  | writeFailed message partly =>
    obtain ⟨write, busy, after⟩ := Option.map_eq_some_iff.mp moved
    cases after
    exact .failed rfl
  | cancelled =>
    obtain ⟨write, busy, after⟩ := Option.map_eq_some_iff.mp moved
    cases after
    refine recorded.keep rfl ?_ id ?_
    · simp [MsgpackRecorder.pending, busy]
    · intro stopped
      cases busy.symm.trans (recorded.joined stopped)
  | fail failure =>
    cases moved
    exact .failed rfl
  | stop flushed closed =>
    rw [MsgpackRecorder.step] at moved
    cases idle : recorder.writeTask with
    | some write =>
      rw [idle] at moved
      cases moved
    | none =>
      rw [idle] at moved
      obtain ⟨quiet, failed | ⟨contents, write, sound⟩⟩ := stop_cases (Option.some.inj moved)
      · exact .failed failed
      · refine recorded.keep ?_ ?_ (fun _ => sound) fun _ => write.trans idle
        · simp [handed]
        · rw [MsgpackRecorder.pending, MsgpackRecorder.pending, contents, write]

end Contents

section Reading

variable {msgpack : MsgpackPackage} {batches : List PyFrameBatch} {payloads : List Bytes}

private theorem readPayload_ok {payload : Bytes} {read : PyFrameBatch} :
    readPayload msgpack payload = .ok read ↔ decodeBatch msgpack payload = some (.ok read) := by
  rw [readPayload]
  cases decodeBatch msgpack payload with
  | none => simp
  | some result => cases result <;> simp

/-- The batches come back, equal to what they were, exactly if each of them is restorable. -/
theorem readPayloads_restore (packed : List.Forall₂ (Packed msgpack) batches payloads)
    (faithful : ∀ batch ∈ batches, msgpack.Faithful (batchPayload batch)) :
    (∃ reads, payloads.mapM (readPayload msgpack) = .ok reads ∧ List.Forall₂ PyFrameBatch.Equal reads batches) ↔
      ∀ batch ∈ batches, batch.Restorable := by
  simp only [mapM_ok]
  induction packed with
  | nil => simp
  | @cons batch payload rest others here _ ih =>
    obtain ⟨faithfully, faithfuls⟩ := List.forall_mem_cons.mp faithful
    have first := decodeBatch_restores faithfully here.1
    rw [List.forall_mem_cons, ← first, ← ih faithfuls]
    constructor
    · rintro ⟨_, decoded, equal⟩
      obtain ⟨read, reads, equals, each, rfl⟩ := List.forall₂_cons_right_iff.mp equal
      obtain ⟨decodes, tail⟩ := List.forall₂_cons.mp decoded
      exact ⟨⟨read, readPayload_ok.mp decodes, equals⟩, reads, tail, each⟩
    · rintro ⟨⟨read, decodes, equals⟩, reads, tail, each⟩
      exact ⟨read :: reads, .cons (readPayload_ok.mpr decodes) tail, .cons equals each⟩

/-- A file of chunks is read chunk by chunk. -/
theorem readRecording_chunks (packed : List.Forall₂ (Packed msgpack) batches payloads) :
    readRecording msgpack (recordingMagic ++ payloads.flatMap chunkOf) = payloads.mapM (readPayload msgpack) := by
  have short : ∀ payload ∈ payloads, payload.length ≤ 0xFFFFFFFF := by
    induction packed with
    | nil => simp
    | cons here _ ih => exact List.forall_mem_cons.mpr ⟨here.2, ih⟩
  have magic : ¬ (recordingMagic ++ payloads.flatMap chunkOf).take 8 ≠ recordingMagic :=
    not_not_intro (List.take_left' rfl)
  have chunks : (recordingMagic ++ payloads.flatMap chunkOf).drop 8 = payloads.flatMap chunkOf :=
    List.drop_left' rfl
  rw [readRecording, if_neg magic, chunks, readChunks_chunks short]

end Reading

section Sessions

variable {msgpack : MsgpackPackage} {trace : List (RecorderLabel × RecorderAnswer)}
variable {idle started final : MsgpackRecorder} {path streamId : Text}

theorem Recorded.of_start (free : idle.writeTask = none)
    (begun : idle.start path streamId none = (started, none)) : Recorded msgpack [] started := by
  rw [MsgpackRecorder.start] at begun
  split at begun
  · cases begun
  · cases begun
    refine ⟨fun _ => ⟨[], .nil, ?_⟩, fun _ => free⟩
    simp [MsgpackRecorder.pending, free]

/-- What a session that stopped without a failure left in its file. -/
theorem stopped_contents (free : idle.writeTask = none) (begun : idle.start path streamId none = (started, none))
    (run : Path (MsgpackRecorder.step msgpack) anyLabel started trace final) (stopped : final.state = .stopped) :
    ∃ payloads, List.Forall₂ (Packed msgpack) (handed trace) payloads ∧
      final.contents = recordingMagic ++ payloads.flatMap chunkOf := by
  have recorded : Recorded msgpack trace final := run.preserves_trace (Recorded msgpack)
    (Recorded.of_start free begun) fun _ _ _ _ _ _ held _ moved => held.step moved
  have sound : final.state ≠ .failed := by
    intro failed
    cases stopped.symm.trans failed
  obtain ⟨payloads, packed, whole⟩ := recorded.held sound
  rw [MsgpackRecorder.pending, recorded.joined stopped, Option.map_none, Option.getD_none, List.append_nil] at whole
  exact ⟨payloads, packed, whole⟩

/-- A recording that stopped without a failure is read back, batch by batch, exactly if its batches are
restorable. -/
theorem readRecording_restores (free : idle.writeTask = none)
    (begun : idle.start path streamId none = (started, none))
    (run : Path (MsgpackRecorder.step msgpack) anyLabel started trace final) (stopped : final.state = .stopped)
    (faithful : ∀ batch ∈ handed trace, msgpack.Faithful (batchPayload batch)) :
    (∃ reads, readRecording msgpack final.contents = .ok reads ∧
      List.Forall₂ PyFrameBatch.Equal reads (handed trace)) ↔ ∀ batch ∈ handed trace, batch.Restorable := by
  obtain ⟨payloads, packed, whole⟩ := stopped_contents free begun run stopped
  rw [whole, readRecording_chunks packed]
  exact readPayloads_restore packed faithful

end Sessions

/-- A batch survives the codec, and the batches of a recording survive the file, exactly if they are restorable. -/
theorem batches_restored (msgpack : MsgpackPackage) :
    (∀ batch, msgpack.Faithful (batchPayload batch) → (RoundTrips msgpack batch ↔ batch.Restorable)) ∧
      ∀ (idle started final : MsgpackRecorder) (path streamId : Text) (trace : List (RecorderLabel × RecorderAnswer)),
        idle.writeTask = none → idle.start path streamId none = (started, none) →
        Path (MsgpackRecorder.step msgpack) anyLabel started trace final → final.state = .stopped →
        (∀ batch ∈ handed trace, msgpack.Faithful (batchPayload batch)) →
        ((∃ reads, readRecording msgpack final.contents = .ok reads ∧
          List.Forall₂ PyFrameBatch.Equal reads (handed trace)) ↔ ∀ batch ∈ handed trace, batch.Restorable) := by
  constructor
  · intro batch faithful
    exact roundTrips_exact faithful
  · intro idle started final path streamId trace free begun run stopped faithful
    exact readRecording_restores free begun run stopped faithful

section Sample

/-- The package, as far as one batch is concerned. -/
def samplePackage (batch : PyFrameBatch) (bytes : Bytes) : MsgpackPackage where
  packb _ := some bytes
  unpackb given := if given = bytes then some (batchPayload batch) else none

theorem samplePackage_faithful {batch : PyFrameBatch} (packable : Packable (batchPayload batch)) (bytes : Bytes) :
    (samplePackage batch bytes).Faithful (batchPayload batch) where
  packs := ⟨fun _ => packable, fun _ => rfl⟩
  unpacks given packed := by
    cases packed
    exact if_pos rfl

theorem one_word : 1 ≤ 0xFFFFFFFFFFFFFFFF := by decide

def secondBatch : PyFrameBatch := sampleBatch 1 one_word

def secondPackage : MsgpackPackage := samplePackage secondBatch (sampleBytes [1])

private theorem secondBatch_restorable : secondBatch.Restorable := by
  obtain ⟨named, names⟩ := sampleBatch_named 1 (by decide)
  have exactly : nearestDouble 1 = (1 : Int) ∧ nearestDouble 2 = (2 : Int) := by decide +kernel
  have words : (1 : Int) ≤ 0xFFFFFFFFFFFFFFFF ∧ (2 : Int) ≤ 0xFFFFFFFFFFFFFFFF := by decide
  refine ⟨named, (by decide : 1 ≤ maxLength), ?_⟩
  intro frame member
  obtain rfl := List.mem_singleton.mp member
  refine ⟨names, ?_, ⟨words.1, exactly.1⟩, words.2, exactly.2⟩
  rintro stamp ⟨⟩

def idleRecorder : MsgpackRecorder := ⟨.idle, 0, none, none, false, [], none⟩

/-- A session of one append. -/
theorem idleRecorder_records {msgpack : MsgpackPackage} {batch : PyFrameBatch} {payload : Bytes}
    (packed : Packed msgpack batch payload) :
    Path (MsgpackRecorder.step msgpack) anyLabel (idleRecorder.start (text "r") batch.streamId none).1
      [(.append batch, .begun), (.written, .returned), (.stop none none, .returned)]
      ⟨.stopped, batch.frameCount, none, some batch.streamId, false, recordingMagic ++ chunkOf payload, none⟩ := by
  have followed : follow (MsgpackRecorder.step msgpack) (idleRecorder.start (text "r") batch.streamId none).1
      [.append batch, .written, .stop none none] = some
        (⟨.stopped, batch.frameCount, none, some batch.streamId, false, recordingMagic ++ chunkOf payload, none⟩,
          [(.append batch, .begun), (.written, .returned), (.stop none none, .returned)]) := by
    simp [follow, MsgpackRecorder.step, MsgpackRecorder.append, MsgpackRecorder.start, MsgpackRecorder.stop,
      idleRecorder, packed.1, Nat.not_lt.mpr packed.2]
  exact .of_follow (fun _ _ _ => trivial) followed

theorem batches_restored_second : RoundTrips secondPackage secondBatch ∧
    ∃ final trace reads, Path (MsgpackRecorder.step secondPackage) anyLabel
      (idleRecorder.start (text "r") (text "s") none).1 trace final ∧ handed trace = [secondBatch] ∧
      readRecording secondPackage final.contents = .ok reads ∧ List.Forall₂ PyFrameBatch.Equal reads [secondBatch] := by
  have faithful := samplePackage_faithful (sampleBatch_packable 1 (by decide)) (sampleBytes [1])
  obtain ⟨codec, file⟩ := batches_restored secondPackage
  refine ⟨(codec secondBatch faithful).mpr secondBatch_restorable, ?_⟩
  have packed : Packed secondPackage secondBatch (sampleBytes [1]) := ⟨rfl, by decide +kernel⟩
  have run := idleRecorder_records packed
  have only : ∀ batch ∈ [secondBatch], secondPackage.Faithful (batchPayload batch) := by
    intro batch member
    obtain rfl := List.mem_singleton.mp member
    exact faithful
  have restorable : ∀ batch ∈ [secondBatch], batch.Restorable := by
    intro batch member
    obtain rfl := List.mem_singleton.mp member
    exact secondBatch_restorable
  obtain ⟨reads, read, equal⟩ :=
    (file idleRecorder _ _ (text "r") (text "s") _ rfl rfl run rfl only).mpr restorable
  exact ⟨_, _, reads, run, rfl, read, equal⟩

theorem stamped_seconds : ∀ stamp ∈ some (PyNumber.int 3), stamp.Finite ∧ 0 ≤ stamp.value := by
  intro stamp held
  cases held
  exact ⟨PyNumber.finite_of_word (by decide), by decide⟩

/-- The sample frame with a hardware timestamp of three seconds, as an int. -/
def stampedFrame : PyFrame :=
  { sampleFrame 1 one_word with
    hardwareTimestamp := some (.int 3)
    hardware_seconds := stamped_seconds }

theorem stamped_named : text "s" ≠ [] := by decide

def stampedBatch : PyFrameBatch where
  streamId := text "s"
  frames := [stampedFrame]
  stream_named := stamped_named
  nonempty := by simp
  contiguous := rfl

/-- The bytes of the sample batch, whose one nil is a three here. -/
def stampedBytes : Bytes := (sampleBytes [1]).map fun byte => if byte = 0xC0 then 3 else byte

private theorem stampedBatch_packable : Packable (batchPayload stampedBatch) := by
  obtain ⟨named, names⟩ := sampleBatch_named 1 (by decide)
  refine packable_batch named (by decide : 1 ≤ maxLength) ?_
  intro frame member
  obtain rfl := List.mem_singleton.mp member
  refine packable_frame names (.int (by decide) (by decide)) (.int (by decide) (by decide)) ?_
  rintro stamp ⟨⟩
  exact .int (by decide) (by decide)

/-- The domain accepts the frame, the codec packs it, and the codec refuses what it packed. -/
theorem stampedBatch_refused : ∃ (msgpack : MsgpackPackage) (bytes : Bytes),
    msgpack.Faithful (batchPayload stampedBatch) ∧ packBatch msgpack stampedBatch = some bytes ∧
      decodeBatch msgpack bytes = some (.error (.value "hardware_timestamp must be a float or null")) := by
  have faithful := samplePackage_faithful stampedBatch_packable stampedBytes
  refine ⟨_, _, faithful, rfl, ?_⟩
  rw [decodeBatch, faithful.unpacks _ rfl]
  rfl

end Sample

end CanX.Recorder
