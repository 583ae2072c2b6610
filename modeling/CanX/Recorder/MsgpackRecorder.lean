import CanX.Numeric.Framing
import CanX.Recorder.ProjectRecorder
import CanX.Transport.RoundTrip

/-! `MsgpackRecorder`: batches appended to a file chunk by chunk, and `read_recording`. The disk thread of an
append runs on when the caller of the append is cancelled. -/

namespace CanX.Recorder

open Dbc Transport Transition Numeric

section Objects

/-- `RecorderFailure`, with its context. -/
structure ChunkFailure extends RecorderFailure where
  context : List (String × PyValue)

/-- The write of a chunk in its thread; `awaited` is whether `append` still waits for it. -/
structure ChunkWrite where
  batch : PyFrameBatch
  chunk : Bytes
  awaited : Bool

/-- `fileOpen` is whether `_file` is set, and `contents` what is in the file at its path. -/
structure MsgpackRecorder where
  state : RecorderState
  recordedFrames : Nat
  failure : Option ChunkFailure
  streamId : Option Text
  fileOpen : Bool
  contents : Bytes
  writeTask : Option ChunkWrite

inductive RecorderFault where
  | runtime (message : String)
  | value (message : String)
  | packing
  | tooLong
  | disk (message : String)
  deriving DecidableEq

def recordingMagic : Bytes := [0x43, 0x41, 0x4E, 0x58, 0x4D, 0x53, 0x47, 0x31]

namespace MsgpackRecorder

/-- Retain the first diagnostic. -/
def fail (failure : ChunkFailure) (recorder : MsgpackRecorder) : MsgpackRecorder :=
  { recorder with failure := recorder.failure.or (some failure), state := .failed }

/-- `start`. `refused` is what opening the file, or writing to it, raised. -/
def start (path streamId : Text) (refused : Option String) (recorder : MsgpackRecorder) :
    MsgpackRecorder × Option RecorderFault :=
  if recorder.state = .recording then (recorder, some (.runtime "recorder is already running"))
  else
    match refused with
    | some message =>
      (recorder.fail ⟨⟨"recorder.open_failed", message, false⟩, [("path", .str path), ("stream_id", .str streamId)]⟩,
        some (.disk message))
    | none =>
      ({ recorder with
          fileOpen := true, contents := recordingMagic, streamId := some streamId, recordedFrames := 0, failure := none
          state := .recording }, none)

end MsgpackRecorder

end Objects

section Steps

/-- `cancelled` is a cancellation of the caller of `append`; `flushed` and `closed` are what `stop` is told. -/
inductive RecorderLabel where
  | append (batch : PyFrameBatch)
  | written
  | writeFailed (message : String) (partly : Bytes)
  | cancelled
  | fail (failure : ChunkFailure)
  | stop (flushed closed : Option String)

inductive RecorderAnswer where
  | begun
  | returned
  | raised (fault : RecorderFault)
  deriving DecidableEq

namespace MsgpackRecorder

/-- `append`, up to its write. -/
def append (msgpack : MsgpackPackage) (batch : PyFrameBatch) (recorder : MsgpackRecorder) :
    MsgpackRecorder × RecorderAnswer :=
  if recorder.fileOpen = false ∨ recorder.state ≠ .recording then
    (recorder, .raised (.runtime "recorder is not running"))
  else if some batch.streamId ≠ recorder.streamId then
    (recorder, .raised (.value "batch stream_id differs from recorder session"))
  else
    match packBatch msgpack batch with
    | none => (recorder, .raised .packing)
    | some payload =>
      if maxLength < payload.length then (recorder, .raised .tooLong)
      else ({ recorder with writeTask := some ⟨batch, chunkOf payload, true⟩ }, .begun)

def writeFailure (message : String) (batch : PyFrameBatch) : ChunkFailure :=
  ⟨⟨"recorder.write_failed", message, false⟩,
    [("stream_id", .str batch.streamId), ("first_sequence", .int batch.firstSequence),
      ("last_sequence", .int batch.lastSequence), ("frame_count", .int batch.frameCount)]⟩

def flushFailure (message : String) (context : List (String × PyValue)) (recorder : MsgpackRecorder) : ChunkFailure :=
  ⟨⟨"recorder.flush_failed", message, false⟩,
    ("stream_id", (recorder.streamId.map PyValue.str).getD .none) :: context⟩

/-- `stop`, once no write is left to join. -/
def stop (flushed closed : Option String) (recorder : MsgpackRecorder) : MsgpackRecorder × RecorderAnswer :=
  if recorder.fileOpen = false then (recorder, .returned)
  else
    let flushing := match flushed with
      | some message => recorder.fail (recorder.flushFailure message [])
      | none => recorder
    match closed, flushed with
    | some message, _ =>
      ({ flushing.fail (recorder.flushFailure message [("operation", .str (text "close"))]) with fileOpen := false },
        .raised (.disk message))
    | none, some message => ({ flushing with fileOpen := false }, .raised (.disk message))
    | none, none =>
      ({ recorder with fileOpen := false, state := if recorder.state = .failed then .failed else .stopped }, .returned)

/-- One append is under way at a time, and `stop` joins its write. -/
def step (msgpack : MsgpackPackage) (recorder : MsgpackRecorder) :
    RecorderLabel → Option (MsgpackRecorder × RecorderAnswer)
  | .append batch =>
    match recorder.writeTask with
    | some _ => none
    | none => some (recorder.append msgpack batch)
  | .written =>
    recorder.writeTask.map fun write =>
      ({ recorder with
          contents := recorder.contents ++ write.chunk, writeTask := none
          recordedFrames := recorder.recordedFrames + if write.awaited then write.batch.frameCount else 0 }, .returned)
  | .writeFailed message partly =>
    recorder.writeTask.map fun write =>
      ({ recorder.fail (writeFailure message write.batch) with
          contents := recorder.contents ++ partly, writeTask := none }, .raised (.disk message))
  | .cancelled =>
    recorder.writeTask.map fun write =>
      ({ recorder with writeTask := some { write with awaited := false } }, .returned)
  | .fail failure => some (recorder.fail failure, .returned)
  | .stop flushed closed =>
    match recorder.writeTask with
    | some _ => none
    | none => some (recorder.stop flushed closed)

end MsgpackRecorder

/-- The batches handed to the disk, in order. -/
def handed (trace : List (RecorderLabel × RecorderAnswer)) : List PyFrameBatch :=
  trace.filterMap fun
    | (.append batch, .begun) => some batch
    | _ => none

end Steps

section Reading

inductive RecordingFault where
  | value (message : String)
  | unpacking
  | batch (fault : PyFault)
  deriving DecidableEq

def readPayload (msgpack : MsgpackPackage) (payload : Bytes) : Except RecordingFault PyFrameBatch :=
  match decodeBatch msgpack payload with
  | none => .error .unpacking
  | some (.error fault) => .error (.batch fault)
  | some (.ok batch) => .ok batch

def readRecording (msgpack : MsgpackPackage) (contents : Bytes) : Except RecordingFault (List PyFrameBatch) :=
  if contents.take 8 ≠ recordingMagic then .error (.value "recording magic is invalid")
  else readChunks (readPayload msgpack) (.value "recording chunk prefix is truncated")
    (.value "recording chunk is truncated") (contents.drop 8)

end Reading

end CanX.Recorder
