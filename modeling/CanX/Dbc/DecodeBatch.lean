import CanX.Dbc.Decode
import CanX.Dbc.FrameDecode

/-! The decoder over whole requests: a table of plans compiled once, and one outcome for each frame of a batch or a
work set. -/

namespace CanX.Dbc

open Domain

section Decoder

/-- A compiled message, or the reason it cannot be decoded. -/
structure DecodePlan where
  message : DbcMessage
  compiled : Except String (MessagePlan message)

/-- `DbcDecoder`: its plans by identifier and extension. -/
structure DbcDecoder where
  plans : List ((Nat × Bool) × DecodePlan)

variable (scaling : Scaling)

/-- `_MessagePlan.decode`. -/
def DecodePlan.decode (plan : DecodePlan) (frame : Frame) : Except DbcDecodeFailure DecodedFrame :=
  match plan.compiled with
  | .error reason => .error (decodeUnsupported plan.message reason)
  | .ok recipes =>
    if frame.data.length < plan.message.length then .error (payloadTooShort frame plan.message)
    else match decodeSignals scaling plan.message frame.data (recipes.active frame.data) with
      | .error failure => .error failure
      | .ok signals => .ok ⟨frame, plan.message.name, signals, plan.message.named, by
          rw [signals.property]
          exact recipes.active_unique frame.data⟩

namespace DbcDecoder

def create (database : DbcDatabase) : DbcDecoder where
  plans := database.messages.map fun message =>
    ((message.frameId, message.isExtended), ⟨message, compileMessage message⟩)

def plan (decoder : DbcDecoder) (frame : Frame) : Option DecodePlan :=
  (decoder.plans.find? fun entry => entry.1 = (frame.arbitrationId, frame.isExtended)).map Prod.snd

def decodeFrame (decoder : DbcDecoder) (frame : Frame) : Except DbcDecodeFailure DecodedFrame :=
  match decoder.plan frame with
  | none => .error (messageNotFound frame)
  | some plan =>
    if plan.message.isFd ≠ frame.isFd then .error (frameTypeMismatch frame plan.message)
    else plan.decode scaling frame

variable {scaling} {database : DbcDatabase} {frame : Frame}

private theorem decodePlan_message {message : DbcMessage} :
    DecodePlan.decode scaling ⟨message, compileMessage message⟩ frame = decodeMessage scaling message frame := by
  unfold DecodePlan.decode decodeMessage
  dsimp only
  cases compileMessage message with
  | error reason => rfl
  | ok recipes =>
    dsimp only
    by_cases short : frame.data.length < message.length
    · rw [if_pos short, if_pos short]
    · rw [if_neg short, if_neg short]
      cases decodeSignals scaling message frame.data (recipes.active frame.data) with
      | error failure => rfl
      | ok signals => rfl

/-- The table of a database finds the message that the database defines. -/
theorem plan_create : (create database).plan frame =
    (database.lookup frame.arbitrationId frame.isExtended).map fun message => ⟨message, compileMessage message⟩ := by
  have keys : ((fun entry : (Nat × Bool) × DecodePlan => decide (entry.1 = (frame.arbitrationId, frame.isExtended))) ∘
      fun message => ((message.frameId, message.isExtended), ⟨message, compileMessage message⟩)) =
      fun message : DbcMessage =>
        decide (message.frameId = frame.arbitrationId ∧ message.isExtended = frame.isExtended) := by
    funext message
    simp [Prod.ext_iff]
  rw [plan, create, List.find?_map, keys, Option.map_map]
  rfl

/-- The compiled decoder decodes as the database says. -/
theorem decodeFrame_create :
    (create database).decodeFrame scaling frame = Dbc.decodeFrame scaling database frame := by
  rw [decodeFrame, Dbc.decodeFrame, plan_create]
  cases database.lookup frame.arbitrationId frame.isExtended with
  | none => rfl
  | some message =>
    dsimp only [Option.map_some]
    rw [decodePlan_message]

private theorem decode_frame {plan : DecodePlan} {decoded : DecodedFrame}
    (given : plan.decode scaling frame = .ok decoded) :
    decoded.frame = frame := by
  unfold DecodePlan.decode at given
  split at given
  · cases given
  · split at given
    · cases given
    · split at given
      · cases given
      · rw [← Except.ok.inj given]

theorem decodeFrame_belongs {decoder : DbcDecoder} {decoded : DecodedFrame}
    (given : decoder.decodeFrame scaling frame = .ok decoded) : decoded.frame = frame := by
  unfold decodeFrame at given
  split at given
  · cases given
  · split at given
    · cases given
    · exact decode_frame given

end DbcDecoder

end Decoder

section Containers

/-- One outcome for each frame of a batch, contiguous as the batch is. -/
structure DecodedFrameBatch where
  streamId : String
  outcomes : List DecodedFrameOutcome
  stream_named : (text streamId).blank = false
  nonempty : outcomes ≠ []
  contiguous : outcomes.map (fun outcome => outcome.frame.sequence) =
    List.range' (outcomes.head nonempty).frame.sequence outcomes.length

/-- `DecodedFrameBatch.create`. -/
def DecodedFrameBatch.create (streamId : String) (outcomes : List DecodedFrameOutcome) :
    Except String DecodedFrameBatch :=
  if empty : outcomes = [] then .error "DecodedFrameBatch outcomes must be non-empty"
  else if named : (text streamId).blank = true then .error "stream_id must be a non-blank string"
  else if contiguous : outcomes.map (fun outcome => outcome.frame.sequence) ≠
      List.range' (outcomes.head empty).frame.sequence outcomes.length then
    .error "DecodedFrameBatch sequences must be contiguous"
  else .ok ⟨streamId, outcomes, Bool.eq_false_of_not_eq_true named, empty, of_not_not contiguous⟩

/-- `DecodedFrameSet.create`. -/
def DecodedFrameSet.create (streamId : String) (outcomes : List DecodedFrameOutcome) :
    Except String DecodedFrameSet :=
  if empty : outcomes = [] then .error "DecodedFrameSet outcomes must be non-empty"
  else if named : (text streamId).blank = true then .error "stream_id must be a non-blank string"
  else if increasing : ¬ (outcomes.map fun outcome => outcome.frame.sequence).IsChain (· < ·) then
    .error "DecodedFrameSet sequences must be strictly increasing"
  else .ok ⟨streamId, outcomes, Bool.eq_false_of_not_eq_true named, empty, of_not_not increasing⟩

end Containers

section Requests

inductive Request where
  | batch (batch : FrameBatch)
  | frames (work : DecodeFrameSet)

def Request.submitted : Request → List Frame
  | .batch given => given.frames
  | .frames work => work.frames

def Request.streamId : Request → String
  | .batch given => given.streamId
  | .frames work => work.streamId

/-- What is answered: the outcomes and whose they are. -/
structure Answer where
  streamId : String
  outcomes : List DecodedFrameOutcome

namespace DbcDecoder

variable (scaling : Scaling) (decoder : DbcDecoder)

/-- One pass of the loop of `_outcomes`. -/
def capture (frame : Frame) : DecodedFrameOutcome where
  frame
  result := decoder.decodeFrame scaling frame
  belongs := fun _ => decodeFrame_belongs

/-- `_outcomes`, with the outcomes collected so far. -/
def outcomesAfter (collected : List DecodedFrameOutcome) : List Frame → List DecodedFrameOutcome
  | [] => collected
  | frame :: rest => outcomesAfter (collected ++ [decoder.capture scaling frame]) rest

def decodeBatch (batch : FrameBatch) : Except String DecodedFrameBatch :=
  DecodedFrameBatch.create batch.streamId (decoder.outcomesAfter scaling [] batch.frames)

/-- `decode_frames`. -/
def decodeWork (work : DecodeFrameSet) : Except String DecodedFrameSet :=
  DecodedFrameSet.create work.streamId (decoder.outcomesAfter scaling [] work.frames)

/-- A request to the decoder, which it leaves as it is. -/
def handle : Request → Except String Answer × DbcDecoder
  | .batch given =>
    ((decoder.decodeBatch scaling given).map fun decoded => ⟨decoded.streamId, decoded.outcomes⟩, decoder)
  | .frames work =>
    ((decoder.decodeWork scaling work).map fun decoded => ⟨decoded.streamId, decoded.outcomes⟩, decoder)

/-- The decoder after some requests. -/
def after (decoder : DbcDecoder) : List Request → DbcDecoder
  | [] => decoder
  | request :: rest => after (decoder.handle scaling request).2 rest

end DbcDecoder

/-- One record for each frame, in order, with what the frame alone decodes to. -/
structure FrameByFrame (scaling : Scaling) (database : DbcDatabase) (frames : List Frame)
    (outcomes : List DecodedFrameOutcome) : Prop where
  count : outcomes.length = frames.length
  carried : outcomes.map DecodedFrameOutcome.frame = frames
  alone : ∀ index (inside : index < outcomes.length) (within : index < frames.length),
    outcomes[index].result = decodeFrame scaling database frames[index]

variable {scaling : Scaling} {database : DbcDatabase} {decoder : DbcDecoder}

theorem outcomesAfter_eq {collected : List DecodedFrameOutcome} {frames : List Frame} :
    decoder.outcomesAfter scaling collected frames = collected ++ frames.map (decoder.capture scaling) := by
  induction frames generalizing collected with
  | nil => exact (List.append_nil collected).symm
  | cons frame rest ih =>
    rw [DbcDecoder.outcomesAfter, ih, List.append_assoc, List.map_cons]
    rfl

theorem outcomes_frameByFrame {frames : List Frame} :
    FrameByFrame scaling database frames ((DbcDecoder.create database).outcomesAfter scaling [] frames) := by
  rw [outcomesAfter_eq, List.nil_append]
  constructor
  · exact List.length_map _
  · rw [List.map_map]
    exact List.map_id frames
  · intro index inside within
    rw [List.getElem_map]
    exact DbcDecoder.decodeFrame_create

private theorem handle_decoder (request : Request) : (decoder.handle scaling request).2 = decoder := by
  cases request with
  | batch given => rfl
  | frames work => rfl

private theorem after_eq (earlier : List Request) : decoder.after scaling earlier = decoder := by
  induction earlier generalizing decoder with
  | nil => rfl
  | cons request rest ih => rw [DbcDecoder.after, ih, handle_decoder]

private theorem outcomes_sequences {frames : List Frame} :
    (decoder.outcomesAfter scaling [] frames).map (fun outcome => outcome.frame.sequence) =
      frames.map Frame.sequence := by
  rw [outcomesAfter_eq, List.nil_append, List.map_map]
  rfl

private theorem outcomes_nonempty (scaling : Scaling) (decoder : DbcDecoder) {frames : List Frame}
    (nonempty : frames ≠ []) :
    decoder.outcomesAfter scaling [] frames ≠ [] := by
  rw [outcomesAfter_eq, List.nil_append]
  simpa using nonempty

/-- A batch is answered unless its stream is blank, which the result refuses. -/
theorem decodeBatch_cases (scaling : Scaling) (decoder : DbcDecoder) (batch : FrameBatch) :
    ((text batch.streamId).blank = false ∧ ∃ decoded, decoder.decodeBatch scaling batch = .ok decoded ∧
      decoded.streamId = batch.streamId ∧ decoded.outcomes = decoder.outcomesAfter scaling [] batch.frames) ∨
    (text batch.streamId).blank = true ∧
      decoder.decodeBatch scaling batch = .error "stream_id must be a non-blank string" := by
  have nonempty := outcomes_nonempty scaling decoder batch.nonempty
  have count : (decoder.outcomesAfter scaling [] batch.frames).length = batch.frames.length := by
    rw [outcomesAfter_eq, List.nil_append, List.length_map]
  have first : ((decoder.outcomesAfter scaling [] batch.frames).head nonempty).frame =
      batch.frames.head batch.nonempty := by
    simp only [outcomesAfter_eq, List.nil_append, List.head_map]
    rfl
  have contiguous : (decoder.outcomesAfter scaling [] batch.frames).map (fun outcome => outcome.frame.sequence) =
      List.range' ((decoder.outcomesAfter scaling [] batch.frames).head nonempty).frame.sequence
        (decoder.outcomesAfter scaling [] batch.frames).length := by
    rw [outcomes_sequences, batch.contiguous, first, count]
  unfold DbcDecoder.decodeBatch DecodedFrameBatch.create
  rw [dif_neg nonempty]
  by_cases blank : (text batch.streamId).blank = true
  · rw [dif_pos blank]
    exact .inr ⟨blank, rfl⟩
  · rw [dif_neg blank, dif_neg (not_not_intro contiguous)]
    exact .inl ⟨Bool.eq_false_of_not_eq_true blank, _, rfl, rfl, rfl⟩

private theorem decodeWork_ok (scaling : Scaling) (decoder : DbcDecoder) (work : DecodeFrameSet) : ∃ decoded,
    decoder.decodeWork scaling work = .ok decoded ∧
    decoded.streamId = work.streamId ∧ decoded.outcomes = decoder.outcomesAfter scaling [] work.frames := by
  have nonempty := outcomes_nonempty scaling decoder work.nonempty
  have named : ¬ (text work.streamId).blank = true := Bool.eq_false_iff.mp work.stream_named
  have increasing : ((decoder.outcomesAfter scaling [] work.frames).map
      fun outcome => outcome.frame.sequence).IsChain (· < ·) := by
    rw [outcomes_sequences]
    exact work.increasing
  unfold DbcDecoder.decodeWork DecodedFrameSet.create
  rw [dif_neg nonempty, dif_neg named, dif_neg (not_not_intro increasing)]
  exact ⟨_, rfl, rfl, rfl⟩

/-- Whatever was asked before, a request is answered frame by frame exactly if it is no batch of a blank stream. -/
theorem handle_frameByFrame (scaling : Scaling) (database : DbcDatabase) (earlier : List Request) (request : Request) :
    (∃ answer, (((DbcDecoder.create database).after scaling earlier).handle scaling request).1 = .ok answer ∧
      answer.streamId = request.streamId ∧ FrameByFrame scaling database request.submitted answer.outcomes) ↔
    (text request.streamId).blank = false := by
  rw [after_eq]
  cases request with
  | batch given =>
    rcases decodeBatch_cases scaling (DbcDecoder.create database) given with
      ⟨named, decoded, answered, stream, outcomes⟩ | ⟨blank, refused⟩
    · constructor
      · intro _
        exact named
      · intro _
        refine ⟨⟨decoded.streamId, decoded.outcomes⟩, ?_, stream, ?_⟩
        · rw [DbcDecoder.handle, answered]
          rfl
        · exact outcomes ▸ outcomes_frameByFrame
    · constructor
      · intro ⟨answer, answered, _⟩
        rw [DbcDecoder.handle, refused] at answered
        cases answered
      · intro named
        exact absurd (blank.symm.trans named) (by decide)
  | frames work =>
    obtain ⟨decoded, answered, stream, outcomes⟩ :=
      decodeWork_ok scaling (DbcDecoder.create database) work
    constructor
    · intro _
      exact work.stream_named
    · intro _
      refine ⟨⟨decoded.streamId, decoded.outcomes⟩, ?_, stream, ?_⟩
      · rw [DbcDecoder.handle, answered]
        rfl
      · exact outcomes ▸ outcomes_frameByFrame

/-- A batch of one frame whose stream is a blank. -/
def blankBatch : FrameBatch where
  streamId := " "
  frames := [torqueFrame]
  stream_named := by decide
  nonempty := List.cons_ne_nil _ _
  contiguous := rfl

/-- The batch is refused whole, its frame with it. -/
theorem decodeBatch_blank : ((DbcDecoder.create torqueDatabase).handle exactly (.batch blankBatch)).1 =
    .error "stream_id must be a non-blank string" := by
  rcases decodeBatch_cases exactly (DbcDecoder.create torqueDatabase) blankBatch with
    ⟨named, _⟩ | ⟨_, refused⟩
  · exact absurd named (by decide +kernel)
  · rw [DbcDecoder.handle, refused]
    rfl

end Requests

end CanX.Dbc
