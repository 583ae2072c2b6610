import CanX.Api.DecodeFrames
import CanX.Api.Json

/-! What the decode client makes of the answer of the decode-frames endpoint. -/

namespace CanX.Api

open Dbc Desktop Domain Transport
open DbcDecodeClient hiding frameToWire

section Readers

variable {message : String}

theorem readObject_dict (entries : List (String × PyValue)) :
    readObject message (parsed (.dict entries)) = .ok (propertyOf (entriesParsed entries)) := by
  rw [parsed_dict]
  rfl

theorem readArray_list {Item : Type} (elements : List PyValue) (read : JsValue → Reading Item) :
    readArray message (parsed (.list elements)) read = (elements.map parsed).mapM read := by
  rw [parsed_list, eachParsed_eq]
  rfl

theorem readString_str (value : Text) : readString message (parsed (.str value)) = .ok (characters value) := by
  rw [parsed_str]
  rfl

theorem readString_literal (value : String) : readString message (parsed (literal value)) = .ok value := by
  rw [literal, readString_str, characters_text]

theorem readBoolean_bool (value : Bool) : readBoolean message (parsed (.bool value)) = .ok value := by
  rw [parsed_bool]
  rfl

theorem readInteger_int {value : Int} (small : value.natAbs ≤ maxSafeInteger) :
    readInteger message (parsed (.int value)) = .ok (value : JsNumber) := by
  rw [parsed_int]
  simp only [readInteger, nearestDouble_small small, isSafeInteger_int.mpr small, if_true]

private theorem readInteger_wide {value : Int} (wide : ¬ value.natAbs ≤ maxSafeInteger) :
    readInteger message (parsed (.int value)) = .error message := by
  rw [parsed_int]
  exact if_neg (mt nearestDouble_safe.mp wide)

theorem readFiniteNumber_float (value : Rat) :
    readFiniteNumber message (parsed (.float value)) = .ok value := by
  rw [parsed_float]
  rfl

private theorem readNullableString_nullable (value : Option Text) :
    readNullableString message (parsed (nullable (value.map .str))) = .ok (value.map characters) := by
  cases value with
  | none =>
    simp only [nullable, Option.map_none, Option.getD_none, parsed_none]
    rfl
  | some text =>
    simp only [nullable, Option.map_some, Option.getD_some, parsed_str]
    rfl

theorem readNullableFiniteNumber_nullable (value : Option Rat) :
    readNullableFiniteNumber message (parsed (nullable (value.map .float))) = .ok value := by
  cases value with
  | none =>
    simp only [nullable, Option.map_none, Option.getD_none, parsed_none]
    rfl
  | some number =>
    simp only [nullable, Option.map_some, Option.getD_some, parsed_float]
    rfl

end Readers

section Signals

variable {message : String}

/-- A decoded signal in the renderer. -/
def shownSignal (signal : DecodedSignal) : DecodedSignalValue where
  name := characters signal.name
  rawValue := signal.rawValue
  physicalValue := signal.physicalValue
  choiceLabel := signal.choiceLabel.map characters
  unit := signal.unit.map characters

private theorem readSignalValue_ok {signal : DecodedSignal} {value : DecodedSignalValue} :
    readSignalValue message (parsed (signalValuePayload signal)) = .ok value ↔
      signal.rawValue.natAbs ≤ maxSafeInteger ∧ value = shownSignal signal := by
  simp only [readSignalValue, signalValuePayload, readObject_dict, ok_bind, propertyOf_parsed]
  simp only [List.lookup_cons, String.reduceBEq, Option.map_some, Option.getD_some, readString_str, ok_bind,
    readFiniteNumber_float, readNullableString_nullable]
  by_cases small : signal.rawValue.natAbs ≤ maxSafeInteger
  · simp only [readInteger_int small, ok_bind, small, true_and]
    constructor
    · intro given
      exact (Except.ok.inj given).symm
    · rintro rfl
      rfl
  · simp only [readInteger_wide small, error_bind, small, false_and]
    constructor
    · intro given
      cases given
    · rintro ⟨⟨⟩, _⟩

private theorem readSignals_ok {signals : List DecodedSignal} {values : List DecodedSignalValue} :
    readArray message (parsed (.list (signals.map signalValuePayload))) (readSignalValue message) = .ok values ↔
      (∀ signal ∈ signals, signal.rawValue.natAbs ≤ maxSafeInteger) ∧ values = signals.map shownSignal := by
  rw [readArray_list, List.map_map, mapM_ok, List.forall₂_map_left_iff]
  simp only [Function.comp, readSignalValue_ok]
  constructor
  · intro each
    induction each with
    | nil => simp
    | cons first others ih =>
      obtain ⟨small, rfl⟩ := first
      exact ⟨List.forall_mem_cons.mpr ⟨small, ih.1⟩, by rw [ih.2, List.map_cons]⟩
  · rintro ⟨small, rfl⟩
    rw [List.forall₂_map_right_iff, List.forall₂_same]
    exact fun signal member => ⟨small signal member, rfl⟩

end Signals

section Outcomes

variable {message : String}

theorem readDecoded_ok {decoded : DecodedFrame} {outcome : Desktop.DecodedFrameOutcome} :
    readDecoded message (parsed (decodedPayload decoded)) = .ok outcome ↔
      (∀ signal ∈ decoded.signals, signal.rawValue.natAbs ≤ maxSafeInteger) ∧
        outcome = .decoded (characters decoded.messageName) (decoded.signals.map shownSignal) := by
  simp only [readDecoded, decodedPayload, readObject_dict, ok_bind, propertyOf_parsed]
  simp only [List.lookup_cons, String.reduceBEq, Option.map_some, Option.getD_some, readString_str, ok_bind, bind_ok,
    readSignals_ok]
  constructor
  · rintro ⟨_, ⟨small, rfl⟩, returned⟩
    exact ⟨small, (Except.ok.inj returned).symm⟩
  · rintro ⟨small, rfl⟩
    exact ⟨_, ⟨small, rfl⟩, rfl⟩

theorem readFailure_failure (failure : DbcDecodeFailure) :
    readFailure message (parsed (failurePayload failure)) = .ok (.failure failure.code) := by
  simp only [readFailure, failurePayload, readObject_dict, ok_bind, propertyOf_parsed]
  simp only [List.lookup_cons, String.reduceBEq, Option.map_some, Option.getD_some, readString_literal, ok_bind,
    readObject_dict, readBoolean_bool]
  rfl

def shownDirection : Direction → FrameDirection
  | .rx => .rx
  | .tx => .tx

def shownQuality : Domain.TimestampQuality → Desktop.TimestampQuality
  | .hardware => .hardware
  | .host => .host
  | .estimated => .estimated

/-- A frame of the wire in the renderer. -/
def shownWire (wire : FrameWire) : FrameWireBody where
  sequence := wire.sequence
  channelId := wire.channelId
  arbitrationId := wire.arbitrationId
  isExtended := wire.isExtended
  isFd := wire.isFd
  bitrateSwitch := wire.bitrateSwitch
  errorStateIndicator := wire.errorStateIndicator
  dlc := wire.dlc
  data := wire.data
  direction := shownDirection wire.direction
  hardwareTimestamp := wire.hardwareTimestamp
  hostTimestamp := wire.hostTimestamp
  normalizedTimestamp := wire.normalizedTimestamp
  clockDomain := wire.clockDomain
  timestampQuality := shownQuality wire.timestampQuality
  flags := wire.flags

private theorem readDirection_value (direction : Direction) :
    readDirection message (parsed (literal (directionValue direction))) = .ok (shownDirection direction) := by
  rw [literal, parsed, characters_text]
  cases direction <;> rfl

private theorem readTimestampQuality_value (quality : Domain.TimestampQuality) :
    readTimestampQuality message (parsed (literal (timestampQualityValue quality))) =
      .ok (shownQuality quality) := by
  rw [literal, parsed, characters_text]
  cases quality <;> rfl

private theorem arbitration_safe (frame : Frame) : (frame.arbitrationId : Int).natAbs ≤ maxSafeInteger := by
  have bounded := frame.arbitration_range
  simp only [Int.natAbs_natCast, maxSafeInteger]
  split at bounded <;> omega

private theorem dlc_safe (frame : Frame) : (frame.dlc : Int).natAbs ≤ maxSafeInteger := by
  have allowed : frame.dlc ∈ fdDlc := by
    have given := frame.dlc_allowed
    split at given
    · exact given
    · exact List.mem_append_left _ given
  have bounded : ∀ length ∈ fdDlc, length ≤ 64 := by decide
  have within := bounded _ allowed
  simp only [Int.natAbs_natCast, maxSafeInteger]
  omega

private theorem flags_safe (frame : Frame) : (frame.flags : Int).natAbs ≤ maxSafeInteger := by
  have bounded := frame.flags_unsigned
  simp only [Int.natAbs_natCast, maxSafeInteger]
  omega

private theorem readFrameWire_frame {frame : Frame} (safe : frame.sequence ≤ maxSafeInteger) :
    readFrameWire message (parsed (frameWirePayload (frameToWire frame))) = .ok (shownWire (frameToWire frame)) := by
  have sequence : readInteger message (parsed (.int (frame.sequence : Int))) = .ok ((frame.sequence : Int) : JsNumber) :=
    readInteger_int (by simpa using safe)
  have arbitration : readInteger message (parsed (.int frame.arbitrationId)) = .ok _ :=
    readInteger_int (arbitration_safe frame)
  have dlc : readInteger message (parsed (.int frame.dlc)) = .ok _ := readInteger_int (dlc_safe frame)
  have flags : readInteger message (parsed (.int frame.flags)) = .ok _ := readInteger_int (flags_safe frame)
  simp only [readFrameWire, frameWirePayload, readObject_dict, ok_bind, propertyOf_parsed]
  simp only [List.lookup_cons, String.reduceBEq, Option.map_some, Option.getD_some, readString_literal, ok_bind,
    readBoolean_bool, readFiniteNumber_float, readNullableFiniteNumber_nullable, readDirection_value,
    readTimestampQuality_value]
  simp only [frameToWire, sequence, arbitration, dlc, flags, ok_bind]
  rfl

private theorem isNull_none : isNull (parsed .none) = true := by
  rw [parsed_none]
  rfl

private theorem isNull_dict (entries : List (String × PyValue)) : isNull (parsed (.dict entries)) = false := by
  rw [parsed_dict]
  rfl

private theorem isNull_decoded (decoded : DecodedFrame) :
    isNull (parsed (decodedPayload decoded)) = false := isNull_dict _

private theorem isNull_failure (failure : DbcDecodeFailure) :
    isNull (parsed (failurePayload failure)) = false := isNull_dict _

/-- Every raw value that the outcome carries is a safe integer. -/
def Countable (outcome : Dbc.DecodedFrameOutcome) : Prop :=
  ∀ decoded, outcome.result = .ok decoded → ∀ signal ∈ decoded.signals, signal.rawValue.natAbs ≤ maxSafeInteger

def shownOutcome (outcome : Dbc.DecodedFrameOutcome) : Desktop.DecodedFrameOutcome :=
  match outcome.result with
  | .ok decoded => .decoded (characters decoded.messageName) (decoded.signals.map shownSignal)
  | .error failure => .failure failure.code

theorem readOutcome_ok {outcome : Dbc.DecodedFrameOutcome} (safe : outcome.frame.sequence ≤ maxSafeInteger)
    {wire : WireOutcome} :
    readOutcome message (parsed (outcomePayload outcome)) = .ok wire ↔
      Countable outcome ∧ wire = ⟨shownWire (frameToWire outcome.frame), shownOutcome outcome⟩ := by
  have echoed : readFrameWire message (parsed (frameWirePayload (frameToWire outcome.frame))) = .ok _ :=
    readFrameWire_frame safe
  cases result : outcome.result with
  | error failure =>
    have countable : Countable outcome := by
      intro decoded given
      cases result.symm.trans given
    simp only [readOutcome, outcomePayload, result, readObject_dict, ok_bind, propertyOf_parsed]
    simp only [List.lookup_cons, String.reduceBEq, Option.map_some, Option.getD_some, echoed, ok_bind, isNull_none,
      isNull_failure, readFailure_failure, Bool.true_eq_false, throwIf_false, if_true, countable, true_and, shownOutcome,
      result]
    exact ⟨fun given => (Except.ok.inj given).symm, fun given => congrArg _ given.symm⟩
  | ok decoded =>
    have countable : Countable outcome ↔
        ∀ signal ∈ decoded.signals, signal.rawValue.natAbs ≤ maxSafeInteger := by
      simp [Countable, result]
    simp only [readOutcome, outcomePayload, result, readObject_dict, ok_bind, propertyOf_parsed]
    simp only [List.lookup_cons, String.reduceBEq, Option.map_some, Option.getD_some, echoed, ok_bind, isNull_none,
      isNull_decoded, Bool.false_eq_true, throwIf_false, if_false, bind_ok, readDecoded_ok, countable,
      shownOutcome, result]
    constructor
    · rintro ⟨_, ⟨small, rfl⟩, returned⟩
      exact ⟨small, (Except.ok.inj returned).symm⟩
    · rintro ⟨small, rfl⟩
      exact ⟨_, ⟨small, rfl⟩, rfl⟩

end Outcomes

section Request

variable {input : DecodeFrameSetInput} {submitted : List FrameWireBody} {work : DecodeFrameSet}

/-- One frame on its way: as it is submitted, and as the endpoint receives it. -/
structure Received (sent : RuntimeFrame) (body : FrameWireBody) (frame : Frame) : Prop where
  sequence : (frame.sequence : Int) = sent.sequence
  safe : frame.sequence ≤ maxSafeInteger
  echoed : shownWire (frameToWire frame) = body

private theorem strictInteger_ok {value : JsNumber} {whole : Int} (given : strictInteger value = .ok whole) :
    (whole : JsNumber) = value := by
  unfold strictInteger at given
  split at given
  · rename_i integral
    cases given
    exact (Rat.den_eq_one_iff value).mp integral
  · cases given

private theorem frameWireOf_shown {body : FrameWireBody} {wire : FrameWire} (given : frameWireOf body = .ok wire) :
    shownWire wire = body ∧ wire.data = body.data := by
  simp only [frameWireOf, bind_ok] at given
  obtain ⟨sequence, sequenced, arbitration, arbitrated, dlc, measured, flags, flagged, returned⟩ := given
  cases returned
  have direction (direction : FrameDirection) : shownDirection (wireDirection direction) = direction := by
    cases direction <;> rfl
  have quality (quality : Desktop.TimestampQuality) : shownQuality (wireQuality quality) = quality := by
    cases quality <;> rfl
  simp only [shownWire, strictInteger_ok sequenced, strictInteger_ok arbitrated, strictInteger_ok measured,
    strictInteger_ok flagged, direction, quality, and_self]

private theorem received_frame {sent : RuntimeFrame} {body : FrameWireBody} {wire : FrameWire} {frame : Frame}
    (submits : DbcDecodeClient.frameToWire sent invalidWorkSetMessage = .ok body)
    (parses : frameWireOf body = .ok wire) (builds : wireToFrame wire = .ok frame) :
    Received sent body frame := by
  simp only [DbcDecodeClient.frameToWire, sequenceToNumber] at submits
  split at submits
  · rename_i safe
    cases submits
    have small := nearestDouble_safe.mp safe
    obtain ⟨shown, data⟩ := frameWireOf_shown parses
    have back := wireToFrame_wire data builds
    have sequence : ((frame.sequence : Int) : JsNumber) = (sent.sequence : JsNumber) := by
      have same := congrArg FrameWireBody.sequence shown
      rw [← back] at same
      exact same.trans (nearestDouble_small small)
    have same : (frame.sequence : Int) = sent.sequence := Rat.intCast_inj.mp sequence
    refine ⟨same, ?_, ?_⟩
    · rw [← same, Int.natAbs_natCast] at small
      exact small
    · rw [back, shown]
  · cases submits

/-- The submitted frames, their bodies and the received frames, index by index. -/
inductive Arrived : List RuntimeFrame → List FrameWireBody → List Frame → Prop
  | nil : Arrived [] [] []
  | cons (first : Received sent body frame) (rest : Arrived sents bodies frames) :
      Arrived (sent :: sents) (body :: bodies) (frame :: frames)

private theorem arrived_of_steps {sents : List RuntimeFrame} {bodies : List FrameWireBody} {wires : List FrameWire}
    {frames : List Frame}
    (submits : List.Forall₂ (fun sent body => DbcDecodeClient.frameToWire sent invalidWorkSetMessage = .ok body)
      sents bodies)
    (parses : List.Forall₂ (fun body wire => frameWireOf body = .ok wire) bodies wires)
    (builds : List.Forall₂ (fun wire frame => wireToFrame wire = .ok frame) wires frames) :
    Arrived sents bodies frames := by
  induction submits generalizing wires frames with
  | nil =>
    cases parses
    cases builds
    exact .nil
  | cons sent _ ih =>
    cases parses with
    | cons parse parses =>
      cases builds with
      | cons build builds => exact .cons (received_frame sent parse build) (ih parses builds)

private theorem createFrameSet_ok {streamId : String} {frames : List Frame}
    (created : createFrameSet streamId frames = .ok work) : work.streamId = streamId ∧ work.frames = frames := by
  simp only [createFrameSet, checked_bind] at created
  obtain ⟨_, _, _, _, returned⟩ := created
  cases returned
  exact ⟨rfl, rfl⟩

theorem work_arrived (submits : submittedFrames input = .ok submitted)
    (receives : receivedWorkSet input.streamId submitted = .ok work) :
    work.streamId = input.streamId ∧ Arrived input.frames submitted work.frames := by
  have sent : input.frames.mapM (fun frame => DbcDecodeClient.frameToWire frame invalidWorkSetMessage) =
      .ok submitted := by
    obtain ⟨_, given⟩ := throwIf_bind.mp submits
    obtain ⟨_, _, sent⟩ := bind_ok.mp given
    exact sent
  simp only [receivedWorkSet, bind_ok] at receives
  obtain ⟨wires, parses, frames, builds, created⟩ := receives
  obtain ⟨stream, rfl⟩ := createFrameSet_ok created
  exact ⟨stream, arrived_of_steps (mapM_ok.mp sent) (mapM_ok.mp parses) (mapM_ok.mp builds)⟩

namespace Arrived

variable {sents : List RuntimeFrame} {bodies : List FrameWireBody} {frames : List Frame}

theorem length (arrived : Arrived sents bodies frames) : frames.length = bodies.length := by
  induction arrived with
  | nil => rfl
  | cons _ _ ih => rw [List.length_cons, List.length_cons, ih]

theorem sequences (arrived : Arrived sents bodies frames) :
    frames.map (fun frame => (frame.sequence : Int)) = sents.map RuntimeFrame.sequence := by
  induction arrived with
  | nil => rfl
  | cons first _ ih => rw [List.map_cons, List.map_cons, first.sequence, ih]

theorem safe (arrived : Arrived sents bodies frames) : ∀ frame ∈ frames, frame.sequence ≤ maxSafeInteger := by
  induction arrived with
  | nil => simp
  | cons first _ ih => exact List.forall_mem_cons.mpr ⟨first.safe, ih⟩

theorem bound (arrived : Arrived sents bodies frames) (message : String)
    (answer : Frame → Desktop.DecodedFrameOutcome) : ∃ records,
    bindRecords message (frames.map fun frame => ⟨shownWire (frameToWire frame), answer frame⟩) sents bodies =
        .ok records ∧
      records.map DecodedFrameRecord.frame = sents ∧ records.map DecodedFrameRecord.outcome = frames.map answer := by
  induction arrived with
  | nil => exact ⟨[], rfl, rfl, rfl⟩
  | @cons sent body frame sents bodies frames first _ ih =>
    obtain ⟨records, binds, same, outcomes⟩ := ih
    refine ⟨⟨sent, answer frame⟩ :: records, ?_, ?_, ?_⟩
    · rw [List.map_cons, bindRecords, first.echoed, if_pos (isSameFrame_self body), binds]
      rfl
    · rw [List.map_cons, same]
    · rw [List.map_cons, outcomes, List.map_cons]

end Arrived

end Request

section Answer

variable {input : DecodeFrameSetInput} {submitted : List FrameWireBody} {work : DecodeFrameSet}
  {scaling : Scaling} {database : DbcDatabase}

theorem readSequences {message : String} {frames : List Frame}
    (safe : ∀ frame ∈ frames, frame.sequence ≤ maxSafeInteger) :
    readArray message (parsed (.list (frames.map fun frame => .int frame.sequence))) (readSequence message) =
      .ok (frames.map fun frame => (frame.sequence : Int)) := by
  rw [readArray_list, List.map_map, mapM_ok, List.forall₂_map_left_iff, List.forall₂_map_right_iff,
    List.forall₂_same]
  intro frame member
  have small : readInteger message (parsed (.int frame.sequence)) = .ok _ :=
    readInteger_int (by simpa using safe frame member)
  simp only [Function.comp, readSequence, small, ok_bind]
  rfl

theorem readOutcomes_ok {message : String} {frames : List Frame} {answer : Frame → Dbc.DecodedFrameOutcome}
    (own : ∀ frame, (answer frame).frame = frame) (safe : ∀ frame ∈ frames, frame.sequence ≤ maxSafeInteger)
    {wires : List WireOutcome} :
    readArray message (parsed (.list (frames.map fun frame => outcomePayload (answer frame))))
        (readOutcome message) = .ok wires ↔
      (∀ frame ∈ frames, Countable (answer frame)) ∧
        wires = frames.map fun frame => ⟨shownWire (frameToWire frame), shownOutcome (answer frame)⟩ := by
  rw [readArray_list, List.map_map]
  induction frames generalizing wires with
  | nil => simp [pure, Except.pure, eq_comm]
  | cons frame rest ih =>
    obtain ⟨here, there⟩ := List.forall_mem_cons.mp safe
    have first {wire : WireOutcome} :
        readOutcome message (parsed (outcomePayload (answer frame))) = .ok wire ↔ _ :=
      readOutcome_ok (by rw [own]; exact here)
    simp only [List.map_cons, List.mapM_cons, Function.comp_apply, bind_ok, first, ih there, List.forall_mem_cons,
      own]
    constructor
    · rintro ⟨_, ⟨countable, rfl⟩, _, ⟨others, rfl⟩, returned⟩
      exact ⟨⟨countable, others⟩, (Except.ok.inj returned).symm⟩
    · rintro ⟨⟨countable, others⟩, rfl⟩
      exact ⟨_, ⟨countable, rfl⟩, _, ⟨others, rfl⟩, rfl⟩

end Answer

section Texts

/-- No text that the outcome shows has an unpaired surrogate. -/
def Spelled (outcome : Dbc.DecodedFrameOutcome) : Prop :=
  match outcome.result with
  | .ok decoded => decoded.messageName.encodable = true ∧ ∀ signal ∈ decoded.signals,
      signal.name.encodable = true ∧ (∀ label ∈ signal.choiceLabel, label.encodable = true) ∧
        ∀ unit ∈ signal.unit, unit.encodable = true
  | .error failure => ∀ detail ∈ failure.details, spelled (detailPayload detail.2) = true

theorem spelled_literal (value : String) : spelled (literal value) = true := by
  rw [literal, spelled_str]
  exact text_encodable value

private theorem spelled_nullable (value : Option Text) :
    spelled (nullable (value.map .str)) = true ↔ ∀ text ∈ value, text.encodable = true := by
  cases value with
  | none => simp [nullable, spelled]
  | some text => simp [nullable, spelled]

private theorem spelled_number (value : Option Rat) : spelled (nullable (value.map .float)) = true := by
  cases value with
  | none => simp [nullable, spelled]
  | some number => simp [nullable, spelled]

private theorem spelled_frame (wire : FrameWire) : spelled (frameWirePayload wire) = true := by
  simp only [frameWirePayload, spelled, entriesSpelled, spelled_literal, spelled_number, Bool.and_self]

private theorem spelled_signal {signal : DecodedSignal} : spelled (signalValuePayload signal) = true ↔
    signal.name.encodable = true ∧ (∀ label ∈ signal.choiceLabel, label.encodable = true) ∧
      ∀ unit ∈ signal.unit, unit.encodable = true := by
  simp only [signalValuePayload, spelled, entriesSpelled, Bool.and_eq_true, spelled_nullable, true_and, and_true]

private theorem spelled_outcome {outcome : Dbc.DecodedFrameOutcome} :
    spelled (outcomePayload outcome) = true ↔ Spelled outcome := by
  unfold outcomePayload Spelled
  cases outcome.result with
  | ok decoded =>
    simp only [decodedPayload, spelled, entriesSpelled, Bool.and_eq_true, spelled_frame, eachSpelled_iff,
      List.forall_mem_map, spelled_signal, true_and, and_true]
  | error failure =>
    simp only [failurePayload, spelled, entriesSpelled, Bool.and_eq_true, spelled_frame, spelled_literal,
      entriesSpelled_iff, List.forall_mem_map, true_and, and_true]

theorem spelled_answer {decoded : DecodedFrameSet} :
    spelled (frameSetPayload decoded) = true ↔ ∀ outcome ∈ decoded.outcomes, Spelled outcome := by
  simp only [frameSetPayload, spelled, entriesSpelled, Bool.and_eq_true, spelled_literal, eachSpelled_iff,
    List.forall_mem_map, spelled_outcome, true_and, and_true, implies_true]

end Texts

section Exchange

variable {input : DecodeFrameSetInput} {submitted : List FrameWireBody} {work : DecodeFrameSet}

/-- The value that the renderer shows of a decoded signal. -/
structure SameSignal (signal : DecodedSignal) (value : DecodedSignalValue) : Prop where
  name : text value.name = signal.name
  rawValue : value.rawValue = signal.rawValue
  physicalValue : value.physicalValue = signal.physicalValue
  choiceLabel : value.choiceLabel.map text = signal.choiceLabel
  unit : value.unit.map text = signal.unit

def SameOutcome (outcome : Dbc.DecodedFrameOutcome) : Desktop.DecodedFrameOutcome → Prop
  | .decoded messageName signals => ∃ decoded, outcome.result = .ok decoded ∧
      text messageName = decoded.messageName ∧ List.Forall₂ SameSignal decoded.signals signals
  | .failure code => ∃ failure, outcome.result = .error failure ∧ code = failure.code

/-- The answer that the renderer has is the Runtime's, about the frames it submitted. -/
structure SameAnswer (input : DecodeFrameSetInput) (decoded : DecodedFrameSet) (result : DecodedFrameSetResult) :
    Prop where
  answers : result.Answers input
  counted : result.frameCount = decoded.outcomes.length
  sequences : result.sequences = decoded.outcomes.map fun outcome => (outcome.frame.sequence : Int)
  outcomes : List.Forall₂ SameOutcome decoded.outcomes (result.records.map DecodedFrameRecord.outcome)

private theorem text_nullable {value : Option Text} (encodable : ∀ text ∈ value, text.encodable = true) :
    (value.map characters).map text = value := by
  cases value with
  | none => rfl
  | some held => simp only [Option.map_some, text_characters (encodable held rfl)]

theorem shown_same {outcome : Dbc.DecodedFrameOutcome} (spelled : Spelled outcome) :
    SameOutcome outcome (shownOutcome outcome) := by
  unfold Spelled at spelled
  unfold shownOutcome
  cases result : outcome.result with
  | error failure => exact ⟨failure, result, rfl⟩
  | ok decoded =>
    rw [result] at spelled
    refine ⟨decoded, result, text_characters spelled.1, ?_⟩
    rw [List.forall₂_map_right_iff, List.forall₂_same]
    intro signal member
    obtain ⟨name, label, unit⟩ := spelled.2 signal member
    exact ⟨text_characters name, rfl, rfl, text_nullable label, text_nullable unit⟩

/-- The decoder's outcome for a frame can cross: its texts have a UTF-8 form, and its raw values are safe
integers. -/
def Exchangeable (scaling : Scaling) (database : DbcDatabase) (frame : Frame) : Prop :=
  Spelled (outcomeOf scaling database frame) ∧ Countable (outcomeOf scaling database frame)

theorem readFrameSet_ok {scaling : Scaling} {database : DbcDatabase}
    (stream : work.streamId = input.streamId) (arrived : Arrived input.frames submitted work.frames)
    {result : DecodedFrameSetResult} :
    readFrameSet (parsed (frameSetPayload (decodeFrames scaling database work))) input submitted = .ok result ↔
      (∀ frame ∈ work.frames, Countable (outcomeOf scaling database frame)) ∧
        ∃ records, bindRecords unreadableWorkSetMessage (work.frames.map fun frame =>
            ⟨shownWire (frameToWire frame), shownOutcome (outcomeOf scaling database frame)⟩) input.frames submitted =
              .ok records ∧
          result = ⟨input.streamId, work.frames.length, input.frames.map RuntimeFrame.sequence, records⟩ := by
  have version : readInteger unreadableWorkSetMessage (parsed (.int 1)) = .ok ((1 : Int) : JsNumber) :=
    readInteger_int (by decide)
  have counted : readInteger unreadableWorkSetMessage (parsed (.int work.frames.length)) =
      .ok ((work.frames.length : Int) : JsNumber) := by
    refine readInteger_int ?_
    have bounded := work.bounded
    simp only [Int.natAbs_natCast, maxSafeInteger]
    omega
  have sequences : readArray unreadableWorkSetMessage (parsed (.list (work.frames.map fun frame =>
      .int frame.sequence))) (readSequence unreadableWorkSetMessage) = .ok _ := readSequences arrived.safe
  have outcomes {wires : List WireOutcome} : readArray unreadableWorkSetMessage (parsed (.list (work.frames.map
      fun frame => outcomePayload (outcomeOf scaling database frame)))) (readOutcome unreadableWorkSetMessage) =
        .ok wires ↔ _ := readOutcomes_ok (fun _ => rfl) arrived.safe
  have own (frame : Frame) : (outcomeOf scaling database frame).frame = frame := rfl
  have first : ((1 : Int) : JsNumber) = 1 := rfl
  have measured : ((work.frames.length : Int) : JsNumber) = submitted.length := by
    rw [arrived.length, Rat.intCast_natCast]
  simp only [readFrameSet, frameSetPayload, readObject_dict, ok_bind, propertyOf_parsed]
  simp only [List.lookup_cons, String.reduceBEq, Option.map_some, Option.getD_some, readString_literal, ok_bind, version,
    decodeFrames, List.map_map, List.length_map, Function.comp_def, own, stream, sequences, arrived.sequences,
    counted, first, ne_eq, not_true_eq_false, throwIf_false]
  rw [bind_ok]
  simp only [outcomes]
  constructor
  · rintro ⟨_, ⟨countable, rfl⟩, given⟩
    obtain ⟨records, binds, returned⟩ := bind_ok.mp (throwIf_bind.mp given).2
    rw [List.length_map] at returned
    exact ⟨countable, records, binds, (Except.ok.inj returned).symm⟩
  · rintro ⟨countable, records, binds, rfl⟩
    refine ⟨_, ⟨countable, rfl⟩, throwIf_bind.mpr ⟨?_, bind_ok.mpr ⟨records, binds, ?_⟩⟩⟩
    · rw [List.length_map, measured, arrived.length]
      simp
    · rw [List.length_map]
      rfl

section Definitions

variable {scaling : Scaling} {database : DbcDatabase} {frame : Frame}

/-- A database whose signals have no more than 53 bits never gives a raw value that cannot cross. -/
theorem countable_of_narrow
    (narrow : ∀ message ∈ database.messages, ∀ signal ∈ message.signals, signal.length ≤ 53) :
    Countable (outcomeOf scaling database frame) := by
  intro decoded given signal member
  change decodeFrame scaling database frame = .ok decoded at given
  unfold decodeFrame at given
  split at given
  · cases given
  · rename_i message found
    split at given
    · cases given
    · obtain ⟨plan, held, made⟩ := (decodeMessage_ok scaling given).2 signal member
      have bits := narrow message (DbcDatabase.lookup_mem found) plan.signal held
      have bound := plan.rawValue_bound frame.data
      have width : 2 ^ plan.signal.length ≤ 2 ^ 53 := Nat.pow_le_pow_right (by omega) bits
      rw [SignalPlan.mask, Nat.one_shiftLeft] at bound
      rw [(SignalPlan.decode_ok scaling made).1, maxSafeInteger]
      omega

/-- The definitions' texts have a UTF-8 form. -/
def Readable (database : DbcDatabase) : Prop :=
  ∀ message ∈ database.messages, message.name.encodable = true ∧ ∀ signal ∈ message.signals,
    signal.name.encodable = true ∧ (∀ choice ∈ signal.choices, choice.2.encodable = true) ∧
      ∀ unit ∈ signal.unit, unit.encodable = true

theorem spelled_of_readable (readable : Readable database) : Spelled (outcomeOf scaling database frame) := by
  unfold Spelled outcomeOf
  dsimp only
  unfold decodeFrame
  split
  · rename_i decoded given
    split at given
    · cases given
    · rename_i message found
      obtain ⟨named, signals⟩ := readable message (DbcDatabase.lookup_mem found)
      split at given
      · cases given
      · obtain ⟨name, made⟩ := decodeMessage_ok scaling given
        refine ⟨name ▸ named, ?_⟩
        intro signal member
        obtain ⟨plan, held, decodes⟩ := made signal member
        obtain ⟨called, labels, units⟩ := signals plan.signal held
        obtain ⟨_, label, unit⟩ := SignalPlan.decode_ok scaling decodes
        refine ⟨SignalPlan.decode_name scaling decodes ▸ called, ?_, unit ▸ units⟩
        intro text labelled
        rw [label] at labelled
        obtain ⟨before, after, chosen, _⟩ := List.lookup_eq_some_iff.mp labelled
        have member : (plan.rawValue frame.data, text) ∈ plan.signal.choices := by
          rw [chosen]
          simp
        exact labels _ member
  · rename_i failure given
    split at given
    · cases given
      simp [messageNotFound, detailPayload, spelled]
    · rename_i message found
      obtain ⟨named, signals⟩ := readable message (DbcDatabase.lookup_mem found)
      split at given
      · cases given
        simp [frameTypeMismatch, detailPayload, spelled, named]
      · rcases decodeMessage_error scaling given with ⟨reason, rfl⟩ | rfl | ⟨signal, held, _, reason, rfl⟩
        · simp [decodeUnsupported, detailPayload, spelled, named, text_encodable]
        · simp [payloadTooShort, detailPayload, spelled, named]
        · simp [signalDecodeFailed, detailPayload, spelled, named, text_encodable, (signals signal held).1]

end Definitions

/-- The client accepts an answer, with the values that the Runtime gave, exactly if every outcome of the
submitted frames can cross. -/
theorem decodeFrames_accepted (scaling : Scaling) (database : DbcDatabase) (input : DecodeFrameSetInput)
    (submitted : List FrameWireBody) (work : DecodeFrameSet) (submits : submittedFrames input = .ok submitted)
    (receives : receivedWorkSet input.streamId submitted = .ok work) :
    (∃ body result, jsonBody (frameSetPayload (decodeFrames scaling database work)) = some body ∧
      readFrameSet body input submitted = .ok result ∧
      SameAnswer input (decodeFrames scaling database work) result) ↔
    ∀ frame ∈ work.frames, Exchangeable scaling database frame := by
  obtain ⟨stream, arrived⟩ := work_arrived submits receives
  have texts : spelled (frameSetPayload (decodeFrames scaling database work)) = true ↔
      ∀ frame ∈ work.frames, Spelled (outcomeOf scaling database frame) := by
    rw [spelled_answer, decodeFrames, List.forall_mem_map]
  constructor
  · rintro ⟨body, result, encoded, accepted, _⟩
    unfold jsonBody at encoded
    split at encoded
    · rename_i spelled
      cases encoded
      have countable := (readFrameSet_ok stream arrived).mp accepted |>.1
      exact fun frame member => ⟨texts.mp spelled frame member, countable frame member⟩
    · cases encoded
  · intro exchangeable
    have spelled := texts.mpr fun frame member => (exchangeable frame member).1
    obtain ⟨records, binds, same, outcomes⟩ := arrived.bound unreadableWorkSetMessage fun frame =>
      shownOutcome (outcomeOf scaling database frame)
    refine ⟨_, _, if_pos spelled, (readFrameSet_ok stream arrived).mpr
      ⟨fun frame member => (exchangeable frame member).2, records, binds, rfl⟩, ?_⟩
    refine ⟨⟨rfl, same⟩, by simp [decodeFrames], ?_, ?_⟩
    · rw [← arrived.sequences, decodeFrames, List.map_map]
      rfl
    · rw [outcomes, decodeFrames, List.forall₂_map_left_iff, List.forall₂_map_right_iff, List.forall₂_same]
      exact fun frame member => shown_same (exchangeable frame member).1

end Exchange

section Sample

/-- A database of one message with one unsigned signal at its start. -/
def sampleDatabase (length : Nat) (wide : 1 ≤ length) : DbcDatabase where
  messages := [{
    frameId := 0x123
    name := text "Counters"
    length := 8
    isExtended := false
    isFd := false
    signals := [{
      name := text "Ticks"
      startBit := 0
      length
      byteOrder := .littleEndian
      isSigned := false
      isFloat := false
      factor := 1
      offset := 0
      unit := none
      choices := []
      isMultiplexer := false
      multiplexerSignal := none
      multiplexerIds := none
      named := by decide +kernel
      wide
      choices_unique := by simp
      multiplexer_named := by simp
      ids_nonempty := by simp
      switch_alone := by simp
      together := by simp }]
    named := by decide +kernel
    id_range := by decide
    length_range := by decide
    signals_unique := by simp }]
  names_unique := by simp
  identifiers_unique := by simp

/-- Scaling without rounding, as doubles do it on small values. -/
def exactScaling : Scaling := fun raw factor offset => .finite (raw * factor + offset)

/-- A work set of one frame. -/
def sampleInput (data : Bytes) : DecodeFrameSetInput where
  projectPath := "p"
  assetId := "a"
  streamId := "s"
  frames := [{
    sequence := 1
    channelId := "can0"
    arbitrationId := 0x123
    isExtended := false
    isFd := false
    bitrateSwitch := false
    errorStateIndicator := false
    dlc := 8
    data
    direction := .rx
    hardwareTimestamp := none
    hostTimestamp := 2
    normalizedTimestamp := 2
    clockDomain := "host"
    timestampQuality := .host
    flags := 0 }]

/-- What the client makes of its request: what it has read of the body, where there is one. -/
def exchanged (database : DbcDatabase) (input : DecodeFrameSetInput) :
    Reading (Option (Reading DecodedFrameSetResult)) := do
  let submitted ← submittedFrames input
  let work ← receivedWorkSet input.streamId submitted
  return (jsonBody (frameSetPayload (decodeFrames exactScaling database work))).map fun body =>
    readFrameSet body input submitted

private theorem exchanged_ok {database : DbcDatabase} {input : DecodeFrameSetInput}
    {read : Option (Reading DecodedFrameSetResult)} (given : exchanged database input = .ok read) :
    ∃ submitted work, submittedFrames input = .ok submitted ∧ receivedWorkSet input.streamId submitted = .ok work ∧
      (jsonBody (frameSetPayload (decodeFrames exactScaling database work))).map
        (fun body => readFrameSet body input submitted) = read := by
  simp only [exchanged, bind_ok] at given
  obtain ⟨submitted, submits, work, receives, returned⟩ := given
  exact ⟨submitted, work, submits, receives, Except.ok.inj returned⟩

theorem decodeFrames_accepted_sample : ∃ submitted work body result,
    submittedFrames (sampleInput [1, 0, 0, 0, 0, 0, 0, 0]) = .ok submitted ∧ receivedWorkSet "s" submitted = .ok work ∧
      jsonBody (frameSetPayload (decodeFrames exactScaling (sampleDatabase 8 (by decide)) work)) = some body ∧
      readFrameSet body (sampleInput [1, 0, 0, 0, 0, 0, 0, 0]) submitted = .ok result ∧
      SameAnswer (sampleInput [1, 0, 0, 0, 0, 0, 0, 0])
        (decodeFrames exactScaling (sampleDatabase 8 (by decide)) work) result := by
  have sent : (exchanged (sampleDatabase 8 (by decide)) (sampleInput [1, 0, 0, 0, 0, 0, 0, 0])).isOk = true := by
    decide +kernel
  have readable : Readable (sampleDatabase 8 (by decide)) := by
    simp [Readable, sampleDatabase, text_encodable]
  have narrow : ∀ message ∈ (sampleDatabase 8 (by decide)).messages, ∀ signal ∈ message.signals,
      signal.length ≤ 53 := by
    simp [sampleDatabase]
  cases given : exchanged (sampleDatabase 8 (by decide)) (sampleInput [1, 0, 0, 0, 0, 0, 0, 0]) with
  | error fault =>
    rw [given] at sent
    cases sent
  | ok read =>
    obtain ⟨submitted, work, submits, receives, _⟩ := exchanged_ok given
    obtain ⟨body, result, crossed⟩ := (decodeFrames_accepted exactScaling (sampleDatabase 8 (by decide)) _ submitted
      work submits receives).mpr fun frame _ => ⟨spelled_of_readable readable, countable_of_narrow narrow⟩
    exact ⟨submitted, work, body, result, submits, receives, crossed⟩

/-- A raw value of `2 ^ 53` is no safe integer, and the client refuses the whole answer. -/
theorem decodeFrames_refused : ∃ submitted work body,
    submittedFrames (sampleInput [0, 0, 0, 0, 0, 0, 0x20, 0]) = .ok submitted ∧
      receivedWorkSet "s" submitted = .ok work ∧
      jsonBody (frameSetPayload (decodeFrames exactScaling (sampleDatabase 64 (by decide)) work)) = some body ∧
      readFrameSet body (sampleInput [0, 0, 0, 0, 0, 0, 0x20, 0]) submitted = .error unreadableWorkSetMessage := by
  have evaluated : exchanged (sampleDatabase 64 (by decide)) (sampleInput [0, 0, 0, 0, 0, 0, 0x20, 0]) =
      .ok (some (.error unreadableWorkSetMessage)) := by
    decide +kernel
  obtain ⟨submitted, work, submits, receives, read⟩ := exchanged_ok evaluated
  obtain ⟨body, encoded, refused⟩ := Option.map_eq_some_iff.mp read
  exact ⟨submitted, work, body, submits, receives, encoded, refused⟩

end Sample

end CanX.Api
