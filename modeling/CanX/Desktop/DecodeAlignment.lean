import CanX.Desktop.DbcDecodeClient

/-! What an accepted answer of the decode endpoint is about: each record carries the frame submitted at its index,
whose echo agreed in every field, and one half of its outcome. -/

namespace CanX.Desktop.DbcDecodeClient

section Exchange

/-- The requests that were sent, and what came of the call. -/
structure Exchange where
  requests : List (List FrameWireBody)
  outcome : Reading DecodedFrameSetResult

/-- `decodeDbcFrameSet`: the Runtime answers a request with a JSON value, or the text of a failure. -/
def decodeDbcFrameSet (respond : List FrameWireBody → Reading JsValue) (input : DecodeFrameSetInput) : Exchange :=
  match submittedFrames input with
  | .error message => ⟨[], .error message⟩
  | .ok submitted =>
    ⟨[submitted], do
      let payload ← respond submitted
      readFrameSet payload input submitted⟩

end Exchange

section Alignment

/-- `value[key]` of an object. -/
def property (value : JsValue) : WireMap :=
  match value with
  | .object fields => propertyOf fields
  | _ => fun _ => .undefined

def directionLiteral : FrameDirection → String
  | .rx => "rx"
  | .tx => "tx"

def qualityLiteral : TimestampQuality → String
  | .hardware => "hardware"
  | .host => "host"
  | .estimated => "estimated"

def nullableNumber : Option JsNumber → JsValue
  | none => .null
  | some number => .number number

/-- The sixteen fields of a frame on the wire. -/
def frameFields (frame : RuntimeFrame) : List (String × JsValue) :=
  [("sequence", .number frame.sequence), ("channel_id", .string frame.channelId),
    ("arbitration_id", .number frame.arbitrationId), ("is_extended", .boolean frame.isExtended),
    ("is_fd", .boolean frame.isFd), ("bitrate_switch", .boolean frame.bitrateSwitch),
    ("error_state_indicator", .boolean frame.errorStateIndicator), ("dlc", .number frame.dlc),
    ("data", .string (Api.hexUpper frame.data)), ("direction", .string (directionLiteral frame.direction)),
    ("hardware_timestamp", nullableNumber frame.hardwareTimestamp), ("host_timestamp", .number frame.hostTimestamp),
    ("normalized_timestamp", .number frame.normalizedTimestamp), ("clock_domain", .string frame.clockDomain),
    ("timestamp_quality", .string (qualityLiteral frame.timestampQuality)), ("flags", .number frame.flags)]

/-- The value echoes the frame in every field. -/
def Echoes (frame : RuntimeFrame) (value : JsValue) : Prop :=
  ∀ field ∈ frameFields frame, property value field.1 = field.2

/-- One half of an outcome is there and the other is null. -/
inductive Half (value : JsValue) : DecodedFrameOutcome → Prop
  | decoded {messageName : String} {signals : List DecodedSignalValue}
      (here : property value "decoded" ≠ .null) (other : property value "failure" = .null)
      (name : property (property value "decoded") "message_name" = .string messageName) :
      Half value (.decoded messageName signals)
  | failure {code : String} (here : property value "failure" ≠ .null) (other : property value "decoded" = .null)
      (name : property (property value "failure") "code" = .string code) : Half value (.failure code)

/-- The values of an answer, the frames submitted and the records, index by index. -/
inductive Aligned : List JsValue → List RuntimeFrame → List DecodedFrameRecord → Prop
  | nil : Aligned [] [] []
  | cons {value : JsValue} {frame : RuntimeFrame} {outcome : DecodedFrameOutcome} {values : List JsValue}
      {frames : List RuntimeFrame} {records : List DecodedFrameRecord}
      (echoes : Echoes frame (property value "frame")) (half : Half value outcome)
      (rest : Aligned values frames records) :
      Aligned (value :: values) (frame :: frames) (⟨frame, outcome⟩ :: records)

end Alignment

section Readers

variable {message : String} {value : JsValue}

theorem readObject_ok {record : WireMap} (read : readObject message value = .ok record) : record = property value := by
  unfold readObject at read
  split at read
  · exact (Except.ok.inj read).symm
  · exact (Except.ok.inj read).symm
  · cases read

theorem throwIf_ok {condition : Prop} [Decidable condition] {done : Unit} :
    throwIf condition message = .ok done ↔ ¬ condition := by
  by_cases held : condition
  · simp [throwIf, held]
  · simp [throwIf, held]

theorem readArray_ok {Item : Type} {readItem : JsValue → Reading Item} {items : List Item}
    (read : readArray message value readItem = .ok items) :
    ∃ elements, value = .array elements ∧
      List.Forall₂ (fun element item => readItem element = .ok item) elements items := by
  unfold readArray at read
  split at read
  · rename_i elements
    exact ⟨elements, rfl, mapM_ok.mp read⟩
  · cases read

theorem readString_ok {text : String} (read : readString message value = .ok text) : value = .string text := by
  unfold readString at read
  split at read
  · rw [Except.ok.inj read]
  · cases read

theorem readBoolean_ok {flag : Bool} (read : readBoolean message value = .ok flag) : value = .boolean flag := by
  unfold readBoolean at read
  split at read
  · rw [Except.ok.inj read]
  · cases read

theorem readInteger_ok {number : JsNumber} (read : readInteger message value = .ok number) :
    value = .number number ∧ isSafeInteger number = true := by
  unfold readInteger at read
  split at read
  · split at read
    · rename_i safe
      rw [← Except.ok.inj read]
      exact ⟨rfl, safe⟩
    · cases read
  · cases read

theorem readFiniteNumber_ok {number : JsNumber} (read : readFiniteNumber message value = .ok number) :
    value = .number number := by
  unfold readFiniteNumber at read
  split at read
  · rw [Except.ok.inj read]
  · cases read

theorem readNullableFiniteNumber_ok {number : Option JsNumber}
    (read : readNullableFiniteNumber message value = .ok number) : value = nullableNumber number := by
  unfold readNullableFiniteNumber at read
  split at read
  · rw [← Except.ok.inj read]
    rfl
  · obtain ⟨inner, here, same⟩ := bind_ok.mp ((map_eq_pure_bind some _).symm.trans read)
    rw [← Except.ok.inj same]
    exact readFiniteNumber_ok here

theorem readDirection_ok {direction : FrameDirection} (read : readDirection message value = .ok direction) :
    value = .string (directionLiteral direction) := by
  unfold readDirection at read
  split at read
  · rw [← Except.ok.inj read]
    rfl
  · rw [← Except.ok.inj read]
    rfl
  · cases read

private theorem readTimestampQuality_ok {quality : TimestampQuality}
    (read : readTimestampQuality message value = .ok quality) :
    value = .string (qualityLiteral quality) := by
  unfold readTimestampQuality at read
  split at read
  · rw [← Except.ok.inj read]
    rfl
  · rw [← Except.ok.inj read]
    rfl
  · rw [← Except.ok.inj read]
    rfl
  · cases read

end Readers

section Frames

variable {message : String} {value : JsValue} {frame : RuntimeFrame} {body echo : FrameWireBody}

private theorem isSameFrame_eq (same : isSameFrame echo body = true) : echo = body := by
  simp only [isSameFrame, Bool.and_eq_true, decide_eq_true_eq] at same
  cases echo
  cases body
  simpa [and_assoc] using same

theorem sequenceToNumber_ok {sequence : Int} {number : JsNumber}
    (given : sequenceToNumber sequence message = .ok number) :
    number = sequence ∧ sequence.natAbs ≤ maxSafeInteger := by
  unfold sequenceToNumber at given
  simp only at given
  split at given
  · rename_i safe
    have small := nearestDouble_safe.mp safe
    rw [← Except.ok.inj given, nearestDouble_small small]
    exact ⟨rfl, small⟩
  · cases given

/-- What is read to be the frame that was sent echoes it. -/
theorem echoes_of_read {refusal : String} (sent : frameToWire frame refusal = .ok body)
    (read : readFrameWire message value = .ok echo)
    (same : isSameFrame echo body = true) : Echoes frame value := by
  obtain rfl := isSameFrame_eq same
  unfold frameToWire at sent
  obtain ⟨number, carried, sent⟩ := bind_ok.mp sent
  obtain ⟨rfl, _⟩ := sequenceToNumber_ok carried
  obtain rfl := Except.ok.inj sent
  simp only [readFrameWire, bind_ok] at read
  obtain ⟨record, object, sequence, readSequence, channel, readChannel, arbitration, readArbitration, extended,
    readExtended, fd, readFd, bitrate, readBitrate, state, readState, dlc, readDlc, data, readData, direction,
    readDirection, hardware, readHardware, host, readHost, normalized, readNormalized, clock, readClock, quality,
    readQuality, flags, readFlags, read⟩ := read
  obtain rfl := readObject_ok object
  have fields := Except.ok.inj read
  simp only [FrameWireBody.mk.injEq] at fields
  obtain ⟨rfl, rfl, rfl, rfl, rfl, rfl, rfl, rfl, rfl, rfl, rfl, rfl, rfl, rfl, rfl, rfl⟩ := fields
  simp only [Echoes, frameFields, List.forall_mem_cons, List.not_mem_nil, false_implies, implies_true, and_true]
  exact ⟨(readInteger_ok readSequence).1, readString_ok readChannel, (readInteger_ok readArbitration).1,
    readBoolean_ok readExtended, readBoolean_ok readFd, readBoolean_ok readBitrate, readBoolean_ok readState,
    (readInteger_ok readDlc).1, readString_ok readData, readDirection_ok readDirection,
    readNullableFiniteNumber_ok readHardware, readFiniteNumber_ok readHost, readFiniteNumber_ok readNormalized,
    readString_ok readClock, readTimestampQuality_ok readQuality, (readInteger_ok readFlags).1⟩

private theorem isNull_iff : isNull value = true ↔ value = .null := by
  cases value with
  | null => simp [isNull]
  | _ => simp [isNull]

/-- An outcome that is read has one half. -/
theorem readOutcome_half {wire : WireOutcome} (read : readOutcome message value = .ok wire) :
    readFrameWire message (property value "frame") = .ok wire.frame ∧ Half value wire.outcome := by
  simp only [readOutcome, bind_ok] at read
  obtain ⟨record, object, echo, echoed, _, exclusive, read⟩ := read
  obtain rfl := readObject_ok object
  have different : isNull (property value "decoded") ≠ isNull (property value "failure") := by
    intro same
    rw [throwIf, if_pos same] at exclusive
    cases exclusive
  split at read
  · rename_i absent
    simp only [readFailure, bind_ok] at read
    obtain ⟨outcome, ⟨record, object, code, readCode, _, _, _, _, _, _, _, _, half⟩, read⟩ := read
    obtain rfl := readObject_ok object
    obtain rfl := Except.ok.inj half
    obtain rfl := Except.ok.inj read
    refine ⟨echoed, .failure ?_ (isNull_iff.mp absent) (readString_ok readCode)⟩
    intro null
    exact different (absent.trans (isNull_iff.mpr null).symm)
  · rename_i present
    simp only [readDecoded, bind_ok] at read
    obtain ⟨outcome, ⟨record, object, name, readName, signals, _, half⟩, read⟩ := read
    obtain rfl := readObject_ok object
    obtain rfl := Except.ok.inj half
    obtain rfl := Except.ok.inj read
    have here : property value "decoded" ≠ .null := fun null => present (isNull_iff.mpr null)
    refine ⟨echoed, .decoded here ?_ (readString_ok readName)⟩
    have absent : isNull (property value "failure") = true := by
      cases other : isNull (property value "failure") with
      | true => rfl
      | false => exact absurd ((Bool.not_eq_true _ ▸ present).trans other.symm) different
    exact isNull_iff.mp absent

end Frames

section Records

variable {message refusal : String} {values : List JsValue} {wires : List WireOutcome} {frames : List RuntimeFrame}
  {bodies : List FrameWireBody} {records : List DecodedFrameRecord}

theorem bindRecords_aligned (reads : List.Forall₂ (fun value wire => readOutcome message value = .ok wire) values wires)
    (sends : List.Forall₂ (fun frame body => frameToWire frame refusal = .ok body) frames bodies)
    (whole : wires.length = bodies.length) (bound : bindRecords message wires frames bodies = .ok records) :
    Aligned values frames records := by
  induction reads generalizing frames bodies records with
  | nil =>
    cases sends with
    | nil =>
      rw [← Except.ok.inj bound]
      exact .nil
    | cons sent rest => cases whole
  | @cons value wire values wires read reads ih =>
    cases sends with
    | nil => cases whole
    | @cons frame body frames bodies sent sends =>
      rw [bindRecords] at bound
      split at bound
      · rename_i same
        obtain ⟨others, binds, joined⟩ := bind_ok.mp ((map_eq_pure_bind _ _).symm.trans bound)
        obtain ⟨echoed, half⟩ := readOutcome_half read
        rw [← Except.ok.inj joined]
        exact .cons (echoes_of_read sent echoed same) half (ih sends (Nat.succ.inj whole) binds)
      · cases bound

theorem Aligned.submitted (aligned : Aligned values frames records) :
    records.map DecodedFrameRecord.frame = frames ∧ values.length = frames.length := by
  induction aligned with
  | nil => exact ⟨rfl, rfl⟩
  | cons _ _ _ ih => exact ⟨congrArg (_ :: ·) ih.1, congrArg Nat.succ ih.2⟩

end Records

section Requests

variable {input : DecodeFrameSetInput} {submitted : List FrameWireBody} {frames : List RuntimeFrame}

private theorem requireStrictlyIncreasing_ok : requireStrictlyIncreasing frames = .ok () ↔
    (frames.map RuntimeFrame.sequence).Pairwise (· < ·) := by
  rw [← List.isChain_iff_pairwise]
  induction frames using requireStrictlyIncreasing.induct with
  | case1 previous current rest falls =>
    rw [requireStrictlyIncreasing, if_pos falls]
    simp [Int.not_lt.mpr falls]
  | case2 previous current rest rises ih =>
    rw [requireStrictlyIncreasing, if_neg rises, ih]
    simp [Int.not_le.mp rises]
  | case3 frames short =>
    match frames, short with
    | [], _ => simp [requireStrictlyIncreasing]
    | [only], _ => simp [requireStrictlyIncreasing]
    | previous :: current :: rest, short => exact absurd rfl (short previous current rest)

/-- What is submitted rises, and JSON carries its sequences. -/
theorem submittedFrames_ok (given : submittedFrames input = .ok submitted) :
    (input.frames.map RuntimeFrame.sequence).Pairwise (· < ·) ∧
      (∀ frame ∈ input.frames, frame.sequence.natAbs ≤ maxSafeInteger) ∧
      List.Forall₂ (fun frame body => frameToWire frame invalidWorkSetMessage = .ok body) input.frames submitted := by
  simp only [submittedFrames, bind_ok] at given
  obtain ⟨_, _, _, rises, sent⟩ := given
  refine ⟨requireStrictlyIncreasing_ok.mp rises, ?_, mapM_ok.mp sent⟩
  intro frame member
  obtain ⟨body, _, carried⟩ := mapM_member sent member
  obtain ⟨number, carried, _⟩ := bind_ok.mp carried
  exact (sequenceToNumber_ok carried).2

/-- An answer is accepted only where it is aligned with what was submitted, and a work set whose sequences do not rise
or exceed what JSON carries is refused with nothing sent. -/
theorem decodeDbcFrameSet_aligned (respond : List FrameWireBody → Reading JsValue) (input : DecodeFrameSetInput) :
    (∀ result, (decodeDbcFrameSet respond input).outcome = .ok result →
      ∃ submitted payload values, (decodeDbcFrameSet respond input).requests = [submitted] ∧
        respond submitted = .ok payload ∧ property payload "outcomes" = .array values ∧
        Aligned values input.frames result.records ∧ result.records.map DecodedFrameRecord.frame = input.frames ∧
        result.frameCount = input.frames.length ∧ result.streamId = input.streamId ∧
        property payload "stream_id" = .string input.streamId ∧
        result.sequences = input.frames.map RuntimeFrame.sequence) ∧
    ((¬ (input.frames.map RuntimeFrame.sequence).Pairwise (· < ·) ∨
        ∃ frame ∈ input.frames, maxSafeInteger < frame.sequence.natAbs) →
      (decodeDbcFrameSet respond input).requests = [] ∧
        ∃ message, (decodeDbcFrameSet respond input).outcome = .error message) := by
  unfold decodeDbcFrameSet
  cases given : submittedFrames input with
  | error message =>
    constructor
    · intro result accepted
      cases accepted
    · intro _
      exact ⟨rfl, message, rfl⟩
  | ok submitted =>
    obtain ⟨rises, carried, sends⟩ := submittedFrames_ok given
    constructor
    · intro result accepted
      obtain ⟨payload, answered, accepted⟩ := bind_ok.mp accepted
      simp only [readFrameSet, bind_ok, throwIf_ok] at accepted
      obtain ⟨record, object, _, _, _, _, streamId, readStream, _, stream, sequences, _, _, same, frameCount, _, wires,
        outcomes, _, counted, records, bound, accepted⟩ := accepted
      obtain rfl := readObject_ok object
      obtain rfl := Except.ok.inj accepted
      obtain ⟨values, array, reads⟩ := readArray_ok outcomes
      have asked : streamId = input.streamId := not_not.mp stream
      have whole : wires.length = submitted.length := by
        obtain ⟨here, there⟩ := not_or.mp counted
        exact Rat.natCast_inj.mp ((not_not.mp here).symm.trans (not_not.mp there))
      have aligned := bindRecords_aligned reads sends whole bound
      have count : wires.length = input.frames.length := whole.trans sends.length_eq.symm
      exact ⟨submitted, payload, values, rfl, answered, array, aligned, aligned.submitted.1, count, asked,
        asked ▸ readString_ok readStream, not_not.mp same⟩
    · rintro (falls | ⟨frame, member, large⟩)
      · exact absurd rises falls
      · exact absurd (carried frame member) (Nat.not_le.mpr large)

end Requests

end CanX.Desktop.DbcDecodeClient
