import CanX.Dbc.Definition
import CanX.Domain.Frame

/-! The decode engine: one extraction recipe for each signal, compiled once, and one outcome for each
frame of a work set. Scaling is done in floating point and stays a parameter. -/

namespace CanX.Dbc

open Domain

section Results

structure DecodedSignal where
  name : Text
  rawValue : Int
  physicalValue : Rat
  choiceLabel : Option Text
  unit : Option Text
  named : name.blank = false

structure DecodedFrame where
  frame : Frame
  messageName : Text
  signals : List DecodedSignal
  named : messageName.blank = false
  signals_unique : (signals.map DecodedSignal.name).Nodup

/-- The plain values in the details of a failure. -/
inductive DetailValue where
  | integer (value : Int)
  | boolean (value : Bool)
  | text (value : Text)

structure DbcDecodeFailure where
  code : String
  message : String
  details : List (String × DetailValue)
  recoverable : Bool := false
  source : String := "dbc"

/-- What happened to exactly one frame. -/
structure DecodedFrameOutcome where
  frame : Frame
  result : Except DbcDecodeFailure DecodedFrame
  belongs : ∀ decoded, result = .ok decoded → decoded.frame = frame

end Results

section Failures

def messageNotFound (frame : Frame) : DbcDecodeFailure where
  code := "dbc.message_not_found"
  message := "The frame's identifier pair is not defined in this database."
  details := [("sequence", .integer frame.sequence), ("arbitration_id", .integer frame.arbitrationId),
    ("is_extended", .boolean frame.isExtended), ("is_fd", .boolean frame.isFd)]

def frameTypeMismatch (frame : Frame) (message : DbcMessage) : DbcDecodeFailure where
  code := "dbc.frame_type_mismatch"
  message := "The frame and its DBC message disagree about being CAN FD."
  details := [("sequence", .integer frame.sequence), ("arbitration_id", .integer frame.arbitrationId),
    ("is_extended", .boolean frame.isExtended), ("message_name", .text message.name),
    ("message_is_fd", .boolean message.isFd), ("frame_is_fd", .boolean frame.isFd)]

def decodeUnsupported (message : DbcMessage) (reason : String) : DbcDecodeFailure where
  code := "dbc.decode_unsupported"
  message := "This DBC message definition cannot be decoded unambiguously."
  details := [("message_name", .text message.name), ("reason", .text (text reason))]

def payloadTooShort (frame : Frame) (message : DbcMessage) : DbcDecodeFailure where
  code := "dbc.payload_too_short"
  message := "The frame payload is shorter than the DBC message defines."
  details := [("sequence", .integer frame.sequence), ("arbitration_id", .integer frame.arbitrationId),
    ("is_extended", .boolean frame.isExtended), ("message_name", .text message.name),
    ("expected_length", .integer message.length), ("actual_length", .integer frame.data.length)]

def signalDecodeFailed (explanation : String) (message : DbcMessage) (signal : DbcSignal) (reason : String) :
    DbcDecodeFailure where
  code := "dbc.signal_decode_failed"
  message := explanation
  details := [("message_name", .text message.name), ("signal_name", .text signal.name),
    ("reason", .text (text reason))]

end Failures

/-- What `float(raw) * factor + offset` comes to. -/
inductive Physical where
  | finite (value : Rat)
  | nonFinite
  | raised (error : String)

abbrev Scaling := Int → Rat → Rat → Physical

/-- `int.from_bytes(…, "big")`. -/
def fromBytesBig (bytes : Bytes) : Nat := bytes.foldl (fun number byte => number * 256 + byte.toNat) 0

def fromBytesLittle (bytes : Bytes) : Nat := fromBytesBig bytes.reverse

/-- A compiled recipe; the choices and the multiplexer ids are those of its signal. -/
structure SignalPlan where
  signal : DbcSignal
  bigEndian : Bool
  byteStart : Nat
  byteCount : Nat
  shift : Nat

namespace SignalPlan

def mask (plan : SignalPlan) : Nat := (1 <<< plan.signal.length) - 1

def signBit (plan : SignalPlan) : Nat := if plan.signal.isSigned then 1 <<< (plan.signal.length - 1) else 0

def rawValue (plan : SignalPlan) (data : Bytes) : Int :=
  let window := (data.drop plan.byteStart).take plan.byteCount
  let number := if plan.bigEndian then fromBytesBig window else fromBytesLittle window
  let value := (number >>> plan.shift) &&& plan.mask
  if value &&& plan.signBit ≠ 0 then (value : Int) - (plan.mask + 1) else value

def decode (scaling : Scaling) (plan : SignalPlan) (message : DbcMessage) (data : Bytes) :
    Except DbcDecodeFailure DecodedSignal :=
  let raw := plan.rawValue data
  match scaling raw plan.signal.factor plan.signal.offset with
  | .raised error => .error (signalDecodeFailed
      "The signal's bits could not be converted to a physical value." message plan.signal error)
  | .nonFinite => .error (signalDecodeFailed
      "The signal's physical value is not a finite number." message plan.signal "non_finite_physical_value")
  | .finite physical => .ok
      { name := plan.signal.name
        rawValue := raw
        physicalValue := physical
        choiceLabel := plan.signal.choices.lookup raw
        unit := plan.signal.unit
        named := plan.signal.named }

/-- A raw value has no more bits than its signal. -/
theorem rawValue_bound (plan : SignalPlan) (data : Bytes) : (plan.rawValue data).natAbs ≤ plan.mask := by
  unfold rawValue
  dsimp only
  generalize (if plan.bigEndian then _ else _ : Nat) = number
  have within : (number >>> plan.shift) &&& plan.mask ≤ plan.mask := Nat.and_le_right
  split
  · rename_i signed
    have positive : (number >>> plan.shift) &&& plan.mask ≠ 0 := by
      intro zero
      rw [zero, Nat.zero_and] at signed
      exact signed rfl
    omega
  · rw [Int.natAbs_natCast]
    exact within

/-- The signal takes part where the switch reads `selected`. -/
def activeFor (selected : Option Int) (plan : SignalPlan) : Bool :=
  match plan.signal.multiplexerIds, selected with
  | none, _ => true
  | some _, none => false
  | some ids, some raw => ids.any fun id => (id : Int) = raw

end SignalPlan

section Compile

def compileSignal (signal : DbcSignal) (lengthBits : Nat) : Option SignalPlan :=
  if lengthBits < signal.length then none
  else match signal.byteOrder with
    | .littleEndian =>
      if lengthBits < signal.startBit + signal.length then none
      else
        let shift := signal.startBit % 8
        some ⟨signal, false, signal.startBit / 8, (shift + signal.length + 7) / 8, shift⟩
    | .bigEndian =>
      let networkStart := 8 * (signal.startBit / 8) + (7 - signal.startBit % 8)
      if lengthBits < networkStart + signal.length then none
      else
        let byteStart := networkStart / 8
        let byteCount := (networkStart + signal.length - 1) / 8 - byteStart + 1
        let shift : Int := byteCount * 8 - (networkStart - byteStart * 8) - signal.length
        if shift < 0 then none else some ⟨signal, true, byteStart, byteCount, shift.toNat⟩

/-- The single switch of a message, or the reason there is none. -/
def resolveMultiplexer (message : DbcMessage) : Except String (Option DbcSignal) :=
  match message.signals.filter DbcSignal.isMultiplexer with
  | _ :: _ :: _ => .error "ambiguous_multiplexing"
  | switches =>
    if message.signals.all fun signal => signal.multiplexerSignal.all fun parent =>
        switches.head?.any fun switch => parent = switch.name
    then .ok switches.head?
    else .error "ambiguous_multiplexing"

theorem compileSignal_signal {signal : DbcSignal} {lengthBits : Nat} {plan : SignalPlan}
    (compiled : compileSignal signal lengthBits = some plan) : plan.signal = signal := by
  unfold compileSignal at compiled
  split at compiled
  · cases compiled
  · split at compiled
    · split at compiled <;> cases compiled
      rfl
    · dsimp only at compiled
      split at compiled
      · cases compiled
      · split at compiled <;> cases compiled
        rfl

/-- One recipe for each signal, up to the first that has none. -/
def compileSignals (lengthBits : Nat) : (signals : List DbcSignal) →
    Except String { plans : List SignalPlan // plans.map SignalPlan.signal = signals }
  | [] => .ok ⟨[], rfl⟩
  | signal :: rest =>
    if signal.isFloat then .error "float_signal_payload"
    else match compiled : compileSignal signal lengthBits with
      | none => .error "signal_outside_message_payload"
      | some plan => match compileSignals lengthBits rest with
        | .error reason => .error reason
        | .ok plans => .ok ⟨plan :: plans, by rw [List.map_cons, compileSignal_signal compiled, plans.property]⟩

/-- The recipes of a message, in its order, and that of its switch. -/
structure MessagePlan (message : DbcMessage) where
  signals : List SignalPlan
  multiplexer : Option SignalPlan
  compiled : signals.map SignalPlan.signal = message.signals

/-- `_compile_message`: the recipes, or the reason there are none. -/
def compileMessage (message : DbcMessage) : Except String (MessagePlan message) := do
  let switch ← resolveMultiplexer message
  let plans ← compileSignals (message.length * 8) message.signals
  return ⟨plans, switch.bind fun switch => plans.val.find? fun plan => plan.signal.name = switch.name,
    plans.property⟩

end Compile

section Engine

variable (scaling : Scaling) {message : DbcMessage}

namespace MessagePlan

/-- The raw value of the switch, which selects the active branch. -/
def selected (plan : MessagePlan message) (data : Bytes) : Option Int :=
  plan.multiplexer.map fun switch => switch.rawValue data

def active (plan : MessagePlan message) (data : Bytes) : List SignalPlan :=
  plan.signals.filter (SignalPlan.activeFor (plan.selected data))

theorem active_unique (plan : MessagePlan message) (data : Bytes) :
    ((plan.active data).map fun active => active.signal.name).Nodup := by
  have whole : (plan.signals.map fun each => each.signal.name).Nodup := by
    have names : (plan.signals.map fun each => each.signal.name) = message.signals.map DbcSignal.name := by
      rw [← plan.compiled, List.map_map]
      rfl
    exact names ▸ message.signals_unique
  exact (List.filter_sublist.map _).nodup whole

end MessagePlan

theorem SignalPlan.decode_name {plan : SignalPlan} {data : Bytes} {signal : DecodedSignal}
    (decoded : plan.decode scaling message data = .ok signal) : signal.name = plan.signal.name := by
  unfold SignalPlan.decode at decoded
  dsimp only at decoded
  split at decoded <;> cases decoded
  rfl

def decodeSignals (message : DbcMessage) (data : Bytes) : (plans : List SignalPlan) →
    Except DbcDecodeFailure { signals : List DecodedSignal //
      signals.map DecodedSignal.name = plans.map fun plan => plan.signal.name }
  | [] => .ok ⟨[], rfl⟩
  | plan :: rest =>
    match decoded : plan.decode scaling message data with
    | .error failure => .error failure
    | .ok signal => match decodeSignals message data rest with
      | .error failure => .error failure
      | .ok signals => .ok ⟨signal :: signals, by
          rw [List.map_cons, SignalPlan.decode_name scaling decoded, signals.property, List.map_cons]⟩

/-- `_MessagePlan.decode`. -/
def decodeMessage (message : DbcMessage) (frame : Frame) : Except DbcDecodeFailure DecodedFrame :=
  match compileMessage message with
  | .error reason => .error (decodeUnsupported message reason)
  | .ok plan =>
    if frame.data.length < message.length then .error (payloadTooShort frame message)
    else match decodeSignals scaling message frame.data (plan.active frame.data) with
      | .error failure => .error failure
      | .ok signals => .ok ⟨frame, message.name, signals, message.named, by
          rw [signals.property]
          exact plan.active_unique frame.data⟩

def DbcDatabase.lookup (database : DbcDatabase) (frameId : Nat) (isExtended : Bool) : Option DbcMessage :=
  database.messages.find? fun message => message.frameId = frameId ∧ message.isExtended = isExtended

def decodeFrame (database : DbcDatabase) (frame : Frame) : Except DbcDecodeFailure DecodedFrame :=
  match database.lookup frame.arbitrationId frame.isExtended with
  | none => .error (messageNotFound frame)
  | some message =>
    if message.isFd ≠ frame.isFd then .error (frameTypeMismatch frame message)
    else decodeMessage scaling message frame

private theorem decodeMessage_frame {frame : Frame} {decoded : DecodedFrame}
    (given : decodeMessage scaling message frame = .ok decoded) : decoded.frame = frame := by
  unfold decodeMessage at given
  split at given
  · cases given
  · split at given
    · cases given
    · split at given <;> cases given
      rfl

theorem decodeFrame_frame {database : DbcDatabase} {frame : Frame} {decoded : DecodedFrame}
    (given : decodeFrame scaling database frame = .ok decoded) : decoded.frame = frame := by
  unfold decodeFrame at given
  split at given
  · cases given
  · split at given
    · cases given
    · exact decodeMessage_frame scaling given

theorem SignalPlan.decode_ok {plan : SignalPlan} {data : Bytes} {signal : DecodedSignal}
    (decoded : plan.decode scaling message data = .ok signal) :
    signal.rawValue = plan.rawValue data ∧ signal.choiceLabel = plan.signal.choices.lookup (plan.rawValue data) ∧
      signal.unit = plan.signal.unit := by
  unfold SignalPlan.decode at decoded
  dsimp only at decoded
  split at decoded <;> cases decoded
  exact ⟨rfl, rfl, rfl⟩

theorem SignalPlan.decode_error {plan : SignalPlan} {data : Bytes} {failure : DbcDecodeFailure}
    (failed : plan.decode scaling message data = .error failure) :
    ∃ explanation reason, failure = signalDecodeFailed explanation message plan.signal reason := by
  unfold SignalPlan.decode at failed
  dsimp only at failed
  split at failed <;> cases failed
  · exact ⟨_, _, rfl⟩
  · exact ⟨_, _, rfl⟩

/-- Every value comes of one of the recipes, and the first recipe that fails is the failure. -/
theorem decodeSignals_from {data : Bytes} {plans : List SignalPlan} :
    (∀ signals, decodeSignals scaling message data plans = .ok signals → ∀ signal ∈ signals.val,
      ∃ plan ∈ plans, plan.decode scaling message data = .ok signal) ∧
    ∀ failure, decodeSignals scaling message data plans = .error failure →
      ∃ plan ∈ plans, plan.decode scaling message data = .error failure := by
  induction plans with
  | nil =>
    constructor
    · intro signals given
      cases given
      simp
    · intro failure given
      cases given
  | cons plan rest ih =>
    constructor
    · intro signals given signal member
      unfold decodeSignals at given
      split at given
      · cases given
      · rename_i first decoded
        split at given
        · cases given
        · rename_i others found
          cases given
          rcases List.mem_cons.mp member with rfl | later
          · exact ⟨plan, List.mem_cons_self, decoded⟩
          · obtain ⟨source, held, made⟩ := ih.1 others found signal later
            exact ⟨source, List.mem_cons_of_mem plan held, made⟩
    · intro failure given
      unfold decodeSignals at given
      split at given
      · rename_i raised failed
        cases given
        exact ⟨plan, List.mem_cons_self, failed⟩
      · split at given
        · rename_i raised found
          cases given
          obtain ⟨source, held, failed⟩ := ih.2 failure found
          exact ⟨source, List.mem_cons_of_mem plan held, failed⟩
        · cases given

theorem MessagePlan.active_signal {plan : MessagePlan message} {data : Bytes} {each : SignalPlan}
    (member : each ∈ plan.active data) : each.signal ∈ message.signals := by
  rw [← plan.compiled]
  exact List.mem_map_of_mem (List.mem_of_mem_filter member)

/-- What a decoded frame shows comes of the signals of its message. -/
theorem decodeMessage_ok {frame : Frame} {decoded : DecodedFrame}
    (given : decodeMessage scaling message frame = .ok decoded) :
    decoded.messageName = message.name ∧ ∀ signal ∈ decoded.signals, ∃ plan : SignalPlan,
      plan.signal ∈ message.signals ∧ plan.decode scaling message frame.data = .ok signal := by
  unfold decodeMessage at given
  split at given
  · cases given
  · rename_i plan _
    split at given
    · cases given
    · split at given
      · cases given
      · rename_i signals found
        cases given
        refine ⟨rfl, ?_⟩
        intro signal member
        obtain ⟨source, active, made⟩ := (decodeSignals_from scaling).1 signals found signal member
        exact ⟨source, plan.active_signal active, made⟩

theorem decodeMessage_error {frame : Frame} {failure : DbcDecodeFailure}
    (given : decodeMessage scaling message frame = .error failure) :
    (∃ reason, failure = decodeUnsupported message reason) ∨ failure = payloadTooShort frame message ∨
      ∃ signal ∈ message.signals, ∃ explanation reason,
        failure = signalDecodeFailed explanation message signal reason := by
  unfold decodeMessage at given
  split at given
  · cases given
    exact .inl ⟨_, rfl⟩
  · rename_i plan _
    split at given
    · cases given
      exact .inr (.inl rfl)
    · split at given
      · rename_i raised found
        cases given
        obtain ⟨source, active, failed⟩ := (decodeSignals_from scaling).2 failure found
        obtain ⟨explanation, reason, same⟩ := SignalPlan.decode_error scaling failed
        exact .inr (.inr ⟨source.signal, plan.active_signal active, explanation, reason, same⟩)
      · cases given

theorem DbcDatabase.lookup_mem {database : DbcDatabase} {frameId : Nat} {isExtended : Bool}
    (found : database.lookup frameId isExtended = some message) : message ∈ database.messages :=
  List.mem_of_find?_eq_some found

def outcomeOf (database : DbcDatabase) (frame : Frame) : DecodedFrameOutcome where
  frame
  result := decodeFrame scaling database frame
  belongs := fun _ => decodeFrame_frame scaling

end Engine

section WorkSets

/-- The frames of one decode request: ordered, bounded, gaps allowed. -/
structure DecodeFrameSet where
  streamId : String
  frames : List Frame
  stream_named : (text streamId).blank = false
  nonempty : frames ≠ []
  bounded : frames.length ≤ 1000
  increasing : (frames.map Frame.sequence).IsChain (· < ·)

/-- One outcome for each submitted frame, in order. -/
structure DecodedFrameSet where
  streamId : String
  outcomes : List DecodedFrameOutcome
  stream_named : (text streamId).blank = false
  nonempty : outcomes ≠ []
  increasing : (outcomes.map fun outcome => outcome.frame.sequence).IsChain (· < ·)

def decodeFrames (scaling : Scaling) (database : DbcDatabase) (work : DecodeFrameSet) : DecodedFrameSet where
  streamId := work.streamId
  outcomes := work.frames.map (outcomeOf scaling database)
  stream_named := work.stream_named
  nonempty := by simpa using work.nonempty
  increasing := by
    rw [List.map_map]
    exact work.increasing

end WorkSets

end CanX.Dbc
