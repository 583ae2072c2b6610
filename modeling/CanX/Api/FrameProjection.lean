import CanX.Api.FrameWire
import CanX.Data.TableRoundTrip

/-! The frame of the HTTP boundary over every text and every float that Python lets its fields have: what a frame
is projected to, and which projections are frames. -/

namespace CanX.Api.FrameProjection

open Data Dbc Domain Transport

/-- `FrameWire`: the categories of its fields are checked, their ranges are not. -/
structure FrameWire where
  sequence : Int
  channelId : Text
  arbitrationId : Int
  isExtended : Bool
  isFd : Bool
  bitrateSwitch : Bool
  errorStateIndicator : Bool
  dlc : Int
  data : Text
  direction : Direction
  hardwareTimestamp : Option PyFloat
  hostTimestamp : PyFloat
  normalizedTimestamp : PyFloat
  clockDomain : Text
  timestampQuality : TimestampQuality
  flags : Int
  deriving DecidableEq

section Hexadecimal

/-- The value of a character of `_HEX_DIGITS`. -/
def hexValue (point : CodePoint) : Option Nat :=
  if 0x30 ≤ point.val ∧ point.val ≤ 0x39 then some (point.val - 0x30)
  else if 0x41 ≤ point.val ∧ point.val ≤ 0x46 then some (point.val - 0x37)
  else if 0x61 ≤ point.val ∧ point.val ≤ 0x66 then some (point.val - 0x57)
  else none

def Hexadecimal (value : Text) : Prop := ∀ point ∈ value, (hexValue point).isSome

instance (value : Text) : Decidable (Hexadecimal value) := inferInstanceAs (Decidable (∀ point ∈ value, _))

/-- `bytes.fromhex` of hexadecimal digits. -/
def fromHex : Text → Bytes
  | high :: low :: rest => UInt8.ofNat (16 * (hexValue high).getD 0 + (hexValue low).getD 0) :: fromHex rest
  | _ => []

/-- `_decode_hex`. -/
def decodeHex (value : Text) : Except String Bytes :=
  if value.length % 2 ≠ 0 then .error "data must have an even number of hexadecimal characters"
  else if ¬ Hexadecimal value then .error "data must be a hexadecimal string"
  else .ok (fromHex value)

/-- `data.hex().upper()`. -/
def hexUpper (data : Bytes) : Text := text (Api.hexUpper data)

/-- `str.upper` of an ASCII text. -/
def upper (value : Text) : Text :=
  value.map fun point => if 0x61 ≤ point.val ∧ point.val ≤ 0x7A then point - 0x20 else point

def digitPoint (value : Nat) : CodePoint := codePoint (hexDigit value)

theorem hexUpper_cons (byte : UInt8) (rest : Bytes) : hexUpper (byte :: rest) =
    digitPoint (byte.toNat / 16) :: digitPoint (byte.toNat % 16) :: hexUpper rest := by
  simp [hexUpper, Api.hexUpper, text, digitPoint]

private theorem hexValue_digitPoint {value : Nat} (digit : value < 16) : hexValue (digitPoint value) = some value := by
  have each : ∀ digit : Fin 16, hexValue (digitPoint digit.val) = some digit.val := by decide +kernel
  exact each ⟨value, digit⟩

theorem hexUpper_hexadecimal (data : Bytes) : Hexadecimal (hexUpper data) := by
  induction data with
  | nil =>
    intro point member
    cases member
  | cons byte rest ih =>
    have small : byte.toNat < 256 := byte.toNat_lt
    intro point member
    rw [hexUpper_cons, List.mem_cons, List.mem_cons] at member
    rcases member with rfl | rfl | later
    · rw [hexValue_digitPoint (by omega)]
      rfl
    · rw [hexValue_digitPoint (by omega)]
      rfl
    · exact ih point later

theorem hexUpper_length (data : Bytes) : (hexUpper data).length = 2 * data.length := by
  rw [hexUpper, text, List.length_map, String.length_toList, Api.hexUpper_length]

theorem fromHex_hexUpper (data : Bytes) : fromHex (hexUpper data) = data := by
  induction data with
  | nil => rfl
  | cons byte rest ih =>
    have small : byte.toNat < 256 := byte.toNat_lt
    rw [hexUpper_cons, fromHex, ih, hexValue_digitPoint (by omega), hexValue_digitPoint (by omega), Option.getD_some,
      Option.getD_some, byte_digits]

theorem decodeHex_ok {value : Text} {data : Bytes} : decodeHex value = .ok data ↔
    (value.length % 2 = 0 ∧ Hexadecimal value) ∧ fromHex value = data := by
  unfold decodeHex
  by_cases even : value.length % 2 = 0
  · by_cases digits : Hexadecimal value
    · rw [if_neg (not_not_intro even), if_neg (not_not_intro digits), Except.ok.injEq]
      exact ⟨fun same => ⟨⟨even, digits⟩, same⟩, And.right⟩
    · rw [if_neg (not_not_intro even), if_pos digits]
      exact ⟨fun same => absurd same (by simp), fun held => absurd held.1.2 digits⟩
  · rw [if_pos even]
    exact ⟨fun same => absurd same (by simp), fun held => absurd held.1.1 even⟩

/-- A digit and the one its value is written as differ in case alone. -/
theorem digitPoint_hexValue {point : CodePoint} {value : Nat} (read : hexValue point = some value) :
    value < 16 ∧ digitPoint value = if 0x61 ≤ point.val ∧ point.val ≤ 0x7A then point - 0x20 else point := by
  have each : ∀ code : Fin 0x67, ∀ value ∈ hexValue (Fin.castLE (by decide) code), value < 16 ∧
      digitPoint value = if 0x61 ≤ code.val ∧ code.val ≤ 0x7A then Fin.castLE (by decide) code - 0x20
        else Fin.castLE (by decide) code := by decide +kernel
  have below : point.val < 0x67 := by
    unfold hexValue at read
    split at read
    · omega
    · split at read
      · omega
      · split at read
        · omega
        · cases read
  exact each ⟨point.val, below⟩ value read

/-- What even-length digits decode to is written as those digits in upper case. -/
theorem hexUpper_fromHex {value : Text} (even : value.length % 2 = 0) (digits : Hexadecimal value) :
    hexUpper (fromHex value) = upper value := by
  induction value using fromHex.induct with
  | case1 high low rest ih =>
    obtain ⟨first, here⟩ := Option.isSome_iff_exists.mp (digits high List.mem_cons_self)
    obtain ⟨second, there⟩ := Option.isSome_iff_exists.mp (digits low (List.mem_cons_of_mem _ List.mem_cons_self))
    have tail : Hexadecimal rest := fun point member =>
      digits point (List.mem_cons_of_mem _ (List.mem_cons_of_mem _ member))
    have length : rest.length % 2 = 0 := by
      rw [List.length_cons, List.length_cons] at even
      omega
    obtain ⟨firstSmall, firstPoint⟩ := digitPoint_hexValue here
    obtain ⟨secondSmall, secondPoint⟩ := digitPoint_hexValue there
    have byte : 16 * first + second < UInt8.size := by
      rw [UInt8.size]
      omega
    have number : (UInt8.ofNat (16 * first + second)).toNat = 16 * first + second := UInt8.toNat_ofNat_of_lt' byte
    have quotient : (16 * first + second) / 16 = first := by omega
    have rest_ : (16 * first + second) % 16 = second := by omega
    rw [fromHex, here, there, Option.getD_some, Option.getD_some, hexUpper_cons, number, quotient, rest_, ih length tail,
      firstPoint, secondPoint]
    rfl
  | case2 value short =>
    cases value with
    | nil => rfl
    | cons only rest =>
      cases rest with
      | nil => simp at even
      | cons second others => exact absurd rfl (short only second others)

end Hexadecimal

section Frames

/-- A float field of the projection: an int becomes the double nearest to it. -/
def floatField (stamp : PyNumber) : Except String PyFloat :=
  if stamp.Finite then .ok (.finite stamp.rounded.value) else .error "Input should be a valid number"

def frameToWire (frame : PyFrame) : Except String FrameWire := do
  let hardwareTimestamp ← frame.hardwareTimestamp.mapM floatField
  let hostTimestamp ← floatField frame.hostTimestamp
  let normalizedTimestamp ← floatField frame.normalizedTimestamp
  return { frame with
    sequence := frame.sequence
    arbitrationId := frame.arbitrationId
    dlc := frame.dlc
    data := hexUpper frame.data
    hardwareTimestamp
    hostTimestamp
    normalizedTimestamp
    flags := frame.flags }

/-- `isfinite(value) and value >= 0`. -/
def Timely : PyFloat → Prop
  | .finite value => 0 ≤ value
  | _ => False

instance : (stamp : PyFloat) → Decidable (Timely stamp)
  | .finite value => inferInstanceAs (Decidable (0 ≤ value))
  | .infinite _ => inferInstanceAs (Decidable False)
  | .nan => inferInstanceAs (Decidable False)

/-- The float as a timestamp of a frame, which one that is not finite never becomes. -/
def stampOf : PyFloat → PyNumber
  | .finite value => .float value
  | _ => .float 0

theorem stampOf_seconds {stamp : PyFloat} (timely : Timely stamp) : (stampOf stamp).Seconds := by
  cases stamp with
  | finite value => exact ⟨trivial, timely⟩
  | infinite negative => cases timely
  | nan => cases timely

variable (wire : FrameWire) (data : Bytes)

/-- `Frame(...)`, with the checks of `__post_init__` that its categories leave, in their order. -/
def createFrame : Except String PyFrame := do
  let sequence ← checked (0 ≤ wire.sequence ∧ wire.sequence ≤ 0xFFFFFFFFFFFFFFFF)
    "sequence must be an unsigned 64-bit integer"
  let channel ← checked (wire.channelId ≠ []) "channel_id must not be empty"
  let arbitration ← checked
    (0 ≤ wire.arbitrationId ∧ wire.arbitrationId.toNat ≤ if wire.isExtended then 0x1FFFFFFF else 0x7FF)
    ((if wire.isExtended then "extended" else "standard") ++ " arbitration_id is out of range")
  let dlc ← checked (0 ≤ wire.dlc ∧ wire.dlc.toNat ∈ if wire.isFd then fdDlc else classicDlc)
    "DLC is not valid for the selected CAN frame type"
  let length ← checked (data.length = wire.dlc.toNat) "data length must equal DLC and data must be bytes"
  let classic ← checked (wire.isFd = false → wire.bitrateSwitch = false ∧ wire.errorStateIndicator = false)
    "Classic CAN cannot use CAN FD flags"
  let timely ← checked
    (Timely wire.hostTimestamp ∧ Timely wire.normalizedTimestamp ∧ ∀ stamp ∈ wire.hardwareTimestamp, Timely stamp)
    "timestamps must be finite non-negative seconds"
  let clock ← checked (wire.clockDomain ≠ []) "clock_domain must not be empty"
  let flags ← checked (0 ≤ wire.flags ∧ wire.flags ≤ 0xFFFFFFFF) "flags must be an unsigned 32-bit bit set"
  return { wire with
    sequence := wire.sequence.toNat
    arbitrationId := wire.arbitrationId.toNat
    dlc := wire.dlc.toNat
    data
    hardwareTimestamp := wire.hardwareTimestamp.map stampOf
    hostTimestamp := stampOf wire.hostTimestamp
    normalizedTimestamp := stampOf wire.normalizedTimestamp
    flags := wire.flags.toNat
    sequence_unsigned := Int.toNat_le.mpr sequence.down.2
    channel_named := channel.down
    arbitration_range := arbitration.down.2
    dlc_allowed := dlc.down.2
    data_length := length.down
    classic_flags := classic.down
    host_seconds := stampOf_seconds timely.down.1
    normalized_seconds := stampOf_seconds timely.down.2.1
    hardware_seconds := by
      intro stamp held
      obtain ⟨float, given, same⟩ := Option.mem_map.mp held
      exact same ▸ stampOf_seconds (timely.down.2.2 float given)
    clock_named := clock.down
    flags_unsigned := Int.toNat_le.mpr flags.down.2 }

def wireToFrame : Except String PyFrame := do
  let data ← decodeHex wire.data
  createFrame wire data

end Frames

section RoundTrip

variable {wire : FrameWire} {data : Bytes} {frame other : PyFrame}

/-- The fields of the projection, with the payload decoded, are those of a frame. -/
structure Describes (wire : FrameWire) (data : Bytes) (frame : PyFrame) : Prop where
  sequence : wire.sequence = frame.sequence
  channelId : wire.channelId = frame.channelId
  arbitrationId : wire.arbitrationId = frame.arbitrationId
  isExtended : wire.isExtended = frame.isExtended
  isFd : wire.isFd = frame.isFd
  bitrateSwitch : wire.bitrateSwitch = frame.bitrateSwitch
  errorStateIndicator : wire.errorStateIndicator = frame.errorStateIndicator
  dlc : wire.dlc = frame.dlc
  data : data = frame.data
  direction : wire.direction = frame.direction
  hardwareTimestamp : wire.hardwareTimestamp = frame.hardwareTimestamp.map fun stamp => .finite stamp.value
  hostTimestamp : wire.hostTimestamp = .finite frame.hostTimestamp.value
  normalizedTimestamp : wire.normalizedTimestamp = .finite frame.normalizedTimestamp.value
  clockDomain : wire.clockDomain = frame.clockDomain
  timestampQuality : wire.timestampQuality = frame.timestampQuality
  flags : wire.flags = frame.flags

theorem Describes.equal (first : Describes wire data frame) (second : Describes wire data other) :
    frame.Equal other where
  sequence := Int.ofNat_inj.mp (first.sequence.symm.trans second.sequence)
  channelId := first.channelId.symm.trans second.channelId
  arbitrationId := Int.ofNat_inj.mp (first.arbitrationId.symm.trans second.arbitrationId)
  isExtended := first.isExtended.symm.trans second.isExtended
  isFd := first.isFd.symm.trans second.isFd
  bitrateSwitch := first.bitrateSwitch.symm.trans second.bitrateSwitch
  errorStateIndicator := first.errorStateIndicator.symm.trans second.errorStateIndicator
  dlc := Int.ofNat_inj.mp (first.dlc.symm.trans second.dlc)
  data := first.data.symm.trans second.data
  direction := first.direction.symm.trans second.direction
  hardwareTimestamp := by
    have same := first.hardwareTimestamp.symm.trans second.hardwareTimestamp
    cases hardware : frame.hardwareTimestamp with
    | none =>
      cases others : other.hardwareTimestamp with
      | none => rfl
      | some stamp => simp [hardware, others] at same
    | some stamp =>
      cases others : other.hardwareTimestamp with
      | none => simp [hardware, others] at same
      | some another => simpa [hardware, others] using same
  hostTimestamp := PyFloat.finite.inj (first.hostTimestamp.symm.trans second.hostTimestamp)
  normalizedTimestamp := PyFloat.finite.inj (first.normalizedTimestamp.symm.trans second.normalizedTimestamp)
  clockDomain := first.clockDomain.symm.trans second.clockDomain
  timestampQuality := first.timestampQuality.symm.trans second.timestampQuality
  flags := Int.ofNat_inj.mp (first.flags.symm.trans second.flags)

theorem timely_finite {stamp : PyFloat} (timely : Timely stamp) : stamp = .finite (stampOf stamp).value := by
  cases stamp with
  | finite value => rfl
  | infinite negative => cases timely
  | nan => cases timely

theorem floatField_stampOf {stamp : PyFloat} (timely : Timely stamp) : floatField (stampOf stamp) = .ok stamp := by
  have finite := (stampOf_seconds timely).1
  rw [floatField, if_pos finite]
  cases stamp with
  | finite value => rfl
  | infinite negative => cases timely
  | nan => cases timely

private theorem mapM_stampOf {stamps : Option PyFloat} (timely : ∀ stamp ∈ stamps, Timely stamp) :
    (stamps.map stampOf).mapM floatField = .ok stamps := by
  cases stamps with
  | none => rfl
  | some stamp =>
    rw [Option.map_some, Option.mapM_some, floatField_stampOf (timely stamp rfl)]
    rfl

private theorem map_stampOf {stamps : Option PyFloat} (timely : ∀ stamp ∈ stamps, Timely stamp) :
    stamps = (stamps.map stampOf).map fun stamp => .finite stamp.value := by
  cases stamps with
  | none => rfl
  | some stamp => exact congrArg some (timely_finite (timely stamp rfl))

/-- The constructor makes a frame of what describes one. -/
theorem createFrame_some (describes : Describes wire data frame) : ∃ made, createFrame wire data = .ok made := by
  have timely : ∀ stamp ∈ wire.hardwareTimestamp, Timely stamp := by
    intro stamp held
    rw [describes.hardwareTimestamp] at held
    obtain ⟨number, given, rfl⟩ := Option.mem_map.mp held
    exact (frame.hardware_seconds number given).2
  have sequence : 0 ≤ wire.sequence ∧ wire.sequence ≤ 0xFFFFFFFFFFFFFFFF := by
    rw [describes.sequence]
    exact ⟨Int.natCast_nonneg _, Int.ofNat_le.mpr frame.sequence_unsigned⟩
  have flags : 0 ≤ wire.flags ∧ wire.flags ≤ 0xFFFFFFFF := by
    rw [describes.flags]
    exact ⟨Int.natCast_nonneg _, Int.ofNat_le.mpr frame.flags_unsigned⟩
  unfold createFrame
  simp only [checked_bind]
  refine ⟨_, sequence, ?_, ?_, ?_, ?_, ?_, ?_, ?_, flags, rfl⟩
  · exact describes.channelId ▸ frame.channel_named
  · rw [describes.arbitrationId, describes.isExtended]
    exact ⟨Int.natCast_nonneg _, frame.arbitration_range⟩
  · rw [describes.dlc, describes.isFd]
    exact ⟨Int.natCast_nonneg _, frame.dlc_allowed⟩
  · rw [describes.dlc, describes.data]
    exact frame.data_length
  · rw [describes.isFd, describes.bitrateSwitch, describes.errorStateIndicator]
    exact frame.classic_flags
  · rw [describes.hostTimestamp, describes.normalizedTimestamp]
    exact ⟨frame.host_seconds.2, frame.normalized_seconds.2, timely⟩
  · exact describes.clockDomain ▸ frame.clock_named

/-- A frame that was made is described, and projected to what it was made of. -/
theorem createFrame_ok (made : createFrame wire data = .ok frame) :
    Describes wire data frame ∧ frameToWire frame = .ok { wire with data := hexUpper data } := by
  unfold createFrame at made
  simp only [checked_bind] at made
  obtain ⟨sequence, _, arbitration, dlc, _, _, timely, _, flags, made⟩ := made
  obtain rfl := Except.ok.inj made
  constructor
  · constructor
    case sequence => exact (Int.toNat_of_nonneg sequence.1).symm
    case arbitrationId => exact (Int.toNat_of_nonneg arbitration.1).symm
    case dlc => exact (Int.toNat_of_nonneg dlc.1).symm
    case flags => exact (Int.toNat_of_nonneg flags.1).symm
    case hostTimestamp => exact timely_finite timely.1
    case normalizedTimestamp => exact timely_finite timely.2.1
    case hardwareTimestamp => exact map_stampOf timely.2.2
    all_goals rfl
  · simp only [frameToWire, mapM_stampOf timely.2.2, floatField_stampOf timely.1, floatField_stampOf timely.2.1,
      ok_bind, Int.toNat_of_nonneg sequence.1, Int.toNat_of_nonneg arbitration.1, Int.toNat_of_nonneg dlc.1,
      Int.toNat_of_nonneg flags.1]
    rfl

theorem wireToFrame_ok : wireToFrame wire = .ok frame ↔
    (wire.data.length % 2 = 0 ∧ Hexadecimal wire.data) ∧ createFrame wire (fromHex wire.data) = .ok frame := by
  unfold wireToFrame
  rw [bind_ok]
  constructor
  · intro ⟨data, decoded, created⟩
    obtain ⟨digits, rfl⟩ := decodeHex_ok.mp decoded
    exact ⟨digits, created⟩
  · intro ⟨digits, created⟩
    exact ⟨_, decodeHex_ok.mpr ⟨digits, rfl⟩, created⟩

/-- Every timestamp is a float, or an int that a float represents. -/
def Exact (frame : PyFrame) : Prop :=
  frame.hostTimestamp.Exact ∧ frame.normalizedTimestamp.Exact ∧ ∀ stamp ∈ frame.hardwareTimestamp, stamp.Exact

private theorem floatField_exact {stamp : PyNumber} (finite : stamp.Finite) (exact_ : stamp.Exact) :
    floatField stamp = .ok (.finite stamp.value) := by
  rw [floatField, if_pos finite, PyNumber.rounded_exact.mpr exact_]

/-- The projection of a frame describes it. -/
theorem frameToWire_exact (exact_ : Exact frame) :
    ∃ wire, frameToWire frame = .ok wire ∧ wire.data = hexUpper frame.data ∧ Describes wire frame.data frame := by
  obtain ⟨host, normalized, hardware⟩ := exact_
  have stamps : frame.hardwareTimestamp.mapM floatField =
      .ok (frame.hardwareTimestamp.map fun stamp => .finite stamp.value) := by
    cases held : frame.hardwareTimestamp with
    | none => rfl
    | some stamp =>
      rw [Option.mapM_some, floatField_exact (frame.hardware_seconds stamp held).1 (hardware stamp held)]
      rfl
  unfold frameToWire
  rw [stamps, floatField_exact frame.host_seconds.1 host, floatField_exact frame.normalized_seconds.1 normalized]
  refine ⟨_, rfl, rfl, ?_⟩
  constructor
  all_goals rfl

/-- A frame whose timestamps floats represent comes back from its projection, and a projection is one of a frame
exactly if its payload is hexadecimal and its fields are legal. It then comes back with its payload in upper case. -/
theorem projection_lossless :
    (∀ frame, Exact frame → ∃ wire back, frameToWire frame = .ok wire ∧ wireToFrame wire = .ok back ∧
      back.Equal frame) ∧
    ∀ wire, ((∃ frame, wireToFrame wire = .ok frame) ↔
        (wire.data.length % 2 = 0 ∧ Hexadecimal wire.data) ∧ ∃ frame, Describes wire (fromHex wire.data) frame) ∧
      ∀ frame, wireToFrame wire = .ok frame → frameToWire frame = .ok { wire with data := upper wire.data } := by
  refine ⟨?_, fun wire => ⟨⟨?_, ?_⟩, ?_⟩⟩
  · intro frame exact_
    obtain ⟨wire, projected, spelled, describes⟩ := frameToWire_exact exact_
    obtain ⟨back, made⟩ := createFrame_some describes
    have digits : wire.data.length % 2 = 0 ∧ Hexadecimal wire.data := by
      rw [spelled, hexUpper_length]
      exact ⟨Nat.mul_mod_right 2 _, hexUpper_hexadecimal _⟩
    have payload : fromHex wire.data = frame.data := by
      rw [spelled]
      exact fromHex_hexUpper _
    exact ⟨wire, back, projected, wireToFrame_ok.mpr ⟨digits, payload ▸ made⟩, (createFrame_ok made).1.equal describes⟩
  · intro ⟨frame, read⟩
    obtain ⟨digits, made⟩ := wireToFrame_ok.mp read
    exact ⟨digits, frame, (createFrame_ok made).1⟩
  · intro ⟨digits, frame, describes⟩
    obtain ⟨made, created⟩ := createFrame_some describes
    exact ⟨made, wireToFrame_ok.mpr ⟨digits, created⟩⟩
  · intro frame read
    obtain ⟨⟨even, digits⟩, made⟩ := wireToFrame_ok.mp read
    rw [(createFrame_ok made).2, hexUpper_fromHex even digits]

/-- A frame with int timestamps, which comes back with floats. -/
theorem projection_lossless_ints : ∃ wire back,
    frameToWire (Transport.sampleFrame 3 (by decide)) = .ok wire ∧ wireToFrame wire = .ok back ∧
      back.Equal (Transport.sampleFrame 3 (by decide)) := by
  refine projection_lossless.1 (Transport.sampleFrame 3 (by decide)) ⟨?_, ?_, ?_⟩
  · exact Desktop.nearestDouble_small (by decide)
  · exact Desktop.nearestDouble_small (by decide)
  · intro stamp held
    cases held

end RoundTrip

end CanX.Api.FrameProjection
