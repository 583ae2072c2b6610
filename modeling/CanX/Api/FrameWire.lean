import CanX.Dbc.Asset
import CanX.Domain.Frame
import Mathlib.Data.Fintype.Basic

/-! The canonical frame as it crosses the HTTP boundary, in both directions. -/

namespace CanX.Api

open Dbc Domain

/-- The fields of a frame as JSON of the right categories gives them. -/
structure FrameWire where
  sequence : Int
  channelId : String
  arbitrationId : Int
  isExtended : Bool
  isFd : Bool
  bitrateSwitch : Bool
  errorStateIndicator : Bool
  dlc : Int
  data : String
  direction : Direction
  hardwareTimestamp : Option Seconds
  hostTimestamp : Seconds
  normalizedTimestamp : Seconds
  clockDomain : String
  timestampQuality : TimestampQuality
  flags : Int

section Hexadecimal

def hexDigit (value : Nat) : Char := if value < 10 then Char.ofNat (0x30 + value) else Char.ofNat (0x37 + value)

/-- `data.hex().upper()`. -/
def hexUpper (data : Bytes) : String :=
  .ofList (data.flatMap fun byte => [hexDigit (byte.toNat / 16), hexDigit (byte.toNat % 16)])

def hexValue (character : Char) : Option Nat :=
  let code := character.toNat
  if 0x30 ≤ code ∧ code ≤ 0x39 then some (code - 0x30)
  else if 0x41 ≤ code ∧ code ≤ 0x46 then some (code - 0x37)
  else if 0x61 ≤ code ∧ code ≤ 0x66 then some (code - 0x57)
  else none

/-- `bytes.fromhex` on an even number of digits. -/
def fromHex : List Char → Except String Bytes
  | high :: low :: rest =>
    match hexValue high, hexValue low with
    | some upper, some lower => (UInt8.ofNat (16 * upper + lower) :: ·) <$> fromHex rest
    | _, _ => .error "data must be a hexadecimal string"
  | _ => .ok []

def decodeHex (value : String) : Except String Bytes :=
  if value.length % 2 ≠ 0 then .error "data must have an even number of hexadecimal characters"
  else fromHex value.toList

private theorem hexValue_digit {value : Nat} (digit : value < 16) : hexValue (hexDigit value) = some value := by
  have each : ∀ digit : Fin 16, hexValue (hexDigit digit.val) = some digit.val := by decide
  exact each ⟨value, digit⟩

theorem byte_digits (byte : UInt8) : UInt8.ofNat (16 * (byte.toNat / 16) + byte.toNat % 16) = byte := by
  rw [Nat.div_add_mod, UInt8.ofNat_toNat]

private theorem fromHex_digits (data : Bytes) :
    fromHex (data.flatMap fun byte => [hexDigit (byte.toNat / 16), hexDigit (byte.toNat % 16)]) = .ok data := by
  induction data with
  | nil => rfl
  | cons byte rest ih =>
    have small : byte.toNat < 256 := byte.toNat_lt
    have high := hexValue_digit (show byte.toNat / 16 < 16 by omega)
    have low := hexValue_digit (show byte.toNat % 16 < 16 by omega)
    simp only [List.flatMap_cons, List.cons_append, List.nil_append, fromHex, high, low, ih, byte_digits]
    rfl

theorem hexUpper_length (data : Bytes) : (hexUpper data).length = 2 * data.length := by
  induction data with
  | nil => rfl
  | cons byte rest ih =>
    rw [hexUpper, String.length_ofList] at ih ⊢
    simp only [List.flatMap_cons, List.cons_append, List.nil_append, List.length_cons, ih]
    omega

theorem decodeHex_hexUpper (data : Bytes) : decodeHex (hexUpper data) = .ok data := by
  rw [decodeHex, hexUpper_length, if_neg (by omega), hexUpper, String.toList_ofList]
  exact fromHex_digits data

end Hexadecimal

section Canonical

/-- A constructor check: its fact, or the text of the `ValueError`. -/
def checked (condition : Prop) [Decidable condition] (text : String) : Except String (PLift condition) :=
  if held : condition then .ok ⟨held⟩ else .error text

theorem checked_bind {Value : Type} {condition : Prop} [Decidable condition] {text : String}
    {next : PLift condition → Except String Value} {value : Value} :
    (checked condition text >>= next) = .ok value ↔ ∃ held, next ⟨held⟩ = .ok value := by
  unfold checked
  split
  · rename_i held
    constructor
    · intro given
      exact ⟨held, given⟩
    · rintro ⟨_, given⟩
      exact given
  · rename_i refused
    constructor
    · intro given
      cases given
    · rintro ⟨held, _⟩
      exact absurd held refused

/-- `Frame.__post_init__`, in its order. -/
def canonicalFrame (wire : FrameWire) (data : Bytes) : Except String Frame := do
  let sequence ← checked (0 ≤ wire.sequence ∧ wire.sequence ≤ 0xFFFFFFFFFFFFFFFF)
    "sequence must be an unsigned 64-bit integer"
  let channel ← checked (wire.channelId ≠ "") "channel_id must not be empty"
  let arbitration ← checked
    (0 ≤ wire.arbitrationId ∧ wire.arbitrationId.toNat ≤ if wire.isExtended then 0x1FFFFFFF else 0x7FF)
    ((if wire.isExtended then "extended" else "standard") ++ " arbitration_id is out of range")
  let dlc ← checked (0 ≤ wire.dlc ∧ wire.dlc.toNat ∈ if wire.isFd then fdDlc else classicDlc)
    "DLC is not valid for the selected CAN frame type"
  let length ← checked (data.length = wire.dlc.toNat) "data length must equal DLC and data must be bytes"
  let classic ← checked (wire.isFd = false → wire.bitrateSwitch = false ∧ wire.errorStateIndicator = false)
    "Classic CAN cannot use CAN FD flags"
  let timely ← checked
    (0 ≤ wire.hostTimestamp ∧ 0 ≤ wire.normalizedTimestamp ∧ ∀ stamp ∈ wire.hardwareTimestamp, 0 ≤ stamp)
    "timestamps must be finite non-negative seconds"
  let clock ← checked (wire.clockDomain ≠ "") "clock_domain must not be empty"
  let flags ← checked (0 ≤ wire.flags ∧ wire.flags.toNat ≤ 0xFFFFFFFF) "flags must be an unsigned 32-bit bit set"
  return {
    sequence := wire.sequence.toNat
    channelId := wire.channelId
    arbitrationId := wire.arbitrationId.toNat
    isExtended := wire.isExtended
    isFd := wire.isFd
    bitrateSwitch := wire.bitrateSwitch
    errorStateIndicator := wire.errorStateIndicator
    dlc := wire.dlc.toNat
    data
    direction := wire.direction
    hardwareTimestamp := wire.hardwareTimestamp
    hostTimestamp := wire.hostTimestamp
    normalizedTimestamp := wire.normalizedTimestamp
    clockDomain := wire.clockDomain
    timestampQuality := wire.timestampQuality
    flags := wire.flags.toNat
    sequence_unsigned := Int.toNat_le.mpr sequence.down.2
    channel_named := channel.down
    arbitration_range := arbitration.down.2
    dlc_allowed := dlc.down.2
    data_length := length.down
    classic_flags := classic.down
    host_nonnegative := timely.down.1
    normalized_nonnegative := timely.down.2.1
    hardware_nonnegative := timely.down.2.2
    clock_named := clock.down
    flags_unsigned := flags.down.2 }

def wireToFrame (wire : FrameWire) : Except String Frame := do
  let data ← decodeHex wire.data
  canonicalFrame wire data

def frameToWire (frame : Frame) : FrameWire where
  sequence := frame.sequence
  channelId := frame.channelId
  arbitrationId := frame.arbitrationId
  isExtended := frame.isExtended
  isFd := frame.isFd
  bitrateSwitch := frame.bitrateSwitch
  errorStateIndicator := frame.errorStateIndicator
  dlc := frame.dlc
  data := hexUpper frame.data
  direction := frame.direction
  hardwareTimestamp := frame.hardwareTimestamp
  hostTimestamp := frame.hostTimestamp
  normalizedTimestamp := frame.normalizedTimestamp
  clockDomain := frame.clockDomain
  timestampQuality := frame.timestampQuality
  flags := frame.flags

private theorem canonicalFrame_wire {wire : FrameWire} {data : Bytes} {frame : Frame}
    (built : canonicalFrame wire data = .ok frame) : frameToWire frame = { wire with data := hexUpper data } := by
  unfold canonicalFrame at built
  simp only [checked_bind] at built
  obtain ⟨sequence, _, arbitration, dlc, _, _, _, _, flags, returned⟩ := built
  cases returned
  simp only [frameToWire, Int.toNat_of_nonneg sequence.1, Int.toNat_of_nonneg arbitration.1,
    Int.toNat_of_nonneg dlc.1, Int.toNat_of_nonneg flags.1]

/-- A frame whose payload is spelled in uppercase comes back as it was sent. -/
theorem wireToFrame_wire {wire : FrameWire} {data : Bytes} {frame : Frame} (spelled : wire.data = hexUpper data)
    (built : wireToFrame wire = .ok frame) : frameToWire frame = wire := by
  unfold wireToFrame at built
  rw [spelled, decodeHex_hexUpper] at built
  rw [canonicalFrame_wire built, ← spelled]

end Canonical

end CanX.Api
