import CanX.Dbc.Decode
import CanX.Numeric.Bits

/-! The bits that a DBC definition names, walked one by one, against the window, shift and mask that
the engine compiles them to. -/

namespace CanX.Dbc

open Numeric

section Walk

/-- The bit after another one. A Motorola signal goes down inside a byte, and on to bit 7 of the
next. -/
def DbcByteOrder.next : DbcByteOrder → Nat → Nat
  | .littleEndian, bit => bit + 1
  | .bigEndian, bit => if bit % 8 = 0 then bit + 15 else bit - 1

/-- So many bits from one on. -/
def DbcByteOrder.walk (order : DbcByteOrder) : Nat → Nat → List Nat
  | 0, _ => []
  | length + 1, bit => bit :: order.walk length (order.next bit)

namespace DbcSignal

variable (signal : DbcSignal)

/-- The bits of a signal, in the order of its walk. -/
def walk : List Nat := signal.byteOrder.walk signal.length signal.startBit

/-- Every bit of the signal lies in a payload of so many bytes. -/
def Inside (length : Nat) : Prop := ∀ bit ∈ signal.walk, bit < 8 * length

instance (length : Nat) : Decidable (signal.Inside length) :=
  inferInstanceAs (Decidable (∀ bit ∈ signal.walk, bit < 8 * length))

/-- The bits of a payload along the walk, least significant first. -/
def bits (data : Bytes) : List Bool :=
  match signal.byteOrder with
  | .littleEndian => signal.walk.map (bitAt data)
  | .bigEndian => (signal.walk.map (bitAt data)).reverse

/-- The integer that is read bit by bit. -/
def reading (data : Bytes) : Int :=
  if signal.isSigned then (BitVec.ofNat signal.length (ofBits (signal.bits data))).toInt
  else ofBits (signal.bits data)

end DbcSignal

/-- Bits counted from the most significant bit of the first byte on, and back. -/
def networkBit (bit : Nat) : Nat := 8 * (bit / 8) + (7 - bit % 8)

private theorem networkBit_networkBit (bit : Nat) : networkBit (networkBit bit) = bit := by
  unfold networkBit
  omega

private theorem networkBit_next (bit : Nat) : networkBit (DbcByteOrder.next .bigEndian bit) = networkBit bit + 1 := by
  simp only [networkBit, DbcByteOrder.next]
  split <;> omega

private theorem networkBit_lt {bit length : Nat} : networkBit bit < 8 * length ↔ bit < 8 * length := by
  unfold networkBit
  omega

theorem walk_littleEndian (length bit : Nat) :
    DbcByteOrder.walk .littleEndian length bit = List.range' bit length := by
  induction length generalizing bit with
  | zero => rfl
  | succ length ih =>
    rw [DbcByteOrder.walk, ih, List.range'_succ]
    rfl

/-- A Motorola walk is consecutive in the network numbering. -/
theorem walk_bigEndian (length bit : Nat) :
    DbcByteOrder.walk .bigEndian length bit = (List.range' (networkBit bit) length).map networkBit := by
  induction length generalizing bit with
  | zero => rfl
  | succ length ih =>
    rw [DbcByteOrder.walk, ih, networkBit_next, List.range'_succ, List.map_cons, networkBit_networkBit]

variable {signal : DbcSignal} {length : Nat} {data : Bytes} {plan : SignalPlan}

theorem DbcSignal.inside_littleEndian (order : signal.byteOrder = .littleEndian) :
    signal.Inside length ↔ signal.startBit + signal.length ≤ 8 * length := by
  have wide := signal.wide
  rw [DbcSignal.Inside, DbcSignal.walk, order, walk_littleEndian]
  constructor
  · intro inside
    have last := inside (signal.startBit + (signal.length - 1)) (List.mem_range'_1.mpr (by omega))
    omega
  · intro fits bit member
    have bounds := List.mem_range'_1.mp member
    omega

theorem DbcSignal.inside_bigEndian (order : signal.byteOrder = .bigEndian) :
    signal.Inside length ↔ networkBit signal.startBit + signal.length ≤ 8 * length := by
  have wide := signal.wide
  rw [DbcSignal.Inside, DbcSignal.walk, order, walk_bigEndian]
  constructor
  · intro inside
    have present : networkBit signal.startBit + (signal.length - 1) ∈
        List.range' (networkBit signal.startBit) signal.length := List.mem_range'_1.mpr (by omega)
    have last := networkBit_lt.mp (inside _ (List.mem_map_of_mem present))
    omega
  · intro fits bit member
    obtain ⟨position, held, rfl⟩ := List.mem_map.mp member
    have bounds := List.mem_range'_1.mp held
    exact networkBit_lt.mpr (by omega)

theorem DbcSignal.bits_length : (signal.bits data).length = signal.length := by
  have walked (order : DbcByteOrder) (length bit : Nat) : (order.walk length bit).length = length := by
    induction length generalizing bit with
    | zero => rfl
    | succ length ih => rw [DbcByteOrder.walk, List.length_cons, ih]
  unfold DbcSignal.bits
  split
  · rw [List.length_map]
    exact walked _ _ _
  · rw [List.length_reverse, List.length_map]
    exact walked _ _ _

end Walk

section Recipes

variable {signal : DbcSignal} {length : Nat} {data : Bytes} {plan : SignalPlan}

theorem fromBytesBig_reverse (bytes : Bytes) : fromBytesBig bytes.reverse = ofBytes bytes := by
  induction bytes with
  | nil => rfl
  | cons byte rest ih =>
    have split : fromBytesBig (rest.reverse ++ [byte]) = fromBytesBig rest.reverse * 256 + byte.toNat := by
      simp [fromBytesBig]
    rw [List.reverse_cons, split, ih, ofBytes, Nat.mul_comm]

theorem fromBytesBig_eq (bytes : Bytes) : fromBytesBig bytes = ofBytes bytes.reverse := by
  have same := fromBytesBig_reverse bytes.reverse
  rw [List.reverse_reverse] at same
  exact same

/-- What a compiled recipe is, in either byte order. -/
theorem compileSignal_some (compiled : compileSignal signal (length * 8) = some plan) :
    plan.signal = signal ∧ signal.Inside length ∧
    ((signal.byteOrder = .littleEndian ∧ plan.bigEndian = false ∧ plan.byteStart = signal.startBit / 8 ∧
        plan.shift = signal.startBit % 8 ∧ plan.byteCount = (plan.shift + signal.length + 7) / 8) ∨
      (signal.byteOrder = .bigEndian ∧ plan.bigEndian = true ∧
        8 * plan.byteStart ≤ networkBit signal.startBit ∧
        networkBit signal.startBit + signal.length + plan.shift = 8 * (plan.byteStart + plan.byteCount) ∧
        8 * (plan.byteStart + plan.byteCount) ≤ 8 * length)) := by
  have wide := signal.wide
  unfold compileSignal at compiled
  split at compiled
  · cases compiled
  · split at compiled
    · rename_i order
      split at compiled
      · cases compiled
      · rename_i fits
        cases compiled
        refine ⟨rfl, ?_, .inl ⟨order, rfl, rfl, rfl, rfl⟩⟩
        rw [DbcSignal.inside_littleEndian order]
        omega
    · rename_i order
      dsimp only at compiled
      split at compiled
      · cases compiled
      · rename_i fits
        split at compiled
        · cases compiled
        · rename_i shifted
          cases compiled
          have start : networkBit signal.startBit = 8 * (signal.startBit / 8) + (7 - signal.startBit % 8) := rfl
          rw [← start] at fits shifted ⊢
          refine ⟨rfl, ?_, .inr ⟨order, rfl, ?_, ?_, ?_⟩⟩
          · rw [DbcSignal.inside_bigEndian order]
            omega
          · dsimp only
            omega
          · dsimp only
            omega
          · dsimp only
            omega

/-- A signal has no recipe exactly where a bit of its walk lies outside the message. -/
theorem compileSignal_none : compileSignal signal (length * 8) = none ↔ ¬ signal.Inside length := by
  have wide := signal.wide
  constructor
  · intro missing inside
    unfold compileSignal at missing
    cases order : signal.byteOrder with
    | littleEndian =>
      rw [DbcSignal.inside_littleEndian order] at inside
      rw [if_neg (by omega)] at missing
      simp only [order] at missing
      rw [if_neg (by omega)] at missing
      cases missing
    | bigEndian =>
      rw [DbcSignal.inside_bigEndian order] at inside
      have start : networkBit signal.startBit = 8 * (signal.startBit / 8) + (7 - signal.startBit % 8) := rfl
      rw [if_neg (by omega)] at missing
      simp only [order] at missing
      rw [← start, if_neg (by omega), if_neg (by omega)] at missing
      cases missing
  · intro outside
    cases compiled : compileSignal signal (length * 8) with
    | none => rfl
    | some plan => exact absurd (compileSignal_some compiled).2.1 outside

/-- The window, shifted and masked, spells the bits of the walk. -/
theorem field_eq_bits (compiled : compileSignal signal (length * 8) = some plan) (enough : length ≤ data.length) :
    ((if plan.bigEndian then fromBytesBig ((data.drop plan.byteStart).take plan.byteCount)
      else fromBytesLittle ((data.drop plan.byteStart).take plan.byteCount)) >>> plan.shift) &&& plan.mask =
      ofBits (signal.bits data) := by
  obtain ⟨same, _, ⟨order, big, start, shift, count⟩ | ⟨order, big, start, whole, fits⟩⟩ :=
    compileSignal_some compiled
  · rw [SignalPlan.mask, same, big, if_neg Bool.false_ne_true, fromBytesLittle, fromBytesBig_reverse]
    apply field_eq_ofBits DbcSignal.bits_length
    intro index within
    have spot : signal.startBit = 8 * plan.byteStart + plan.shift := by omega
    have inside : plan.shift + index < 8 * plan.byteCount := by omega
    have walked : (signal.bits data)[index]? = some (bitAt data (signal.startBit + index)) := by
      rw [DbcSignal.bits, order, DbcSignal.walk, order, walk_littleEndian, List.getElem?_map,
        List.getElem?_range' within, Nat.one_mul, Option.map_some]
    rw [walked, Option.getD_some, testBit_ofBytes, bitAt_window inside, spot, Nat.add_assoc]
  · rw [SignalPlan.mask, same, big, if_pos rfl, fromBytesBig_eq]
    apply field_eq_ofBits DbcSignal.bits_length
    intro index within
    have inside : plan.shift + index < 8 * plan.byteCount := by omega
    have full : ((data.drop plan.byteStart).take plan.byteCount).length = plan.byteCount := by
      rw [List.length_take, List.length_drop]
      omega
    have mirrored : signal.length - 1 - index < signal.length := by omega
    have walked : (signal.bits data)[index]? =
        some (bitAt data (networkBit (networkBit signal.startBit + (signal.length - 1 - index)))) := by
      have length : (signal.walk.map (bitAt data)).length = signal.length := by
        have measured : (signal.bits data).length = signal.length := DbcSignal.bits_length
        rw [DbcSignal.bits, order, List.length_reverse] at measured
        exact measured
      rw [DbcSignal.bits, order]
      dsimp only
      rw [List.getElem?_reverse (by omega), length, DbcSignal.walk, order, walk_bigEndian, List.map_map,
        List.getElem?_map, List.getElem?_range' mirrored, Nat.one_mul]
      rfl
    have position : networkBit (networkBit signal.startBit + (signal.length - 1 - index)) =
        8 * plan.byteStart + (8 * (plan.byteCount - 1 - (plan.shift + index) / 8) + (plan.shift + index) % 8) := by
      have spot : networkBit signal.startBit + (signal.length - 1 - index) =
          8 * (plan.byteStart + plan.byteCount) - 1 - (plan.shift + index) := by omega
      rw [spot, networkBit]
      omega
    rw [walked, Option.getD_some, testBit_ofBytes, bitAt_reverse (by rw [full]; exact inside), full,
      bitAt_window (by omega), position]

private theorem and_signBit {value width : Nat} :
    value &&& 1 <<< (width - 1) ≠ 0 ↔ value.testBit (width - 1) = true := by
  have positive : 0 < 2 ^ (width - 1) := Nat.two_pow_pos _
  rw [Nat.one_shiftLeft, Nat.and_two_pow]
  cases value.testBit (width - 1) with
  | true => simp
  | false => simp

/-- The sign bit decides between a number and its two's complement. -/
theorem twosComplement {width value : Nat} (wide : 1 ≤ width) (small : value < 1 <<< width) :
    (if value &&& 1 <<< (width - 1) ≠ 0 then (value : Int) - (((1 <<< width) - 1 : Nat) + 1) else value) =
      (BitVec.ofNat width value).toInt := by
  have power : 1 <<< width = 2 ^ width := Nat.one_shiftLeft width
  have sign : (BitVec.ofNat width value).msb = value.testBit (width - 1) := by
    rw [BitVec.msb_eq_getLsbD_last, BitVec.getLsbD_ofNat]
    simp
    omega
  have kept : (BitVec.ofNat width value).toNat = value := by
    rw [BitVec.toNat_ofNat, Nat.mod_eq_of_lt (power ▸ small)]
  have modulus : (((1 <<< width) - 1 : Nat) : Int) + 1 = ((2 ^ width : Nat) : Int) := by
    rw [power]
    have positive : 0 < 2 ^ width := Nat.two_pow_pos width
    omega
  rw [BitVec.toInt_eq_msb_cond, sign, kept, modulus]
  by_cases negative : value.testBit (width - 1) = true
  · rw [if_pos (and_signBit.mpr negative), if_pos negative]
  · rw [if_neg (fun held => negative (and_signBit.mp held)), if_neg negative]

theorem DbcSignal.ofBits_lt : ofBits (signal.bits data) < 1 <<< signal.length := by
  have small := Numeric.ofBits_lt (signal.bits data)
  rw [DbcSignal.bits_length] at small
  exact small

/-- A recipe reads the bits of the walk. -/
theorem rawValue_eq_reading (compiled : compileSignal signal (length * 8) = some plan)
    (enough : length ≤ data.length) : plan.rawValue data = signal.reading data := by
  have field := field_eq_bits compiled enough
  have same := (compileSignal_some compiled).1
  unfold SignalPlan.rawValue
  dsimp only
  rw [field, SignalPlan.signBit, SignalPlan.mask, same, DbcSignal.reading]
  cases signed : signal.isSigned with
  | true =>
    rw [if_pos rfl, if_pos rfl]
    exact twosComplement signal.wide DbcSignal.ofBits_lt
  | false =>
    rw [if_neg Bool.false_ne_true, if_neg Bool.false_ne_true, Nat.and_zero, if_neg (fun changed => changed rfl)]

/-- A signal inside a message is read from the bytes of the message. -/
theorem DbcSignal.reading_take (inside : signal.Inside length) :
    signal.reading (data.take length) = signal.reading data := by
  have local_ : signal.walk.map (bitAt (data.take length)) = signal.walk.map (bitAt data) := by
    apply List.map_congr_left
    intro bit member
    have within := inside bit member
    rw [bitAt, bitAt, List.getElem?_take_of_lt (by omega)]
  have same : signal.bits (data.take length) = signal.bits data := by
    rw [DbcSignal.bits, DbcSignal.bits, local_]
  rw [DbcSignal.reading, DbcSignal.reading, same]

/-- The least and the greatest number a signal can hold. -/
def DbcSignal.range (signal : DbcSignal) : Int × Int :=
  if signal.isSigned then (-(1 <<< (signal.length - 1) : Nat), (1 <<< (signal.length - 1) : Nat) - 1)
  else (0, (1 <<< signal.length : Nat) - 1)

theorem DbcSignal.reading_range : signal.range.1 ≤ signal.reading data ∧ signal.reading data ≤ signal.range.2 := by
  unfold DbcSignal.range DbcSignal.reading
  cases signed : signal.isSigned with
  | true =>
    have low := BitVec.le_toInt (BitVec.ofNat signal.length (ofBits (signal.bits data)))
    have high := BitVec.toInt_lt (x := BitVec.ofNat signal.length (ofBits (signal.bits data)))
    rw [if_pos rfl, if_pos rfl, Nat.one_shiftLeft]
    push_cast
    omega
  | false =>
    have small : ofBits (signal.bits data) < 1 <<< signal.length := DbcSignal.ofBits_lt
    rw [if_neg Bool.false_ne_true, if_neg Bool.false_ne_true]
    dsimp only
    omega

/-- A recipe exists unless a bit of the walk lies outside the message, and it reads the walk bit by
bit from any payload that is long enough. -/
theorem compileSignal_walks (signal : DbcSignal) (length : Nat) :
    (compileSignal signal (length * 8) = none ↔ ∃ bit ∈ signal.walk, 8 * length ≤ bit) ∧
    ∀ plan, compileSignal signal (length * 8) = some plan → ∀ data : Bytes, length ≤ data.length →
      plan.rawValue data = signal.reading data ∧
      plan.rawValue (data.take length) = plan.rawValue data ∧
      signal.range.1 ≤ plan.rawValue data ∧ plan.rawValue data ≤ signal.range.2 := by
  constructor
  · rw [compileSignal_none, DbcSignal.Inside]
    simp
  · intro plan compiled data enough
    have reads := rawValue_eq_reading compiled enough
    have cut : length ≤ (data.take length).length := by
      rw [List.length_take]
      omega
    have short := rawValue_eq_reading compiled cut
    rw [reads]
    refine ⟨rfl, ?_, DbcSignal.reading_range⟩
    rw [short]
    exact DbcSignal.reading_take (compileSignal_some compiled).2.1

end Recipes

section Sample

theorem torque_named : (text "Torque").blank = false := by
  decide +kernel

theorem torque_unmultiplexed : ∀ signal ∈ (none : Option Text), signal.blank = false := by simp

theorem torque_unselected : ∀ ids ∈ (none : Option (List Nat)), ids ≠ [] ∧ ids.Nodup := by simp

theorem torque_alone : false = true → (none : Option Text) = none ∧ (none : Option (List Nat)) = none := by simp

/-- A signed Motorola signal that fills the last twelve of sixteen bits. -/
def torque : DbcSignal where
  name := text "Torque"
  startBit := 3
  length := 12
  byteOrder := .bigEndian
  isSigned := true
  isFloat := false
  factor := 1
  offset := 0
  unit := none
  choices := []
  isMultiplexer := false
  multiplexerSignal := none
  multiplexerIds := none
  named := torque_named
  wide := Nat.succ_pos 11
  choices_unique := List.nodup_nil
  multiplexer_named := torque_unmultiplexed
  ids_nonempty := torque_unselected
  switch_alone := torque_alone
  together := fun _ => rfl

theorem compileSignal_walks_torque :
    (compileSignal torque (2 * 8)).map (fun plan => plan.rawValue [0xAF, 0xFE, 0x55]) = some (-2) ∧
    torque.reading [0xAF, 0xFE, 0x55] = -2 ∧ torque.range = (-2048, 2047) := by
  have recipe : (compileSignal torque (2 * 8)).isSome = true := by decide +kernel
  obtain ⟨plan, compiled⟩ := Option.isSome_iff_exists.mp recipe
  have reads := (compileSignal_walks torque 2).2 plan compiled [0xAF, 0xFE, 0x55] (by decide)
  have read : torque.reading [0xAF, 0xFE, 0x55] = -2 := by decide +kernel
  rw [compiled, Option.map_some, reads.1, read]
  exact ⟨rfl, rfl, by decide +kernel⟩

end Sample

end CanX.Dbc
