import Mathlib.Data.List.Basic
import Mathlib.Data.Nat.Bitwise

/-! Numbers spelled by bits and by bytes, the least significant first, and the bits of such a
number. -/

namespace CanX.Numeric

/-- The number that bits spell, least significant first. -/
def ofBits : List Bool → Nat
  | [] => 0
  | bit :: rest => 2 * ofBits rest + bit.toNat

/-- The number that bytes spell, least significant first. -/
def ofBytes : List UInt8 → Nat
  | [] => 0
  | byte :: rest => 256 * ofBytes rest + byte.toNat

/-- A bit of a byte string, counted from the least significant bit of its first byte. -/
def bitAt (bytes : List UInt8) (position : Nat) : Bool :=
  (bytes[position / 8]?.getD 0).toNat.testBit (position % 8)

theorem ofBits_lt (bits : List Bool) : ofBits bits < 1 <<< bits.length := by
  induction bits with
  | nil => exact Nat.one_pos
  | cons bit rest ih =>
    have small : bit.toNat < 2 := Bool.toNat_lt bit
    have double : 1 <<< (rest.length + 1) = 2 * 1 <<< rest.length := Nat.shiftLeft_succ 1 rest.length
    rw [ofBits, List.length_cons, double]
    omega

private theorem testBit_ofBits (bits : List Bool) (index : Nat) :
    (ofBits bits).testBit index = bits[index]?.getD false := by
  induction bits generalizing index with
  | nil => simp [ofBits]
  | cons bit rest ih =>
    have split : (2 * ofBits rest + bit.toNat).testBit index =
        if index < 1 then bit.toNat.testBit index else (ofBits rest).testBit (index - 1) :=
      Nat.testBit_two_pow_mul_add (ofBits rest) (i := 1) (Bool.toNat_lt bit) index
    rw [ofBits, split]
    cases index with
    | zero => cases bit <;> rfl
    | succ index =>
      rw [if_neg (by omega), Nat.add_sub_cancel, ih, List.getElem?_cons_succ]

/-- The bits of the number that bytes spell are the bits of the bytes. -/
theorem testBit_ofBytes (bytes : List UInt8) (position : Nat) :
    (ofBytes bytes).testBit position = bitAt bytes position := by
  induction bytes generalizing position with
  | nil => simp [ofBytes, bitAt]
  | cons byte rest ih =>
    have split : (256 * ofBytes rest + byte.toNat).testBit position =
        if position < 8 then byte.toNat.testBit position else (ofBytes rest).testBit (position - 8) :=
      Nat.testBit_two_pow_mul_add (ofBytes rest) (i := 8) (UInt8.toNat_lt byte) position
    rw [ofBytes, split]
    by_cases first : position < 8
    · rw [if_pos first, bitAt, Nat.div_eq_of_lt first, Nat.mod_eq_of_lt first]
      rfl
    · obtain ⟨beyond, rfl⟩ : ∃ beyond, position = beyond + 8 := ⟨position - 8, by omega⟩
      rw [if_neg first, Nat.add_sub_cancel, ih, bitAt, bitAt, Nat.add_div_right _ (by decide),
        Nat.add_mod_right, List.getElem?_cons_succ]

/-- The bits of a window are those of the whole, from its start on. -/
theorem bitAt_window {bytes : List UInt8} {start count position : Nat} (within : position < 8 * count) :
    bitAt ((bytes.drop start).take count) position = bitAt bytes (8 * start + position) := by
  have shifted : (8 * start + position) / 8 = start + position / 8 := by omega
  have aligned : (8 * start + position) % 8 = position % 8 := by omega
  have inside : position / 8 < count := by omega
  rw [bitAt, bitAt, shifted, aligned, List.getElem?_take_of_lt inside, List.getElem?_drop]

/-- Read backwards, the bytes keep the order of the bits in each of them. -/
theorem bitAt_reverse {bytes : List UInt8} {position : Nat} (within : position < 8 * bytes.length) :
    bitAt bytes.reverse position = bitAt bytes (8 * (bytes.length - 1 - position / 8) + position % 8) := by
  have inside : position / 8 < bytes.length := by omega
  have byte : (8 * (bytes.length - 1 - position / 8) + position % 8) / 8 = bytes.length - 1 - position / 8 := by
    omega
  have bit : (8 * (bytes.length - 1 - position / 8) + position % 8) % 8 = position % 8 := by omega
  rw [bitAt, bitAt, byte, bit, List.getElem?_reverse inside]

/-- The field of `width` bits from `shift` on spells the bits found there. -/
theorem field_eq_ofBits {number shift width : Nat} {bits : List Bool} (length : bits.length = width)
    (same : ∀ index, index < width → bits[index]?.getD false = number.testBit (shift + index)) :
    (number >>> shift) &&& ((1 <<< width) - 1) = ofBits bits := by
  apply Nat.eq_of_testBit_eq
  intro index
  rw [Nat.one_shiftLeft, Nat.testBit_and, Nat.testBit_shiftRight, Nat.testBit_two_pow_sub_one, testBit_ofBits]
  by_cases inside : index < width
  · simp [inside, same index inside]
  · have outside : bits[index]? = none := List.getElem?_eq_none (by omega)
    simp [inside, outside]

end CanX.Numeric
