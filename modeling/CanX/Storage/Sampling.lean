import Mathlib.Data.List.Range
import Mathlib.Order.Monotone.Basic

/-! Evenly spaced positions in a list: the exact quotients of an even stride, each rounded half up. -/

namespace CanX.Storage

/-- The position of a stride number: `index * last / parts`, rounded half up. -/
def strided (last parts index : Nat) : Nat := (2 * (index * last) + parts) / (2 * parts)

/-- All positions of a stride, that of the first and that of the last element included. -/
def stridedAll (last parts : Nat) : List Nat := (List.range (parts + 1)).map (strided last parts)

/-- `last / parts`, rounded up. -/
def strideBound (last parts : Nat) : Nat := (last + (parts - 1)) / parts

section Strides

variable {last parts : Nat}

private theorem strided_first (positive : 0 < parts) : strided last parts 0 = 0 := by
  rw [strided, Nat.zero_mul, Nat.mul_zero, Nat.zero_add]
  exact Nat.div_eq_of_lt (by omega)

theorem strided_last (positive : 0 < parts) : strided last parts parts = last := by
  have whole : 2 * (parts * last) + parts = parts + 2 * parts * last := by
    rw [Nat.mul_assoc]
    omega
  rw [strided, whole, Nat.add_mul_div_left _ _ (by omega), Nat.div_eq_of_lt (by omega), Nat.zero_add]

private theorem strided_succ (last parts index : Nat) :
    strided last parts (index + 1) = (2 * (index * last) + parts + 2 * last) / (2 * parts) := by
  rw [strided, Nat.add_mul, Nat.one_mul]
  congr 1
  omega

/-- A stride over at least as many elements as there are parts moves on at every step. -/
theorem strided_lt (positive : 0 < parts) (long : parts ≤ last) (index : Nat) :
    strided last parts index < strided last parts (index + 1) := by
  have step : strided last parts index + 1 = (2 * (index * last) + parts + 2 * parts) / (2 * parts) := by
    rw [Nat.add_div_right _ (by omega), strided]
  have more : (2 * (index * last) + parts + 2 * parts) / (2 * parts) ≤ strided last parts (index + 1) := by
    rw [strided_succ]
    exact Nat.div_le_div_right (by omega)
  omega

theorem last_le_bound (last : Nat) (positive : 0 < parts) : last ≤ parts * strideBound last parts := by
  have split := Nat.div_add_mod (last + (parts - 1)) parts
  have small := Nat.mod_lt (last + (parts - 1)) positive
  rw [strideBound]
  omega

/-- No step is longer than the stride rounded up. -/
theorem strided_step (positive : 0 < parts) (index : Nat) :
    strided last parts (index + 1) ≤ strided last parts index + strideBound last parts := by
  have enough : 2 * last ≤ 2 * parts * strideBound last parts := by
    rw [Nat.mul_assoc]
    exact Nat.mul_le_mul_left 2 (last_le_bound last positive)
  have step : strided last parts index + strideBound last parts =
      (2 * (index * last) + parts + 2 * parts * strideBound last parts) / (2 * parts) := by
    rw [Nat.add_mul_div_left _ _ (by omega), strided]
  rw [step, strided_succ]
  exact Nat.div_le_div_right (by omega)

theorem stridedAll_pairwise (positive : 0 < parts) (long : parts ≤ last) :
    (stridedAll last parts).Pairwise (· < ·) := by
  have increasing : StrictMono (strided last parts) := strictMono_nat_of_lt_succ (strided_lt positive long)
  rw [stridedAll, List.pairwise_map]
  exact List.pairwise_lt_range.imp fun before => increasing before

theorem stridedAll_chain (positive : 0 < parts) :
    (stridedAll last parts).IsChain fun earlier later => later ≤ earlier + strideBound last parts := by
  rw [stridedAll, List.isChain_map, List.isChain_range_succ]
  intro index _
  exact strided_step positive index

theorem stridedAll_first (positive : 0 < parts) : (stridedAll last parts).head? = some 0 := by
  rw [stridedAll, List.range_succ_eq_map, List.map_cons, List.head?_cons, strided_first positive]

theorem stridedAll_last (positive : 0 < parts) : (stridedAll last parts).getLast? = some last := by
  rw [stridedAll, List.range_succ, List.map_append, List.map_singleton, List.getLast?_concat, strided_last positive]

theorem stridedAll_mem (positive : 0 < parts) (long : parts ≤ last) {position : Nat}
    (member : position ∈ stridedAll last parts) : position ≤ last := by
  have increasing : StrictMono (strided last parts) := strictMono_nat_of_lt_succ (strided_lt positive long)
  obtain ⟨index, inside, rfl⟩ := List.mem_map.mp member
  have least : index ≤ parts := Nat.le_of_lt_succ (List.mem_range.mp inside)
  have reached := increasing.monotone least
  rw [strided_last positive] at reached
  exact reached

end Strides

end CanX.Storage
