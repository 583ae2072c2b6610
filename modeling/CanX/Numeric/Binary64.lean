import Mathlib.Data.Rat.Lemmas
import Mathlib.Tactic.Linarith
import Mathlib.Tactic.Ring

/-! Rounding a rational to a double: to the nearest of the finite grid, ties to even. The grid is counted in units
of the smallest double, and its step doubles with every binade. Overflow is left out. -/

namespace CanX.Numeric

/-- The natural number nearest to a fraction, ties to even. -/
def halfEven (numerator denominator : Nat) : Nat :=
  let quotient := numerator / denominator
  let rest := numerator % denominator
  if denominator < 2 * rest ∨ denominator = 2 * rest ∧ quotient % 2 = 1 then quotient + 1 else quotient

/-- The step of the grid at a number of units: 53 binary digits are kept. -/
def step (units : Nat) : Nat := 1 <<< (units.log2 - 52)

/-- The grid point nearest to a fraction of units. -/
def nearestUnits (numerator denominator : Nat) : Nat :=
  halfEven numerator (denominator * step (numerator / denominator)) * step (numerator / denominator)

/-- The double nearest to a rational. -/
def binary64 (value : Rat) : Rat :=
  let magnitude := mkRat (Int.ofNat (nearestUnits (value.num.natAbs <<< 1074) value.den)) (1 <<< 1074)
  if value.num < 0 then -magnitude else magnitude

section Nearest

variable {numerator denominator other divisor : Nat}

private theorem halfEven_between : numerator / denominator ≤ halfEven numerator denominator ∧
    halfEven numerator denominator ≤ numerator / denominator + 1 := by
  simp only [halfEven]
  split
  · exact ⟨Nat.le_succ _, Nat.le_refl _⟩
  · exact ⟨Nat.le_refl _, Nat.le_succ _⟩

theorem div_le_div (positive : 0 < denominator) (positiveOther : 0 < divisor)
    (below : numerator * divisor ≤ other * denominator) : numerator / denominator ≤ other / divisor := by
  rw [Nat.le_div_iff_mul_le positiveOther]
  have floor := Nat.div_mul_le_self numerator denominator
  refine Nat.le_of_mul_le_mul_right ?_ positive
  calc numerator / denominator * divisor * denominator
      = numerator / denominator * denominator * divisor := Nat.mul_right_comm _ _ _
    _ ≤ numerator * divisor := Nat.mul_le_mul_right _ floor
    _ ≤ other * denominator := below

/-- A fraction that is no larger is not rounded to a larger number. -/
theorem halfEven_mono (positive : 0 < denominator) (positiveOther : 0 < divisor)
    (below : numerator * divisor ≤ other * denominator) :
    halfEven numerator denominator ≤ halfEven other divisor := by
  have quotients : numerator / denominator ≤ other / divisor := div_le_div positive positiveOther below
  rcases Nat.lt_or_eq_of_le quotients with less | same
  · calc halfEven numerator denominator ≤ numerator / denominator + 1 := halfEven_between.2
      _ ≤ other / divisor := less
      _ ≤ halfEven other divisor := halfEven_between.1
  · have parts := Nat.div_add_mod numerator denominator
    have otherParts := Nat.div_add_mod other divisor
    have rests : numerator % denominator * divisor ≤ other % divisor * denominator := by
      rw [same] at parts
      nlinarith
    simp only [halfEven, same]
    split
    · rename_i up
      rw [if_pos]
      rcases up with more | ⟨half, odd⟩
      · left
        refine Nat.lt_of_mul_lt_mul_left (a := denominator) ?_
        nlinarith
      · have least : divisor ≤ 2 * (other % divisor) := by
          refine Nat.le_of_mul_le_mul_left ?_ positive
          nlinarith
        rcases Nat.lt_or_eq_of_le least with more | equal
        · exact .inl more
        · exact .inr ⟨equal, odd⟩
    · split
      · exact Nat.le_succ _
      · exact Nat.le_refl _

/-- A whole number is its own nearest one. -/
theorem halfEven_whole (positive : 0 < denominator) : halfEven (numerator * denominator) denominator = numerator := by
  have rest : numerator * denominator % denominator = 0 := Nat.mul_mod_left _ _
  have no : ¬ (denominator < 2 * 0 ∨ denominator = 2 * 0 ∧ numerator * denominator / denominator % 2 = 1) := by
    omega
  rw [halfEven, rest, if_neg no, Nat.mul_div_cancel _ positive]

end Nearest

section Grid

variable {numerator denominator other divisor : Nat}

theorem step_pos (units : Nat) : 0 < step units := by
  rw [step, Nat.one_shiftLeft]
  exact Nat.two_pow_pos _

theorem step_mono {units others : Nat} (below : units ≤ others) : step units ≤ step others := by
  have exponents : units.log2 ≤ others.log2 := by
    by_cases zero : units = 0
    · rw [zero, Nat.log2_zero]
      exact Nat.zero_le _
    · have nonzero : others ≠ 0 := by omega
      exact (Nat.le_log2 nonzero).mpr (Nat.le_trans (Nat.log2_self_le zero) below)
  rw [step, step, Nat.one_shiftLeft, Nat.one_shiftLeft]
  exact Nat.pow_le_pow_right Nat.two_pos (Nat.sub_le_sub_right exponents 52)

/-- A fraction below a whole number of steps is rounded to no more than it. -/
theorem nearestUnits_le {steps : Nat} (positive : 0 < denominator)
    (below : numerator ≤ steps * (denominator * step (numerator / denominator))) :
    nearestUnits numerator denominator ≤ steps * step (numerator / denominator) := by
  have grid := Nat.mul_pos positive (step_pos (numerator / denominator))
  refine Nat.mul_le_mul_right _ ?_
  calc halfEven numerator (denominator * step (numerator / denominator))
      ≤ halfEven (steps * (denominator * step (numerator / denominator)))
          (denominator * step (numerator / denominator)) := halfEven_mono grid grid (Nat.mul_le_mul_right _ below)
    _ = steps := halfEven_whole grid

private theorem le_nearestUnits {steps : Nat} (positive : 0 < denominator)
    (above : steps * (denominator * step (numerator / denominator)) ≤ numerator) :
    steps * step (numerator / denominator) ≤ nearestUnits numerator denominator := by
  have grid := Nat.mul_pos positive (step_pos (numerator / denominator))
  refine Nat.mul_le_mul_right _ ?_
  calc steps = halfEven (steps * (denominator * step (numerator / denominator)))
          (denominator * step (numerator / denominator)) := (halfEven_whole grid).symm
    _ ≤ halfEven numerator (denominator * step (numerator / denominator)) :=
      halfEven_mono grid grid (Nat.mul_le_mul_right _ above)

/-- The grid points are ordered as the fractions are. -/
theorem nearestUnits_mono (positive : 0 < denominator) (positiveOther : 0 < divisor)
    (below : numerator * divisor ≤ other * denominator) :
    nearestUnits numerator denominator ≤ nearestUnits other divisor := by
  have floors : numerator / denominator ≤ other / divisor := div_le_div positive positiveOther below
  rcases Nat.lt_or_eq_of_le (step_mono floors) with coarser | same
  · -- a power of two lies between the two fractions, and on both grids
    have exponents : (numerator / denominator).log2 - 52 < (other / divisor).log2 - 52 := by
      rw [step, step, Nat.one_shiftLeft, Nat.one_shiftLeft] at coarser
      exact (Nat.pow_lt_pow_iff_right (by decide)).mp coarser
    have nonzero : other / divisor ≠ 0 := by
      intro zero
      rw [zero] at exponents
      exact Nat.not_lt_zero _ exponents
    have upper : numerator / denominator < 2 ^ (other / divisor).log2 := by
      refine Nat.lt_of_lt_of_le Nat.lt_log2_self (Nat.pow_le_pow_right Nat.two_pos ?_)
      omega
    have lower : 2 ^ (other / divisor).log2 ≤ other / divisor := Nat.log2_self_le nonzero
    have fine : 2 ^ ((other / divisor).log2 - ((numerator / denominator).log2 - 52)) *
        step (numerator / denominator) = 2 ^ (other / divisor).log2 := by
      rw [step, Nat.one_shiftLeft, ← Nat.pow_add]
      congr 1
      omega
    have coarse : 2 ^ 52 * step (other / divisor) = 2 ^ (other / divisor).log2 := by
      rw [step, Nat.one_shiftLeft, ← Nat.pow_add]
      congr 1
      omega
    have bounded : numerator ≤ 2 ^ (other / divisor).log2 * denominator :=
      Nat.le_of_lt ((Nat.div_lt_iff_lt_mul positive).mp upper)
    have reached : 2 ^ (other / divisor).log2 * divisor ≤ other := (Nat.le_div_iff_mul_le positiveOther).mp lower
    calc nearestUnits numerator denominator
        ≤ 2 ^ ((other / divisor).log2 - ((numerator / denominator).log2 - 52)) * step (numerator / denominator) := by
          refine nearestUnits_le positive ?_
          rw [Nat.mul_left_comm, fine, Nat.mul_comm]
          exact bounded
      _ = 2 ^ 52 * step (other / divisor) := fine.trans coarse.symm
      _ ≤ nearestUnits other divisor := by
          refine le_nearestUnits positiveOther ?_
          rw [Nat.mul_left_comm, coarse, Nat.mul_comm]
          exact reached
  · rw [nearestUnits, nearestUnits, ← same]
    refine Nat.mul_le_mul_right _ (halfEven_mono (Nat.mul_pos positive (step_pos _))
      (Nat.mul_pos positiveOther (step_pos _)) ?_)
    calc numerator * (divisor * step (numerator / denominator))
        = numerator * divisor * step (numerator / denominator) := (Nat.mul_assoc _ _ _).symm
      _ ≤ other * denominator * step (numerator / denominator) := Nat.mul_le_mul_right _ below
      _ = other * (denominator * step (numerator / denominator)) := Nat.mul_assoc _ _ _

end Grid

section Doubles

variable {value other : Rat}

private theorem mkRat_mono {numerator other : Nat} (denominator : Nat) (below : numerator ≤ other) :
    mkRat (Int.ofNat numerator) denominator ≤ mkRat (Int.ofNat other) denominator := by
  by_cases zero : denominator = 0
  · rw [zero, Rat.mkRat_zero, Rat.mkRat_zero]
  · have nonzero : (denominator : Int) ≠ 0 := Int.natCast_ne_zero.mpr zero
    have scaled : Int.ofNat numerator * denominator ≤ Int.ofNat other * denominator :=
      Int.mul_le_mul_of_nonneg_right (Int.ofNat_le.mpr below) (Int.natCast_nonneg _)
    rw [Rat.le_iff_sub_nonneg, Rat.mkRat_eq_divInt, Rat.mkRat_eq_divInt, Rat.divInt_sub_divInt _ _ nonzero nonzero]
    exact Rat.divInt_nonneg (Int.sub_nonneg_of_le scaled)
      (Int.mul_nonneg (Int.natCast_nonneg _) (Int.natCast_nonneg _))

/-- Rounding keeps the order of rationals that are not negative. -/
theorem binary64_mono (nonneg : 0 ≤ value) (below : value ≤ other) : binary64 value ≤ binary64 other := by
  have positive := Rat.num_nonneg.mpr nonneg
  have positiveOther := Rat.num_nonneg.mpr (nonneg.trans below)
  rw [binary64, binary64, if_neg (Int.not_lt.mpr positive), if_neg (Int.not_lt.mpr positiveOther)]
  refine mkRat_mono _ (nearestUnits_mono value.den_pos other.den_pos ?_)
  have crossed := (Rat.le_iff value other).mp below
  have naturals : value.num.natAbs * other.den ≤ other.num.natAbs * value.den := by
    zify
    rwa [abs_of_nonneg positive, abs_of_nonneg positiveOther]
  rw [Nat.shiftLeft_eq, Nat.shiftLeft_eq, Nat.mul_right_comm, Nat.mul_right_comm other.num.natAbs]
  exact Nat.mul_le_mul_right _ naturals

end Doubles

end CanX.Numeric
