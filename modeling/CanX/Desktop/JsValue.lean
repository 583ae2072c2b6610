import CanX.Desktop.FrameSchema
import CanX.Transition.Outcome
import Mathlib.Tactic.ByContra
import Mathlib.Tactic.NormNum

/-! The values that a decoder hands to the renderer, and what it asks of them. A number is a finite
double, kept as the rational it denotes. -/

namespace CanX.Desktop

inductive JsValue where
  | undefined
  | null
  | boolean (value : Bool)
  | number (value : JsNumber)
  | bigint (value : Int)
  | string (value : String)
  | bytes (data : List UInt8)
  | array (elements : List JsValue)
  | object (fields : List (String × JsValue))

/-- `Record<string, unknown>`, as property accesses read it. -/
abbrev WireMap := String → JsValue

def propertyOf (fields : List (String × JsValue)) : WireMap := fun key =>
  (fields.lookup key).getD .undefined

@[simp] theorem propertyOf_here {key : String} {value : JsValue} {rest : List (String × JsValue)} :
    propertyOf ((key, value) :: rest) key = value := by
  simp [propertyOf]

theorem propertyOf_there {key other : String} {value : JsValue} {rest : List (String × JsValue)}
    (different : other ≠ key) : propertyOf ((key, value) :: rest) other = propertyOf rest other := by
  simp [propertyOf, List.lookup_cons, beq_eq_false_iff_ne.mpr different]

section Readings

/-- What a reader gives: a value, or the text of what it throws. -/
abbrev Reading := Except String

def throwIf (condition : Prop) [Decidable condition] (message : String) : Reading Unit :=
  if condition then .error message else .ok ()

theorem throwIf_false {Value : Type} {message : String} {next : Unit → Reading Value} :
    (throwIf False message >>= next) = next () := rfl

theorem throwIf_bind {Value : Type} {condition : Prop} [Decidable condition] {message : String}
    {next : Unit → Reading Value} {value : Value} :
    (throwIf condition message >>= next) = .ok value ↔ ¬ condition ∧ next () = .ok value := by
  by_cases held : condition
  · simp [throwIf, held, error_bind]
  · simp [throwIf, held, ok_bind]

end Readings

def maxSafeInteger : Nat := 0x1FFFFFFFFFFFFF

/-- `Number.isSafeInteger`. -/
def isSafeInteger (value : JsNumber) : Bool := value.den = 1 && value.num.natAbs ≤ maxSafeInteger

theorem isSafeInteger_int {value : Int} : isSafeInteger value = true ↔ value.natAbs ≤ maxSafeInteger := by
  rw [isSafeInteger, Rat.den_intCast, Rat.num_intCast, decide_eq_true rfl, Bool.true_and]
  exact decide_eq_true_iff

section Doubles

/-- The double nearest to a natural number, ties to even. -/
def nearestNat (value : Nat) : Nat :=
  let unit := 1 <<< (value.log2 - 52)
  let quotient := value / unit
  let rest := value % unit
  if unit < 2 * rest ∨ unit = 2 * rest ∧ quotient % 2 = 1 then (quotient + 1) * unit else quotient * unit

/-- An integer as a number: what an integer literal of JSON and `Number` of a bigint come to. One past
the range of a double is none of these, and is no safe integer either way. -/
def nearestDouble (value : Int) : JsNumber :=
  if value < 0 then -(nearestNat value.natAbs : Int) else (nearestNat value.natAbs : Int)

theorem nearestNat_small {value : Nat} (small : value ≤ maxSafeInteger) : nearestNat value = value := by
  have shift : value.log2 - 52 = 0 := by
    by_cases zero : value = 0
    · subst zero
      rfl
    · have below : value.log2 < 53 := by
        rw [Nat.log2_lt zero]
        simp only [maxSafeInteger] at small
        omega
      omega
  simp [nearestNat, shift, Nat.mod_one]

theorem nearestNat_large {value : Nat} (large : maxSafeInteger < value) : maxSafeInteger < nearestNat value := by
  simp only [maxSafeInteger] at large ⊢
  have zero : value ≠ 0 := by omega
  have wide : 53 ≤ value.log2 := by
    by_contra narrow
    have below : value < 2 ^ 53 := (Nat.log2_lt zero).mp (by omega)
    omega
  have split : 2 ^ 52 * 2 ^ (value.log2 - 52) ≤ value := by
    rw [← Nat.pow_add, Nat.add_sub_cancel' (by omega)]
    exact Nat.log2_self_le zero
  have two : 2 ^ 1 ≤ 2 ^ (value.log2 - 52) := Nat.pow_le_pow_right (by omega) (by omega)
  have unit : 0 < 2 ^ (value.log2 - 52) := Nat.two_pow_pos _
  have quotient : 2 ^ 52 ≤ value / 2 ^ (value.log2 - 52) := (Nat.le_div_iff_mul_le unit).mpr split
  have floor : 2 ^ 53 ≤ value / 2 ^ (value.log2 - 52) * 2 ^ (value.log2 - 52) :=
    calc 2 ^ 53 = 2 ^ 52 * 2 ^ 1 := by norm_num
      _ ≤ value / 2 ^ (value.log2 - 52) * 2 ^ (value.log2 - 52) := Nat.mul_le_mul quotient two
  simp only [nearestNat, Nat.one_shiftLeft]
  split
  · rw [Nat.add_mul]
    omega
  · omega

/-- A multiple of its own unit is a double. -/
theorem nearestNat_multiple {value : Nat} (whole : value % 1 <<< (value.log2 - 52) = 0) :
    nearestNat value = value := by
  have unit : 0 < 1 <<< (value.log2 - 52) := by
    rw [Nat.one_shiftLeft]
    exact Nat.two_pow_pos _
  have kept : ¬ (1 <<< (value.log2 - 52) < 2 * 0 ∨ 1 <<< (value.log2 - 52) = 2 * 0 ∧
      value / 1 <<< (value.log2 - 52) % 2 = 1) := by omega
  simp only [nearestNat, whole, if_neg kept]
  exact Nat.div_mul_cancel (Nat.dvd_of_mod_eq_zero whole)

private theorem nearestNat_quotient (value : Nat) :
    nearestNat value = value / 1 <<< (value.log2 - 52) * 1 <<< (value.log2 - 52) ∨
      nearestNat value = (value / 1 <<< (value.log2 - 52) + 1) * 1 <<< (value.log2 - 52) := by
  simp only [nearestNat]
  split
  · exact .inr rfl
  · exact .inl rfl

/-- What was rounded is not rounded again. -/
theorem nearestNat_idem {value : Nat} : nearestNat (nearestNat value) = nearestNat value := by
  by_cases small : value ≤ maxSafeInteger
  · rw [nearestNat_small small, nearestNat_small small]
  have zero : value ≠ 0 := by
    simp only [maxSafeInteger] at small
    omega
  have wide : 53 ≤ value.log2 := by
    rw [Nat.le_log2 zero]
    simp only [maxSafeInteger] at small
    omega
  obtain ⟨shift, same⟩ : ∃ shift, value.log2 = shift + 52 := ⟨value.log2 - 52, by omega⟩
  have shape := nearestNat_quotient value
  rw [same, Nat.add_sub_cancel, Nat.one_shiftLeft] at shape
  have lower : 2 ^ 52 ≤ value / 2 ^ shift := by
    rw [Nat.le_div_iff_mul_le (Nat.two_pow_pos _), ← Nat.pow_add, Nat.add_comm, ← same]
    exact Nat.log2_self_le zero
  have upper : value / 2 ^ shift < 2 ^ 53 := by
    rw [Nat.div_lt_iff_lt_mul (Nat.two_pow_pos _), ← Nat.pow_add]
    have next : 53 + shift = value.log2 + 1 := by omega
    rw [next]
    exact Nat.lt_log2_self
  -- the rounded value is a multiple of the unit, of 53 digits or the next power of two
  obtain ⟨count, rounded, least, most⟩ : ∃ count, nearestNat value = count * 2 ^ shift ∧ 2 ^ 52 ≤ count ∧
      count ≤ 2 ^ 53 := by
    rcases shape with down | up
    · exact ⟨_, down, lower, Nat.le_of_lt upper⟩
    · exact ⟨_, up, Nat.le_succ_of_le lower, upper⟩
  rw [rounded]
  refine nearestNat_multiple ?_
  have positive : count * 2 ^ shift ≠ 0 := Nat.mul_ne_zero (by omega) (Nat.two_pow_pos _).ne'
  rw [Nat.one_shiftLeft]
  by_cases power : count = 2 ^ 53
  · rw [power, ← Nat.pow_add, Nat.log2_two_pow]
    exact Nat.mod_eq_zero_of_dvd (Nat.pow_dvd_pow 2 (Nat.sub_le _ _))
  · have digits : (count * 2 ^ shift).log2 = 52 + shift := by
      rw [Nat.log2_eq_iff positive, Nat.pow_succ, Nat.pow_add, Nat.mul_right_comm]
      have strict : count < 2 ^ 52 * 2 := by omega
      exact ⟨Nat.mul_le_mul_right _ least, Nat.mul_lt_mul_of_pos_right strict (Nat.two_pow_pos _)⟩
    rw [digits, Nat.add_sub_cancel_left]
    exact Nat.mul_mod_left _ _

theorem nearestDouble_safe {value : Int} :
    isSafeInteger (nearestDouble value) = true ↔ value.natAbs ≤ maxSafeInteger := by
  have shape : ∃ whole : Int, nearestDouble value = whole ∧ whole.natAbs = nearestNat value.natAbs := by
    unfold nearestDouble
    split
    · exact ⟨-(nearestNat value.natAbs : Int), by push_cast; rfl, by simp⟩
    · exact ⟨(nearestNat value.natAbs : Int), rfl, by simp⟩
  obtain ⟨whole, same, size⟩ := shape
  rw [same, isSafeInteger_int, size]
  constructor
  · intro safe
    by_contra large
    exact absurd (nearestNat_large (Nat.lt_of_not_le large)) (Nat.not_lt.mpr safe)
  · intro small
    rwa [nearestNat_small small]

theorem nearestDouble_small {value : Int} (small : value.natAbs ≤ maxSafeInteger) :
    nearestDouble value = value := by
  unfold nearestDouble
  rw [nearestNat_small small]
  split
  · rename_i negative
    rw [Int.ofNat_natAbs_of_nonpos (by omega)]
    push_cast
    simp
  · rename_i nonnegative
    rw [Int.natAbs_of_nonneg (by omega)]

end Doubles

end CanX.Desktop
