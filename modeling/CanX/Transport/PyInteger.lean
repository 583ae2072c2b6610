import CanX.Dbc.Service
import CanX.Transport.PyValue
import Std.Data.String.ToInt

/-! `int(value)` and `str(value)` between texts and integers. -/

namespace CanX.Transport

open Dbc

/-- The zeros of the decimal digits of Unicode; the nine digits that follow each come in order. -/
def decimalZeros : List Nat :=
  [0x30, 0x660, 0x6F0, 0x7C0, 0x966, 0x9E6, 0xA66, 0xAE6, 0xB66, 0xBE6, 0xC66, 0xCE6, 0xD66, 0xDE6, 0xE50, 0xED0,
    0xF20, 0x1040, 0x1090, 0x17E0, 0x1810, 0x1946, 0x19D0, 0x1A80, 0x1A90, 0x1B50, 0x1BB0, 0x1C40, 0x1C50, 0xA620,
    0xA8D0, 0xA900, 0xA9D0, 0xA9F0, 0xAA50, 0xABF0, 0xFF10, 0x104A0, 0x10D30, 0x11066, 0x110F0, 0x11136, 0x111D0,
    0x112F0, 0x11450, 0x114D0, 0x11650, 0x116C0, 0x11730, 0x118E0, 0x11950, 0x11C50, 0x11D50, 0x11DA0, 0x11F50,
    0x16A60, 0x16AC0, 0x16B50, 0x1D7CE, 0x1D7D8, 0x1D7E2, 0x1D7EC, 0x1D7F6, 0x1E140, 0x1E2F0, 0x1E4F0, 0x1E950,
    0x1FBF0]

def CodePoint.digit (point : CodePoint) : Option Nat :=
  decimalZeros.findSome? fun start =>
    if start ≤ point.val ∧ point.val < start + 10 then some (point.val - start) else none

/-- Digits, with a single underscore between two of them where one stands. -/
def digitRun : Text → Option (List Nat)
  | [] => none
  | [point] => (CodePoint.digit point).map fun digit => [digit]
  | point :: next :: rest => do
    let digit ← CodePoint.digit point
    let digits ← if next = codePoint '_' then digitRun rest else digitRun (next :: rest)
    return digit :: digits

/-- `sys.int_info.default_max_str_digits`. -/
def maxStrDigits : Nat := 4300

def magnitude (digits : Text) : Option Nat := do
  let run ← digitRun digits
  if maxStrDigits < run.length then none else some (run.foldl (fun high digit => 10 * high + digit) 0)

/-- The white space that `int` passes over: the separators `U+001C` to `U+001F` are none to it. -/
def CodePoint.padding (point : CodePoint) : Bool :=
  CodePoint.space point && (point.val < 0x1C || 0x1F < point.val)

def Text.unpadded (value : Text) : Text :=
  ((value.dropWhile CodePoint.padding).reverse.dropWhile CodePoint.padding).reverse

/-- `int(value)`, which raises a `ValueError` where this is `none`. -/
def intOf (value : Text) : Option Int :=
  match Text.unpadded value with
  | [] => none
  | first :: rest =>
    if first = codePoint '-' then (magnitude rest).map fun count => -(count : Int)
    else if first = codePoint '+' then (magnitude rest).map Int.ofNat
    else (magnitude (first :: rest)).map Int.ofNat

/-- `str(value)`. -/
def textOf (value : Int) : Text := text value.repr

theorem codePoint_val (character : Char) : (codePoint character).val = character.toNat := by
  have bounded : ∀ character : Char, character.toNat < 0x110000 := toNat_below
  rw [codePoint, Fin.val_ofNat, Nat.mod_eq_of_lt (bounded character)]

private theorem codePoint_injective {first second : Char} (same : codePoint first = codePoint second) :
    first = second := by
  have values := congrArg Fin.val same
  rw [codePoint_val, codePoint_val] at values
  exact Char.ext (UInt32.toNat_inj.mp values)

theorem text_injective {first second : String} (same : text first = text second) : first = second := by
  have characters := List.map_injective_iff.mpr (fun _ _ => codePoint_injective) same
  exact String.toList_injective characters

theorem textOf_injective {first second : Int} (same : textOf first = textOf second) : first = second :=
  Int.repr_injective (text_injective same)

section Decimal

variable {character : Char} {characters : List Char}

private theorem digit_bounds (digit : character.isDigit = true) : 0x30 ≤ character.toNat ∧ character.toNat < 0x3A := by
  simp only [Char.isDigit, Bool.and_eq_true, decide_eq_true_eq] at digit
  have lower := UInt32.le_iff_toNat_le.mp digit.1
  have upper := UInt32.le_iff_toNat_le.mp digit.2
  exact ⟨lower, Nat.lt_succ_of_le upper⟩

private theorem digit_char (digit : character.isDigit = true) :
    CodePoint.digit (codePoint character) = some (character.toNat - '0'.toNat) := by
  obtain ⟨lower, upper⟩ := digit_bounds digit
  rw [CodePoint.digit, decimalZeros, List.findSome?_cons, codePoint_val, if_pos ⟨lower, upper⟩]
  rfl

private theorem digit_apart {other : Char} (digit : character.isDigit = true) (apart : other.isDigit = false) :
    codePoint character ≠ codePoint other := by
  intro same
  rw [codePoint_injective same] at digit
  cases digit.symm.trans apart

private theorem digitRun_chars (nonempty : characters ≠ [])
    (digits : ∀ character ∈ characters, character.isDigit = true) :
    digitRun (characters.map codePoint) = some (characters.map fun character => character.toNat - '0'.toNat) := by
  induction characters with
  | nil => exact absurd rfl nonempty
  | cons first rest ih =>
    obtain ⟨here, later⟩ := List.forall_mem_cons.mp digits
    cases rest with
    | nil => simp only [List.map_cons, List.map_nil, digitRun, digit_char here, Option.map_some]
    | cons second rest =>
      have apart : codePoint second ≠ codePoint '_' := digit_apart (later second List.mem_cons_self) (by decide)
      have tail := ih (List.cons_ne_nil _ _) later
      simp only [List.map_cons, digitRun, digit_char here, if_neg apart] at tail ⊢
      rw [tail]
      rfl

/-- Nothing is taken off where no character qualifies. -/
theorem trim_none {qualifies : CodePoint → Bool} {value : Text} (none : ∀ point ∈ value, qualifies point = false) :
    ((value.dropWhile qualifies).reverse.dropWhile qualifies).reverse = value := by
  have whole (value : Text) (none : ∀ point ∈ value, qualifies point = false) : value.dropWhile qualifies = value := by
    cases value with
    | nil => rfl
    | cons first rest => exact List.dropWhile_cons_of_neg (by simp [none first List.mem_cons_self])
  rw [whole _ none, whole _ fun point member => none point (List.mem_reverse.mp member), List.reverse_reverse]

private theorem unpadded_digits (digits : ∀ character ∈ characters, character.isDigit = true) :
    Text.unpadded (characters.map codePoint) = characters.map codePoint := by
  refine trim_none fun point member => ?_
  obtain ⟨character, inside, rfl⟩ := List.mem_map.mp member
  obtain ⟨lower, upper⟩ := digit_bounds (digits character inside)
  simp [CodePoint.padding, CodePoint.space, codePoint_val]
  omega

/-- The digits of a number that are not too many are read as that number. -/
theorem intOf_textOf {count : Nat} (short : (Nat.toDigits 10 count).length ≤ maxStrDigits) :
    intOf (textOf count) = some (count : Int) := by
  have digits : ∀ character ∈ Nat.toDigits 10 count, character.isDigit = true :=
    fun character member => Nat.isDigit_of_mem_toDigits (by decide) (by decide) member
  have spelled : textOf (count : Int) = (Nat.toDigits 10 count).map codePoint := by
    have printed : (count : Int).repr = count.repr := rfl
    rw [textOf, text, printed, Nat.toList_repr]
  have nonempty : Nat.toDigits 10 count ≠ [] := Nat.toDigits_ne_nil
  have counted : magnitude ((Nat.toDigits 10 count).map codePoint) = some count := by
    have value : (Nat.toDigits 10 count).foldl (fun high character => 10 * high + (character.toNat - '0'.toNat)) 0 =
        count := Nat.ofDigitChars_ten_toDigits
    rw [magnitude, digitRun_chars nonempty digits]
    simp only [Option.bind_eq_bind, Option.bind_some, List.length_map, Nat.not_lt.mpr short, if_false, List.foldl_map,
      value]
  rw [intOf, spelled, unpadded_digits digits]
  cases listed : Nat.toDigits 10 count with
  | nil => exact absurd listed nonempty
  | cons first rest =>
    rw [listed] at counted digits
    have here := digits first List.mem_cons_self
    simp only [List.map_cons] at counted ⊢
    rw [if_neg (digit_apart here (by decide)), if_neg (digit_apart here (by decide)), counted]
    rfl

end Decimal

end CanX.Transport
