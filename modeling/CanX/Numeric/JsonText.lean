import CanX.Numeric.JsonReading
import Mathlib.Data.Nat.Digits.Defs

/-! The text of a JSON value in ASCII, indented by two spaces a level, and its way back. -/

namespace CanX.Numeric.Json

section Printing

/-- A line break and the indentation of a level. -/
def line (level : Nat) : List Point := point '\n' :: List.replicate (2 * level) (point ' ')

def hexLetter (value : Nat) : Point := point (Nat.digitChar value)

/-- The letter and the four digits of a unit, behind a backslash. -/
def unitEscape (unit : Nat) : List Point :=
  [point 'u', hexLetter (unit / 0x1000), hexLetter (unit / 0x100 % 0x10), hexLetter (unit / 0x10 % 0x10),
    hexLetter (unit % 0x10)]

def shortEscapes : List (Point × Point) :=
  [(point '"', point '"'), (point '\\', point '\\'), (point (Char.ofNat 0x08), point 'b'),
    (point (Char.ofNat 0x0C), point 'f'), (point '\n', point 'n'), (point '\r', point 'r'), (point '\t', point 't')]

def written (character : Point) : List Point :=
  match shortEscapes.lookup character with
  | some letter => [point '\\', letter]
  | none =>
    if 0x20 ≤ character.val ∧ character.val ≤ 0x7E then [character]
    else if character.val < 0x10000 then point '\\' :: unitEscape character.val
    else point '\\' :: (unitEscape (0xD800 + (character.val - 0x10000) / 0x400) ++
      point '\\' :: unitEscape (0xDC00 + (character.val - 0x10000) % 0x400))

def quoted (value : List Point) : List Point := point '"' :: (value.flatMap written ++ [point '"'])

def decimalDigits (value : Nat) : List Point := (Nat.toDigits 10 value).map point

def integerText (value : Int) : List Point :=
  if value < 0 then point '-' :: decimalDigits value.natAbs else decimalDigits value.natAbs

mutual

/-- `json.dumps` with an indentation of two; the fields are in the order given. -/
def pretty (level : Nat) : Json → List Point
  | .null => points "null"
  | .boolean value => if value then points "true" else points "false"
  | .integer value => integerText value
  | .decimal literal => literal
  | .string value => quoted value
  | .array [] => points "[]"
  | .array (element :: rest) =>
    point '[' :: (line (level + 1) ++ (pretty (level + 1) element ++ prettyElements level rest ++ [point ']']))
  | .object [] => points "\x7b\x7d"
  | .object ((name, value) :: rest) =>
    point '{' :: (line (level + 1) ++ (quoted name ++ point ':' :: point ' ' :: (pretty (level + 1) value ++
      prettyFields level rest) ++ [point '}']))

def prettyElements (level : Nat) : List Json → List Point
  | [] => line level
  | element :: rest =>
    point ',' :: (line (level + 1) ++ (pretty (level + 1) element ++ prettyElements level rest))

def prettyFields (level : Nat) : List (List Point × Json) → List Point
  | [] => line level
  | (name, value) :: rest =>
    point ',' :: (line (level + 1) ++ (quoted name ++ point ':' :: point ' ' :: (pretty (level + 1) value ++
      prettyFields level rest)))

end

def scalar (character : Point) : Bool := character.val < 0xD800 || 0xDFFF < character.val

mutual

/-- Texts without surrogates, integers of few digits and no decimal. -/
def portable : Json → Bool
  | .integer value => decide ((Nat.toDigits 10 value.natAbs).length ≤ maxDigits)
  | .decimal _ => false
  | .string value => value.all scalar
  | .array elements => eachPortable elements
  | .object fields => fieldsPortable fields
  | _ => true

def eachPortable : List Json → Bool
  | [] => true
  | element :: rest => portable element && eachPortable rest

def fieldsPortable : List (List Point × Json) → Bool
  | [] => true
  | (name, value) :: rest => name.all scalar && portable value && fieldsPortable rest

end

end Printing

section Strings

variable {character : Point} {value rest : List Point} {unit : Nat}

private theorem hexDigit_letter : ∀ value < 16, hexDigit (hexLetter value) = some value := by decide

private theorem hexUnit_escape (small : unit < 0x10000) :
    hexUnit (hexLetter (unit / 0x1000)) (hexLetter (unit / 0x100 % 0x10)) (hexLetter (unit / 0x10 % 0x10))
      (hexLetter (unit % 0x10)) = some unit := by
  rw [hexUnit, hexDigit_letter _ (by omega), hexDigit_letter _ (by omega), hexDigit_letter _ (by omega),
    hexDigit_letter _ (by omega)]
  simp only [Option.bind_eq_bind, Option.bind_some, Option.pure_def, Option.some.injEq]
  omega

private theorem shortEscapes_named : ∀ entry ∈ shortEscapes, named.lookup entry.2 = some entry.1 := by
  have each : shortEscapes.all (fun entry => named.lookup entry.2 = some entry.1) = true := by decide
  intro entry member
  simpa using List.all_eq_true.mp each entry member

private theorem unitPoint_val : unitPoint character.val = character := Fin.ofNat_val_eq_self character

/-- The two surrogates of a character stand for it. -/
theorem pairPoint_val (large : 0x10000 ≤ character.val) :
    pairPoint (0xD800 + (character.val - 0x10000) / 0x400) (0xDC00 + (character.val - 0x10000) % 0x400) = character := by
  have same : 0x10000 + 0x400 * (0xD800 + (character.val - 0x10000) / 0x400 - 0xD800) +
      (0xDC00 + (character.val - 0x10000) % 0x400 - 0xDC00) = character.val := by omega
  rw [pairPoint, same]
  exact Fin.ofNat_val_eq_self character

private theorem written_spells {body : List Point} (alone : scalar character = true) (rest : Written body value) :
    Written (written character ++ body) (character :: value) := by
  have below : character.val < 0x110000 := character.isLt
  simp only [scalar, Bool.or_eq_true, decide_eq_true_eq] at alone
  unfold written
  cases short : shortEscapes.lookup character with
  | some letter =>
    obtain ⟨front, back, split, -⟩ := List.lookup_eq_some_iff.mp short
    have member : (character, letter) ∈ shortEscapes := by
      rw [split]
      exact List.mem_append_right _ List.mem_cons_self
    exact .letter (shortEscapes_named _ member) rest
  | none =>
    dsimp only
    split
    · rename_i printed
      refine .kept ?_ printed.1 ?_ rest
      · rintro rfl
        cases short
      · rintro rfl
        cases short
    · split
      · rename_i small
        have spelled := Written.unit (hexUnit_escape small) (fun high => by unfold High at high; omega) rest
        rwa [unitPoint_val] at spelled
      · rename_i large
        have upper : High (0xD800 + (character.val - 0x10000) / 0x400) := by
          unfold High
          omega
        have lower : Low (0xDC00 + (character.val - 0x10000) % 0x400) := by
          unfold Low
          omega
        have spelled := Written.pair (hexUnit_escape (by omega)) upper (hexUnit_escape (by omega)) lower rest
        rwa [pairPoint_val (Nat.le_of_not_lt large)] at spelled

/-- The text of a string stands for the string. -/
theorem quoted_written (scalars : value.all scalar = true) : Written (value.flatMap written) value := by
  induction value with
  | nil => exact .nil
  | cons first rest ih =>
    rw [List.all_cons, Bool.and_eq_true] at scalars
    exact written_spells scalars.1 (ih scalars.2)

end Strings

section Integers

variable {count : Nat} {rest : List Point}

theorem point_val (character : Char) : (point character).val = character.toNat := by
  have valid := character.valid
  simp only [UInt32.isValidChar, Nat.isValidChar] at valid
  have below : character.toNat < 0x110000 := by
    change character.val.toNat < 0x110000
    omega
  rw [point, Fin.val_ofNat, Nat.mod_eq_of_lt below]

private theorem digit_point {character : Char} (decimal : character.isDigit = true) :
    digit (point character) = true := by
  simp only [Char.isDigit, Bool.and_eq_true, decide_eq_true_eq] at decimal
  have lower := UInt32.le_iff_toNat_le.mp decimal.1
  have upper := UInt32.le_iff_toNat_le.mp decimal.2
  simp only [digit, point_val, Bool.and_eq_true, decide_eq_true_eq]
  exact ⟨lower, upper⟩

private theorem decimalDigits_digit : ∀ character ∈ decimalDigits count, digit character = true := by
  intro character member
  obtain ⟨letter, inside, rfl⟩ := List.mem_map.mp member
  exact digit_point (Nat.isDigit_of_mem_toDigits (by decide) (by decide) inside)

private theorem decimalDigits_value : digitsValue (decimalDigits count) = count := by
  have value : (Nat.toDigits 10 count).foldl (fun high character => 10 * high + (character.toNat - '0'.toNat)) 0 =
      count := Nat.ofDigitChars_ten_toDigits
  rw [digitsValue, decimalDigits, List.foldl_map]
  simp only [point_val]
  exact value

/-- The digits of a number start with zero for zero alone. -/
theorem toDigits_leads : ∀ count : Nat, 0 < count → (Nat.toDigits 10 count).head? ≠ some '0' := by
  intro count
  induction count using Nat.strongRecOn with
  | ind count ih =>
    intro positive
    by_cases small : count < 10
    · rw [Nat.toDigits_of_lt_base small]
      have letters : ∀ value < 10, 0 < value → [value.digitChar].head? ≠ some '0' := by decide
      exact letters count small positive
    · rw [Nat.toDigits_of_base_le (by decide) (by omega), List.head?_append_of_ne_nil _ Nat.toDigits_ne_nil]
      exact ih _ (Nat.div_lt_self positive (by decide)) (Nat.div_pos (by omega) (by decide))

private theorem decimalDigits_leads (count : Nat) :
    ∃ first rest, decimalDigits count = first :: rest ∧ digit first = true ∧
    (first = point '0' → rest = []) := by
  have digits : ∀ character ∈ decimalDigits count, digit character = true := decimalDigits_digit
  cases listed : Nat.toDigits 10 count with
  | nil => exact absurd listed Nat.toDigits_ne_nil
  | cons letter letters =>
    rw [decimalDigits, listed, List.map_cons] at digits ⊢
    refine ⟨_, _, rfl, digits _ List.mem_cons_self, fun zero => ?_⟩
    rcases Nat.eq_zero_or_pos count with rfl | positive
    · rw [Nat.toDigits_zero] at listed
      obtain ⟨-, rfl⟩ := List.cons.inj listed
      rfl
    · refine absurd ?_ (toDigits_leads count positive)
      have values := congrArg Fin.val zero
      rw [point_val, point_val] at values
      rw [listed, List.head?_cons, Char.ext (UInt32.toNat_inj.mp values)]

/-- The digits of a number are those of an integer. -/
theorem decimalDigits_whole : Whole (decimalDigits count) := by
  obtain ⟨first, rest, same, -, alone⟩ := decimalDigits_leads count
  refine ⟨⟨by rw [same]; exact List.cons_ne_nil _ _, decimalDigits_digit⟩, fun zero => ?_⟩
  rw [same] at zero ⊢
  obtain rfl := Option.some.inj zero
  rw [alone rfl]

/-- The text of an integer is a token of it. -/
theorem integerText_token {value : Int} (short : (Nat.toDigits 10 value.natAbs).length ≤ maxDigits) :
    Token (integerText value) (.integer value) := by
  have few : (decimalDigits value.natAbs).length ≤ maxDigits := by
    rw [decimalDigits, List.length_map]
    exact short
  have counted : digitsValue (decimalDigits value.natAbs) = value.natAbs := decimalDigits_value
  unfold integerText
  split
  · rename_i negative
    have token := Token.negative decimalDigits_whole few
    rwa [counted, ← Int.eq_neg_natAbs_of_nonpos (Int.le_of_lt negative)] at token
  · rename_i natural
    have token := Token.natural decimalDigits_whole few
    rwa [counted, Int.natAbs_of_nonneg (Int.not_lt.mp natural)] at token

end Integers


section Printed

variable {level : Nat}

theorem line_gap : Gap (line level) := by
  intro character member
  rcases List.mem_cons.mp member with rfl | later
  · decide
  · obtain rfl := List.eq_of_mem_replicate later
    decide

theorem empty_gap : Gap [] := fun _ none => absurd none List.not_mem_nil

theorem space_gap : Gap [point ' '] := by
  intro character member
  obtain rfl := List.mem_singleton.mp member
  decide

mutual

/-- The text of a value spells it. -/
theorem pretty_spells (level : Nat) {value : Json} (carried : portable value = true) :
    Spells (.value value) (pretty level value) := by
  cases value with
  | null => exact .plain (.keyword (by simp [keywords, pretty]))
  | boolean value =>
    cases value with
    | true => exact .plain (.keyword (by simp [keywords, pretty]))
    | false => exact .plain (.keyword (by simp [keywords, pretty]))
  | integer value =>
    rw [portable, decide_eq_true_eq] at carried
    exact .plain (integerText_token carried)
  | decimal literal => cases carried
  | string value => exact .string (quoted_written carried)
  | array elements =>
    cases elements with
    | nil => exact .emptyArray empty_gap
    | cons element rest =>
      rw [portable, eachPortable, Bool.and_eq_true] at carried
      rw [pretty]
      exact .array line_gap (prettyElements_spells level (pretty_spells (level + 1) carried.1) carried.2)
  | object fields =>
    cases fields with
    | nil => exact .emptyObject empty_gap
    | cons entry rest =>
      obtain ⟨name, value⟩ := entry
      rw [portable, fieldsPortable, Bool.and_eq_true, Bool.and_eq_true] at carried
      rw [pretty]
      exact .object line_gap (prettyFields_spells level carried.1.1 (pretty_spells (level + 1) carried.1.2) carried.2)

theorem prettyElements_spells (level : Nat) {element : Json} {text : List Point} {rest : List Json}
    (spelled : Spells (.value element) text) (carried : eachPortable rest = true) :
    Spells (.elements (element :: rest)) (text ++ prettyElements level rest) := by
  cases rest with
  | nil => exact .last spelled line_gap
  | cons next others =>
    rw [eachPortable, Bool.and_eq_true] at carried
    rw [prettyElements]
    exact .more spelled empty_gap line_gap (prettyElements_spells level (pretty_spells (level + 1) carried.1) carried.2)

theorem prettyFields_spells (level : Nat) {name : List Point} {value : Json} {text : List Point}
    {rest : List (List Point × Json)} (scalars : name.all scalar = true) (spelled : Spells (.value value) text)
    (carried : fieldsPortable rest = true) :
    Spells (.fields ((name, value) :: rest))
      (quoted name ++ point ':' :: point ' ' :: (text ++ prettyFields level rest)) := by
  rw [quoted, List.cons_append, List.append_assoc, List.singleton_append]
  cases rest with
  | nil => exact .lastField (quoted_written scalars) empty_gap space_gap spelled line_gap
  | cons entry others =>
    obtain ⟨next, held⟩ := entry
    rw [fieldsPortable, Bool.and_eq_true, Bool.and_eq_true] at carried
    rw [prettyFields]
    exact .moreFields (quoted_written scalars) empty_gap space_gap spelled empty_gap line_gap
      (prettyFields_spells level carried.1.1 (pretty_spells (level + 1) carried.1.2) carried.2)

end

/-- What is printed is read back, with a line break behind it or not. -/
theorem loads_pretty {value : Json} {behind : List Point} (carried : portable value = true) (gap : Gap behind) :
    loads (pretty level value ++ behind) = .ok value :=
  (pretty_spells level carried).loads empty_gap gap

/-- A field on each line, and no space behind an opening bracket. -/
example : pretty 0 (.object [(points "a", .array [.integer (-7), .null])]) =
    points "\x7b\n  \"a\": [\n    -7,\n    null\n  ]\n\x7d" := by
  decide +kernel

end Printed

end CanX.Numeric.Json
