import Mathlib.Data.List.Basic

/-! Glob patterns over any alphabet, and the escaping of a text to a pattern of its own. -/

namespace CanX.Storage

universe u

/-- The letters that mean something in a pattern. -/
structure GlobAlphabet (Letter : Type u) where
  star : Letter
  question : Letter
  opening : Letter
  closing : Letter
  negation : Letter
  range : Letter
  separator : Letter
  distinct : [star, question, opening, closing, negation, range, separator].Nodup

namespace GlobAlphabet

variable {Letter : Type u}

/-- The items of a class, single letters and ranges, cover a letter. -/
def Covers [LE Letter] (alphabet : GlobAlphabet Letter) (letter : Letter) : List Letter → Prop
  | low :: dash :: high :: items =>
    (dash = alphabet.range ∧ ((low ≤ letter ∧ letter ≤ high) ∨ alphabet.Covers letter items)) ∨
      (dash ≠ alphabet.range ∧ (letter = low ∨ alphabet.Covers letter (dash :: high :: items)))
  | items => letter ∈ items

/-- What stands behind an opening bracket: a class, excluding its items or not, and the rest of the pattern. -/
inductive Class (alphabet : GlobAlphabet Letter) : Bool → List Letter → List Letter → List Letter → Prop
  | listed {first : Letter} {more rest : List Letter} (positive : first ≠ alphabet.negation)
      (last : alphabet.closing ∉ more) :
      Class alphabet false (first :: more) rest (first :: (more ++ alphabet.closing :: rest))
  | excluded {first : Letter} {more rest : List Letter} (last : alphabet.closing ∉ more) :
      Class alphabet true (first :: more) rest (alphabet.negation :: first :: (more ++ alphabet.closing :: rest))

/-- A letter that stands for itself. -/
def Plain (alphabet : GlobAlphabet Letter) (letter : Letter) : Prop :=
  letter ≠ alphabet.star ∧ letter ≠ alphabet.question ∧ letter ≠ alphabet.opening

/-- The texts that a pattern matches. -/
inductive Matches [LE Letter] (alphabet : GlobAlphabet Letter) : List Letter → List Letter → Prop
  | done : Matches alphabet [] []
  | literal {letter : Letter} {pattern after : List Letter} (plain : alphabet.Plain letter)
      (rest : Matches alphabet pattern after) : Matches alphabet (letter :: pattern) (letter :: after)
  | single {letter : Letter} {pattern after : List Letter} (rest : Matches alphabet pattern after) :
      Matches alphabet (alphabet.question :: pattern) (letter :: after)
  | run {letters pattern after : List Letter} (inner : alphabet.separator ∉ letters)
      (rest : Matches alphabet pattern after) : Matches alphabet (alphabet.star :: pattern) (letters ++ after)
  | segments {runs : List (List Letter)} {pattern after : List Letter}
      (inner : ∀ letters ∈ runs, alphabet.separator ∉ letters) (rest : Matches alphabet pattern after) :
      Matches alphabet (alphabet.star :: alphabet.star :: pattern)
        (List.intercalate [alphabet.separator] runs ++ after)
  | bracket {negated : Bool} {items pattern behind after : List Letter} {letter : Letter}
      (closed : alphabet.Class negated items pattern behind)
      (covered : alphabet.Covers letter items ↔ negated = false) (rest : Matches alphabet pattern after) :
      Matches alphabet (alphabet.opening :: behind) (letter :: after)
  | unclosed {pattern after : List Letter}
      (bare : ∀ negated items rest, ¬alphabet.Class negated items rest pattern)
      (rest : Matches alphabet pattern after) :
      Matches alphabet (alphabet.opening :: pattern) (alphabet.opening :: after)

/-- Every letter that opens something becomes a class of its own. -/
def escape [DecidableEq Letter] (alphabet : GlobAlphabet Letter) (value : List Letter) : List Letter :=
  value.flatMap fun letter =>
    if letter = alphabet.star ∨ letter = alphabet.question ∨ letter = alphabet.opening
    then [alphabet.opening, letter, alphabet.closing] else [letter]

section Escaping

variable {alphabet : GlobAlphabet Letter} {letter : Letter} {pattern value : List Letter}

theorem opening_letters (alphabet : GlobAlphabet Letter) :
    alphabet.star ≠ alphabet.opening ∧ alphabet.question ≠ alphabet.opening ∧
    alphabet.star ≠ alphabet.negation ∧ alphabet.question ≠ alphabet.negation ∧
      alphabet.opening ≠ alphabet.negation := by
  have distinct := alphabet.distinct
  simp only [List.nodup_cons, List.mem_cons, List.not_mem_nil, or_false, not_or] at distinct
  obtain ⟨star, question, opening, -⟩ := distinct
  exact ⟨star.2.1, question.1, star.2.2.2.1, question.2.2.1, opening.2.1⟩

/-- A bracket pair around one letter is the class of that letter. -/
theorem class_only (positive : letter ≠ alphabet.negation) {negated : Bool} {items rest : List Letter}
    (closed : alphabet.Class negated items rest (letter :: alphabet.closing :: pattern)) :
    negated = false ∧ items = [letter] ∧ rest = pattern := by
  generalize same : letter :: alphabet.closing :: pattern = behind at closed
  cases closed with
  | excluded last => exact absurd (List.cons.inj same).1 positive
  | @listed first more rest first_positive last =>
    obtain ⟨rfl, tail⟩ := List.cons.inj same
    cases more with
    | nil => exact ⟨rfl, rfl, (List.cons.inj tail).2.symm⟩
    | cons second others =>
      obtain ⟨rfl, -⟩ := List.cons.inj tail
      exact absurd (List.mem_cons_self) last

variable [LE Letter]

/-- A plain letter matches itself. -/
theorem matches_plain (plain : alphabet.Plain letter) : alphabet.Matches (letter :: pattern) value ↔
    ∃ after, value = letter :: after ∧ alphabet.Matches pattern after := by
  constructor
  · intro matched
    generalize same : letter :: pattern = whole at matched
    cases matched with
    | done => cases same
    | literal other rest =>
      obtain ⟨rfl, rfl⟩ := List.cons.inj same
      exact ⟨_, rfl, rest⟩
    | single rest => exact absurd (List.cons.inj same).1 plain.2.1
    | run inner rest => exact absurd (List.cons.inj same).1 plain.1
    | segments inner rest => exact absurd (List.cons.inj same).1 plain.1
    | bracket closed covered rest => exact absurd (List.cons.inj same).1 plain.2.2
    | unclosed bare rest => exact absurd (List.cons.inj same).1 plain.2.2
  · intro found
    obtain ⟨after, rfl, rest⟩ := found
    exact .literal plain rest

/-- One letter in brackets matches that letter alone. -/
theorem matches_bracketed (positive : letter ≠ alphabet.negation) :
    alphabet.Matches (alphabet.opening :: letter :: alphabet.closing :: pattern) value ↔
      ∃ after, value = letter :: after ∧ alphabet.Matches pattern after := by
  have closed : alphabet.Class false [letter] pattern (letter :: alphabet.closing :: pattern) :=
    .listed positive (List.not_mem_nil)
  have star := (opening_letters alphabet).1.symm
  have question := (opening_letters alphabet).2.1.symm
  constructor
  · intro matched
    generalize same : alphabet.opening :: letter :: alphabet.closing :: pattern = whole at matched
    cases matched with
    | done => cases same
    | literal other rest => exact absurd (List.cons.inj same).1.symm other.2.2
    | single rest => exact absurd (List.cons.inj same).1 question
    | run inner rest => exact absurd (List.cons.inj same).1 star
    | segments inner rest => exact absurd (List.cons.inj same).1 star
    | bracket found covered rest =>
      obtain ⟨-, rfl⟩ := List.cons.inj same
      obtain ⟨rfl, rfl, rfl⟩ := class_only positive found
      have inside := List.mem_singleton.mp (covered.mpr rfl)
      exact ⟨_, by rw [inside], rest⟩
    | unclosed bare rest =>
      obtain ⟨-, rfl⟩ := List.cons.inj same
      exact absurd closed (bare _ _ _)
  · intro found
    obtain ⟨after, rfl, rest⟩ := found
    exact .bracket closed ⟨fun _ => rfl, fun _ => List.mem_singleton.mpr rfl⟩ rest

/-- An escaped text matches itself and nothing else, whatever letters it has. -/
theorem matches_escape [DecidableEq Letter] {name : List Letter} :
    alphabet.Matches (alphabet.escape name) value ↔ value = name := by
  induction name generalizing value with
  | nil =>
    constructor
    · intro matched
      cases matched
      rfl
    · rintro rfl
      exact .done
  | cons letter rest ih =>
    have step : alphabet.Matches (alphabet.escape (letter :: rest)) value ↔
        ∃ after, value = letter :: after ∧ alphabet.Matches (alphabet.escape rest) after := by
      rw [escape, List.flatMap_cons]
      by_cases opens : letter = alphabet.star ∨ letter = alphabet.question ∨ letter = alphabet.opening
      · have positive : letter ≠ alphabet.negation := by
          obtain ⟨-, -, star, question, opening⟩ := opening_letters alphabet
          obtain rfl | rfl | rfl := opens
          · exact star
          · exact question
          · exact opening
        rw [if_pos opens]
        exact matches_bracketed positive
      · obtain ⟨star, other⟩ := not_or.mp opens
        obtain ⟨question, opening⟩ := not_or.mp other
        rw [if_neg opens]
        exact matches_plain ⟨star, question, opening⟩
    rw [step]
    constructor
    · intro found
      obtain ⟨after, rfl, matched⟩ := found
      rw [ih.mp matched]
    · rintro rfl
      exact ⟨rest, rfl, ih.mpr rfl⟩

end Escaping

end GlobAlphabet

end CanX.Storage
