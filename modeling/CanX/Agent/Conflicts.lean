import CanX.Agent.Contracts
import Mathlib.Data.List.Sort
import Mathlib.Tactic.ByContra

/-! Pairwise conflict classification of the ownership surfaces of two tasks. -/

namespace CanX.Agent

open Dbc (CodePoint Text codePoint text)

inductive ConflictLevel where
  | c0
  | c1
  | c2
  | c3
  | c4
  deriving DecidableEq

def ConflictLevel.value : ConflictLevel → Nat
  | c0 => 0
  | c1 => 1
  | c2 => 2
  | c3 => 3
  | c4 => 4

def ConflictLevel.meaning : ConflictLevel → Text
  | c0 => text "no overlapping ownership"
  | c1 => text "textual, low-risk overlap"
  | c2 => text "semantic / shared-contract overlap"
  | c3 => text "public-truth overlap"
  | c4 => text "safety / migration / schema overlap"

/-- `max`, which keeps the first of two equal levels. -/
def ConflictLevel.higher (first second : ConflictLevel) : ConflictLevel :=
  if first.value < second.value then second else first

def autoResolvableCeiling : Nat := 1

structure PairConflict where
  left : Text
  right : Text
  level : ConflictLevel
  overlappingPaths : List Text
  reason : Text

def PairConflict.autoResolvable (conflict : PairConflict) : Bool := conflict.level.value ≤ autoResolvableCeiling

def sharedContractPaths (tasks : List TaskContract) : List Text :=
  tasks.flatMap fun task => task.sharedContracts.map ContractRef.path

def classifyPattern (pattern : Text) (config : AgentConfig) (sharedContracts : List Text) : ConflictLevel :=
  if config.safetyPaths.any (patternsOverlap pattern) then .c4
  else if config.publicTruthPaths.any (patternsOverlap pattern) then .c3
  else if sharedContracts.any (patternsOverlap pattern) then .c2
  else .c1

/-- The pairs of patterns of two surfaces that overlap, in the order in which they are compared. -/
def overlappingPairs (left right : TaskContract) : List (Text × Text) :=
  left.ownershipSurface.flatMap fun pattern =>
    (right.ownershipSurface.filter fun other => patternsOverlap pattern other).map fun other => (pattern, other)

/-- `sorted(set(values))`. -/
def sortedSet (values : List Text) : List Text := values.dedup.insertionSort fun first second => first ≤ second

def raisedLevel (config : AgentConfig) (shared : List Text) (level : ConflictLevel) (pair : Text × Text) :
    ConflictLevel :=
  (level.higher (classifyPattern pair.1 config shared)).higher (classifyPattern pair.2 config shared)

def pairLevel (left right : TaskContract) (config : AgentConfig) : ConflictLevel :=
  (overlappingPairs left right).foldl (raisedLevel config (sharedContractPaths [left, right])) .c0

/-- `classify_pair`. -/
def classifyPair (left right : TaskContract) (config : AgentConfig) : PairConflict :=
  let level := pairLevel left right config
  let overlaps := sortedSet ((overlappingPairs left right).map fun pair => pair.1 ++ text " ~ " ++ pair.2)
  if level = .c0 then ⟨left.taskId, right.taskId, .c0, [], ConflictLevel.meaning .c0⟩
  else ⟨left.taskId, right.taskId, level, overlaps,
    level.meaning ++ text ": " ++ (text ", ").intercalate overlaps⟩

/-- `classify_all`: every unordered pair. -/
def classifyAll (config : AgentConfig) : List TaskContract → List PairConflict
  | [] => []
  | left :: rest => rest.map (fun right => classifyPair left right config) ++ classifyAll config rest

def requiresSerialReview (task : TaskContract) (config : AgentConfig) : Bool :=
  task.riskClass = .safetyCritical ∨
    task.allowedPaths.any fun pattern => config.safetyPaths.any (patternsOverlap pattern)

/-! What the level of a pair is at least. -/

section Levels

variable {left right : TaskContract} {config : AgentConfig} {shared : List Text}

private theorem higher_le {first second : ConflictLevel} {bound : Nat} :
    (first.higher second).value ≤ bound ↔ first.value ≤ bound ∧ second.value ≤ bound := by
  unfold ConflictLevel.higher
  split <;> omega

/-- The level of a pair is no more than those of its overlapping patterns. -/
theorem pairLevel_le {bound : Nat} : (pairLevel left right config).value ≤ bound ↔
    ∀ pair ∈ overlappingPairs left right,
      (classifyPattern pair.1 config (sharedContractPaths [left, right])).value ≤ bound ∧
        (classifyPattern pair.2 config (sharedContractPaths [left, right])).value ≤ bound := by
  have folded (level : ConflictLevel) (pairs : List (Text × Text)) :
      (pairs.foldl (raisedLevel config (sharedContractPaths [left, right])) level).value ≤ bound ↔
        level.value ≤ bound ∧ ∀ pair ∈ pairs,
          (classifyPattern pair.1 config (sharedContractPaths [left, right])).value ≤ bound ∧
            (classifyPattern pair.2 config (sharedContractPaths [left, right])).value ≤ bound := by
    induction pairs generalizing level with
    | nil => simp
    | cons pair rest ih =>
      rw [List.foldl_cons, ih, raisedLevel, higher_le, higher_le, List.forall_mem_cons, and_assoc, and_assoc, and_assoc]
  rw [pairLevel, folded]
  exact and_iff_right (Nat.zero_le _)

private theorem patternsOverlap_comm (pattern other : Text) :
    patternsOverlap pattern other = patternsOverlap other pattern := by
  unfold patternsOverlap
  cases isGlob pattern with
  | false =>
    cases isGlob other with
    | false => exact decide_eq_decide.mpr eq_comm
    | true => rfl
  | true =>
    cases isGlob other with
    | false => rfl
    | true => exact decide_eq_decide.mpr or_comm

private theorem overlappingPairs_comm {pattern other : Text} :
    (pattern, other) ∈ overlappingPairs left right ↔ (other, pattern) ∈ overlappingPairs right left := by
  have spelled (first second : TaskContract) (one two : Text) : (one, two) ∈ overlappingPairs first second ↔
      one ∈ first.ownershipSurface ∧ two ∈ second.ownershipSurface ∧ patternsOverlap one two = true := by
    simp [overlappingPairs]
  rw [spelled, spelled, patternsOverlap_comm]
  exact and_left_comm

private theorem classifyPattern_comm (left right : TaskContract) (pattern : Text) :
    classifyPattern pattern config (sharedContractPaths [left, right]) =
      classifyPattern pattern config (sharedContractPaths [right, left]) := by
  have same : (sharedContractPaths [left, right]).any (patternsOverlap pattern) =
      (sharedContractPaths [right, left]).any (patternsOverlap pattern) := by
    simp [sharedContractPaths, Bool.or_comm]
  rw [classifyPattern, classifyPattern, same]

/-- Which of two tasks comes first makes no difference to the level of their conflict. -/
theorem pairLevel_comm {bound : Nat} :
    (pairLevel left right config).value ≤ bound ↔ (pairLevel right left config).value ≤ bound := by
  rw [pairLevel_le, pairLevel_le]
  constructor
  · intro all pair member
    have swapped := all (pair.2, pair.1) (overlappingPairs_comm.mpr member)
    rw [classifyPattern_comm right left pair.1, classifyPattern_comm right left pair.2]
    exact swapped.symm
  · intro all pair member
    have swapped := all (pair.2, pair.1) (overlappingPairs_comm.mp member)
    rw [classifyPattern_comm left right pair.1, classifyPattern_comm left right pair.2]
    exact swapped.symm

theorem classifyPair_level : (classifyPair left right config).level = pairLevel left right config := by
  unfold classifyPair
  by_cases none : pairLevel left right config = .c0
  · simp [none]
  · simp [none]

theorem classifyPair_ids :
    (classifyPair left right config).left = left.taskId ∧ (classifyPair left right config).right = right.taskId := by
  unfold classifyPair
  by_cases none : pairLevel left right config = .c0
  · simp [none]
  · simp [none]

theorem autoResolvable_comm :
    (classifyPair left right config).autoResolvable = (classifyPair right left config).autoResolvable := by
  unfold PairConflict.autoResolvable
  rw [classifyPair_level, classifyPair_level]
  exact decide_eq_decide.mpr pairLevel_comm

theorem classifyPattern_positive (pattern : Text) : 1 ≤ (classifyPattern pattern config shared).value := by
  unfold classifyPattern
  repeat' split
  all_goals decide

/-- The level of a pattern says which guards it overlaps. -/
theorem classifyPattern_contract (pattern : Text) : 2 ≤ (classifyPattern pattern config shared).value ↔
    ∃ guard ∈ config.safetyPaths ++ config.publicTruthPaths ++ shared, patternsOverlap pattern guard = true := by
  rw [← List.any_eq_true, List.any_append, List.any_append]
  unfold classifyPattern
  cases config.safetyPaths.any (patternsOverlap pattern) <;>
    cases config.publicTruthPaths.any (patternsOverlap pattern) <;>
    cases shared.any (patternsOverlap pattern) <;> decide

theorem classifyPattern_truth (pattern : Text) : 3 ≤ (classifyPattern pattern config shared).value ↔
    ∃ guard ∈ config.safetyPaths ++ config.publicTruthPaths, patternsOverlap pattern guard = true := by
  rw [← List.any_eq_true, List.any_append]
  unfold classifyPattern
  cases config.safetyPaths.any (patternsOverlap pattern) <;>
    cases config.publicTruthPaths.any (patternsOverlap pattern) <;>
    cases shared.any (patternsOverlap pattern) <;> decide

theorem classifyPattern_safety (pattern : Text) : 4 ≤ (classifyPattern pattern config shared).value ↔
    ∃ guard ∈ config.safetyPaths, patternsOverlap pattern guard = true := by
  rw [← List.any_eq_true]
  unfold classifyPattern
  cases config.safetyPaths.any (patternsOverlap pattern) <;>
    cases config.publicTruthPaths.any (patternsOverlap pattern) <;>
    cases shared.any (patternsOverlap pattern) <;> decide

/-- The level of a pair is that of one of its overlapping patterns. -/
theorem pairLevel_ge {bound : Nat} (positive : 0 < bound) : bound ≤ (pairLevel left right config).value ↔
    ∃ pair ∈ overlappingPairs left right,
      bound ≤ (classifyPattern pair.1 config (sharedContractPaths [left, right])).value ∨
        bound ≤ (classifyPattern pair.2 config (sharedContractPaths [left, right])).value := by
  have below : (pairLevel left right config).value ≤ bound - 1 ↔ ∀ pair ∈ overlappingPairs left right,
      (classifyPattern pair.1 config (sharedContractPaths [left, right])).value ≤ bound - 1 ∧
        (classifyPattern pair.2 config (sharedContractPaths [left, right])).value ≤ bound - 1 := pairLevel_le
  constructor
  · intro reached
    by_contra none
    have short : (pairLevel left right config).value ≤ bound - 1 := by
      refine below.mpr fun pair member => ?_
      have neither := not_or.mp fun either => none ⟨pair, member, either⟩
      omega
    omega
  · rintro ⟨pair, member, either⟩
    by_contra short
    have both := below.mp (by omega) pair member
    omega

/-- Every two tasks of a set are classified, in the order in which the set has them. -/
theorem mem_classifyAll {conflict : PairConflict} {tasks : List TaskContract} :
    conflict ∈ classifyAll config tasks ↔
      ∃ left right, List.Sublist [left, right] tasks ∧ conflict = classifyPair left right config := by
  induction tasks with
  | nil =>
    constructor
    · intro member
      cases member
    · rintro ⟨left, right, sub, -⟩
      cases sub
  | cons first rest ih =>
    rw [classifyAll, List.mem_append, List.mem_map, ih]
    constructor
    · rintro (⟨right, member, rfl⟩ | ⟨left, right, sub, same⟩)
      · exact ⟨first, right, (List.singleton_sublist.mpr member).cons_cons first, rfl⟩
      · exact ⟨left, right, sub.cons first, same⟩
    · rintro ⟨left, right, sub, same⟩
      cases sub with
      | cons _ later => exact .inr ⟨left, right, later, same⟩
      | cons_cons _ later => exact .inl ⟨right, List.singleton_sublist.mp later, same.symm⟩

end Levels

end CanX.Agent
