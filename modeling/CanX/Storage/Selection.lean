import Mathlib.Data.List.Basic
import Mathlib.Data.List.Dedup
import Mathlib.Data.List.Perm.Basic

/-! What a selection over a list of parts answers. An order that ties leaves open which of the tied rows
comes first, so the ordered answers of a selection are a relation. -/

namespace CanX.Storage

universe u v

variable {Part : Type u} {Row : Type v}
variable {rows : Part → List Row} {parts : List Part} {keep : Part → Bool} {accept : Row → Bool}

/-- The rows of all parts that a condition accepts. -/
def selected (rows : Part → List Row) (accept : Row → Bool) (parts : List Part) : List Row :=
  (parts.flatMap rows).filter accept

/-- The rows of an answer are those selected, and none comes before one it must follow. -/
def Ordered (before : Row → Row → Bool) (matched answer : List Row) : Prop :=
  answer.Perm matched ∧ answer.Pairwise fun first second => before first second = true

/-- Each group that occurs, with how often it does. -/
def grouped {Group : Type} [DecidableEq Group] (groups : List Group) : List (Group × Nat) :=
  groups.dedup.map fun group => (group, groups.count group)

/-- Parts without an accepted row may be left out. -/
theorem selected_pruned (sound : ∀ part ∈ parts, keep part = false → ∀ row ∈ rows part, accept row = false) :
    selected rows accept (parts.filter keep) = selected rows accept parts := by
  induction parts with
  | nil => rfl
  | cons part rest ih =>
    obtain ⟨here, there⟩ := List.forall_mem_cons.mp sound
    have tail : ((rest.filter keep).flatMap rows).filter accept = (rest.flatMap rows).filter accept := ih there
    rw [selected, selected, List.flatMap_cons, List.filter_append]
    by_cases kept : keep part = true
    · rw [List.filter_cons_of_pos kept, List.flatMap_cons, List.filter_append, tail]
    · have dropped := Bool.eq_false_iff.mpr kept
      have empty : (rows part).filter accept = [] := by
        refine List.filter_eq_nil_iff.mpr ?_
        intro row member accepted
        exact Bool.eq_false_iff.mp (here dropped row member) accepted
      rw [List.filter_cons_of_neg kept, empty, List.nil_append, tail]

theorem selected_nil : selected rows accept [] = [] := rfl

theorem Ordered.nil {before : Row → Row → Bool} {answer : List Row} : Ordered before [] answer ↔ answer = [] := by
  constructor
  · intro ordered
    exact ordered.1.eq_nil
  · rintro rfl
    exact ⟨.refl _, .nil⟩

end CanX.Storage
