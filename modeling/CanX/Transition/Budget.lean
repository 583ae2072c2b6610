import Mathlib.Order.Basic
import CanX.Transition.Path

/-! How many steps one party takes in an execution: a measure that its own steps lower, and those of the others do not
raise, bounds them. -/

namespace CanX.Transition

universe u v w
variable {State : Type u} {Label : Type v} {Output : Type w}
variable {step : State → Label → Option (State × Output)} {allowed : State → Label → Prop}
variable {source target : State} {trace : List (Label × Output)} {label : Label} {output : Output}
variable (own : Label → Prop) [DecidablePred own]

/-- The steps of a trace that are a party's own. -/
def ownSteps (trace : List (Label × Output)) : ℕ := trace.countP fun entry => own entry.1

private theorem ownSteps_snoc_own (held : own label) :
    ownSteps own (trace ++ [(label, output)]) = ownSteps own trace + 1 := by
  rw [ownSteps, List.countP_append, List.countP_singleton, if_pos (decide_eq_true held)]
  rfl

private theorem ownSteps_snoc_other (other : ¬ own label) :
    ownSteps own (trace ++ [(label, output)]) = ownSteps own trace := by
  rw [ownSteps, List.countP_append, List.countP_singleton, if_neg (by simpa using other)]
  rfl

theorem Path.spends (Invariant : State → Prop) (measure : State → ℕ) (initial : Invariant source)
    (lowers : ∀ state label next output, Invariant state → allowed state label → own label →
      step state label = some (next, output) → Invariant next ∧ measure next + 1 ≤ measure state)
    (keeps : ∀ state label next output, Invariant state → allowed state label → ¬ own label →
      step state label = some (next, output) → Invariant next ∧ measure next ≤ measure state)
    (path : Path step allowed source trace target) :
    Invariant target ∧ measure target + ownSteps own trace ≤ measure source := by
  induction path with
  | refl => exact ⟨initial, Nat.le_refl _⟩
  | @snoc trace middle label target output prior admitted moved ih =>
    obtain ⟨held, bounded⟩ := ih
    by_cases mine : own label
    · obtain ⟨kept, lowered⟩ := lowers _ _ _ _ held admitted mine moved
      refine ⟨kept, ?_⟩
      rw [ownSteps_snoc_own own mine]
      omega
    · obtain ⟨kept, lowered⟩ := keeps _ _ _ _ held admitted mine moved
      refine ⟨kept, ?_⟩
      rw [ownSteps_snoc_other own mine]
      omega

end CanX.Transition
