import Mathlib.Logic.Basic

/-! What a computation can raise, as a property of its faults that its parts hand on to it. -/

namespace CanX.Transition

variable {Fault Value Other : Type} {allowed permitted : Fault → Prop}

/-- Every fault that the outcome can be meets `allowed`. -/
def Raises (allowed : Fault → Prop) (outcome : Except Fault Value) : Prop :=
  ∀ fault, outcome = .error fault → allowed fault

theorem Raises.ok {value : Value} : Raises allowed (.ok value) := by
  intro fault raised
  cases raised

theorem Raises.error {fault : Fault} (held : allowed fault) :
    Raises allowed (.error fault : Except Fault Value) := by
  intro raised same
  obtain rfl := Except.error.inj same
  exact held

theorem Raises.bind {first : Except Fault Other} {next : Other → Except Fault Value}
    (begun : Raises allowed first) (continued : ∀ value, Raises allowed (next value)) :
    Raises allowed (first >>= next) := by
  cases first with
  | error fault =>
    intro raised same
    obtain rfl := Except.error.inj same
    exact begun fault rfl
  | ok value => exact continued value

theorem Raises.ite {condition : Prop} [Decidable condition] {first second : Except Fault Value}
    (here : Raises allowed first) (there : Raises allowed second) :
    Raises allowed (if condition then first else second) := by
  by_cases held : condition
  · rw [if_pos held]
    exact here
  · rw [if_neg held]
    exact there

theorem Raises.mapM {read : Other → Except Fault Value} {elements : List Other}
    (each : ∀ element ∈ elements, Raises allowed (read element)) : Raises allowed (elements.mapM read) := by
  induction elements with
  | nil => exact .ok
  | cons element rest ih =>
    obtain ⟨here, there⟩ := List.forall_mem_cons.mp each
    rw [List.mapM_cons]
    exact here.bind fun _ => (ih there).bind fun _ => .ok

/-- A computation of an optional value raises what it would raise of the value. -/
theorem Raises.mapM_option {read : Other → Except Fault Value} {element : Option Other}
    (each : ∀ held ∈ element, Raises allowed (read held)) : Raises allowed (element.mapM read) := by
  cases element with
  | none => exact .ok
  | some held =>
    intro fault raised
    refine each held rfl fault ?_
    cases outcome : read held with
    | error other =>
      have mapped : (some held).mapM read = .error other := by
        simp [Option.mapM_some, outcome, Functor.map, Except.map]
      rw [mapped] at raised
      rw [Except.error.inj raised]
    | ok value =>
      have mapped : (some held).mapM read = .ok (some value) := by
        simp [Option.mapM_some, outcome, Functor.map, Except.map]
      rw [mapped] at raised
      cases raised

/-- A list is read if each of its elements is. -/
theorem mapM_total {read : Other → Except Fault Value} {elements : List Other}
    (each : ∀ element ∈ elements, ∃ value, read element = .ok value) : ∃ values, elements.mapM read = .ok values := by
  induction elements with
  | nil => exact ⟨[], rfl⟩
  | cons element rest ih =>
    obtain ⟨⟨value, here⟩, there⟩ := List.forall_mem_cons.mp each
    obtain ⟨values, others⟩ := ih there
    exact ⟨value :: values, by rw [List.mapM_cons, here, others]; rfl⟩

/-- What a reading keeps of its elements, reading a list keeps. -/
theorem mapM_map {Key : Type} {read : Other → Except Fault Value} {key : Other → Key} {stored : Value → Key}
    (keeps : ∀ element value, read element = .ok value → stored value = key element) {elements : List Other}
    {values : List Value} (collected : elements.mapM read = .ok values) :
    values.map stored = elements.map key := by
  induction elements generalizing values with
  | nil =>
    cases collected
    rfl
  | cons element rest ih =>
    rw [List.mapM_cons] at collected
    cases here : read element with
    | error fault =>
      rw [here] at collected
      cases collected
    | ok value =>
      cases there : rest.mapM read with
      | error fault =>
        rw [here, there] at collected
        cases collected
      | ok others =>
        rw [here, there] at collected
        obtain rfl := Except.ok.inj collected
        rw [List.map_cons, List.map_cons, keeps element value here, ih there]

end CanX.Transition
