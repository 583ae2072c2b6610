import Mathlib.Data.List.Forall2

/-! Sequences of computations that may fail, and what their results are made of. -/

namespace CanX

variable {Fault First Second : Type}

theorem ok_bind {value : First} {next : First → Except Fault Second} :
    ((Except.ok value : Except Fault First) >>= next) = next value := rfl

theorem error_bind {fault : Fault} {next : First → Except Fault Second} :
    ((Except.error fault : Except Fault First) >>= next) = .error fault := rfl

theorem bind_ok {first : Except Fault First} {next : First → Except Fault Second} {value : Second} :
    (first >>= next) = .ok value ↔ ∃ middle, first = .ok middle ∧ next middle = .ok value := by
  cases first with
  | error fault => simp [error_bind]
  | ok middle => simp [ok_bind]

/-- What comes after a refused case. -/
theorem refused_ok {refused : Prop} [Decidable refused] {fault : Fault} {value : First}
    {rest : ¬refused → Except Fault First} :
    (if bad : refused then .error fault else rest bad) = .ok value ↔ ∃ good, rest good = .ok value := by
  by_cases bad : refused
  · rw [dif_pos bad]
    constructor
    · intro held
      cases held
    · intro found
      exact absurd bad found.1
  · rw [dif_neg bad]
    exact ⟨fun held => ⟨bad, held⟩, fun found => found.2⟩

/-- A list is read element by element. -/
theorem mapM_ok {read : First → Except Fault Second} {elements : List First} {values : List Second} :
    elements.mapM read = .ok values ↔ List.Forall₂ (fun element value => read element = .ok value) elements values := by
  induction elements generalizing values with
  | nil =>
    rw [List.mapM_nil, List.forall₂_nil_left_iff]
    exact ⟨fun given => (Except.ok.inj given).symm, fun given => congrArg _ given.symm⟩
  | cons element rest ih =>
    simp only [List.mapM_cons, bind_ok, List.forall₂_cons_left_iff, ih]
    constructor
    · rintro ⟨first, here, others, there, returned⟩
      exact ⟨first, others, here, there, (Except.ok.inj returned).symm⟩
    · rintro ⟨first, others, here, there, rfl⟩
      exact ⟨first, here, others, there, rfl⟩

theorem mapM_member {read : First → Except Fault Second} {elements : List First} {values : List Second}
    {element : First} (collected : elements.mapM read = .ok values) (member : element ∈ elements) :
    ∃ value ∈ values, read element = .ok value := by
  have all := mapM_ok.mp collected
  clear collected
  induction all with
  | nil => cases member
  | cons here _ ih =>
    rcases List.mem_cons.mp member with rfl | later
    · exact ⟨_, List.mem_cons_self, here⟩
    · obtain ⟨value, held, reads⟩ := ih later
      exact ⟨value, List.mem_cons_of_mem _ held, reads⟩

theorem mapM_source {read : First → Except Fault Second} {elements : List First} {values : List Second}
    {value : Second} (collected : elements.mapM read = .ok values) (member : value ∈ values) :
    ∃ element ∈ elements, read element = .ok value := by
  have all := mapM_ok.mp collected
  clear collected
  induction all with
  | nil => cases member
  | cons here _ ih =>
    rcases List.mem_cons.mp member with rfl | later
    · exact ⟨_, List.mem_cons_self, here⟩
    · obtain ⟨element, held, reads⟩ := ih later
      exact ⟨element, List.mem_cons_of_mem _ held, reads⟩

end CanX
