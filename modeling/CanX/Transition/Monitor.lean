import CanX.Transition.Program

/-! Runs of a program watched by a monitor: a flag that every effect outside a given
condition raises. A triple about the watched program says at once how a run ends in which
every effect met the condition, and how one ends in which some effect did not. -/

namespace CanX.Transition.Program

universe u v

variable {Effect : Type} {Answer : Effect → Type} {Error Value : Type}
variable {State : Type u} {Choice : Type v}

section Along

variable (handle : (request : Effect) → Choice → State → State × Except Error (Answer request))

/-- Every effect of the run of a program meets a condition in the state it is performed in. -/
def Along (admits : State → (request : Effect) → Choice → Prop) (default : Choice) :
    Program Effect Answer Error Value → List Choice → State → Prop
  | finish _, _, _ => True
  | perform request next, choices, state =>
    admits state request (choices.headD default) ∧
      Along admits default (next (handle request (choices.headD default) state).2) choices.tail
        (handle request (choices.headD default) state).1

/-- `handle`, with a flag that an effect outside `admits` raises. -/
def monitored (admits : State → (request : Effect) → Choice → Prop) (request : Effect)
    (choice : Choice) (watched : State × Prop) : (State × Prop) × Except Error (Answer request) :=
  (((handle request choice watched.1).1, watched.2 ∨ ¬ admits watched.1 request choice),
    (handle request choice watched.1).2)

variable {handle}
variable {allowed admits : State → (request : Effect) → Choice → Prop} {default : Choice}
variable {rely : State → State → Prop} {promise : State → Effect → State → Prop}
variable {post : Except Error Value → State → Prop}
variable {program : Program Effect Answer Error Value} {choices : List Choice} {state : State}

/-- A safe program that runs alone along allowed effects ends in its postcondition. -/
theorem Safe.run (reflexive : ∀ a, rely a a)
    (safe : Safe handle allowed rely promise post program state)
    (along : program.Along handle allowed default choices state) :
    post (program.run handle default choices state).1 (program.run handle default choices state).2.1 := by
  induction program generalizing choices state with
  | finish result => exact safe state (reflexive state)
  | perform request next ih =>
    obtain ⟨admitted, rest⟩ := along
    exact ih _ (safe state (reflexive state) _ admitted).2 rest

/-- The monitor changes nothing, and its flag tells whether some effect was outside. -/
theorem run_monitored (raised : Prop) :
    program.run (monitored handle admits) default choices (state, raised) =
      ((program.run handle default choices state).1,
        ((program.run handle default choices state).2.1,
          raised ∨ ¬ program.Along handle admits default choices state),
        (program.run handle default choices state).2.2) := by
  induction program generalizing choices state raised with
  | finish result => simp [Program.run, Along]
  | perform request next ih =>
    simp only [Program.run, monitored, Along]
    rw [ih]
    simp only [Prod.mk.injEq, and_true, true_and, eq_iff_iff]
    rw [not_and_or, or_assoc]

theorem along_monitored (raised : Prop) :
    program.Along (monitored handle admits) (fun watched => allowed watched.1) default choices
        (state, raised) ↔
      program.Along handle allowed default choices state := by
  induction program generalizing choices state raised with
  | finish result => rfl
  | perform request next ih =>
    simp only [Along, monitored]
    rw [ih]

variable (handle) in
/-- The executable form of `Along`. -/
def alongWithin (test : State → (request : Effect) → Choice → Bool) (default : Choice) :
    Program Effect Answer Error Value → List Choice → State → Bool
  | finish _, _, _ => true
  | perform request next, choices, state =>
    test state request (choices.headD default) &&
      alongWithin test default (next (handle request (choices.headD default) state).2) choices.tail
        (handle request (choices.headD default) state).1

theorem Along.of_within {test : State → (request : Effect) → Choice → Bool}
    (sound : ∀ state request choice, test state request choice = true → admits state request choice)
    (passed : program.alongWithin handle test default choices state = true) :
    program.Along handle admits default choices state := by
  induction program generalizing choices state with
  | finish result => trivial
  | perform request next ih =>
    obtain ⟨here, rest⟩ := Bool.and_eq_true_iff.mp passed
    exact ⟨sound _ _ _ here, ih _ rest⟩

theorem run_andThen {Other : Type}
    {continuation : Except Error Value → Program Effect Answer Error Other} :
    (program.andThen continuation).run handle default choices state =
      (continuation (program.run handle default choices state).1).run handle default
        (program.run handle default choices state).2.2
        (program.run handle default choices state).2.1 := by
  induction program generalizing choices state with
  | finish result => rfl
  | perform request next ih => exact ih _

variable (handle default) in
/-- Run alone under the default choice, the program answers `value`. -/
def Answers (program : Program Effect Answer Error Value) (state : State) (value : Value)
    (after : State) : Prop :=
  program.run handle default [] state = (.ok value, after, [])

theorem Answers.bind {Other : Type} {value : Value} {middle after : State} {answer : Other}
    {next : Value → Program Effect Answer Error Other}
    (first : program.Answers handle default state value middle)
    (second : (next value).Answers handle default middle answer after) :
    (program >>= next).Answers handle default state answer after := by
  refine Eq.trans run_andThen ?_
  rw [show program.run handle default [] state = (.ok value, middle, []) from first]
  exact second

theorem Answers.caught {handler : Error → Program Effect Answer Error Value} {value : Value}
    {after : State} (answered : program.Answers handle default state value after) :
    (program.catching handler).Answers handle default state value after := by
  refine Eq.trans run_andThen ?_
  rw [show program.run handle default [] state = (.ok value, after, []) from answered]
  rfl

/-- What a triple about the watched program says of a run: `raised` stands for a run in
which some effect was outside `admits`. -/
theorem Triple.observed {pre : State × Prop → Prop} {post : Except Error Value → State × Prop → Prop}
    {rely : State × Prop → State × Prop → Prop} {promise : State × Prop → Effect → State × Prop → Prop}
    (reflexive : ∀ watched, rely watched watched)
    (triple : Triple (monitored handle admits) (fun watched => allowed watched.1) rely promise
      pre program post)
    (initial : pre (state, False)) (along : program.Along handle allowed default choices state) :
    post (program.run handle default choices state).1
      ((program.run handle default choices state).2.1,
        ¬ program.Along handle admits default choices state) := by
  have reached := (triple _ initial).run reflexive ((along_monitored False).mpr along)
  rw [run_monitored] at reached
  simpa using reached

end Along

end CanX.Transition.Program
