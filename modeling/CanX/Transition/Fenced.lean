import CanX.Transition.Program

/-! Programs that end with the first effect that goes wrong beyond their handlers. `Fenced` says of each effect that
it is admitted and leaves a good state, or that it is not and the program raises at once. -/

namespace CanX.Transition.Program

universe u v

variable {Effect : Type} {Answer : Effect → Type} {Error : Type}
variable {Value Other : Type} {State : Type u} {Choice : Type v}

section Runs

variable (handle : (request : Effect) → Choice → State → State × Except Error (Answer request))
variable (default : Choice)

/-- Every effect of a run meets a condition. -/
def Meets (condition : Effect → Choice → State → Prop) :
    Program Effect Answer Error Value → List Choice → State → Prop
  | finish _, _, _ => True
  | perform request next, choices, state =>
    condition request (choices.headD default) state ∧
      Meets condition (next (handle request (choices.headD default) state).2) choices.tail
        (handle request (choices.headD default) state).1

instance Meets.decidable {condition : Effect → Choice → State → Prop}
    [∀ request choice state, Decidable (condition request choice state)] :
    (program : Program Effect Answer Error Value) → (choices : List Choice) → (state : State) →
      Decidable (Meets handle default condition program choices state)
  | finish _, _, _ => inferInstanceAs (Decidable True)
  | perform request next, choices, state =>
    have : Decidable (Meets handle default condition (next (handle request (choices.headD default) state).2) choices.tail
      (handle request (choices.headD default) state).1) := Meets.decidable _ _ _
    inferInstanceAs (Decidable (condition request (choices.headD default) state ∧ _))

/-- The state after a number of effects, or at the end. -/
def cut : Nat → Program Effect Answer Error Value → List Choice → State → State
  | 0, _, _, state => state
  | _ + 1, finish _, _, state => state
  | count + 1, perform request next, choices, state =>
    cut count (next (handle request (choices.headD default) state).2) choices.tail
      (handle request (choices.headD default) state).1

/-- The effects of a run, up to a number of them, meet a condition. -/
def MeetsUpTo (condition : Effect → Choice → State → Prop) :
    Nat → Program Effect Answer Error Value → List Choice → State → Prop
  | 0, _, _, _ => True
  | _ + 1, finish _, _, _ => True
  | count + 1, perform request next, choices, state =>
    condition request (choices.headD default) state ∧
      MeetsUpTo condition count (next (handle request (choices.headD default) state).2) choices.tail
        (handle request (choices.headD default) state).1

theorem Meets.of_default {handle : (request : Effect) → Choice → State → State × Except Error (Answer request)}
    {default : Choice} {condition : Effect → Choice → State → Prop} {program : Program Effect Answer Error Value}
    {state : State} (always : ∀ request state, condition request default state) :
    Meets handle default condition program [] state := by
  induction program generalizing state with
  | finish result => trivial
  | perform request next ih => exact ⟨always request state, ih _⟩

theorem MeetsUpTo.of_default {handle : (request : Effect) → Choice → State → State × Except Error (Answer request)}
    {default : Choice} {condition : Effect → Choice → State → Prop} {program : Program Effect Answer Error Value}
    {state : State} {count : Nat} (always : ∀ request state, condition request default state) :
    MeetsUpTo handle default condition count program [] state := by
  induction count generalizing program state with
  | zero => trivial
  | succ count ih =>
    cases program with
    | finish result => trivial
    | perform request next => exact ⟨always request state, ih⟩

/-- What every effect keeps, a run keeps. -/
theorem run_keeps {handle : (request : Effect) → Choice → State → State × Except Error (Answer request)}
    {default : Choice} (kept : State → Prop) {program : Program Effect Answer Error Value} {choices : List Choice}
    {state : State} (step : ∀ request choice state, kept state → kept (handle request choice state).1)
    (holds : kept state) : kept (program.run handle default choices state).2.1 := by
  induction program generalizing state choices with
  | finish result => exact holds
  | perform request next ih => exact ih _ (step request _ state holds)

theorem cut_keeps {handle : (request : Effect) → Choice → State → State × Except Error (Answer request)}
    {default : Choice} (kept : State → Prop) {program : Program Effect Answer Error Value} {choices : List Choice}
    {state : State} {count : Nat} (step : ∀ request choice state, kept state → kept (handle request choice state).1)
    (holds : kept state) : kept (program.cut handle default count choices state) := by
  induction count generalizing program state choices with
  | zero => exact holds
  | succ count ih =>
    cases program with
    | finish result => exact holds
    | perform request next => exact ih (step request _ state holds)

end Runs

section Renaming

variable {handle : (request : Effect) → Choice → State → State × Except Error (Answer request)}
variable {default : Choice} {condition : Effect → Choice → State → Prop} {rename : State → State}
variable {program : Program Effect Answer Error Value} {state : State} {choices : List Choice}

/-- A change of the state that no answer depends on carries over to the end of the run. -/
theorem run_renamed (blind : ∀ request choice state, handle request choice (rename state) =
      (rename (handle request choice state).1, (handle request choice state).2)) :
    (program.run handle default choices (rename state)).1 = (program.run handle default choices state).1 ∧
      (program.run handle default choices (rename state)).2.1 =
        rename (program.run handle default choices state).2.1 := by
  induction program generalizing state choices with
  | finish result => exact ⟨rfl, rfl⟩
  | perform request next ih =>
    simp only [Program.run, blind]
    exact ih _

theorem cut_renamed (blind : ∀ request choice state, handle request choice (rename state) =
      (rename (handle request choice state).1, (handle request choice state).2)) {count : Nat} :
    program.cut handle default count choices (rename state) =
      rename (program.cut handle default count choices state) := by
  induction count generalizing program state choices with
  | zero => rfl
  | succ count ih =>
    cases program with
    | finish result => rfl
    | perform request next =>
      simp only [Program.cut, blind]
      exact ih

theorem Meets.renamed (blind : ∀ request choice state, handle request choice (rename state) =
      (rename (handle request choice state).1, (handle request choice state).2))
    (kept : ∀ request choice state, condition request choice state → condition request choice (rename state))
    (met : Meets handle default condition program choices state) :
    Meets handle default condition program choices (rename state) := by
  induction program generalizing state choices with
  | finish result => trivial
  | perform request next ih =>
    refine ⟨kept _ _ _ met.1, ?_⟩
    rw [blind]
    exact ih _ met.2

theorem MeetsUpTo.renamed (blind : ∀ request choice state, handle request choice (rename state) =
      (rename (handle request choice state).1, (handle request choice state).2))
    (kept : ∀ request choice state, condition request choice state → condition request choice (rename state))
    {count : Nat} (met : MeetsUpTo handle default condition count program choices state) :
    MeetsUpTo handle default condition count program choices (rename state) := by
  induction count generalizing program state choices with
  | zero => trivial
  | succ count ih =>
    cases program with
    | finish result => trivial
    | perform request next =>
      refine ⟨kept _ _ _ met.1, ?_⟩
      rw [blind]
      exact ih met.2

end Renaming

section Judgement

variable (handle : (request : Effect) → Choice → State → State × Except Error (Answer request))
variable (usual admitted : Effect → Choice → State → Prop) (good : State → Prop)

/-- Whatever usual choices its effects meet: each is admitted and leaves a good state, up to a result in `post`, or
the program ends with it in `broken`. -/
def Fenced (post : Except Error Value → State → Prop) (broken : Error → State → Prop) :
    Program Effect Answer Error Value → State → Prop
  | finish result, state => post result state
  | perform request next, state => ∀ choice, usual request choice state →
    admitted request choice state ∧ good (handle request choice state).1 ∧
        Fenced post broken (next (handle request choice state).2) (handle request choice state).1 ∨
      ¬ admitted request choice state ∧ ∃ error, next (handle request choice state).2 = finish (.error error) ∧
        broken error (handle request choice state).1

variable {handle usual admitted good}
variable {post mid : Except Error Value → State → Prop} {broken brokenMid : Error → State → Prop}
variable {program : Program Effect Answer Error Value} {state : State}

theorem Fenced.mono {post' : Except Error Value → State → Prop} {broken' : Error → State → Prop}
    (fenced : Fenced handle usual admitted good post broken program state)
    (implied : ∀ result state, post result state → post' result state)
    (spoils : ∀ error state, broken error state → broken' error state) :
    Fenced handle usual admitted good post' broken' program state := by
  induction program generalizing state with
  | finish result => exact implied result state fenced
  | perform request next ih =>
    intro choice met
    rcases fenced choice met with ⟨admits, kept, rest⟩ | ⟨refused, error, ends, spoiled⟩
    · exact .inl ⟨admits, kept, ih _ rest⟩
    · exact .inr ⟨refused, error, ends, spoils error _ spoiled⟩

/-- The rule of sequencing: what continues an effect that was not admitted must end at once too. -/
theorem Fenced.andThen {continuation : Except Error Value → Program Effect Answer Error Other}
    {post' : Except Error Other → State → Prop}
    (fenced : Fenced handle usual admitted good mid brokenMid program state)
    (second : ∀ result state, mid result state →
      Fenced handle usual admitted good post' broken (continuation result) state)
    (spoils : ∀ error state, brokenMid error state →
      ∃ other, continuation (.error error) = finish (.error other) ∧ broken other state) :
    Fenced handle usual admitted good post' broken (program.andThen continuation) state := by
  induction program generalizing state with
  | finish result => exact second result state fenced
  | perform request next ih =>
    intro choice met
    rcases fenced choice met with ⟨admits, kept, rest⟩ | ⟨refused, error, ends, spoiled⟩
    · exact .inl ⟨admits, kept, ih _ rest⟩
    · obtain ⟨other, ended, spoiled⟩ := spoils error _ spoiled
      have continues : (next (handle request choice state).2).andThen continuation = finish (.error other) := by
        rw [ends]
        exact ended
      exact .inr ⟨refused, other, continues, spoiled⟩

end Judgement

section Triples

variable (handle : (request : Effect) → Choice → State → State × Except Error (Answer request))
variable (usual admitted : Effect → Choice → State → Prop) (good : State → Prop)

/-- From every state in `pre` the program is fenced. -/
def FencedTriple (pre : State → Prop) (program : Program Effect Answer Error Value)
    (post : Except Error Value → State → Prop) (broken : Error → State → Prop) : Prop :=
  ∀ state, pre state → Fenced handle usual admitted good post broken program state

variable {handle usual admitted good}
variable {pre : State → Prop} {post mid : Except Error Value → State → Prop} {broken brokenMid : Error → State → Prop}
variable {program : Program Effect Answer Error Value}

theorem FencedTriple.finish {result : Except Error Value} (implied : ∀ state, pre state → post result state) :
    FencedTriple handle usual admitted good pre (.finish result) post broken :=
  implied

theorem FencedTriple.effect {request : Effect} {post : Except Error (Answer request) → State → Prop}
    (performed : ∀ state choice, pre state → usual request choice state →
      admitted request choice state ∧ good (handle request choice state).1 ∧
          post (handle request choice state).2 (handle request choice state).1 ∨
        ¬ admitted request choice state ∧ ∃ error, (handle request choice state).2 = .error error ∧
          broken error (handle request choice state).1) :
    FencedTriple handle usual admitted good pre (effect request) post broken := by
  intro state holds choice met
  rcases performed state choice holds met with kept | ⟨refused, error, raised, spoiled⟩
  · exact .inl kept
  · exact .inr ⟨refused, error, by rw [raised], spoiled⟩

theorem FencedTriple.bind {continuation : Value → Program Effect Answer Error Other}
    {post : Except Error Other → State → Prop}
    (first : FencedTriple handle usual admitted good pre program mid broken)
    (second : ∀ value, FencedTriple handle usual admitted good (mid (.ok value)) (continuation value) post broken)
    (raised : ∀ error state, mid (.error error) state → post (.error error) state) :
    FencedTriple handle usual admitted good pre (program >>= continuation) post broken := by
  intro state holds
  refine Fenced.andThen (first state holds) (fun result => ?_) fun error _ spoiled => ⟨error, rfl, spoiled⟩
  cases result with
  | ok value => exact second value
  | error error => exact raised error

/-- A handler lets through what an effect that was not admitted has raised. -/
theorem FencedTriple.catching {handler : Error → Program Effect Answer Error Value}
    (first : FencedTriple handle usual admitted good pre program mid brokenMid)
    (returned : ∀ value state, mid (.ok value) state → post (.ok value) state)
    (second : ∀ error, FencedTriple handle usual admitted good (mid (.error error)) (handler error) post broken)
    (passes : ∀ error state, brokenMid error state → ∃ other,
      handler error = .finish (.error other) ∧ broken other state) :
    FencedTriple handle usual admitted good pre (program.catching handler) post broken := by
  intro state holds
  refine Fenced.andThen (first state holds) (fun result => ?_) passes
  cases result with
  | ok value => exact returned value
  | error error => exact second error

theorem FencedTriple.consequence {pre' : State → Prop} {post' : Except Error Value → State → Prop}
    {broken' : Error → State → Prop} (triple : FencedTriple handle usual admitted good pre program post broken)
    (stronger : ∀ state, pre' state → pre state)
    (weaker : ∀ result state, post result state → post' result state)
    (spoils : ∀ error state, broken error state → broken' error state) :
    FencedTriple handle usual admitted good pre' program post' broken' :=
  fun state holds => (triple state (stronger state holds)).mono weaker spoils

end Triples

section Outcome

variable {handle : (request : Effect) → Choice → State → State × Except Error (Answer request)}
variable {usual admitted : Effect → Choice → State → Prop} {good : State → Prop}
variable {post : Except Error Value → State → Prop} {broken : Error → State → Prop}
variable {program : Program Effect Answer Error Value} {state : State} {default : Choice} {choices : List Choice}

/-- How a run of a fenced program ends. -/
theorem Fenced.outcome (fenced : Fenced handle usual admitted good post broken program state)
    (met : Meets handle default usual program choices state) :
    Meets handle default admitted program choices state ∧
        post (program.run handle default choices state).1 (program.run handle default choices state).2.1 ∨
      ¬ Meets handle default admitted program choices state ∧
        ∃ error, (program.run handle default choices state).1 = .error error ∧
          broken error (program.run handle default choices state).2.1 := by
  induction program generalizing state choices with
  | finish result => exact .inl ⟨trivial, fenced⟩
  | perform request next ih =>
    obtain ⟨here, later⟩ := met
    rcases fenced _ here with ⟨admits, -, rest⟩ | ⟨refused, error, ends, spoiled⟩
    · rcases ih _ rest later with ⟨all, reached⟩ | ⟨some, raised⟩
      · exact .inl ⟨⟨admits, all⟩, reached⟩
      · exact .inr ⟨fun all => some all.2, raised⟩
    · refine .inr ⟨fun all => refused all.1, error, ?_, ?_⟩
      · simp only [Program.run, ends]
      · simpa only [Program.run, ends] using spoiled

/-- Cut off anywhere, a run leaves a good state, as long as the broken ones are good. -/
theorem Fenced.cut (fenced : Fenced handle usual admitted good post broken program state) (initial : good state)
    (spoiled : ∀ error state, broken error state → good state) {count : Nat}
    (met : MeetsUpTo handle default usual count program choices state) :
    good (Program.cut handle default count program choices state) := by
  induction count generalizing program state choices with
  | zero => exact initial
  | succ count ih =>
    cases program with
    | finish result => exact initial
    | perform request next =>
      obtain ⟨here, later⟩ := met
      rw [Program.cut]
      rcases fenced _ here with ⟨-, kept, continues⟩ | ⟨-, error, ends, last⟩
      · exact ih continues kept later
      · rw [ends]
        cases count with
        | zero => exact spoiled error _ last
        | succ count => exact spoiled error _ last

end Outcome

end CanX.Transition.Program
