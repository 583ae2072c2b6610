import CanX.Transition.Path

/-! Sequential programs over atomic effects, run next to other parties that may
change the shared state between any two of their effects.

`Program.Safe` is the rule of pre- and postconditions: a program is safe in a
state when, whatever the others do in between (`rely`), each effect it performs
stays inside what it promises (`promise`) and its answer satisfies `post`. -/

namespace CanX.Transition

universe u v

/-- A program performs effects one at a time; each answers with a value or an error. -/
inductive Program (Effect : Type) (Answer : Effect → Type) (Error : Type) (Value : Type) where
  | finish (result : Except Error Value)
  | perform (effect : Effect)
      (next : Except Error (Answer effect) → Program Effect Answer Error Value)

namespace Program

variable {Effect : Type} {Answer : Effect → Type} {Error : Type}
variable {Value Other : Type}

/-- Continue with the outcome of `program`, an error included. -/
def andThen (program : Program Effect Answer Error Value)
    (continuation : Except Error Value → Program Effect Answer Error Other) :
    Program Effect Answer Error Other :=
  match program with
  | finish result => continuation result
  | perform effect next => perform effect fun answer => (next answer).andThen continuation

/-- Perform one effect and hand back its answer. -/
def effect (request : Effect) : Program Effect Answer Error (Answer request) :=
  perform request finish

def bind (program : Program Effect Answer Error Value)
    (continuation : Value → Program Effect Answer Error Other) :
    Program Effect Answer Error Other :=
  program.andThen fun
    | .ok value => continuation value
    | .error error => finish (.error error)

/-- Run `handler` on an error; a value passes through. -/
def catching (program : Program Effect Answer Error Value)
    (handler : Error → Program Effect Answer Error Value) :
    Program Effect Answer Error Value :=
  program.andThen fun
    | .ok value => finish (.ok value)
    | .error error => handler error

instance : Monad (Program Effect Answer Error) where
  pure value := finish (.ok value)
  bind := bind

instance : MonadExceptOf Error (Program Effect Answer Error) where
  throw error := finish (.error error)
  tryCatch := catching

/-- A computation that needs no effect. -/
def lift (result : Except Error Value) : Program Effect Answer Error Value := finish result

section Footprint

variable (admits : Effect → Prop)
variable (answers : (request : Effect) → Except Error (Answer request) → Prop)

/-- Every effect the program can perform is admitted, as long as each answer it gets
is one of `answers`. -/
def Conforms : Program Effect Answer Error Value → Prop
  | finish _ => True
  | perform request next =>
    admits request ∧ ∀ answer, answers request answer → Conforms (next answer)

variable {admits answers}

theorem Conforms.andThen {program : Program Effect Answer Error Value}
    {continuation : Except Error Value → Program Effect Answer Error Other}
    (first : Conforms admits answers program)
    (second : ∀ result, Conforms admits answers (continuation result)) :
    Conforms admits answers (program.andThen continuation) := by
  induction program with
  | finish result => exact second result
  | perform request next ih =>
    exact ⟨first.1, fun answer possible => ih answer (first.2 answer possible)⟩

theorem Conforms.effect {request : Effect} (admitted : admits request) :
    Conforms admits answers (effect request) :=
  ⟨admitted, fun _ _ => trivial⟩

theorem Conforms.bind {program : Program Effect Answer Error Value}
    {continuation : Value → Program Effect Answer Error Other}
    (first : Conforms admits answers program)
    (second : ∀ value, Conforms admits answers (continuation value)) :
    Conforms admits answers (program >>= continuation) :=
  Conforms.andThen first fun
    | .ok value => second value
    | .error _ => trivial

/-- The continuation of an effect may use what its answers satisfy. -/
theorem Conforms.effect_bind {request : Effect}
    {continuation : Answer request → Program Effect Answer Error Other}
    (admitted : admits request)
    (second : ∀ value, answers request (.ok value) → Conforms admits answers (continuation value)) :
    Conforms admits answers (Program.effect request >>= continuation) :=
  ⟨admitted, fun
    | .ok value, possible => second value possible
    | .error _, _ => trivial⟩

theorem Conforms.catching {program : Program Effect Answer Error Value}
    {handler : Error → Program Effect Answer Error Value}
    (first : Conforms admits answers program)
    (second : ∀ error, Conforms admits answers (handler error)) :
    Conforms admits answers (program.catching handler) :=
  Conforms.andThen first fun
    | .ok _ => trivial
    | .error error => second error

end Footprint

section Length

/-- No run of the program performs more than a given number of effects. -/
def AtMost : Nat → Program Effect Answer Error Value → Prop
  | _, finish _ => True
  | 0, perform _ _ => False
  | bound + 1, perform _ next => ∀ answer, AtMost bound (next answer)

variable {program : Program Effect Answer Error Value} {bound more : Nat}

theorem AtMost.finished (result : Except Error Value) :
    AtMost bound (finish result : Program Effect Answer Error Value) := by
  cases bound <;> trivial

theorem AtMost.mono (brief : AtMost bound program) (wider : bound ≤ more) : AtMost more program := by
  induction program generalizing bound more with
  | finish result => exact .finished result
  | perform request next ih =>
    cases bound with
    | zero => exact brief.elim
    | succ bound =>
      cases more with
      | zero => exact absurd wider (Nat.not_succ_le_zero bound)
      | succ more => exact fun answer => ih answer (brief answer) (Nat.le_of_succ_le_succ wider)

theorem AtMost.effect {request : Effect} :
    AtMost 1 (effect request : Program Effect Answer Error (Answer request)) :=
  fun answer => .finished answer

theorem AtMost.andThen {continuation : Except Error Value → Program Effect Answer Error Other}
    (first : AtMost bound program) (second : ∀ result, AtMost more (continuation result)) :
    AtMost (bound + more) (program.andThen continuation) := by
  induction program generalizing bound with
  | finish result => exact (second result).mono (Nat.le_add_left more bound)
  | perform request next ih =>
    cases bound with
    | zero => exact first.elim
    | succ bound =>
      rw [Nat.succ_add]
      exact fun answer => ih answer (first answer)

theorem AtMost.bind {continuation : Value → Program Effect Answer Error Other}
    (first : AtMost bound program) (second : ∀ value, AtMost more (continuation value)) :
    AtMost (bound + more) (program >>= continuation) :=
  AtMost.andThen first fun
    | .ok value => second value
    | .error error => .finished (.error error)

theorem AtMost.catching {handler : Error → Program Effect Answer Error Value}
    (first : AtMost bound program) (second : ∀ error, AtMost more (handler error)) :
    AtMost (bound + more) (program.catching handler) :=
  AtMost.andThen first fun
    | .ok value => .finished (.ok value)
    | .error error => second error

end Length

section Execution

variable {State : Type u} {Choice : Type v}
variable (handle : (request : Effect) → Choice → State → State × Except Error (Answer request))

/-- Run a program alone; the environment's choices are taken from `choices` in
order, and `default` answers once they are used up. -/
def run (default : Choice) (program : Program Effect Answer Error Value)
    (choices : List Choice) (state : State) : Except Error Value × State × List Choice :=
  match program with
  | finish result => (result, state, choices)
  | perform request next =>
    let (after, answer) := handle request (choices.headD default) state
    (next answer).run default choices.tail after

/-- One effect of a program, with the effect performed as the output. -/
def step (default : Program Effect Answer Error Value × State) (choice : Choice) :
    Option ((Program Effect Answer Error Value × State) × Effect) :=
  match default with
  | (finish _, _) => none
  | (perform request next, state) =>
    let (after, answer) := handle request choice state
    some ((next answer, after), request)

variable (allowed : State → (request : Effect) → Choice → Prop)
variable (rely : State → State → Prop) (promise : State → Effect → State → Prop)

/-- Every interleaved execution whose steps are `allowed` keeps `promise` at each
effect of the program and ends in `post`. -/
def Safe (post : Except Error Value → State → Prop) :
    Program Effect Answer Error Value → State → Prop
  | finish result, state => ∀ current, rely state current → post result current
  | perform request next, state => ∀ current, rely state current →
      ∀ choice, allowed current request choice →
        promise current request (handle request choice current).1 ∧
        Safe post (next (handle request choice current).2) (handle request choice current).1

variable {handle allowed rely promise}
variable {post : Except Error Value → State → Prop}

/-- What the others do before the next effect keeps a program safe. -/
theorem Safe.interfere {program : Program Effect Answer Error Value} {state current : State}
    (transitive : ∀ a b c, rely a b → rely b c → rely a c)
    (safe : Safe handle allowed rely promise post program state)
    (moved : rely state current) : Safe handle allowed rely promise post program current := by
  cases program with
  | finish result => exact fun later next => safe later (transitive _ _ _ moved next)
  | perform request next =>
    exact fun later further => safe later (transitive _ _ _ moved further)

/-- Weaken the postcondition and what the program promises, strengthen what it
allows and what it relies on. -/
theorem Safe.mono {allowed' : State → (request : Effect) → Choice → Prop}
    {rely' : State → State → Prop} {promise' : State → Effect → State → Prop}
    {post' : Except Error Value → State → Prop}
    {program : Program Effect Answer Error Value} {state : State}
    (safe : Safe handle allowed rely promise post program state)
    (narrower : ∀ state request choice, allowed' state request choice →
      allowed state request choice)
    (calmer : ∀ a b, rely' a b → rely a b)
    (wider : ∀ a request b, promise a request b → promise' a request b)
    (implied : ∀ result state, post result state → post' result state) :
    Safe handle allowed' rely' promise' post' program state := by
  induction program generalizing state with
  | finish result => exact fun current moved => implied _ _ (safe current (calmer _ _ moved))
  | perform request next ih =>
    intro current moved choice admitted
    obtain ⟨kept, rest⟩ := safe current (calmer _ _ moved) choice (narrower _ _ _ admitted)
    exact ⟨wider _ _ _ kept, ih _ rest⟩

theorem Safe.post_mono {post' : Except Error Value → State → Prop}
    {program : Program Effect Answer Error Value} {state : State}
    (safe : Safe handle allowed rely promise post program state)
    (implied : ∀ result state, post result state → post' result state) :
    Safe handle allowed rely promise post' program state :=
  safe.mono (fun _ _ _ h => h) (fun _ _ h => h) (fun _ _ _ h => h) implied

/-- The rule of sequencing: it covers `bind`, `catching` and every mix of them. -/
theorem Safe.andThen {program : Program Effect Answer Error Value}
    {continuation : Except Error Value → Program Effect Answer Error Other}
    {post' : Except Error Other → State → Prop} {state : State}
    (reflexive : ∀ a, rely a a)
    (safe : Safe handle allowed rely promise
      (fun result state => Safe handle allowed rely promise post' (continuation result) state)
      program state) :
    Safe handle allowed rely promise post' (program.andThen continuation) state := by
  induction program generalizing state with
  | finish result =>
    exact safe state (reflexive state)
  | perform request next ih =>
    intro current moved choice admitted
    obtain ⟨kept, rest⟩ := safe current moved choice admitted
    exact ⟨kept, ih _ rest⟩

/-- One allowed effect of a safe program keeps its promise and leaves it safe. -/
theorem Safe.stepped {program rest : Program Effect Answer Error Value} {state after : State}
    {choice : Choice} {request : Effect}
    (reflexive : ∀ a, rely a a)
    (safe : Safe handle allowed rely promise post program state)
    (moved : Program.step handle (program, state) choice = some ((rest, after), request))
    (admitted : allowed state request choice) :
    promise state request after ∧ Safe handle allowed rely promise post rest after := by
  cases program with
  | finish result => simp [Program.step] at moved
  | perform asked next =>
    simp only [Program.step, Option.some.injEq, Prod.mk.injEq] at moved
    obtain ⟨⟨rfl, rfl⟩, rfl⟩ := moved
    exact safe state (reflexive state) choice admitted

/-- A safe program that has finished satisfies its postcondition. -/
theorem Safe.finished {result : Except Error Value} {state : State}
    (reflexive : ∀ a, rely a a)
    (safe : Safe handle allowed rely promise post (.finish result) state) :
    post result state :=
  safe state (reflexive state)

/-- The others cannot make `assertion` false. -/
def Stable (rely : State → State → Prop) (assertion : State → Prop) : Prop :=
  ∀ before after, rely before after → assertion before → assertion after

variable (handle allowed rely promise) in
/-- From every state in `pre` the program is safe and ends in `post`. -/
def Triple (pre : State → Prop) (program : Program Effect Answer Error Value)
    (post : Except Error Value → State → Prop) : Prop :=
  ∀ state, pre state → Safe handle allowed rely promise post program state

variable {pre : State → Prop}

theorem Triple.finish {result : Except Error Value} (stable : Stable rely (post result))
    (implied : ∀ state, pre state → post result state) :
    Triple handle allowed rely promise pre (.finish result) post :=
  fun state holds current moved => stable state current moved (implied state holds)

/-- One effect: what it promises and what its answer leaves true. -/
theorem Triple.effect {request : Effect} {post : Except Error (Answer request) → State → Prop}
    (stable : Stable rely pre) (stableAfter : ∀ result, Stable rely (post result))
    (performed : ∀ state choice, pre state → allowed state request choice →
      promise state request (handle request choice state).1 ∧
      post (handle request choice state).2 (handle request choice state).1) :
    Triple handle allowed rely promise pre (effect request) post := by
  intro state holds current moved choice admitted
  obtain ⟨kept, reached⟩ :=
    performed current choice (stable state current moved holds) admitted
  exact ⟨kept, fun later next => stableAfter _ _ _ next reached⟩

theorem Triple.andThen {program : Program Effect Answer Error Value}
    {continuation : Except Error Value → Program Effect Answer Error Other}
    {post' : Except Error Other → State → Prop} (reflexive : ∀ a, rely a a)
    (first : Triple handle allowed rely promise pre program post)
    (second : ∀ result,
      Triple handle allowed rely promise (post result) (continuation result) post') :
    Triple handle allowed rely promise pre (program.andThen continuation) post' :=
  fun state holds => Safe.andThen reflexive
    ((first state holds).post_mono fun result after reached => second result after reached)

theorem Triple.bind {program : Program Effect Answer Error Value}
    {continuation : Value → Program Effect Answer Error Other}
    {post' : Except Error Other → State → Prop} (reflexive : ∀ a, rely a a)
    (first : Triple handle allowed rely promise pre program post)
    (second : ∀ value,
      Triple handle allowed rely promise (post (.ok value)) (continuation value) post')
    (raised : ∀ error, Stable rely (post' (.error error)) ∧
      ∀ state, post (.error error) state → post' (.error error) state) :
    Triple handle allowed rely promise pre (program >>= continuation) post' :=
  Triple.andThen reflexive first fun
    | .ok value => second value
    | .error error => Triple.finish (raised error).1 (raised error).2

theorem Triple.catching {program : Program Effect Answer Error Value}
    {handler : Error → Program Effect Answer Error Value}
    {post' : Except Error Value → State → Prop} (reflexive : ∀ a, rely a a)
    (first : Triple handle allowed rely promise pre program post)
    (returned : ∀ value, Stable rely (post' (.ok value)) ∧
      ∀ state, post (.ok value) state → post' (.ok value) state)
    (second : ∀ error,
      Triple handle allowed rely promise (post (.error error)) (handler error) post') :
    Triple handle allowed rely promise pre (program.catching handler) post' :=
  Triple.andThen reflexive first fun
    | .ok value => Triple.finish (returned value).1 (returned value).2
    | .error error => second error

theorem Triple.consequence {pre' : State → Prop} {post' : Except Error Value → State → Prop}
    {program : Program Effect Answer Error Value}
    (triple : Triple handle allowed rely promise pre program post)
    (stronger : ∀ state, pre' state → pre state)
    (weaker : ∀ result state, post result state → post' result state) :
    Triple handle allowed rely promise pre' program post' :=
  fun state holds => (triple state (stronger state holds)).post_mono weaker

/-- A program whose effects are all admitted keeps an invariant that admitted effects
keep and the others cannot break. -/
theorem Triple.of_conforms {admits : Effect → Prop}
    {answers : (request : Effect) → Except Error (Answer request) → Prop}
    {program : Program Effect Answer Error Value} (stable : Stable rely pre)
    (performed : ∀ state request choice, pre state → admits request →
      allowed state request choice → promise state request (handle request choice state).1 ∧
      pre (handle request choice state).1 ∧ answers request (handle request choice state).2)
    (conforms : Conforms admits answers program) :
    Triple handle allowed rely promise pre program (fun _ => pre) := by
  induction program with
  | finish result => exact fun state holds current moved => stable state current moved holds
  | perform request next ih =>
    intro state holds current moved choice admitted
    obtain ⟨kept, after, answered⟩ :=
      performed current request choice (stable state current moved holds) conforms.1 admitted
    exact ⟨kept, ih _ (conforms.2 _ answered) _ after⟩

end Execution

end Program

end CanX.Transition
