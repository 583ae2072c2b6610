import Mathlib.Logic.Basic

/-! Finite executions of a partial labelled transition function, and the
induction rules that carry one-step facts to whole executions. -/

namespace CanX.Transition

universe u v w
variable {State : Type u} {Label : Type v} {Output : Type w}
variable {step : State → Label → Option (State × Output)}
variable {allowed permitted : State → Label → Prop}

/-- Executions from `source`, with the labels taken and what each one answered.
Every label met `allowed` in the state it was taken from. -/
inductive Path (step : State → Label → Option (State × Output))
    (allowed : State → Label → Prop) (source : State) :
    List (Label × Output) → State → Prop where
  | refl : Path step allowed source [] source
  | snoc {trace middle label target output}
      (prior : Path step allowed source trace middle) (admitted : allowed middle label)
      (moved : step middle label = some (target, output)) :
      Path step allowed source (trace ++ [(label, output)]) target

/-- No label is excluded. -/
def anyLabel (_ : State) (_ : Label) : Prop := True

theorem Path.single (admitted : allowed source label)
    (moved : step source label = some (target, output)) :
    Path step allowed source [(label, output)] target :=
  .snoc .refl admitted moved

theorem Path.trans (first : Path step allowed source front middle)
    (second : Path step allowed middle back target) :
    Path step allowed source (front ++ back) target := by
  induction second with
  | refl => simpa using first
  | snoc _ admitted moved ih =>
    rw [← List.append_assoc]
    exact .snoc ih admitted moved

theorem Path.weaken (path : Path step allowed source trace target)
    (implied : ∀ state label, allowed state label → permitted state label) :
    Path step permitted source trace target := by
  induction path with
  | refl => exact .refl
  | snoc _ admitted moved ih => exact .snoc ih (implied _ _ admitted) moved

theorem Path.anyLabel (path : Path step allowed source trace target) :
    Path step anyLabel source trace target :=
  path.weaken (fun _ _ _ => trivial)

/-- An execution splits wherever its trace does. -/
theorem Path.split {front back : List (Label × Output)}
    (path : Path step allowed source (front ++ back) target) :
    ∃ middle, Path step allowed source front middle ∧
      Path step allowed middle back target := by
  generalize whole : front ++ back = trace at path
  induction path generalizing back with
  | refl =>
    obtain ⟨rfl, rfl⟩ := List.append_eq_nil_iff.mp whole
    exact ⟨source, .refl, .refl⟩
  | @snoc trace middle label target output prior admitted moved ih =>
    rcases List.eq_nil_or_concat back with rfl | ⟨rest, last, rfl⟩
    · rw [List.append_nil] at whole
      subst whole
      exact ⟨target, .snoc prior admitted moved, .refl⟩
    · rw [List.concat_eq_append, ← List.append_assoc] at whole
      obtain ⟨same, final⟩ := List.append_inj' whole rfl
      obtain ⟨between, begun, finished⟩ := ih same
      rw [List.concat_eq_append, final]
      exact ⟨between, begun, .snoc finished admitted moved⟩

/-- The last step of a path. -/
theorem Path.last {front : List (Label × Output)} {label : Label} {output : Output}
    (path : Path step allowed source (front ++ [(label, output)]) target) :
    ∃ before, Path step allowed source front before ∧ allowed before label ∧
      step before label = some (target, output) := by
  generalize whole : front ++ [(label, output)] = trace at path
  cases path with
  | refl => simp at whole
  | snoc prior admitted moved =>
    obtain ⟨same, last⟩ := List.append_inj' whole rfl
    simp only [List.cons.injEq, Prod.mk.injEq, and_true] at last
    obtain ⟨rfl, rfl⟩ := last
    subst same
    exact ⟨_, prior, admitted, moved⟩

/-- The state before and after the one step an occurrence in the trace names. -/
theorem Path.at_label {front back : List (Label × Output)} {label : Label} {output : Output}
    (path : Path step allowed source (front ++ (label, output) :: back) target) :
    ∃ before after, Path step allowed source front before ∧ allowed before label ∧
      step before label = some (after, output) ∧ Path step allowed after back target := by
  have cut : Path step allowed source ((front ++ [(label, output)]) ++ back) target := by
    simpa using path
  obtain ⟨after, begun, rest⟩ := cut.split
  obtain ⟨before, prior, admitted, moved⟩ := begun.last
  exact ⟨before, after, prior, admitted, moved, rest⟩

theorem Path.nil_eq (path : Path step allowed source [] target) : source = target := by
  generalize empty : [] = trace at path
  cases path with
  | refl => rfl
  | snoc prior admitted moved => simp at empty

/-- The first step of a path. -/
theorem Path.first {back : List (Label × Output)} {label : Label} {output : Output}
    (path : Path step allowed source ((label, output) :: back) target) :
    ∃ after, allowed source label ∧ step source label = some (after, output) ∧
      Path step allowed after back target := by
  have cut : Path step allowed source ([] ++ (label, output) :: back) target := path
  obtain ⟨before, after, begun, admitted, moved, rest⟩ := cut.at_label
  obtain rfl := begun.nil_eq
  exact ⟨after, admitted, moved, rest⟩

/-- A property of the state that every allowed step keeps is kept by a path. -/
theorem Path.preserves (Invariant : State → Prop)
    (kept : ∀ state label next output, Invariant state → allowed state label →
      step state label = some (next, output) → Invariant next)
    (path : Path step allowed source trace target) (initial : Invariant source) :
    Invariant target := by
  induction path with
  | refl => exact initial
  | snoc _ admitted moved ih => exact kept _ _ _ _ ih admitted moved

/-- The same for a property that also reads the trace so far. -/
theorem Path.preserves_trace (Invariant : List (Label × Output) → State → Prop)
    (initial : Invariant [] source)
    (kept : ∀ trace state label next output, Path step allowed source trace state →
      Invariant trace state → allowed state label → step state label = some (next, output) →
      Invariant (trace ++ [(label, output)]) next)
    (path : Path step allowed source trace target) : Invariant trace target := by
  induction path with
  | refl => exact initial
  | snoc prior admitted moved ih => exact kept _ _ _ _ _ prior ih admitted moved

/-- A relation to the source that every allowed step extends holds at the end. -/
theorem Path.relates (related : State → State → Prop) (reflexive : related source source)
    (extended : ∀ state label next output, related source state → allowed state label →
      step state label = some (next, output) → related source next)
    (path : Path step allowed source trace target) : related source target :=
  path.preserves (related source) extended reflexive

/-- A trace determines where it leads. -/
theorem Path.unique (first : Path step allowed source trace target)
    (second : Path step permitted source trace other) : target = other := by
  induction first generalizing other with
  | refl => exact second.nil_eq
  | snoc _ _ moved ih =>
    obtain ⟨before, prior, _, again⟩ := second.last
    obtain rfl := ih prior
    exact (Prod.mk.inj (Option.some.inj (moved.symm.trans again))).1

/-- A property of every state that the parts of a trace lead to. -/
def Throughout (step : State → Label → Option (State × Output)) (Good : State → Prop) (source : State)
    (trace : List (Label × Output)) : Prop :=
  ∀ front back middle, trace = front ++ back → Path step anyLabel source front middle → Good middle

/-- Where each step keeps a property exactly if it is allowed, the property holds throughout an
execution exactly if every step of it is. -/
theorem Path.throughout_iff (Invariant Good : State → Prop) (held : Invariant source) (initial : Good source)
    (kept : ∀ state label next output, Invariant state → step state label = some (next, output) →
      Invariant next)
    (exact_ : ∀ state label next output, Invariant state → Good state →
      step state label = some (next, output) → (Good next ↔ allowed state label))
    (path : Path step CanX.Transition.anyLabel source trace target) :
    Throughout step Good source trace ↔ Path step allowed source trace target := by
  constructor
  · intro good
    induction path with
    | refl => exact .refl
    | @snoc trace middle label target output prior admitted moved ih =>
      have before : Throughout step Good source trace := by
        rintro front back reached rfl run
        exact good front (back ++ [(label, output)]) reached (by simp) run
      have invariant := prior.preserves Invariant (fun _ _ _ _ held _ moved => kept _ _ _ _ held moved) held
      have here := good trace [(label, output)] middle rfl prior
      have there := good (trace ++ [(label, output)]) [] target (by simp) (.snoc prior admitted moved)
      exact .snoc (ih before) ((exact_ _ _ _ _ invariant here moved).mp there) moved
  · rintro run front back middle rfl prior
    obtain ⟨reached, begun, _⟩ := run.split
    obtain rfl := prior.unique begun
    have both := begun.preserves (fun state => Invariant state ∧ Good state)
      (fun _ _ _ _ held admitted moved => ⟨kept _ _ _ _ held.1 moved,
        (exact_ _ _ _ _ held.1 held.2 moved).mpr admitted⟩) ⟨held, initial⟩
    exact both.2

/-- Where a step leads to a good state exactly if it starts in one and is allowed, an execution ends in one exactly if
every step of it is. -/
theorem Path.exactly_iff (Invariant Good : State → Prop) (held : Invariant source) (initial : Good source)
    (kept : ∀ state label next output, Invariant state → permitted state label →
      step state label = some (next, output) → Invariant next)
    (exact_ : ∀ state label next output, Invariant state → permitted state label →
      step state label = some (next, output) → (Good next ↔ Good state ∧ allowed state label))
    (path : Path step permitted source trace target) :
    Good target ↔ Path step allowed source trace target := by
  induction path with
  | refl => exact ⟨fun _ => .refl, fun _ => initial⟩
  | @snoc trace middle label target output prior admitted moved ih =>
    have invariant := prior.preserves Invariant kept held
    rw [exact_ _ _ _ _ invariant admitted moved, ih]
    constructor
    · rintro ⟨run, here⟩
      exact .snoc run here moved
    · intro run
      obtain ⟨before, begun, here, _⟩ := run.last
      obtain rfl := prior.unique begun
      exact ⟨begun, here⟩

/-- Take a list of labels, recording the answers. -/
def follow (step : State → Label → Option (State × Output)) (state : State) :
    List Label → Option (State × List (Label × Output))
  | [] => some (state, [])
  | label :: rest =>
    match step state label with
    | none => none
    | some (next, output) =>
      (follow step next rest).map fun (final, trace) => (final, (label, output) :: trace)

/-- Following labels that are always allowed is a path, so a concrete schedule can be
evaluated. -/
theorem Path.of_follow {labels : List Label} {state : State}
    (admitted : ∀ label ∈ labels, ∀ reached, allowed reached label)
    (followed : follow step state labels = some (final, trace)) :
    Path step allowed state trace final := by
  induction labels generalizing state trace with
  | nil =>
    simp only [follow, Option.some.injEq, Prod.mk.injEq] at followed
    obtain ⟨rfl, rfl⟩ := followed
    exact .refl
  | cons label rest ih =>
    simp only [follow] at followed
    cases moved : step state label with
    | none => simp [moved] at followed
    | some pair =>
      obtain ⟨next, output⟩ := pair
      simp only [moved, Option.map_eq_some_iff, Prod.mk.injEq] at followed
      obtain ⟨⟨reached, tail⟩, remaining, rfl, rfl⟩ := followed
      have later := ih (fun label member => admitted label (List.mem_cons_of_mem _ member)) remaining
      exact (Path.single (admitted label List.mem_cons_self state) moved).trans later

theorem follow_labels {labels : List Label} {state : State}
    (followed : follow step state labels = some (final, trace)) : trace.map Prod.fst = labels := by
  induction labels generalizing state trace with
  | nil =>
    simp only [follow, Option.some.injEq, Prod.mk.injEq] at followed
    rw [← followed.2, List.map_nil]
  | cons label rest ih =>
    simp only [follow] at followed
    split at followed
    · cases followed
    · obtain ⟨⟨reached, tail⟩, remaining, same⟩ := Option.map_eq_some_iff.mp followed
      obtain ⟨rfl, rfl⟩ := Prod.mk.inj same
      rw [List.map_cons, ih remaining]

/-- Take a list of labels as long as each passes a test in the state it is taken in. -/
def followWithin (step : State → Label → Option (State × Output)) (test : State → Label → Bool)
    (state : State) : List Label → Option (State × List (Label × Output))
  | [] => some (state, [])
  | label :: rest =>
    if test state label then
      match step state label with
      | none => none
      | some (next, output) =>
        (followWithin step test next rest).map fun (final, trace) => (final, (label, output) :: trace)
    else none

theorem Path.of_followWithin {test : State → Label → Bool} {labels : List Label} {state : State}
    (sound : ∀ state label, test state label = true → allowed state label)
    (followed : followWithin step test state labels = some (final, trace)) :
    Path step allowed state trace final := by
  induction labels generalizing state trace with
  | nil =>
    simp only [followWithin, Option.some.injEq, Prod.mk.injEq] at followed
    obtain ⟨rfl, rfl⟩ := followed
    exact .refl
  | cons label rest ih =>
    simp only [followWithin] at followed
    split at followed
    · rename_i passed
      cases moved : step state label with
      | none => simp [moved] at followed
      | some pair =>
        obtain ⟨next, output⟩ := pair
        simp only [moved, Option.map_eq_some_iff, Prod.mk.injEq] at followed
        obtain ⟨⟨reached, tail⟩, remaining, rfl, rfl⟩ := followed
        exact (Path.single (sound state label passed) moved).trans (ih remaining)
    · cases followed

/-- What a tested schedule leads to is reached by a path. -/
theorem Path.observedWithin {Value : Type} {test : State → Label → Bool} {state : State}
    (labels : List Label) (observe : State × List (Label × Output) → Value) (value : Value)
    (sound : ∀ state label, test state label = true → allowed state label)
    (evaluated : (followWithin step test state labels).map observe = some value) :
    ∃ trace final, Path step allowed state trace final ∧ observe (final, trace) = value := by
  obtain ⟨⟨final, trace⟩, followed, seen⟩ := Option.map_eq_some_iff.mp evaluated
  exact ⟨trace, final, .of_followWithin sound followed, seen⟩

/-- What a schedule leads to is reached by a path. -/
theorem Path.observed {Value : Type} {state : State} (labels : List Label)
    (observe : State → Value) (value : Value)
    (admitted : ∀ label ∈ labels, ∀ reached, allowed reached label)
    (evaluated : (follow step state labels).map (fun reached => observe reached.1) =
      some value) :
    ∃ trace final, Path step allowed state trace final ∧ observe final = value := by
  obtain ⟨⟨final, trace⟩, followed, seen⟩ := Option.map_eq_some_iff.mp evaluated
  exact ⟨trace, final, .of_follow admitted followed, seen⟩

/-- The same for a schedule and one that continues it. -/
theorem Path.observed_twice {Value : Type} {state : State} (front back : List Label)
    (observe : State → Value) (early late : Value)
    (evaluated : (follow step state front).bind (fun reached =>
      (follow step reached.1 back).map fun last => (observe reached.1, observe last.1)) =
        some (early, late)) :
    ∃ before after middle final, Path step Transition.anyLabel state before middle ∧
      Path step Transition.anyLabel middle after final ∧
      observe middle = early ∧ observe final = late := by
  obtain ⟨⟨middle, before⟩, begun, continued⟩ := Option.bind_eq_some_iff.mp evaluated
  obtain ⟨⟨final, after⟩, finished, seen⟩ := Option.map_eq_some_iff.mp continued
  obtain ⟨first, second⟩ := Prod.mk.injEq .. ▸ seen
  exact ⟨before, after, middle, final, .of_follow (fun _ _ _ => trivial) begun,
    .of_follow (fun _ _ _ => trivial) finished, first, second⟩

/-- The same, where the labels of the second schedule pass a test. -/
theorem Path.observed_then {Value : Type} {test : State → Label → Bool} {state : State} (front back : List Label)
    (observe : State → Value) (early late : Value)
    (sound : ∀ state label, test state label = true → allowed state label)
    (evaluated : (follow step state front).bind (fun reached =>
      (followWithin step test reached.1 back).map fun last => (observe reached.1, observe last.1)) =
        some (early, late)) :
    ∃ before after middle final, Path step Transition.anyLabel state before middle ∧
      Path step allowed middle after final ∧ observe middle = early ∧ observe final = late := by
  obtain ⟨⟨middle, before⟩, begun, continued⟩ := Option.bind_eq_some_iff.mp evaluated
  obtain ⟨⟨final, after⟩, finished, seen⟩ := Option.map_eq_some_iff.mp continued
  obtain ⟨first, second⟩ := Prod.mk.inj seen
  exact ⟨before, after, middle, final, .of_follow (fun _ _ _ => trivial) begun, .of_followWithin sound finished,
    first, second⟩

end CanX.Transition
