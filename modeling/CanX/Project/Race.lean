import Mathlib.Algebra.Order.BigOperators.Group.Finset
import CanX.Project.Migration

/-! How calls of `open_database` on one older project end: the runs in which none commits
while another is about to begin, and what happens in the others. -/

namespace CanX.Project

open Storage Transition

section Progress

variable {Connection Row : Type} {original : ProjectDatabase Row}
variable {store after : Shared Connection (ProjectDatabase Row)}
variable {connection : Connection} {outcome : Outcome} {call next : OpenCall}

/-- An upper bound on the statements a call has left. -/
def OpenCall.remaining : OpenCall → ℕ
  | .connecting => 17
  | .readingVersion => 16
  | .verifyingMetadata => 15
  | .readingSource => 14
  | .beginning source => (migrationStatements source).length + 10
  | .migrating _ remaining => remaining.length + 9
  | .committing _ => 8
  | .recheckingMetadata => 7
  | .listingTables => 6
  | .checkingTables remaining => remaining.length + 2
  | .rollingBack _ => 2
  | .closing _ => 1
  | .opened | .raised _ => 0

private theorem migrationStatements_length (source : Int) : (migrationStatements source).length ≤ 3 := by
  have sublist : (migrationStatements source).Sublist (migrationSteps.flatMap Prod.snd) :=
    List.filter_sublist.flatMap _
  exact sublist.length_le

private theorem afterVersion_remaining (version : Int) :
    (OpenCall.afterVersion version).remaining ≤ 15 := by
  unfold OpenCall.afterVersion
  repeat' split
  all_goals decide

theorem failed_remaining (unfinished : call.finished = false) :
    call.failed.remaining < call.remaining := by
  cases call with
  | opened => cases unfinished
  | raised error => cases unfinished
  | _ =>
    simp only [OpenCall.failed, OpenCall.remaining]
    omega

variable [DecidableEq Connection]

private theorem perform_remaining (moved : call.perform connection store = some (after, next)) :
    next.remaining < call.remaining := by
  cases call with
  | readingVersion =>
    cases moved
    exact Nat.lt_succ_of_le (afterVersion_remaining _)
  | readingSource =>
    cases moved
    have few := migrationStatements_length (store.visible connection).userVersion
    split
    · decide
    · simp only [OpenCall.remaining]
      omega
  | beginning source =>
    obtain ⟨begun, started, done⟩ := Option.map_eq_some_iff.mp moved
    cases done
    exact Nat.lt_succ_self _
  | migrating source remaining =>
    cases remaining with
    | nil =>
      cases moved
      exact Nat.lt_succ_self 8
    | cons statement rest =>
      simp only [OpenCall.perform] at moved
      split at moved
      · cases moved
        exact Nat.add_lt_add_right (Nat.lt_succ_self _) 9
      · cases moved
        simp only [OpenCall.remaining]
        omega
  | checkingTables remaining =>
    cases remaining with
    | nil =>
      cases moved
      exact Nat.zero_lt_two
    | cons entry rest =>
      cases moved
      split
      · exact Nat.add_lt_add_right (Nat.lt_succ_self _) 2
      · simp only [OpenCall.remaining]
        omega
  | opened => cases moved
  | raised error => cases moved
  | listingTables =>
    cases moved
    split <;> decide
  | verifyingMetadata =>
    cases moved
    split <;> decide
  | recheckingMetadata =>
    cases moved
    split <;> decide
  | _ =>
    cases moved
    exact Nat.lt_succ_self _

private theorem advance_remaining (moved : call.advance connection outcome store = some (after, next)) :
    next.remaining < call.remaining := by
  rcases advance_cases moved with ⟨rfl, performed⟩ | ⟨rfl, unfinished, _, _⟩
  · exact perform_remaining performed
  · exact failed_remaining unfinished

/-- Only a `BEGIN` waits, and only for an open transaction. -/
theorem advance_enabled (connection : Connection) (unfinished : call.finished = false)
    (free : store.transaction = none ∨ call.migrates = false ∨ call.holding = true) :
    ∃ moved, call.advance connection .done store = some moved := by
  cases call with
  | beginning source =>
    have unopened : store.transaction = none := by
      rcases free with none | quiet | holding
      · exact none
      · cases quiet
      · cases holding
    simp [OpenCall.advance, OpenCall.perform, Shared.begin, unopened]
  | migrating source remaining =>
    cases remaining with
    | nil => exact ⟨_, rfl⟩
    | cons statement rest =>
      simp only [OpenCall.advance, OpenCall.perform]
      split
      · exact ⟨_, rfl⟩
      · exact ⟨_, rfl⟩
  | checkingTables remaining =>
    cases remaining with
    | nil => exact ⟨_, rfl⟩
    | cons entry rest => exact ⟨_, rfl⟩
  | opened => cases unfinished
  | raised error => cases unfinished
  | _ => exact ⟨_, rfl⟩

end Progress

section Runs

variable {Connection Row : Type} [DecidableEq Connection] {original : ProjectDatabase Row}
variable {state next : Opening Connection Row} {trace : List ((Connection × Outcome) × OpenCall)}
variable {connection other : Connection} {outcome : Outcome} {taken call : OpenCall}

theorem run_length [Fintype Connection]
    {allowed : Opening Connection Row → Connection × Outcome → Prop}
    (run : Path Opening.step allowed (Opening.start original) trace state) :
    trace.length + ∑ connection, (state.call connection).remaining ≤ 17 * Fintype.card Connection := by
  induction run with
  | refl => simp [Opening.start, OpenCall.remaining, Nat.mul_comm]
  | @snoc trace middle label target output prior admitted moved ih =>
    obtain ⟨connection, outcome⟩ := label
    obtain ⟨_, call, advanced, calls⟩ := step_advance moved
    have less : ∑ other, (target.call other).remaining < ∑ other, (middle.call other).remaining := by
      apply Finset.sum_lt_sum
      · intro other _
        by_cases same : other = connection
        · rw [same, calls, Function.update_self]
          exact (advance_remaining advanced).le
        · rw [calls, Function.update_of_ne same]
      · refine ⟨connection, Finset.mem_univ _, ?_⟩
        rw [calls, Function.update_self]
        exact advance_remaining advanced
    rw [List.length_append, List.length_singleton]
    omega

/-- As long as a call is left, some call can go on. -/
theorem no_deadlock (inv : state.Invariant original)
    (left : (state.call connection).finished = false) :
    ∃ other next, state.step (other, .done) = some next := by
  cases opened : state.store.transaction with
  | none =>
    obtain ⟨moved, advanced⟩ := advance_enabled connection left (.inl opened)
    exact ⟨connection, _, by rw [Opening.step, advanced]; rfl⟩
  | some owner =>
    obtain ⟨holder, content⟩ := owner
    have inside := inv.place holder content opened
    have going : (state.call holder).finished = false ∧
        ((state.call holder).migrates = false ∨ (state.call holder).holding = true) := by
      cases place : state.call holder <;> rw [place] at inside <;> first
        | exact ⟨rfl, .inl rfl⟩
        | exact ⟨rfl, .inr rfl⟩
        | cases inside
    obtain ⟨moved, advanced⟩ := advance_enabled holder going.1 (.inr going.2)
    exact ⟨holder, _, by rw [Opening.step, advanced]; rfl⟩

theorem run_timely (legacy : original.Legacy)
    (run : Path Opening.step Opening.Undisturbed (Opening.start original) trace state) :
    state.Invariant original ∧ state.Timely original :=
  run.preserves (fun state => state.Invariant original ∧ state.Timely original)
    (fun _ _ _ _ held quiet moved => ⟨step_invariant legacy held.1 moved,
      step_timely legacy held.1 held.2 quiet moved⟩) ⟨start_invariant original, nofun⟩

/-- Undisturbed, a call fails only where one of its statements does. -/
theorem step_calm (legacy : original.Legacy) (inv : state.Invariant original)
    (timely : state.Timely original) (calm : ∀ connection, (state.call connection).failing = false)
    (moved : state.step (connection, .done) = some (next, taken)) :
    ∀ other, (next.call other).failing = false := by
  obtain ⟨_, call, advanced, calls⟩ := step_advance moved
  intro other
  rw [calls]
  by_cases same : other = connection
  · rw [same, Function.update_self]
    rcases advance_cases advanced with ⟨_, performed⟩ | ⟨_, _, leaving, _⟩
    · have kept := perform_advanced legacy inv.known (inv.sound connection) (inv.place connection) performed
      by_contra failing
      rcases kept.calm (Bool.not_eq_false _ ▸ failing) with before | ⟨migrates, upgraded⟩
      · cases before.symm.trans (calm connection)
      · exact Legacy.not_upgraded legacy upgraded (timely connection migrates)
    · cases (leaving rfl).symm.trans (calm connection)
  · rw [Function.update_of_ne same]
    exact calm other

/-- A call that finds the database upgraded when it is already about to migrate it cannot
open it any more. -/
def Opening.Late (original : ProjectDatabase Row) (state : Opening Connection Row)
    (connection : Connection) : Prop :=
  Upgraded original state.store.committed ∧
    ((state.call connection).migrates = true ∨ (state.call connection).failing = true)

theorem step_late (legacy : original.Legacy) (inv : state.Invariant original)
    (late : state.Late original connection)
    (moved : state.step (other, outcome) = some (next, taken)) : next.Late original connection := by
  obtain ⟨_, call, advanced, calls⟩ := step_advance moved
  refine ⟨step_upgraded legacy inv moved late.1, ?_⟩
  rw [calls]
  by_cases same : connection = other
  · subst same
    rw [Function.update_self]
    rcases advance_cases advanced with ⟨_, performed⟩ | ⟨rfl, unfinished, _⟩
    · have kept := perform_advanced legacy inv.known (inv.sound connection) (inv.place connection) performed
      rcases late.2 with migrates | failing
      · exact kept.stale migrates late.1
      · exact .inr (perform_failing failing performed)
    · exact .inr (failed_failing unfinished)
  · rw [Function.update_of_ne same]
    exact late.2

theorem run_calm (legacy : original.Legacy)
    (run : Path Opening.step Opening.Undisturbed (Opening.start original) trace state)
    (calm : ∀ entry ∈ trace, entry.1.2 = .done) :
    ∀ connection, (state.call connection).failing = false := by
  induction run with
  | refl => exact fun _ => rfl
  | @snoc trace middle label target output prior quiet moved ih =>
    obtain ⟨connection, outcome⟩ := label
    have last : outcome = .done := calm _ (List.mem_append_right _ List.mem_cons_self)
    have before := ih fun entry member => calm entry (List.mem_append_left _ member)
    obtain ⟨inv, timely⟩ := run_timely legacy prior
    rw [last] at moved
    exact step_calm legacy inv timely before moved

theorem step_commits {source : Int} (legacy : original.Legacy) (inv : state.Invariant original)
    (committing : state.call connection = .committing source)
    (moved : state.step (connection, .done) = some (next, taken)) :
    Upgraded original next.store.committed := by
  obtain ⟨_, call, advanced, calls⟩ := step_advance moved
  have sound := (step_invariant legacy inv moved).sound connection
  rw [committing] at advanced
  simp only [OpenCall.advance, OpenCall.perform, Option.some.injEq, Prod.mk.injEq] at advanced
  rw [calls, Function.update_self, ← advanced.2] at sound
  exact sound

/-- What opening an older project from several connections promises in every state of a
run. A migration statement that fails leaves the source version committed, the failing call
changes nothing from then on, and it has no transaction left when it has raised. -/
structure Atomic [Fintype Connection] (original : ProjectDatabase Row)
    (trace : List ((Connection × Outcome) × OpenCall)) (state : Opening Connection Row) : Prop where
  succeeds : (∀ entry ∈ trace, entry.1.2 = .done) →
    ∀ connection, (state.call connection).finished = true → state.call connection = .opened
  upgrades : ∀ connection, state.call connection = .opened →
    state.store.committed.AtVersion databaseSchemaVersion
  whole : state.store.committed = original ∨ state.store.committed.AtVersion databaseSchemaVersion
  keeps : ∀ table ∈ original.tables, table ∈ state.store.committed.tables
  restores : ∀ connection outcome next taken, (state.call connection).migrates = true →
    state.step (connection, outcome) = some (next, taken) →
    (next.call connection).failing = true → next.store.committed = original
  leaves : ∀ connection outcome next taken, (state.call connection).failing = true →
    state.step (connection, outcome) = some (next, taken) →
    (next.call connection).failing = true ∧ next.store.committed = state.store.committed
  releases : ∀ connection error written, state.call connection = .raised error →
    ¬ state.store.Holds connection written
  progress : ∀ connection, (state.call connection).finished = false →
    ∃ other next, state.step (other, .done) = some next
  bounded : trace.length ≤ 17 * Fintype.card Connection

theorem step_failing (legacy : original.Legacy) (inv : state.Invariant original)
    (failing : (state.call connection).failing = true)
    (moved : state.step (connection, outcome) = some (next, taken)) :
    (next.call connection).failing = true ∧ next.store.committed = state.store.committed := by
  obtain ⟨_, call, advanced, calls⟩ := step_advance moved
  constructor
  · rw [calls, Function.update_self]
    rcases advance_cases advanced with ⟨_, performed⟩ | ⟨rfl, unfinished, _⟩
    · exact perform_failing failing performed
    · exact failed_failing unfinished
  · rcases step_committed legacy inv moved with same | ⟨⟨source, committing⟩, _⟩
    · exact same
    · rw [committing] at failing
      cases failing

theorem step_restores (legacy : original.Legacy) (inv : state.Invariant original)
    (timely : state.Timely original) (migrates : (state.call connection).migrates = true)
    (moved : state.step (connection, outcome) = some (next, taken))
    (failing : (next.call connection).failing = true) : next.store.committed = original := by
  rcases step_committed legacy inv moved with same | ⟨⟨source, committing⟩, rfl, _⟩
  · rw [same]
    exact timely connection migrates
  · obtain ⟨_, call, advanced, calls⟩ := step_advance moved
    rw [calls, Function.update_self] at failing
    rw [committing] at advanced
    simp only [OpenCall.advance, OpenCall.perform, Option.some.injEq, Prod.mk.injEq] at advanced
    rw [← advanced.2] at failing
    cases failing

/-- Any number of calls on an older project, in a run in which none commits while another
stands between its version read and its `BEGIN`. -/
theorem openings_atomic [Fintype Connection] (legacy : original.Legacy)
    (run : Path Opening.step Opening.Undisturbed (Opening.start original) trace state) :
    Atomic original trace state := by
  obtain ⟨inv, timely⟩ := run_timely legacy run
  constructor
  · intro calm connection finished
    have failing := run_calm legacy run calm connection
    cases place : state.call connection with
    | opened => rfl
    | raised error =>
      rw [place] at failing
      cases failing
    | _ =>
      rw [place] at finished
      cases finished
  · intro connection opened
    have sound := inv.sound connection
    rw [opened] at sound
    exact sound.atVersion legacy
  · rcases inv.known with same | upgraded
    · exact .inl same
    · exact .inr (upgraded.atVersion legacy)
  · rcases inv.known with same | upgraded
    · rw [same]
      exact fun _ member => member
    · exact upgraded.kept
  · intro connection outcome next taken migrates moved failing
    exact step_restores legacy inv timely migrates moved failing
  · intro connection outcome next taken failing moved
    exact step_failing legacy inv failing moved
  · intro connection error written raised holds
    have inside := inv.place connection written holds
    rw [raised] at inside
    cases inside
  · intro connection left
    exact no_deadlock inv left
  · exact (Nat.le_add_right _ _).trans (run_length run)

/-- A version 1 project with its metadata row. -/
def legacyProject : ProjectDatabase String :=
  ⟨1, [⟨createMetadataTable, ["2f1c3d4e-5a6b-4c7d-8e9f-0a1b2c3d4e5f"]⟩], by decide⟩

private theorem legacyProject_legacy : legacyProject.Legacy := .inl ⟨rfl, by decide⟩

/-- The places of two calls, and whether every statement of the run was performed. -/
def placesSeen (reached : Opening Bool String × List ((Bool × Outcome) × OpenCall)) :
    OpenCall × OpenCall × Bool :=
  (reached.1.call true, reached.1.call false, reached.2.all fun entry => decide (entry.1.2 = .done))

/-- The executable form of `Undisturbed` for two calls. -/
def undisturbed (state : Opening Bool String) (label : Bool × Outcome) : Bool :=
  decide (label.2 ≠ .done) ||
    match state.call label.1, state.call (!label.1) with
    | .committing _, .beginning _ => false
    | _, _ => true

private theorem undisturbed_sound (state : Opening Bool String) (label : Bool × Outcome)
    (passed : undisturbed state label = true) : state.Undisturbed label := by
  intro done source committing other waiting beginning
  obtain ⟨connection, outcome⟩ := label
  by_cases same : other = connection
  · subst same
    cases committing.symm.trans beginning
  · have opposite : other = !connection := Bool.eq_not_iff.mpr same
    rw [opposite] at beginning
    simp only [undisturbed, committing, beginning, Bool.or_false, decide_eq_true_eq] at passed
    exact passed done

/-- The second call starts next to the first, waits with its version read until the first has committed, and is done
after it. -/
def interleaved : List (Bool × Outcome) :=
  [(true, .done), (false, .done), (true, .done), (false, .done), (true, .done), (false, .done)] ++
    List.replicate 10 (true, .done) ++
    [(false, .done), (true, .done), (false, .done), (true, .done), (false, .done), (true, .done)] ++
    List.replicate 4 (false, .done)

theorem openings_atomic_interleaved :
    ∃ trace state, Path Opening.step Opening.Undisturbed
        (Opening.start legacyProject : Opening Bool String) trace state ∧
      state.call true = .opened ∧ state.call false = .opened ∧ Atomic legacyProject trace state := by
  have evaluated : (followWithin Opening.step undisturbed
      (Opening.start legacyProject : Opening Bool String) interleaved).map placesSeen =
        some (.opened, .opened, true) := by
    decide +kernel
  obtain ⟨trace, state, run, seen⟩ := Path.observedWithin _ _ _ undisturbed_sound evaluated
  obtain ⟨first, rest⟩ := Prod.mk.injEq .. ▸ seen
  obtain ⟨second, _⟩ := Prod.mk.injEq .. ▸ rest
  exact ⟨trace, state, run, first, second, openings_atomic legacyProject_legacy run⟩

/-- Both calls read version 1; the one that begins after the other has committed fails on
its first statement, although no statement of the run was disturbed from outside. -/
theorem overtaken_migration_fails :
    ∃ trace state, Path Opening.step anyLabel
        (Opening.start legacyProject : Opening Bool String) trace state ∧
      (∀ entry ∈ trace, entry.1.2 = .done) ∧ state.call true = .opened ∧
      state.call false = .raised migrationFailed ∧ ¬ Atomic legacyProject trace state := by
  have evaluated : (followWithin Opening.step (fun _ _ => true)
      (Opening.start legacyProject : Opening Bool String)
      (List.replicate 4 (true, .done) ++ List.replicate 4 (false, .done) ++
        List.replicate 12 (true, .done) ++ List.replicate 4 (false, .done))).map placesSeen =
        some (.opened, .raised migrationFailed, true) := by
    decide +kernel
  obtain ⟨trace, state, run, seen⟩ :=
    Path.observedWithin _ _ _ (fun _ _ _ => trivial : ∀ _ _, _ → anyLabel _ _) evaluated
  obtain ⟨first, rest⟩ := Prod.mk.injEq .. ▸ seen
  obtain ⟨second, performed⟩ := Prod.mk.injEq .. ▸ rest
  have calm : ∀ entry ∈ trace, entry.1.2 = .done := by
    intro entry member
    have each := List.all_eq_true.mp performed entry member
    exact of_decide_eq_true each
  refine ⟨trace, state, run, calm, first, second, ?_⟩
  intro atomic
  have finished : (state.call false).finished = true := by rw [second]; rfl
  have opened := atomic.succeeds calm false finished
  rw [second] at opened
  cases opened

/-- The condition is exact: where a call commits while another one waits at its `BEGIN`,
that other one never opens the project. -/
theorem overtaken_never_opens {label : Connection × Outcome} (legacy : original.Legacy)
    (run : Path Opening.step anyLabel (Opening.start original) trace state)
    (disturbed : ¬ state.Undisturbed label) (moved : state.step label = some (next, taken)) :
    ∃ other source, state.call other = .beginning source ∧
      ∀ later final, Path Opening.step anyLabel next later final → final.call other ≠ .opened := by
  obtain ⟨connection, outcome⟩ := label
  simp only [Opening.Undisturbed, not_forall, not_not] at disturbed
  obtain ⟨rfl, source, committing, other, waiting, beginning⟩ := disturbed
  have inv := run_invariant legacy run
  have after := step_invariant legacy inv moved
  refine ⟨other, waiting, beginning, ?_⟩
  have different : other ≠ connection := by
    rintro rfl
    cases committing.symm.trans beginning
  have late : next.Late original other := by
    obtain ⟨_, call, advanced, calls⟩ := step_advance moved
    constructor
    · exact step_commits legacy inv committing moved
    · rw [calls, Function.update_of_ne different, beginning]
      exact .inl rfl
  intro later final path opened
  have kept := path.preserves (fun state => state.Invariant original ∧ state.Late original other)
    (fun _ _ _ _ held _ moved => ⟨step_invariant legacy held.1 moved,
      step_late legacy held.1 held.2 moved⟩) ⟨after, late⟩
  rcases kept.2.2 with migrates | failing
  · rw [opened] at migrates
    cases migrates
  · rw [opened] at failing
    cases failing

/-- The schedule of the overtaken call is not undisturbed: a commit in it finds the other call at its `BEGIN`. -/
example : ((followWithin Opening.step undisturbed (Opening.start legacyProject : Opening Bool String)
    (List.replicate 4 (true, .done) ++ List.replicate 4 (false, .done) ++ List.replicate 12 (true, .done))).map
      placesSeen).isNone = true := by
  decide +kernel

end Runs

end CanX.Project
