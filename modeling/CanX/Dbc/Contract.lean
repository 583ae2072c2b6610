import CanX.Dbc.Service
import CanX.Transition.Monitor
import Mathlib.Data.Set.Function

/-! How a DBC program can end: it returns, or it raises an error that its surroundings deal
with and leaves a known world, or some effect has raised a class that nothing around it
translates, and then the program raises an error nobody deals with either. -/

namespace CanX.Dbc

open Data Transition Program

variable {Database Value Other : Type} {engine : Engine Database} {seen : Set Bytes}

/-- A generated identity names no file yet. -/
def ProjectWorld.Fresh (world : ProjectWorld) (assetId : Uuid) : Prop :=
  world.files (assetName assetId) = none ∧ world.files (stagingName (assetName assetId)) = none

/-- What is assumed of the environment: a removal that is attempted succeeds, `uuid4` answers
an identity that is not in use, and external sources hold contents in `seen`. -/
def Assumed (seen : Set Bytes) (world : ProjectWorld) (request : DbcEffect) (choice : Choice) : Prop :=
  match request with
  | .removeFile _ => choice.fault = none
  | .uuid4 => world.Fresh choice.uuid
  | .readSource => choice.content ∈ seen
  | _ => True

/-- A world, and whether some effect has raised a class that nothing translates. -/
abbrev Watched := ProjectWorld × Prop

def Contract (engine : Engine Database) (seen : Set Bytes) (pre : Watched → Prop) (program : DbcProgram Database Value)
    (post : Except PyException Value → Watched → Prop) : Prop :=
  Triple (monitored (perform engine) (Handled engine)) (fun watched => Assumed seen watched.1) Eq
    (fun _ _ _ => True) pre program post

/-- Nothing has gone wrong so far. -/
def At (world : ProjectWorld) (watched : Watched) : Prop := watched.1 = world ∧ ¬ watched.2

def Ends (deals : PyException → Prop) (left : PyException → ProjectWorld → Prop)
    (returns : Value → ProjectWorld → Prop) : Except PyException Value → Watched → Prop
  | .ok value, watched => ¬ watched.2 ∧ returns value watched.1
  | .error error, watched => (watched.2 ↔ ¬ deals error) ∧ (¬ watched.2 → left error watched.1)

/-- Something has gone wrong, and the program raises an error nobody deals with. -/
def Lost (deals : PyException → Prop) : Except PyException Value → Watched → Prop
  | .ok _, _ => False
  | .error error, watched => watched.2 ∧ ¬ deals error

/-- The errors that the code around an effect deals with. -/
def Deals (request : DbcEffect) (error : PyException) : Prop :=
  ∀ fault, error = .builtin fault → translates request fault = true

def Typed (error : PyException) : Prop := error.typed = true

variable {deals deals' : PyException → Prop} {left left' : PyException → ProjectWorld → Prop}
variable {returns : Value → ProjectWorld → Prop} {goal : Other → ProjectWorld → Prop}
variable {world before : ProjectWorld} {request : DbcEffect} {error : PyException}
variable {program : DbcProgram Database Value}

theorem stable_eq {State : Type} (assertion : State → Prop) : Stable Eq assertion := by
  rintro before after rfl holds
  exact holds

theorem Contract.ended {result : Except PyException Value} {pre : Watched → Prop}
    {post : Except PyException Value → Watched → Prop}
    (implied : ∀ watched, pre watched → post result watched) :
    Contract engine seen pre (.finish result) post :=
  Triple.finish (stable_eq _) implied

theorem Contract.returned {value : Value} (reached : returns value world) :
    Contract engine seen (At world) (pure value) (Ends deals left returns) := by
  apply Contract.ended
  rintro watched ⟨rfl, calm⟩
  exact ⟨calm, reached⟩

theorem Contract.raised (dealt : deals error) (reached : left error world) :
    Contract engine seen (At world) (raise error : DbcProgram Database Value) (Ends deals left returns) := by
  apply Contract.ended
  rintro watched ⟨rfl, calm⟩
  exact ⟨iff_of_false calm (fun refused => refused dealt), fun _ => reached⟩

theorem Contract.lost_raised (undealt : ¬ deals error) :
    Contract engine seen Prod.snd (raise error : DbcProgram Database Value) (Lost deals) :=
  Contract.ended fun _ gone => ⟨gone, undealt⟩

theorem Contract.sequence {next : Value → DbcProgram Database Other}
    (first : Contract engine seen (At before) program (Ends deals left returns))
    (second : ∀ value after, returns value after →
      Contract engine seen (At after) (next value) (Ends deals left goal)) :
    Contract engine seen (At before) (program >>= next) (Ends deals left goal) := by
  apply Triple.bind (fun _ => rfl) first
  · rintro value ⟨after, gone⟩ ⟨calm, reached⟩
    exact second value after reached _ ⟨rfl, calm⟩
  · intro error
    exact ⟨stable_eq _, fun _ ended => ended⟩

theorem Contract.caught {handler : PyException → DbcProgram Database Value}
    (first : Contract engine seen (At before) program (Ends deals left returns))
    (dealt : ∀ error after, deals error → left error after →
      Contract engine seen (At after) (handler error) (Ends deals' left' returns))
    (undealt : ∀ error, ¬ deals error → Contract engine seen Prod.snd (handler error) (Lost deals')) :
    Contract engine seen (At before) (program.catching handler) (Ends deals' left' returns) := by
  apply Triple.catching (fun _ => rfl) first
  · intro value
    exact ⟨stable_eq _, fun _ ended => ended⟩
  · rintro error ⟨after, gone⟩ ⟨flagged, reached⟩
    by_cases lost : gone
    · refine Safe.post_mono (undealt error (flagged.mp lost) _ lost) ?_
      rintro (error | value) watched ended
      · exact ⟨iff_of_true ended.1 ended.2, fun calm => absurd ended.1 calm⟩
      · exact ended.elim
    · have known : deals error := by
        by_contra refused
        exact lost (flagged.mpr refused)
      exact dealt error after known (reached lost) _ ⟨rfl, lost⟩

theorem Contract.mono {returns' : Value → ProjectWorld → Prop}
    (contract : Contract engine seen (At before) program (Ends deals left returns))
    (same : ∀ error, deals error ↔ deals' error)
    (leaves : ∀ error after, deals error → left error after → left' error after)
    (implied : ∀ value after, returns value after → returns' value after) :
    Contract engine seen (At before) program (Ends deals' left' returns') := by
  apply Triple.consequence contract (fun _ held => held)
  rintro (error | value) watched ended
  · refine ⟨ended.1.trans (not_congr (same error)), fun calm => ?_⟩
    have known : deals error := by
      by_contra refused
      exact calm (ended.1.mpr refused)
    exact leaves error _ known (ended.2 calm)
  · exact ⟨ended.1, implied value _ ended.2⟩

/-- One effect, from what it answers and what a raise that is dealt with leaves. -/
theorem Contract.asked {returns : request.Answer Database → ProjectWorld → Prop}
    (answers : ∀ choice value, Assumed seen world request choice →
      (perform engine request choice world).2 = .ok value →
      returns value (perform engine request choice world).1)
    (leaves : ∀ choice error, Assumed seen world request choice →
      (perform engine request choice world).2 = .error error →
      left error (perform engine request choice world).1) :
    Contract engine seen (At world) (ask request) (Ends (Deals request) left returns) := by
  apply Triple.effect (stable_eq _) (fun _ => stable_eq _)
  rintro ⟨current, gone⟩ choice ⟨rfl, calm⟩ assumed
  refine ⟨trivial, ?_⟩
  simp only [monitored]
  cases answered : (perform engine request choice current).2 with
  | ok value =>
    refine ⟨?_, answers choice value assumed answered⟩
    rintro (before | unhandled)
    · exact calm before
    · exact unhandled fun fault raised => by cases answered.symm.trans raised
  | error error =>
    refine ⟨?_, fun _ => leaves choice error assumed answered⟩
    have handled : Handled engine current request choice ↔ Deals request error := by
      constructor
      · rintro holds fault rfl
        exact holds fault answered
      · intro holds fault raised
        exact holds fault (Except.error.inj (answered.symm.trans raised))
    rw [handled]
    exact or_iff_right calm

/-- An effect that changes nothing. -/
theorem Contract.reading {P : request.Answer Database → Prop}
    (quiet : ∀ choice, (perform engine request choice world).1 = world)
    (answers : ∀ choice value, Assumed seen world request choice →
      (perform engine request choice world).2 = .ok value → P value) :
    Contract engine seen (At world) (ask request)
      (Ends (Deals request) (fun _ after => after = world) (fun value after => after = world ∧ P value)) :=
  Contract.asked (fun choice value assumed answered => ⟨quiet choice, answers choice value assumed answered⟩)
    (fun choice _ _ _ => quiet choice)

/-- An effect that nothing around it deals with. -/
theorem deals_typed (bare : ∀ fault, translates request fault = false) (error : PyException) :
    Deals request error ↔ Typed error := by
  cases error with
  | builtin fault =>
    constructor
    · intro dealt
      cases (bare fault).symm.trans (dealt fault rfl)
    · nofun
  | dbc error => exact iff_of_true nofun rfl
  | project error => exact iff_of_true nofun rfl

/-- An effect of which one class is dealt with. -/
theorem deals_iff {caught : Fault}
    (only : ∀ fault, translates request fault = true ↔ fault = caught) :
    Deals request error ↔ Typed error ∨ error = .builtin caught := by
  cases error with
  | builtin fault =>
    constructor
    · intro dealt
      exact .inr (congrArg _ ((only fault).mp (dealt fault rfl)))
    · rintro (typed | same) other ⟨⟩
      · cases typed
      · cases same
        exact (only caught).mpr rfl
  | dbc error => exact iff_of_true nofun (.inl rfl)
  | project error => exact iff_of_true nofun (.inl rfl)

theorem Contract.uncaught {returns : request.Answer Database → ProjectWorld → Prop}
    (contract : Contract engine seen (At world) (ask request) (Ends (Deals request) left returns))
    (bare : ∀ fault, translates request fault = false) :
    Contract engine seen (At world) (ask request) (Ends Typed left returns) :=
  contract.mono (deals_typed bare) (fun _ _ _ reached => reached) (fun _ _ reached => reached)

/-- `except <fault>: <recovery>` around what deals with that class alone. -/
theorem Contract.rescued {caught : Fault} {recovery : DbcProgram Database Value}
    (contract : Contract engine seen (At before) program (Ends deals left returns))
    (only : ∀ error, deals error ↔ Typed error ∨ error = .builtin caught)
    (typed : ∀ error, Typed error → deals' error) (within : ∀ error, deals' error → deals error)
    (leaves : ∀ error after, Typed error → left error after → left' error after)
    (recovers : ∀ after, left (.builtin caught) after →
      Contract engine seen (At after) recovery (Ends deals' left' returns)) :
    Contract engine seen (At before) (rescuing program caught recovery) (Ends deals' left' returns) := by
  apply Contract.caught contract
  · intro error after dealt reached
    split
    · rename_i same
      subst same
      exact recovers after reached
    · rename_i different
      rcases (only error).mp dealt with known | same
      · exact .raised (typed error known) (leaves error after known reached)
      · exact absurd same different
  · intro error undealt
    rw [if_neg fun same => undealt ((only error).mpr (.inr same))]
    exact .lost_raised fun known => undealt (within error known)

/-- The same, around one effect and as far as typed errors. -/
theorem Contract.rescued_ask {caught : Fault} {returns : request.Answer Database → ProjectWorld → Prop}
    {recovery : DbcProgram Database (request.Answer Database)}
    (contract : Contract engine seen (At before) (ask request) (Ends (Deals request) left returns))
    (only : ∀ fault, translates request fault = true ↔ fault = caught)
    (leaves : ∀ error after, Typed error → left error after → left' error after)
    (recovers : ∀ after, left (.builtin caught) after →
      Contract engine seen (At after) recovery (Ends Typed left' returns)) :
    Contract engine seen (At before) (rescuing (ask request) caught recovery) (Ends Typed left' returns) :=
  contract.rescued (fun _ => deals_iff only) (fun _ known => known)
    (fun _ known => (deals_iff only).mpr (.inl known)) leaves recovers

/-- Once something has gone wrong it stays so; all that an effect adds is its own error. -/
def Spoiled (result : Except PyException Value) (watched : Watched) : Prop :=
  watched.2 ∧ ∀ error, result = .error error → ∃ fault, error = .builtin fault

theorem Contract.spoiled
    (builtin : ∀ choice world error, (perform engine request choice world).2 = .error error →
      ∃ fault, error = .builtin fault) :
    Contract engine seen Prod.snd (ask request) Spoiled := by
  apply Triple.effect (stable_eq _) (fun _ => stable_eq _)
  rintro ⟨current, gone⟩ choice lost _
  refine ⟨trivial, .inl lost, ?_⟩
  intro error raised
  exact builtin choice current error raised

/-- Cleaning up after an error that nobody deals with: the error stays, or an error of the
clean-up takes its place. -/
theorem Contract.lost_cleanup {caught : Fault} {cleanup : DbcProgram Database Unit}
    (spoiled : Contract engine seen Prod.snd cleanup Spoiled)
    (foreign : ∀ fault, fault ≠ caught → ¬ deals (.builtin fault)) (undealt : ¬ deals error) :
    Contract engine seen Prod.snd
      (suppressing cleanup caught >>= fun _ => raise error : DbcProgram Database Value)
      (Lost deals) := by
  have quiet : Contract engine seen Prod.snd (suppressing cleanup caught)
      (fun result watched => watched.2 ∧ ∀ error, result = .error error → ¬ deals error) := by
    apply Triple.catching (fun _ => rfl) spoiled
    · intro value
      exact ⟨stable_eq _, fun watched ended => ⟨ended.1, nofun⟩⟩
    · intro raised
      split
      · exact Contract.ended fun watched ended => ⟨ended.1, nofun⟩
      · rename_i different
        apply Contract.ended
        rintro watched ⟨gone, builtin⟩
        obtain ⟨fault, rfl⟩ := builtin raised rfl
        refine ⟨gone, ?_⟩
        rintro error same
        cases same
        exact foreign fault fun same => different (congrArg _ same)
  apply Triple.bind (fun _ => rfl) quiet
  · intro value
    exact Contract.ended fun watched ended => ⟨ended.1, undealt⟩
  · intro raised
    exact ⟨stable_eq _, fun watched ended => ⟨ended.1, ended.2 raised rfl⟩⟩

end CanX.Dbc
