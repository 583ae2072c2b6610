import Mathlib.Data.List.Nodup
import CanX.Project.Ownership

/-! What a failed creation leaves behind: nothing, where its removals go through and no call of `open` puts a new
database file into its directory. -/

namespace CanX.Project

open Transition

section Folders

variable {folder : Folder} {name : Name}

/-- The names of a folder are apart, as no two directories of it have one name. -/
theorem names_nodup (distinct : folder.directories.Nodup) : folder.names.Nodup := by
  obtain ⟨directories, database, manifest⟩ := folder
  have apart : (directories.map Name.directory).Nodup :=
    distinct.map fun _ _ same => Name.directory.inj same
  cases database <;> cases manifest <;> simp [Folder.names, List.nodup_append, apart]

private theorem remove_names (folder : Folder) (name : Name) :
    (folder.remove name).names = folder.names.filter (· ≠ name) := by
  obtain ⟨directories, database, manifest⟩ := folder
  have directory (kept : Name → Bool) :
      (directories.map Name.directory).filter kept = (directories.filter (kept ∘ Name.directory)).map .directory :=
    List.filter_map
  cases name <;> cases database <;> cases manifest <;>
    simp [Folder.remove, Folder.names, List.filter_append, directory, Function.comp_def]

theorem remove_directories (distinct : folder.directories.Nodup) : (folder.remove name).directories.Nodup := by
  cases name with
  | directory name => exact distinct.filter _
  | database => exact distinct
  | manifest => exact distinct

theorem names_empty (none : folder.names = []) : folder = .empty := by
  obtain ⟨directories, database, manifest⟩ := folder
  simp only [Folder.names, List.append_eq_nil_iff, List.map_eq_nil_iff, Option.toList_eq_nil_iff] at none
  obtain ⟨⟨rfl, rfl⟩, rfl⟩ := none
  rfl

/-- The removal of a listed entry, and of its name from the list. -/
theorem remove_eraseIdx {first : Name} {rest : List Name} {position : ℕ} (distinct : folder.directories.Nodup)
    (listed : first :: rest = folder.names) (inside : position < (first :: rest).length) :
    (first :: rest).eraseIdx position = (folder.remove ((first :: rest).getD position first)).names := by
  have apart := names_nodup distinct
  rw [← listed] at apart
  have picked : (first :: rest).getD position first = (first :: rest)[position] := by
    rw [List.getD_eq_getElem?_getD, List.getElem?_eq_getElem inside, Option.getD_some]
  rw [remove_names, ← listed, picked, ← apart.erase_getElem position inside, apart.erase_eq_filter]
  exact List.filter_congr fun name _ => by rw [decide_not, bne, beq_eq_decide]

end Folders

section Creators

variable {Caller : Type} [DecidableEq Caller] {creation : Creation} {caller : Caller} {answer : Answer}
variable {disk after : Disk Caller} {call next : CreateCall} {folder : Folder}

namespace CreateCall

/-- The effects that remove what a failed creation has made. -/
def clearing : CreateCall → Bool
  | scanning _ | removing .. | removingRoot _ => true
  | _ => false

/-- What is left of the directory is what the removal still has before it. -/
def Clears (folder : Folder) : CreateCall → Prop
  | removing remaining _ => remaining = folder.names
  | removingRoot _ => folder = .empty
  | _ => True

end CreateCall

/-- No two directories of the path have one name, and its removal misses none of its entries. -/
def Disk.Listed (disk : Disk Caller) (call : CreateCall) : Prop :=
  ∀ folder, disk.folder = some folder → folder.directories.Nodup ∧ call.Clears folder

omit [DecidableEq Caller] in
theorem listed_same (listed : disk.Listed call) (same : after.root = disk.root)
    (clears : ∀ folder, next.Clears folder) : after.Listed next := by
  intro folder found
  rw [folder_eq, same, ← folder_eq] at found
  exact ⟨(listed folder found).1, clears folder⟩

omit [DecidableEq Caller] in
theorem listed_put (distinct : folder.directories.Nodup) (clears : call.Clears folder) :
    (disk.put folder).Listed call := by
  intro other found
  obtain rfl := Option.some.inj found
  exact ⟨distinct, clears⟩

/-- A performed effect of a creation keeps the list, and gives the path up only where nothing is left at it. -/
theorem perform_listed {count : ℕ} (sound : call.Sound creation caller disk) (listed : disk.Listed call)
    (performed : call.perform creation caller count disk = some (after, next)) :
    after.Listed next ∧ (call.owns = true → next.owns = true ∨ after.root = none) := by
  cases call with
  | validating =>
    obtain ⟨rfl, rfl⟩ := Prod.mk.inj (Option.some.inj performed)
    refine ⟨listed_same listed rfl fun _ => ?_, fun owns => by cases owns⟩
    split <;> trivial
  | makingRoot =>
    simp only [CreateCall.perform] at performed
    split at performed
    · obtain ⟨rfl, rfl⟩ := Prod.mk.inj (Option.some.inj performed)
      exact ⟨listed_put List.nodup_nil trivial, fun _ => .inl rfl⟩
    · obtain ⟨rfl, rfl⟩ := Prod.mk.inj (Option.some.inj performed)
      exact ⟨listed_same listed rfl fun _ => trivial, fun owns => by cases owns⟩
  | makingDirectories remaining =>
    cases remaining with
    | nil =>
      obtain ⟨rfl, rfl⟩ := Prod.mk.inj (Option.some.inj performed)
      exact ⟨listed_same listed rfl fun _ => trivial, fun _ => .inl rfl⟩
    | cons name remaining =>
      simp only [CreateCall.perform] at performed
      split at performed
      · rename_i folder found
        split at performed
        · obtain ⟨rfl, rfl⟩ := Prod.mk.inj (Option.some.inj performed)
          exact ⟨listed_same listed rfl fun _ => trivial, fun _ => .inl rfl⟩
        · rename_i new
          obtain ⟨rfl, rfl⟩ := Prod.mk.inj (Option.some.inj performed)
          refine ⟨listed_put ?_ trivial, fun _ => .inl rfl⟩
          exact List.nodup_append.mpr ⟨(listed folder found).1, List.nodup_singleton name, fun first old second last =>
            by rw [List.mem_singleton.mp last]; exact ne_of_mem_of_not_mem old new⟩
      · obtain ⟨rfl, rfl⟩ := Prod.mk.inj (Option.some.inj performed)
        exact ⟨listed_same listed rfl fun _ => trivial, fun _ => .inl rfl⟩
  | connecting =>
    simp only [CreateCall.perform] at performed
    split at performed
    · rename_i connected made
      obtain ⟨rfl, rfl⟩ := Prod.mk.inj (Option.some.inj performed)
      refine ⟨fun folder found => ?_, fun _ => .inl rfl⟩
      obtain ⟨before, held, laid, -⟩ := connect_cases made
      obtain rfl := Entry.folder.inj (Option.some.inj ((folder_eq.mp found).symm.trans laid))
      exact ⟨(listed before held).1, trivial⟩
    · obtain ⟨rfl, rfl⟩ := Prod.mk.inj (Option.some.inj performed)
      exact ⟨listed_same listed rfl fun _ => trivial, fun _ => .inl rfl⟩
  | beginning inode =>
    obtain ⟨begun, -, same⟩ := Option.map_eq_some_iff.mp performed
    obtain ⟨rfl, rfl⟩ := Prod.mk.inj same
    exact ⟨listed_same listed rfl fun _ => trivial, fun _ => .inl rfl⟩
  | creatingTables inode remaining =>
    cases remaining with
    | nil =>
      simp only [CreateCall.perform] at performed
      split at performed
      · split at performed
        · obtain ⟨rfl, rfl⟩ := Prod.mk.inj (Option.some.inj performed)
          exact ⟨listed_same listed rfl fun _ => trivial, fun _ => .inl rfl⟩
        · obtain ⟨rfl, rfl⟩ := Prod.mk.inj (Option.some.inj performed)
          exact ⟨listed_same listed rfl fun _ => trivial, fun _ => .inl rfl⟩
      · obtain ⟨rfl, rfl⟩ := Prod.mk.inj (Option.some.inj performed)
        exact ⟨listed_same listed rfl fun _ => trivial, fun _ => .inl rfl⟩
    | cons statement remaining =>
      simp only [CreateCall.perform] at performed
      split at performed
      · obtain ⟨rfl, rfl⟩ := Prod.mk.inj (Option.some.inj performed)
        exact ⟨listed_same listed rfl fun _ => trivial, fun _ => .inl rfl⟩
      · obtain ⟨rfl, rfl⟩ := Prod.mk.inj (Option.some.inj performed)
        exact ⟨listed_same listed rfl fun _ => trivial, fun _ => .inl rfl⟩
  | verifyingMetadata inode =>
    obtain ⟨rfl, rfl⟩ := Prod.mk.inj (Option.some.inj performed)
    refine ⟨listed_same listed rfl fun _ => ?_, fun _ => ?_⟩ <;> split <;> first | trivial | exact .inl rfl
  | listingTables inode =>
    obtain ⟨rfl, rfl⟩ := Prod.mk.inj (Option.some.inj performed)
    refine ⟨listed_same listed rfl fun _ => ?_, fun _ => ?_⟩ <;> split <;> first | trivial | exact .inl rfl
  | checkingTables inode remaining =>
    cases remaining with
    | nil =>
      obtain ⟨rfl, rfl⟩ := Prod.mk.inj (Option.some.inj performed)
      exact ⟨listed_same listed rfl fun _ => trivial, fun _ => .inl rfl⟩
    | cons entry remaining =>
      obtain ⟨rfl, rfl⟩ := Prod.mk.inj (Option.some.inj performed)
      refine ⟨listed_same listed rfl fun _ => ?_, fun _ => ?_⟩ <;> split <;> first | trivial | exact .inl rfl
  | openingManifest inode =>
    simp only [CreateCall.perform] at performed
    split at performed
    · rename_i folder found
      obtain ⟨rfl, rfl⟩ := Prod.mk.inj (Option.some.inj performed)
      exact ⟨listed_put (listed folder found).1 trivial, fun _ => .inl rfl⟩
    · obtain ⟨rfl, rfl⟩ := Prod.mk.inj (Option.some.inj performed)
      exact ⟨listed_same listed rfl fun _ => trivial, fun _ => .inl rfl⟩
  | writingManifest inode remaining =>
    cases remaining with
    | nil =>
      obtain ⟨rfl, rfl⟩ := Prod.mk.inj (Option.some.inj performed)
      exact ⟨listed_same listed rfl fun _ => trivial, fun _ => .inl rfl⟩
    | cons first rest =>
      simp only [CreateCall.perform] at performed
      split at performed
      · rename_i folder found
        obtain ⟨rfl, rfl⟩ := Prod.mk.inj (Option.some.inj performed)
        exact ⟨listed_put (listed folder found).1 trivial, fun _ => .inl rfl⟩
      · obtain ⟨rfl, rfl⟩ := Prod.mk.inj (Option.some.inj performed)
        exact ⟨listed_same listed rfl fun _ => trivial, fun _ => .inl rfl⟩
  | scanning error =>
    obtain ⟨rfl, rfl⟩ := Prod.mk.inj (Option.some.inj performed)
    refine ⟨fun folder found => ⟨(listed folder found).1, ?_⟩, fun _ => .inl rfl⟩
    rw [found]
    rfl
  | removing remaining error =>
    obtain ⟨folder, found⟩ := sound
    obtain ⟨distinct, clears⟩ := listed folder found
    cases remaining with
    | nil =>
      obtain ⟨rfl, rfl⟩ := Prod.mk.inj (Option.some.inj performed)
      refine ⟨fun other found' => ?_, fun _ => .inl rfl⟩
      obtain rfl := Option.some.inj (found.symm.trans found')
      exact ⟨distinct, names_empty clears.symm⟩
    | cons first rest =>
      simp only [CreateCall.perform, found] at performed
      obtain ⟨rfl, rfl⟩ := Prod.mk.inj (Option.some.inj performed)
      refine ⟨listed_put (remove_directories distinct) ?_, fun _ => .inl rfl⟩
      exact remove_eraseIdx distinct clears (Nat.mod_lt _ (Nat.succ_pos _))
  | removingRoot error =>
    obtain ⟨folder, found⟩ := sound
    obtain rfl := (listed folder found).2
    simp only [CreateCall.perform, found, if_true] at performed
    obtain ⟨rfl, rfl⟩ := Prod.mk.inj (Option.some.inj performed)
    exact ⟨fun _ found => (by cases found), fun _ => .inr rfl⟩
  | returned inode => cases performed
  | raised error => cases performed
  | _ =>
    obtain ⟨rfl, rfl⟩ := Prod.mk.inj (Option.some.inj performed)
    exact ⟨listed_same listed rfl fun _ => trivial, fun _ => .inl rfl⟩

omit [DecidableEq Caller] in
theorem failed_clears (kept : call.clearing = false) (folder : Folder) : call.failed.Clears folder := by
  cases call with
  | scanning error => cases kept
  | removing remaining error => cases kept
  | removingRoot error => cases kept
  | _ => trivial

omit [DecidableEq Caller] in
theorem failed_keeps (kept : call.clearing = false) (unclosed : ∀ inode error, call ≠ .closing inode error)
    (owns : call.owns = true) : call.failed.owns = true := by
  cases call with
  | scanning error => cases kept
  | removing remaining error => cases kept
  | removingRoot error => cases kept
  | closing inode error => exact absurd rfl (unclosed inode error)
  | validating => cases owns
  | makingRoot => cases owns
  | raised error => cases owns
  | _ => rfl

/-- The same, where no removal fails. -/
theorem advance_listed (sound : call.Sound creation caller disk) (listed : disk.Listed call)
    (cleared : call.clearing = true → answer.outcome = .done)
    (moved : call.advance creation caller answer disk = some (after, next)) :
    after.Listed next ∧ (call.owns = true → next.owns = true ∨ after.root = none) := by
  have unclearing (faulted : answer.outcome ≠ .done) : call.clearing = false := by
    cases clearing : call.clearing with
    | false => rfl
    | true => exact absurd (cleared clearing) faulted
  cases advance_comes moved with
  | performed done => exact perform_listed sound listed done
  | failed faulted unclosed =>
    exact ⟨listed_same listed rfl (failed_clears (unclearing faulted)),
      fun owns => .inl (failed_keeps (unclearing faulted) unclosed owns)⟩
  | unscanned faulted => cases unclearing faulted
  | passed faulted => cases unclearing faulted
  | aborted faulted owns connected led =>
    rw [led]
    exact ⟨listed_same listed rfl fun _ => trivial, fun _ => .inl rfl⟩

end Creators

section Readers

variable {Caller : Type} [DecidableEq Caller] {caller : Caller} {outcome : Outcome} {disk after : Disk Caller}
variable {place target : ProjectOpenCall}

private theorem performed_root (performed : place.perform caller disk = some (after, target)) :
    (∃ manifest, place = .connecting manifest) ∨ after.root = disk.root := by
  cases place with
  | connecting manifest => exact .inl ⟨manifest, rfl⟩
  | readingManifest =>
    refine .inr ?_
    simp only [ProjectOpenCall.perform] at performed
    split at performed
    · obtain ⟨rfl, rfl⟩ := Prod.mk.inj (Option.some.inj performed)
      rfl
    · split at performed
      · obtain ⟨rfl, rfl⟩ := Prod.mk.inj (Option.some.inj performed)
        rfl
      · obtain ⟨rfl, rfl⟩ := Prod.mk.inj (Option.some.inj performed)
        rfl
  | opening manifest inode call =>
    obtain ⟨step, -, same⟩ := Option.map_eq_some_iff.mp performed
    obtain ⟨rfl, rfl⟩ := Prod.mk.inj same
    exact .inr rfl
  | returned manifest metadata => cases performed
  | raised error => cases performed
  | _ =>
    obtain ⟨rfl, rfl⟩ := Prod.mk.inj (Option.some.inj performed)
    exact .inr rfl

/-- A call of `open` touches the directory only where it connects. -/
theorem open_root (moved : place.advance caller outcome disk = some (after, target)) :
    (∃ manifest, place = .connecting manifest) ∨ after.root = disk.root := by
  unfold ProjectOpenCall.advance at moved
  split at moved
  · cases moved
  · cases moved
  · obtain ⟨step, -, same⟩ := Option.map_eq_some_iff.mp moved
    obtain ⟨rfl, rfl⟩ := Prod.mk.inj same
    exact .inr rfl
  · exact performed_root moved
  · exact performed_root moved
  · obtain ⟨rfl, rfl⟩ := Prod.mk.inj (Option.some.inj moved)
    exact .inr rfl

end Readers

namespace Lifecycle

variable {Caller : Type} [DecidableEq Caller] {state start next : Lifecycle Caller}
variable {label : Caller × Answer} {output : Unit} {trace : List ((Caller × Answer) × Unit)}

/-- The removals of a creation go through, and a call of `open` connects only where there is a database. -/
def Unhindered (state : Lifecycle Caller) (label : Caller × Answer) : Prop :=
  (∀ creation place, state.call label.1 = .creating creation place → place.clearing = true →
      label.2.outcome = .done) ∧
    ∀ manifest folder, state.call label.1 = .opening (.connecting manifest) → state.disk.folder = some folder →
      folder.database ≠ none

/-- Nothing is at the path, or a creation owns it; and what owns it misses none of what is there. -/
structure Tidy (state : Lifecycle Caller) : Prop where
  known : state.Invariant
  listed : ∀ caller creation place, state.call caller = .creating creation place → state.disk.Listed place
  owned : state.disk.root = none ∨ ∃ caller, state.Owner caller

omit [DecidableEq Caller] in
theorem Start.tidy (started : Start state) : Tidy state where
  known := started.invariant
  listed caller creation place _ folder found := by
    rw [started.nothing] at found
    cases found
  owned := by
    rw [started.nothing]
    exact .inl rfl

omit [DecidableEq Caller] in
/-- A call that does not own the path removes nothing of it. -/
theorem idle_clears {place : CreateCall} (idle : place.owns = false) (folder : Folder) : place.Clears folder := by
  cases place with
  | removing remaining error => cases idle
  | removingRoot error => cases idle
  | _ => trivial

theorem create_tidy {creation : Creation} {place target : CreateCall} (tidy : state.Tidy)
    (unhindered : state.Unhindered label) (inv : next.Invariant)
    (named : state.call label.1 = .creating creation place)
    (advanced : place.advance creation label.1 label.2 state.disk = some (next.disk, target))
    (calls : next.call = Function.update state.call label.1 (.creating creation target)) : next.Tidy := by
  have moved := create_moved tidy.known named advanced
  obtain ⟨listed, given⟩ := advance_listed (tidy.known.creating _ _ _ named) (tidy.listed _ _ _ named)
    (unhindered.1 creation place named) advanced
  have here : next.call label.1 = .creating creation target := by rw [calls, Function.update_self]
  have away (other : Caller) (different : other ≠ label.1) : next.call other = state.call other := by
    rw [calls, Function.update_of_ne different]
  refine ⟨inv, ?_, ?_⟩
  · intro other creation' place' named'
    by_cases same : other = label.1
    · subst same
      obtain ⟨-, rfl⟩ := ProjectCall.creating.inj (here.symm.trans named')
      exact listed
    · cases owns : place'.owns with
      | false => exact fun folder found => ⟨(listed folder found).1, idle_clears owns folder⟩
      | true =>
        have named'' := (away other same).symm.trans named'
        -- The owner is another call, so that this effect has changed nothing.
        have idle : target.owns = false := by
          cases taken : target.owns with
          | false => rfl
          | true => exact absurd (inv.exclusive other label.1 ⟨_, _, named', owns⟩ ⟨_, _, here, taken⟩) same
        have still : place.owns = false := by
          cases held : place.owns with
          | false => rfl
          | true =>
            exact absurd (tidy.known.exclusive other label.1 ⟨_, _, named'', owns⟩ ⟨_, _, named, held⟩) same
        rw [moved.idle still idle]
        exact tidy.listed _ _ _ named''
  · cases taken : target.owns with
    | true => exact .inr ⟨label.1, creation, target, here, taken⟩
    | false =>
      cases held : place.owns with
      | true =>
        rcases given held with taken' | free
        · cases taken.symm.trans taken'
        · exact .inl free
      | false =>
        rw [moved.idle held taken]
        refine tidy.owned.imp_right ?_
        rintro ⟨owner, creation', place', named', owns⟩
        have different : owner ≠ label.1 := by
          rintro rfl
          obtain ⟨-, rfl⟩ := ProjectCall.creating.inj (named.symm.trans named')
          cases held.symm.trans owns
        exact ⟨owner, creation', place', (away owner different).trans named', owns⟩

private theorem open_tidy {place target : ProjectOpenCall} (tidy : state.Tidy) (unhindered : state.Unhindered label)
    (inv : next.Invariant) (named : state.call label.1 = .opening place)
    (advanced : place.advance label.1 label.2.outcome state.disk = some (next.disk, target))
    (calls : next.call = Function.update state.call label.1 (.opening target)) : next.Tidy := by
  have here : next.call label.1 = .opening target := by rw [calls, Function.update_self]
  have away (other : Caller) (different : other ≠ label.1) : next.call other = state.call other := by
    rw [calls, Function.update_of_ne different]
  have root : next.disk.root = state.disk.root := by
    rcases open_root advanced with ⟨manifest, rfl⟩ | same
    · have changed := open_moved (tidy.known.opening _ _ named) tidy.known.files (open_outside tidy.known named) advanced
      rcases changed.2 with same | linked
      · rw [same]
      · obtain ⟨folder, _, before, missing, _⟩ := linked.root
        exact absurd missing (unhindered.2 manifest folder named (folder_eq.mpr before))
    · exact same
  refine ⟨inv, ?_, ?_⟩
  · intro other creation place' named' folder found
    have different : other ≠ label.1 := by
      rintro rfl
      cases here.symm.trans named'
    rw [folder_eq, root, ← folder_eq] at found
    exact tidy.listed other creation place' ((away other different).symm.trans named') folder found
  · rw [root]
    refine tidy.owned.imp_right ?_
    rintro ⟨owner, creation, place', named', owns⟩
    have different : owner ≠ label.1 := by
      rintro rfl
      cases named.symm.trans named'
    exact ⟨owner, creation, place', (away owner different).trans named', owns⟩

theorem step_tidy (tidy : state.Tidy) (unhindered : state.Unhindered label)
    (moved : state.step label = some (next, output)) : next.Tidy := by
  have inv := step_invariant tidy.known moved
  rcases step_cases moved with ⟨creation, place, target, named, advanced, calls⟩ |
    ⟨place, target, named, advanced, calls⟩
  · exact create_tidy tidy unhindered inv named advanced calls
  · exact open_tidy tidy unhindered inv named advanced calls

/-- Where removals go through and no call of `open` connects to a database that is missing, a failed creation leaves
nothing behind: at every moment there is nothing at the path, or a creation that has not raised owns it. -/
theorem failed_creation_cleared (started : Start start) (run : Path step Unhindered start trace state) :
    state.disk.root = none ∨ ∃ caller creation place, state.call caller = .creating creation place ∧
      place.owns = true :=
  (run.preserves Tidy (fun _ _ _ _ held admitted moved => step_tidy held admitted moved) started.tidy).owned

def unhindered (state : Lifecycle Bool) (label : Bool × Answer) : Bool :=
  match state.call label.1 with
  | .creating _ place => !place.clearing || label.2.outcome == .done
  | .opening (.connecting _) => state.disk.folder.all fun folder => folder.database.isSome
  | _ => true

private theorem unhindered_sound (state : Lifecycle Bool) (label : Bool × Answer)
    (passed : unhindered state label = true) :
    state.Unhindered label := by
  constructor
  · intro creation place named clearing
    simp only [unhindered, named, clearing, Bool.not_true, Bool.false_or, beq_iff_eq] at passed
    exact passed
  · intro manifest folder named found
    simp only [unhindered, named, found, Option.all_some] at passed
    exact Option.isSome_iff_ne_none.mp passed

/-- The commit of a creation is aborted, and its directory removed. -/
theorem failed_creation_cleared_aborted :
    ∃ trace state, Path step Unhindered (creatingAndOpening sample) trace state ∧
      bothCalls state = (.creating sample (.raised databaseNotInitialized), .opening .checkingRoot) ∧
      state.disk.root = none := by
  have evaluated : (followWithin step unhindered (creatingAndOpening sample) (List.replicate 19 (true, ⟨.done, 0⟩) ++
      [(true, ⟨.aborts, 0⟩)] ++ List.replicate 13 (true, ⟨.done, 0⟩))).map (fun reached => bothCalls reached.1) =
        some (.creating sample (.raised databaseNotInitialized), .opening .checkingRoot) := by
    decide +kernel
  obtain ⟨trace, state, run, seen⟩ :=
    Path.observedWithin _ (fun reached => bothCalls reached.1) _ unhindered_sound evaluated
  refine ⟨trace, state, run, seen, ?_⟩
  obtain ⟨created, opening⟩ := Prod.mk.inj seen
  rcases failed_creation_cleared (creatingAndOpening_start sample) run with free | ⟨caller, creation, place, named, owns⟩
  · exact free
  · cases caller with
    | false => cases opening.symm.trans named
    | true =>
      obtain ⟨-, rfl⟩ := ProjectCall.creating.inj (created.symm.trans named)
      cases owns

end Lifecycle

end CanX.Project
