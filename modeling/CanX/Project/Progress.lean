import CanX.Project.Ownership
import CanX.Transition.Budget

/-! Calls on a project path that meet no failure of their own: a creation that owns the path completes, and a project
that a creation has returned is opened, whatever the other calls do in between. -/

namespace CanX.Project

open Data Dbc Storage Transition

section Creators

variable {Caller : Type} [DecidableEq Caller] {creation : Creation} {caller : Caller} {disk : Disk Caller}
variable {call : CreateCall} {inode count : Nat}

namespace CreateCall

/-- The places of a creation that owns the path and has met no failure. -/
def onCourse : CreateCall → Bool
  | makingDirectories _ | connecting | enforcingKeys _ | beginning _ | creatingTables .. | stamping _ | committing _
  | verifyingMetadata _ | listingTables _ | checkingTables .. | openingManifest _ | writingManifest ..
  | returned _ => true
  | _ => false

/-- At most this many effects are left while none fails. -/
def remaining (creation : Creation) : CreateCall → ℕ
  | makingDirectories directories =>
    directories.length + createdTables.length + schemaTables.length + (manifestText creation.manifest).length + 12
  | connecting => createdTables.length + schemaTables.length + (manifestText creation.manifest).length + 11
  | enforcingKeys _ => createdTables.length + schemaTables.length + (manifestText creation.manifest).length + 10
  | beginning _ => createdTables.length + schemaTables.length + (manifestText creation.manifest).length + 9
  | creatingTables _ tables =>
    tables.length + schemaTables.length + (manifestText creation.manifest).length + 8
  | stamping _ => schemaTables.length + (manifestText creation.manifest).length + 7
  | committing _ => schemaTables.length + (manifestText creation.manifest).length + 6
  | verifyingMetadata _ => schemaTables.length + (manifestText creation.manifest).length + 5
  | listingTables _ => schemaTables.length + (manifestText creation.manifest).length + 4
  | checkingTables _ tables => tables.length + (manifestText creation.manifest).length + 3
  | openingManifest _ => (manifestText creation.manifest).length + 2
  | writingManifest _ characters => characters.length + 1
  | _ => 0

end CreateCall

omit [DecidableEq Caller] in
theorem settled_outside (settled : disk.Settled creation inode) (content : Contents) :
    ¬ (disk.store inode).Holds caller content := by
  intro holds
  rw [Shared.Holds, settled.2] at holds
  cases holds

theorem settled_version (caller : Caller) (settled : disk.Settled creation inode) :
    ProjectDatabase.AtVersion ((disk.store inode).visible caller) databaseSchemaVersion := by
  rw [Shared.visible_committed (settled_outside settled)]
  exact settled.1.atVersion

theorem advance_done : call.advance creation caller ⟨.done, count⟩ disk = call.perform creation caller count disk := by
  cases call with
  | makingDirectories remaining => cases remaining <;> rfl
  | checkingTables inode remaining => cases remaining <;> rfl
  | _ => rfl

/-- The next effect of a creation on its course goes through. -/
theorem create_performs (count : ℕ) (stored : creation.displayName.encodable = true)
    (sound : call.Sound creation caller disk) (course : call.onCourse = true) :
    (∃ inode, call = .returned inode) ∨ ∃ after next, call.perform creation caller count disk = some (after, next) ∧
      next.onCourse = true ∧ next.remaining creation < call.remaining creation := by
  cases call with
  | makingDirectories remaining =>
    obtain ⟨made, chain, database, root, -⟩ := sound
    cases remaining with
    | nil =>
      refine .inr ⟨_, _, rfl, rfl, ?_⟩
      simp only [CreateCall.remaining, List.length_nil]
      omega
    | cons name remaining =>
      have distinct : projectDirectoryNames.Nodup := by decide
      rw [← chain] at distinct
      have new : name ∉ made := fun member =>
        (List.nodup_append.mp distinct).2.2 name member name List.mem_cons_self rfl
      refine .inr ⟨disk.put ⟨made ++ [name], database, none⟩, .makingDirectories remaining, ?_, rfl, ?_⟩
      · simp only [CreateCall.perform, folder_eq.mpr root]
        exact if_neg new
      · simp only [CreateCall.remaining, List.length_cons]
        omega
  | connecting =>
    obtain ⟨database, root, -⟩ := sound
    have connected : ∃ connected, disk.connect = some connected := by
      rw [Disk.connect, folder_eq.mpr root]
      exact ⟨_, rfl⟩
    obtain ⟨connected, made⟩ := connected
    refine .inr ⟨connected.1, .enforcingKeys connected.2, ?_, rfl, Nat.lt_succ_self _⟩
    simp only [CreateCall.perform, made]
  | enforcingKeys inode => exact .inr ⟨_, _, rfl, rfl, Nat.lt_succ_self _⟩
  | beginning inode =>
    refine .inr ⟨disk.update inode ⟨.empty, some (caller, .empty)⟩, .creatingTables inode createdTables, ?_, rfl, ?_⟩
    · simp only [CreateCall.perform, sound.2, Shared.begin, Option.map_some]
    · simp only [CreateCall.remaining]
      omega
  | creatingTables inode remaining =>
    obtain ⟨applied, written, chain, extended, writing⟩ := sound
    have visible := writing.2.2.visible
    cases remaining with
    | nil =>
      rw [List.append_nil] at chain
      subst chain
      obtain ⟨inserted, put, -⟩ := extended.inserts creation
      refine .inr ⟨disk.update inode ((disk.store inode).write caller inserted), .stamping inode, ?_, rfl, ?_⟩
      · simp only [CreateCall.perform, visible, put, stored, if_true]
      · simp only [CreateCall.remaining, List.length_nil]
        omega
    | cons statement remaining =>
      obtain ⟨created, made⟩ := extended.creates chain
      refine .inr ⟨disk.update inode ((disk.store inode).write caller created), .creatingTables inode remaining, ?_,
        rfl, ?_⟩
      · simp only [CreateCall.perform, visible, made]
      · simp only [CreateCall.remaining, List.length_cons]
        omega
  | stamping inode => exact .inr ⟨_, _, rfl, rfl, Nat.lt_succ_self _⟩
  | committing inode => exact .inr ⟨_, _, rfl, rfl, Nat.lt_succ_self _⟩
  | verifyingMetadata inode =>
    have whole := AtVersion.metadata (settled_version caller sound.2)
    refine .inr ⟨disk, .listingTables inode, ?_, rfl, Nat.lt_succ_self _⟩
    simp only [CreateCall.perform, whole, if_true]
  | listingTables inode =>
    have whole := AtVersion.missingTables (settled_version caller sound.2)
    refine .inr ⟨disk, .checkingTables inode schemaTables, ?_, rfl, Nat.lt_succ_self _⟩
    simp only [CreateCall.perform, whole, if_true]
  | checkingTables inode remaining =>
    cases remaining with
    | nil =>
      refine .inr ⟨_, _, rfl, rfl, ?_⟩
      simp only [CreateCall.remaining, List.length_nil]
      omega
    | cons entry remaining =>
      have whole := AtVersion.columns (settled_version caller sound.2.2)
        (List.cons_subset.mp sound.1).1
      refine .inr ⟨disk, .checkingTables inode remaining, ?_, rfl, ?_⟩
      · simp only [CreateCall.perform, whole, if_true]
      · simp only [CreateCall.remaining, List.length_cons]
        omega
  | openingManifest inode =>
    refine .inr ⟨disk.put ⟨projectDirectoryNames, some inode, some []⟩,
      .writingManifest inode (manifestText creation.manifest), ?_, rfl, Nat.lt_succ_self _⟩
    simp only [CreateCall.perform, folder_eq.mpr sound.1.1]
  | writingManifest inode remaining =>
    obtain ⟨written, -, laid, -⟩ := sound
    cases remaining with
    | nil => exact .inr ⟨_, _, rfl, rfl, Nat.lt_succ_self _⟩
    | cons first rest =>
      refine .inr ⟨disk.put ⟨projectDirectoryNames, some inode, some (written ++ (first :: rest).take (count + 1))⟩,
        .writingManifest inode ((first :: rest).drop (count + 1)), ?_, rfl, ?_⟩
      · simp only [CreateCall.perform, folder_eq.mpr laid.1, Option.map_some]
      · simp only [CreateCall.remaining, List.length_drop, List.length_cons]
        omega
  | returned inode => exact .inl ⟨inode, rfl⟩
  | _ => cases course

end Creators

section Readers

variable {Caller : Type} [DecidableEq Caller] {creation : Creation} {caller : Caller} {disk : Disk Caller}
variable {place : ProjectOpenCall} {inode : Nat}

/-- The places of `open_database` on a file of the current version. -/
def OpenCall.Current : OpenCall → Prop
  | .connecting | .readingVersion | .recheckingMetadata | .listingTables => True
  | .checkingTables remaining => remaining ⊆ schemaTables
  | _ => False

namespace ProjectOpenCall

/-- The places of a call of `open` on a project that a creation has returned. -/
def Expected (creation : Creation) (inode : Nat) : ProjectOpenCall → Prop
  | checkingRoot | checkingDirectory | checkingManifest | readingManifest => True
  | checkingDatabase manifest | connecting manifest => manifest = creation.manifest
  | opening manifest file call => manifest = creation.manifest ∧ file = inode ∧ call.Current
  | readingMetadata manifest file => manifest = creation.manifest ∧ file = inode
  | returned manifest metadata => manifest = creation.manifest ∧ metadata = creation.metadata
  | closing .. | raised _ => False

/-- The effects left on such a project while none fails. -/
def remaining : ProjectOpenCall → ℕ
  | checkingRoot => schemaTables.length + 12
  | checkingDirectory => schemaTables.length + 11
  | checkingManifest => schemaTables.length + 10
  | readingManifest => schemaTables.length + 9
  | checkingDatabase _ => schemaTables.length + 8
  | connecting _ => schemaTables.length + 7
  | opening _ _ .connecting => schemaTables.length + 6
  | opening _ _ .readingVersion => schemaTables.length + 5
  | opening _ _ .recheckingMetadata => schemaTables.length + 4
  | opening _ _ .listingTables => schemaTables.length + 3
  | opening _ _ (.checkingTables tables) => tables.length + 2
  | readingMetadata .. => 1
  | _ => 0

end ProjectOpenCall

/-- The next effect of a call of `open` on a project that a creation has returned. -/
theorem open_performs (caller : Caller) (laid : disk.Laid inode (some (manifestText creation.manifest)))
    (settled : disk.Settled creation inode) (expected : place.Expected creation inode) :
    place = .returned creation.manifest creation.metadata ∨
      ∃ next, place.advance caller .done disk = some (disk, next) ∧ next.Expected creation inode ∧
        next.remaining + 1 = place.remaining := by
  have folder := folder_eq.mpr laid.1
  have visible : (disk.store inode).visible caller = (disk.store inode).committed :=
    Shared.visible_committed (settled_outside settled)
  have whole := settled.1.atVersion
  cases place with
  | checkingRoot =>
    refine .inr ⟨.checkingDirectory, ?_, trivial, rfl⟩
    simp only [ProjectOpenCall.advance, ProjectOpenCall.perform, laid.1, reduceCtorEq, if_false]
  | checkingDirectory =>
    refine .inr ⟨.checkingManifest, ?_, trivial, rfl⟩
    simp only [ProjectOpenCall.advance, ProjectOpenCall.perform, folder, reduceCtorEq, if_false]
  | checkingManifest =>
    refine .inr ⟨.readingManifest, ?_, trivial, rfl⟩
    simp only [ProjectOpenCall.advance, ProjectOpenCall.perform, folder, Option.bind_some, reduceCtorEq, if_false]
  | readingManifest =>
    refine .inr ⟨.checkingDatabase creation.manifest, ?_, rfl, rfl⟩
    simp only [ProjectOpenCall.advance, ProjectOpenCall.perform, folder, Option.bind_some,
      readManifest_written creation.sound]
  | checkingDatabase manifest =>
    refine .inr ⟨.connecting manifest, ?_, expected, rfl⟩
    simp only [ProjectOpenCall.advance, ProjectOpenCall.perform, folder, Option.bind_some, reduceCtorEq, if_false]
  | connecting manifest =>
    refine .inr ⟨.opening manifest inode .connecting, ?_, ⟨expected, rfl, trivial⟩, rfl⟩
    simp only [ProjectOpenCall.advance, ProjectOpenCall.perform, Disk.connect, folder, Option.map_some]
  | opening manifest file call =>
    obtain ⟨same, rfl, current⟩ := expected
    have advances {next : OpenCall} (performed : call.perform caller (disk.store file) = some (disk.store file, next))
        (done : call.advance caller .done (disk.store file) = call.perform caller (disk.store file)) :
        (ProjectOpenCall.opening manifest file call).advance caller .done disk =
          some (disk, .after manifest file next) := by
      simp only [ProjectOpenCall.advance, done, performed, Option.map_some, update_self]
    cases call with
    | connecting => exact .inr ⟨_, advances rfl rfl, ⟨same, rfl, trivial⟩, rfl⟩
    | readingVersion =>
      have performed : OpenCall.readingVersion.perform caller (disk.store file) =
          some (disk.store file, .recheckingMetadata) := by
        rw [OpenCall.perform, visible, settled.1.version]
        rfl
      exact .inr ⟨_, advances performed rfl, ⟨same, rfl, trivial⟩, rfl⟩
    | recheckingMetadata =>
      have performed : OpenCall.recheckingMetadata.perform caller (disk.store file) =
          some (disk.store file, .listingTables) := by
        rw [OpenCall.perform, visible, if_pos (AtVersion.metadata whole)]
      exact .inr ⟨_, advances performed rfl, ⟨same, rfl, trivial⟩, rfl⟩
    | listingTables =>
      have performed : OpenCall.listingTables.perform caller (disk.store file) =
          some (disk.store file, .checkingTables schemaTables) := by
        rw [OpenCall.perform, visible, if_pos (AtVersion.missingTables whole)]
      exact .inr ⟨_, advances performed rfl, ⟨same, rfl, List.Subset.refl _⟩, rfl⟩
    | checkingTables remaining =>
      cases remaining with
      | nil => exact .inr ⟨_, advances rfl rfl, ⟨same, rfl⟩, rfl⟩
      | cons entry remaining =>
        obtain ⟨listed, others⟩ := List.cons_subset.mp current
        have performed : (OpenCall.checkingTables (entry :: remaining)).perform caller (disk.store file) =
            some (disk.store file, .checkingTables remaining) := by
          rw [OpenCall.perform, visible, if_pos (AtVersion.columns whole listed)]
        exact .inr ⟨_, advances performed rfl, ⟨same, rfl, others⟩, rfl⟩
    | _ => exact current.elim
  | readingMetadata manifest file =>
    obtain ⟨rfl, rfl⟩ := expected
    refine .inr ⟨.returned creation.manifest creation.metadata, ?_, ⟨Eq.refl _, Eq.refl _⟩, rfl⟩
    have matching : creation.metadata.projectId = creation.manifest.projectId := by
      rw [creation.metadata_projectId, Creation.manifest]
    simp only [ProjectOpenCall.advance, ProjectOpenCall.perform, visible, settled.1.rows,
      identified_own creation.normalized matching]
  | returned manifest metadata =>
    obtain ⟨sameManifest, sameMetadata⟩ := expected
    rw [sameManifest, sameMetadata]
    exact .inl (Eq.refl _)
  | closing file error => exact expected.elim
  | raised error => exact expected.elim

end Readers

namespace Lifecycle

variable {Caller : Type} [DecidableEq Caller] {start state next final : Lifecycle Caller} {creation : Creation}
variable {caller maker : Caller} {place : CreateCall} {inode : Nat} {label : Caller × Answer} {output : Unit}
variable {trace after : List ((Caller × Answer) × Unit)}

/-- The effect is one of the call's. -/
abbrev By (caller : Caller) (label : Caller × Answer) : Prop := label.1 = caller

/-- No effect of the call fails. -/
def Spared (caller : Caller) (_ : Lifecycle Caller) (label : Caller × Answer) : Prop :=
  By caller label → label.2.outcome = .done

/-- The effects a call has left while none fails. -/
def remaining (caller : Caller) (state : Lifecycle Caller) : ℕ :=
  match state.call caller with
  | .creating creation place => place.remaining creation
  | .opening place => place.remaining

theorem step_other (different : ¬ By caller label) (moved : state.step label = some (next, output)) :
    next.call caller = state.call caller := by
  rcases step_cases moved with ⟨_, _, _, -, -, calls⟩ | ⟨_, _, -, -, calls⟩
  · rw [calls, Function.update_of_ne (Ne.symm different)]
  · rw [calls, Function.update_of_ne (Ne.symm different)]

theorem remaining_other (different : ¬ By caller label) (moved : state.step label = some (next, output)) :
    next.remaining caller = state.remaining caller := by
  rw [remaining, remaining, step_other different moved]

/-- The creation owns the path and has met no failure. -/
structure Creating (creation : Creation) (caller : Caller) (state : Lifecycle Caller) : Prop where
  known : state.Invariant
  calling : ∃ place, state.call caller = .creating creation place ∧ place.onCourse = true

/-- The project is returned, and a call of `open` has met no failure on it. -/
structure Reading (creation : Creation) (inode : Nat) (maker caller : Caller) (state : Lifecycle Caller) : Prop where
  known : state.Invariant
  returned : state.call maker = .creating creation (.returned inode)
  calling : ∃ place, state.call caller = .opening place ∧ place.Expected creation inode

theorem Creating.step (creating : Creating creation caller state) (stored : creation.displayName.encodable = true)
    (count : ℕ) : (∃ inode, state.call caller = .creating creation (.returned inode)) ∨
      ∃ next, state.step (caller, ⟨.done, count⟩) = some (next, ()) ∧ Creating creation caller next ∧
        next.remaining caller + 1 ≤ state.remaining caller := by
  obtain ⟨inv, place, calling, course⟩ := creating
  rcases create_performs count stored (inv.creating _ _ _ calling) course with
    ⟨inode, rfl⟩ | ⟨after, next, performed, held, fewer⟩
  · exact .inl ⟨inode, calling⟩
  · have moved : state.step (caller, ⟨.done, count⟩) =
        some (⟨after, Function.update state.call caller (.creating creation next)⟩, ()) := by
      simp only [Lifecycle.step, calling, advance_done, performed, Option.map_some]
    refine .inr ⟨_, moved, ⟨step_invariant inv moved, next, Function.update_self .., held⟩, ?_⟩
    simp only [remaining, calling, Function.update_self]
    exact fewer

theorem Reading.step (reading : Reading creation inode maker caller state) (count : ℕ) :
    state.call caller = .opening (.returned creation.manifest creation.metadata) ∨
      ∃ next, state.step (caller, ⟨.done, count⟩) = some (next, ()) ∧ Reading creation inode maker caller next ∧
        next.remaining caller + 1 ≤ state.remaining caller := by
  obtain ⟨inv, returned, place, calling, expected⟩ := reading
  obtain ⟨laid, settled⟩ := inv.creating _ _ _ returned
  rcases open_performs caller laid settled expected with rfl | ⟨next, performed, held, fewer⟩
  · exact .inl calling
  · have moved : state.step (caller, ⟨.done, count⟩) =
        some (⟨state.disk, Function.update state.call caller (.opening next)⟩, ()) := by
      simp only [Lifecycle.step, calling, performed, Option.map_some]
    refine .inr ⟨_, moved, ⟨step_invariant inv moved, step_returned returned moved, next,
      Function.update_self .., held⟩, ?_⟩
    simp only [remaining, calling, Function.update_self]
    exact Nat.le_of_eq fewer

/-- A creation that owns the path and meets no failure stays on its course until it returns, whatever the other calls
do: it is never refused an effect and never waits, and the effects it has left are bounded. -/
theorem creation_completes (started : Start start) (run : Path step anyLabel start trace state)
    (calling : state.call caller = .creating creation place) (course : place.onCourse = true)
    (stored : creation.displayName.encodable = true) (later : Path step (Spared caller) state after final) :
    ∃ next, final.call caller = .creating creation next ∧ next.onCourse = true ∧
      next.remaining creation + ownSteps (By caller) after ≤ place.remaining creation ∧
      ((∃ inode, next = .returned inode) ∨ ∀ count, (final.step (caller, ⟨.done, count⟩)).isSome) := by
  have initial : Creating creation caller state := ⟨run_invariant started.invariant run, place, calling, course⟩
  obtain ⟨held, bounded⟩ := later.spends (By caller) (Creating creation caller) (remaining caller) initial
    (fun middle label target output creating spared own moved => by
      obtain ⟨party, outcome, count⟩ := label
      obtain rfl : outcome = .done := spared own
      obtain rfl : party = caller := own
      rcases creating.step stored count with ⟨inode, returned⟩ | ⟨next, stepped, held, fewer⟩
      · simp only [Lifecycle.step, returned, CreateCall.advance, Option.map_none, reduceCtorEq] at moved
      · obtain ⟨rfl, -⟩ := Prod.mk.inj (Option.some.inj (moved.symm.trans stepped))
        exact ⟨held, fewer⟩)
    (fun middle label target output creating _ other moved =>
      ⟨⟨step_invariant creating.known moved, by rw [step_other other moved]; exact creating.calling⟩,
        Nat.le_of_eq (remaining_other other moved)⟩)
  obtain ⟨next, named, kept⟩ := held.calling
  simp only [remaining, named, calling] at bounded
  refine ⟨next, named, kept, bounded, ?_⟩
  by_cases finished : ∃ inode, next = .returned inode
  · exact .inl finished
  · refine .inr fun count => ?_
    rcases held.step stored count with ⟨inode, returned⟩ | ⟨_, stepped, -⟩
    · obtain ⟨-, same⟩ := ProjectCall.creating.inj (named.symm.trans returned)
      exact absurd ⟨inode, same⟩ finished
    · rw [stepped]
      rfl

def spared (caller : Bool) (_ : Lifecycle Bool) (label : Bool × Answer) : Bool :=
  label.1 != caller || label.2.outcome == .done

theorem spared_sound (caller : Bool) (state : Lifecycle Bool) (label : Bool × Answer)
    (passed : spared caller state label = true) : Spared caller state label := by
  intro own
  rw [spared, Bool.or_eq_true, bne_iff_ne, beq_iff_eq] at passed
  exact passed.resolve_left (not_not.mpr own)

/-- A creation that has made its directory, next to a call of `open` that finds no manifest in it. -/
theorem creation_completes_watched :
    ∃ trace after state final, Path step anyLabel (creatingAndOpening sample) trace state ∧
      Path step (Spared true) state after final ∧
      state.call true = .creating sample (.makingDirectories projectDirectoryNames) ∧
      final.call true = .creating sample (.returned 0) ∧ final.call false = .opening (.raised manifestMissing) ∧
      ownSteps (By true) after ≤ (CreateCall.makingDirectories projectDirectoryNames).remaining sample := by
  have evaluated : (follow step (creatingAndOpening sample) (List.replicate 2 (true, ⟨.done, 0⟩))).bind (fun reached =>
      (followWithin step (spared true) reached.1 (List.replicate 3 (false, ⟨.done, 0⟩) ++
        List.replicate 27 (true, ⟨.done, 1000⟩))).map fun last => (bothCalls reached.1, bothCalls last.1)) =
      some ((.creating sample (.makingDirectories projectDirectoryNames), .opening .checkingRoot),
        (.creating sample (.returned 0), .opening (.raised manifestMissing))) := by
    decide +kernel
  obtain ⟨trace, after, state, final, run, later, early, late⟩ :=
    Path.observed_then _ _ bothCalls _ _ (spared_sound true) evaluated
  obtain ⟨making, -⟩ := Prod.mk.inj early
  obtain ⟨created, raised⟩ := Prod.mk.inj late
  obtain ⟨next, -, -, bounded, -⟩ :=
    creation_completes (creatingAndOpening_start sample) run making (by decide) (by decide +kernel) later
  exact ⟨trace, after, state, final, run, later, making, created, raised, by omega⟩

/-- Once a creation has returned, a call of `open` whose own effects do not fail is never refused and never waits, and
returns the manifest and the row of that creation, whatever the other calls do. -/
theorem created_opens (started : Start start) (run : Path step anyLabel start trace state)
    (returned : state.call maker = .creating creation (.returned inode))
    (calling : state.call caller = .opening .checkingRoot) (later : Path step (Spared caller) state after final) :
    ownSteps (By caller) after ≤ schemaTables.length + 12 ∧
      (final.call caller = .opening (.returned creation.manifest creation.metadata) ∨
        ownSteps (By caller) after < schemaTables.length + 12 ∧
          ∀ count, (final.step (caller, ⟨.done, count⟩)).isSome) := by
  have initial : Reading creation inode maker caller state :=
    ⟨run_invariant started.invariant run, returned, .checkingRoot, calling, trivial⟩
  obtain ⟨held, bounded⟩ := later.spends (By caller) (Reading creation inode maker caller) (remaining caller) initial
    (fun middle label target output reading spared own moved => by
      obtain ⟨party, outcome, count⟩ := label
      obtain rfl : outcome = .done := spared own
      obtain rfl : party = caller := own
      rcases reading.step count with opened | ⟨next, stepped, held, fewer⟩
      · simp only [Lifecycle.step, opened, ProjectOpenCall.advance, Option.map_none, reduceCtorEq] at moved
      · obtain ⟨rfl, -⟩ := Prod.mk.inj (Option.some.inj (moved.symm.trans stepped))
        exact ⟨held, fewer⟩)
    (fun middle label target output reading _ other moved =>
      ⟨⟨step_invariant reading.known moved, step_returned reading.returned moved,
        by rw [step_other other moved]; exact reading.calling⟩, Nat.le_of_eq (remaining_other other moved)⟩)
  have first : state.remaining caller = schemaTables.length + 12 := by
    rw [remaining, calling]
    rfl
  rw [first] at bounded
  refine ⟨by omega, ?_⟩
  rcases held.step 0 with opened | ⟨next, _, _, fewer⟩
  · exact .inl opened
  · refine .inr ⟨by omega, fun count => ?_⟩
    rcases held.step count with opened | ⟨_, stepped, -⟩
    · have ended : final.remaining caller = 0 := by
        rw [remaining, opened]
        rfl
      omega
    · rw [stepped]
      rfl

/-- The other caller opens what has been created. -/
theorem created_opens_successive :
    ∃ trace after state final, Path step anyLabel (creatingAndOpening sample) trace state ∧
      Path step (Spared false) state after final ∧ state.call true = .creating sample (.returned 0) ∧
      final.call false = .opening (.returned sample.manifest sample.metadata) ∧
      ownSteps (By false) after ≤ schemaTables.length + 12 := by
  have evaluated : (follow step (creatingAndOpening sample) (List.replicate 29 (true, ⟨.done, 1000⟩))).bind
      (fun reached => (followWithin step (spared false) reached.1 (List.replicate 15 (false, ⟨.done, 0⟩))).map
        fun last => (bothCalls reached.1, bothCalls last.1)) =
      some ((.creating sample (.returned 0), .opening .checkingRoot),
        (.creating sample (.returned 0), .opening (.returned sample.manifest sample.metadata))) := by
    decide +kernel
  obtain ⟨trace, after, state, final, run, later, early, late⟩ :=
    Path.observed_then _ _ bothCalls _ _ (spared_sound false) evaluated
  obtain ⟨created, waiting⟩ := Prod.mk.inj early
  obtain ⟨-, opened⟩ := Prod.mk.inj late
  obtain ⟨bounded, -⟩ := created_opens (creatingAndOpening_start sample) run created waiting later
  exact ⟨trace, after, state, final, run, later, created, opened, bounded⟩

end Lifecycle

end CanX.Project
