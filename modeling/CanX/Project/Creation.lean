import CanX.Project.Lifecycle
import CanX.Project.Migration

/-! Creating and opening one project path from any number of calls at once: one creation at most holds the path, and
what is opened is what a creation has made. -/

namespace CanX.Project

open Dbc Storage Transition

section Contents

variable {creation : Creation} {contents written created : Contents} {applied remaining : List TableDefinition}

/-- The row is in, and the version is still that of an empty file. -/
structure Filled (creation : Creation) (contents : Contents) : Prop where
  version : contents.userVersion = 0
  tables : contents.tables = (createdTables.map emptyTable).map (withRow creation.metadata)

/-- The database that a creation makes. -/
structure Born (creation : Creation) (contents : Contents) : Prop where
  version : contents.userVersion = databaseSchemaVersion
  tables : contents.tables = (createdTables.map emptyTable).map (withRow creation.metadata)

theorem Filled.stamp (filled : Filled creation contents) : Born creation (contents.stamp databaseSchemaVersion) :=
  ⟨rfl, filled.tables⟩

theorem Born.nonempty (born : Born creation contents) : contents ≠ Contents.empty := by
  rintro rfl
  cases born.version

private theorem createdTables_named : (createdTables.map (·.name)).Nodup := by decide

private theorem createdTables_version : createdTables = versionTables databaseSchemaVersion := by decide

theorem Born.atVersion (born : Born creation contents) : contents.AtVersion databaseSchemaVersion := by
  refine ⟨born.version, ?_⟩
  have definitions : contents.tables.map (·.definition) = createdTables := by
    rw [born.tables, List.map_map, List.map_map]
    conv_rhs => rw [← List.map_id createdTables]
    exact List.map_congr_left fun definition _ => withRow_definition creation.metadata (emptyTable definition)
  rw [definitions, createdTables_version]

theorem Born.rows (born : Born creation contents) : Contents.metadataRows contents = some [creation.metadata] := by
  rw [Contents.metadataRows, born.tables]
  rfl

/-- The statements of a creation never meet a table of their name. -/
theorem Extended.creates {statement : TableDefinition} (extended : Extended Contents.empty applied contents)
    (chain : applied ++ statement :: remaining = createdTables) :
    ∃ created, contents.createTable statement = some created := by
  have distinct := createdTables_named
  refine ProjectDatabase.createTable_fresh fun taken => ?_
  have names : contents.tableNames = applied.map (·.name) := by
    rw [ProjectDatabase.tableNames, extended.tables, Contents.empty, List.nil_append, List.map_map]
    rfl
  rw [← chain, List.map_append, List.map_cons] at distinct
  rw [names] at taken
  exact (List.nodup_append.mp distinct).2.2 _ taken _ List.mem_cons_self rfl

/-- Once the tables are there, the row goes in. -/
theorem Extended.inserts (creation : Creation) (extended : Extended Contents.empty createdTables contents) :
    ∃ inserted, Contents.insertMetadata contents creation.metadata = some inserted ∧ Filled creation inserted := by
  have tables : contents.tables = createdTables.map emptyTable := by
    rw [extended.tables, Contents.empty, List.nil_append]
  have found : lookup (·.definition.name) metadataTable contents.tables = some (emptyTable createMetadataTable) := by
    rw [tables]
    rfl
  have version : contents.userVersion = 0 := extended.version
  unfold Contents.insertMetadata
  rw [found]
  exact ⟨_, if_pos rfl, version, congrArg _ tables⟩

theorem insertMetadata_filled (extended : Extended Contents.empty createdTables contents)
    (inserted : Contents.insertMetadata contents creation.metadata = some written) : Filled creation written := by
  obtain ⟨other, same, filled⟩ := extended.inserts creation
  obtain rfl := Option.some.inj (same.symm.trans inserted)
  exact filled

end Contents

section Disks

variable {Caller : Type} {disk after : Disk Caller} {inode other : Nat} {store : Shared Caller Contents}
variable {folder : Folder}

theorem folder_eq : disk.folder = some folder ↔ disk.root = some (.folder folder) := by
  unfold Disk.folder
  split
  · rename_i held same
    rw [same, Option.some.injEq, Option.some.injEq, Entry.folder.injEq]
  · rename_i other
    constructor
    · intro none
      cases none
    · intro same
      exact absurd same (other folder)

theorem store_update (inside : inode < disk.databases.length) :
    (disk.update inode store).store other = if other = inode then store else disk.store other := by
  simp only [Disk.store, Disk.update, List.getD_eq_getElem?_getD, List.getElem?_set]
  by_cases same : inode = other
  · subst same
    simp [inside]
  · rw [if_neg same, if_neg (Ne.symm same)]

theorem update_length : (disk.update inode store).databases.length = disk.databases.length := by
  rw [Disk.update, List.length_set]

theorem update_self : disk.update inode (disk.store inode) = disk := by
  have same : disk.databases.set inode (disk.store inode) = disk.databases := by
    refine List.ext_getElem? fun position => ?_
    rw [List.getElem?_set]
    split
    · rename_i here
      subst here
      split
      · rename_i inside
        rw [Disk.store, List.getD_eq_getElem?_getD, List.getElem?_eq_getElem inside, Option.getD_some]
      · rename_i outside
        exact (List.getElem?_eq_none (Nat.not_lt.mp outside)).symm
    · rfl
  rw [Disk.update, same]

/-- A connection to the path: the file that is there, or a new one without contents. -/
theorem connect_cases (connected : disk.connect = some (after, inode)) : ∃ folder, disk.folder = some folder ∧
    after.root = some (.folder { folder with database := some inode }) ∧ after.store = disk.store ∧
    disk.databases.length ≤ after.databases.length ∧
    (folder.database = some inode ∧ after = disk ∨
      folder.database = none ∧ inode < after.databases.length ∧ disk.store inode = ⟨Contents.empty, none⟩) := by
  obtain ⟨folder, found, made⟩ := Option.map_eq_some_iff.mp connected
  refine ⟨folder, found, ?_⟩
  split at made
  · rename_i held same
    obtain ⟨rfl, rfl⟩ := Prod.mk.inj made
    refine ⟨?_, rfl, Nat.le_refl _, .inl ⟨same, rfl⟩⟩
    rw [folder_eq.mp found, ← same]
  · rename_i missing
    obtain ⟨rfl, rfl⟩ := Prod.mk.inj made
    have beyond : disk.store disk.databases.length = ⟨Contents.empty, none⟩ := by
      rw [Disk.store, List.getD_eq_getElem?_getD, List.getElem?_eq_none (Nat.le_refl _), Option.getD_none]
    refine ⟨rfl, funext fun position => ?_, ?_, .inr ⟨missing, ?_, beyond⟩⟩
    · simp only [Disk.store, List.getD_eq_getElem?_getD, List.getElem?_append]
      split
      · rfl
      · rename_i outside
        rw [List.getElem?_eq_none (Nat.not_lt.mp outside), Option.getD_none]
        cases position - disk.databases.length with
        | zero => rfl
        | succ rest => rfl
    · rw [List.length_append]
      exact Nat.le_add_right _ _
    · rw [List.length_append]
      exact Nat.lt_succ_self _

end Disks

section Places

variable {Caller : Type}

namespace CreateCall

/-- The places at which a call holds the path: from the directory it has made until that is gone. -/
def owns : CreateCall → Bool
  | validating | makingRoot | raised _ => false
  | _ => true

/-- The file a call is connected to. -/
def inode : CreateCall → Option Nat
  | enforcingKeys inode | beginning inode | creatingTables inode _ | stamping inode | committing inode
  | verifyingMetadata inode | listingTables inode | checkingTables inode _ | rollingBack inode | openingManifest inode
  | writingManifest inode _ | closing inode _ | returned inode => some inode
  | _ => none

end CreateCall

/-- A project directory with this file and this manifest. -/
def Disk.Laid (disk : Disk Caller) (inode : Nat) (manifest : Option Text) : Prop :=
  disk.root = some (.folder ⟨projectDirectoryNames, some inode, manifest⟩) ∧ inode < disk.databases.length

/-- A directory in which no database has been written. -/
def Disk.Bare (disk : Disk Caller) (directories : List String) : Prop :=
  ∃ database, disk.root = some (.folder ⟨directories, database, none⟩) ∧
    ∀ inode ∈ database, inode < disk.databases.length ∧ disk.store inode = ⟨Contents.empty, none⟩

/-- The database of a creation is there, and its transaction over. -/
def Disk.Settled (disk : Disk Caller) (creation : Creation) (inode : Nat) : Prop :=
  Born creation (disk.store inode).committed ∧ (disk.store inode).transaction = none

/-- The transaction of a creation, which has written this much. -/
def Disk.Writing (disk : Disk Caller) (caller : Caller) (inode : Nat) (written : Contents) : Prop :=
  disk.Laid inode none ∧ (disk.store inode).committed = Contents.empty ∧ (disk.store inode).Holds caller written

/-- What a call of `create` knows at each place. -/
def CreateCall.Sound (creation : Creation) (caller : Caller) (disk : Disk Caller) : CreateCall → Prop
  | .validating | .makingRoot | .raised _ => True
  | .makingDirectories remaining => ∃ made, made ++ remaining = projectDirectoryNames ∧ disk.Bare made
  | .connecting => disk.Bare projectDirectoryNames
  | .enforcingKeys inode | .beginning inode => disk.Laid inode none ∧ disk.store inode = ⟨Contents.empty, none⟩
  | .creatingTables inode remaining => ∃ applied written, applied ++ remaining = createdTables ∧
      Extended Contents.empty applied written ∧ disk.Writing caller inode written
  | .stamping inode => ∃ written, Filled creation written ∧ disk.Writing caller inode written
  | .committing inode => ∃ written, Born creation written ∧ disk.Writing caller inode written
  | .verifyingMetadata inode | .listingTables inode | .openingManifest inode =>
      disk.Laid inode none ∧ disk.Settled creation inode
  | .checkingTables inode remaining =>
      remaining ⊆ schemaTables ∧ disk.Laid inode none ∧ disk.Settled creation inode
  | .writingManifest inode remaining => ∃ written, written ++ remaining = manifestText creation.manifest ∧
      disk.Laid inode (some written) ∧ disk.Settled creation inode
  | .returned inode => disk.Laid inode (some (manifestText creation.manifest)) ∧ disk.Settled creation inode
  | .rollingBack inode | .closing inode _ => (∃ folder, disk.folder = some folder) ∧ inode < disk.databases.length
  | .scanning _ | .removing _ _ | .removingRoot _ => ∃ folder, disk.folder = some folder

/-- Some call has made this database. -/
def Made (calls : Caller → ProjectCall) (contents : Contents) : Prop :=
  ∃ caller creation place, calls caller = .creating creation place ∧ Born creation contents

/-- What a call of `open_database` knows of a file that is empty or made. -/
def OpenCall.Reads (made : Prop) : OpenCall → Prop
  | .connecting | .readingVersion | .closing _ | .raised _ => True
  | .recheckingMetadata | .listingTables | .opened => made
  | .checkingTables remaining => made ∧ remaining ⊆ schemaTables
  | _ => False

/-- What a call of `open` knows at each place. -/
def ProjectOpenCall.Sound (calls : Caller → ProjectCall) (disk : Disk Caller) : ProjectOpenCall → Prop
  | .checkingDatabase manifest | .connecting manifest => manifest.Sound
  | .opening manifest inode call => manifest.Sound ∧ call.Reads (Made calls (disk.store inode).committed)
  | .readingMetadata manifest inode => manifest.Sound ∧ Made calls (disk.store inode).committed
  | .returned manifest metadata => ∃ caller creation place, calls caller = .creating creation place ∧
      manifest = creation.manifest ∧ metadata = creation.metadata
  | _ => True

end Places

section Creators

variable {Caller : Type} [DecidableEq Caller] {creation : Creation} {caller other : Caller} {answer : Answer}
variable {disk after : Disk Caller} {call next : CreateCall} {inode : Nat} {manifest : Option Text}

/-- What one effect of a creation does to the path and the files, as the others see it. -/
structure Moved (creation : Creation) (caller : Caller) (disk : Disk Caller) (call : CreateCall) (after : Disk Caller)
    (next : CreateCall) : Prop where
  sound : next.Sound creation caller after
  taken : next.owns = true → call.owns = true ∨ disk.root = none
  idle : call.owns = false → next.owns = false → after = disk
  longer : disk.databases.length ≤ after.databases.length
  committed : ∀ inode, (after.store inode).committed = (disk.store inode).committed ∨
    (disk.store inode).committed = Contents.empty ∧ Born creation (after.store inode).committed
  transactions : ∀ inode holder content, (after.store inode).transaction = some (holder, content) →
    holder ≠ caller ∧ (disk.store inode).transaction = some (holder, content) ∨
      holder = caller ∧ next.inode = some inode

/-- The files stay, and the call stays connected to a file of which it holds the transaction. -/
theorem Moved.still (kept : ∀ inode content, (disk.store inode).transaction = some (caller, content) →
      next.inode = some inode) (sound : next.Sound creation caller after) (stores : after.store = disk.store)
    (longer : disk.databases.length ≤ after.databases.length)
    (taken : next.owns = true → call.owns = true ∨ disk.root = none)
    (idle : call.owns = false → next.owns = false → after = disk) : Moved creation caller disk call after next where
  sound := sound
  taken := taken
  idle := idle
  longer := longer
  committed inode := .inl (by rw [stores])
  transactions inode holder content held := by
    rw [stores] at held
    by_cases same : holder = caller
    · subst same
      exact .inr ⟨rfl, kept inode content held⟩
    · exact .inl ⟨same, held⟩

/-- The files stay, and the call keeps the file it is connected to. -/
theorem Moved.quiet (own : ∀ inode content, (disk.store inode).transaction = some (caller, content) →
      call.inode = some inode) (sound : next.Sound creation caller after) (stores : after.store = disk.store)
    (longer : disk.databases.length ≤ after.databases.length) (kept : call.inode = none ∨ next.inode = call.inode)
    (taken : next.owns = true → call.owns = true ∨ disk.root = none)
    (idle : call.owns = false → next.owns = false → after = disk) : Moved creation caller disk call after next := by
  refine .still (fun inode content held => ?_) sound stores longer taken idle
  have connected := own inode content held
  rcases kept with none | kept
  · rw [none] at connected
    cases connected
  · exact kept.trans connected

/-- One file is written, and the call stays connected to it. -/
theorem Moved.writes {store : Shared Caller Contents} (inside : inode < disk.databases.length)
    (sound : next.Sound creation caller (disk.update inode store)) (owns : call.owns = true)
    (committed : store.committed = (disk.store inode).committed ∨
      (disk.store inode).committed = Contents.empty ∧ Born creation store.committed)
    (held : ∀ holder content, store.transaction = some (holder, content) →
      holder ≠ caller ∧ (disk.store inode).transaction = some (holder, content) ∨
        holder = caller ∧ next.inode = some inode)
    (own : ∀ inode content, (disk.store inode).transaction = some (caller, content) → call.inode = some inode)
    (connected : call.inode = some inode) :
    Moved creation caller disk call (disk.update inode store) next where
  sound := sound
  taken _ := .inl owns
  idle idle _ := by
    rw [owns] at idle
    cases idle
  longer := Nat.le_of_eq update_length.symm
  committed other := by
    rw [store_update inside]
    split
    · rename_i same
      rw [same]
      exact committed
    · exact .inl rfl
  transactions other holder content opened := by
    rw [store_update inside] at opened
    split at opened
    · rename_i same
      rw [same]
      exact held holder content opened
    · rename_i different
      by_cases same : holder = caller
      · subst same
        have elsewhere := own other content opened
        rw [connected] at elsewhere
        exact absurd (Option.some.inj elsewhere).symm different
      · exact .inl ⟨same, opened⟩

private theorem rollback_transaction {store : Shared Caller Contents} {holder : Caller} {content : Contents}
    (held : (store.rollback caller).transaction = some (holder, content)) :
    holder ≠ caller ∧ store.transaction = some (holder, content) := by
  unfold Shared.rollback at held
  split at held
  · rename_i owner written opened
    split at held
    · cases held
    · rename_i different
      obtain ⟨rfl, rfl⟩ := Prod.mk.inj (Option.some.inj (opened.symm.trans held))
      exact ⟨different, opened⟩
  · rename_i closed
    rw [closed] at held
    cases held

omit [DecidableEq Caller] in
theorem laid_update {store : Shared Caller Contents} (laid : disk.Laid inode manifest) :
    (disk.update inode store).Laid inode manifest :=
  ⟨laid.1, by rw [update_length]; exact laid.2⟩

omit [DecidableEq Caller] in
theorem writing_write {written content : Contents} (writing : disk.Writing caller inode written) :
    (disk.update inode ((disk.store inode).write caller content)).Writing caller inode content := by
  obtain ⟨laid, committed, -⟩ := writing
  refine ⟨laid_update laid, ?_, ?_⟩
  · rw [store_update laid.2, if_pos rfl]
    exact committed
  · rw [store_update laid.2, if_pos rfl]
    exact Shared.write_holds

/-- A write of a transaction. -/
theorem Moved.wrote {written content : Contents} (writing : disk.Writing caller inode written)
    (sound : next.Sound creation caller (disk.update inode ((disk.store inode).write caller content)))
    (owns : call.owns = true) (connected : call.inode = some inode) (kept : next.inode = some inode)
    (own : ∀ inode content, (disk.store inode).transaction = some (caller, content) → call.inode = some inode) :
    Moved creation caller disk call (disk.update inode ((disk.store inode).write caller content)) next := by
  refine .writes writing.1.2 sound owns (.inl rfl) (fun holder content opened => ?_) own connected
  obtain ⟨rfl, rfl⟩ := Prod.mk.inj (Option.some.inj opened)
  exact .inr ⟨rfl, kept⟩

/-- A rollback, by statement or because the connection closes. -/
theorem Moved.rolled (inside : inode < disk.databases.length)
    (sound : next.Sound creation caller (disk.update inode ((disk.store inode).rollback caller)))
    (owns : call.owns = true) (connected : call.inode = some inode)
    (own : ∀ inode content, (disk.store inode).transaction = some (caller, content) → call.inode = some inode) :
    Moved creation caller disk call (disk.update inode ((disk.store inode).rollback caller)) next :=
  .writes inside sound owns (.inl Shared.rollback_committed)
    (fun _ _ opened => .inl (rollback_transaction opened)) own connected

/-- A performed effect of a creation. -/
theorem perform_moved {count : Nat} (sound : call.Sound creation caller disk)
    (own : ∀ inode content, (disk.store inode).transaction = some (caller, content) → call.inode = some inode)
    (moved : call.perform creation caller count disk = some (after, next)) :
    Moved creation caller disk call after next := by
  cases call with
  | validating =>
    obtain ⟨rfl, rfl⟩ := Prod.mk.inj (Option.some.inj moved)
    refine .quiet own ?_ rfl (Nat.le_refl _) (.inl rfl) (fun owns => ?_) fun _ _ => rfl
    · split <;> trivial
    · split at owns <;> cases owns
  | makingRoot =>
    simp only [CreateCall.perform] at moved
    split at moved
    · rename_i free
      obtain ⟨rfl, rfl⟩ := Prod.mk.inj (Option.some.inj moved)
      refine .quiet own ⟨[], rfl, none, rfl, fun _ none => ?_⟩ rfl (Nat.le_refl _) (.inl rfl) (fun _ => .inr free) ?_
      · cases none
      · intro _ idle
        cases idle
    · obtain ⟨rfl, rfl⟩ := Prod.mk.inj (Option.some.inj moved)
      exact .quiet own trivial rfl (Nat.le_refl _) (.inl rfl) (fun owns => by cases owns) fun _ _ => rfl
  | makingDirectories remaining =>
    obtain ⟨made, chain, database, root, fresh⟩ := sound
    cases remaining with
    | nil =>
      obtain ⟨rfl, rfl⟩ := Prod.mk.inj (Option.some.inj moved)
      rw [List.append_nil] at chain
      refine .quiet own ⟨database, chain ▸ root, fresh⟩ rfl (Nat.le_refl _) (.inl rfl) (fun _ => .inl rfl) fun _ _ => rfl
    | cons name remaining =>
      simp only [CreateCall.perform, folder_eq.mpr root] at moved
      split at moved
      · obtain ⟨rfl, rfl⟩ := Prod.mk.inj (Option.some.inj moved)
        exact .quiet own ⟨_, folder_eq.mpr root⟩ rfl (Nat.le_refl _) (.inl rfl) (fun _ => .inl rfl) fun _ _ => rfl
      · obtain ⟨rfl, rfl⟩ := Prod.mk.inj (Option.some.inj moved)
        refine .quiet own ⟨made ++ [name], ?_, database, rfl, fresh⟩ rfl (Nat.le_refl _) (.inl rfl) (fun _ => .inl rfl)
          fun idle => ?_
        · rw [List.append_assoc, List.singleton_append, chain]
        · cases idle
  | connecting =>
    obtain ⟨database, root, fresh⟩ := sound
    simp only [CreateCall.perform] at moved
    split at moved
    · rename_i connected made
      obtain ⟨rfl, rfl⟩ := Prod.mk.inj (Option.some.inj moved)
      obtain ⟨folder, found, laid, stores, longer, there | new⟩ := connect_cases made
      · obtain rfl := Entry.folder.inj (Option.some.inj ((folder_eq.mp found).symm.trans root))
        obtain ⟨held, same⟩ := there
        obtain ⟨inside, pristine⟩ := fresh _ held
        refine .quiet own ⟨⟨laid, ?_⟩, ?_⟩ stores longer (.inl rfl) (fun _ => .inl rfl) fun idle => by cases idle
        · rw [same]
          exact inside
        · rw [stores]
          exact pristine
      · obtain rfl := Entry.folder.inj (Option.some.inj ((folder_eq.mp found).symm.trans root))
        obtain ⟨-, inside, pristine⟩ := new
        refine .quiet own ⟨⟨laid, inside⟩, ?_⟩ stores longer (.inl rfl) (fun _ => .inl rfl) fun idle => by cases idle
        rw [stores]
        exact pristine
    · obtain ⟨rfl, rfl⟩ := Prod.mk.inj (Option.some.inj moved)
      exact .quiet own ⟨_, folder_eq.mpr root⟩ rfl (Nat.le_refl _) (.inl rfl) (fun _ => .inl rfl) fun _ _ => rfl
  | enforcingKeys inode =>
    obtain ⟨rfl, rfl⟩ := Prod.mk.inj (Option.some.inj moved)
    exact .quiet own sound rfl (Nat.le_refl _) (.inr rfl) (fun _ => .inl rfl) fun _ _ => rfl
  | beginning inode =>
    obtain ⟨laid, pristine⟩ := sound
    obtain ⟨begun, started, same⟩ := Option.map_eq_some_iff.mp moved
    obtain ⟨rfl, rfl⟩ := Prod.mk.inj same
    obtain ⟨holds, kept, -⟩ := Shared.begin_holds started
    rw [pristine] at holds kept
    refine .writes laid.2 ⟨[], _, rfl, Extended.refl _, laid_update laid, ?_, ?_⟩ rfl ?_
      (fun holder content opened => ?_) own rfl
    · rw [store_update laid.2, if_pos rfl]
      exact kept
    · rw [store_update laid.2, if_pos rfl]
      exact holds
    · rw [pristine]
      exact .inl kept
    · obtain ⟨rfl, -⟩ := Prod.mk.inj (Option.some.inj (holds.symm.trans opened))
      exact .inr ⟨rfl, rfl⟩
  | creatingTables inode remaining =>
    obtain ⟨applied, written, chain, extended, writing⟩ := sound
    have visible := writing.2.2.visible
    have root : ∃ folder, disk.folder = some folder := ⟨_, folder_eq.mpr writing.1.1⟩
    cases remaining with
    | nil =>
      rw [List.append_nil] at chain
      subst chain
      simp only [CreateCall.perform, visible] at moved
      split at moved
      · split at moved
        · rename_i inserted filled
          obtain ⟨rfl, rfl⟩ := Prod.mk.inj (Option.some.inj moved)
          exact .wrote writing ⟨_, insertMetadata_filled extended filled, writing_write writing⟩ rfl rfl rfl own
        · obtain ⟨rfl, rfl⟩ := Prod.mk.inj (Option.some.inj moved)
          exact .quiet own ⟨root, writing.1.2⟩ rfl (Nat.le_refl _) (.inr rfl) (fun _ => .inl rfl) fun _ _ => rfl
      · obtain ⟨rfl, rfl⟩ := Prod.mk.inj (Option.some.inj moved)
        exact .quiet own ⟨root, writing.1.2⟩ rfl (Nat.le_refl _) (.inr rfl) (fun _ => .inl rfl) fun _ _ => rfl
    | cons statement remaining =>
      simp only [CreateCall.perform, visible] at moved
      split at moved
      · rename_i created made
        obtain ⟨rfl, rfl⟩ := Prod.mk.inj (Option.some.inj moved)
        refine .wrote writing ⟨applied ++ [statement], _, ?_, extended.snoc made, writing_write writing⟩ rfl rfl rfl own
        rw [List.append_assoc, List.singleton_append, chain]
      · obtain ⟨rfl, rfl⟩ := Prod.mk.inj (Option.some.inj moved)
        exact .quiet own ⟨root, writing.1.2⟩ rfl (Nat.le_refl _) (.inr rfl) (fun _ => .inl rfl) fun _ _ => rfl
  | stamping inode =>
    obtain ⟨written, filled, writing⟩ := sound
    simp only [CreateCall.perform, writing.2.2.visible] at moved
    obtain ⟨rfl, rfl⟩ := Prod.mk.inj (Option.some.inj moved)
    exact .wrote writing ⟨_, filled.stamp, writing_write writing⟩ rfl rfl rfl own
  | committing inode =>
    obtain ⟨written, born, laid, empty, holds⟩ := sound
    obtain ⟨rfl, rfl⟩ := Prod.mk.inj (Option.some.inj moved)
    have result : (disk.store inode).commit caller = ⟨written, none⟩ := by rw [Shared.commit, holds.visible]
    rw [result]
    refine .writes laid.2 ⟨laid_update laid, ?_⟩ rfl (.inr ⟨empty, born⟩) (fun _ _ opened => by cases opened) own rfl
    rw [Disk.Settled, store_update laid.2, if_pos rfl]
    exact ⟨born, rfl⟩
  | verifyingMetadata inode =>
    obtain ⟨laid, settled⟩ := sound
    obtain ⟨rfl, rfl⟩ := Prod.mk.inj (Option.some.inj moved)
    split
    · exact .quiet own ⟨laid, settled⟩ rfl (Nat.le_refl _) (.inr rfl) (fun _ => .inl rfl) fun _ _ => rfl
    · exact .quiet own ⟨⟨_, folder_eq.mpr laid.1⟩, laid.2⟩ rfl (Nat.le_refl _) (.inr rfl) (fun _ => .inl rfl)
        fun _ _ => rfl
  | listingTables inode =>
    obtain ⟨laid, settled⟩ := sound
    obtain ⟨rfl, rfl⟩ := Prod.mk.inj (Option.some.inj moved)
    split
    · exact .quiet own ⟨List.Subset.refl _, laid, settled⟩ rfl (Nat.le_refl _) (.inr rfl) (fun _ => .inl rfl)
        fun _ _ => rfl
    · exact .quiet own ⟨⟨_, folder_eq.mpr laid.1⟩, laid.2⟩ rfl (Nat.le_refl _) (.inr rfl) (fun _ => .inl rfl)
        fun _ _ => rfl
  | checkingTables inode remaining =>
    obtain ⟨listed, laid, settled⟩ := sound
    cases remaining with
    | nil =>
      obtain ⟨rfl, rfl⟩ := Prod.mk.inj (Option.some.inj moved)
      exact .quiet own ⟨laid, settled⟩ rfl (Nat.le_refl _) (.inr rfl) (fun _ => .inl rfl) fun _ _ => rfl
    | cons entry remaining =>
      obtain ⟨rfl, rfl⟩ := Prod.mk.inj (Option.some.inj moved)
      split
      · exact .quiet own ⟨(List.cons_subset.mp listed).2, laid, settled⟩ rfl (Nat.le_refl _) (.inr rfl)
          (fun _ => .inl rfl) fun _ _ => rfl
      · exact .quiet own ⟨⟨_, folder_eq.mpr laid.1⟩, laid.2⟩ rfl (Nat.le_refl _) (.inr rfl) (fun _ => .inl rfl)
          fun _ _ => rfl
  | rollingBack inode =>
    obtain ⟨folder, inside⟩ := sound
    obtain ⟨rfl, rfl⟩ := Prod.mk.inj (Option.some.inj moved)
    refine .rolled inside ⟨folder, ?_⟩ rfl rfl own
    rw [update_length]
    exact inside
  | openingManifest inode =>
    obtain ⟨laid, settled⟩ := sound
    simp only [CreateCall.perform, folder_eq.mpr laid.1] at moved
    obtain ⟨rfl, rfl⟩ := Prod.mk.inj (Option.some.inj moved)
    exact .quiet own ⟨[], rfl, ⟨rfl, laid.2⟩, settled⟩ rfl (Nat.le_refl _) (.inr rfl) (fun _ => .inl rfl)
      fun idle => by cases idle
  | writingManifest inode remaining =>
    obtain ⟨written, chain, laid, settled⟩ := sound
    cases remaining with
    | nil =>
      obtain ⟨rfl, rfl⟩ := Prod.mk.inj (Option.some.inj moved)
      rw [List.append_nil] at chain
      exact .quiet own ⟨chain ▸ laid, settled⟩ rfl (Nat.le_refl _) (.inr rfl) (fun _ => .inl rfl) fun _ _ => rfl
    | cons first rest =>
      simp only [CreateCall.perform, folder_eq.mpr laid.1] at moved
      obtain ⟨rfl, rfl⟩ := Prod.mk.inj (Option.some.inj moved)
      refine .quiet own ⟨_, ?_, ⟨rfl, laid.2⟩, settled⟩ rfl (Nat.le_refl _) (.inr rfl) (fun _ => .inl rfl)
        fun idle => by cases idle
      rw [List.append_assoc, List.take_append_drop, chain]
  | closing inode error =>
    obtain ⟨folder, inside⟩ := sound
    obtain ⟨rfl, rfl⟩ := Prod.mk.inj (Option.some.inj moved)
    exact .rolled inside folder rfl rfl own
  | scanning error =>
    obtain ⟨rfl, rfl⟩ := Prod.mk.inj (Option.some.inj moved)
    exact .quiet own sound rfl (Nat.le_refl _) (.inl rfl) (fun _ => .inl rfl) fun _ _ => rfl
  | removing remaining error =>
    obtain ⟨folder, found⟩ := sound
    cases remaining with
    | nil =>
      obtain ⟨rfl, rfl⟩ := Prod.mk.inj (Option.some.inj moved)
      exact .quiet own ⟨folder, found⟩ rfl (Nat.le_refl _) (.inl rfl) (fun _ => .inl rfl) fun _ _ => rfl
    | cons first rest =>
      simp only [CreateCall.perform, found] at moved
      obtain ⟨rfl, rfl⟩ := Prod.mk.inj (Option.some.inj moved)
      exact .quiet own ⟨_, rfl⟩ rfl (Nat.le_refl _) (.inl rfl) (fun _ => .inl rfl) fun idle => by cases idle
  | removingRoot error =>
    obtain ⟨rfl, rfl⟩ := Prod.mk.inj (Option.some.inj moved)
    refine .quiet own trivial ?_ ?_ (.inl rfl) (fun owns => by cases owns) fun idle => by cases idle
    · split <;> rfl
    · split <;> exact Nat.le_refl _
  | returned inode => cases moved
  | raised error => cases moved

omit [DecidableEq Caller] in
/-- A call that fails still knows the directory it has made. -/
theorem failed_sound (sound : call.Sound creation caller disk) : call.failed.Sound creation caller disk := by
  cases call with
  | makingDirectories remaining =>
    obtain ⟨_, _, _, root, _⟩ := sound
    exact ⟨_, folder_eq.mpr root⟩
  | connecting =>
    obtain ⟨_, root, _⟩ := sound
    exact ⟨_, folder_eq.mpr root⟩
  | enforcingKeys inode => exact ⟨_, folder_eq.mpr sound.1.1⟩
  | beginning inode => exact ⟨⟨_, folder_eq.mpr sound.1.1⟩, sound.1.2⟩
  | creatingTables inode remaining =>
    obtain ⟨_, _, _, _, laid, _⟩ := sound
    exact ⟨⟨_, folder_eq.mpr laid.1⟩, laid.2⟩
  | stamping inode =>
    obtain ⟨_, _, laid, _⟩ := sound
    exact ⟨⟨_, folder_eq.mpr laid.1⟩, laid.2⟩
  | committing inode =>
    obtain ⟨_, _, laid, _⟩ := sound
    exact ⟨⟨_, folder_eq.mpr laid.1⟩, laid.2⟩
  | verifyingMetadata inode => exact ⟨⟨_, folder_eq.mpr sound.1.1⟩, sound.1.2⟩
  | listingTables inode => exact ⟨⟨_, folder_eq.mpr sound.1.1⟩, sound.1.2⟩
  | checkingTables inode remaining => exact ⟨⟨_, folder_eq.mpr sound.2.1.1⟩, sound.2.1.2⟩
  | openingManifest inode => exact ⟨⟨_, folder_eq.mpr sound.1.1⟩, sound.1.2⟩
  | writingManifest inode remaining =>
    obtain ⟨_, _, laid, _⟩ := sound
    exact ⟨⟨_, folder_eq.mpr laid.1⟩, laid.2⟩
  | rollingBack inode => exact sound
  | returned inode => exact sound
  | _ => trivial

theorem failed_owns (owns : call.failed.owns = true) : call.owns = true := by
  cases call with
  | makingRoot => cases owns
  | raised error => cases owns
  | validating => cases owns
  | _ => rfl

omit [DecidableEq Caller] in
/-- A failing call leaves no transaction behind, other than of a file it is still connected to. -/
theorem failed_inode (sound : call.Sound creation caller disk) (unclosed : ∀ inode error, call ≠ .closing inode error)
    (own : ∀ inode content, (disk.store inode).transaction = some (caller, content) → call.inode = some inode)
    (inode : Nat) (content : Contents) (held : (disk.store inode).transaction = some (caller, content)) :
    call.failed.inode = some inode := by
  have connected := own inode content held
  cases call with
  | enforcingKeys other =>
    obtain rfl := Option.some.inj connected
    rw [sound.2] at held
    cases held
  | closing other error => exact absurd rfl (unclosed other error)
  | _ => exact connected

/-- What an effect of a creation can come to: it is performed, it fails, the removal passes over an entry, or the
transaction is rolled back with it. -/
inductive Comes (creation : Creation) (caller : Caller) (answer : Answer) (disk : Disk Caller) :
    CreateCall → Disk Caller → CreateCall → Prop where
  | performed {call next : CreateCall} {after : Disk Caller}
      (done : call.perform creation caller answer.count disk = some (after, next)) :
      Comes creation caller answer disk call after next
  | failed {call : CreateCall} (faulted : answer.outcome ≠ .done)
      (unclosed : ∀ inode error, call ≠ .closing inode error) :
      Comes creation caller answer disk call disk call.failed
  | unscanned (faulted : answer.outcome ≠ .done) :
      Comes creation caller answer disk (.scanning error) disk (.removingRoot error)
  | passed (faulted : answer.outcome ≠ .done) : Comes creation caller answer disk (.removing (first :: rest) error) disk
      (.removing ((first :: rest).eraseIdx (answer.count % (first :: rest).length)) error)
  | aborted {call : CreateCall} {inode : Nat} (faulted : answer.outcome ≠ .done) (owns : call.owns = true)
      (connected : call.inode = some inode) (led : call.failed = .rollingBack inode) :
      Comes creation caller answer disk call (disk.update inode ((disk.store inode).rollback caller)) call.failed

theorem advance_comes (moved : call.advance creation caller answer disk = some (after, next)) :
    Comes creation caller answer disk call after next := by
  unfold CreateCall.advance at moved
  split at moved
  · cases moved
  · cases moved
  · exact .performed moved
  · exact .performed moved
  · exact .performed moved
  · exact .performed moved
  · exact .performed moved
  · rename_i faulted
    obtain ⟨rfl, rfl⟩ := Prod.mk.inj (Option.some.inj moved)
    exact .unscanned faulted
  · rename_i faulted
    obtain ⟨rfl, rfl⟩ := Prod.mk.inj (Option.some.inj moved)
    exact .performed rfl
  · rename_i faulted
    obtain ⟨rfl, rfl⟩ := Prod.mk.inj (Option.some.inj moved)
    exact .passed faulted
  · rename_i faulted
    obtain ⟨rfl, rfl⟩ := Prod.mk.inj (Option.some.inj moved)
    exact .failed faulted fun _ _ closing => by cases closing
  · rename_i unclosed _ _ _ _ fails
    obtain ⟨rfl, rfl⟩ := Prod.mk.inj (Option.some.inj moved)
    have faulted : answer.outcome ≠ .done := by
      rw [fails]
      decide
    exact .failed faulted unclosed
  · rename_i unclosed _ _ _ _ aborts
    have faulted : answer.outcome ≠ .done := by
      rw [aborts]
      decide
    split at moved
    · obtain ⟨rfl, rfl⟩ := Prod.mk.inj (Option.some.inj moved)
      exact .aborted faulted rfl rfl rfl
    · obtain ⟨rfl, rfl⟩ := Prod.mk.inj (Option.some.inj moved)
      exact .aborted faulted rfl rfl rfl
    · obtain ⟨rfl, rfl⟩ := Prod.mk.inj (Option.some.inj moved)
      exact .aborted faulted rfl rfl rfl
    · obtain ⟨rfl, rfl⟩ := Prod.mk.inj (Option.some.inj moved)
      exact .failed faulted unclosed

/-- An effect of a creation, whatever its outcome. -/
theorem advance_moved (sound : call.Sound creation caller disk)
    (own : ∀ inode content, (disk.store inode).transaction = some (caller, content) → call.inode = some inode)
    (moved : call.advance creation caller answer disk = some (after, next)) :
    Moved creation caller disk call after next := by
  cases advance_comes moved with
  | performed done => exact perform_moved sound own done
  | failed _ unclosed =>
    exact .still (failed_inode sound unclosed own) (failed_sound sound) rfl (Nat.le_refl _)
      (fun owns => .inl (failed_owns owns)) fun _ _ => rfl
  | unscanned =>
    exact .quiet own sound rfl (Nat.le_refl _) (.inl rfl) (fun _ => .inl rfl) fun _ _ => rfl
  | passed =>
    exact .quiet own sound rfl (Nat.le_refl _) (.inl rfl) (fun _ => .inl rfl) fun _ _ => rfl
  | @aborted _ inode _ owns connected led =>
    have known := failed_sound sound
    rw [led] at known ⊢
    obtain ⟨folder, inside⟩ := known
    refine .rolled inside ⟨folder, ?_⟩ owns connected own
    rw [update_length]
    exact inside

end Creators

section Readers

variable {Caller : Type} [DecidableEq Caller] {caller : Caller} {outcome : Outcome} {made : Prop}
variable {store moved : Shared Caller Contents} {call next : OpenCall}

theorem rollback_outside (outside : ∀ content, ¬ store.Holds caller content) : store.rollback caller = store := by
  unfold Shared.rollback
  split
  · rename_i owner content opened
    rw [if_neg]
    rintro rfl
    exact outside content opened
  · rfl

theorem failed_reads (reads : call.Reads made) : call.failed.Reads made := by
  cases call <;> first | exact reads.elim | trivial

/-- A call that reads a file which is empty or made leaves it as it is. -/
theorem reads_advance (reads : call.Reads made)
    (known : store.committed = Contents.empty ∨ made ∧ store.committed.userVersion = databaseSchemaVersion)
    (outside : ∀ content, ¬ store.Holds caller content)
    (advanced : call.advance caller outcome store = some (moved, next)) : moved = store ∧ next.Reads made := by
  have visible : store.visible caller = store.committed := Shared.visible_committed outside
  rcases advance_cases advanced with ⟨rfl, performed⟩ | ⟨rfl, -, -, rolled⟩
  · cases call with
    | connecting =>
      obtain ⟨rfl, rfl⟩ := Prod.mk.inj (Option.some.inj performed)
      exact ⟨rfl, trivial⟩
    | readingVersion =>
      obtain ⟨rfl, rfl⟩ := Prod.mk.inj (Option.some.inj performed)
      refine ⟨rfl, ?_⟩
      rw [visible]
      rcases known with empty | ⟨held, version⟩
      · rw [empty]
        trivial
      · rw [version]
        exact held
    | recheckingMetadata =>
      obtain ⟨rfl, rfl⟩ := Prod.mk.inj (Option.some.inj performed)
      refine ⟨rfl, ?_⟩
      split
      · exact reads
      · trivial
    | listingTables =>
      obtain ⟨rfl, rfl⟩ := Prod.mk.inj (Option.some.inj performed)
      refine ⟨rfl, ?_⟩
      split
      · exact ⟨reads, List.Subset.refl _⟩
      · trivial
    | checkingTables remaining =>
      cases remaining with
      | nil =>
        obtain ⟨rfl, rfl⟩ := Prod.mk.inj (Option.some.inj performed)
        exact ⟨rfl, reads.1⟩
      | cons entry remaining =>
        obtain ⟨rfl, rfl⟩ := Prod.mk.inj (Option.some.inj performed)
        refine ⟨rfl, ?_⟩
        split
        · exact ⟨reads.1, (List.cons_subset.mp reads.2).2⟩
        · trivial
    | closing error =>
      obtain ⟨rfl, rfl⟩ := Prod.mk.inj (Option.some.inj performed)
      exact ⟨rollback_outside outside, trivial⟩
    | opened => cases performed
    | raised error => cases performed
    | _ => exact reads.elim
  · refine ⟨?_, failed_reads reads⟩
    rcases rolled with same | same
    · exact same
    · exact same.trans (rollback_outside outside)

variable {calls : Caller → ProjectCall} {disk after : Disk Caller} {place target : ProjectOpenCall}
variable {manifest : ProjectManifest} {inode : Nat}

/-- What a call of `open` can change: it may leave an empty file where the directory has no database. -/
structure Linked (disk after : Disk Caller) : Prop where
  stores : after.store = disk.store
  longer : disk.databases.length ≤ after.databases.length
  root : ∃ folder inode, disk.root = some (.folder folder) ∧ folder.database = none ∧
    after.root = some (.folder { folder with database := some inode }) ∧ inode < after.databases.length ∧
    disk.store inode = ⟨Contents.empty, none⟩

omit [DecidableEq Caller] in
theorem after_sound (sound : manifest.Sound) (reads : call.Reads (Made calls (disk.store inode).committed)) :
    (ProjectOpenCall.after manifest inode call).Sound calls disk := by
  cases call with
  | opened => exact ⟨sound, reads⟩
  | raised error => trivial
  | _ => exact ⟨sound, reads⟩

theorem Creation.sound (creation : Creation) : creation.manifest.Sound :=
  ⟨rfl, rfl, creation.number, creation.drawn, rfl⟩

omit [DecidableEq Caller] in
theorem manifest_eq (creation : Creation) (sound : manifest.Sound) (same : creation.projectId = manifest.projectId) :
    manifest = creation.manifest := by
  cases manifest with
  | mk format version identity =>
    rw [Creation.manifest, ProjectManifest.mk.injEq]
    exact ⟨sound.format, sound.version, same.symm⟩

@[simp] theorem Creation.metadata_projectId (creation : Creation) : creation.metadata.projectId = creation.projectId :=
  rfl

theorem Creation.normalized (creation : Creation) :
    normalizeProjectId creation.metadata.projectId = some creation.metadata.projectId := by
  rw [Creation.metadata_projectId, normalizeProjectId, Creation.projectId, uuidOf_uuidText creation.drawn,
    Option.map_some]

/-- A row whose identity is written as it is normalized, and is that of the manifest. -/
theorem identified_own {row : ProjectMetadata} (normalized : normalizeProjectId row.projectId = some row.projectId)
    (same : row.projectId = manifest.projectId) :
    ProjectOpenCall.identified manifest inode (some [row]) = .returned manifest row := by
  rw [ProjectOpenCall.identified, normalized]
  exact if_neg (not_not.mpr same)

private theorem identified_row {row : ProjectMetadata}
    (normalized : normalizeProjectId row.projectId = some row.projectId) :
    ProjectOpenCall.identified manifest inode (some [row]) = .closing inode identityMismatch ∨
      row.projectId = manifest.projectId ∧
        ProjectOpenCall.identified manifest inode (some [row]) = .returned manifest row := by
  by_cases same : row.projectId = manifest.projectId
  · exact .inr ⟨same, identified_own normalized same⟩
  · rw [ProjectOpenCall.identified, normalized]
    exact .inl (if_pos same)

omit [DecidableEq Caller] in
/-- A row that a creation has written is identified as that of its manifest, or as that of another project. -/
theorem identified_sound (sound : manifest.Sound) (made : Made calls (disk.store inode).committed) :
    (ProjectOpenCall.identified manifest inode (Contents.metadataRows (disk.store inode).committed)).Sound calls
      disk := by
  obtain ⟨maker, creation, place, named, born⟩ := made
  rw [born.rows]
  cases identified_row creation.normalized with
  | inl refused =>
    rw [refused]
    trivial
  | inr identified =>
    rw [identified.2]
    exact ⟨maker, creation, place, named, manifest_eq creation sound identified.1, Eq.refl _⟩

omit [DecidableEq Caller] in
theorem open_failed (sound : place.Sound calls disk) : place.failed.Sound calls disk := by
  cases place with
  | opening manifest inode call => exact ⟨sound.1, failed_reads sound.2⟩
  | returned manifest metadata => exact sound
  | _ => trivial

/-- An effect of an opening call that goes through. -/
theorem open_performed (sound : place.Sound calls disk)
    (known : ∀ inode, (disk.store inode).committed = Contents.empty ∨ Made calls (disk.store inode).committed ∧
      (disk.store inode).committed.userVersion = databaseSchemaVersion)
    (outside : ∀ inode content, ¬ (disk.store inode).Holds caller content)
    (performed : place.perform caller disk = some (after, target)) :
    target.Sound calls after ∧ (after = disk ∨ Linked disk after) := by
  cases place with
  | checkingRoot =>
    obtain ⟨rfl, rfl⟩ := Prod.mk.inj (Option.some.inj performed)
    refine ⟨?_, .inl rfl⟩
    split <;> trivial
  | checkingDirectory =>
    obtain ⟨rfl, rfl⟩ := Prod.mk.inj (Option.some.inj performed)
    refine ⟨?_, .inl rfl⟩
    split <;> trivial
  | checkingManifest =>
    obtain ⟨rfl, rfl⟩ := Prod.mk.inj (Option.some.inj performed)
    refine ⟨?_, .inl rfl⟩
    split <;> trivial
  | readingManifest =>
    simp only [ProjectOpenCall.perform] at performed
    split at performed
    · obtain ⟨rfl, rfl⟩ := Prod.mk.inj (Option.some.inj performed)
      exact ⟨trivial, .inl rfl⟩
    · split at performed
      · obtain ⟨rfl, rfl⟩ := Prod.mk.inj (Option.some.inj performed)
        exact ⟨trivial, .inl rfl⟩
      · rename_i read
        obtain ⟨rfl, rfl⟩ := Prod.mk.inj (Option.some.inj performed)
        exact ⟨(readManifest_ok.mp read).1, .inl rfl⟩
  | checkingDatabase manifest =>
    obtain ⟨rfl, rfl⟩ := Prod.mk.inj (Option.some.inj performed)
    refine ⟨?_, .inl rfl⟩
    split
    · trivial
    · exact sound
  | connecting manifest =>
    simp only [ProjectOpenCall.perform] at performed
    split at performed
    · rename_i connected made
      obtain ⟨rfl, rfl⟩ := Prod.mk.inj (Option.some.inj performed)
      refine ⟨⟨sound, trivial⟩, ?_⟩
      obtain ⟨folder, found, laid, stores, longer, there | new⟩ := connect_cases made
      · exact .inl there.2
      · exact .inr ⟨stores, longer, folder, _, folder_eq.mp found, new.1, laid, new.2⟩
    · obtain ⟨rfl, rfl⟩ := Prod.mk.inj (Option.some.inj performed)
      exact ⟨trivial, .inl rfl⟩
  | opening manifest inode call =>
    obtain ⟨step, stepped, same⟩ := Option.map_eq_some_iff.mp performed
    obtain ⟨rfl, rfl⟩ := Prod.mk.inj same
    obtain ⟨kept, reads⟩ := reads_advance sound.2 (known _) (outside _) stepped
    rw [kept, update_self]
    exact ⟨after_sound sound.1 reads, .inl rfl⟩
  | readingMetadata manifest inode =>
    obtain ⟨rfl, rfl⟩ := Prod.mk.inj (Option.some.inj performed)
    rw [Shared.visible_committed (outside inode)]
    exact ⟨identified_sound sound.1 sound.2, .inl rfl⟩
  | closing inode error =>
    obtain ⟨rfl, rfl⟩ := Prod.mk.inj (Option.some.inj performed)
    rw [rollback_outside (outside _), update_self]
    exact ⟨trivial, .inl rfl⟩
  | returned manifest metadata => cases performed
  | raised error => cases performed

/-- An effect of an opening call, over files that are empty or made and no transaction of its own. -/
theorem open_moved (sound : place.Sound calls disk)
    (known : ∀ inode, (disk.store inode).committed = Contents.empty ∨ Made calls (disk.store inode).committed)
    (outside : ∀ inode content, ¬ (disk.store inode).Holds caller content)
    (advanced : place.advance caller outcome disk = some (after, target)) :
    target.Sound calls after ∧ (after = disk ∨ Linked disk after) := by
  have reading (inode : Nat) : (disk.store inode).committed = Contents.empty ∨
      Made calls (disk.store inode).committed ∧
        (disk.store inode).committed.userVersion = databaseSchemaVersion := by
    rcases known inode with empty | made
    · exact .inl empty
    · have ⟨_, _, _, _, born⟩ := made
      exact .inr ⟨made, born.version⟩
  unfold ProjectOpenCall.advance at advanced
  split at advanced
  · cases advanced
  · cases advanced
  · obtain ⟨step, stepped, same⟩ := Option.map_eq_some_iff.mp advanced
    obtain ⟨rfl, rfl⟩ := Prod.mk.inj same
    obtain ⟨kept, reads⟩ := reads_advance sound.2 (reading _) (outside _) stepped
    rw [kept, update_self]
    exact ⟨after_sound sound.1 reads, .inl rfl⟩
  · exact open_performed sound reading outside advanced
  · exact open_performed sound reading outside advanced
  · obtain ⟨rfl, rfl⟩ := Prod.mk.inj (Option.some.inj advanced)
    exact ⟨open_failed sound, .inl rfl⟩

end Readers

end CanX.Project
