import Mathlib.Algebra.Order.BigOperators.Group.Finset
import CanX.Project.Opening

/-! Opening an older project from several connections: what the database can be at any
moment, and how every call ends. -/

namespace CanX.Project

open Storage Transition

variable {Row : Type}

/-- A database as a given version of the runtime has made it, with any rows. -/
structure ProjectDatabase.AtVersion (database : ProjectDatabase Row) (version : Int) : Prop where
  stamped : database.userVersion = version
  tables : (database.tables.map (·.definition)).Perm (versionTables version)

/-- A well-formed database of an older version. -/
def ProjectDatabase.Legacy (database : ProjectDatabase Row) : Prop :=
  database.AtVersion 1 ∨ database.AtVersion 2

def emptyTable (definition : TableDefinition) : Table Row := ⟨definition, []⟩

/-- `database` is `original` with the tables of `applied` added. -/
structure Extended (original : ProjectDatabase Row) (applied : List TableDefinition)
    (database : ProjectDatabase Row) : Prop where
  version : database.userVersion = original.userVersion
  tables : database.tables = original.tables ++ applied.map emptyTable

/-- `database` is `original`, brought to the current version. -/
structure Upgraded (original database : ProjectDatabase Row) : Prop where
  version : database.userVersion = databaseSchemaVersion
  tables : database.tables =
    original.tables ++ (migrationStatements original.userVersion).map emptyTable

section Schema

variable {original database : ProjectDatabase Row} {applied remaining : List TableDefinition}

theorem Extended.refl (original : ProjectDatabase Row) : Extended original [] original :=
  ⟨rfl, (List.append_nil _).symm⟩

theorem Extended.snoc {statement : TableDefinition} {created : ProjectDatabase Row}
    (extended : Extended original applied database)
    (made : database.createTable statement = some created) :
    Extended original (applied ++ [statement]) created := by
  obtain ⟨version, tables⟩ := ProjectDatabase.createTable_eq made
  constructor
  · rw [version, extended.version]
  · rw [tables, extended.tables, List.map_append, List.append_assoc]
    rfl

theorem Extended.upgraded
    (extended : Extended original (migrationStatements original.userVersion) database) :
    Upgraded original (database.stamp databaseSchemaVersion) :=
  ⟨rfl, extended.tables⟩

/-- What the steps from a version add is what that version lacks. -/
theorem Legacy.statements (legacy : original.Legacy) :
    ((original.tables.map (·.definition)) ++ migrationStatements original.userVersion).Perm
      (versionTables databaseSchemaVersion) := by
  rcases legacy with first | second
  · rw [first.stamped]
    exact first.tables.append_right _
  · rw [second.stamped]
    exact second.tables.append_right _

theorem Legacy.version (legacy : original.Legacy) :
    original.userVersion = 1 ∨ original.userVersion = 2 := by
  rcases legacy with first | second
  · exact .inl first.stamped
  · exact .inr second.stamped

theorem Upgraded.atVersion (legacy : original.Legacy) (upgraded : Upgraded original database) :
    database.AtVersion databaseSchemaVersion := by
  constructor
  · exact upgraded.version
  · have mapped : database.tables.map (·.definition) =
        original.tables.map (·.definition) ++ migrationStatements original.userVersion := by
      rw [upgraded.tables, List.map_append, List.map_map]
      congr 1
      exact List.map_id _
    rw [mapped]
    exact Legacy.statements legacy

/-- Every table of the original database is still there, with its rows. -/
theorem Upgraded.kept (upgraded : Upgraded original database) :
    ∀ table ∈ original.tables, table ∈ database.tables := by
  intro table member
  rw [upgraded.tables]
  exact List.mem_append_left _ member

private theorem versionTables_named : ((versionTables databaseSchemaVersion).map (·.name)).Nodup := by decide

/-- The statements of a migration never meet a table of their name. -/
theorem Extended.fresh {statement : TableDefinition} (legacy : original.Legacy)
    (chain : migrationStatements original.userVersion = applied ++ statement :: remaining)
    (extended : Extended original applied database) : statement.name ∉ database.tableNames := by
  have distinct := ((Legacy.statements legacy).map (·.name)).nodup_iff.mpr versionTables_named
  have names : database.tableNames = (original.tables.map (·.definition) ++ applied).map (·.name) := by
    rw [ProjectDatabase.tableNames, extended.tables, List.map_append, List.map_append, List.map_map,
      List.map_map]
    rfl
  rw [chain, ← List.append_assoc, List.map_append, List.map_cons] at distinct
  rw [names]
  intro taken
  exact (List.nodup_append.mp distinct).2.2 _ taken _ List.mem_cons_self rfl

/-- Every statement of a migration meets its table once the migration has been done. -/
theorem Upgraded.taken {statement : TableDefinition} (upgraded : Upgraded original database)
    (member : statement ∈ migrationStatements original.userVersion) :
    statement.name ∈ database.tableNames := by
  rw [ProjectDatabase.tableNames, upgraded.tables, List.map_append, List.map_map]
  exact List.mem_append_right _ (List.mem_map_of_mem member)

theorem Legacy.statements_cons (legacy : original.Legacy) : ∃ statement remaining,
    migrationStatements original.userVersion = statement :: remaining := by
  rcases Legacy.version legacy with first | second
  · rw [first]
    exact ⟨_, _, rfl⟩
  · rw [second]
    exact ⟨_, _, rfl⟩

theorem Legacy.not_upgraded (legacy : original.Legacy) (upgraded : Upgraded original database) :
    database ≠ original := by
  rintro rfl
  have current := upgraded.version
  rcases Legacy.version legacy with first | second
  · rw [first] at current
    exact absurd current (by decide)
  · rw [second] at current
    exact absurd current (by decide)

private theorem missingColumns_of_mem {definition : TableDefinition} {required : List String}
    (member : definition ∈ database.tables.map (·.definition))
    (has : required ⊆ definition.columns.map (·.name)) :
    database.missingColumns definition.name required = [] := by
  obtain ⟨table, stored, rfl⟩ := List.mem_map.mp member
  rw [ProjectDatabase.missingColumns, ProjectDatabase.tableInfo_of_mem stored]
  apply List.filter_eq_nil_iff.mpr
  intro name wanted
  simpa using has wanted

theorem AtVersion.metadata {version : Int} (whole : database.AtVersion version) :
    database.missingColumns metadataTable metadataColumns = [] := by
  have member : createMetadataTable ∈ database.tables.map (·.definition) :=
    whole.tables.mem_iff.mpr List.mem_cons_self
  exact missingColumns_of_mem member (by decide)

theorem AtVersion.missingTables (whole : database.AtVersion databaseSchemaVersion) :
    database.missingTables = [] := by
  apply List.filter_eq_nil_iff.mpr
  have required : ∀ name ∈ schemaTables.map Prod.fst,
      name ∈ (versionTables databaseSchemaVersion).map (·.name) := by
    decide
  have names : database.tableNames = (database.tables.map (·.definition)).map (·.name) := by
    rw [List.map_map]
    rfl
  intro name wanted
  have present := ((whole.tables.map (·.name)).mem_iff).mpr (required name wanted)
  simpa [names] using present

theorem AtVersion.columns {table : String} {required : List String}
    (whole : database.AtVersion databaseSchemaVersion) (listed : (table, required) ∈ schemaTables) :
    database.missingColumns table required = [] := by
  have defined : ∀ entry ∈ schemaTables, ∃ definition ∈ versionTables databaseSchemaVersion,
      definition.name = entry.1 ∧ entry.2 ⊆ definition.columns.map (·.name) := by
    decide
  obtain ⟨definition, member, rfl, has⟩ := defined _ listed
  exact missingColumns_of_mem (whole.tables.mem_iff.mpr member) has

end Schema

section Calls

variable {Connection : Type}
variable {original : ProjectDatabase Row} {store after : Shared Connection (ProjectDatabase Row)}
variable {connection other : Connection} {outcome : Outcome} {call next : OpenCall}

/-- What a call knows at each place. A migration either extends the original, or it began
after another call had committed and works on the upgraded database. -/
def OpenCall.Sound (original : ProjectDatabase Row)
    (store : Shared Connection (ProjectDatabase Row)) (connection : Connection) : OpenCall → Prop
  | .beginning source => source = original.userVersion
  | .migrating source remaining => source = original.userVersion ∧ ∃ written,
    store.Holds connection written ∧
      ((store.committed = original ∧ ∃ applied, migrationStatements source = applied ++ remaining ∧
        Extended original applied written) ∨
      (remaining = migrationStatements source ∧ Upgraded original store.committed ∧
        Upgraded original written))
  | .committing _ => store.committed = original ∧ ∃ written,
    Upgraded original written ∧ store.Holds connection written
  | .recheckingMetadata | .listingTables | .opened => Upgraded original store.committed
  | .checkingTables remaining => Upgraded original store.committed ∧ remaining ⊆ schemaTables
  | _ => True

/-- The committed database is the original or the upgraded one. -/
def Known (original : ProjectDatabase Row) (store : Shared Connection (ProjectDatabase Row)) : Prop :=
  store.committed = original ∨ Upgraded original store.committed

/-- A transaction is open only at the places of its call that are inside it. -/
def Inside (store : Shared Connection (ProjectDatabase Row)) (connection : Connection)
    (call : OpenCall) : Prop :=
  ∀ written, store.Holds connection written → call.inside = true

/-- What the steps of one call leave alone for another one. -/
structure Apart (other : Connection) (store after : Shared Connection (ProjectDatabase Row)) : Prop where
  committed : after.committed = store.committed
  holds : ∀ written, after.Holds other written ↔ store.Holds other written

theorem Apart.refl : Apart other store store := ⟨rfl, fun _ => .rfl⟩

theorem Apart.upgraded (apart : Apart other store after) (upgraded : Upgraded original store.committed) :
    Upgraded original after.committed := by
  rw [apart.committed]
  exact upgraded

variable [DecidableEq Connection]

theorem Apart.rollback (different : other ≠ connection) :
    Apart other store (store.rollback connection) :=
  ⟨Shared.rollback_committed, fun _ => Shared.rollback_other different⟩

omit [DecidableEq Connection] in
theorem Apart.write {written : ProjectDatabase Row} (different : other ≠ connection)
    (holds : store.Holds connection written) (content : ProjectDatabase Row) :
    Apart other store (store.write connection content) := by
  refine ⟨rfl, fun seen => ⟨?_, ?_⟩⟩
  · intro also
    exact absurd (Shared.write_holds.exclusive also).1.symm different
  · intro also
    exact absurd (holds.exclusive also).1.symm different

omit [DecidableEq Connection] in
theorem Apart.begin {begun : Shared Connection (ProjectDatabase Row)} (different : other ≠ connection)
    (moved : store.begin connection = some begun) : Apart other store begun := by
  obtain ⟨holds, committed, free⟩ := Shared.begin_holds moved
  refine ⟨committed, fun written => ⟨?_, ?_⟩⟩
  · intro also
    exact absurd (holds.exclusive also).1.symm different
  · intro also
    cases free.symm.trans also

omit [DecidableEq Connection] in
/-- A call knows what it knew as long as the others only commit the upgrade. -/
theorem Sound.apart (sound : call.Sound original store other) (apart : Apart other store after) :
    call.Sound original after other := by
  cases call with
  | beginning source => exact sound
  | migrating source remaining =>
    obtain ⟨same, written, holds, early | late⟩ := sound
    · refine ⟨same, written, (apart.holds written).mpr holds, .inl ⟨?_, early.2⟩⟩
      exact apart.committed.trans early.1
    · refine ⟨same, written, (apart.holds written).mpr holds, .inr ⟨late.1, ?_, late.2.2⟩⟩
      exact apart.upgraded late.2.1
  | committing source =>
    obtain ⟨committed, written, upgraded, holds⟩ := sound
    exact ⟨apart.committed.trans committed, written, upgraded, (apart.holds written).mpr holds⟩
  | recheckingMetadata => exact apart.upgraded sound
  | listingTables => exact apart.upgraded sound
  | opened => exact apart.upgraded sound
  | checkingTables remaining => exact ⟨apart.upgraded sound.1, sound.2⟩
  | _ => trivial

theorem visible_outside (place : Inside store connection call) (outside : call.inside = false) :
    store.visible connection = store.committed := by
  apply Shared.visible_committed
  intro content holds
  cases (place content holds).symm.trans outside

omit [DecidableEq Connection] in
theorem Known.metadata (legacy : original.Legacy) (known : Known original store) :
    store.committed.missingColumns metadataTable metadataColumns = [] := by
  rcases known with same | upgraded
  · rw [same]
    rcases legacy with first | second
    · exact AtVersion.metadata first
    · exact AtVersion.metadata second
  · exact AtVersion.metadata (upgraded.atVersion legacy)

theorem afterVersion_legacy {version : Int} (old : version = 1 ∨ version = 2) :
    OpenCall.afterVersion version = .verifyingMetadata := by
  rcases old with rfl | rfl <;> rfl

/-- A failed statement leaves the store as it is or ends the transaction of its call. Closing
the connection is counted with the failures, whatever its outcome. -/
theorem advance_cases (moved : call.advance connection outcome store = some (after, next)) :
    (outcome = .done ∧ call.perform connection store = some (after, next)) ∨
      (next = call.failed ∧ call.finished = false ∧ (outcome = .done → call.failing = true) ∧
        (after = store ∨ after = store.rollback connection)) := by
  unfold OpenCall.advance at moved
  split at moved
  · cases moved
  · cases moved
  · cases moved
    exact .inr ⟨rfl, rfl, fun _ => rfl, .inr rfl⟩
  · exact .inl ⟨rfl, moved⟩
  all_goals
    rename_i notOpened notRaised _
    cases moved
    refine .inr ⟨rfl, ?_, nofun, ?_⟩
    · cases call with
      | opened => exact absurd rfl notOpened
      | raised error => exact absurd rfl (notRaised error)
      | _ => rfl
    · first
      | exact .inl rfl
      | exact .inr rfl

theorem perform_failing (failing : call.failing = true)
    (moved : call.perform connection store = some (after, next)) : next.failing = true := by
  cases call with
  | rollingBack source =>
    cases moved
    rfl
  | closing error =>
    cases moved
    rfl
  | raised error => cases moved
  | _ => cases failing

omit [DecidableEq Connection] in
theorem failed_migrates (unfinished : call.finished = false) : call.failed.migrates = false := by
  cases call with
  | opened => cases unfinished
  | _ => rfl

omit [DecidableEq Connection] in
theorem failing_sound (failing : call.failing = true) : call.Sound original store connection := by
  cases call with
  | rollingBack source => trivial
  | closing error => trivial
  | raised error => trivial
  | _ => cases failing

/-- What one statement of a call leaves true. -/
structure Advanced (original : ProjectDatabase Row)
    (store after : Shared Connection (ProjectDatabase Row)) (connection : Connection)
    (call next : OpenCall) : Prop where
  sound : next.Sound original after connection
  known : Known original after
  place : Inside after connection next
  calm : next.failing = true → call.failing = true ∨
    (call.migrates = true ∧ Upgraded original store.committed)
  enters : next.migrates = true → call.migrates = true ∨ store.committed = original
  stale : call.migrates = true → Upgraded original store.committed →
    next.migrates = true ∨ next.failing = true
  apart : (∃ source, call = .committing source ∧ after = store.commit connection ∧
    Upgraded original after.committed) ∨ (after.committed = store.committed ∧
      ∀ other, other ≠ connection → Apart other store after)

/-- A statement that only reads. -/
theorem Advanced.reading (known : Known original store) (place : Inside store connection call)
    (outside : call.inside = false) (reads : call.migrates = false)
    (sound : next.Sound original store connection) (calm : next.failing = false)
    (enters : next.migrates = true → store.committed = original) :
    Advanced original store store connection call next where
  sound := sound
  known := known
  place written holds := by cases (place written holds).symm.trans outside
  calm failing := by cases failing.symm.trans calm
  enters migrates := .inr (enters migrates)
  stale migrates := by cases migrates.symm.trans reads
  apart := .inr ⟨rfl, fun _ _ => .refl⟩

/-- A statement on the way out. -/
theorem Advanced.leaving (known : Known original store) (left : call.failing = true)
    (past : next.failing = true) :
    Advanced original store (store.rollback connection) connection call next where
  sound := failing_sound past
  known := by rwa [Known, Shared.rollback_committed]
  place _ holds := absurd holds Shared.rollback_released
  calm _ := .inl left
  enters migrates := by
    cases next with
    | beginning source => cases past
    | migrating source remaining => cases past
    | committing source => cases past
    | _ => cases migrates
  stale _ _ := .inr past
  apart := .inr ⟨Shared.rollback_committed, fun _ different => .rollback different⟩

/-- A statement that is performed. -/
theorem perform_advanced (legacy : original.Legacy) (known : Known original store)
    (sound : call.Sound original store connection) (place : Inside store connection call)
    (moved : call.perform connection store = some (after, next)) :
    Advanced original store after connection call next := by
  cases call with
  | connecting =>
    cases moved
    exact .reading known place rfl rfl trivial rfl nofun
  | readingVersion =>
    have visible := visible_outside place rfl
    cases moved
    rw [visible]
    rcases known with same | upgraded
    · rw [same, afterVersion_legacy (Legacy.version legacy)]
      exact .reading (.inl same) place rfl rfl trivial rfl nofun
    · rw [upgraded.version]
      exact .reading (.inr upgraded) place rfl rfl upgraded rfl nofun
  | verifyingMetadata =>
    have visible := visible_outside place rfl
    cases moved
    rw [visible, if_pos (known.metadata legacy)]
    exact .reading known place rfl rfl trivial rfl nofun
  | readingSource =>
    have visible := visible_outside place rfl
    cases moved
    rw [visible]
    rcases known with same | upgraded
    · have older : store.committed.userVersion ≠ databaseSchemaVersion := by
        rw [same]
        rcases Legacy.version legacy with first | second
        · rw [first]
          decide
        · rw [second]
          decide
      rw [if_neg older]
      exact .reading (.inl same) place rfl rfl (congrArg _ same) rfl fun _ => same
    · rw [if_pos upgraded.version]
      exact .reading (.inr upgraded) place rfl rfl upgraded rfl nofun
  | beginning source =>
    obtain ⟨begun, started, done⟩ := Option.map_eq_some_iff.mp moved
    cases done
    obtain ⟨holds, committed, free⟩ := Shared.begin_holds started
    have apart : ∀ other, other ≠ connection → Apart other store after :=
      fun _ different => .begin different started
    rw [← committed] at holds
    have reached : Known original after := by rwa [Known, committed]
    refine ⟨⟨sound, _, holds, ?_⟩, reached, fun _ _ => rfl, nofun, fun _ => .inl rfl, fun _ _ => .inl rfl,
      .inr ⟨committed, apart⟩⟩
    rcases reached with same | upgraded
    · exact .inl ⟨same, [], rfl, by rw [same]; exact .refl original⟩
    · exact .inr ⟨rfl, upgraded, upgraded⟩
  | migrating source remaining =>
    obtain ⟨same, written, holds, ⟨committed, applied, chain, extended⟩ | ⟨whole, upgraded, also⟩⟩ :=
      sound
    · have early : ¬ Upgraded original store.committed :=
        fun upgraded => Legacy.not_upgraded legacy upgraded committed
      cases remaining with
      | nil =>
        cases moved
        rw [List.append_nil, same] at chain
        subst chain
        rw [holds.visible]
        exact {
          sound := ⟨committed, _, extended.upgraded, Shared.write_holds⟩
          known := .inl committed
          place := fun _ _ => rfl
          calm := nofun
          enters := fun _ => .inl rfl
          stale := fun _ upgraded => absurd upgraded early
          apart := .inr ⟨rfl, fun _ different => .write different holds _⟩ }
      | cons statement rest =>
        obtain ⟨created, made⟩ :=
          ProjectDatabase.createTable_fresh (extended.fresh legacy (same ▸ chain))
        simp only [OpenCall.perform, holds.visible, made] at moved
        cases moved
        rw [List.append_cons] at chain
        exact {
          sound := ⟨same, created, Shared.write_holds,
            .inl ⟨committed, _, chain, extended.snoc made⟩⟩
          known := .inl committed
          place := fun _ _ => rfl
          calm := nofun
          enters := fun _ => .inl rfl
          stale := fun _ upgraded => absurd upgraded early
          apart := .inr ⟨rfl, fun _ different => .write different holds _⟩ }
    · -- the first statement meets the table the other call has made
      obtain ⟨statement, rest, first⟩ := Legacy.statements_cons legacy
      rw [same, first] at whole
      subst whole
      have taken := also.taken (first ▸ List.mem_cons_self)
      simp only [OpenCall.perform, holds.visible, ProjectDatabase.createTable_taken taken] at moved
      cases moved
      exact {
        sound := trivial
        known := known
        place := fun _ _ => rfl
        calm := fun _ => .inr ⟨rfl, upgraded⟩
        enters := fun _ => .inl rfl
        stale := fun _ _ => .inr rfl
        apart := .inr ⟨rfl, fun _ _ => .refl⟩ }
  | committing source =>
    obtain ⟨committed, written, upgraded, holds⟩ := sound
    cases moved
    have reached : Upgraded original (store.commit connection).committed := by
      rw [show (store.commit connection).committed = written from holds.visible]
      exact upgraded
    exact {
      sound := reached
      known := .inr reached
      place := nofun
      calm := nofun
      enters := nofun
      stale := fun _ upgraded => absurd committed (Legacy.not_upgraded legacy upgraded)
      apart := .inl ⟨source, rfl, rfl, reached⟩ }
  | rollingBack source =>
    cases moved
    exact .leaving known rfl rfl
  | recheckingMetadata =>
    have visible := visible_outside place rfl
    cases moved
    rw [visible, if_pos (known.metadata legacy)]
    exact .reading known place rfl rfl sound rfl nofun
  | listingTables =>
    have visible := visible_outside place rfl
    cases moved
    rw [visible, if_pos (AtVersion.missingTables (sound.atVersion legacy))]
    exact .reading known place rfl rfl ⟨sound, List.Subset.refl _⟩ rfl nofun
  | checkingTables remaining =>
    obtain ⟨upgraded, listed⟩ := sound
    cases remaining with
    | nil =>
      cases moved
      exact .reading known place rfl rfl upgraded rfl nofun
    | cons entry rest =>
      obtain ⟨table, required⟩ := entry
      have visible := visible_outside place rfl
      have whole := AtVersion.columns (upgraded.atVersion legacy) (listed List.mem_cons_self)
      cases moved
      rw [visible, if_pos whole]
      exact .reading known place rfl rfl ⟨upgraded, fun _ member => listed (List.mem_cons_of_mem _ member)⟩ rfl nofun
  | closing error =>
    cases moved
    exact .leaving known rfl rfl
  | opened => cases moved
  | raised error => cases moved

omit [DecidableEq Connection] in
theorem failed_failing (unfinished : call.finished = false) : call.failed.failing = true := by
  cases call with
  | opened => cases unfinished
  | _ => rfl

omit [DecidableEq Connection] in
/-- Only a failed close could leave a transaction open, and a close does not fail. -/
theorem failed_inside (place : call.inside = true) : call.failed.inside = true ∨
    ∃ error, call = .closing error := by
  cases call with
  | migrating source remaining => exact .inl rfl
  | committing source => exact .inl rfl
  | rollingBack source => exact .inl rfl
  | closing error => exact .inr ⟨error, rfl⟩
  | _ => cases place

/-- What a failed statement leaves true; it changes nothing that is committed. -/
structure Broken (store after : Shared Connection (ProjectDatabase Row)) (connection : Connection)
    (call next : OpenCall) : Prop where
  failing : next.failing = true
  committed : after.committed = store.committed
  place : Inside after connection next
  apart : ∀ other, other ≠ connection → Apart other store after
  migrates : call.migrates = true → ∃ source, next = .rollingBack source

theorem advance_broken (unfinished : call.finished = false) (place : Inside store connection call)
    (moved : call.advance connection outcome store = some (after, call.failed))
    (unchanged : after = store ∨ after = store.rollback connection) :
    Broken store after connection call call.failed where
  failing := failed_failing unfinished
  committed := by
    rcases unchanged with rfl | rfl
    · rfl
    · exact Shared.rollback_committed
  place := by
    intro written holds
    rcases unchanged with rfl | rfl
    · rcases failed_inside (place written holds) with inside | ⟨error, rfl⟩
      · exact inside
      · simp only [OpenCall.advance, Option.some.injEq, Prod.mk.injEq] at moved
        rw [← moved.1] at holds
        exact absurd holds Shared.rollback_released
    · exact absurd holds Shared.rollback_released
  apart other different := by
    rcases unchanged with rfl | rfl
    · exact .refl
    · exact .rollback different
  migrates migrating := by
    cases call with
    | beginning source => exact ⟨source, rfl⟩
    | migrating source remaining => exact ⟨source, rfl⟩
    | committing source => exact ⟨source, rfl⟩
    | _ => cases migrating

end Calls

section Runs

variable {Connection : Type} {original : ProjectDatabase Row} {state next : Opening Connection Row}
variable {connection other : Connection} {outcome : Outcome} {taken call : OpenCall}

/-- What holds between any two statements of any calls. -/
structure Opening.Invariant (original : ProjectDatabase Row) (state : Opening Connection Row) : Prop where
  known : Known original state.store
  sound : ∀ connection, (state.call connection).Sound original state.store connection
  place : ∀ connection, Inside state.store connection (state.call connection)

theorem start_invariant (original : ProjectDatabase Row) :
    (Opening.start original : Opening Connection Row).Invariant original where
  known := .inl rfl
  sound _ := trivial
  place := nofun

variable [DecidableEq Connection]

/-- The statement that a step of the system performs. -/
theorem step_advance (moved : state.step (connection, outcome) = some (next, taken)) :
    taken = state.call connection ∧ ∃ call,
      (state.call connection).advance connection outcome state.store = some (next.store, call) ∧
        next.call = Function.update state.call connection call := by
  obtain ⟨⟨store, call⟩, advanced, done⟩ := Option.map_eq_some_iff.mp moved
  cases done
  exact ⟨rfl, call, advanced, rfl⟩

omit [DecidableEq Connection] in
theorem Sound.holds {store : Shared Connection (ProjectDatabase Row)}
    (sound : call.Sound original store connection) (holding : call.holding = true) :
    ∃ written, store.Holds connection written := by
  cases call with
  | migrating source remaining =>
    obtain ⟨_, written, holds, _⟩ := sound
    exact ⟨written, holds⟩
  | committing source =>
    obtain ⟨_, written, _, holds⟩ := sound
    exact ⟨written, holds⟩
  | _ => cases holding

omit [DecidableEq Connection] in
theorem holding_exclusive (inv : state.Invariant original)
    (holding : (state.call connection).holding = true) (different : other ≠ connection) :
    (state.call other).holding = false := by
  by_contra also
  obtain ⟨written, holds⟩ := Sound.holds (inv.sound connection) holding
  obtain ⟨seen, opened⟩ := Sound.holds (inv.sound other) (Bool.not_eq_false _ ▸ also)
  exact different (opened.exclusive holds).1

omit [DecidableEq Connection] in
/-- A committing call holds the transaction, so at that moment no other call is inside one. -/
theorem committing_apart {source : Int} {after : Shared Connection (ProjectDatabase Row)}
    (inv : state.Invariant original) (committing : state.call connection = .committing source)
    (different : other ≠ connection) (upgraded : Upgraded original after.committed) :
    (state.call other).Sound original after other := by
  have alone := holding_exclusive inv (committing ▸ rfl) different
  have sound := inv.sound other
  cases place : state.call other with
  | beginning waiting =>
    rw [place] at sound
    exact sound
  | migrating waiting remaining =>
    rw [place] at alone
    cases alone
  | committing waiting =>
    rw [place] at alone
    cases alone
  | recheckingMetadata => exact upgraded
  | listingTables => exact upgraded
  | opened => exact upgraded
  | checkingTables remaining =>
    rw [place] at sound
    exact ⟨upgraded, sound.2⟩
  | _ => trivial

omit [DecidableEq Connection] in
theorem committing_alone {source : Int} (inv : state.Invariant original)
    (committing : state.call connection = .committing source) (different : other ≠ connection)
    (quiet : ∀ waiting, state.call other ≠ .beginning waiting) :
    (state.call other).migrates = false := by
  have alone := holding_exclusive inv (committing ▸ rfl) different
  cases place : state.call other with
  | beginning waiting => exact absurd place (quiet waiting)
  | migrating waiting remaining =>
    rw [place] at alone
    cases alone
  | committing waiting =>
    rw [place] at alone
    cases alone
  | _ => rfl

/-- The invariant from the call that moved and from what it left to the others. -/
theorem Invariant.update (known : Known original next.store)
    (calls : next.call = Function.update state.call connection call)
    (sound : call.Sound original next.store connection) (place : Inside next.store connection call)
    (others : ∀ other, other ≠ connection → (state.call other).Sound original next.store other ∧
      Inside next.store other (state.call other)) : next.Invariant original where
  known := known
  sound other := by
    by_cases same : other = connection
    · rw [same, calls, Function.update_self]
      exact sound
    · rw [calls, Function.update_of_ne same]
      exact (others other same).1
  place other := by
    by_cases same : other = connection
    · rw [same, calls, Function.update_self]
      exact place
    · rw [calls, Function.update_of_ne same]
      exact (others other same).2

omit [DecidableEq Connection] in
theorem Invariant.apart {after : Shared Connection (ProjectDatabase Row)}
    (inv : state.Invariant original) (apart : Apart other state.store after) :
    (state.call other).Sound original after other ∧ Inside after other (state.call other) :=
  ⟨Sound.apart (inv.sound other) apart,
    fun written holds => inv.place other written ((apart.holds written).mp holds)⟩

theorem step_invariant (legacy : original.Legacy) (inv : state.Invariant original)
    (moved : state.step (connection, outcome) = some (next, taken)) : next.Invariant original := by
  obtain ⟨_, call, advanced, calls⟩ := step_advance moved
  rcases advance_cases advanced with ⟨rfl, performed⟩ | ⟨rfl, unfinished, _, unchanged⟩
  · have kept := perform_advanced legacy inv.known (inv.sound connection) (inv.place connection) performed
    apply Invariant.update kept.known calls kept.sound kept.place
    intro other different
    rcases kept.apart with ⟨source, committing, released, upgraded⟩ | ⟨_, apart⟩
    · constructor
      · exact committing_apart inv committing different upgraded
      · rw [released]
        nofun
    · exact Invariant.apart inv (apart other different)
  · have broken := advance_broken unfinished (inv.place connection) advanced unchanged
    have known : Known original next.store := by
      rw [Known, broken.committed]
      exact inv.known
    apply Invariant.update known calls (failing_sound broken.failing) broken.place
    intro other different
    exact Invariant.apart inv (broken.apart other different)

theorem run_invariant {trace : List ((Connection × Outcome) × OpenCall)}
    {allowed : Opening Connection Row → Connection × Outcome → Prop} (legacy : original.Legacy)
    (run : Path Opening.step allowed (Opening.start original) trace state) :
    state.Invariant original :=
  run.preserves (Opening.Invariant original)
    (fun _ _ _ _ inv _ moved => step_invariant legacy inv moved) (start_invariant original)

/-- The committed database changes once, from the original to the upgraded one. -/
theorem step_committed (legacy : original.Legacy) (inv : state.Invariant original)
    (moved : state.step (connection, outcome) = some (next, taken)) :
    next.store.committed = state.store.committed ∨
      ((∃ source, state.call connection = .committing source) ∧ outcome = .done ∧
        Upgraded original next.store.committed) := by
  obtain ⟨_, call, advanced, calls⟩ := step_advance moved
  rcases advance_cases advanced with ⟨rfl, performed⟩ | ⟨rfl, unfinished, _, unchanged⟩
  · have kept := perform_advanced legacy inv.known (inv.sound connection) (inv.place connection) performed
    rcases kept.apart with ⟨source, committing, _, upgraded⟩ | ⟨same, _⟩
    · exact .inr ⟨⟨source, committing⟩, rfl, upgraded⟩
    · exact .inl same
  · exact .inl (advance_broken unfinished (inv.place connection) advanced unchanged).committed

theorem step_upgraded (legacy : original.Legacy) (inv : state.Invariant original)
    (moved : state.step (connection, outcome) = some (next, taken))
    (upgraded : Upgraded original state.store.committed) : Upgraded original next.store.committed := by
  rcases step_committed legacy inv moved with same | ⟨_, _, reached⟩
  · rw [same]
    exact upgraded
  · exact reached

/-- No call is about to migrate a database that has been upgraded. -/
def Opening.Timely (original : ProjectDatabase Row) (state : Opening Connection Row) : Prop :=
  ∀ connection, (state.call connection).migrates = true → state.store.committed = original

theorem step_timely (legacy : original.Legacy) (inv : state.Invariant original)
    (timely : state.Timely original) (quiet : state.Undisturbed (connection, outcome))
    (moved : state.step (connection, outcome) = some (next, taken)) : next.Timely original := by
  obtain ⟨_, call, advanced, calls⟩ := step_advance moved
  intro other migrates
  rw [calls] at migrates
  rcases step_committed legacy inv moved with same | ⟨⟨source, committing⟩, rfl, upgraded⟩
  · rw [same]
    by_cases here : other = connection
    · rw [here, Function.update_self] at migrates
      rcases advance_cases advanced with ⟨rfl, performed⟩ | ⟨rfl, unfinished, _, unchanged⟩
      · have kept :=
          perform_advanced legacy inv.known (inv.sound connection) (inv.place connection) performed
        rcases kept.enters migrates with before | original
        · exact timely connection before
        · exact original
      · cases (failed_migrates unfinished).symm.trans migrates
    · rw [Function.update_of_ne here] at migrates
      exact timely other migrates
  · -- the commit: the call leaves `migrate_database`, and no other call is in it
    by_cases here : other = connection
    · rw [here, Function.update_self] at migrates
      rw [committing] at advanced
      simp only [OpenCall.advance, OpenCall.perform, Option.some.injEq, Prod.mk.injEq] at advanced
      rw [← advanced.2] at migrates
      cases migrates
    · rw [Function.update_of_ne here] at migrates
      have gone := committing_alone inv committing here (quiet rfl source committing other)
      cases migrates.symm.trans gone

end Runs

end CanX.Project
