import CanX.Project.Schema
import CanX.Storage.Transaction
import CanX.Transition.Path

/-! `open_database` on any number of connections to one file, a statement at a time. -/

namespace CanX.Project

open Storage Transition

/-- What a statement meets: it is performed, it fails, or it fails and the whole
transaction is rolled back with it. -/
inductive Outcome where
  | done
  | fails
  | aborts
  deriving DecidableEq

/-- What leaves `open_database`. `sqlite` is an error of `_connect`, which no handler of
`open_database` translates. -/
inductive OpenFailure where
  | project (error : ProjectError)
  | sqlite
  deriving DecidableEq

def newerSchema : OpenFailure :=
  .project ⟨.unsupportedProjectVersion, "project.unsupported_schema_version",
    "The project database schema is newer than this runtime supports."⟩

def notVersioned : OpenFailure :=
  .project ⟨.invalidProject, "project.database_schema_invalid",
    "The file is not a versioned CAN-X project database."⟩

def migrationFailed : OpenFailure :=
  .project ⟨.invalidProject, "project.database_migration_failed",
    "The project database could not be migrated to the current schema."⟩

def versionUnreadable : OpenFailure :=
  .project ⟨.invalidProject, "project.database_unreadable",
    "The project database could not be read."⟩

def schemaUnreadable : OpenFailure :=
  .project ⟨.invalidProject, "project.database_unreadable",
    "The project database schema could not be inspected."⟩

def metadataIncomplete : OpenFailure :=
  .project ⟨.invalidProject, "project.database_schema_invalid",
    "The project database is missing metadata columns."⟩

def tablesIncomplete : OpenFailure :=
  .project ⟨.invalidProject, "project.database_schema_invalid",
    "The project database is missing tables required by its schema version."⟩

def columnsIncomplete : OpenFailure :=
  .project ⟨.invalidProject, "project.database_schema_invalid",
    "The project database is missing columns required by its schema version."⟩

/-- The statement a call of `open_database` performs next, with its local variables. -/
inductive OpenCall where
  | connecting
  | readingVersion
  | verifyingMetadata
  /-- `migrate_database` reads the version again, outside its transaction. -/
  | readingSource
  | beginning (source : Int)
  /-- The DDL still to run; the version stamp follows the last of it. -/
  | migrating (source : Int) (remaining : List TableDefinition)
  | committing (source : Int)
  | rollingBack (source : Int)
  | recheckingMetadata
  | listingTables
  | checkingTables (remaining : List (String × List String))
  | closing (error : OpenFailure)
  | opened
  | raised (error : OpenFailure)
  deriving DecidableEq

namespace OpenCall

def finished : OpenCall → Bool
  | opened | raised _ => true
  | _ => false

/-- The places at which a transaction of the call can still be open. -/
def inside : OpenCall → Bool
  | migrating .. | committing _ | rollingBack _ | closing _ => true
  | _ => false

/-- The statements of `migrate_database` that are inside its `try`. -/
def migrates : OpenCall → Bool
  | beginning _ | migrating .. | committing _ => true
  | _ => false

/-- The places at which the transaction of the call is open. -/
def holding : OpenCall → Bool
  | migrating .. | committing _ => true
  | _ => false

/-- The call is on its way out with an error, or has left. -/
def failing : OpenCall → Bool
  | rollingBack _ | closing _ | raised _ => true
  | _ => false

/-- The branches of `open_database` on the version it has read. -/
def afterVersion (version : Int) : OpenCall :=
  if version > databaseSchemaVersion then closing newerSchema
  else if version < legacyDatabaseSchemaVersion then closing notVersioned
  else if version < databaseSchemaVersion then verifyingMetadata
  else recheckingMetadata

/-- Where a statement that raises leads. -/
def failed : OpenCall → OpenCall
  | connecting => raised .sqlite
  | readingVersion | readingSource => closing versionUnreadable
  | verifyingMetadata | recheckingMetadata | listingTables | checkingTables _ => closing schemaUnreadable
  | beginning source | migrating source _ | committing source => rollingBack source
  | rollingBack _ => closing migrationFailed
  | closing error => raised error
  | opened => opened
  | raised error => raised error

variable {Connection Row : Type} [DecidableEq Connection]

/-- The next statement, performed; `none` while it waits for the open transaction. -/
def perform (connection : Connection) (store : Shared Connection (ProjectDatabase Row)) :
    OpenCall → Option (Shared Connection (ProjectDatabase Row) × OpenCall)
  | connecting => some (store, readingVersion)
  | readingVersion => some (store, afterVersion (store.visible connection).userVersion)
  | verifyingMetadata =>
    some (store, if (store.visible connection).missingColumns metadataTable metadataColumns = [] then
      readingSource else closing metadataIncomplete)
  | readingSource =>
    let source := (store.visible connection).userVersion
    some (store, if source = databaseSchemaVersion then recheckingMetadata else beginning source)
  | beginning source =>
    (store.begin connection).map fun begun => (begun, migrating source (migrationStatements source))
  | migrating source [] =>
    some (store.write connection ((store.visible connection).stamp databaseSchemaVersion),
      committing source)
  | migrating source (statement :: remaining) =>
    match (store.visible connection).createTable statement with
    | some created => some (store.write connection created, migrating source remaining)
    | none => some (store, rollingBack source)
  | committing _ => some (store.commit connection, recheckingMetadata)
  | rollingBack _ => some (store.rollback connection, closing migrationFailed)
  | recheckingMetadata =>
    some (store, if (store.visible connection).missingColumns metadataTable metadataColumns = [] then
      listingTables else closing metadataIncomplete)
  | listingTables =>
    some (store, if (store.visible connection).missingTables = [] then checkingTables schemaTables
      else closing tablesIncomplete)
  | checkingTables [] => some (store, opened)
  | checkingTables ((table, required) :: remaining) =>
    some (store, if (store.visible connection).missingColumns table required = [] then
      checkingTables remaining else closing columnsIncomplete)
  | closing error => some (store.rollback connection, raised error)
  | opened | raised _ => none

/-- The next statement under an outcome. Closing a connection ends its transaction. -/
def advance (connection : Connection) (outcome : Outcome)
    (store : Shared Connection (ProjectDatabase Row)) (call : OpenCall) :
    Option (Shared Connection (ProjectDatabase Row) × OpenCall) :=
  match call, outcome with
  | opened, _ | raised _, _ => none
  | closing error, _ => some (store.rollback connection, raised error)
  | call, .done => call.perform connection store
  | call, .fails => some (store, call.failed)
  | call, .aborts => some (store.rollback connection, call.failed)

end OpenCall

/-- One project database and the calls that open it. -/
structure Opening (Connection Row : Type) where
  store : Shared Connection (ProjectDatabase Row)
  call : Connection → OpenCall

namespace Opening

variable {Connection Row : Type} [DecidableEq Connection]

def start (original : ProjectDatabase Row) : Opening Connection Row :=
  ⟨⟨original, none⟩, fun _ => .connecting⟩

/-- One statement of one call; the answer is the place it was taken from. -/
def step (state : Opening Connection Row) (label : Connection × Outcome) :
    Option (Opening Connection Row × OpenCall) :=
  ((state.call label.1).advance label.1 label.2 state.store).map fun moved =>
    (⟨moved.1, Function.update state.call label.1 moved.2⟩, state.call label.1)

/-- No call commits while another one stands between its version read and its `BEGIN`. -/
def Undisturbed (state : Opening Connection Row) (label : Connection × Outcome) : Prop :=
  label.2 = .done → ∀ source, state.call label.1 = .committing source →
    ∀ other waiting, state.call other ≠ .beginning waiting

end Opening

end CanX.Project
