import CanX.Project.Identity
import CanX.Project.Opening

/-! `ProjectService.create` and `ProjectService.open` of one path, by any number of callers at once, an effect at a
time. A file that was unlinked lives on for the connections that have it open. Parents of the path, the journal of
SQLite and what other services put into a project are left out, and stored times are the instants they denote. -/

namespace CanX.Project

open Data Dbc Storage

def projectDirectoryNames : List String := ["dbc", "data", "logs", "scripts", "agent", "exports", "cache"]

/-- The row of `project_metadata`. -/
structure ProjectMetadata where
  projectId : Text
  displayName : Text
  createdAt : DateTime
  updatedAt : DateTime
  deriving DecidableEq

inductive ServiceErrorKind where
  | project
  | validation
  | alreadyExists
  | invalidProject
  | identityMismatch
  deriving DecidableEq

structure ServiceError where
  kind : ServiceErrorKind
  code : String
  message : String
  deriving DecidableEq

/-- What leaves `create` or `open`. -/
inductive ServiceFailure where
  | service (error : ServiceError)
  | opening (failure : OpenFailure)
  | manifest (failure : ManifestFailure)
  /-- A text that no parameter of a statement can hold. -/
  | encoding
  | os
  deriving DecidableEq

def invalidDisplayName : ServiceFailure := .service ⟨.validation, "project.invalid_display_name",
  "display_name must contain at least one non-whitespace character."⟩

def projectAlreadyExists : ServiceFailure := .service ⟨.alreadyExists, "project.already_exists",
  "A project cannot be created over an existing path; existing user data is never replaced."⟩

def directoryNotCreated : ServiceFailure := .service ⟨.project, "project.create_failed",
  "The project directory could not be created."⟩

def layoutNotCreated : ServiceFailure := .service ⟨.project, "project.create_failed",
  "The project directory layout could not be created."⟩

def databaseNotInitialized : ServiceFailure := .service ⟨.invalidProject, "project.database_init_failed",
  "The project database could not be initialized."⟩

def manifestNotWritten : ServiceFailure := .service ⟨.invalidProject, "project.manifest_write_failed",
  "The project manifest could not be written."⟩

def projectNotFound : ServiceFailure := .service ⟨.invalidProject, "project.not_found",
  "The project path does not exist."⟩

def notDirectory : ServiceFailure := .service ⟨.invalidProject, "project.not_a_directory",
  "The project path is not a directory."⟩

def manifestMissing : ServiceFailure := .service ⟨.invalidProject, "project.manifest_missing",
  "The project manifest is missing."⟩

def manifestUnreadable : ServiceFailure := .service ⟨.invalidProject, "project.manifest_unreadable",
  "The project manifest could not be read."⟩

def databaseMissing : ServiceFailure := .service ⟨.invalidProject, "project.database_missing",
  "The project database is missing."⟩

def metadataUnreadable : ServiceFailure := .service ⟨.invalidProject, "project.database_unreadable",
  "The project metadata could not be read."⟩

def metadataMissing : ServiceFailure := .service ⟨.invalidProject, "project.metadata_missing",
  "The project metadata row is missing."⟩

def metadataInvalid : ServiceFailure := .service ⟨.invalidProject, "project.metadata_invalid",
  "The stored project identity is not a UUID."⟩

def identityMismatch : ServiceFailure := .service ⟨.identityMismatch, "project.identity_mismatch",
  "The project manifest and database disagree on project identity."⟩

section Databases

abbrev Contents := ProjectDatabase ProjectMetadata

/-- A file that no statement has written to. -/
def Contents.empty : Contents := ⟨0, [], List.nodup_nil⟩

def withRow (row : ProjectMetadata) (table : Table ProjectMetadata) : Table ProjectMetadata :=
  if table.definition.name = metadataTable then { table with rows := table.rows ++ [row] } else table

theorem withRow_definition (row : ProjectMetadata) (table : Table ProjectMetadata) :
    (withRow row table).definition = table.definition := by
  unfold withRow
  split
  · rfl
  · rfl

private theorem withRow_names (row : ProjectMetadata) (tables : List (Table ProjectMetadata)) :
    (tables.map (withRow row)).map (·.definition.name) = tables.map (·.definition.name) := by
  rw [List.map_map]
  exact List.map_congr_left fun table _ => congrArg TableDefinition.name (withRow_definition row table)

/-- `INSERT INTO project_metadata`, refused where the table is missing or its one row is there. -/
def Contents.insertMetadata (contents : Contents) (row : ProjectMetadata) : Option Contents :=
  match lookup (·.definition.name) metadataTable contents.tables with
  | some table =>
    if table.rows = [] then
      some ⟨contents.userVersion, contents.tables.map (withRow row), by
        rw [withRow_names]
        exact contents.named⟩
    else none
  | none => none

/-- The rows of `project_metadata`; `none` where there is no such table. -/
def Contents.metadataRows (contents : Contents) : Option (List ProjectMetadata) :=
  (lookup (·.definition.name) metadataTable contents.tables).map Table.rows

end Databases

section Disks

/-- The contents of the project directory. -/
structure Folder where
  directories : List String
  database : Option Nat
  manifest : Option Text
  deriving DecidableEq

inductive Entry where
  | file
  | folder (folder : Folder)
  deriving DecidableEq

/-- What is at the path, and every database file by its number, unlinked ones included. -/
structure Disk (Caller : Type) where
  root : Option Entry
  databases : List (Shared Caller Contents)

inductive Name where
  | directory (name : String)
  | database
  | manifest
  deriving DecidableEq

def Folder.empty : Folder := ⟨[], none, none⟩

def Folder.names (folder : Folder) : List Name :=
  folder.directories.map .directory ++ folder.database.toList.map (fun _ => .database) ++
    folder.manifest.toList.map (fun _ => .manifest)

def Folder.remove (folder : Folder) : Name → Folder
  | .directory name => { folder with directories := folder.directories.filter (· ≠ name) }
  | .database => { folder with database := none }
  | .manifest => { folder with manifest := none }

variable {Caller : Type}

namespace Disk

def start : Disk Caller := ⟨none, []⟩

def folder (disk : Disk Caller) : Option Folder :=
  match disk.root with
  | some (.folder folder) => some folder
  | _ => none

def put (disk : Disk Caller) (folder : Folder) : Disk Caller := { disk with root := some (.folder folder) }

/-- The connection to a database file, which is made where it is missing; `none` without the directory. -/
def connect (disk : Disk Caller) : Option (Disk Caller × Nat) :=
  disk.folder.map fun folder =>
    match folder.database with
    | some inode => (disk, inode)
    | none =>
      (⟨some (.folder { folder with database := some disk.databases.length }),
        disk.databases ++ [⟨Contents.empty, none⟩]⟩, disk.databases.length)

def store (disk : Disk Caller) (inode : Nat) : Shared Caller Contents :=
  disk.databases.getD inode ⟨Contents.empty, none⟩

def update (disk : Disk Caller) (inode : Nat) (store : Shared Caller Contents) : Disk Caller :=
  { disk with databases := disk.databases.set inode store }

end Disk

end Disks

/-- What an effect meets, and how much a write takes or which entry a removal picks. -/
structure Answer where
  outcome : Outcome
  count : Nat

section Creating

/-- The arguments of a call of `create`, and what it draws. -/
structure Creation where
  displayName : Text
  number : Nat
  drawn : number < uuidBound
  moment : DateTime
  deriving DecidableEq

def Creation.projectId (creation : Creation) : Text := uuidText creation.number

def Creation.manifest (creation : Creation) : ProjectManifest :=
  ⟨manifestFormat, manifestSchemaVersion, creation.projectId⟩

def Creation.metadata (creation : Creation) : ProjectMetadata :=
  ⟨creation.projectId, creation.displayName, creation.moment, creation.moment⟩

/-- The effect a call of `create` performs next. -/
inductive CreateCall where
  | validating
  | makingRoot
  | makingDirectories (remaining : List String)
  | connecting
  | enforcingKeys (inode : Nat)
  | beginning (inode : Nat)
  /-- The tables still to create; the row follows the last of them. -/
  | creatingTables (inode : Nat) (remaining : List TableDefinition)
  | stamping (inode : Nat)
  | committing (inode : Nat)
  | verifyingMetadata (inode : Nat)
  | listingTables (inode : Nat)
  | checkingTables (inode : Nat) (remaining : List (String × List String))
  | rollingBack (inode : Nat)
  | openingManifest (inode : Nat)
  | writingManifest (inode : Nat) (remaining : Text)
  | closing (inode : Nat) (error : ServiceFailure)
  | scanning (error : ServiceFailure)
  | removing (remaining : List Name) (error : ServiceFailure)
  | removingRoot (error : ServiceFailure)
  | returned (inode : Nat)
  | raised (error : ServiceFailure)
  deriving DecidableEq

def createdTables : List TableDefinition :=
  createMetadataTable :: migrationStatements legacyDatabaseSchemaVersion

namespace CreateCall

variable {Caller : Type} [DecidableEq Caller]

/-- Where an effect that raises leads. -/
def failed : CreateCall → CreateCall
  | makingRoot => raised directoryNotCreated
  | makingDirectories _ => scanning layoutNotCreated
  | connecting | enforcingKeys _ => scanning databaseNotInitialized
  | beginning inode | creatingTables inode _ | stamping inode | committing inode => rollingBack inode
  | verifyingMetadata inode | listingTables inode | checkingTables inode _ =>
    closing inode (.opening schemaUnreadable)
  | rollingBack inode => closing inode databaseNotInitialized
  | openingManifest inode | writingManifest inode _ => closing inode manifestNotWritten
  | closing _ error | scanning error | removing _ error | removingRoot error => raised error
  | validating => validating
  | returned inode => returned inode
  | raised error => raised error

/-- The next effect, performed; `none` while it waits for an open transaction. -/
def perform (creation : Creation) (caller : Caller) (count : Nat) (disk : Disk Caller) :
    CreateCall → Option (Disk Caller × CreateCall)
  | validating => some (disk, if creation.displayName.blank then raised invalidDisplayName else makingRoot)
  | makingRoot =>
    match disk.root with
    | none => some (disk.put .empty, makingDirectories projectDirectoryNames)
    | some _ => some (disk, raised projectAlreadyExists)
  | makingDirectories [] => some (disk, connecting)
  | makingDirectories (name :: remaining) =>
    match disk.folder with
    | some folder =>
      if name ∈ folder.directories then some (disk, scanning layoutNotCreated)
      else some (disk.put { folder with directories := folder.directories ++ [name] }, makingDirectories remaining)
    | none => some (disk, scanning layoutNotCreated)
  | connecting =>
    match disk.connect with
    | some connected => some (connected.1, enforcingKeys connected.2)
    | none => some (disk, scanning databaseNotInitialized)
  | enforcingKeys inode => some (disk, beginning inode)
  | beginning inode =>
    ((disk.store inode).begin caller).map fun begun => (disk.update inode begun, creatingTables inode createdTables)
  | creatingTables inode (statement :: remaining) =>
    match ((disk.store inode).visible caller).createTable statement with
    | some created => some (disk.update inode ((disk.store inode).write caller created), creatingTables inode remaining)
    | none => some (disk, rollingBack inode)
  | creatingTables inode [] =>
    if creation.displayName.encodable then
      match Contents.insertMetadata ((disk.store inode).visible caller) creation.metadata with
      | some inserted => some (disk.update inode ((disk.store inode).write caller inserted), stamping inode)
      | none => some (disk, rollingBack inode)
    else some (disk, closing inode .encoding)
  | stamping inode =>
    some (disk.update inode ((disk.store inode).write caller
      (((disk.store inode).visible caller).stamp databaseSchemaVersion)), committing inode)
  | committing inode => some (disk.update inode ((disk.store inode).commit caller), verifyingMetadata inode)
  | verifyingMetadata inode =>
    some (disk, if ((disk.store inode).visible caller).missingColumns metadataTable metadataColumns = [] then
      listingTables inode else closing inode (.opening metadataIncomplete))
  | listingTables inode =>
    some (disk, if ((disk.store inode).visible caller).missingTables = [] then checkingTables inode schemaTables
      else closing inode (.opening tablesIncomplete))
  | checkingTables inode [] => some (disk, openingManifest inode)
  | checkingTables inode ((table, required) :: remaining) =>
    some (disk, if ((disk.store inode).visible caller).missingColumns table required = [] then
      checkingTables inode remaining else closing inode (.opening columnsIncomplete))
  | rollingBack inode =>
    some (disk.update inode ((disk.store inode).rollback caller), closing inode databaseNotInitialized)
  | openingManifest inode =>
    match disk.folder with
    | some folder =>
      some (disk.put { folder with manifest := some [] }, writingManifest inode (manifestText creation.manifest))
    | none => some (disk, closing inode manifestNotWritten)
  | writingManifest inode [] => some (disk, returned inode)
  | writingManifest inode (first :: rest) =>
    match disk.folder with
    | some folder =>
      some (disk.put { folder with manifest := folder.manifest.map (· ++ (first :: rest).take (count + 1)) },
        writingManifest inode ((first :: rest).drop (count + 1)))
    | none => some (disk, closing inode manifestNotWritten)
  | closing inode error => some (disk.update inode ((disk.store inode).rollback caller), scanning error)
  | scanning error => some (disk, removing ((disk.folder.map Folder.names).getD []) error)
  | removing [] error => some (disk, removingRoot error)
  | removing (first :: rest) error =>
    match disk.folder with
    | some folder =>
      some (disk.put (folder.remove ((first :: rest).getD (count % (first :: rest).length) first)),
        removing ((first :: rest).eraseIdx (count % (first :: rest).length)) error)
    | none => some (disk, removing ((first :: rest).eraseIdx (count % (first :: rest).length)) error)
  | removingRoot error =>
    some (if disk.folder = some .empty then { disk with root := none } else disk, raised error)
  | returned _ | raised _ => none

/-- The next effect under an answer. The rollback of `create` ignores what it cannot remove, and a connection that
closes ends its transaction. -/
def advance (creation : Creation) (caller : Caller) (answer : Answer) (disk : Disk Caller) (call : CreateCall) :
    Option (Disk Caller × CreateCall) :=
  match call, answer.outcome with
  | returned _, _ | raised _, _ => none
  | validating, _ | makingDirectories [], _ | checkingTables _ [], _ | closing .., _ =>
    call.perform creation caller answer.count disk
  | call, .done => call.perform creation caller answer.count disk
  | scanning error, _ => some (disk, removingRoot error)
  | removing [] error, _ => some (disk, removingRoot error)
  | removing (first :: rest) error, _ =>
    some (disk, removing ((first :: rest).eraseIdx (answer.count % (first :: rest).length)) error)
  | removingRoot error, _ => some (disk, raised error)
  | call, .fails => some (disk, call.failed)
  | call, .aborts =>
    match call with
    | creatingTables inode _ | stamping inode | committing inode =>
      some (disk.update inode ((disk.store inode).rollback caller), call.failed)
    | _ => some (disk, call.failed)

end CreateCall

end Creating

section Opening

/-- The effect a call of `open` performs next, with the manifest it has read and the file it is connected to. -/
inductive ProjectOpenCall where
  | checkingRoot
  | checkingDirectory
  | checkingManifest
  | readingManifest
  | checkingDatabase (manifest : ProjectManifest)
  | connecting (manifest : ProjectManifest)
  | opening (manifest : ProjectManifest) (inode : Nat) (call : OpenCall)
  | readingMetadata (manifest : ProjectManifest) (inode : Nat)
  | closing (inode : Nat) (error : ServiceFailure)
  | returned (manifest : ProjectManifest) (metadata : ProjectMetadata)
  | raised (error : ServiceFailure)
  deriving DecidableEq

namespace ProjectOpenCall

variable {Caller : Type} [DecidableEq Caller]

def failed : ProjectOpenCall → ProjectOpenCall
  | checkingRoot | checkingDirectory | checkingManifest | checkingDatabase _ => raised .os
  | readingManifest => raised manifestUnreadable
  | connecting _ => raised (.opening .sqlite)
  | opening manifest inode call => opening manifest inode call.failed
  | readingMetadata _ inode => closing inode metadataUnreadable
  | closing _ error => raised error
  | returned manifest metadata => returned manifest metadata
  | raised error => raised error

/-- Where `open` goes on, as `open_database` goes on. -/
def after (manifest : ProjectManifest) (inode : Nat) : OpenCall → ProjectOpenCall
  | .opened => readingMetadata manifest inode
  | .raised error => raised (.opening error)
  | call => opening manifest inode call

/-- What `read_metadata` and the comparison of the two identities make of the rows. -/
def identified (manifest : ProjectManifest) (inode : Nat) : Option (List ProjectMetadata) → ProjectOpenCall
  | none => closing inode metadataUnreadable
  | some [] => closing inode metadataMissing
  | some (row :: _) =>
    match normalizeProjectId row.projectId with
    | none => closing inode metadataInvalid
    | some projectId =>
      if projectId ≠ manifest.projectId then closing inode identityMismatch
      else returned manifest { row with projectId := projectId }

def perform (caller : Caller) (disk : Disk Caller) : ProjectOpenCall → Option (Disk Caller × ProjectOpenCall)
  | checkingRoot => some (disk, if disk.root = none then raised projectNotFound else checkingDirectory)
  | checkingDirectory => some (disk, if disk.folder = none then raised notDirectory else checkingManifest)
  | checkingManifest =>
    some (disk, if disk.folder.bind Folder.manifest = none then raised manifestMissing else readingManifest)
  | readingManifest =>
    match disk.folder.bind Folder.manifest with
    | none => some (disk, raised manifestUnreadable)
    | some contents =>
      match readManifest contents with
      | .error failure => some (disk, raised (.manifest failure))
      | .ok manifest => some (disk, checkingDatabase manifest)
  | checkingDatabase manifest =>
    some (disk, if disk.folder.bind Folder.database = none then raised databaseMissing else connecting manifest)
  | connecting manifest =>
    match disk.connect with
    | some connected => some (connected.1, opening manifest connected.2 .connecting)
    | none => some (disk, raised (.opening .sqlite))
  | opening manifest inode call =>
    (call.advance caller .done (disk.store inode)).map fun moved =>
      (disk.update inode moved.1, after manifest inode moved.2)
  | readingMetadata manifest inode =>
    some (disk, identified manifest inode (Contents.metadataRows ((disk.store inode).visible caller)))
  | closing inode error => some (disk.update inode ((disk.store inode).rollback caller), raised error)
  | returned .. | raised _ => none

def advance (caller : Caller) (outcome : Outcome) (disk : Disk Caller) (call : ProjectOpenCall) :
    Option (Disk Caller × ProjectOpenCall) :=
  match call, outcome with
  | returned .., _ | raised _, _ => none
  | opening manifest inode call, outcome =>
    (call.advance caller outcome (disk.store inode)).map fun moved =>
      (disk.update inode moved.1, after manifest inode moved.2)
  | closing .., _ => call.perform caller disk
  | call, .done => call.perform caller disk
  | call, _ => some (disk, call.failed)

end ProjectOpenCall

end Opening

/-- A call on the path. -/
inductive ProjectCall where
  | creating (creation : Creation) (place : CreateCall)
  | opening (place : ProjectOpenCall)
  deriving DecidableEq

/-- One path and the calls on it. -/
structure Lifecycle (Caller : Type) where
  disk : Disk Caller
  call : Caller → ProjectCall

namespace Lifecycle

variable {Caller : Type} [DecidableEq Caller]

/-- Nothing is at the path, and each caller is about to make its call. -/
structure Start (state : Lifecycle Caller) : Prop where
  nothing : state.disk = .start
  calls : ∀ caller, (∃ creation, state.call caller = .creating creation .validating) ∨
    state.call caller = .opening .checkingRoot

/-- One effect of one call. -/
def step (state : Lifecycle Caller) (label : Caller × Answer) : Option (Lifecycle Caller × Unit) :=
  match state.call label.1 with
  | .creating creation place =>
    (place.advance creation label.1 label.2 state.disk).map fun moved =>
      (⟨moved.1, Function.update state.call label.1 (.creating creation moved.2)⟩, ())
  | .opening place =>
    (place.advance label.1 label.2.outcome state.disk).map fun moved =>
      (⟨moved.1, Function.update state.call label.1 (.opening moved.2)⟩, ())

/-- Two callers, one of which creates a project that the other opens. -/
def creatingAndOpening (creation : Creation) : Lifecycle Bool :=
  ⟨.start, fun caller => if caller then .creating creation .validating else .opening .checkingRoot⟩

theorem creatingAndOpening_start (creation : Creation) : Start (creatingAndOpening creation) where
  nothing := rfl
  calls caller := by
    cases caller with
    | false => exact .inr rfl
    | true => exact .inl ⟨creation, rfl⟩

end Lifecycle

end CanX.Project
