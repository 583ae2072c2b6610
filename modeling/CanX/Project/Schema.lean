import CanX.Storage.Table

/-! The versioned schema of a project database: the tables each version has, and the
statements that bring an older database to the current version. Rows stay abstract,
since no statement of the schema reads one. -/

namespace CanX.Project

open Storage

inductive ProjectErrorKind where
  | invalidProject
  | unsupportedProjectVersion
  deriving DecidableEq

structure ProjectError where
  kind : ProjectErrorKind
  code : String
  message : String
  deriving DecidableEq

structure Column where
  name : String
  declaration : String
  deriving DecidableEq

/-- A `CREATE TABLE` statement. -/
structure TableDefinition where
  name : String
  columns : List Column
  constraints : List String
  deriving DecidableEq

def databaseSchemaVersion : Int := 3

def legacyDatabaseSchemaVersion : Int := 1

def metadataTable : String := "project_metadata"

def metadataColumns : List String := ["project_id", "display_name", "created_at", "updated_at"]

def dataSessionsTable : String := "data_sessions"

def dataSegmentsTable : String := "data_segments"

def dataSessionsColumns : List String :=
  ["session_id", "project_id", "stream_id", "state", "started_at", "ended_at", "frame_count",
   "segment_count", "first_sequence", "last_sequence", "first_timestamp", "last_timestamp",
   "created_at", "updated_at"]

def dataSegmentsColumns : List String :=
  ["segment_id", "session_id", "segment_index", "relative_path", "frame_count", "first_sequence",
   "last_sequence", "first_timestamp", "last_timestamp", "byte_size", "created_at"]

def dbcAssetsTable : String := "dbc_assets"

def dbcAssetsColumns : List String :=
  ["asset_id", "project_id", "source_name", "relative_path", "sha256", "size_bytes", "encoding",
   "imported_at"]

/-- What `_verify_schema_tables` asks for. -/
def schemaTables : List (String × List String) :=
  [(dataSessionsTable, dataSessionsColumns), (dataSegmentsTable, dataSegmentsColumns),
   (dbcAssetsTable, dbcAssetsColumns)]

def createMetadataTable : TableDefinition where
  name := metadataTable
  columns :=
    [⟨"id", "INTEGER PRIMARY KEY CHECK (id = 1)"⟩, ⟨"project_id", "TEXT NOT NULL"⟩,
     ⟨"display_name", "TEXT NOT NULL"⟩, ⟨"created_at", "TEXT NOT NULL"⟩,
     ⟨"updated_at", "TEXT NOT NULL"⟩]
  constraints := []

def createDataSessionsTable : TableDefinition where
  name := dataSessionsTable
  columns :=
    [⟨"session_id", "TEXT PRIMARY KEY"⟩, ⟨"project_id", "TEXT NOT NULL"⟩,
     ⟨"stream_id", "TEXT NOT NULL"⟩,
     ⟨"state", "TEXT NOT NULL CHECK (state IN ('active', 'completed', 'interrupted', 'failed'))"⟩,
     ⟨"started_at", "TEXT NOT NULL"⟩, ⟨"ended_at", "TEXT NULL"⟩,
     ⟨"frame_count", "INTEGER NOT NULL CHECK (frame_count >= 0)"⟩,
     ⟨"segment_count", "INTEGER NOT NULL CHECK (segment_count >= 0)"⟩,
     ⟨"first_sequence", "INTEGER NULL"⟩, ⟨"last_sequence", "INTEGER NULL"⟩,
     ⟨"first_timestamp", "REAL NULL"⟩, ⟨"last_timestamp", "REAL NULL"⟩,
     ⟨"created_at", "TEXT NOT NULL"⟩, ⟨"updated_at", "TEXT NOT NULL"⟩]
  constraints := []

def createDataSegmentsTable : TableDefinition where
  name := dataSegmentsTable
  columns :=
    [⟨"segment_id", "TEXT PRIMARY KEY"⟩,
     ⟨"session_id", "TEXT NOT NULL REFERENCES data_sessions (session_id)"⟩,
     ⟨"segment_index", "INTEGER NOT NULL CHECK (segment_index >= 0)"⟩,
     ⟨"relative_path", "TEXT NOT NULL"⟩,
     ⟨"frame_count", "INTEGER NOT NULL CHECK (frame_count >= 0)"⟩,
     ⟨"first_sequence", "INTEGER NOT NULL"⟩, ⟨"last_sequence", "INTEGER NOT NULL"⟩,
     ⟨"first_timestamp", "REAL NOT NULL"⟩, ⟨"last_timestamp", "REAL NOT NULL"⟩,
     ⟨"byte_size", "INTEGER NOT NULL CHECK (byte_size >= 0)"⟩, ⟨"created_at", "TEXT NOT NULL"⟩]
  constraints := ["UNIQUE (session_id, segment_index)", "UNIQUE (relative_path)"]

def v2DdlStatements : List TableDefinition := [createDataSessionsTable, createDataSegmentsTable]

def createDbcAssetsTable : TableDefinition where
  name := dbcAssetsTable
  columns :=
    [⟨"asset_id", "TEXT PRIMARY KEY CHECK (length(asset_id) = 36)"⟩,
     ⟨"project_id", "TEXT NOT NULL CHECK (length(project_id) = 36)"⟩,
     ⟨"source_name", "TEXT NOT NULL CHECK (source_name <> '')"⟩,
     ⟨"relative_path", "TEXT NOT NULL UNIQUE CHECK (relative_path <> '')"⟩,
     ⟨"sha256", "TEXT NOT NULL CHECK (length(sha256) = 64)"⟩,
     ⟨"size_bytes", "INTEGER NOT NULL CHECK (size_bytes >= 0)"⟩,
     ⟨"encoding", "TEXT NOT NULL CHECK (encoding <> '')"⟩, ⟨"imported_at", "TEXT NOT NULL"⟩]
  constraints := []

def v3DdlStatements : List TableDefinition := [createDbcAssetsTable]

/-- Each step with the version it upgrades from. -/
def migrationSteps : List (Int × List TableDefinition) := [(1, v2DdlStatements), (2, v3DdlStatements)]

def migrationStatements (sourceVersion : Int) : List TableDefinition :=
  (migrationSteps.filter fun entry => decide (entry.1 ≥ sourceVersion)).flatMap Prod.snd

/-- The tables of a database that a given version of the runtime has made. -/
def versionTables (version : Int) : List TableDefinition :=
  createMetadataTable ::
    (migrationSteps.filter fun entry => decide (entry.1 < version)).flatMap Prod.snd

structure Table (Row : Type) where
  definition : TableDefinition
  rows : List Row

variable {Row : Type}

/-- A database holds no two tables of one name. -/
structure ProjectDatabase (Row : Type) where
  userVersion : Int
  tables : List (Table Row)
  named : (tables.map (·.definition.name)).Nodup

namespace ProjectDatabase

variable {database : ProjectDatabase Row} {definition : TableDefinition}

/-- `SELECT name FROM sqlite_master WHERE type = 'table'`. -/
def tableNames (database : ProjectDatabase Row) : List String :=
  database.tables.map (·.definition.name)

/-- `PRAGMA table_info`: nothing for a table that is not there. -/
def tableInfo (database : ProjectDatabase Row) (name : String) : List String :=
  match lookup (·.definition.name) name database.tables with
  | some table => table.definition.columns.map (·.name)
  | none => []

/-- `CREATE TABLE`, refused where the name is taken. -/
def createTable (database : ProjectDatabase Row) (definition : TableDefinition) :
    Option (ProjectDatabase Row) :=
  if fresh : definition.name ∈ database.tableNames then none
  else some ⟨database.userVersion, database.tables ++ [⟨definition, []⟩],
    nodup_map_append database.named fresh⟩

/-- `PRAGMA user_version = …`. -/
def stamp (database : ProjectDatabase Row) (version : Int) : ProjectDatabase Row :=
  { database with userVersion := version }

def missingColumns (database : ProjectDatabase Row) (table : String) (required : List String) :
    List String :=
  required.filter fun name => decide (name ∉ database.tableInfo table)

def missingTables (database : ProjectDatabase Row) : List String :=
  (schemaTables.map Prod.fst).filter fun name => decide (name ∉ database.tableNames)

theorem createTable_eq {created : ProjectDatabase Row}
    (made : database.createTable definition = some created) :
    created.userVersion = database.userVersion ∧
      created.tables = database.tables ++ [⟨definition, []⟩] := by
  unfold createTable at made
  split at made
  · cases made
  · cases made
    exact ⟨rfl, rfl⟩

theorem createTable_fresh (fresh : definition.name ∉ database.tableNames) :
    ∃ created, database.createTable definition = some created := by
  unfold createTable
  rw [dif_neg fresh]
  exact ⟨_, rfl⟩

theorem createTable_taken (taken : definition.name ∈ database.tableNames) :
    database.createTable definition = none := dif_pos taken

/-- The columns of a table are those it was made with. -/
theorem tableInfo_of_mem {table : Table Row} (member : table ∈ database.tables) :
    database.tableInfo table.definition.name = table.definition.columns.map (·.name) := by
  obtain ⟨found, located⟩ : ∃ found, lookup (·.definition.name) table.definition.name database.tables =
      some found := by
    rw [← Option.ne_none_iff_exists', ne_eq, lookup_eq_none, not_not]
    exact List.mem_map_of_mem member
  have key : found.definition.name = table.definition.name := by
    have matched := List.find?_some located
    simpa using matched
  have same : found = table :=
    List.inj_on_of_nodup_map database.named (lookup_mem located) member key
  rw [tableInfo, located, same]

end ProjectDatabase

end CanX.Project
