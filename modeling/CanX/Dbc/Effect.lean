import CanX.Dbc.Asset
import CanX.Transition.Program

/-! One project as the DBC services meet it, and the effects they perform on it. The text
codecs and the DBC engine stay parameters. -/

namespace CanX.Dbc

open Data Transition

/-- `hashlib.sha256`, `bytes.decode` and `parse_text`. -/
structure Engine (Database : Type) where
  sha256 : Bytes → String
  codec : Text → Bytes → Except Fault Text
  parser : Text → Except PyException Database
  digest : ∀ raw, isDigest (sha256 raw) = true

/-- What a name of the `dbc` directory stands for. -/
inductive AssetFile where
  | regular (content : Bytes)
  | directory
  | outsideLink
  deriving DecidableEq

inductive DirectoryPlace where
  | inside
  | outside
  | missing
  deriving DecidableEq

inductive RegistryState where
  | absent
  | refused (error : Project.ProjectError)
  | lacksTable
  | ready
  deriving DecidableEq

/-- A project on disk. `pending` is the open transaction of the one connection. -/
structure ProjectWorld where
  identity : Except Project.ProjectError Uuid
  registry : RegistryState
  rows : List AssetRow
  pending : Option (List AssetRow)
  place : DirectoryPlace
  files : String → Option AssetFile

inductive DbcEffect where
  | openProject
  | sourceIsFile
  | readSource
  | decodeText (codec : Text) (raw : Bytes)
  | parseText (document : Text)
  | uuid4
  | utcNow
  | resolveDirectory
  | resolveCandidate (name : String)
  | writeFile (name : String) (raw : Bytes)
  | replaceFile (source target : String)
  | removeFile (name : String)
  | databaseIsFile
  | openDatabase
  | hasAssetsTable
  | beginImmediate
  | insertAsset (row : AssetRow)
  | commit
  | rollback
  | close
  | selectAsset (assetId : Uuid)
  | assetIsFile (name : String)
  | readAsset (name : String)

abbrev DbcEffect.Answer (Database : Type) : DbcEffect → Type
  | openProject | uuid4 => Uuid
  | sourceIsFile | databaseIsFile | hasAssetsTable | resolveCandidate _ | assetIsFile _ => Bool
  | readSource | readAsset _ => Bytes
  | decodeText _ _ => Text
  | parseText _ => Database
  | utcNow => DateTime
  | resolveDirectory => DirectoryPlace
  | selectAsset _ => Option AssetRow
  | _ => Unit

/-- What the environment decides about one effect. `present` and `content` are what the
external source file answers, `written` is what a failing write leaves behind. -/
structure Choice where
  fault : Option Fault
  uuid : Uuid
  instant : DateTime
  present : Bool
  content : Bytes
  written : Option Bytes
  deriving DecidableEq

abbrev DbcProgram (Database : Type) := Program DbcEffect (DbcEffect.Answer Database) PyException

namespace ProjectWorld

def withFile (world : ProjectWorld) (name : String) (file : Option AssetFile) : ProjectWorld :=
  { world with files := Function.update world.files name file }

def withPending (world : ProjectWorld) (pending : Option (List AssetRow)) : ProjectWorld :=
  { world with pending }

/-- The open transaction, made durable. -/
def committed (world : ProjectWorld) : ProjectWorld :=
  { world with rows := world.pending.getD world.rows, pending := none }

end ProjectWorld

/-- The largest integer that binds, as `sqlite3` refuses a wider one. -/
def maxInteger : Int := 0x7FFFFFFFFFFFFFFF

/-- The texts of a row that are not ASCII by construction. -/
def AssetRow.encodable (row : AssetRow) : Bool := row.sourceName.encodable && row.encoding.encodable

/-- The `CHECK` and uniqueness constraints of `dbc_assets`. -/
def AssetRow.accepted (row : AssetRow) (rows : List AssetRow) : Bool :=
  row.assetId.text.length = 36 && row.projectId.any (fun owner => owner.text.length = 36) &&
    row.sourceName ≠ [] && row.relativePath ≠ "" && row.sha256.length = 64 && 0 ≤ row.sizeBytes &&
    row.encoding ≠ [] && rows.all fun stored =>
      stored.assetId ≠ row.assetId && stored.relativePath ≠ row.relativePath

/-- `INSERT INTO dbc_assets`: the parameters are bound before the row is checked. -/
def insertRow (row : AssetRow) (rows : List AssetRow) : Except PyException (List AssetRow) :=
  if row.encodable = false then .error (.builtin .unicodeEncode)
  else if maxInteger < row.sizeBytes then .error (.builtin .overflow)
  else if row.accepted rows then .ok (rows ++ [row])
  else .error (.builtin .sqlite)

variable {Database : Type}

/-- An effect that meets no fault of its environment. -/
def act (engine : Engine Database) : (request : DbcEffect) → Choice → ProjectWorld →
    ProjectWorld × Except PyException (request.Answer Database)
  | .openProject, _, world => (world, world.identity.mapError .project)
  | .sourceIsFile, choice, world => (world, .ok choice.present)
  | .readSource, choice, world => (world, .ok choice.content)
  | .decodeText codec raw, _, world => (world, (engine.codec codec raw).mapError .builtin)
  | .parseText document, _, world => (world, engine.parser document)
  | .uuid4, choice, world => (world, .ok choice.uuid)
  | .utcNow, choice, world => (world, .ok choice.instant)
  | .resolveDirectory, _, world => (world, .ok world.place)
  | .resolveCandidate name, _, world => (world, .ok (world.files name ≠ some .outsideLink))
  | .writeFile name raw, _, world =>
    match world.files name with
    | some .directory => (world, .error (.builtin .os))
    | some .outsideLink => (world, .ok ())
    | _ => (world.withFile name (some (.regular raw)), .ok ())
  | .replaceFile source target, _, world =>
    match world.files source, world.files target with
    | none, _ | some _, some .directory => (world, .error (.builtin .os))
    | some file, _ => ((world.withFile source none).withFile target (some file), .ok ())
  | .removeFile name, _, world =>
    match world.files name with
    | none | some .directory => (world, .error (.builtin .os))
    | some _ => (world.withFile name none, .ok ())
  | .databaseIsFile, _, world => (world, .ok (world.registry ≠ .absent))
  | .openDatabase, _, world =>
    match world.registry with
    | .absent => (world, .error (.builtin .sqlite))
    | .refused error => (world, .error (.project error))
    | .lacksTable | .ready => (world, .ok ())
  | .hasAssetsTable, _, world => (world, .ok (world.registry ≠ .lacksTable))
  | .beginImmediate, _, world => (world.withPending (some world.rows), .ok ())
  | .insertAsset row, _, world =>
    match insertRow row (world.pending.getD world.rows) with
    | .ok rows => (world.withPending (some rows), .ok ())
    | .error error => (world, .error error)
  | .commit, _, world => (world.committed, .ok ())
  | .rollback, _, world => (world.withPending none, .ok ())
  | .close, _, world => (world.withPending none, .ok ())
  | .selectAsset assetId, _, world =>
    (world, .ok (world.rows.find? fun row => decide (row.assetId = assetId)))
  | .assetIsFile name, _, world =>
    match world.files name with
    | some (.regular _) => (world, .ok true)
    | _ => (world, .ok false)
  | .readAsset name, _, world =>
    match world.files name with
    | some (.regular content) => (world, .ok content)
    | _ => (world, .error (.builtin .os))

/-- What an effect that raises leaves behind: a write may have begun its file, and closing a
connection ends its transaction all the same. -/
def disturbed : DbcEffect → Choice → ProjectWorld → ProjectWorld
  | .writeFile name _, choice, world =>
    match choice.written with
    | some begun => world.withFile name (some (.regular begun))
    | none => world
  | .close, _, world => world.withPending none
  | _, _, world => world

def perform (engine : Engine Database) (request : DbcEffect) (choice : Choice) (world : ProjectWorld) :
    ProjectWorld × Except PyException (request.Answer Database) :=
  match choice.fault with
  | some fault => (disturbed request choice world, .error (.builtin fault))
  | none => act engine request choice world

/-- The classes that the code around an effect turns into an error of its own, or swallows. -/
def translates : DbcEffect → Fault → Bool
  | .readSource, .os => true
  | .decodeText _ _, .unicodeDecode | .decodeText _ _, .lookup => true
  | .writeFile _ _, .os | .replaceFile _ _, .os | .removeFile _, .os | .readAsset _, .os => true
  | .hasAssetsTable, .sqlite | .beginImmediate, .sqlite | .insertAsset _, .sqlite => true
  | .commit, .sqlite | .rollback, .sqlite | .close, .sqlite | .selectAsset _, .sqlite => true
  | _, _ => false

/-- The effect raises nothing, a typed error, or a class its surroundings translate. -/
def Handled (engine : Engine Database) (world : ProjectWorld) (request : DbcEffect) (choice : Choice) :
    Prop :=
  ∀ fault, (perform engine request choice world).2 = .error (.builtin fault) →
    translates request fault = true

end CanX.Dbc
