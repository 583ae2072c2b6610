import CanX.Dbc.Effect

/-! `DbcImportService`, the asset registry and `ProjectDbcService`, as programs over the
effects. -/

namespace CanX.Dbc

open Data Transition

variable {Database : Type}

def ask (request : DbcEffect) : DbcProgram Database (request.Answer Database) := Program.effect request

def raise {Value : Type} (error : PyException) : DbcProgram Database Value :=
  Program.finish (.error error)

def made {Value : Type} : Except DbcError Value → DbcProgram Database Value
  | .ok value => pure value
  | .error error => raise (.dbc error)

/-- Go on only when a condition holds. -/
def unlessRaise (condition : Prop) [Decidable condition] (error : DbcError) :
    DbcProgram Database Unit :=
  if condition then pure () else raise (.dbc error)

/-- `except <fault>: <recovery>`. -/
def rescuing {Value : Type} (program : DbcProgram Database Value) (caught : Fault)
    (recovery : DbcProgram Database Value) : DbcProgram Database Value :=
  program.catching fun raised => if raised = .builtin caught then recovery else raise raised

/-- `except <fault>: raise <error>`. -/
def translating {Value : Type} (program : DbcProgram Database Value) (caught : Fault)
    (error : DbcError) : DbcProgram Database Value :=
  rescuing program caught (raise (.dbc error))

/-- `with suppress(<fault>)`. -/
def suppressing (program : DbcProgram Database Unit) (caught : Fault) : DbcProgram Database Unit :=
  rescuing program caught (pure ())

section Import

structure DbcSource where
  name : Text
  sha256 : String
  sizeBytes : Int
  encoding : Text
  deriving DecidableEq

structure DbcDocument (Database : Type) where
  database : Database
  source : DbcSource

def defaultDbcEncoding : Text := text "utf-8-sig"

def unsupportedFormat (message : String) : DbcError :=
  ⟨.unsupportedFormat, "dbc.unsupported_format", message⟩

def decodeError (message : String) : DbcError := ⟨.decode, "dbc.decode_failed", message⟩

def sourceChanged (message : String) : DbcError := ⟨.sourceChanged, "dbc.source_changed", message⟩

/-- `FORBIDDEN_SOURCE_NAME_CHARACTERS`. -/
def CodePoint.forbidden (point : CodePoint) : Bool :=
  point = codePoint '/' || point = codePoint '\\' || point = codePoint ':' || point.val < 0x20 ||
    point.val = 0x7F

/-- `value.strip()`. -/
def Text.strip (value : Text) : Text :=
  ((value.dropWhile CodePoint.space).reverse.dropWhile CodePoint.space).reverse

/-- `str.lower` of one character, for the letters that can make up the extension. -/
def CodePoint.lower (point : CodePoint) : CodePoint :=
  if codePoint 'A' ≤ point ∧ point ≤ codePoint 'Z' then point + 0x20 else point

/-- What follows the last dot of a file name; nothing where that dot starts or ends it. -/
def Text.extension (name : Text) : Text :=
  let last := (name.reverse.takeWhile fun point => point ≠ codePoint '.').reverse
  if last.length + 1 < name.length then last else []

def Text.namesDbc (name : Text) : Bool := name.extension.map CodePoint.lower = text "dbc"

def importNameError : DbcError :=
  unsupportedFormat "An imported DBC source must be named as a plain file name ending in '.dbc'."

def requireImportSourceName (name : Text) : DbcProgram Database Unit := do
  unlessRaise (name ≠ [] ∧ name = name.strip) importNameError
  unlessRaise (name.any CodePoint.forbidden = false) importNameError
  unlessRaise (name.namesDbc = true) importNameError

def resolveEncoding (encoding : Option Text) : DbcProgram Database Text :=
  match encoding with
  | none => pure defaultDbcEncoding
  | some codec =>
    if codec.blank then raise (.dbc (decodeError "The declared DBC encoding must be a non-blank codec name."))
    else pure codec

/-- `_decode`. -/
def decode (raw : Bytes) (codec : Text) : DbcProgram Database Text :=
  (ask (.decodeText codec raw)).catching fun
    | .builtin .unicodeDecode =>
      raise (.dbc (decodeError "The DBC source is not valid text under the declared encoding."))
    | .builtin .lookup => raise (.dbc (decodeError "The declared DBC encoding is not a known codec."))
    | error => raise error

/-- `_source`: the record refuses a blank name or encoding. -/
def makeSource (engine : Engine Database) (name : Text) (raw : Bytes) (encoding : Text) :
    DbcProgram Database DbcSource :=
  if name.blank ∨ encoding.blank then raise (.builtin .value)
  else pure ⟨name, engine.sha256 raw, raw.length, encoding⟩

/-- Naming the source in a parser's error changes neither its code nor its text. -/
def parseBytes (engine : Engine Database) (raw : Bytes) (codec name : Text) :
    DbcProgram Database (DbcDocument Database) := do
  let document ← decode raw codec
  let database ← ask (.parseText document)
  let source ← makeSource engine name raw codec
  pure ⟨database, source⟩

def loadBytes (engine : Engine Database) (raw : Bytes) (name : Text) (encoding : Option Text) :
    DbcProgram Database (DbcDocument Database) := do
  let codec ← resolveEncoding encoding
  parseBytes engine raw codec name

def importBytes (engine : Engine Database) (raw : Bytes) (name : Text) (encoding : Option Text) :
    DbcProgram Database (DbcDocument Database) := do
  requireImportSourceName name
  let codec ← resolveEncoding encoding
  parseBytes engine raw codec name

/-- `import_file` of a path whose last component is `name`. -/
def importFile (engine : Engine Database) (name : Text) (encoding : Option Text) :
    DbcProgram Database (DbcDocument Database) := do
  let codec ← resolveEncoding encoding
  let regular ← ask .sourceIsFile
  unlessRaise (regular = true) ⟨.fileNotFound, "dbc.file_not_found",
    "The DBC source is not a regular readable file."⟩
  unlessRaise (name.namesDbc = true) (unsupportedFormat "The DBC source must be a .dbc file.")
  let raw ← translating (ask .readSource) .os
    ⟨.read, "dbc.read_failed", "The DBC source could not be read."⟩
  parseBytes engine raw codec name

end Import

section Registry

def closeQuietly : DbcProgram Database Unit := suppressing (ask .close) .sqlite

/-- `asset_connection`: the connection is closed on every way out. -/
def assetConnection {Value : Type} (body : DbcProgram Database Value) : DbcProgram Database Value := do
  let present ← ask .databaseIsFile
  unlessRaise (present = true) ⟨.assetRegistry, "dbc.project_database_missing",
    "The project database is missing."⟩
  (ask .openDatabase).catching fun
    | .project _ => raise (.dbc ⟨.assetRegistry, "dbc.project_database_unavailable",
      "The project database is not available for the DBC registry."⟩)
    | error => raise error
  let opened : DbcProgram Database Value := do
    let listed ← translating (ask .hasAssetsTable) .sqlite
      ⟨.assetRegistry, "dbc.project_database_unavailable",
        "The project database schema could not be inspected."⟩
    unlessRaise (listed = true) ⟨.assetRegistry, "dbc.project_database_unavailable",
      "The project database is missing the DBC asset registry table."⟩
    body
  opened.andThen fun result => do
    closeQuietly
    Program.lift result

/-- `transaction`, around one statement. -/
def transaction (body : DbcProgram Database Unit) : DbcProgram Database Unit := do
  ask .beginImmediate
  body.catching fun error => do
    suppressing (ask .rollback) .sqlite
    raise error
  ask .commit

def insertAsset (asset : DbcAsset) : DbcProgram Database Unit :=
  translating (transaction (ask (.insertAsset asset.toAssetRow))) .sqlite
    (registryError "The DBC asset registry row could not be committed.")

def readAsset (assetId : Uuid) : DbcProgram Database (Option DbcAsset) := do
  let row ← translating (ask (.selectAsset assetId)) .sqlite
    (registryError "The DBC asset registry could not be read.")
  match row with
  | none => pure none
  | some row => do
    let asset ← made (assetFromRow row)
    pure (some asset)

end Registry

section Project

def removeQuietly (name : String) : DbcProgram Database Unit := suppressing (ask (.removeFile name)) .os

/-- `resolve_asset_path`; the answer is the name inside the directory. -/
def resolveAssetPath (asset : DbcAsset) : DbcProgram Database String := do
  unlessRaise (asset.relativePath = assetRelativePath asset.assetId)
    (integrityError "A DBC asset path is not bound to its asset identity.")
  let place ← ask .resolveDirectory
  unlessRaise (place ≠ .outside)
    (integrityError "The project DBC directory resolves outside the project root.")
  unlessRaise (place ≠ .missing)
    (integrityError "The project DBC directory is missing or is not a directory.")
  let contained ← ask (.resolveCandidate (assetName asset.assetId))
  unlessRaise (contained = true)
    (integrityError "A DBC asset path points outside the project DBC directory.")
  pure (assetName asset.assetId)

def stageAsset (target : String) (raw : Bytes) : DbcProgram Database Unit := do
  rescuing (ask (.writeFile (stagingName target) raw)) .os do
    removeQuietly (stagingName target)
    raise (.dbc (storageError "The project-owned DBC copy could not be written."))
  rescuing (ask (.replaceFile (stagingName target) target)) .os do
    removeQuietly (stagingName target)
    raise (.dbc (storageError "The staged DBC copy could not be promoted to its asset name."))

/-- The row of a document about to be stored. -/
def assetRow (assetId projectId : Uuid) (source : DbcSource) (importedAt : DateTime) : AssetRow where
  assetId
  projectId := some projectId
  sourceName := source.name
  relativePath := assetRelativePath assetId
  sha256 := source.sha256
  sizeBytes := source.sizeBytes
  encoding := source.encoding
  importedAt := some importedAt

/-- Only a `DbcError` of the registry takes the stored file back. -/
def persistImportedDocument (projectId : Uuid) (document : DbcDocument Database) (raw : Bytes) :
    DbcProgram Database DbcAsset := do
  let assetId ← ask .uuid4
  let importedAt ← ask .utcNow
  let asset ← made (DbcAsset.make (assetRow assetId projectId document.source importedAt))
  let target ← resolveAssetPath asset
  stageAsset target raw
  (assetConnection (insertAsset asset)).catching fun
    | .dbc error => do
      removeQuietly target
      raise (.dbc error)
    | error => raise error
  pure asset

def rereadVerified (engine : Engine Database) (validated : DbcSource) : DbcProgram Database Bytes := do
  let raw ← translating (ask .readSource) .os
    (sourceChanged "The DBC source could not be read again for persistence.")
  unlessRaise ((raw.length : Int) = validated.sizeBytes ∧ engine.sha256 raw = validated.sha256)
    (sourceChanged "The DBC source changed between validation and persistence.")
  pure raw

def importAsset (engine : Engine Database) (name : Text) (encoding : Option Text) :
    DbcProgram Database DbcAsset := do
  let projectId ← ask .openProject
  let document ← importFile engine name encoding
  let raw ← rereadVerified engine document.source
  persistImportedDocument projectId document raw

def importAssetBytes (engine : Engine Database) (raw : Bytes) (name : Text) (encoding : Option Text) :
    DbcProgram Database DbcAsset := do
  let projectId ← ask .openProject
  let document ← importBytes engine raw name encoding
  persistImportedDocument projectId document raw

def assetNotFound : DbcError :=
  ⟨.assetNotFound, "dbc.asset_not_found", "The DBC asset is not registered in this project."⟩

/-- `get_asset`; `none` is an argument that is not a UUID. -/
def getAsset (assetId : Option Uuid) : DbcProgram Database DbcAsset :=
  match assetId with
  | none => raise (.dbc assetNotFound)
  | some assetId => do
    let projectId ← ask .openProject
    let found ← assetConnection (readAsset assetId)
    match found with
    | none => raise (.dbc assetNotFound)
    | some asset => do
      unlessRaise (asset.projectId = some projectId)
        (integrityError "The registered DBC asset belongs to a different project.")
      pure asset

/-- `_read_asset_bytes`. -/
def readAssetBytes (engine : Engine Database) (name : String) (asset : DbcAsset) :
    DbcProgram Database Bytes := do
  let regular ← ask (.assetIsFile name)
  unlessRaise (regular = true) (integrityError "The registered DBC asset file is missing.")
  let raw ← translating (ask (.readAsset name)) .os
    (integrityError "The registered DBC asset file could not be read.")
  unlessRaise ((raw.length : Int) = asset.sizeBytes)
    (integrityError "The registered DBC asset file no longer has its registered size.")
  unlessRaise (engine.sha256 raw = asset.sha256)
    (integrityError "The registered DBC asset file no longer has its registered digest.")
  pure raw

def readVerifiedAsset (engine : Engine Database) (assetId : Option Uuid) :
    DbcProgram Database (DbcAsset × Bytes) := do
  let asset ← getAsset assetId
  let name ← resolveAssetPath asset
  let raw ← readAssetBytes engine name asset
  pure (asset, raw)

def parseVerifiedAsset (engine : Engine Database) (asset : DbcAsset) (raw : Bytes) :
    DbcProgram Database (DbcDocument Database) :=
  (loadBytes engine raw asset.sourceName (some asset.encoding)).catching fun
    | .dbc _ => raise (.dbc (integrityError
      "The registered DBC asset does not parse as its registry row describes."))
    | error => raise error

def loadAsset (engine : Engine Database) (assetId : Option Uuid) :
    DbcProgram Database (DbcDocument Database) := do
  let (asset, raw) ← readVerifiedAsset engine assetId
  parseVerifiedAsset engine asset raw

end Project

end CanX.Dbc
