import CanX.Data.Model
import CanX.Project.Schema

/-! Project-owned DBC assets: names, the rows of the registry, and the checks that make a
row an asset. Error details other than the code and the text are left out. -/

namespace CanX.Dbc

open Data

/-- A code point of a Python string; surrogates are among them. -/
abbrev CodePoint := Fin 0x110000

instance codePoints_nonzero : @NeZero Nat Zero.ofOfNat0 0x110000 := ⟨Nat.succ_ne_zero _⟩

abbrev Text := List CodePoint

instance codePoint_lawful : LawfulBEq CodePoint := inferInstance

instance text_lawful : LawfulBEq Text := inferInstance

abbrev Bytes := List UInt8

def codePoint (character : Char) : CodePoint := Fin.ofNat _ character.toNat

def text (literal : String) : Text := literal.toList.map codePoint

def CodePoint.surrogate (point : CodePoint) : Bool := 0xD800 ≤ point.val && point.val ≤ 0xDFFF

/-- The text has a UTF-8 form, which is what binding it as a parameter needs. -/
def Text.encodable (value : Text) : Bool := value.all fun point => !point.surrogate

/-- `str.isspace` of one character. -/
def CodePoint.space (point : CodePoint) : Bool :=
  (0x09 ≤ point.val && point.val ≤ 0x0D) || (0x1C ≤ point.val && point.val ≤ 0x20) ||
    (0x2000 ≤ point.val && point.val ≤ 0x200A) ||
    point.val ∈ [0x85, 0xA0, 0x1680, 0x2028, 0x2029, 0x202F, 0x205F, 0x3000]

/-- `not value.strip()`. -/
def Text.blank (value : Text) : Bool := value.all CodePoint.space

inductive DbcErrorKind where
  | fileNotFound
  | read
  | unsupportedFormat
  | decode
  | parse
  | model
  | assetValidation
  | assetNotFound
  | assetStorage
  | assetRegistry
  | assetIntegrity
  | sourceChanged
  deriving DecidableEq

structure DbcError where
  kind : DbcErrorKind
  code : String
  message : String
  deriving DecidableEq

/-- The classes that Python and its libraries raise. `foreign` is every other one. -/
inductive Fault where
  | sqlite
  | os
  | unicodeEncode
  | unicodeDecode
  | lookup
  | value
  | overflow
  | foreign
  deriving DecidableEq

inductive PyException where
  | dbc (error : DbcError)
  | project (error : Project.ProjectError)
  | builtin (fault : Fault)
  deriving DecidableEq

/-- A typed error of the DBC or the project domain. -/
def PyException.typed : PyException → Bool
  | .dbc _ | .project _ => true
  | .builtin _ => false

def validationError (message : String) : DbcError := ⟨.assetValidation, "dbc.invalid_asset", message⟩

def integrityError (message : String) : DbcError :=
  ⟨.assetIntegrity, "dbc.asset_integrity_failed", message⟩

def storageError (message : String) : DbcError := ⟨.assetStorage, "dbc.asset_storage_failed", message⟩

def registryError (message : String) : DbcError :=
  ⟨.assetRegistry, "dbc.asset_registry_failed", message⟩

def assetDirectory : String := "dbc"

def assetSuffix : String := ".dbc"

def stagingPrefix : String := ".tmp-"

/-- The name of an asset's file inside the `dbc` directory. -/
def assetName (assetId : Uuid) : String := assetId.text ++ assetSuffix

def assetRelativePath (assetId : Uuid) : String := assetDirectory ++ "/" ++ assetName assetId

def stagingName (name : String) : String := stagingPrefix ++ name

/-- A row of `dbc_assets`. `projectId` and `importedAt` are what the stored texts name, if
they name anything; a row is only ever found under a canonical `assetId`. -/
structure AssetRow where
  assetId : Uuid
  projectId : Option Uuid
  sourceName : Text
  relativePath : String
  sha256 : String
  sizeBytes : Int
  encoding : Text
  importedAt : Option DateTime
  deriving DecidableEq

def isDigest (digest : String) : Bool :=
  digest.toList.length = 64 && digest.toList.all fun character => character ∈ "0123456789abcdef".toList

def isPathSeparator (point : CodePoint) : Bool := point = codePoint '/' || point = codePoint '\\'

/-- Refuse the record unless a condition holds. -/
def require (condition : Prop) [Decidable condition] (message : String) : Except DbcError Unit :=
  if condition then .ok () else .error (validationError message)

/-- `DbcAsset.__post_init__`. The bound path passes every check on its form. -/
def AssetRow.check (row : AssetRow) : Except DbcError Unit := do
  require (row.projectId.isSome = true) "project_id is not a UUID."
  require (row.sourceName.blank = false) "source_name must be a non-blank file name."
  require (row.sourceName ≠ text "." ∧ row.sourceName ≠ text ".." ∧
    row.sourceName.any isPathSeparator = false) "source_name must be a file name, not a path."
  require (row.relativePath = assetRelativePath row.assetId)
    "relative_path must be the path this asset identity owns."
  require (isDigest row.sha256 = true) "sha256 must be a lowercase hexadecimal SHA-256 digest."
  require (0 ≤ row.sizeBytes) "size_bytes must be a non-negative integer."
  require (row.encoding.blank = false) "encoding must be a non-blank codec name."
  require (row.importedAt.isSome = true) "imported_at must be a timezone-aware datetime."

theorem require_bind_ok {condition : Prop} [Decidable condition] {message : String}
    {rest : Unit → Except DbcError Unit} :
    (require condition message >>= rest) = .ok () ↔ condition ∧ rest () = .ok () := by
  unfold require
  split
  · rename_i holds
    exact (and_iff_right holds).symm
  · rename_i refused
    constructor
    · nofun
    · exact fun both => absurd both.1 refused

theorem require_ok {condition : Prop} [Decidable condition] {message : String} :
    require condition message = .ok () ↔ condition := by
  unfold require
  split
  · rename_i holds
    exact iff_of_true rfl holds
  · rename_i refused
    exact iff_of_false nofun refused

/-- An asset record that passed its own checks. -/
structure DbcAsset extends AssetRow where
  checked : toAssetRow.check = .ok ()

namespace DbcAsset

def make (row : AssetRow) : Except DbcError DbcAsset :=
  match passed : row.check with
  | .ok () => .ok ⟨row, passed⟩
  | .error error => .error error

variable {row : AssetRow} {asset : DbcAsset}

theorem make_row (made : make row = .ok asset) : asset.toAssetRow = row := by
  unfold make at made
  split at made
  · cases made
    rfl
  · cases made

theorem make_self (asset : DbcAsset) : make asset.toAssetRow = .ok asset := by
  unfold make
  split
  · rfl
  · rename_i error refused
    cases refused.symm.trans asset.checked

theorem passes (asset : DbcAsset) : asset.sourceName.blank = false ∧
    asset.relativePath = assetRelativePath asset.assetId ∧ asset.encoding.blank = false ∧
    asset.importedAt.isSome = true := by
  have checked := asset.checked
  simp only [AssetRow.check, require_bind_ok, require_ok] at checked
  obtain ⟨_, named, _, bound, _, _, codec, instant⟩ := checked
  exact ⟨named, bound, codec, instant⟩

end DbcAsset

/-- Rebuild an asset from a stored row. The instant is read before the record is built. -/
def assetFromRow (row : AssetRow) : Except DbcError DbcAsset :=
  if row.importedAt.isNone then
    .error (integrityError "The stored imported_at is not an ISO-8601 timestamp.")
  else match DbcAsset.make row with
    | .ok asset => .ok asset
    | .error _ => .error (integrityError "A stored DBC asset row does not describe a valid asset.")

/-- A row that an asset was stored as reads back as that asset. -/
theorem assetFromRow_self (asset : DbcAsset) : assetFromRow asset.toAssetRow = .ok asset := by
  obtain ⟨_, _, _, instant⟩ := asset.passes
  have present : ¬ asset.importedAt.isNone = true := by
    rw [Option.isNone_iff_eq_none, ← ne_eq, ← Option.isSome_iff_ne_none]
    exact instant
  rw [assetFromRow, if_neg present, DbcAsset.make_self]

end CanX.Dbc
