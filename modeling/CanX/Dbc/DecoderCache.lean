import CanX.Dbc.Service
import CanX.Dbc.Contract
import CanX.Storage.OrderedMap

/-! The cache of compiled decoders, and the load of a decoder with it and without it, both
interleaved with other loads and with any change of the projects. -/

namespace CanX.Dbc

open Data Transition Storage

variable {Database Decoder Root CallId : Type} {engine : Engine Database}

/-- The owner named by a record that passed its checks. -/
theorem DbcAsset.owned (asset : DbcAsset) : asset.projectId.isSome = true := by
  have checked := asset.checked
  simp only [AssetRow.check, require_bind_ok] at checked
  exact checked.1

def DbcAsset.owner (asset : DbcAsset) : Uuid := asset.projectId.get asset.owned

structure DecoderKey where
  projectId : Uuid
  sha256 : String
  sizeBytes : Int
  encoding : Text
  deriving DecidableEq

def DecoderKey.of (asset : DbcAsset) : DecoderKey :=
  ⟨asset.owner, asset.sha256, asset.sizeBytes, asset.encoding⟩

def defaultMaxEntries : Nat := 8

/-- `DecoderCache`; a bound below one is refused when the cache is made. -/
structure DecoderCache (Decoder : Type) where
  maxEntries : Nat
  positive : 1 ≤ maxEntries
  entries : OrderedMap DecoderKey Decoder
  bounded : entries.size ≤ maxEntries

namespace DecoderCache

variable {cache : DecoderCache Decoder} {key other : DecoderKey} {decoder held : Decoder}

def create (maxEntries : Nat) (positive : 1 ≤ maxEntries) : DecoderCache Decoder :=
  ⟨maxEntries, positive, .empty, Nat.zero_le _⟩

def Holds (cache : DecoderCache Decoder) (key : DecoderKey) (decoder : Decoder) : Prop :=
  (key, decoder) ∈ cache.entries.entries

/-- An entry becomes the most recently used one. -/
def touch (cache : DecoderCache Decoder) (key : DecoderKey) : DecoderCache Decoder :=
  { cache with
    entries := cache.entries.moveToEnd key
    bounded := OrderedMap.moveToEnd_size.trans_le cache.bounded }

def get (cache : DecoderCache Decoder) (key : DecoderKey) : Option Decoder × DecoderCache Decoder :=
  match cache.entries.lookup key with
  | none => (none, cache)
  | some decoder => (some decoder, cache.touch key)

def put (cache : DecoderCache Decoder) (key : DecoderKey) (decoder : Decoder) : DecoderCache Decoder :=
  { cache with
    entries := ((cache.entries.assign key decoder).moveToEnd key).trim cache.maxEntries
    bounded := OrderedMap.trim_size _ }

theorem get_some (found : (cache.get key).1 = some decoder) : cache.Holds key decoder := by
  unfold get at found
  split at found
  · cases found
  · rename_i held present
    cases found
    exact OrderedMap.lookup_some.mp present

theorem get_holds : (cache.get key).2.Holds other held ↔ cache.Holds other held := by
  unfold get
  split
  · rfl
  · exact OrderedMap.mem_moveToEnd

@[simp] theorem get_maxEntries : (cache.get key).2.maxEntries = cache.maxEntries := by
  unfold get
  split
  · rfl
  · rfl

/-- What a cache holds after a `put` is the new entry or was there under another key. -/
theorem put_holds (holds : (cache.put key decoder).Holds other held) :
    (other = key ∧ held = decoder) ∨ cache.Holds other held := by
  have member := OrderedMap.mem_moveToEnd.mp (OrderedMap.mem_of_trim holds)
  rcases OrderedMap.mem_assign.mp member with same | ⟨kept, _⟩
  · cases same
    exact .inl ⟨rfl, rfl⟩
  · exact .inr kept

end DecoderCache

section Computing

variable {Value Other : Type}

/-- The effects that are computations of the process itself: they meet no project and no
fault of the environment. -/
def computed (engine : Engine Database) : (request : DbcEffect) →
    Option (Except PyException (request.Answer Database))
  | .decodeText codec raw => some ((engine.codec codec raw).mapError .builtin)
  | .parseText document => some (engine.parser document)
  | _ => none

def performLoad (engine : Engine Database) (request : DbcEffect) (choice : Choice) (world : ProjectWorld) :
    ProjectWorld × Except PyException (request.Answer Database) :=
  match computed engine request with
  | some answer => (world, answer)
  | none => perform engine request choice world

/-- What a program returns or raises, if all that is left of it is computation. -/
def evaluate (engine : Engine Database) : DbcProgram Database Value → Option (Except PyException Value)
  | .finish result => some result
  | .perform request next => (computed engine request).bind fun answer => evaluate engine (next answer)

theorem evaluate_andThen {program : DbcProgram Database Value} {result : Except PyException Value}
    {next : Except PyException Value → DbcProgram Database Other}
    (evaluated : evaluate engine program = some result) :
    evaluate engine (program.andThen next) = evaluate engine (next result) := by
  induction program with
  | finish value =>
    cases evaluated
    rfl
  | perform request rest ih =>
    obtain ⟨answer, known, value⟩ := Option.bind_eq_some_iff.mp evaluated
    simp only [Program.andThen, evaluate, known]
    exact ih answer value

theorem evaluate_bind {program : DbcProgram Database Value} {value : Value}
    {next : Value → DbcProgram Database Other} (evaluated : evaluate engine program = some (.ok value)) :
    evaluate engine (program >>= next) = evaluate engine (next value) := evaluate_andThen evaluated

theorem evaluate_raised {program : DbcProgram Database Value} {error : PyException}
    {next : Value → DbcProgram Database Other} (evaluated : evaluate engine program = some (.error error)) :
    evaluate engine (program >>= next) = some (.error error) := evaluate_andThen evaluated

/-- Performing an effect of a program that only computes changes neither its value nor the
project. -/
theorem evaluate_next {request : DbcEffect} {choice : Choice} {world : ProjectWorld}
    {next : Except PyException (request.Answer Database) → DbcProgram Database Value}
    {result : Except PyException Value}
    (evaluated : evaluate engine (.perform request next) = some result) :
    (performLoad engine request choice world).1 = world ∧
      evaluate engine (next (performLoad engine request choice world).2) = some result := by
  obtain ⟨answer, known, value⟩ := Option.bind_eq_some_iff.mp evaluated
  rw [performLoad, known]
  exact ⟨rfl, value⟩

end Computing

section Build

/-- `DbcDecoder(self._parse_verified_asset(asset, raw).database)`. -/
def buildDecoder (engine : Engine Database) (compile : Database → Except PyException Decoder)
    (asset : DbcAsset) (raw : Bytes) : DbcProgram Database Decoder := do
  let document ← parseVerifiedAsset engine asset raw
  Program.lift (compile document.database)

/-- The path without a cache. -/
def loadUncached (engine : Engine Database) (compile : Database → Except PyException Decoder)
    (assetId : Option Uuid) : DbcProgram Database Decoder := do
  let (asset, raw) ← readVerifiedAsset engine assetId
  buildDecoder engine compile asset raw

def decodeFailure : Fault → PyException
  | .unicodeDecode =>
    .dbc (decodeError "The DBC source is not valid text under the declared encoding.")
  | .lookup => .dbc (decodeError "The declared DBC encoding is not a known codec.")
  | fault => .builtin fault

/-- Verified bytes that do not parse are a failure of integrity. -/
def mistrusted : PyException → PyException
  | .dbc _ => .dbc (integrityError "The registered DBC asset does not parse as its registry row describes.")
  | error => error

/-- What verified bytes are built into, as a function of the bytes and of their encoding. -/
def built (engine : Engine Database) (compile : Database → Except PyException Decoder)
    (encoding : Text) (raw : Bytes) : Except PyException Decoder :=
  match engine.codec encoding raw with
  | .error fault => .error (mistrusted (decodeFailure fault))
  | .ok decoded =>
    match engine.parser decoded with
    | .error error => .error (mistrusted error)
    | .ok database => compile database

variable {compile : Database → Except PyException Decoder} {asset : DbcAsset} {raw : Bytes}
variable {decoded : Text} {document : DbcDocument Database} {error : PyException}

theorem decode_evaluates {encoding : Text} (read : engine.codec encoding raw = .ok decoded) :
    evaluate engine (decode raw encoding : DbcProgram Database _) = some (.ok decoded) := by
  have asked : evaluate engine (ask (.decodeText encoding raw) : DbcProgram Database _) =
      some (.ok decoded) := by
    simp only [ask, Program.effect, evaluate, computed, read]
    rfl
  exact evaluate_andThen asked

private theorem decode_fails {encoding : Text} {fault : Fault} (refused : engine.codec encoding raw = .error fault) :
    evaluate engine (decode raw encoding : DbcProgram Database _) = some (.error (decodeFailure fault)) := by
  have asked : evaluate engine (ask (.decodeText encoding raw) : DbcProgram Database _) =
      some (.error (.builtin fault)) := by
    simp only [ask, Program.effect, evaluate, computed, refused]
    rfl
  refine (evaluate_andThen asked).trans ?_
  cases fault <;> rfl

private theorem loadBytes_evaluates (asset : DbcAsset) (raw : Bytes) :
    evaluate engine (loadBytes engine raw asset.sourceName (some asset.encoding)) =
      evaluate engine (do
        let decoded ← decode raw asset.encoding
        let database ← ask (.parseText decoded)
        pure ⟨database, asset.sourceName, engine.sha256 raw, raw.length, asset.encoding⟩) := by
  obtain ⟨named, _, encoded, _⟩ := asset.passes
  have sourced : (makeSource engine asset.sourceName raw asset.encoding : DbcProgram Database _) =
      pure ⟨asset.sourceName, engine.sha256 raw, raw.length, asset.encoding⟩ := by
    rw [makeSource, if_neg (by simp [named, encoded])]
  rw [loadBytes, resolveEncoding, if_neg (by simp [encoded])]
  have resolved : evaluate engine (pure asset.encoding : DbcProgram Database Text) =
      some (.ok asset.encoding) := rfl
  refine (evaluate_bind resolved).trans ?_
  simp only [parseBytes, sourced]
  rfl

/-- A load that only computes, or its failure as a failure of integrity. -/
theorem buildDecoder_raises
    (raised : evaluate engine (loadBytes engine raw asset.sourceName (some asset.encoding)) =
      some (.error error)) :
    evaluate engine (buildDecoder engine compile asset raw) = some (.error (mistrusted error)) := by
  have parsed : evaluate engine (parseVerifiedAsset engine asset raw) = some (.error (mistrusted error)) := by
    refine (evaluate_andThen raised).trans ?_
    cases error with
    | dbc refusal => rfl
    | project refusal => rfl
    | builtin fault => rfl
  exact evaluate_raised parsed

private theorem buildDecoder_compiles
    (loaded : evaluate engine (loadBytes engine raw asset.sourceName (some asset.encoding)) =
      some (.ok document)) :
    evaluate engine (buildDecoder engine compile asset raw) = some (compile document.database) := by
  have parsed : evaluate engine (parseVerifiedAsset engine asset raw) = some (.ok document) :=
    evaluate_andThen loaded
  exact evaluate_bind parsed

theorem buildDecoder_evaluates (asset : DbcAsset) (raw : Bytes) :
    evaluate engine (buildDecoder engine compile asset raw) =
      some (built engine compile asset.encoding raw) := by
  have loading : evaluate engine (loadBytes engine raw asset.sourceName (some asset.encoding)) = _ :=
    loadBytes_evaluates asset raw
  cases read : engine.codec asset.encoding raw with
  | error fault =>
    rw [built, read]
    exact buildDecoder_raises (loading.trans (evaluate_raised (decode_fails read)))
  | ok decoded =>
    rw [evaluate_bind (decode_evaluates read)] at loading
    have asked : evaluate engine (ask (.parseText decoded) : DbcProgram Database _) =
        some (engine.parser decoded) := by
      simp only [ask, Program.effect, evaluate, computed, Option.bind_some]
    cases parsed : engine.parser decoded with
    | error error =>
      simp only [built, read, parsed]
      exact buildDecoder_raises (loading.trans (evaluate_raised (asked.trans (congrArg some parsed))))
    | ok database =>
      simp only [built, read, parsed]
      exact buildDecoder_compiles (loading.trans (evaluate_bind (asked.trans (congrArg some parsed))))

end Build

end CanX.Dbc
