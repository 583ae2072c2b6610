import CanX.Dbc.Inspection
import Mathlib.Logic.Function.Basic

/-! Loads of decoders that share one cache, interleaved with each other and with any change of
the projects, and the same loads without a cache. -/

namespace CanX.Dbc

open Data Transition Program

variable {Database Decoder Root CallId : Type} {seen : Set Bytes}

section Process

/-- Where a call of `load_decoder` stands, with its local values. -/
inductive LoadStage (Database Decoder : Type) where
  | verifying (program : DbcProgram Database (DbcAsset × Bytes))
  | consulting (asset : DbcAsset) (raw : Bytes)
  | building (asset : DbcAsset) (raw : Bytes) (program : DbcProgram Database Decoder)
  | storing (asset : DbcAsset) (raw : Bytes) (decoder : Decoder)
  | finished (result : Except PyException Decoder)

/-- What a call does that others can notice. -/
inductive LoadEvent (Decoder : Type) where
  | silent
  | served (asset : DbcAsset) (raw : Bytes) (decoder : Decoder)
  | stored (asset : DbcAsset) (raw : Bytes) (decoder : Decoder)

/-- `alter` is any change of a project between two effects of the calls. -/
inductive LoadLabel (Root CallId : Type) where
  | alter (root : Root) (world : ProjectWorld)
  | start (call : CallId) (root : Root) (assetId : Option Uuid)
  | advance (call : CallId) (choice : Choice)

/-- What one step of a call makes of its stage, its project and the cache. -/
structure LoadOutcome (Database Decoder : Type) where
  stage : LoadStage Database Decoder
  world : ProjectWorld
  cache : DecoderCache Decoder
  event : LoadEvent Decoder

/-- `load_decoder`, one effect at a time. -/
def LoadStage.next (engine : Engine Database) (compile : Database → Except PyException Decoder)
    (choice : Choice) (world : ProjectWorld) (cache : DecoderCache Decoder) :
    LoadStage Database Decoder → LoadOutcome Database Decoder
  | .verifying (.perform request rest) =>
    let performed := performLoad engine request choice world
    ⟨.verifying (rest performed.2), performed.1, cache, .silent⟩
  | .verifying (.finish (.ok (asset, raw))) => ⟨.consulting asset raw, world, cache, .silent⟩
  | .verifying (.finish (.error error)) => ⟨.finished (.error error), world, cache, .silent⟩
  | .consulting asset raw =>
    match cache.get (DecoderKey.of asset) with
    | (some decoder, touched) => ⟨.finished (.ok decoder), world, touched, .served asset raw decoder⟩
    | (none, same) => ⟨.building asset raw (buildDecoder engine compile asset raw), world, same, .silent⟩
  | .building asset raw (.perform request rest) =>
    let performed := performLoad engine request choice world
    ⟨.building asset raw (rest performed.2), performed.1, cache, .silent⟩
  | .building asset raw (.finish (.ok decoder)) => ⟨.storing asset raw decoder, world, cache, .silent⟩
  | .building _ _ (.finish (.error error)) => ⟨.finished (.error error), world, cache, .silent⟩
  | .storing asset raw decoder =>
    ⟨.finished (.ok decoder), world, cache.put (DecoderKey.of asset) decoder, .stored asset raw decoder⟩
  | .finished result => ⟨.finished result, world, cache, .silent⟩

/-- One process: any number of projects and of calls, and its one cache. -/
structure LoadProcess (Database Decoder Root CallId : Type) where
  worlds : Root → ProjectWorld
  cache : DecoderCache Decoder
  calls : CallId → Option (Root × LoadStage Database Decoder)

variable [DecidableEq Root] [DecidableEq CallId]

def loadStep (engine : Engine Database) (compile : Database → Except PyException Decoder)
    (process : LoadProcess Database Decoder Root CallId) :
    LoadLabel Root CallId → Option (LoadProcess Database Decoder Root CallId × LoadEvent Decoder)
  | .alter root world => some ({ process with worlds := Function.update process.worlds root world }, .silent)
  | .start call root assetId =>
    match process.calls call with
    | some _ => none
    | none =>
      let fresh := some (root, .verifying (readVerifiedAsset engine assetId))
      some ({ process with calls := Function.update process.calls call fresh }, .silent)
  | .advance call choice =>
    match process.calls call with
    | none => none
    | some (root, stage) =>
      let outcome := stage.next engine compile choice (process.worlds root) process.cache
      some ({
        worlds := Function.update process.worlds root outcome.world
        cache := outcome.cache
        calls := Function.update process.calls call (some (root, outcome.stage)) }, outcome.event)

/-- The same process without a cache: a call is what is left of `load_asset` and the build. -/
structure UncachedProcess (Database Decoder Root CallId : Type) where
  worlds : Root → ProjectWorld
  calls : CallId → Option (Root × DbcProgram Database Decoder)

/-- One effect of a call; a call that is over stays as it is. -/
def uncachedNext (engine : Engine Database) (choice : Choice) (world : ProjectWorld) :
    DbcProgram Database Decoder → DbcProgram Database Decoder × ProjectWorld
  | .finish result => (.finish result, world)
  | .perform request rest =>
    let performed := performLoad engine request choice world
    (rest performed.2, performed.1)

def uncachedStep (engine : Engine Database) (compile : Database → Except PyException Decoder)
    (process : UncachedProcess Database Decoder Root CallId) :
    LoadLabel Root CallId → Option (UncachedProcess Database Decoder Root CallId × Unit)
  | .alter root world => some ({ process with worlds := Function.update process.worlds root world }, ())
  | .start call root assetId =>
    match process.calls call with
    | some _ => none
    | none =>
      let fresh := some (root, loadUncached engine compile assetId)
      some ({ process with calls := Function.update process.calls call fresh }, ())
  | .advance call choice =>
    match process.calls call with
    | none => none
    | some (root, program) =>
      let outcome := uncachedNext engine choice (process.worlds root) program
      some ({
        worlds := Function.update process.worlds root outcome.2
        calls := Function.update process.calls call (some (root, outcome.1)) }, ())

end Process

section Coupling

/-- What is left to do for a call at a stage, were there no cache. -/
def LoadStage.uncached (engine : Engine Database) (compile : Database → Except PyException Decoder) :
    LoadStage Database Decoder → DbcProgram Database Decoder
  | .verifying program => program >>= fun verified => buildDecoder engine compile verified.1 verified.2
  | .consulting asset raw => buildDecoder engine compile asset raw
  | .building _ _ program => program
  | .storing _ _ decoder => .finish (.ok decoder)
  | .finished result => .finish result

/-- A call without a cache stands where the call with the cache stands, or all that both have
left to do is to compute one result. -/
inductive Coupled (engine : Engine Database) (compile : Database → Except PyException Decoder)
    (stage : LoadStage Database Decoder) (program : DbcProgram Database Decoder) : Prop where
  | same (equal : program = stage.uncached engine compile)
  | due (result : Except PyException Decoder)
    (owed : evaluate engine (stage.uncached engine compile) = some result)
    (computes : evaluate engine program = some result)

/-- What a call's local values are known to be. -/
def LoadStage.Sound (engine : Engine Database) (compile : Database → Except PyException Decoder)
    (seen : Set Bytes) : LoadStage Database Decoder → Prop
  | .verifying program => Verifies engine seen program
  | .consulting asset raw => Verified engine seen asset raw
  | .building asset raw program => Verified engine seen asset raw ∧
    evaluate engine program = some (built engine compile asset.encoding raw)
  | .storing asset raw decoder => Verified engine seen asset raw ∧
    built engine compile asset.encoding raw = .ok decoder
  | .finished _ => True

/-- What an entry of the cache was made from. -/
structure MadeFrom (engine : Engine Database) (compile : Database → Except PyException Decoder)
    (seen : Set Bytes) (key : DecoderKey) (decoder : Decoder) (asset : DbcAsset) (raw : Bytes) : Prop where
  named : key = DecoderKey.of asset
  verified : Verified engine seen asset raw
  compiled : built engine compile asset.encoding raw = .ok decoder

end Coupling

end CanX.Dbc
