import CanX.Dbc.Persistence

/-! The import of an asset as a whole: it stores a row and a file that load back, or it
raises a typed error and leaves the project as it was. -/

namespace CanX.Dbc

open Data Transition Program

variable {Database : Type} {engine : Engine Database} {seen : Set Bytes} {world after : ProjectWorld} {raw : Bytes}
variable {document : DbcDocument Database} {asset : DbcAsset} {projectId : Uuid}

/-- The world with an asset's file and its row. -/
def ProjectWorld.withAsset (world : ProjectWorld) (asset : DbcAsset) (raw : Bytes) : ProjectWorld :=
  { world.withFile (assetName asset.assetId) (some (.regular raw)) with
    rows := world.rows ++ [asset.toAssetRow] }

/-- What a successful import has stored. -/
structure Stored (engine : Engine Database) (world : ProjectWorld) (projectId : Uuid) (raw : Bytes)
    (document : DbcDocument Database) (asset : DbcAsset) (after : ProjectWorld) : Prop where
  described : Describes engine raw document
  ready : world.registry = .ready
  place : world.place = .inside
  accepted : asset.toAssetRow.accepted world.rows = true
  row : ∃ importedAt, asset.toAssetRow = assetRow asset.assetId projectId document.source importedAt
  stored : after = world.withAsset asset raw

private theorem stagingName_ne (name : String) : stagingName name ≠ name := by
  intro same
  have longer := congrArg String.length same
  rw [stagingName, String.length_append] at longer
  have staged : stagingPrefix.length = 5 := by decide
  omega

/-- Registering a stored file, or taking it back. -/
theorem registry_stores (settled : world.pending = none)
    (free : world.files (assetName asset.assetId) = none) :
    Contract engine seen (At (world.withFile (assetName asset.assetId) (some (.regular raw))))
      ((assetConnection (insertAsset asset)).catching fun
        | .dbc error => do
          removeQuietly (assetName asset.assetId)
          raise (.dbc error)
        | error => raise error)
      (Ends Typed (fun _ after => after = world) (fun _ after => world.registry = .ready ∧
        asset.toAssetRow.accepted world.rows = true ∧ after = world.withAsset asset raw)) := by
  have kept : (world.withFile (assetName asset.assetId) (some (.regular raw))).pending = none := settled
  have registered : Contract engine seen (At (world.withFile (assetName asset.assetId) (some (.regular raw))))
      (assetConnection (insertAsset asset))
      (Ends Typed (fun error after => Refused error ∧
          after = world.withFile (assetName asset.assetId) (some (.regular raw)))
        (fun _ after => world.registry = .ready ∧ asset.toAssetRow.accepted world.rows = true ∧
          after = world.withAsset asset raw)) := by
    apply assetConnection_shuts kept
    · intro ready
      apply (insertAsset_registers kept).mono (fun _ => .rfl) (fun _ _ _ reached => reached)
      exact fun _ _ reached => ⟨ready, reached⟩
    · rintro _ _ ⟨_, _, rfl⟩
      exact settled
  apply Contract.caught registered
  · rintro _ _ _ ⟨⟨refusal, rfl⟩, rfl⟩
    exact removing_restores free (.inr ⟨raw, rfl⟩)
  · intro error untyped
    cases error with
    | dbc refusal => exact absurd rfl untyped
    | project refusal => exact absurd rfl untyped
    | builtin fault => exact .lost_raised untyped

theorem persist_stores (settled : world.pending = none) (described : Describes engine raw document) :
    Contract engine seen (At world) (persistImportedDocument projectId document raw)
      (Ends Typed (fun _ after => after = world) (Stored engine world projectId raw document)) := by
  apply Reads.then (ask_reads (P := world.Fresh) (perform_quiet (fun _ => rfl) (fun _ => rfl))
    (fun _ => rfl) ?_)
  · intro assetId fresh
    apply Reads.then (ask_reads (P := fun _ => True) (perform_quiet (fun _ => rfl) (fun _ => rfl))
      (fun _ => rfl) (fun _ _ _ _ => trivial))
    intro importedAt _
    cases built : DbcAsset.make (assetRow assetId projectId document.source importedAt) with
    | error refusal => exact .raised rfl rfl
    | ok asset =>
      have row := DbcAsset.make_row built
      have identity : asset.assetId = assetId := congrArg AssetRow.assetId row
      apply Reads.then (resolveAssetPath_reads asset)
      rintro _ ⟨rfl, place, _⟩
      obtain ⟨free, unstaged⟩ := identity.symm ▸ fresh
      apply Contract.sequence (stageAsset_stages _ raw free unstaged (stagingName_ne _))
      rintro _ _ rfl
      apply Contract.sequence (registry_stores settled free)
      rintro _ _ ⟨ready, accepted, rfl⟩
      apply Contract.returned
      refine ⟨described, ready, place, accepted, ⟨importedAt, ?_⟩, rfl⟩
      rw [identity]
      exact row
  · intro choice assetId assumed answered
    cases (perform_ok answered).1
    exact assumed

section Loading

/-- The environment of a call that meets no fault. -/
def calm : Choice where
  fault := none
  uuid := ⟨"", by decide⟩
  instant := 0
  present := true
  content := []
  written := none

/-- A call that meets no fault answers. -/
abbrev Calmly (engine : Engine Database) {Value : Type} (program : DbcProgram Database Value)
    (world : ProjectWorld) (value : Value) (after : ProjectWorld) : Prop :=
  program.Answers (perform engine) calm world value after

variable {Value : Type} {program : DbcProgram Database Value}

theorem calmly_ask {request : DbcEffect} {value : request.Answer Database}
    (acted : act engine request calm world = (after, .ok value)) :
    Calmly engine (ask request) world value after := by
  have performed : perform engine request calm world = (after, .ok value) := acted
  simp only [Answers, ask, Program.effect, Program.run]
  rw [show ([] : List Choice).headD calm = calm from rfl, performed]
  rfl

theorem calmly_rescuing {caught : Fault} {recovery : DbcProgram Database Value} {value : Value}
    (answered : Calmly engine program world value after) :
    Calmly engine (rescuing program caught recovery) world value after := answered.caught

theorem calmly_unless {condition : Prop} [Decidable condition] {refusal : DbcError} (holds : condition) :
    Calmly engine (unlessRaise condition refusal) world () world := by
  rw [unlessRaise, if_pos holds]
  rfl

theorem calmly_connection {body : DbcProgram Database Value} {value : Value}
    (ready : world.registry = .ready) (settled : after.pending = none)
    (answered : Calmly engine body world value after) :
    Calmly engine (assetConnection body) world value after := by
  have present : act engine .databaseIsFile calm world = (world, .ok true) := by simp [act, ready]
  have opened : act engine .openDatabase calm world = (world, .ok ()) := by simp [act, ready]
  have listed : act engine .hasAssetsTable calm world = (world, .ok true) := by simp [act, ready]
  have closed : act engine .close calm after = (after, .ok ()) := by
    rw [act, withPending_none settled]
  apply Answers.bind (calmly_ask present)
  apply Answers.bind (calmly_unless rfl)
  apply Answers.bind (Answers.caught (calmly_ask opened))
  have inner : Calmly engine (do
      let listed ← translating (ask .hasAssetsTable) .sqlite
        ⟨.assetRegistry, "dbc.project_database_unavailable",
          "The project database schema could not be inspected."⟩
      unlessRaise (listed = true) ⟨.assetRegistry, "dbc.project_database_unavailable",
        "The project database is missing the DBC asset registry table."⟩
      body) world value after := by
    apply Answers.bind (calmly_rescuing (calmly_ask listed))
    apply Answers.bind (calmly_unless rfl)
    exact answered
  refine Eq.trans run_andThen ?_
  rw [inner]
  exact Answers.bind (calmly_rescuing (calmly_ask closed)) rfl

theorem find_added {rows : List AssetRow} {row : AssetRow} (accepted : row.accepted rows = true) :
    (rows ++ [row]).find? (fun stored => decide (stored.assetId = row.assetId)) = some row := by
  have others : ∀ stored ∈ rows, stored.assetId ≠ row.assetId := by
    simp only [AssetRow.accepted, Bool.and_eq_true, List.all_eq_true, decide_eq_true_eq] at accepted
    exact fun stored member => (accepted.2 stored member).1
  have absent : rows.find? (fun stored => decide (stored.assetId = row.assetId)) = none := by
    apply List.find?_eq_none.mpr
    intro stored member
    simpa using others stored member
  rw [List.find?_append, absent, Option.none_or]
  simp

/-- The world holds a row and the very bytes it describes. -/
structure Intact (engine : Engine Database) (world : ProjectWorld) (asset : DbcAsset) (raw : Bytes) :
    Prop where
  owner : ∃ projectId, world.identity = .ok projectId ∧ asset.projectId = some projectId
  ready : world.registry = .ready
  settled : world.pending = none
  place : world.place = .inside
  row : world.rows.find? (fun stored => decide (stored.assetId = asset.assetId)) = some asset.toAssetRow
  file : world.files (assetName asset.assetId) = some (.regular raw)
  size : asset.sizeBytes = raw.length
  digest : asset.sha256 = engine.sha256 raw

theorem Intact.reads (intact : Intact engine world asset raw) :
    Calmly engine (readVerifiedAsset engine (some asset.assetId)) world (asset, raw) world := by
  obtain ⟨⟨projectId, owner, owned⟩, ready, settled, place, row, file, size, digest⟩ := intact
  obtain ⟨named, bound, codec, _⟩ := asset.passes
  have opened : act engine .openProject calm world = (world, .ok projectId) := by
    simp only [act, owner]
    rfl
  have selected : act engine (.selectAsset asset.assetId) calm world =
      (world, .ok (some asset.toAssetRow)) := by
    simp only [act, row]
  have found : Calmly engine (readAsset asset.assetId) world (some asset) world := by
    apply Answers.bind (calmly_rescuing (calmly_ask selected))
    simp only [assetFromRow_self]
    rfl
  have held : Calmly engine (getAsset (some asset.assetId)) world asset world := by
    apply Answers.bind (calmly_ask opened)
    apply Answers.bind (calmly_connection ready settled found)
    apply Answers.bind (calmly_unless owned)
    rfl
  have placed : act engine .resolveDirectory calm world = (world, .ok .inside) := by
    simp only [act, place]
  have contained : act engine (.resolveCandidate (assetName asset.assetId)) calm world =
      (world, .ok true) := by
    simp [act, file]
  have resolved : Calmly engine (resolveAssetPath asset) world (assetName asset.assetId) world := by
    apply Answers.bind (calmly_unless bound)
    apply Answers.bind (calmly_ask placed)
    apply Answers.bind (calmly_unless (by simp))
    apply Answers.bind (calmly_unless (by simp))
    apply Answers.bind (calmly_ask contained)
    apply Answers.bind (calmly_unless rfl)
    rfl
  have regular : act engine (.assetIsFile (assetName asset.assetId)) calm world = (world, .ok true) := by
    simp only [act, file]
  have content : act engine (.readAsset (assetName asset.assetId)) calm world = (world, .ok raw) := by
    simp only [act, file]
  have read : Calmly engine (readAssetBytes engine (assetName asset.assetId) asset) world raw world := by
    apply Answers.bind (calmly_ask regular)
    apply Answers.bind (calmly_unless rfl)
    apply Answers.bind (calmly_rescuing (calmly_ask content))
    apply Answers.bind (calmly_unless size.symm)
    apply Answers.bind (calmly_unless digest.symm)
    rfl
  apply Answers.bind held
  apply Answers.bind resolved
  apply Answers.bind read
  rfl

/-- Verified bytes parse as they did when they were imported. -/
theorem Describes.parses (described : Describes engine raw document)
    (name : asset.sourceName = document.source.name)
    (encoding : asset.encoding = document.source.encoding) :
    Calmly engine (parseVerifiedAsset engine asset raw) world document world := by
  obtain ⟨named, _, codec, _⟩ := asset.passes
  obtain ⟨digest, size, _, decoded, read, parsed⟩ := described
  have decodes : act engine (.decodeText asset.encoding raw) calm world = (world, .ok decoded) := by
    simp only [act, encoding, read]
    rfl
  have parses : act engine (.parseText decoded) calm world = (world, .ok document.database) := by
    simp only [act, parsed]
  have resolves : Calmly engine (resolveEncoding (some asset.encoding)) world asset.encoding world := by
    simp only [resolveEncoding, codec]
    rfl
  have source : document.source = ⟨asset.sourceName, engine.sha256 raw, raw.length, asset.encoding⟩ := by
    rw [name, encoding, ← digest, ← size]
  have makes : Calmly engine (makeSource engine asset.sourceName raw asset.encoding) world
      document.source world := by
    rw [makeSource, if_neg (by simp [named, codec]), source]
    rfl
  apply Answers.caught
  apply Answers.bind resolves
  apply Answers.bind (Answers.caught (calmly_ask decodes))
  apply Answers.bind (calmly_ask parses)
  apply Answers.bind makes
  rfl

theorem Stored.intact (stored : Stored engine world projectId raw document asset after)
    (settled : world.pending = none) (owner : world.identity = .ok projectId) :
    Intact engine after asset raw := by
  obtain ⟨described, ready, place, accepted, ⟨importedAt, row⟩, rfl⟩ := stored
  refine ⟨⟨projectId, owner, congrArg AssetRow.projectId row⟩, ready, settled, place,
    find_added accepted, Function.update_self .., ?_, ?_⟩
  · rw [row]
    exact described.size
  · rw [row]
    exact described.digest

/-- What an import has stored loads back as the imported document. -/
theorem Stored.loads (stored : Stored engine world projectId raw document asset after)
    (settled : world.pending = none) (owner : world.identity = .ok projectId) :
    Calmly engine (loadAsset engine (some asset.assetId)) after document after := by
  have reads := (stored.intact settled owner).reads
  obtain ⟨importedAt, row⟩ := stored.row
  apply Answers.bind reads
  exact stored.described.parses (congrArg AssetRow.sourceName row) (congrArg AssetRow.encoding row)

end Loading

/-- The two entry points of an import. -/
inductive ImportRequest where
  | file (name : Text) (encoding : Option Text)
  | content (raw : Bytes) (name : Text) (encoding : Option Text)

def ImportRequest.program (engine : Engine Database) : ImportRequest → DbcProgram Database DbcAsset
  | .file name encoding => importAsset engine name encoding
  | .content raw name encoding => importAssetBytes engine raw name encoding

/-- The bytes that an import is about: those given, or some that reading its source answers. -/
def ImportRequest.Source (seen : Set Bytes) (raw : Bytes) : ImportRequest → Prop
  | .file _ _ => raw ∈ seen
  | .content given _ _ => raw = given

/-- What an import promises of its outcome. -/
def AllOrNothing (engine : Engine Database) (seen : Set Bytes) (request : ImportRequest) (world : ProjectWorld) :
    Except PyException DbcAsset → ProjectWorld → Prop
  | .ok asset, after => asset.toAssetRow ∈ after.rows ∧ ∃ raw document decoded, request.Source seen raw ∧
    after.files (assetName asset.assetId) = some (.regular raw) ∧
    asset.sha256 = engine.sha256 raw ∧ engine.codec asset.encoding raw = .ok decoded ∧
    engine.parser decoded = .ok document.database ∧ document.source.sha256 = asset.sha256 ∧
    Calmly engine (loadAsset engine (some asset.assetId)) after document after
  | .error error, after => error.typed = true ∧ after.rows = world.rows ∧ after.files = world.files

private theorem import_ends (request : ImportRequest) (distinct : seen.InjOn engine.sha256)
    (settled : world.pending = none) :
    Contract engine seen (At world) (request.program engine)
      (Ends Typed (fun _ after => after = world) (fun asset after => ∃ projectId raw document,
        world.identity = .ok projectId ∧ Stored engine world projectId raw document asset after ∧
        request.Source seen raw)) := by
  cases request with
  | file name encoding =>
    apply Reads.then openProject_reads
    intro projectId owner
    apply Reads.then (importFile_reads name encoding)
    intro document described
    apply Reads.then (rereadVerified_reads distinct described)
    rintro raw ⟨read, known⟩
    apply (persist_stores settled known).mono (fun _ => .rfl) (fun _ _ _ same => same)
    exact fun asset after stored => ⟨projectId, raw, document, owner, stored, read⟩
  | content given name encoding =>
    apply Reads.then openProject_reads
    intro projectId owner
    apply Reads.then (importBytes_reads given name encoding)
    intro document known
    apply (persist_stores settled known).mono (fun _ => .rfl) (fun _ _ _ same => same)
    exact fun asset after stored => ⟨projectId, given, document, owner, stored, rfl⟩

/-- An import is all-or-nothing exactly where every exception that one of its steps raises is
of a class that the code around the step translates. -/
theorem import_allOrNothing_iff {choices : List Choice} (request : ImportRequest)
    (distinct : seen.InjOn engine.sha256) (settled : world.pending = none)
    (assumed : (request.program engine).Along (perform engine) (Assumed seen) calm choices world) :
    AllOrNothing engine seen request world
        ((request.program engine).run (perform engine) calm choices world).1
        ((request.program engine).run (perform engine) calm choices world).2.1 ↔
      (request.program engine).Along (perform engine) (Handled engine) calm choices world := by
  have ended := Triple.observed (fun _ => rfl) (import_ends request distinct settled)
    ⟨rfl, not_false⟩ assumed
  generalize (request.program engine).run (perform engine) calm choices world = outcome at ended ⊢
  obtain ⟨result, after, rest⟩ := outcome
  cases result with
  | error error =>
    obtain ⟨flagged, reached⟩ := ended
    constructor
    · rintro ⟨typed, _, _⟩
      by_contra unhandled
      exact flagged.mp unhandled typed
    · intro handled
      have same : after = world := reached (not_not_intro handled)
      have typed : Typed error := by
        by_contra untyped
        exact flagged.mpr untyped handled
      rw [same]
      exact ⟨typed, rfl, rfl⟩
  | ok asset =>
    obtain ⟨handled, projectId, raw, document, owner, stored, given⟩ := ended
    refine iff_of_true ?_ (not_not.mp handled)
    have loads := stored.loads settled owner
    obtain ⟨importedAt, row⟩ := stored.row
    have source : asset.sha256 = document.source.sha256 := congrArg AssetRow.sha256 row
    have encoding : asset.encoding = document.source.encoding := congrArg AssetRow.encoding row
    obtain ⟨decoded, read, parsed⟩ := stored.described.parsed
    refine ⟨?_, raw, document, decoded, given, ?_, ?_, encoding ▸ read, parsed, source.symm, loads⟩
    · rw [stored.stored]
      exact List.mem_append_right _ List.mem_cons_self
    · rw [stored.stored]
      exact Function.update_self ..
    · rw [source]
      exact stored.described.digest

/-- The text of a document that declares nothing but its version. -/
def sampleBytes : Bytes := [86, 69, 82, 83, 73, 79, 78, 32, 34, 34, 10]

/-- An engine that knows the digest of that document and reads ASCII. -/
def sampleEngine : Engine Text where
  sha256 raw := if raw = sampleBytes then
      "a57466cbb3d4d94324e1ec30631be85cda39b8bdfa962ad5f96828fe6d1cb3fd"
    else "e3b0c44298fc1c149afbf4c8996fb92427ae41e4649b934ca495991b7852b855"
  codec _ raw := if raw.all (· < 128) then .ok (raw.map fun byte => Fin.ofNat _ byte.toNat)
    else .error .unicodeDecode
  parser document := .ok document
  digest raw := by
    split
    · decide
    · decide

theorem sampleProject_uuid : "2f1c3d4e-5a6b-4c7d-8e9f-0a1b2c3d4e5f".toList.all isUuidCharacter = true := by
  decide

def sampleProject : ProjectWorld where
  identity := .ok ⟨"2f1c3d4e-5a6b-4c7d-8e9f-0a1b2c3d4e5f", sampleProject_uuid⟩
  registry := .ready
  rows := []
  pending := none
  place := .inside
  files _ := none

def sampleChoice : Choice where
  fault := none
  uuid := ⟨"7d9f2c10-3b4a-4e5d-9c8b-1a2b3c4d5e6f", by decide⟩
  instant := 0
  present := true
  content := sampleBytes
  written := none

/-- The executable form of `Assumed`, where sources hold the sample document. -/
def assumedTest (world : ProjectWorld) (request : DbcEffect) (choice : Choice) : Bool :=
  match request with
  | .removeFile _ => choice.fault = none
  | .uuid4 => world.files (assetName choice.uuid) = none &&
    world.files (stagingName (assetName choice.uuid)) = none
  | .readSource => choice.content = sampleBytes
  | _ => true

private theorem assumedTest_sound (world : ProjectWorld) (request : DbcEffect) (choice : Choice)
    (passed : assumedTest world request choice = true) : Assumed {sampleBytes} world request choice := by
  cases request with
  | removeFile name =>
    have removed : choice.fault = none := of_decide_eq_true passed
    exact removed
  | uuid4 =>
    obtain ⟨free, unstaged⟩ := Bool.and_eq_true_iff.mp passed
    exact ⟨of_decide_eq_true free, of_decide_eq_true unstaged⟩
  | readSource =>
    have held : choice.content = sampleBytes := of_decide_eq_true passed
    exact held
  | _ => trivial

/-- What is seen of an outcome: the error, the sample asset's file and the number of rows. -/
def outcomeSeen (outcome : Except PyException DbcAsset × ProjectWorld × List Choice) :
    Option PyException × Option AssetFile × ℕ :=
  (match outcome.1 with
    | .ok _ => none
    | .error error => some error,
    outcome.2.1.files (assetName sampleChoice.uuid), outcome.2.1.rows.length)

def sampleRequest : ImportRequest := .file (text "vehicle.dbc") none

/-- A name with an unpaired surrogate, which the import accepts. -/
def surrogateRequest : ImportRequest :=
  .content sampleBytes (text "vehicle" ++ [0xD800] ++ text ".dbc") none

private theorem assumed_of_test {request : ImportRequest} {choices : List Choice}
    (passed : (request.program sampleEngine).alongWithin (perform sampleEngine) assumedTest calm choices
      sampleProject = true) :
    (request.program sampleEngine).Along (perform sampleEngine) (Assumed {sampleBytes}) calm choices
      sampleProject :=
  Along.of_within assumedTest_sound passed

/-- The executable form of `Handled`. -/
def handledTest (world : ProjectWorld) (request : DbcEffect) (choice : Choice) : Bool :=
  match (perform sampleEngine request choice world).2 with
  | .error (.builtin fault) => translates request fault
  | _ => true

private theorem handledTest_sound (world : ProjectWorld) (request : DbcEffect) (choice : Choice)
    (passed : handledTest world request choice = true) : Handled sampleEngine world request choice := by
  intro fault raised
  rw [handledTest, raised] at passed
  exact passed

/-- An undisturbed import of the sample document from a file. -/
theorem import_allOrNothing_sample :
    AllOrNothing sampleEngine {sampleBytes} sampleRequest sampleProject
      ((sampleRequest.program sampleEngine).run (perform sampleEngine) calm
        (List.replicate 40 sampleChoice) sampleProject).1
      ((sampleRequest.program sampleEngine).run (perform sampleEngine) calm
        (List.replicate 40 sampleChoice) sampleProject).2.1 := by
  have assumed : (sampleRequest.program sampleEngine).alongWithin (perform sampleEngine) assumedTest calm
      (List.replicate 40 sampleChoice) sampleProject = true := by
    decide +kernel
  have handled : (sampleRequest.program sampleEngine).alongWithin (perform sampleEngine) handledTest calm
      (List.replicate 40 sampleChoice) sampleProject = true := by
    decide +kernel
  exact (import_allOrNothing_iff sampleRequest (Set.injOn_singleton _ _) rfl
    (assumed_of_test assumed)).mpr (Along.of_within handledTest_sound handled)

/-- A source name with an unpaired surrogate is accepted, staged and promoted; binding it then
raises an error that nothing translates, and the file stays without a row. -/
theorem surrogate_leaves_orphan :
    (surrogateRequest.program sampleEngine).Along (perform sampleEngine) (Assumed {sampleBytes}) calm
        (List.replicate 40 sampleChoice) sampleProject ∧
      outcomeSeen ((surrogateRequest.program sampleEngine).run (perform sampleEngine) calm
        (List.replicate 40 sampleChoice) sampleProject) =
          (some (.builtin .unicodeEncode), some (.regular sampleBytes), 0) ∧
      ¬ AllOrNothing sampleEngine {sampleBytes} surrogateRequest sampleProject
        ((surrogateRequest.program sampleEngine).run (perform sampleEngine) calm
          (List.replicate 40 sampleChoice) sampleProject).1
        ((surrogateRequest.program sampleEngine).run (perform sampleEngine) calm
          (List.replicate 40 sampleChoice) sampleProject).2.1 := by
  have assumed : (surrogateRequest.program sampleEngine).alongWithin (perform sampleEngine) assumedTest
      calm (List.replicate 40 sampleChoice) sampleProject = true := by
    decide +kernel
  have seen : outcomeSeen ((surrogateRequest.program sampleEngine).run (perform sampleEngine) calm
      (List.replicate 40 sampleChoice) sampleProject) =
        (some (.builtin .unicodeEncode), some (.regular sampleBytes), 0) := by
    decide +kernel
  refine ⟨assumed_of_test assumed, seen, ?_⟩
  generalize (surrogateRequest.program sampleEngine).run (perform sampleEngine) calm
    (List.replicate 40 sampleChoice) sampleProject = outcome at seen ⊢
  obtain ⟨result, after, rest⟩ := outcome
  cases result with
  | ok asset => cases congrArg Prod.fst seen
  | error error =>
    rintro ⟨typed, _, _⟩
    cases congrArg Prod.fst seen
    cases typed

/-- Without the surrogate the same bytes are stored, with their row. -/
example : outcomeSeen (((ImportRequest.content sampleBytes (text "vehicle.dbc") none).program sampleEngine).run
    (perform sampleEngine) calm (List.replicate 40 sampleChoice) sampleProject) =
      (none, some (.regular sampleBytes), 1) := by
  decide +kernel

end CanX.Dbc
