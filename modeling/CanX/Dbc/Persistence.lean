import CanX.Dbc.Contract

/-! What the functions of an import promise, each about a world in which no transaction is
open: reading functions change nothing, and those that write leave either what they promise
or the world they were called in. -/

namespace CanX.Dbc

open Data Transition Program

variable {Database Value Other : Type} {engine : Engine Database} {seen : Set Bytes}
variable {world : ProjectWorld}

/-- A function that reads: it leaves the world as it is, and its errors are typed. -/
def Reads (world : ProjectWorld) (returns : Value → Prop) :
    Except PyException Value → Watched → Prop :=
  Ends Typed (fun _ after => after = world) (fun value after => after = world ∧ returns value)

theorem Reads.then {program : DbcProgram Database Value} {next : Value → DbcProgram Database Other}
    {P : Value → Prop} {goal : Other → ProjectWorld → Prop}
    (first : Contract engine seen (At world) program (Reads world P))
    (second : ∀ value, P value →
      Contract engine seen (At world) (next value) (Ends Typed (fun _ after => after = world) goal)) :
    Contract engine seen (At world) (program >>= next) (Ends Typed (fun _ after => after = world) goal) := by
  apply Contract.sequence first
  rintro value after ⟨rfl, holds⟩
  exact second value holds

section Reading

theorem unlessRaise_reads (condition : Prop) [Decidable condition] (error : DbcError) :
    Contract engine seen (At world) (unlessRaise condition error) (Reads world fun _ => condition) := by
  unfold unlessRaise
  split
  · rename_i holds
    exact .returned ⟨rfl, holds⟩
  · exact .raised rfl rfl

/-- An effect without a handler that only answers. -/
theorem ask_reads {request : DbcEffect} {P : request.Answer Database → Prop}
    (quiet : ∀ choice, (perform engine request choice world).1 = world)
    (bare : ∀ fault, translates request fault = false)
    (answers : ∀ choice value, Assumed seen world request choice →
      (perform engine request choice world).2 = .ok value → P value) :
    Contract engine seen (At world) (ask request) (Reads world P) :=
  (Contract.reading quiet answers).uncaught bare

/-- Performing an effect that changes nothing, faulty or not. -/
theorem perform_quiet {request : DbcEffect} (act_quiet : ∀ choice, (act engine request choice world).1 = world)
    (disturbed_quiet : ∀ choice, disturbed request choice world = world) (choice : Choice) :
    (perform engine request choice world).1 = world := by
  unfold perform
  split
  · exact disturbed_quiet choice
  · exact act_quiet choice

/-- An effect that answers has met no fault. -/
theorem perform_ok {request : DbcEffect} {choice : Choice} {value : request.Answer Database}
    (answered : (perform engine request choice world).2 = .ok value) :
    (act engine request choice world).2 = .ok value ∧
      (perform engine request choice world).1 = (act engine request choice world).1 := by
  unfold perform at answered ⊢
  split at answered
  · cases answered
  · exact ⟨answered, rfl⟩

theorem openProject_reads :
    Contract engine seen (At world) (ask .openProject) (Reads world fun owner => world.identity = .ok owner) := by
  apply ask_reads (perform_quiet (fun _ => rfl) (fun _ => rfl)) (fun _ => rfl)
  intro choice value _ answered
  have identity : world.identity.mapError PyException.project = .ok value := (perform_ok answered).1
  cases owner : world.identity with
  | ok found =>
    rw [owner] at identity
    cases identity
    rfl
  | error refusal =>
    rw [owner] at identity
    cases identity

theorem requireImportSourceName_reads (name : Text) :
    Contract engine seen (At world) (requireImportSourceName name)
      (Reads world fun _ => name.namesDbc = true) := by
  apply Reads.then (unlessRaise_reads _ _)
  intro _ _
  apply Reads.then (unlessRaise_reads _ _)
  intro _ _
  exact unlessRaise_reads _ _

theorem resolveEncoding_reads (encoding : Option Text) :
    Contract engine seen (At world) (resolveEncoding encoding) (Reads world fun codec => codec.blank = false) := by
  unfold resolveEncoding
  split
  · exact .returned ⟨rfl, by decide⟩
  · split
    · exact .raised rfl rfl
    · rename_i named
      exact .returned ⟨rfl, Bool.eq_false_iff.mpr named⟩

theorem decode_reads (raw : Bytes) (codec : Text) :
    Contract engine seen (At world) (decode raw codec)
      (Reads world fun document => engine.codec codec raw = .ok document) := by
  have asked : Contract engine seen (At world) (ask (.decodeText codec raw))
      (Ends (Deals (.decodeText codec raw)) (fun _ after => after = world)
        (fun document after => after = world ∧ engine.codec codec raw = .ok document)) := by
    apply Contract.reading (perform_quiet (fun _ => rfl) (fun _ => rfl))
    intro choice value _ answered
    have decoded : (engine.codec codec raw).mapError PyException.builtin = .ok value :=
      (perform_ok answered).1
    cases outcome : engine.codec codec raw with
    | ok found =>
      rw [outcome] at decoded
      cases decoded
      rfl
    | error fault =>
      rw [outcome] at decoded
      cases decoded
  apply Contract.caught asked
  · rintro error after dealt rfl
    split
    · exact .raised rfl rfl
    · exact .raised rfl rfl
    · rename_i notDecode notLookup
      refine .raised ?_ rfl
      cases error with
      | dbc error => rfl
      | project error => rfl
      | builtin fault =>
        have translated := dealt fault rfl
        cases fault with
        | unicodeDecode => exact absurd rfl notDecode
        | lookup => exact absurd rfl notLookup
        | _ => cases translated
  · intro error undealt
    split
    · exact absurd (by rintro fault ⟨⟩; rfl) undealt
    · exact absurd (by rintro fault ⟨⟩; rfl) undealt
    · apply Contract.lost_raised
      intro typed
      cases error with
      | builtin fault => cases typed
      | dbc error => exact undealt nofun
      | project error => exact undealt nofun

private theorem parseText_reads (document : Text) :
    Contract engine seen (At world) (ask (.parseText document))
      (Reads world fun database => engine.parser document = .ok database) := by
  apply ask_reads (perform_quiet (fun _ => rfl) (fun _ => rfl)) (fun _ => rfl)
  intro choice value _ answered
  exact (perform_ok answered).1

/-- `document` is what the bytes `raw` hold under its encoding. -/
structure Describes (engine : Engine Database) (raw : Bytes) (document : DbcDocument Database) : Prop where
  digest : document.source.sha256 = engine.sha256 raw
  size : document.source.sizeBytes = raw.length
  codec : document.source.encoding.blank = false
  parsed : ∃ decoded, engine.codec document.source.encoding raw = .ok decoded ∧
    engine.parser decoded = .ok document.database

private theorem makeSource_reads {name encoding : Text} (raw : Bytes) (named : name.blank = false)
    (codec : encoding.blank = false) :
    Contract engine seen (At world) (makeSource engine name raw encoding)
      (Reads world fun source => source = ⟨name, engine.sha256 raw, raw.length, encoding⟩) := by
  unfold makeSource
  rw [if_neg (by simp [named, codec])]
  exact .returned ⟨rfl, rfl⟩

theorem parseBytes_reads {codec name : Text} (raw : Bytes) (named : name.blank = false)
    (known : codec.blank = false) :
    Contract engine seen (At world) (parseBytes engine raw codec name) (Reads world (Describes engine raw)) := by
  apply Reads.then (decode_reads raw codec)
  intro document decoded
  apply Reads.then (parseText_reads document)
  intro database parsed
  apply Reads.then (makeSource_reads raw named known)
  rintro source rfl
  exact .returned ⟨rfl, rfl, rfl, known, document, decoded, parsed⟩

/-- No white space becomes a letter of the extension. -/
theorem space_lower {point : CodePoint} (space : point.space = true) : point.lower ≠ codePoint 'd' := by
  intro letter
  unfold CodePoint.lower at letter
  split at letter
  · rename_i capital
    obtain ⟨least, most⟩ := capital
    have lower : 65 ≤ point.val := least
    have upper : point.val ≤ 90 := most
    simp only [CodePoint.space, Bool.or_eq_true, Bool.and_eq_true, decide_eq_true_eq, List.mem_cons,
      List.not_mem_nil, or_false] at space
    omega
  · subst letter
    exact absurd space (by decide)

/-- A name with the extension is not blank. -/
theorem namesDbc_named {name : Text} (extension : name.namesDbc = true) : name.blank = false := by
  by_contra blank
  have spaces : name.blank = true := Bool.not_eq_false _ ▸ blank
  have letters := of_decide_eq_true extension
  have member : ∀ point ∈ name.extension, point ∈ name := by
    intro point
    unfold Text.extension
    simp only
    split
    · intro inside
      have taken := List.mem_reverse.mp inside
      exact List.mem_reverse.mp (List.takeWhile_subset _ taken)
    · nofun
  cases last : name.extension with
  | nil =>
    rw [last] at letters
    exact absurd letters (by decide)
  | cons point rest =>
    have space := List.all_eq_true.mp spaces point (member point (last ▸ List.mem_cons_self))
    rw [last] at letters
    exact space_lower space (List.cons.inj letters).1

theorem importBytes_reads (raw : Bytes) (name : Text) (encoding : Option Text) :
    Contract engine seen (At world) (importBytes engine raw name encoding)
      (Reads world (Describes engine raw)) := by
  apply Reads.then (requireImportSourceName_reads name)
  intro _ extension
  apply Reads.then (resolveEncoding_reads encoding)
  intro codec known
  exact parseBytes_reads raw (namesDbc_named extension) known

private theorem readSource_reads (refusal : DbcError) :
    Contract engine seen (At world) (translating (ask .readSource) .os refusal)
      (Reads world fun raw => raw ∈ seen) := by
  have asked : Contract engine seen (At world) (ask .readSource) (Ends (Deals .readSource)
      (fun _ after => after = world) (fun raw after => after = world ∧ raw ∈ seen)) := by
    apply Contract.reading (perform_quiet (fun _ => rfl) (fun _ => rfl))
    intro choice raw assumed answered
    cases (perform_ok answered).1
    exact assumed
  apply Contract.rescued_ask asked
  · exact fun fault => by cases fault <;> simp [translates]
  · exact fun _ _ _ reached => reached
  · rintro after rfl
    exact .raised rfl rfl

theorem importFile_reads (name : Text) (encoding : Option Text) :
    Contract engine seen (At world) (importFile engine name encoding)
      (Reads world fun document => ∃ raw ∈ seen, Describes engine raw document) := by
  apply Reads.then (resolveEncoding_reads encoding)
  intro codec known
  apply Reads.then (ask_reads (perform_quiet (fun _ => rfl) (fun _ => rfl)) (fun _ => rfl)
    (fun _ _ _ _ => trivial))
  intro regular _
  apply Reads.then (unlessRaise_reads _ _)
  intro _ _
  apply Reads.then (unlessRaise_reads _ _)
  intro _ extension
  apply Reads.then (readSource_reads _)
  intro raw read
  apply (parseBytes_reads raw (namesDbc_named extension) known).mono (fun _ => .rfl) (fun _ _ _ same => same)
  rintro document after ⟨same, described⟩
  exact ⟨same, raw, read, described⟩

end Reading

section Writing

variable {name target : String} {raw : Bytes} {asset : DbcAsset}

theorem rereadVerified_reads {document : DbcDocument Database} (distinct : seen.InjOn engine.sha256)
    (described : ∃ raw ∈ seen, Describes engine raw document) :
    Contract engine seen (At world) (rereadVerified engine document.source)
      (Reads world fun raw => raw ∈ seen ∧ Describes engine raw document) := by
  apply Reads.then (readSource_reads _)
  intro raw read
  apply Reads.then (unlessRaise_reads _ _)
  rintro _ ⟨_, digest⟩
  obtain ⟨first, before, known⟩ := described
  obtain rfl : raw = first := distinct read before (digest.trans known.digest)
  exact .returned ⟨rfl, before, known⟩

theorem resolveAssetPath_reads (asset : DbcAsset) :
    Contract engine seen (At world) (resolveAssetPath asset)
      (Reads world fun name => name = assetName asset.assetId ∧ world.place = .inside ∧
        world.files name ≠ some .outsideLink) := by
  apply Reads.then (unlessRaise_reads _ _)
  intro _ _
  apply Reads.then (ask_reads (P := fun place => place = world.place)
    (perform_quiet (fun _ => rfl) (fun _ => rfl)) (fun _ => rfl) ?_)
  · rintro place rfl
    apply Reads.then (unlessRaise_reads _ _)
    intro _ within
    apply Reads.then (unlessRaise_reads _ _)
    intro _ there
    apply Reads.then (ask_reads (P := fun contained => contained = true →
      world.files (assetName asset.assetId) ≠ some .outsideLink)
      (perform_quiet (fun _ => rfl) (fun _ => rfl)) (fun _ => rfl) ?_)
    · intro contained reaches
      apply Reads.then (unlessRaise_reads _ _)
      intro _ inside
      have place : world.place = .inside := by
        cases found : world.place with
        | inside => rfl
        | outside => exact absurd found within
        | missing => exact absurd found there
      exact .returned ⟨rfl, rfl, place, reaches inside⟩
    · intro choice contained _ answered inside
      cases (perform_ok answered).1
      exact of_decide_eq_true inside
  · intro choice place _ answered
    cases (perform_ok answered).1
    rfl

theorem withFile_self (absent : world.files name = none) : world.withFile name none = world := by
  unfold ProjectWorld.withFile
  rw [← absent, Function.update_eq_self]

theorem withFile_none {file : Option AssetFile} (absent : world.files name = none) :
    (world.withFile name file).withFile name none = world := by
  have idem : (world.withFile name file).withFile name none = world.withFile name none := by
    simp only [ProjectWorld.withFile, Function.update_idem]
  rw [idem, withFile_self absent]

/-- Removing a file that may have been begun under a free name. -/
theorem removeQuietly_restores {file : Option AssetFile} (absent : world.files name = none)
    (known : file = none ∨ ∃ content, file = some (.regular content)) :
    Contract engine seen (At (world.withFile name file)) (removeQuietly name)
      (Ends Typed (fun _ after => after = world) (fun _ after => after = world)) := by
  have removed : Contract engine seen (At (world.withFile name file)) (ask (.removeFile name))
      (Ends (Deals (.removeFile name)) (fun _ after => after = world) (fun _ after => after = world)) := by
    apply Contract.asked
    · intro choice value _ answered
      obtain ⟨acted, same⟩ := perform_ok answered
      rw [same]
      rcases known with rfl | ⟨content, rfl⟩
      · simp [act, ProjectWorld.withFile] at acted
      · simp only [act, ProjectWorld.withFile, Function.update_self]
        exact withFile_none absent
    · intro choice error assumed raised
      have calm : choice.fault = none := assumed
      rcases known with rfl | ⟨content, rfl⟩
      · simp only [perform, calm, act, ProjectWorld.withFile, Function.update_self]
        exact withFile_self absent
      · simp [perform, calm, act, ProjectWorld.withFile] at raised
  apply Contract.rescued_ask removed
  · exact fun fault => by cases fault <;> simp [translates]
  · exact fun _ _ _ reached => reached
  · exact fun _ reached => .returned reached

/-- Taking a file back before an error is raised. -/
theorem removing_restores {file : Option AssetFile} {error : DbcError}
    {goal : Value → ProjectWorld → Prop} (absent : world.files name = none)
    (known : file = none ∨ ∃ content, file = some (.regular content)) :
    Contract engine seen (At (world.withFile name file))
      (removeQuietly name >>= fun _ => raise (.dbc error) : DbcProgram Database Value)
      (Ends Typed (fun _ after => after = world) goal) := by
  apply Contract.sequence (removeQuietly_restores absent known)
  rintro _ after rfl
  exact .raised rfl rfl

/-- A failed write leaves its file absent or begun. -/
theorem writeFile_begins (raw : Bytes) (free : world.files name = none) :
    Contract engine seen (At world) (ask (.writeFile name raw))
      (Ends (Deals (.writeFile name raw))
        (fun error after => ¬ Typed error ∧ ∃ file,
          (file = none ∨ ∃ content, file = some (.regular content)) ∧ after = world.withFile name file)
        (fun _ after => after = world.withFile name (some (.regular raw)))) := by
  apply Contract.asked
  · intro choice value _ answered
    rw [(perform_ok answered).2]
    simp only [act, free]
  · intro choice error _ raised
    unfold perform at raised ⊢
    split at raised
    · cases raised
      refine ⟨nofun, choice.written.map .regular, ?_, ?_⟩
      · cases choice.written with
        | none => exact .inl rfl
        | some begun => exact .inr ⟨begun, rfl⟩
      · simp only [disturbed]
        cases choice.written with
        | none => exact (withFile_self free).symm
        | some begun => rfl
    · simp only [act, free] at raised
      cases raised

private theorem replaceFile_moves {source : String} {file : AssetFile} (different : source ≠ target)
    (unstaged : world.files source = none) (free : world.files target = none) :
    Contract engine seen (At (world.withFile source (some file))) (ask (.replaceFile source target))
      (Ends (Deals (.replaceFile source target))
        (fun error after => ¬ Typed error ∧ after = world.withFile source (some file))
        (fun _ after => after = world.withFile target (some file))) := by
  have staged : (world.withFile source (some file)).files source = some file := Function.update_self ..
  have clear : (world.withFile source (some file)).files target = none :=
    (Function.update_of_ne different.symm _ _).trans free
  apply Contract.asked
  · intro choice value _ answered
    rw [(perform_ok answered).2]
    simp only [act, staged, clear]
    rw [withFile_none unstaged]
  · intro choice error _ raised
    unfold perform at raised ⊢
    split at raised
    · cases raised
      exact ⟨nofun, rfl⟩
    · simp only [act, staged, clear] at raised
      cases raised

/-- Writing through the staging file. -/
theorem stageAsset_stages (target : String) (raw : Bytes) (free : world.files target = none)
    (unstaged : world.files (stagingName target) = none) (different : stagingName target ≠ target) :
    Contract engine seen (At world) (stageAsset target raw) (Ends Typed (fun _ after => after = world)
      (fun _ after => after = world.withFile target (some (.regular raw)))) := by
  have written : Contract engine seen (At world) (rescuing (ask (.writeFile (stagingName target) raw)) .os
      (do removeQuietly (stagingName target)
          raise (.dbc (storageError "The project-owned DBC copy could not be written."))))
      (Ends Typed (fun _ after => after = world)
        (fun _ after => after = world.withFile (stagingName target) (some (.regular raw)))) := by
    apply Contract.rescued_ask (writeFile_begins raw unstaged)
    · exact fun fault => by cases fault <;> simp [translates]
    · exact fun _ _ typed reached => absurd typed reached.1
    · rintro after ⟨_, file, known, rfl⟩
      exact removing_restores unstaged known
  apply Contract.sequence written
  rintro _ after rfl
  apply Contract.rescued_ask (replaceFile_moves different unstaged free)
  · exact fun fault => by cases fault <;> simp [translates]
  · exact fun _ _ typed reached => absurd typed reached.1
  · rintro after ⟨_, rfl⟩
    exact removing_restores unstaged (.inr ⟨raw, rfl⟩)

/-- The staging file is told by the front of its name. -/
example : stagingName "vehicle.dbc" = ".tmp-vehicle.dbc" := by decide +kernel

end Writing

section Registry

variable {asset : DbcAsset} {pending : Option (List AssetRow)}

/-- The errors that `_registry_errors` translates or lets through as they are. -/
def Registered (error : PyException) : Prop := Typed error ∨ error = .builtin .sqlite

/-- The errors for which the caller of the registry takes the stored file back. -/
def Refused (error : PyException) : Prop := ∃ refusal, error = .dbc refusal

/-- What the registry leaves when it raises: a transaction at most, which a close ends. -/
def Ajar (world : ProjectWorld) (error : PyException) (after : ProjectWorld) : Prop :=
  (∀ refusal, error ≠ .project refusal) ∧ ∃ pending, after = world.withPending pending

theorem perform_builtin {request : DbcEffect} {choice : Choice} {error : PyException}
    (acts : ∀ error, (act engine request choice world).2 = .error error → ∃ fault, error = .builtin fault)
    (raised : (perform engine request choice world).2 = .error error) : ∃ fault, error = .builtin fault := by
  unfold perform at raised
  split at raised
  · rename_i fault _
    cases raised
    exact ⟨fault, rfl⟩
  · exact acts error raised

theorem beginImmediate_begins :
    Contract engine seen (At world) (ask .beginImmediate) (Ends (Deals .beginImmediate) (Ajar world)
      (fun _ after => after = world.withPending (some world.rows))) := by
  apply Contract.asked
  · intro choice value _ answered
    rw [(perform_ok answered).2]
    rfl
  · intro choice error _ raised
    unfold perform at raised ⊢
    split at raised
    · cases raised
      exact ⟨nofun, world.pending, rfl⟩
    · cases raised

theorem insertAsset_inserts (row : AssetRow) :
    Contract engine seen (At (world.withPending (some world.rows))) (ask (.insertAsset row))
      (Ends (Deals (.insertAsset row)) (Ajar world) (fun _ after => row.accepted world.rows = true ∧
        after = world.withPending (some (world.rows ++ [row])))) := by
  have current : (world.withPending (some world.rows)).pending.getD
      (world.withPending (some world.rows)).rows = world.rows := rfl
  apply Contract.asked
  · intro choice value _ answered
    obtain ⟨acted, same⟩ := perform_ok answered
    rw [same]
    simp only [act, current, insertRow] at acted ⊢
    by_cases encodable : row.encodable = false
    · simp [encodable] at acted
    by_cases wide : maxInteger < row.sizeBytes
    · simp [encodable, wide] at acted
    by_cases accepted : row.accepted world.rows = true
    · refine ⟨accepted, ?_⟩
      simp [encodable, wide, accepted, ProjectWorld.withPending]
    · simp [encodable, wide, accepted] at acted
  · intro choice error _ raised
    unfold perform at raised ⊢
    split at raised
    · cases raised
      exact ⟨nofun, some world.rows, rfl⟩
    · simp only [act, current] at raised ⊢
      cases outcome : insertRow row world.rows with
      | ok rows =>
        rw [outcome] at raised
        cases raised
      | error refusal =>
        rw [outcome] at raised
        cases raised
        refine ⟨?_, some world.rows, rfl⟩
        rintro refusal rfl
        unfold insertRow at outcome
        split at outcome
        · cases outcome
        · split at outcome
          · cases outcome
          · split at outcome
            · cases outcome
            · cases outcome

theorem commit_commits (rows : List AssetRow) :
    Contract engine seen (At (world.withPending (some rows))) (ask .commit)
      (Ends (Deals .commit) (Ajar world) (fun _ after => after = { world with rows, pending := none })) := by
  apply Contract.asked
  · intro choice value _ answered
    rw [(perform_ok answered).2]
    rfl
  · intro choice error _ raised
    unfold perform at raised ⊢
    split at raised
    · cases raised
      exact ⟨nofun, some rows, rfl⟩
    · cases raised

theorem registered_iff {request : DbcEffect}
    (only : ∀ fault, translates request fault = true ↔ fault = .sqlite) (error : PyException) :
    Deals request error ↔ Registered error := deals_iff only

/-- A rollback changes the open transaction at most. -/
theorem rollback_ends (error : PyException) (plain : ∀ refusal, error ≠ .project refusal)
    (known : Registered error) {goal : Value → ProjectWorld → Prop} :
    Contract engine seen (At (world.withPending pending))
      (suppressing (ask .rollback) .sqlite >>= fun _ => raise error : DbcProgram Database Value)
      (Ends Registered (Ajar world) goal) := by
  have asked : Contract engine seen (At (world.withPending pending)) (ask .rollback)
      (Ends (Deals .rollback) (Ajar world) (fun _ after => ∃ pending, after = world.withPending pending)) := by
    apply Contract.asked
    · intro choice value _ answered
      rw [(perform_ok answered).2]
      exact ⟨none, rfl⟩
    · intro choice error _ raised
      unfold perform at raised ⊢
      split at raised
      · cases raised
        exact ⟨nofun, pending, rfl⟩
      · cases raised
  have only : ∀ fault, translates .rollback fault = true ↔ fault = .sqlite := by
    intro fault
    cases fault <;> simp [translates]
  have quiet : Contract engine seen (At (world.withPending pending)) (suppressing (ask .rollback) .sqlite)
      (Ends Registered (Ajar world) (fun _ after => ∃ pending, after = world.withPending pending)) := by
    apply Contract.rescued asked (fun _ => deals_iff only)
    · exact fun _ typed => .inl typed
    · exact fun _ registered => (deals_iff only).mpr registered
    · exact fun _ _ _ reached => reached
    · exact fun after reached => .returned reached.2
  apply Contract.sequence quiet
  rintro _ after ⟨pending, rfl⟩
  exact .raised known ⟨plain, pending, rfl⟩

/-- One row in a transaction of its own. -/
theorem insertAsset_registers (settled : world.pending = none) :
    Contract engine seen (At world) (insertAsset asset)
      (Ends Typed (fun error after => Refused error ∧ ∃ pending, after = world.withPending pending)
        (fun _ after => asset.toAssetRow.accepted world.rows = true ∧
          after = { world with rows := world.rows ++ [asset.toAssetRow] })) := by
  have sqliteOnly {request : DbcEffect} (only : ∀ fault, translates request fault = true ↔ fault = .sqlite) :
      ∀ error, Deals request error ↔ Registered error := registered_iff only
  have transacted : Contract engine seen (At world) (transaction (ask (.insertAsset asset.toAssetRow)))
      (Ends Registered (Ajar world) (fun _ after => asset.toAssetRow.accepted world.rows = true ∧
        after = { world with rows := world.rows ++ [asset.toAssetRow], pending := none })) := by
    apply Contract.sequence ((beginImmediate_begins).mono
      (sqliteOnly fun fault => by cases fault <;> simp [translates])
      (fun _ _ _ reached => reached) (fun _ _ reached => reached))
    rintro _ after rfl
    have inserted : Contract engine seen (At (world.withPending (some world.rows)))
        ((ask (.insertAsset asset.toAssetRow)).catching fun error => do
          suppressing (ask .rollback) .sqlite
          raise error)
        (Ends Registered (Ajar world) (fun _ after => asset.toAssetRow.accepted world.rows = true ∧
          after = world.withPending (some (world.rows ++ [asset.toAssetRow])))) := by
      apply Contract.caught ((insertAsset_inserts asset.toAssetRow).mono
        (sqliteOnly fun fault => by cases fault <;> simp [translates])
        (fun _ _ _ reached => reached) (fun _ _ reached => reached))
      · rintro error after known ⟨plain, pending, rfl⟩
        exact rollback_ends error plain known
      · intro error unknown
        apply Contract.lost_cleanup
        · apply Contract.spoiled
          intro choice world error raised
          exact perform_builtin (fun _ raised => by cases raised) raised
        · rintro fault different (typed | same)
          · cases typed
          · exact different (PyException.builtin.inj same)
        · exact unknown
    apply Contract.sequence inserted
    rintro _ after ⟨accepted, rfl⟩
    apply (commit_commits _).mono (sqliteOnly fun fault => by cases fault <;> simp [translates])
    · exact fun _ _ _ reached => reached
    · rintro _ after rfl
      exact ⟨accepted, rfl⟩
  apply Contract.rescued (transacted.mono (fun _ => .rfl) (fun _ _ _ reached => reached) ?_)
  · exact fun _ => .rfl
  · exact fun _ typed => typed
  · exact fun _ typed => .inl typed
  · rintro error after typed ⟨plain, reached⟩
    refine ⟨?_, reached⟩
    cases error with
    | dbc refusal => exact ⟨refusal, rfl⟩
    | project refusal => exact absurd rfl (plain refusal)
    | builtin fault => cases typed
  · rintro after ⟨_, reached⟩
    exact .raised rfl ⟨⟨_, rfl⟩, reached⟩
  · rintro _ after ⟨accepted, rfl⟩
    refine ⟨accepted, ?_⟩
    rw [settled]

theorem withPending_none (settled : world.pending = none) : world.withPending none = world := by
  rw [ProjectWorld.withPending, ← settled]

/-- Whatever happens, the connection is closed and its transaction is gone. -/
theorem closeQuietly_closes :
    Contract engine seen (At (world.withPending pending)) closeQuietly
      (Ends Typed (fun error _ => ¬ Typed error) (fun _ after => after = world.withPending none)) := by
  have asked : Contract engine seen (At (world.withPending pending)) (ask .close)
      (Ends (Deals .close) (fun error after => ¬ Typed error ∧ after = world.withPending none)
        (fun _ after => after = world.withPending none)) := by
    apply Contract.asked
    · intro choice value _ answered
      rw [(perform_ok answered).2]
      rfl
    · intro choice error _ raised
      unfold perform at raised ⊢
      split at raised
      · cases raised
        exact ⟨nofun, rfl⟩
      · cases raised
  apply Contract.rescued_ask asked
  · exact fun fault => by cases fault <;> simp [translates]
  · exact fun _ _ typed reached => absurd typed reached.1
  · exact fun _ reached => .returned reached.2

theorem unlessRaise_ends {left : PyException → ProjectWorld → Prop} (condition : Prop) [Decidable condition]
    {refusal : DbcError} (reached : left (.dbc refusal) world) :
    Contract engine seen (At world) (unlessRaise condition refusal)
      (Ends Typed left (fun _ after => after = world ∧ condition)) := by
  unfold unlessRaise
  split
  · rename_i holds
    exact .returned ⟨rfl, holds⟩
  · exact .raised rfl reached

/-- An effect that only answers and raises no typed error. -/
theorem ask_ends {request : DbcEffect} {left : PyException → ProjectWorld → Prop}
    {P : request.Answer Database → Prop}
    (quiet : ∀ choice, (perform engine request choice world).1 = world)
    (bare : ∀ fault, translates request fault = false)
    (builtin : ∀ choice error, (act engine request choice world).2 = .error error →
      ∃ fault, error = .builtin fault)
    (answers : ∀ choice value, (perform engine request choice world).2 = .ok value → P value) :
    Contract engine seen (At world) (ask request)
      (Ends Typed left (fun value after => after = world ∧ P value)) := by
  have asked : Contract engine seen (At world) (ask request) (Ends (Deals request)
      (fun error _ => ¬ Typed error) (fun value after => after = world ∧ P value)) := by
    apply Contract.asked
    · exact fun choice value _ answered => ⟨quiet choice, answers choice value answered⟩
    · intro choice error _ raised
      obtain ⟨fault, rfl⟩ := perform_builtin (builtin choice) raised
      nofun
  exact asked.mono (deals_typed bare) (fun error _ dealt untyped =>
    absurd ((deals_typed bare error).mp dealt) untyped) (fun _ _ reached => reached)

theorem openDatabase_ends :
    Contract engine seen (At world) ((ask .openDatabase).catching fun
      | .project _ => raise (.dbc ⟨.assetRegistry, "dbc.project_database_unavailable",
        "The project database is not available for the DBC registry."⟩)
      | error => raise error)
      (Ends Typed (fun error after => Refused error ∧ after = world)
        (fun _ after => after = world ∧ (world.registry = .lacksTable ∨ world.registry = .ready))) := by
  have asked : Contract engine seen (At world) (ask .openDatabase)
      (Ends Typed (fun error after => (∀ refusal, error ≠ .dbc refusal) ∧ after = world)
        (fun _ after => after = world ∧ (world.registry = .lacksTable ∨ world.registry = .ready))) := by
    have answered : Contract engine seen (At world) (ask .openDatabase) (Ends (Deals .openDatabase)
        (fun error after => (∀ refusal, error ≠ .dbc refusal) ∧ after = world)
        (fun _ after => after = world ∧ (world.registry = .lacksTable ∨ world.registry = .ready))) := by
      have quiet : ∀ choice, (perform engine .openDatabase choice world).1 = world :=
        perform_quiet (fun choice => by simp only [act]; split <;> rfl) (fun _ => rfl)
      apply Contract.asked
      · intro choice value _ answered
        refine ⟨quiet choice, ?_⟩
        have acted := (perform_ok answered).1
        simp only [act] at acted
        split at acted
        · cases acted
        · cases acted
        · rename_i lacking
          exact .inl lacking
        · rename_i ready
          exact .inr ready
      · intro choice error _ raised
        refine ⟨?_, quiet choice⟩
        rintro refusal rfl
        unfold perform at raised
        split at raised
        · cases raised
        · simp only [act] at raised
          split at raised <;> cases raised
    exact answered.uncaught (fun _ => rfl)
  apply Contract.caught asked
  · rintro error after typed ⟨plain, rfl⟩
    cases error with
    | project refusal => exact .raised rfl ⟨⟨_, rfl⟩, rfl⟩
    | dbc refusal => exact absurd rfl (plain refusal)
    | builtin fault => cases typed
  · intro error untyped
    cases error with
    | project refusal => exact absurd rfl untyped
    | dbc refusal => exact absurd rfl untyped
    | builtin fault => exact .lost_raised untyped

/-- `_require_tables` before the body. -/
theorem listed_ends {body : DbcProgram Database Value} {goal : Value → ProjectWorld → Prop}
    (inner : world.registry ≠ .lacksTable → Contract engine seen (At world) body
      (Ends Typed (fun error after => Refused error ∧ ∃ pending, after = world.withPending pending) goal)) :
    Contract engine seen (At world) (do
        let listed ← translating (ask .hasAssetsTable) .sqlite
          ⟨.assetRegistry, "dbc.project_database_unavailable",
            "The project database schema could not be inspected."⟩
        unlessRaise (listed = true) ⟨.assetRegistry, "dbc.project_database_unavailable",
          "The project database is missing the DBC asset registry table."⟩
        body)
      (Ends Typed (fun error after => Refused error ∧ ∃ pending, after = world.withPending pending) goal) := by
  have same : world = world.withPending world.pending := rfl
  have asked : Contract engine seen (At world) (ask .hasAssetsTable) (Ends (Deals .hasAssetsTable)
      (fun error after => ¬ Typed error ∧ after = world)
      (fun listed after => after = world ∧ listed = decide (world.registry ≠ .lacksTable))) := by
    apply Contract.asked
    · intro choice value _ answered
      cases (perform_ok answered).1
      exact ⟨perform_quiet (fun _ => rfl) (fun _ => rfl) choice, rfl⟩
    · intro choice error _ raised
      obtain ⟨fault, rfl⟩ := perform_builtin (fun _ raised => by cases raised) raised
      exact ⟨nofun, perform_quiet (fun _ => rfl) (fun _ => rfl) choice⟩
  have listed : Contract engine seen (At world) (translating (ask .hasAssetsTable) .sqlite
      ⟨.assetRegistry, "dbc.project_database_unavailable",
        "The project database schema could not be inspected."⟩)
      (Ends Typed (fun error after => Refused error ∧ ∃ pending, after = world.withPending pending)
        (fun listed after => after = world ∧ listed = decide (world.registry ≠ .lacksTable))) := by
    apply Contract.rescued_ask asked
    · exact fun fault => by cases fault <;> simp [translates]
    · exact fun _ _ typed reached => absurd typed reached.1
    · rintro after ⟨_, rfl⟩
      exact .raised rfl ⟨⟨_, rfl⟩, _, same⟩
  apply Contract.sequence listed
  rintro found _ ⟨rfl, known⟩
  apply Contract.sequence (unlessRaise_ends _ ⟨⟨_, rfl⟩, _, same⟩)
  rintro _ _ ⟨rfl, present⟩
  exact inner (of_decide_eq_true (known.symm.trans present))

/-- `finally: close_quietly(connection)`. -/
theorem closing_shuts {program : DbcProgram Database Value} {goal : Value → ProjectWorld → Prop}
    (settled : world.pending = none)
    (inner : Contract engine seen (At world) program
      (Ends Typed (fun error after => Refused error ∧ ∃ pending, after = world.withPending pending) goal))
    (closed : ∀ value after, goal value after → after.pending = none) :
    Contract engine seen (At world) (program.andThen fun result => do closeQuietly; Program.lift result)
      (Ends Typed (fun error after => Refused error ∧ after = world) goal) := by
  apply Triple.andThen (fun _ => rfl) inner
  rintro (error | value)
  · rintro ⟨current, gone⟩ ⟨flagged, reached⟩
    by_cases lost : gone
    · refine Safe.post_mono (Contract.lost_cleanup (Contract.spoiled fun choice world error raised =>
        perform_builtin (fun _ raised => by cases raised) raised) (fun _ _ => nofun) (flagged.mp lost) _ lost) ?_
      rintro (error | value) watched ended
      · exact ⟨iff_of_true ended.1 ended.2, fun calm => absurd ended.1 calm⟩
      · exact ended.elim
    · obtain ⟨refused, pending, rfl⟩ := reached lost
      have raises : Contract engine seen (At (world.withPending pending))
          (closeQuietly >>= fun _ => raise error : DbcProgram Database Value)
          (Ends Typed (fun error after => Refused error ∧ after = world) goal) := by
        apply Contract.sequence (closeQuietly_closes.mono (fun _ => .rfl)
          (fun _ _ typed untyped => absurd typed untyped) (fun _ _ reached => reached))
        rintro _ _ rfl
        have typed : Typed error := by
          obtain ⟨refusal, rfl⟩ := refused
          rfl
        exact .raised typed ⟨refused, withPending_none settled⟩
      exact raises _ ⟨rfl, lost⟩
  · rintro ⟨current, gone⟩ ⟨calm, reached⟩
    have returns : Contract engine seen (At current)
        (closeQuietly >>= fun _ => Program.lift (.ok value) : DbcProgram Database Value)
        (Ends Typed (fun error after => Refused error ∧ after = world) goal) := by
      have started : current = current.withPending current.pending := rfl
      rw [started]
      apply Contract.sequence (closeQuietly_closes.mono (fun _ => .rfl)
        (fun _ _ typed untyped => absurd typed untyped) (fun _ _ reached => reached))
      rintro _ _ rfl
      rw [withPending_none (closed value current reached)]
      exact .returned reached
    exact returns _ ⟨rfl, calm⟩

/-- `asset_connection` around a body that leaves a transaction open at most. -/
theorem assetConnection_shuts {body : DbcProgram Database Value} {goal : Value → ProjectWorld → Prop}
    (settled : world.pending = none)
    (inner : world.registry = .ready → Contract engine seen (At world) body
      (Ends Typed (fun error after => Refused error ∧ ∃ pending, after = world.withPending pending) goal))
    (closed : ∀ value after, goal value after → after.pending = none) :
    Contract engine seen (At world) (assetConnection body)
      (Ends Typed (fun error after => Refused error ∧ after = world) goal) := by
  apply Contract.sequence (ask_ends (P := fun _ => True) (perform_quiet (fun _ => rfl) (fun _ => rfl))
    (fun _ => rfl) (fun _ _ raised => by cases raised) (fun _ _ _ => trivial))
  rintro present _ ⟨rfl, _⟩
  apply Contract.sequence (unlessRaise_ends _ ⟨⟨_, rfl⟩, rfl⟩)
  rintro _ _ ⟨rfl, _⟩
  apply Contract.sequence openDatabase_ends
  rintro _ current ⟨rfl, opened⟩
  apply closing_shuts settled (listed_ends ?_) closed
  intro listed
  exact inner (opened.resolve_left listed)

end Registry

end CanX.Dbc
