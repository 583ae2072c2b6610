import CanX.Dbc.DecoderCache

/-! The reads of a verified asset: they change no file, they perform a bounded number of effects,
and what they return was proven to be what the registry describes. -/

namespace CanX.Dbc

open Data Transition Program

variable {Database Decoder Value Other : Type} {engine : Engine Database} {seen : Set Bytes}

section Verification

structure Verified (engine : Engine Database) (seen : Set Bytes) (asset : DbcAsset) (raw : Bytes) :
    Prop where
  known : raw ∈ seen
  size : asset.sizeBytes = raw.length
  digest : asset.sha256 = engine.sha256 raw

/-- Every content that a project holds is in `seen`. -/
def ProjectWorld.Within (seen : Set Bytes) (world : ProjectWorld) : Prop :=
  ∀ name content, world.files name = some (.regular content) → content ∈ seen

/-- What a program returns, whatever others do to the projects within `seen`. -/
def Results (engine : Engine Database) (seen : Set Bytes) (program : DbcProgram Database Value)
    (returns : Value → Prop) : Prop :=
  Triple (performLoad engine) (fun _ _ _ => True)
    (fun before after => before.Within seen → after.Within seen)
    (fun before _ after => after.files = before.files) (ProjectWorld.Within seen) program
    (fun result world => world.Within seen ∧ ∀ value, result = .ok value → returns value)

/-- Programs that return verified bytes only, whatever the projects become in between. -/
def Verifies (engine : Engine Database) (seen : Set Bytes)
    (program : DbcProgram Database (DbcAsset × Bytes)) : Prop :=
  Results engine seen program fun verified => Verified engine seen verified.1 verified.2

variable {asset : DbcAsset} {raw : Bytes} {world : ProjectWorld} {request : DbcEffect} {choice : Choice}

/-- The effects that can change a file of the project. -/
def DbcEffect.touches : DbcEffect → Bool
  | .writeFile _ _ | .replaceFile _ _ | .removeFile _ => true
  | _ => false

private theorem perform_files (untouched : request.touches = false) :
    (perform engine request choice world).1.files = world.files := by
  unfold perform
  split
  · cases request with
    | writeFile name content => cases untouched
    | _ => rfl
  · cases request with
    | writeFile name content => cases untouched
    | replaceFile source target => cases untouched
    | removeFile name => cases untouched
    | openDatabase =>
      simp only [act]
      split <;> rfl
    | insertAsset row =>
      simp only [act]
      split <;> rfl
    | assetIsFile name =>
      simp only [act]
      split <;> rfl
    | readAsset name =>
      simp only [act]
      split <;> rfl
    | _ => rfl

theorem performLoad_files (untouched : request.touches = false) :
    (performLoad engine request choice world).1.files = world.files := by
  unfold performLoad
  split
  · rfl
  · exact perform_files untouched

theorem ProjectWorld.Within.of_files {after : ProjectWorld} (within : world.Within seen)
    (same : after.files = world.files) : after.Within seen := by
  intro name content held
  rw [same] at held
  exact within name content held

/-- Programs that change no file. -/
abbrev Inspects (program : DbcProgram Database Value) : Prop :=
  Conforms (fun request => request.touches = false) (fun _ _ => True) program

theorem ask_inspects (untouched : request.touches = false) :
    Inspects (ask request : DbcProgram Database _) := Conforms.effect untouched

private theorem raise_inspects (error : PyException) :
    Inspects (raise error : DbcProgram Database Value) := trivial

private theorem pure_inspects (value : Value) : Inspects (pure value : DbcProgram Database Value) := trivial

theorem unlessRaise_inspects (condition : Prop) [Decidable condition] (error : DbcError) :
    Inspects (unlessRaise condition error : DbcProgram Database _) := by
  unfold unlessRaise
  split
  · trivial
  · trivial

private theorem rescuing_inspects {program recovery : DbcProgram Database Value} {caught : Fault}
    (first : Inspects program) (second : Inspects recovery) :
    Inspects (rescuing program caught recovery) := by
  apply Conforms.catching first
  intro error
  split
  · exact second
  · trivial

private theorem assetConnection_inspects {body : DbcProgram Database Value} (inside : Inspects body) :
    Inspects (assetConnection body) := by
  apply Conforms.bind (ask_inspects rfl)
  intro present
  apply Conforms.bind (unlessRaise_inspects _ _)
  intro _
  apply Conforms.bind
  · apply Conforms.catching (ask_inspects rfl)
    intro error
    cases error <;> trivial
  · intro _
    apply Conforms.andThen
    · apply Conforms.bind (rescuing_inspects (ask_inspects rfl) (raise_inspects _))
      intro listed
      apply Conforms.bind (unlessRaise_inspects _ _)
      intro _
      exact inside
    · intro result
      apply Conforms.bind (rescuing_inspects (ask_inspects rfl) (pure_inspects _))
      intro _
      trivial

private theorem made_inspects (result : Except DbcError Value) : Inspects (made result : DbcProgram Database _) := by
  cases result with
  | ok value => trivial
  | error error => trivial

theorem getAsset_inspects (assetId : Option Uuid) : Inspects (getAsset assetId : DbcProgram Database _) := by
  cases assetId with
  | none => trivial
  | some assetId =>
    apply Conforms.bind (ask_inspects rfl)
    intro projectId
    apply Conforms.bind
    · apply assetConnection_inspects
      apply Conforms.bind (rescuing_inspects (ask_inspects rfl) (raise_inspects _))
      intro row
      cases row with
      | none => trivial
      | some row =>
        apply Conforms.bind (made_inspects _)
        intro asset
        trivial
    · intro found
      cases found with
      | none => trivial
      | some asset =>
        apply Conforms.bind (unlessRaise_inspects _ _)
        intro _
        trivial

theorem resolveAssetPath_inspects (asset : DbcAsset) :
    Inspects (resolveAssetPath asset : DbcProgram Database _) := by
  apply Conforms.bind (unlessRaise_inspects _ _)
  intro _
  apply Conforms.bind (ask_inspects rfl)
  intro place
  apply Conforms.bind (unlessRaise_inspects _ _)
  intro _
  apply Conforms.bind (unlessRaise_inspects _ _)
  intro _
  apply Conforms.bind (ask_inspects rfl)
  intro contained
  apply Conforms.bind (unlessRaise_inspects _ _)
  intro _
  trivial

variable {program : DbcProgram Database Value} {returns : Value → Prop}

theorem Results.of_inspects (inspects : Inspects program) : Results engine seen program fun _ => True := by
  have kept : Triple (performLoad engine) (fun _ _ _ => True)
      (fun before after => before.Within seen → after.Within seen)
      (fun before _ after => after.files = before.files) (ProjectWorld.Within seen) program
      (fun _ => ProjectWorld.Within seen) := by
    refine Triple.of_conforms (fun _ _ moved within => moved within) ?_ inspects
    intro world request choice within untouched _
    have files : (performLoad engine request choice world).1.files = world.files :=
      performLoad_files untouched
    exact ⟨files, within.of_files files, trivial⟩
  exact kept.consequence (fun _ within => within) (fun _ _ within => ⟨within, fun _ _ => trivial⟩)

theorem Results.bind {next : Value → DbcProgram Database Other} {goal : Other → Prop}
    (first : Results engine seen program returns)
    (second : ∀ value, returns value → Results engine seen (next value) goal) :
    Results engine seen (program >>= next) goal := by
  apply Triple.bind (fun _ within => within) first
  · rintro value world ⟨within, reached⟩
    exact second value (reached value rfl) world within
  · intro error
    refine ⟨fun _ _ moved ended => ⟨moved ended.1, nofun⟩, fun _ ended => ⟨ended.1, nofun⟩⟩

theorem Results.returned {value : Value} (reached : returns value) :
    Results engine seen (pure value) returns := by
  apply Triple.finish
  · exact fun _ _ moved ended => ⟨moved ended.1, ended.2⟩
  · intro world within
    refine ⟨within, ?_⟩
    rintro _ ⟨⟩
    exact reached

theorem Results.checked {condition : Prop} [Decidable condition] (refusal : DbcError) :
    Results engine seen (unlessRaise condition refusal) fun _ => condition := by
  unfold unlessRaise
  split
  · rename_i holds
    exact .returned holds
  · apply Triple.finish
    · exact fun _ _ moved ended => ⟨moved ended.1, ended.2⟩
    · exact fun world within => ⟨within, nofun⟩

private theorem performed_known {name : String} {content : Bytes} (within : world.Within seen)
    (read : (performLoad engine (.readAsset name) choice world).2 = .ok content) : content ∈ seen := by
  simp only [performLoad, computed, perform] at read
  split at read
  · cases read
  · simp only [act] at read
    split at read
    · rename_i held
      cases read
      exact within name content held
    · cases read

private theorem readAsset_results (name : String) (refusal : DbcError) :
    Results engine seen (translating (ask (.readAsset name)) .os refusal) fun content => content ∈ seen := by
  have asked : Results engine seen (ask (.readAsset name)) fun content => content ∈ seen := by
    apply Triple.effect
    · exact fun _ _ moved within => moved within
    · exact fun _ _ _ moved ended => ⟨moved ended.1, ended.2⟩
    · intro world choice within _
      have files : (performLoad engine (.readAsset name) choice world).1.files = world.files :=
        performLoad_files rfl
      exact ⟨files, within.of_files files, fun content read => performed_known within read⟩
  apply Triple.catching (fun _ within => within) asked
  · intro value
    exact ⟨fun _ _ moved ended => ⟨moved ended.1, ended.2⟩, fun _ ended => ended⟩
  · intro error
    split
    · apply Triple.finish
      · exact fun _ _ moved ended => ⟨moved ended.1, ended.2⟩
      · exact fun world ended => ⟨ended.1, nofun⟩
    · apply Triple.finish
      · exact fun _ _ moved ended => ⟨moved ended.1, ended.2⟩
      · exact fun world ended => ⟨ended.1, nofun⟩

private theorem readAssetBytes_results (name : String) (asset : DbcAsset) :
    Results engine seen (readAssetBytes engine name asset) fun raw => Verified engine seen asset raw := by
  apply Results.bind (.of_inspects (ask_inspects rfl))
  intro regular _
  apply Results.bind (.checked _)
  intro _ _
  apply Results.bind (readAsset_results name _)
  intro raw known
  apply Results.bind (.checked _)
  intro _ size
  apply Results.bind (.checked _)
  intro _ digest
  exact .returned ⟨known, size.symm, digest.symm⟩

/-- A read that succeeds returns a record and the very bytes it was proven to describe. -/
theorem readVerifiedAsset_verifies (assetId : Option Uuid) :
    Verifies engine seen (readVerifiedAsset engine assetId) := by
  apply Results.bind (.of_inspects (getAsset_inspects assetId))
  intro asset _
  apply Results.bind (.of_inspects (resolveAssetPath_inspects asset))
  intro name _
  apply Results.bind (readAssetBytes_results name asset)
  intro raw verified
  exact .returned verified

end Verification

section Length

variable {compile : Database → Except PyException Decoder}
variable {program recovery : DbcProgram Database Value} {bound more : Nat}

theorem ask_atMost (request : DbcEffect) : AtMost 1 (ask request : DbcProgram Database _) := AtMost.effect

theorem unlessRaise_atMost (condition : Prop) [Decidable condition] (error : DbcError) :
    AtMost 0 (unlessRaise condition error : DbcProgram Database _) := by
  unfold unlessRaise
  split
  · exact .finished _
  · exact .finished _

private theorem rescuing_atMost {caught : Fault} (first : AtMost bound program) (second : AtMost more recovery) :
    AtMost (bound + more) (rescuing program caught recovery) := by
  apply AtMost.catching first
  intro error
  split
  · exact second
  · exact .finished _

theorem translating_atMost {caught : Fault} {error : DbcError} (first : AtMost bound program) :
    AtMost bound (translating program caught error) :=
  rescuing_atMost first (.finished _ : AtMost 0 _)

private theorem assetConnection_atMost (inside : AtMost bound program) :
    AtMost (bound + 4) (assetConnection program) := by
  have closing : AtMost 1 (closeQuietly : DbcProgram Database _) :=
    rescuing_atMost (ask_atMost _) (.finished _ : AtMost 0 _)
  have whole : AtMost (1 + (0 + (1 + ((1 + (0 + bound)) + (1 + 0))))) (assetConnection program) := by
    refine AtMost.bind (ask_atMost _) fun _ => AtMost.bind (unlessRaise_atMost _ _) fun _ =>
      AtMost.bind (AtMost.catching (ask_atMost _) ?_ : AtMost (1 + 0) _) fun _ => AtMost.andThen ?_ ?_
    · intro error
      cases error <;> exact .finished _
    · exact AtMost.bind (translating_atMost (ask_atMost _)) fun _ =>
        AtMost.bind (unlessRaise_atMost _ _) fun _ => inside
    · exact fun result => AtMost.bind closing fun _ => .finished _
  exact whole.mono (by omega)

private theorem getAsset_atMost (assetId : Option Uuid) : AtMost 6 (getAsset assetId : DbcProgram Database _) := by
  cases assetId with
  | none => exact .finished _
  | some assetId =>
    have row : AtMost 1 (readAsset assetId : DbcProgram Database _) := by
      refine (AtMost.bind (translating_atMost (ask_atMost _)) fun row => ?_ : AtMost (1 + 0) _)
      cases row with
      | none => exact .finished _
      | some row =>
        refine (AtMost.bind ?_ fun asset => .finished _ : AtMost (0 + 0) _)
        cases assetFromRow row with
        | ok asset => exact .finished _
        | error error => exact .finished _
    have whole : AtMost (1 + ((1 + 4) + 0)) (getAsset (some assetId) : DbcProgram Database _) := by
      refine AtMost.bind (ask_atMost _) fun projectId =>
        AtMost.bind (assetConnection_atMost row) fun found => ?_
      cases found with
      | none => exact .finished _
      | some asset =>
        exact (AtMost.bind (unlessRaise_atMost (asset.projectId = some projectId) _)
          fun _ => .finished _ : AtMost (0 + 0) _)
    exact whole

private theorem resolveAssetPath_atMost (asset : DbcAsset) :
    AtMost 2 (resolveAssetPath asset : DbcProgram Database _) := by
  have whole : AtMost (0 + (1 + (0 + (0 + (1 + (0 + 0)))))) (resolveAssetPath asset : DbcProgram Database _) :=
    AtMost.bind (unlessRaise_atMost _ _) fun _ => AtMost.bind (ask_atMost _) fun _ =>
      AtMost.bind (unlessRaise_atMost _ _) fun _ => AtMost.bind (unlessRaise_atMost _ _) fun _ =>
        AtMost.bind (ask_atMost _) fun _ => AtMost.bind (unlessRaise_atMost _ _) fun _ => .finished _
  exact whole

theorem readVerifiedAsset_atMost (assetId : Option Uuid) : AtMost 10 (readVerifiedAsset engine assetId) := by
  have bytes (name : String) (asset : DbcAsset) :
      AtMost (1 + (0 + (1 + (0 + (0 + 0))))) (readAssetBytes engine name asset) :=
    AtMost.bind (ask_atMost _) fun _ => AtMost.bind (unlessRaise_atMost _ _) fun _ =>
      AtMost.bind (translating_atMost (ask_atMost _)) fun _ =>
        AtMost.bind (unlessRaise_atMost _ _) fun _ =>
          AtMost.bind (unlessRaise_atMost _ _) fun _ => .finished _
  have whole : AtMost (6 + (2 + (2 + 0))) (readVerifiedAsset engine assetId) :=
    AtMost.bind (getAsset_atMost assetId) fun asset => AtMost.bind (resolveAssetPath_atMost asset) fun name =>
      AtMost.bind (bytes name asset) fun raw => .finished _
  exact whole

theorem buildDecoder_atMost (asset : DbcAsset) (raw : Bytes) :
    AtMost 2 (buildDecoder engine compile asset raw) := by
  have decoding (encoding : Text) : AtMost 1 (decode raw encoding : DbcProgram Database _) := by
    refine (AtMost.catching (ask_atMost _) fun error => ?_ : AtMost (1 + 0) _)
    split
    · exact .finished _
    · exact .finished _
    · exact .finished _
  have codec (encoding : Option Text) : AtMost 0 (resolveEncoding encoding : DbcProgram Database _) := by
    unfold resolveEncoding
    split
    · exact .finished _
    · split
      · exact .finished _
      · exact .finished _
  have source (encoding : Text) :
      AtMost 0 (makeSource engine asset.sourceName raw encoding : DbcProgram Database _) := by
    unfold makeSource
    split
    · exact .finished _
    · exact .finished _
  have loading : AtMost (0 + (1 + (1 + (0 + 0))))
      (loadBytes engine raw asset.sourceName (some asset.encoding)) :=
    AtMost.bind (codec _) fun _ => AtMost.bind (decoding _) fun _ => AtMost.bind (ask_atMost _) fun _ =>
      AtMost.bind (source _) fun _ => .finished _
  have parsing : AtMost (2 + 0) (parseVerifiedAsset engine asset raw) := by
    refine AtMost.catching loading fun error => ?_
    cases error <;> exact .finished _
  exact (AtMost.bind parsing fun _ => .finished _ : AtMost (2 + 0) _)

end Length

end CanX.Dbc
