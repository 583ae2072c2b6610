import CanX.Numeric.JsonText
import CanX.Project.Schema
import CanX.Transition.Outcome
import CanX.Transport.PyInteger

/-! The identity of a project: `str(UUID(value))` of a text, and the manifest that carries it as JSON. A file is the
text its UTF-8 decodes to; error details other than the code and the text are left out. -/

namespace CanX.Project

open Dbc Numeric Transport

section Uuids

/-- `value.replace(word, "")`; `count` characters of an occurrence are still to be passed. -/
def removeFrom (word : Text) (count : Nat) : Text → Text
  | [] => []
  | first :: rest =>
    if 0 < count then removeFrom word (count - 1) rest
    else if word.isPrefixOf (first :: rest) then removeFrom word (word.length - 1) rest
    else first :: removeFrom word 0 rest

def remove (word value : Text) : Text := removeFrom word 0 value

def brace (character : CodePoint) : Bool := character = codePoint '\x7b' || character = codePoint '\x7d'

/-- `value.strip("{}")`. -/
def stripBraces (value : Text) : Text := ((value.dropWhile brace).reverse.dropWhile brace).reverse

/-- A digit of base 16, as `int` reads it. -/
def hexadecimal (character : CodePoint) : Option Nat :=
  match CodePoint.digit character with
  | some value => some value
  | none => Json.hexDigit character

/-- Digits of base 16, with a single underscore between two of them where one stands. -/
def hexRun : Text → Option (List Nat)
  | [] => none
  | [character] => (hexadecimal character).map fun digit => [digit]
  | character :: next :: rest => do
    let digit ← hexadecimal character
    let digits ← if next = codePoint '_' then hexRun rest else hexRun (next :: rest)
    return digit :: digits

/-- The text behind a `0x`, and behind an underscore after it. -/
def unprefixed (value : Text) : Text :=
  match value with
  | zero :: letter :: rest =>
    if CodePoint.digit zero = some 0 ∧ (letter = codePoint 'x' ∨ letter = codePoint 'X') then
      if rest.head? = some (codePoint '_') then rest.tail else rest
    else value
  | _ => value

def hexMagnitude (value : Text) : Option Nat :=
  (hexRun (unprefixed value)).map fun digits => digits.foldl (fun high digit => 16 * high + digit) 0

/-- `int(value, 16)`, which raises a `ValueError` where this is `none`. -/
def intOfHex (value : Text) : Option Int :=
  match Text.unpadded value with
  | [] => none
  | first :: rest =>
    if first = codePoint '-' then (hexMagnitude rest).map fun count => -(count : Int)
    else if first = codePoint '+' then (hexMagnitude rest).map Int.ofNat
    else (hexMagnitude (first :: rest)).map Int.ofNat

def uuidBound : Nat := 0x100000000000000000000000000000000

/-- The number of `UUID(value)`, which raises a `ValueError` where this is `none`. -/
def uuidOf (value : Text) : Option Nat :=
  let hex := (stripBraces (remove (text "uuid:") (remove (text "urn:") value))).filter (· ≠ codePoint '-')
  if hex.length ≠ 32 then none
  else
    match intOfHex hex with
    | some number => if 0 ≤ number ∧ number < uuidBound then some number.toNat else none
    | none => none

/-- The last digits of a number in base 16, so many of them. -/
def nibbles : Nat → Nat → List Nat
  | 0, _ => []
  | count + 1, value => nibbles count (value / 16) ++ [value % 16]

/-- `str(uuid)`. -/
def uuidText (number : Nat) : Text :=
  let hex := (nibbles 32 number).map Json.hexLetter
  hex.take 8 ++ codePoint '-' :: ((hex.drop 8).take 4 ++ codePoint '-' :: ((hex.drop 12).take 4 ++ codePoint '-' ::
    ((hex.drop 16).take 4 ++ codePoint '-' :: hex.drop 20)))

def normalizeProjectId (value : Text) : Option Text := (uuidOf value).map uuidText

end Uuids

section Canonical

variable {count number : Nat} {value : Text} {character : CodePoint}

theorem nibbles_length : (nibbles count number).length = count := by
  induction count generalizing number with
  | zero => rfl
  | succ count ih => rw [nibbles, List.length_append, ih, List.length_singleton]

theorem nibbles_small : ∀ digit ∈ nibbles count number, digit < 16 := by
  induction count generalizing number with
  | zero =>
    intro digit member
    cases member
  | succ count ih =>
    intro digit member
    rcases List.mem_append.mp member with earlier | last
    · exact ih digit earlier
    · rw [List.mem_singleton.mp last]
      exact Nat.mod_lt _ (by decide)

theorem nibbles_value (small : number < 16 ^ count) :
    (nibbles count number).foldl (fun high digit => 16 * high + digit) 0 = number := by
  induction count generalizing number with
  | zero =>
    rw [Nat.pow_zero, Nat.lt_one_iff] at small
    rw [small]
    rfl
  | succ count ih =>
    have shifted : number / 16 < 16 ^ count := by
      rw [Nat.div_lt_iff_lt_mul (by decide)]
      rwa [Nat.pow_succ] at small
    rw [nibbles, List.foldl_append, ih shifted, List.foldl_cons, List.foldl_nil]
    omega

/-- What the digits of an identity are, and are not. -/
theorem hexLetter_plain : ∀ digit < 16, hexadecimal (Json.hexLetter digit) = some digit ∧
    Json.hexLetter digit ∉ [codePoint 'u', codePoint '-', codePoint '+', codePoint '_', codePoint 'x', codePoint 'X'] ∧
    brace (Json.hexLetter digit) = false ∧ CodePoint.padding (Json.hexLetter digit) = false := by
  decide

theorem removeFrom_absent {first : CodePoint} {word : Text} (absent : first ∉ value) :
    removeFrom (first :: word) 0 value = value := by
  induction value with
  | nil => rfl
  | cons head rest ih =>
    rw [List.mem_cons, not_or] at absent
    have apart : (first :: word).isPrefixOf (head :: rest) = false :=
      Bool.and_eq_false_iff.mpr (.inl (beq_eq_false_iff_ne.mpr absent.1))
    rw [removeFrom, if_neg (Nat.lt_irrefl 0), apart, if_neg Bool.false_ne_true, ih absent.2]

private theorem hexRun_letters {digits : List Nat} (nonempty : digits ≠ []) (small : ∀ digit ∈ digits, digit < 16) :
    hexRun (digits.map Json.hexLetter) = some digits := by
  induction digits with
  | nil => exact absurd rfl nonempty
  | cons first rest ih =>
    obtain ⟨here, later⟩ := List.forall_mem_cons.mp small
    obtain ⟨read, -⟩ := hexLetter_plain first here
    cases rest with
    | nil => rw [List.map_cons, List.map_nil, hexRun, read, Option.map_some]
    | cons second rest =>
      obtain ⟨-, apart, -⟩ := hexLetter_plain second (later second List.mem_cons_self)
      simp only [List.mem_cons, List.not_mem_nil, or_false, not_or] at apart
      have tail := ih (List.cons_ne_nil _ _) later
      simp only [List.map_cons, hexRun, read, if_neg apart.2.2.2.1] at tail ⊢
      rw [tail]
      rfl

private theorem unprefixed_letters {digits : List Nat} (small : ∀ digit ∈ digits, digit < 16) :
    unprefixed (digits.map Json.hexLetter) = digits.map Json.hexLetter := by
  rcases digits with _ | ⟨first, _ | ⟨second, rest⟩⟩
  · rfl
  · rfl
  · obtain ⟨-, apart, -⟩ := hexLetter_plain second (small second (List.mem_cons_of_mem _ List.mem_cons_self))
    simp only [List.mem_cons, List.not_mem_nil, or_false, not_or] at apart
    exact if_neg fun both => both.2.elim apart.2.2.2.2.1 apart.2.2.2.2.2

theorem intOfHex_letters {digits : List Nat} (nonempty : digits ≠ []) (small : ∀ digit ∈ digits, digit < 16) :
    intOfHex (digits.map Json.hexLetter) =
      some (Int.ofNat (digits.foldl (fun high digit => 16 * high + digit) 0)) := by
  have unpadded : Text.unpadded (digits.map Json.hexLetter) = digits.map Json.hexLetter := by
    refine trim_none fun character member => ?_
    obtain ⟨digit, inside, rfl⟩ := List.mem_map.mp member
    exact (hexLetter_plain digit (small digit inside)).2.2.2
  have magnitude : hexMagnitude (digits.map Json.hexLetter) =
      some (digits.foldl (fun high digit => 16 * high + digit) 0) := by
    rw [hexMagnitude, unprefixed_letters small, hexRun_letters nonempty small]
    rfl
  rw [intOfHex, unpadded]
  cases digits with
  | nil => exact absurd rfl nonempty
  | cons first rest =>
    obtain ⟨-, apart, -⟩ := hexLetter_plain first (small first List.mem_cons_self)
    simp only [List.mem_cons, List.not_mem_nil, or_false, not_or] at apart
    rw [List.map_cons] at magnitude ⊢
    simp only [if_neg apart.2.1, if_neg apart.2.2.1, magnitude]
    rfl

/-- The characters of an identity. -/
theorem uuidText_plain (member : character ∈ uuidText number) :
    character = codePoint '-' ∨ ∃ digit < 16, character = Json.hexLetter digit := by
  have letter : ∀ character ∈ (nibbles 32 number).map Json.hexLetter,
      ∃ digit < 16, character = Json.hexLetter digit := by
    intro character inside
    obtain ⟨digit, listed, rfl⟩ := List.mem_map.mp inside
    exact ⟨digit, nibbles_small digit listed, rfl⟩
  simp only [uuidText, List.mem_append, List.mem_cons] at member
  rcases member with inside | rfl | inside | rfl | inside | rfl | inside | rfl | inside
  · exact .inr (letter _ (List.mem_of_mem_take inside))
  · exact .inl rfl
  · exact .inr (letter _ (List.mem_of_mem_drop (List.mem_of_mem_take inside)))
  · exact .inl rfl
  · exact .inr (letter _ (List.mem_of_mem_drop (List.mem_of_mem_take inside)))
  · exact .inl rfl
  · exact .inr (letter _ (List.mem_of_mem_drop (List.mem_of_mem_take inside)))
  · exact .inl rfl
  · exact .inr (letter _ (List.mem_of_mem_drop inside))

private theorem uuidText_digits :
    (uuidText number).filter (· ≠ codePoint '-') = (nibbles 32 number).map Json.hexLetter := by
  have kept (part : Text) (within : ∀ character ∈ part, character ∈ (nibbles 32 number).map Json.hexLetter) :
      part.filter (· ≠ codePoint '-') = part := by
    refine List.filter_eq_self.mpr fun character inside => decide_eq_true ?_
    obtain ⟨digit, listed, rfl⟩ := List.mem_map.mp (within character inside)
    obtain ⟨-, apart, -⟩ := hexLetter_plain digit (nibbles_small digit listed)
    simp only [List.mem_cons, List.not_mem_nil, or_false, not_or] at apart
    exact apart.2.1
  have dash (rest : Text) : (codePoint '-' :: rest).filter (· ≠ codePoint '-') = rest.filter (· ≠ codePoint '-') :=
    List.filter_cons_of_neg (by simp)
  simp only [uuidText, List.filter_append, dash]
  rw [kept _ fun _ inside => List.mem_of_mem_take inside,
    kept _ fun _ inside => List.mem_of_mem_drop (List.mem_of_mem_take inside),
    kept _ fun _ inside => List.mem_of_mem_drop (List.mem_of_mem_take inside),
    kept _ fun _ inside => List.mem_of_mem_drop (List.mem_of_mem_take inside),
    kept _ fun _ inside => List.mem_of_mem_drop inside]
  generalize (nibbles 32 number).map Json.hexLetter = hex
  have joint (from' more : Nat) : (hex.drop from').take more ++ hex.drop (from' + more) = hex.drop from' := by
    rw [← List.drop_drop]
    exact List.take_append_drop more _
  rw [joint 16 4, joint 12 4, joint 8 4, List.take_append_drop]

/-- The text of an identity is read as that identity. -/
theorem uuidOf_uuidText (small : number < uuidBound) : uuidOf (uuidText number) = some number := by
  have absent : codePoint 'u' ∉ uuidText number := by
    intro member
    rcases uuidText_plain member with dash | ⟨digit, below, letter⟩
    · exact absurd dash (by decide)
    · exact (hexLetter_plain digit below).2.1 (letter ▸ List.mem_cons_self)
  have unbraced : stripBraces (uuidText number) = uuidText number := by
    refine trim_none fun character member => ?_
    rcases uuidText_plain member with rfl | ⟨digit, below, rfl⟩
    · decide
    · exact (hexLetter_plain digit below).2.2.1
  have urn : remove (text "urn:") (uuidText number) = uuidText number := removeFrom_absent absent
  have scheme : remove (text "uuid:") (uuidText number) = uuidText number := removeFrom_absent absent
  have long : (nibbles 32 number).length = 32 := nibbles_length
  have nonempty : nibbles 32 number ≠ [] := List.ne_nil_of_length_pos (by rw [long]; decide)
  unfold uuidOf
  rw [urn, scheme, unbraced, uuidText_digits]
  have sized : ((nibbles 32 number).map Json.hexLetter).length = 32 := by rw [List.length_map, long]
  rw [if_neg (not_not.mpr sized), intOfHex_letters nonempty nibbles_small,
    nibbles_value (Nat.lt_of_lt_of_le small (by decide))]
  exact if_pos ⟨Int.natCast_nonneg number, Int.ofNat_lt.mpr small⟩

end Canonical

section Manifests

structure ProjectManifest where
  format : Text
  schemaVersion : Int
  projectId : Text
  deriving DecidableEq

def manifestFormat : Text := text "can-x-project"

def manifestSchemaVersion : Int := 1

/-- What leaves `read_manifest`. `value` is a `ValueError` that no handler of it translates. -/
inductive ManifestFailure where
  | project (error : ProjectError)
  | value
  deriving DecidableEq

def manifestMalformed (message : String) : ManifestFailure :=
  .project ⟨.invalidProject, "project.manifest_malformed", message⟩

def notJson : ManifestFailure := manifestMalformed "The project manifest is not valid JSON."

def notObject : ManifestFailure := manifestMalformed "The project manifest must be a JSON object."

def unsupportedFormat : ManifestFailure :=
  .project ⟨.invalidProject, "project.unsupported_format", "The project manifest format is not supported."⟩

def versionNotInteger : ManifestFailure :=
  manifestMalformed "The project manifest schema_version must be an integer."

def unsupportedVersion : ManifestFailure :=
  .project ⟨.unsupportedProjectVersion, "project.unsupported_schema_version",
    "The project schema version is not supported by this runtime."⟩

def identityNotString : ManifestFailure := manifestMalformed "The project manifest project_id must be a string."

def identityNotUuid : ManifestFailure := manifestMalformed "The project manifest project_id is not a UUID."

/-- The keys in their sorted order. -/
def manifestPayload (manifest : ProjectManifest) : Json :=
  .object [(text "format", .string manifest.format), (text "project_id", .string manifest.projectId),
    (text "schema_version", .integer manifest.schemaVersion)]

def manifestText (manifest : ProjectManifest) : Text := Json.pretty 0 (manifestPayload manifest) ++ [codePoint '\n']

/-- `_load_object`, once the text is read. -/
def loadObject (contents : Text) : Except ManifestFailure (List (Text × Json)) :=
  match Json.loads contents with
  | .error .decode => .error notJson
  | .error .digits => .error .value
  | .ok (.object fields) => .ok fields
  | .ok _ => .error notObject

/-- The checks of `read_manifest` on the object. -/
def manifestOf (fields : List (Text × Json)) : Except ManifestFailure ProjectManifest :=
  match Json.field fields (text "format") with
  | some (.string format) =>
    if format ≠ manifestFormat then .error unsupportedFormat
    else
      match Json.field fields (text "schema_version") with
      | some (.integer version) =>
        if version ≠ manifestSchemaVersion then .error unsupportedVersion
        else
          match Json.field fields (text "project_id") with
          | some (.string identity) =>
            match normalizeProjectId identity with
            | some projectId => .ok ⟨manifestFormat, version, projectId⟩
            | none => .error identityNotUuid
          | _ => .error identityNotString
      | _ => .error versionNotInteger
  | _ => .error unsupportedFormat

def readManifest (contents : Text) : Except ManifestFailure ProjectManifest := do
  let fields ← loadObject contents
  manifestOf fields

section Reading

variable {contents value projectId before behind : Text} {manifest : ProjectManifest} {fields : List (Text × Json)}

/-- What a manifest of this runtime is. -/
structure ProjectManifest.Sound (manifest : ProjectManifest) : Prop where
  format : manifest.format = manifestFormat
  version : manifest.schemaVersion = manifestSchemaVersion
  identity : ∃ number < uuidBound, manifest.projectId = uuidText number

private theorem uuidOf_small {number : Nat} (read : uuidOf value = some number) : number < uuidBound := by
  unfold uuidOf at read
  dsimp only at read
  split at read
  · cases read
  · split at read
    · split at read
      · rename_i within
        obtain rfl := Option.some.inj read
        omega
      · cases read
    · cases read

/-- What a normal form is, and that it is its own. -/
theorem normalizeProjectId_canonical (normalized : normalizeProjectId value = some projectId) :
    (∃ number < uuidBound, projectId = uuidText number) ∧ normalizeProjectId projectId = some projectId := by
  obtain ⟨number, read, rfl⟩ := Option.map_eq_some_iff.mp normalized
  have small := uuidOf_small read
  exact ⟨⟨number, small, rfl⟩, by rw [normalizeProjectId, uuidOf_uuidText small, Option.map_some]⟩

theorem loadObject_ok : loadObject contents = .ok fields ↔ Json.loads contents = .ok (.object fields) := by
  unfold loadObject
  split
  · rename_i failed
    rw [failed]
    exact iff_of_false (fun given => by cases given) fun given => by cases given
  · rename_i failed
    rw [failed]
    exact iff_of_false (fun given => by cases given) fun given => by cases given
  · rename_i loaded
    rw [loaded, Except.ok.injEq, Except.ok.injEq, Json.object.injEq]
  · rename_i value other loaded
    rw [loaded, Except.ok.injEq]
    refine iff_of_false (fun given => by cases given) fun given => ?_
    exact other fields given

/-- A manifest carries what the last fields of its three names say. -/
structure Declares (fields : List (Text × Json)) (manifest : ProjectManifest) : Prop where
  format : Json.field fields (text "format") = some (.string manifestFormat)
  version : Json.field fields (text "schema_version") = some (.integer manifestSchemaVersion)
  identity : ∃ value, Json.field fields (text "project_id") = some (.string value) ∧
    normalizeProjectId value = some manifest.projectId

/-- What is read of an object. -/
theorem manifestOf_ok : manifestOf fields = .ok manifest ↔ Declares fields manifest ∧ manifest.Sound := by
  constructor
  · intro accepted
    unfold manifestOf at accepted
    split at accepted
    · rename_i format formatted
      split at accepted
      · cases accepted
      · rename_i same
        split at accepted
        · rename_i version versioned
          split at accepted
          · cases accepted
          · rename_i supported
            split at accepted
            · rename_i identity identified
              split at accepted
              · rename_i normalized
                obtain rfl := Except.ok.inj accepted
                obtain rfl := not_not.mp same
                obtain rfl := not_not.mp supported
                exact ⟨⟨formatted, versioned, identity, identified, normalized⟩, rfl, rfl,
                  (normalizeProjectId_canonical normalized).1⟩
              · cases accepted
            · cases accepted
        · cases accepted
    · cases accepted
  · rintro ⟨⟨format, version, value, identity, normalized⟩, sameFormat, sameVersion, -⟩
    simp only [manifestOf, format, version, identity, normalized]
    rw [if_neg (not_not.mpr rfl), if_neg (not_not.mpr rfl), ← sameFormat, ← sameVersion]

/-- The texts that a manifest is read from: those of an object that declares it. -/
theorem readManifest_ok : readManifest contents = .ok manifest ↔ manifest.Sound ∧
    ∃ fields before spelling behind, contents = before ++ (spelling ++ behind) ∧ Json.Gap before ∧
      Json.Spells (.value (.object fields)) spelling ∧ Json.Gap behind ∧ Declares fields manifest := by
  rw [readManifest, bind_ok]
  constructor
  · rintro ⟨fields, loaded, checked⟩
    obtain ⟨declares, sound⟩ := manifestOf_ok.mp checked
    obtain ⟨before, spelling, behind, same, leading, spells, trailing⟩ := Json.loads_iff.mp (loadObject_ok.mp loaded)
    exact ⟨sound, fields, before, spelling, behind, same, leading, spells, trailing, declares⟩
  · rintro ⟨sound, fields, before, spelling, behind, same, leading, spells, trailing, declares⟩
    have loaded : loadObject contents = .ok fields :=
      loadObject_ok.mpr (Json.loads_iff.mpr ⟨before, spelling, behind, same, leading, spells, trailing⟩)
    exact ⟨fields, loaded, manifestOf_ok.mpr ⟨declares, sound⟩⟩

private theorem uuidText_scalar {number : Nat} : (uuidText number).all Json.scalar = true := by
  refine List.all_eq_true.mpr fun character member => ?_
  have letters : ∀ digit < 16, Json.scalar (Json.hexLetter digit) = true := by decide
  rcases uuidText_plain member with rfl | ⟨digit, below, rfl⟩
  · decide
  · exact letters digit below

private theorem manifestPayload_portable (sound : manifest.Sound) : Json.portable (manifestPayload manifest) = true := by
  obtain ⟨sameFormat, sameVersion, number, -, sameIdentity⟩ := sound
  have names : (text "format").all Json.scalar = true ∧ (text "project_id").all Json.scalar = true ∧
      (text "schema_version").all Json.scalar = true ∧ manifestFormat.all Json.scalar = true := by decide
  have version : Json.portable (.integer manifestSchemaVersion) = true := by decide
  rw [manifestPayload, sameFormat, sameVersion, sameIdentity]
  simp only [Json.portable, Json.fieldsPortable, names, uuidText_scalar, Bool.and_self, Bool.true_and, Bool.and_true]
  exact version

/-- The fields of a payload, by name. -/
theorem manifestPayload_field (manifest : ProjectManifest) : ∀ fields, manifestPayload manifest = .object fields →
    Json.field fields (text "format") = some (.string manifest.format) ∧
      Json.field fields (text "schema_version") = some (.integer manifest.schemaVersion) ∧
      Json.field fields (text "project_id") = some (.string manifest.projectId) := by
  intro fields same
  obtain rfl := Json.object.inj same
  have apart : text "project_id" ≠ text "format" ∧ text "schema_version" ≠ text "format" ∧
      text "schema_version" ≠ text "project_id" := by decide
  simp [Json.field, List.findRev?, apart]

private theorem manifestPayload_declares (sound : manifest.Sound) (same : manifestPayload manifest = .object fields) :
    Declares fields manifest := by
  obtain ⟨format, version, identity⟩ := manifestPayload_field manifest fields same
  obtain ⟨sameFormat, sameVersion, number, small, sameIdentity⟩ := sound
  rw [sameFormat] at format
  rw [sameVersion] at version
  have normal : normalizeProjectId manifest.projectId = some manifest.projectId := by
    rw [sameIdentity, normalizeProjectId, uuidOf_uuidText small, Option.map_some]
  exact ⟨format, version, _, identity, normal⟩

/-- What is written of a sound manifest is read back. -/
theorem readManifest_written (sound : manifest.Sound) : readManifest (manifestText manifest) = .ok manifest := by
  have gap : Json.Gap [codePoint '\n'] := by
    intro character member
    obtain rfl := List.mem_singleton.mp member
    decide
  have loaded : loadObject (manifestText manifest) = .ok _ :=
    loadObject_ok.mpr (Json.loads_pretty (manifestPayload_portable sound) gap)
  exact bind_ok.mpr ⟨_, loaded, manifestOf_ok.mpr ⟨manifestPayload_declares sound rfl, sound⟩⟩

/-- The manifests that any text holds are the sound ones. Each is read back from what is written of it, and the texts it
is read from are exactly those that spell an object whose last fields of the three names declare it, whatever the order,
the other fields, the escapes and the gaps. -/
theorem manifest_round_trip (manifest : ProjectManifest) :
    ((∃ contents, readManifest contents = .ok manifest) ↔ manifest.Sound) ∧
      (manifest.Sound → readManifest (manifestText manifest) = .ok manifest) ∧
      ∀ contents, readManifest contents = .ok manifest ↔ manifest.Sound ∧
        ∃ fields before spelling behind, contents = before ++ (spelling ++ behind) ∧ Json.Gap before ∧
          Json.Spells (.value (.object fields)) spelling ∧ Json.Gap behind ∧ Declares fields manifest := by
  refine ⟨⟨?_, fun sound => ⟨_, readManifest_written sound⟩⟩, readManifest_written, fun contents => readManifest_ok⟩
  rintro ⟨contents, accepted⟩
  exact (readManifest_ok.mp accepted).1

end Reading

end Manifests

end CanX.Project
