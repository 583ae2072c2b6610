import CanX.Data.Layout
import CanX.Data.Repository
import CanX.Data.TableRoundTrip

/-! Reading a registered segment back: the gate that every reader calls, and `DataSessionService.read_segment`,
over the files that are really there. -/

namespace CanX.Data

open Dbc Domain Desktop Transport Storage Transition

section Files

/-- A file as the Parquet readers see it; without a table it is not readable as Parquet. -/
structure ParquetFile where
  table : Option ArrowTable
  byteSize : Nat
  deriving DecidableEq

/-- The files under a project. `resolve` follows a stored path, and gives nothing where that leads outside. -/
structure FileTree where
  resolve : String → Option String
  files : String → Option ParquetFile

inductive ReadFault where
  /-- `ParquetReadError`. -/
  | unreadable (code message : String)
  | data (error : DataError)
  /-- The `IndexError` of an empty tuple. -/
  | index
  deriving DecidableEq

abbrev Reader := Except ReadFault

def fromData {Value : Type} : Except DataError Value → Reader Value
  | .ok value => .ok value
  | .error error => .error (.data error)

def refuse (condition : Prop) [Decidable condition] (code message : String) : Reader Unit :=
  if condition then .error (.data (integrityError code message)) else .ok ()

/-- `resolve_within_root`. -/
def resolveWithinRoot (tree : FileTree) (relativePath : String) : Reader String :=
  match tree.resolve relativePath with
  | some path => .ok path
  | none => .error (.data (integrityError "data.integrity.path_escape"
      "A stored segment path points outside the project root."))

end Files

section Gate

structure SegmentHeader where
  sessionId : Uuid
  streamId : String
  segmentIndex : Int
  schemaVersion : Int
  rowCount : Nat
  deriving DecidableEq

def requireMetadataInteger (metadata : List (Text × Text)) (key : String) : Reader Int :=
  match metadataValue metadata key with
  | none => .error (.data (integrityError "data.integrity.metadata_mismatch"
      "The segment metadata is missing a required integer field."))
  | some raw =>
    match intOf raw with
    | none => .error (.data (integrityError "data.integrity.metadata_mismatch"
        "The segment metadata field is not an integer."))
    | some value => .ok value

def expectedOf (session : DataSession) (segmentIndex : Nat) : Expected :=
  ⟨some (text session.sessionId.text), some (text session.streamId), some segmentIndex⟩

/-- `validate_segment_header` for an expected identity, which the session and the stream of the header then are. -/
def validateSegmentHeader (tree : FileTree) (path : String) (session : DataSession) (segmentIndex : Nat) :
    Reader SegmentHeader :=
  match tree.files path with
  | none => .error (.unreadable "data.parquet_read_failed" "The Parquet segment file is missing.")
  | some file =>
    match file.table with
    | none => .error (.unreadable "data.parquet_read_failed" "The Parquet segment footer could not be read.")
    | some table => do
      fromData (requireSegmentMetadata table.metadata (expectedOf session segmentIndex))
      fromData (requireCanonicalLayout table.schema)
      let headerIndex ← requireMetadataInteger table.metadata "canx.segment_index"
      let schemaVersion ← requireMetadataInteger table.metadata "canx.schema_version"
      return ⟨session.sessionId, session.streamId, headerIndex, schemaVersion, table.rows.length⟩

/-- `require_registered_segment`. -/
def requireRegisteredSegment (tree : FileTree) (path : String) (session : DataSession) (segment : DataSegment) :
    Reader SegmentHeader := do
  refuse (segment.relativePath ≠ segmentRelativePath session.sessionId segment.segmentIndex)
    "data.integrity.registered_path_mismatch" "The registered segment path is not the canonical path of its index."
  let header ← validateSegmentHeader tree path session segment.segmentIndex
  refuse (header.rowCount ≠ segment.frameCount) "data.integrity.frame_count_mismatch"
    "The segment file row count does not match its registered metadata."
  refuse ((tree.files path).map ParquetFile.byteSize ≠ some segment.byteSize) "data.integrity.byte_size_mismatch"
    "The segment file size does not match its registered metadata."
  return header

end Gate

section Reading

def invalidSegmentRow : DataError :=
  ⟨.integrity, "data.integrity.segment_row_invalid",
    "A stored data segment row does not describe a valid segment."⟩

def segmentFromRow (row : SegmentRow) : Except DataError DataSegment :=
  match DataSegment.make row with
  | .ok segment => .ok segment
  | .error _ => .error invalidSegmentRow

/-- `list_segments`. -/
def listSegments (sessionId : Uuid) (database : Database) : Except DataError (List DataSegment) :=
  (segmentRows sessionId database).mapM segmentFromRow

/-- `require_registered_session` of `read_session`. -/
def registeredSession (sessionId : Uuid) (database : Database) : Except DataError DataSession :=
  match sessionRow sessionId database with
  | none => .error ⟨.session, "data.session.not_found", "The data session is not registered in this project."⟩
  | some row =>
    match DataSession.make row with
    | .ok session => .ok session
    | .error _ => .error ⟨.integrity, "data.integrity.session_row_invalid",
        "A stored data session row does not describe a valid session."⟩

end Reading

section Gated

variable {tree : FileTree} {path : String} {session : DataSession} {segment : DataSegment} {header : SegmentHeader}
variable {frames : List PyFrame} {table : ArrowTable}

theorem refuse_ok {condition : Prop} [Decidable condition] {code message : String} {value : Unit} :
    refuse condition code message = .ok value ↔ ¬ condition := by
  by_cases held : condition
  · simp [refuse, held]
  · simp [refuse, held]

theorem fromData_ok {Value : Type} {outcome : Except DataError Value} {value : Value} :
    fromData outcome = .ok value ↔ outcome = .ok value := by
  cases outcome <;> simp [fromData]

/-- What the gate has seen of a file it lets through. -/
structure Gated (tree : FileTree) (path : String) (session : DataSession) (segment : DataSegment)
    (table : ArrowTable) : Prop where
  file : ∃ file, tree.files path = some file ∧ file.table = some table
  metadata : requireSegmentMetadata table.metadata (expectedOf session segment.segmentIndex) = .ok ()
  layout : requireCanonicalLayout table.schema = .ok ()
  counted : table.rows.length = segment.frameCount

theorem requireRegisteredSegment_gated (passed : requireRegisteredSegment tree path session segment = .ok header) :
    ∃ table, Gated tree path session segment table := by
  simp only [requireRegisteredSegment, bind_ok, refuse_ok, not_not] at passed
  obtain ⟨_, _, found, validated, _, counted, _⟩ := passed
  rw [validateSegmentHeader] at validated
  split at validated
  · cases validated
  · rename_i file held
    split at validated
    · cases validated
    · rename_i table readable
      simp only [bind_ok, fromData_ok] at validated
      obtain ⟨_, metadata, _, layout, _, _, _, _, made⟩ := validated
      obtain rfl := Except.ok.inj made
      exact ⟨table, ⟨file, held, readable⟩, metadata, layout, counted⟩

theorem Gated.length (gated : Gated tree path session segment table)
    (read : (table.dicts.mapM fun values => rowToFrame (FrameRow.ofValues values)) = .ok frames) :
    frames.length = segment.frameCount := by
  have same := (mapM_ok.mp read).length_eq
  rw [ArrowTable.dicts, List.length_map, gated.counted] at same
  exact same.symm

end Gated

section Rows

variable {database : Database} {tree : FileTree} {session : DataSession} {segments : List DataSegment}
variable {segment : DataSegment} {sessionId : Uuid}

private theorem segmentFromRow_row {row : SegmentRow} (read : segmentFromRow row = .ok segment) :
    segment.toSegmentRow = row := by
  rw [segmentFromRow] at read
  split at read
  · rename_i held made
    obtain rfl := Except.ok.inj read
    exact DataSegment.make_row made
  · cases read

theorem segmentFromRow_own (segment : DataSegment) : segmentFromRow segment.toSegmentRow = .ok segment := by
  rw [segmentFromRow, DataSegment.make_of_check segment.valid]

private theorem segmentRows_mem {row : SegmentRow} : row ∈ segmentRows sessionId database ↔
    row ∈ database.segments ∧ row.sessionId = sessionId := by
  rw [segmentRows, List.mem_insertionSort, List.mem_filter, decide_eq_true_eq]

theorem segmentsFromRows_rows {rows : List SegmentRow} (read : rows.mapM segmentFromRow = .ok segments) :
    segments.map DataSegment.toSegmentRow = rows := by
  have all := mapM_ok.mp read
  clear read
  induction all with
  | nil => rfl
  | cons here _ ih => rw [List.map_cons, segmentFromRow_row here, ih]

private theorem listSegments_rows (listed : listSegments sessionId database = .ok segments) :
    segments.map DataSegment.toSegmentRow = segmentRows sessionId database :=
  segmentsFromRows_rows listed

theorem listSegments_mem (listed : listSegments sessionId database = .ok segments) (member : segment ∈ segments) :
    segment.toSegmentRow ∈ database.segments ∧ segment.sessionId = sessionId := by
  have row := List.mem_map_of_mem (f := DataSegment.toSegmentRow) member
  rw [listSegments_rows listed] at row
  exact segmentRows_mem.mp row

/-- The registered paths of a session are distinct. -/
theorem listSegments_paths (listed : listSegments sessionId database = .ok segments) :
    (segments.map fun segment => segment.relativePath).Nodup := by
  have rows : (segments.map fun segment => segment.relativePath) =
      (segmentRows sessionId database).map SegmentRow.relativePath := by
    rw [← listSegments_rows listed, List.map_map]
    rfl
  rw [rows, segmentRows]
  have sorted := List.perm_insertionSort (fun first second : SegmentRow => first.segmentIndex ≤ second.segmentIndex)
    (database.segments.filter fun row => decide (row.sessionId = sessionId))
  refine (sorted.map SegmentRow.relativePath).nodup_iff.mpr ?_
  exact database.segment_path.sublist (List.filter_sublist.map SegmentRow.relativePath)

/-- An element that alone passes a test is the one found. -/
theorem find?_only {Element : Type} {test : Element → Bool} {elements : List Element} {element : Element}
    (member : element ∈ elements) (passes : test element = true)
    (only : ∀ other ∈ elements, test other = true → other = element) : elements.find? test = some element := by
  cases found : elements.find? test with
  | none => exact absurd passes (List.find?_eq_none.mp found element member)
  | some other => rw [only other (List.mem_of_find?_eq_some found) (List.find?_some found)]

end Rows

end CanX.Data
