import CanX.Data.Reading
import CanX.Query.Planning
import CanX.Query.StoredFrames

/-! `QueryService`: one snapshot of the registered segments, the gate for the files that the plan keeps, and the
engine over those. -/

namespace CanX.Query

open Dbc Domain Data Desktop Transport Storage Transition

section Files

/-- The rows of a file, as the engine fetches them. -/
def tableRows (table : ArrowTable) : List FrameRow := table.dicts.map fun values => fetched (projected values)

def engineFiles (tree : FileTree) (path : String) : List FrameRow :=
  match (tree.files path).bind ParquetFile.table with
  | some table => tableRows table
  | none => []

end Files

section Errors

def projectUnavailable : QueryError :=
  ⟨.session, "query.project_unavailable", "The project data store is not available for query."⟩

def sessionNotFound : QueryError :=
  ⟨.session, "query.session_not_found", "The requested data session is not registered in this project."⟩

def pathEscape : QueryError :=
  ⟨.integrity, "query.path_escape", "A registered segment path points outside the project root."⟩

def segmentMissing : QueryError :=
  ⟨.dataUnavailable, "query.segment_missing", "A registered segment file is missing."⟩

def segmentUnreadable : QueryError :=
  ⟨.integrity, "query.segment_unreadable", "A registered segment file could not be read as a Parquet footer."⟩

def segmentInvalid : QueryError :=
  ⟨.integrity, "query.segment_invalid", "A registered segment file is not a CAN-X segment of this session."⟩

/-- The handlers of `_snapshot`, in their order. -/
def snapshotError (error : DataError) : QueryError :=
  match error.kind with
  | .storage => projectUnavailable
  | .session | .sessionState | .streamMismatch => sessionNotFound
  | _ => projectUnavailable

end Errors

section Service

/-- Raise a typed error. -/
def typed {Value : Type} : Except QueryError Value → Except QueryFault Value
  | .ok value => .ok value
  | .error error => .error (.typed error)

def snapshot (database : Database) (sessionId : Uuid) : Except QueryError (DataSession × List DataSegment) :=
  match registeredSession sessionId database with
  | .error error => .error (snapshotError error)
  | .ok session =>
    match listSegments sessionId database with
    | .error error => .error (snapshotError error)
    | .ok segments => .ok (session, segments)

/-- `_resolve`. -/
def resolveSegment (tree : FileTree) (segment : DataSegment) : Except QueryFault String :=
  match resolveWithinRoot tree segment.relativePath with
  | .ok path => .ok path
  | .error (.data _) => .error (.typed pathEscape)
  | .error _ => .error .untyped

/-- `_validate`. -/
def validateSegment (tree : FileTree) (session : DataSession) (segment : DataSegment) (path : String) :
    Except QueryFault Unit :=
  if tree.files path = none then .error (.typed segmentMissing)
  else
    match requireRegisteredSegment tree path session segment with
    | .ok _ => .ok ()
    | .error (.unreadable _ _) => .error (.typed segmentUnreadable)
    | .error (.data _) => .error (.typed segmentInvalid)
    | .error .index => .error .untyped

def candidatePath (tree : FileTree) (session : DataSession) (segment : DataSegment) : Except QueryFault String := do
  let path ← resolveSegment tree segment
  validateSegment tree session segment path
  return path

/-- `by_path[relative_path]`: of rows with one path the last one counts. -/
def byPath (segments : List DataSegment) (relativePath : String) : Except QueryFault DataSegment :=
  match segments.reverse.find? fun segment => segment.relativePath = relativePath with
  | some segment => .ok segment
  | none => .error .untyped

def candidatePaths (tree : FileTree) (session : DataSession) (segments : List DataSegment) (plan : QueryPlan) :
    Except QueryFault (List String) :=
  plan.relativePaths.mapM fun relativePath => do
    let segment ← byPath segments relativePath
    candidatePath tree session segment

/-- The files that `query_frames` hands to the engine. -/
def framePaths (database : Database) (tree : FileTree) (query : FrameQuery) : Except QueryFault (List String) := do
  let (session, segments) ← typed (snapshot database query.filter.sessionId)
  let plan ← typed (planSegments (segments.map DataSegment.toSegmentRow) query.filter
    (query.afterSequence.map Int.ofNat))
  candidatePaths tree session segments plan

/-- `QueryService.query_frames`, with every result that the engine can give. -/
def QueryService.QueryFrames (database : Database) (tree : FileTree) (query : FrameQuery)
    (result : Except QueryFault FrameQueryPage) : Prop :=
  match framePaths database tree query with
  | .error fault => result = .error fault
  | .ok paths => QueryEngine.QueryFrames (engineFiles tree) paths query.filter
      (query.afterSequence.map Int.ofNat) query.limit result

end Service

section Rows

/-- Projecting the columns and naming them again gives the row that the data layer reads. -/
theorem fetched_values (values : List (String × ArrowValue)) :
    fetched (projected values) = FrameRow.ofValues values := by
  have uints : ∀ name, ((values.lookup name).getD .null).uint? = (values.lookup name).bind ArrowValue.uint? := by
    intro name
    cases values.lookup name <;> rfl
  have bools : ∀ name, ((values.lookup name).getD .null).bool? = (values.lookup name).bind ArrowValue.bool? := by
    intro name
    cases values.lookup name <;> rfl
  have strs : ∀ name, ((values.lookup name).getD .null).str? = (values.lookup name).bind ArrowValue.str? := by
    intro name
    cases values.lookup name <;> rfl
  have blobs : ∀ name, ((values.lookup name).getD .null).bytes? = (values.lookup name).bind ArrowValue.bytes? := by
    intro name
    cases values.lookup name <;> rfl
  have floats : ∀ name, ((values.lookup name).getD .null).float? = (values.lookup name).bind ArrowValue.float? := by
    intro name
    cases values.lookup name <;> rfl
  simp [fetched, projected, selectedColumns, FrameRow.ofValues, List.lookup_cons, uints, bools, strs, blobs, floats]

theorem engineFiles_table {tree : FileTree} {path : String} {file : ParquetFile} {table : ArrowTable}
    (held : tree.files path = some file) (readable : file.table = some table) :
    engineFiles tree path = table.dicts.map FrameRow.ofValues := by
  rw [engineFiles, held, Option.bind_some, readable]
  exact List.map_congr_left fun values _ => fetched_values values

end Rows

section Errors

/-- Only typed errors. -/
abbrev Typed {Value : Type} (outcome : Except QueryFault Value) : Prop :=
  Raises (fun fault => ∃ error, fault = .typed error) outcome

end Errors

end CanX.Query
