import CanX.Data.Registering
import CanX.Query.ReadPaths
import CanX.Storage.Paging

/-! Historical paging of a session while its writer goes on: each request sees the segments that are registered by
then, and names the last sequence that an earlier one answered with. -/

namespace CanX.Query

open Dbc Domain Data Shelving Transport Storage Transition

section Files

variable {sizeOf : StoredFile → Nat} {sessionId : Uuid} {streamId : String} {world : World} {table : SegmentTable}
variable {tables : List SegmentTable} {session : DataSession} {segment : DataSegment}

/-- The Arrow table that is written for a segment. -/
def segmentArrow (table : SegmentTable) : Except Data.PyException ArrowTable :=
  framesToTable (table.frames.map PyFrame.ofFrame) (text table.sessionId.text) (text table.streamId) table.segmentIndex

/-- A stored file as the Parquet readers see it. -/
def parquetFile (sizeOf : StoredFile → Nat) (file : StoredFile) : ParquetFile :=
  match file with
  | .table table => ⟨(segmentArrow table).toOption, sizeOf file⟩
  | .truncated => ⟨none, sizeOf file⟩

/-- The files of a project in which no stored path leads outside. -/
def projectTree (sizeOf : StoredFile → Nat) (world : World) : FileTree :=
  ⟨some, fun path => (world.files path).map (parquetFile sizeOf)⟩

theorem ofFrame_floating (frames : List Frame) : ∀ frame ∈ frames.map PyFrame.ofFrame, PyFrame.Floating frame := by
  intro frame member
  obtain ⟨captured, _, rfl⟩ := List.mem_map.mp member
  refine ⟨rfl, rfl, fun stamp held => ?_⟩
  obtain ⟨value, _, rfl⟩ := Option.map_eq_some_iff.mp held
  rfl

private theorem ofFrame_encodable (frames : List Frame) :
    ∀ frame ∈ frames.map PyFrame.ofFrame, PyFrame.Encodable frame := by
  intro frame member
  obtain ⟨captured, _, rfl⟩ := List.mem_map.mp member
  exact ⟨text_encodable _, text_encodable _⟩

/-- The cells of the columns for one frame. -/
def frameCellsOf (frame : PyFrame) : List ArrowValue := frameCells.map fun cell => cell frame

theorem segmentArrow_ok (nonempty : table.frames ≠ []) : segmentArrow table =
    .ok ⟨frameSegmentMetadata (text table.sessionId.text) (text table.streamId) table.segmentIndex, frameArrowSchema,
      (table.frames.map PyFrame.ofFrame).map frameCellsOf⟩ := by
  have some_frame : table.frames.map PyFrame.ofFrame ≠ [] := by simpa using nonempty
  exact (framesToTable_ok (ofFrame_floating table.frames)).mpr
    ⟨⟨some_frame, ofFrame_encodable table.frames, text_encodable _, text_encodable _⟩, rfl⟩

theorem onShelf_nonempty {row : SegmentRow} {files : String → Option StoredFile}
    (held : OnShelf sizeOf sessionId streamId files table row) : table.frames ≠ [] := by
  intro empty
  have first := held.first
  rw [empty] at first
  cases first

/-- The file of a registered table, with the rows of its frames. -/
theorem onShelf_file {row : SegmentRow} (held : OnShelf sizeOf sessionId streamId world.files table row) :
    ∃ arrow, (projectTree sizeOf world).files row.relativePath = some ⟨some arrow, row.byteSize⟩ ∧
      segmentArrow table = .ok arrow := by
  have written := segmentArrow_ok (onShelf_nonempty held)
  refine ⟨_, ?_, written⟩
  simp only [projectTree, held.stored, Option.map_some, parquetFile, written, held.sized, Except.toOption]

private theorem shortIndex {index : Nat} (bound : index ≤ largestBoundInteger) :
    (Nat.toDigits 10 index).length ≤ maxStrDigits := by
  have small : (Nat.toDigits 10 index).length ≤ 19 := by
    refine (Nat.length_toDigits_le_iff (by decide) (by decide)).mpr ?_
    exact Nat.lt_of_le_of_lt bound (by decide)
  exact small.trans (by decide)

/-- The gate lets the file of a registered table through. -/
theorem onShelf_registered (held : OnShelf sizeOf sessionId streamId world.files table segment.toSegmentRow)
    (named : session.sessionId = sessionId) (streamed : session.streamId = streamId) :
    ∃ header, requireRegisteredSegment (projectTree sizeOf world) segment.relativePath session segment = .ok header := by
  obtain ⟨arrow, file, written⟩ := onShelf_file held
  have agrees : (expectedOf session segment.segmentIndex).Matches (text table.sessionId.text) (text table.streamId)
      table.segmentIndex := by
    refine ⟨fun value given => ?_, fun value given => ?_, fun value given => ?_⟩
    · obtain rfl := Option.some.inj given
      rw [named, held.session]
    · obtain rfl := Option.some.inj given
      rw [streamed, held.stream]
    · obtain rfl := Option.some.inj given
      rw [held.index]
  have accepted := tableToFrames_ok.mpr (written_accepted (ofFrame_floating table.frames) written agrees)
  rw [tableToFrames, bind_ok] at accepted
  obtain ⟨_, metadata, rest⟩ := accepted
  obtain ⟨_, layout, _⟩ := bind_ok.mp rest
  have arrowTable := written.symm.trans (segmentArrow_ok (onShelf_nonempty held))
  obtain rfl := Except.ok.inj arrowTable
  have index : requireMetadataInteger (frameSegmentMetadata (text table.sessionId.text) (text table.streamId)
      table.segmentIndex) "canx.segment_index" = .ok (table.segmentIndex : Int) := by
    have value : metadataValue (frameSegmentMetadata (text table.sessionId.text) (text table.streamId)
        table.segmentIndex) "canx.segment_index" = some (textOf table.segmentIndex) := rfl
    simp only [requireMetadataInteger, value, intOf_textOf (shortIndex held.bound)]
  have version : requireMetadataInteger (frameSegmentMetadata (text table.sessionId.text) (text table.streamId)
      table.segmentIndex) "canx.schema_version" = .ok 1 := by
    have value : metadataValue (frameSegmentMetadata (text table.sessionId.text) (text table.streamId)
        table.segmentIndex) "canx.schema_version" = some (textOf (1 : Nat)) := rfl
    simp only [requireMetadataInteger, value, intOf_textOf (shortIndex (by decide : 1 ≤ largestBoundInteger))]
    rfl
  have canonical : segment.relativePath = segmentRelativePath session.sessionId segment.segmentIndex := by
    rw [held.path, named, held.index]
  have counted : ((table.frames.map PyFrame.ofFrame).map frameCellsOf).length = segment.frameCount := by
    rw [List.length_map, List.length_map, held.frameCount]
  have sized : ((projectTree sizeOf world).files segment.relativePath).map ParquetFile.byteSize =
      some segment.byteSize := by
    rw [file]
    rfl
  have validated : validateSegmentHeader (projectTree sizeOf world) segment.relativePath session segment.segmentIndex =
      .ok ⟨session.sessionId, session.streamId, table.segmentIndex, 1,
        ((table.frames.map PyFrame.ofFrame).map frameCellsOf).length⟩ := by
    rw [validateSegmentHeader, file]
    simp only [metadata, layout, index, version, fromData, ok_bind]
    rfl
  simp only [requireRegisteredSegment, bind_ok, refuse_ok, not_not]
  exact ⟨_, (), canonical, _, validated, (), counted, (), sized, rfl⟩

/-- The row that the engine reads of a frame. -/
def rowOf (frame : Frame) : FrameRow := FrameRow.ofFrame (PyFrame.ofFrame frame)

theorem onShelf_rows {row : SegmentRow} (held : OnShelf sizeOf sessionId streamId world.files table row) :
    engineFiles (projectTree sizeOf world) row.relativePath = table.frames.map rowOf := by
  obtain ⟨arrow, file, written⟩ := onShelf_file held
  obtain rfl := Except.ok.inj (written.symm.trans (segmentArrow_ok (onShelf_nonempty held)))
  rw [engineFiles_table file rfl, ArrowTable.dicts, List.map_map, List.map_map, List.map_map]
  refine List.map_congr_left fun frame _ => ?_
  exact frameCells_row (PyFrame.ofFrame frame)

theorem onShelf_bounded {row : SegmentRow} (held : OnShelf sizeOf sessionId streamId world.files table row)
    (ascending : Ascending Frame.sequence table.frames) :
    Bounded row (engineFiles (projectTree sizeOf world) row.relativePath) := by
  rw [onShelf_rows held]
  obtain ⟨first, head, lowest⟩ := Option.map_eq_some_iff.mp held.first
  obtain ⟨last, tail, highest⟩ := Option.map_eq_some_iff.mp held.last
  refine ⟨fun other member => ?_, ?_, ?_⟩
  · obtain ⟨frame, inside, rfl⟩ := List.mem_map.mp member
    refine ⟨frame.sequence, rfl, ?_, ?_⟩
    · rw [← lowest]
      exact ascending.head_le head inside
    · rw [← highest]
      exact ascending.le_last tail inside
  · exact ⟨_, List.mem_map_of_mem (List.mem_of_mem_head? head), by rw [← lowest]; rfl⟩
  · exact ⟨_, List.mem_map_of_mem (List.mem_of_getLast? tail), by rw [← highest]; rfl⟩

end Files

section Snapshots

variable {sizeOf : StoredFile → Nat} {sessionId : Uuid} {streamId : String} {world : World}
variable {tables : List SegmentTable} {session : DataSession} {segments : List DataSegment} {query : FrameQuery}

/-- Registered in index order, the rows are listed as they were appended. -/
theorem shelf_segmentRows (shelf : Shelf sizeOf sessionId streamId tables world) :
    segmentRows sessionId world.database = sessionSegments sessionId world.database := by
  have indices : (sessionSegments sessionId world.database).map SegmentRow.segmentIndex = List.range tables.length := by
    rw [← shelf.indices]
    exact map_of_forall₂ (shelf.rows.imp fun _ _ held => held.index)
  have ascending : ((sessionSegments sessionId world.database).map SegmentRow.segmentIndex).Pairwise (· ≤ ·) := by
    rw [indices]
    exact List.pairwise_le_range
  exact List.Pairwise.insertionSort_eq (List.pairwise_map.mp ascending)

/-- The snapshot of a request. -/
theorem shelf_listed (shelf : Shelf sizeOf sessionId streamId tables world) : ∃ segments,
    listSegments sessionId world.database = .ok segments ∧ List.Forall₂ (fun table segment =>
      OnShelf sizeOf sessionId streamId world.files table segment.toSegmentRow) tables segments := by
  have valid : ∀ row ∈ sessionSegments sessionId world.database, ∃ segment, segmentFromRow row = .ok segment := by
    intro row member
    obtain ⟨table, _, held⟩ := forall₂_right shelf.rows member
    exact ⟨⟨row, held.valid⟩, by rw [segmentFromRow, DataSegment.make_of_check held.valid]⟩
  obtain ⟨segments, listed⟩ := mapM_total valid
  refine ⟨segments, by rw [listSegments, shelf_segmentRows shelf, listed], ?_⟩
  have rows := segmentsFromRows_rows listed
  have held := shelf.rows
  rw [← rows, List.forall₂_map_right_iff] at held
  exact held

private theorem shelf_session (shelf : Shelf sizeOf sessionId streamId tables world) : ∃ session,
    registeredSession sessionId world.database = .ok session ∧ session.sessionId = sessionId ∧
      session.streamId = streamId := by
  obtain ⟨row, found, valid, stream⟩ := shelf.listed
  refine ⟨⟨row, valid⟩, ?_, sessionRow_key found, stream⟩
  rw [registeredSession, found]
  simp only [DataSession.make_of_check valid]

/-- Every file that a plan names is handed to the engine. -/
theorem candidatePaths_ok {plan : QueryPlan} {tree : FileTree}
    (listed : listSegments sessionId world.database = .ok segments)
    (planned : ∀ path ∈ plan.relativePaths, ∃ segment ∈ segments, segment.relativePath = path)
    (through : ∀ segment ∈ segments, candidatePath tree session segment = .ok segment.relativePath) :
    candidatePaths tree session segments plan = .ok plan.relativePaths := by
  refine mapM_ok.mpr (List.forall₂_same.mpr fun path member => ?_)
  obtain ⟨segment, inside, rfl⟩ := planned path member
  rw [byPath_listed listed inside, ok_bind]
  exact through segment inside

private theorem shelf_candidate {table : SegmentTable} {segment : DataSegment}
    (held : OnShelf sizeOf sessionId streamId world.files table segment.toSegmentRow)
    (named : session.sessionId = sessionId) (streamed : session.streamId = streamId) :
    candidatePath (projectTree sizeOf world) session segment = .ok segment.relativePath :=
  candidatePath_ok.mpr ⟨rfl, onShelf_registered held named streamed⟩

/-- The files that the plan keeps of the shelf match what all of its files do. -/
theorem framePaths_shelf (query : FrameQuery) (shelf : Shelf sizeOf query.filter.sessionId streamId tables world) :
    ∃ (segments : List DataSegment) (paths : List String),
      List.Forall₂ (fun table segment =>
        OnShelf sizeOf query.filter.sessionId streamId world.files table segment.toSegmentRow) tables segments ∧
      framePaths world.database (projectTree sizeOf world) query = .ok paths ∧
      matching (engineFiles (projectTree sizeOf world)) query.filter (query.afterSequence.map Int.ofNat) paths =
        matching (engineFiles (projectTree sizeOf world)) query.filter (query.afterSequence.map Int.ofNat)
          (segments.map fun segment => segment.relativePath) := by
  obtain ⟨segments, listed, held⟩ := shelf_listed shelf
  obtain ⟨session, registered, named, streamed⟩ := shelf_session shelf
  have own : ∀ row ∈ segments.map DataSegment.toSegmentRow, row.sessionId = query.filter.sessionId := by
    intro row member
    obtain ⟨segment, inside, rfl⟩ := List.mem_map.mp member
    exact (listSegments_mem listed inside).2
  have valid : ∀ cursor ∈ query.afterSequence.map Int.ofNat, 0 ≤ cursor := by
    intro cursor given
    obtain ⟨sequence, _, rfl⟩ := Option.map_eq_some_iff.mp given
    exact Int.natCast_nonneg sequence
  have bounded : ∀ row ∈ segments.map DataSegment.toSegmentRow,
      Bounded row (engineFiles (projectTree sizeOf world) row.relativePath) := by
    intro row member
    obtain ⟨segment, inside, rfl⟩ := List.mem_map.mp member
    obtain ⟨table, shelved, here⟩ := forall₂_right held inside
    have each := shelf.ascending
    rw [Ascending, tableFrames, List.flatMap_def, List.pairwise_flatten] at each
    exact onShelf_bounded here (each.1 _ (List.mem_map_of_mem shelved))
  obtain ⟨plan, planned, same, -⟩ := planSegments_answers own valid bounded
  have paths : plan.relativePaths = ((segments.map DataSegment.toSegmentRow).filter fun row =>
      mayMatch row query.filter (query.afterSequence.map Int.ofNat)).map SegmentRow.relativePath := by
    have made := planned.symm.trans (planSegments_ok own valid)
    rw [Except.ok.inj made]
  have known : ∀ path ∈ plan.relativePaths, ∃ segment ∈ segments, segment.relativePath = path := by
    intro path member
    rw [paths] at member
    obtain ⟨row, kept, rfl⟩ := List.mem_map.mp member
    obtain ⟨segment, inside, rfl⟩ := List.mem_map.mp (List.mem_filter.mp kept).1
    exact ⟨segment, inside, rfl⟩
  have through : ∀ segment ∈ segments,
      candidatePath (projectTree sizeOf world) session segment = .ok segment.relativePath := by
    intro segment inside
    obtain ⟨table, _, here⟩ := forall₂_right held inside
    exact shelf_candidate here named streamed
  have snapped : snapshot world.database query.filter.sessionId = .ok (session, segments) := by
    rw [snapshot, registered]
    simp only [listed]
  have handed : framePaths world.database (projectTree sizeOf world) query = .ok plan.relativePaths := by
    rw [framePaths, snapped, typed, ok_bind]
    dsimp only
    rw [planned, typed, ok_bind, candidatePaths_ok listed known through]
  have whole : segments.map (fun segment => segment.relativePath) =
      (segments.map DataSegment.toSegmentRow).map SegmentRow.relativePath := by
    rw [List.map_map]
    rfl
  refine ⟨segments, plan.relativePaths, held, handed, ?_⟩
  rw [whole]
  exact same

/-- The engine is asked for the files of the shelf that the plan keeps, which answers as over all of them. -/
theorem queryFrames_segments (query : FrameQuery) (result : Except QueryFault FrameQueryPage)
    (shelf : Shelf sizeOf query.filter.sessionId streamId tables world) : ∃ segments : List DataSegment,
    List.Forall₂ (fun table segment =>
      OnShelf sizeOf query.filter.sessionId streamId world.files table segment.toSegmentRow) tables segments ∧
    (QueryService.QueryFrames world.database (projectTree sizeOf world) query result ↔
      QueryEngine.QueryFrames (engineFiles (projectTree sizeOf world))
        (segments.map fun segment => segment.relativePath) query.filter (query.afterSequence.map Int.ofNat) query.limit
        result) := by
  obtain ⟨segments, paths, held, handed, same⟩ := framePaths_shelf query shelf
  refine ⟨segments, held, ?_⟩
  rw [QueryService.QueryFrames, handed]
  refine queryFrames_matching.trans ?_
  rw [same]
  exact queryFrames_matching.symm

end Snapshots

section Requests

variable {sizeOf : StoredFile → Nat} {streamId : String} {world : World} {tables : List SegmentTable}
variable {query : FrameQuery} {cursor : Option Nat} {frames : List Frame} {filter : FrameFilter}

/-- The filter takes the stored row of a frame. -/
def FrameFilter.accepts (filter : FrameFilter) (frame : Frame) : Bool := selects filter none (rowOf frame)

/-- The same query from a cursor on. -/
def FrameQuery.after (query : FrameQuery) (cursor : Option Nat) : FrameQuery := { query with afterSequence := cursor }

/-- A page of captured frames, as a query answers it. -/
def FrameQueryPage.ofPage (sessionId : Uuid) (page : Page Frame Nat) : FrameQueryPage :=
  ⟨sessionId, page.items.map PyFrame.ofFrame, page.hasMore, page.next⟩

private theorem selects_rowOf (frame : Frame) : selects filter (cursor.map Int.ofNat) (rowOf frame) =
    (filter.accepts frame && cursor.all fun held => decide (held < frame.sequence)) := by
  rw [FrameFilter.accepts, selects, selects, List.all_append, List.all_append]
  cases cursor with
  | none => simp
  | some held =>
    have sequence : (rowOf frame).sequence = some frame.sequence := rfl
    simp [Clause.holds, sequence]

/-- Over the files of the shelf a statement matches the accepted frames beyond its cursor. -/
theorem matching_shelf {segments : List DataSegment} (held : List.Forall₂ (fun table segment =>
      OnShelf sizeOf query.filter.sessionId streamId world.files table segment.toSegmentRow) tables segments) :
    matching (engineFiles (projectTree sizeOf world)) filter (cursor.map Int.ofNat)
        (segments.map fun segment => segment.relativePath) =
      (beyond Frame.sequence cursor ((tableFrames tables).filter filter.accepts)).map rowOf := by
  have rows : (segments.map fun segment => segment.relativePath).flatMap (engineFiles (projectTree sizeOf world)) =
      (tableFrames tables).map rowOf := by
    induction held with
    | nil => rfl
    | cons here _ ih =>
      rw [List.map_cons, List.flatMap_cons, ih, onShelf_rows here, tableFrames, tableFrames, List.flatMap_cons,
        List.map_append]
  rw [matching, selected, rows, List.filter_map, beyond, List.filter_filter]
  congr 1
  refine List.filter_congr fun frame _ => ?_
  rw [Function.comp_apply, selects_rowOf, Bool.and_comm]

/-- Rows with ascending sequences have one order. -/
theorem ordered_rows {answer : List FrameRow} (ascending : Ascending Frame.sequence frames) :
    Ordered sequenceOrder (frames.map rowOf) answer ↔ answer = frames.map rowOf := by
  have sorted : (frames.map rowOf).Pairwise fun first second => sequenceOrder first second = true := by
    refine List.pairwise_map.mpr (ascending.imp fun before => ?_)
    exact decide_eq_true (Nat.le_of_lt before)
  constructor
  · rintro ⟨permuted, ordered⟩
    refine permuted.eq_of_pairwise (fun first second inFirst inSecond before after => ?_) ordered sorted
    obtain ⟨earlier, held, rfl⟩ := List.mem_map.mp (permuted.mem_iff.mp inFirst)
    obtain ⟨later, there, rfl⟩ := List.mem_map.mp inSecond
    have same : earlier.sequence = later.sequence :=
      Nat.le_antisymm (of_decide_eq_true before) (of_decide_eq_true after)
    have distinct : (frames.map Frame.sequence).Nodup := List.pairwise_map.mpr (ascending.imp Nat.ne_of_lt)
    rw [List.inj_on_of_nodup_map distinct held there same]
  · rintro rfl
    exact ⟨.refl _, sorted⟩

private theorem mapM_rowToFrame (frames : List Frame) :
    (frames.map rowOf).mapM rowToFrame = .ok (frames.map PyFrame.ofFrame) := by
  refine mapM_ok.mpr ?_
  rw [List.forall₂_map_left_iff, List.forall₂_map_right_iff]
  refine List.forall₂_same.mpr fun frame member => ?_
  exact rowToFrame_ok.mpr ⟨ofFrame_floating frames _ (List.mem_map_of_mem member), rfl⟩

/-- The page of rows with ascending sequences. -/
theorem pageOf_rows (sessionId : Uuid) (limit : Nat) (frames : List Frame) :
    pageOf sessionId limit ((frames.map rowOf).take (limit + 1)) =
      .ok ⟨sessionId, (frames.take limit).map PyFrame.ofFrame, decide (limit < frames.length),
        if decide (limit < frames.length) = true then (frames.take limit).getLast?.map Frame.sequence else none⟩ := by
  have longer : decide (limit < ((frames.map rowOf).take (limit + 1)).length) = decide (limit < frames.length) := by
    rw [List.length_take, List.length_map]
    refine decide_eq_decide.mpr ?_
    omega
  have page : (if decide (limit < frames.length) = true then ((frames.map rowOf).take (limit + 1)).take limit
      else (frames.map rowOf).take (limit + 1)) = (frames.take limit).map rowOf := by
    split
    · rw [List.take_take, List.map_take, Nat.min_eq_left (Nat.le_succ limit)]
    · rename_i fits
      have short : frames.length ≤ limit := Nat.not_lt.mp (of_decide_eq_false (Bool.eq_false_iff.mpr fits))
      rw [List.map_take, List.take_of_length_le (by rw [List.length_map]; omega),
        List.take_of_length_le (by rw [List.length_map]; exact short)]
  simp only [pageOf]
  rw [longer, page, mapM_rowToFrame, ok_bind]
  have last : ((frames.take limit).map PyFrame.ofFrame).getLast?.map PyFrame.sequence =
      (frames.take limit).getLast?.map Frame.sequence := by
    rw [List.getLast?_map, Option.map_map]
    rfl
  rw [last]
  rfl

/-- A request over a shelf has one answer: the page of the accepted frames beyond its cursor. -/
theorem queryFrames_shelf {result : Except QueryFault FrameQueryPage}
    (shelf : Shelf sizeOf query.filter.sessionId streamId tables world) :
    QueryService.QueryFrames world.database (projectTree sizeOf world) (query.after cursor) result ↔
      result = .ok (.ofPage query.filter.sessionId
        (pageAfter Frame.sequence query.limit cursor ((tableFrames tables).filter query.filter.accepts))) := by
  obtain ⟨segments, held, asked⟩ := queryFrames_segments (query.after cursor) result shelf
  have accepted : Ascending Frame.sequence (beyond Frame.sequence cursor
      ((tableFrames tables).filter query.filter.accepts)) := (shelf.ascending.filter _).filter _
  have rows : matching (engineFiles (projectTree sizeOf world)) query.filter (cursor.map Int.ofNat)
      (segments.map fun segment => segment.relativePath) = _ := matching_shelf held
  refine asked.trans (queryFrames_matching.trans ?_)
  change (∃ fetched, Ordered sequenceOrder (matching (engineFiles (projectTree sizeOf world)) query.filter
      (cursor.map Int.ofNat) (segments.map fun segment => segment.relativePath)) fetched ∧
    result = pageOf query.filter.sessionId query.limit (fetched.take (query.limit + 1))) ↔ _
  simp only [rows, ordered_rows accepted, exists_eq_left, pageOf_rows]
  rfl

end Requests

section Browsing

/-- A writer with the services beside it, and a reader that follows the pages of a query. -/
structure Browsing where
  sharing : Sharing
  cursor : Option Nat
  hasMore : Bool
  requests : List (World × FrameQueryPage)

def Browsing.opened (world : World) : Browsing := ⟨.opened world, none, true, []⟩

inductive Move where
  | turn (turn : Turn)
  | page (page : FrameQueryPage)

/-- A turn of the writer or of a service, or the answer to the next request as long as there is one to make. -/
def Browsing.step (state : Browsing) : Move → Option (Browsing × Unit)
  | .turn turn => (state.sharing.step turn).map fun taken => ({ state with sharing := taken.1 }, ())
  | .page page =>
    if state.hasMore then
      some (⟨state.sharing, page.nextAfterSequence, page.hasMore, state.requests ++ [(state.sharing.world, page)]⟩, ())
    else none

/-- The file system is honest, and a page is what the query answers with. -/
def Browsing.Allowed (sizeOf : StoredFile → Nat) (query : FrameQuery) (state : Browsing) : Move → Prop
  | .turn turn => Honest sizeOf state.sharing turn
  | .page page => QueryService.QueryFrames state.sharing.world.database (projectTree sizeOf state.sharing.world)
      (query.after state.cursor) (.ok page)

/-- The frames that the reader has been given. -/
def Browsing.received (state : Browsing) : List PyFrame := state.requests.flatMap fun request => request.2.frames

/-- The frames of the registered segments that a filter accepts. -/
def matchedFrames (filter : FrameFilter) (world : World) : Option (List PyFrame) :=
  (recordedFrames filter.sessionId world).map fun frames => (frames.filter filter.accepts).map PyFrame.ofFrame

/-- What has been received is what the filter matched, from the first request on. -/
structure Browsing.Exact (sizeOf : StoredFile → Nat) (query : FrameQuery) (state : Browsing) : Prop where
  answered : ∀ cursor, ∃ page, ∀ result, QueryService.QueryFrames state.sharing.world.database
    (projectTree sizeOf state.sharing.world) (query.after cursor) result ↔ result = .ok page
  bounded : ∀ request ∈ state.requests, request.2.frames.length ≤ query.limit
  ascending : Ascending PyFrame.sequence state.received
  matched : ∀ first ∈ state.requests.head?, ∀ last ∈ state.requests.getLast?, ∃ early late,
    matchedFrames query.filter first.1 = some early ∧ matchedFrames query.filter last.1 = some late ∧ early <+: late ∧
      state.received <+: late ∧ (state.hasMore = false → state.received = late ∧ early <+: state.received) ∧
      (state.hasMore = true → state.received.length = query.limit * state.requests.length ∧
        state.received.length < late.length)

variable {sizeOf : StoredFile → Nat} {query : FrameQuery} {streamId : String} {world : World} {state next : Browsing}
variable {tables : List SegmentTable} {trace : List (Move × Unit)} {move : Move} {output : Unit}

theorem shelf_recorded {sessionId : Uuid} (shelf : Shelf sizeOf sessionId streamId tables world) :
    recordedFrames sessionId world = some (tableFrames tables) := by
  have read : (sessionSegments sessionId world.database).map (fun row => framesAt world row.relativePath) =
      (tables.map SegmentTable.frames).map some := by
    rw [List.map_map]
    refine map_of_forall₂ (shelf.rows.imp fun table row held => ?_)
    rw [framesAt, held.stored]
    rfl
  rw [recordedFrames, shelf_segmentRows shelf, mapM_some read, Option.map_some, tableFrames, List.flatMap_def]

theorem shelf_matched (shelf : Shelf sizeOf query.filter.sessionId streamId tables world) :
    matchedFrames query.filter world =
      some (((tableFrames tables).filter query.filter.accepts).map PyFrame.ofFrame) := by
  rw [matchedFrames, shelf_recorded shelf, Option.map_some]

/-- A request of the reader is one over the frames on the shelf by then. -/
structure Models (sizeOf : StoredFile → Nat) (query : FrameQuery) (streamId : String)
    (entry : List Frame × Page Frame Nat) (request : World × FrameQueryPage) : Prop where
  shelf : ∃ tables, Shelf sizeOf query.filter.sessionId streamId tables request.1 ∧
    entry.1 = (tableFrames tables).filter query.filter.accepts
  page : request.2 = .ofPage query.filter.sessionId entry.2

/-- The reader follows the pages of a list that only grows at its end. -/
structure Refines (sizeOf : StoredFile → Nat) (query : FrameQuery) (streamId : String) (state : Browsing)
    (log : List (List Frame × Page Frame Nat)) : Prop where
  attended : Attended sizeOf query.filter.sessionId streamId state.sharing
  requested : Requested Frame.sequence query.limit log state.cursor state.hasMore
  models : List.Forall₂ (Models sizeOf query streamId) log state.requests
  grown : ∀ entry ∈ log, ∀ tables, Shelf sizeOf query.filter.sessionId streamId tables state.sharing.world →
    entry.1 <+: (tableFrames tables).filter query.filter.accepts

theorem tableFrames_begins (more : List SegmentTable) : tableFrames tables <+: tableFrames (tables ++ more) := by
  rw [tableFrames, tableFrames, List.flatMap_append]
  exact List.prefix_append _ _

theorem Refines.step {log : List (List Frame × Page Frame Nat)} (refines : Refines sizeOf query streamId state log)
    (allowed : state.Allowed sizeOf query move) (moved : state.step move = some (next, output)) :
    ∃ log, Refines sizeOf query streamId next log := by
  cases move with
  | turn turn =>
    simp only [Browsing.step, Option.map_eq_some_iff] at moved
    obtain ⟨⟨sharing, done⟩, taken, same⟩ := moved
    obtain ⟨rfl, rfl⟩ := Prod.mk.inj same
    obtain ⟨attended, tables, more, before, after⟩ := refines.attended.step allowed taken
    refine ⟨log, attended, refines.requested, refines.models, fun entry member others shelf => ?_⟩
    obtain rfl := after.unique shelf
    exact (refines.grown entry member tables before).trans ((tableFrames_begins more).filter _)
  | page page =>
    simp only [Browsing.step] at moved
    split at moved
    · rename_i more
      obtain ⟨rfl, rfl⟩ := Prod.mk.inj (Option.some.inj moved)
      obtain ⟨tables, shelf⟩ := refines.attended.shelf
      have answered := (queryFrames_shelf shelf).mp allowed
      obtain rfl := Except.ok.inj answered
      have requested := refines.requested
      rw [more] at requested
      have ascending : Ascending Frame.sequence ((tableFrames tables).filter query.filter.accepts) :=
        shelf.ascending.filter _
      refine ⟨_, refines.attended, requested.next ascending fun entry member => refines.grown entry member tables shelf,
        List.rel_append refines.models (.cons ⟨⟨tables, shelf, rfl⟩, rfl⟩ .nil), fun entry member others also => ?_⟩
      obtain rfl := shelf.unique also
      rcases List.mem_append.mp member with earlier | added
      · exact refines.grown entry earlier tables shelf
      · rw [List.mem_singleton.mp added]
    · cases moved

theorem Refines.run (started : Started query.filter.sessionId world)
    (path : Path Browsing.step (Browsing.Allowed sizeOf query) (.opened world) trace state) :
    ∃ log, Refines sizeOf query world.writer.session.streamId state log := by
  refine path.preserves (fun reached => ∃ log, Refines sizeOf query world.writer.session.streamId reached log)
    (fun _ _ _ _ held allowed moved => ?_) ?_
  · obtain ⟨log, refines⟩ := held
    exact refines.step allowed moved
  · exact ⟨[], started_attended started, .start, .nil, fun entry member => by cases member⟩

theorem forall₂_head {Left Right : Type} {related : Left → Right → Prop} {lefts : List Left} {rights : List Right}
    {right : Right} (all : List.Forall₂ related lefts rights) (head : right ∈ rights.head?) :
    ∃ left ∈ lefts.head?, related left right := by
  cases all with
  | nil => cases head
  | cons here _ =>
    obtain rfl := Option.some.inj head
    exact ⟨_, rfl, here⟩

theorem forall₂_last {Left Right : Type} {related : Left → Right → Prop} {lefts : List Left} {rights : List Right}
    {right : Right} (all : List.Forall₂ related lefts rights) (last : right ∈ rights.getLast?) :
    ∃ left ∈ lefts.getLast?, related left right := by
  rw [List.getLast?_eq_head?_reverse] at last ⊢
  exact forall₂_head (List.forall₂_reverse_iff.mpr all) last

theorem Refines.received {log : List (List Frame × Page Frame Nat)} (refines : Refines sizeOf query streamId state log) :
    state.received = (handedOut log).map PyFrame.ofFrame := by
  have models := refines.models
  rw [Browsing.received, handedOut]
  generalize state.requests = requests at models ⊢
  clear refines
  induction models with
  | nil => rfl
  | cons here _ ih =>
    rw [List.flatMap_cons, List.flatMap_cons, List.map_append, ← ih, here.page]
    rfl

theorem Refines.exact {log : List (List Frame × Page Frame Nat)} (refines : Refines sizeOf query streamId state log) :
    state.Exact sizeOf query := by
  have pages := refines.requested.exact query.limit_positive
  have received := refines.received
  have count := refines.models.length_eq
  refine ⟨fun cursor => ?_, fun request member => ?_, ?_, fun first head last tail => ?_⟩
  · obtain ⟨tables, shelf⟩ := refines.attended.shelf
    exact ⟨_, fun result => queryFrames_shelf shelf⟩
  · obtain ⟨entry, inside, models⟩ := forall₂_right refines.models member
    rw [models.page, FrameQueryPage.ofPage, List.length_map]
    exact pages.bounded entry inside
  · rw [received]
    refine List.pairwise_map.mpr ?_
    cases latest : log.getLast? with
    | none =>
      rw [List.getLast?_eq_none_iff.mp latest]
      exact .nil
    | some entry =>
      obtain ⟨request, _, models⟩ := forall₂_left refines.models (List.mem_of_getLast? latest)
      obtain ⟨tables, shelf, held⟩ := models.shelf
      have ascending : Ascending Frame.sequence entry.1 := by
        rw [held]
        exact shelf.ascending.filter _
      exact ascending.sublist (pages.begins entry latest).sublist
  · obtain ⟨early, earliest, modelsFirst⟩ := forall₂_head refines.models head
    obtain ⟨late, latest, modelsLast⟩ := forall₂_last refines.models tail
    obtain ⟨before, shelfFirst, heldFirst⟩ := modelsFirst.shelf
    obtain ⟨after, shelfLast, heldLast⟩ := modelsLast.shelf
    have begins : early.1.map PyFrame.ofFrame <+: late.1.map PyFrame.ofFrame :=
      (refines.requested.first_begins earliest latest).map _
    refine ⟨early.1.map PyFrame.ofFrame, late.1.map PyFrame.ofFrame, ?_, ?_, begins, ?_, fun ended => ?_, fun more => ?_⟩
    · rw [heldFirst]
      exact shelf_matched shelfFirst
    · rw [heldLast]
      exact shelf_matched shelfLast
    · rw [received]
      exact (pages.begins late latest).map _
    · have all := pages.covers ended late latest
      rw [received, all]
      exact ⟨rfl, begins⟩
    · obtain ⟨length, shorter⟩ := pages.full more
      rw [received, List.length_map, List.length_map, ← count]
      exact ⟨length, shorter late latest⟩

/-- Following the pages of a query while a writer commits, and others may end its session: every request is answered, by
at most `limit` frames. What has been received ascends, it begins what the filter matched by the last request, and once
there is no more to come it is all of that, after everything it matched by the first request. -/
theorem paging_exact (started : Started query.filter.sessionId world)
    (path : Path Browsing.step (Browsing.Allowed sizeOf query) (.opened world) trace state) :
    state.Exact sizeOf query := by
  obtain ⟨log, refines⟩ := Refines.run started path
  exact refines.exact

/-- A recording during which no page is asked for. -/
theorem browsing_turns {turns : List (Turn × Unit)} {sharing : Sharing}
    (recording : Path Sharing.step (Honest sizeOf) state.sharing turns sharing) :
    ∃ moves, Path Browsing.step (Browsing.Allowed sizeOf query) state moves { state with sharing } := by
  induction recording with
  | refl => exact ⟨[], .refl⟩
  | @snoc trace middle turn target output _ honest moved ih =>
    obtain ⟨moves, prior⟩ := ih
    have stepped : Browsing.step { state with sharing := middle } (.turn turn) =
        some ({ state with sharing := target }, ()) := by
      simp only [Browsing.step, moved, Option.map_some]
    have allowed : Browsing.Allowed sizeOf query { state with sharing := middle } (.turn turn) := honest
    exact ⟨_, .snoc prior allowed stepped⟩

/-- The request after a run, where the frames on the shelf are known. -/
theorem browsing_page {frames : List Frame} (started : Started query.filter.sessionId world)
    (path : Path Browsing.step (Browsing.Allowed sizeOf query) (.opened world) trace state) (more : state.hasMore = true)
    (recorded : recordedFrames query.filter.sessionId state.sharing.world = some frames) {page : FrameQueryPage}
    (answer : page = .ofPage query.filter.sessionId
      (pageAfter Frame.sequence query.limit state.cursor (frames.filter query.filter.accepts))) :
    Path Browsing.step (Browsing.Allowed sizeOf query) (.opened world) (trace ++ [(.page page, ())])
      ⟨state.sharing, page.nextAfterSequence, page.hasMore, state.requests ++ [(state.sharing.world, page)]⟩ := by
  obtain ⟨log, refines⟩ := Refines.run started path
  obtain ⟨tables, shelf⟩ := refines.attended.shelf
  obtain rfl := Option.some.inj ((shelf_recorded shelf).symm.trans recorded)
  have allowed : state.Allowed sizeOf query (.page page) := (queryFrames_shelf shelf).mpr (congrArg Except.ok answer)
  refine .snoc path allowed ?_
  rw [Browsing.step, if_pos more]

end Browsing

section Sample

theorem sampleLimit : 1 ≤ maxQueryRows := by decide

/-- One frame a page. -/
def pagedQuery : FrameQuery := ⟨FrameFilter.ofSession sampleSessionId, none, 1, Nat.one_pos, sampleLimit⟩

/-- A call that appends one frame and registers it under an identity. -/
def recordedTurns (sequence : Nat) (unsigned : sequence ≤ 0xFFFFFFFFFFFFFFFF) (uuid : Uuid) : List Turn :=
  .call (.append (sampleBatch sequence unsigned)) :: List.replicate 17 (.write { Data.calm with uuid })

def recordedSharing (sharing : Sharing) (turns : List Turn) : Sharing :=
  ((follow Sharing.step sharing turns).map Prod.fst).getD sharing

theorem recordedSharing_path {sizeOf : StoredFile → Nat} {query : FrameQuery} {source state : Browsing}
    {moves : List (Move × Unit)} {turns : List Turn}
    (prior : Path Browsing.step (Browsing.Allowed sizeOf query) source moves state)
    (honest : ∀ turn ∈ turns, ∀ reached, Honest sizeOf reached turn) :
    ∃ more, Path Browsing.step (Browsing.Allowed sizeOf query) source more
      { state with sharing := recordedSharing state.sharing turns } := by
  rw [recordedSharing]
  cases followed : follow Sharing.step state.sharing turns with
  | none => exact ⟨moves, prior⟩
  | some reached =>
    obtain ⟨later, recording⟩ := browsing_turns (.of_follow honest followed)
    exact ⟨_, prior.trans recording⟩

theorem recordedTurns_honest (sequence : Nat) (unsigned : sequence ≤ 0xFFFFFFFFFFFFFFFF) (uuid : Uuid) :
    ∀ turn ∈ recordedTurns sequence unsigned uuid, ∀ reached, Honest (fun _ => 100) reached turn := by
  intro turn member reached
  rcases List.mem_cons.mp member with rfl | written
  · trivial
  · rw [List.eq_of_mem_replicate written]
    cases running : reached.writer with
    | finish result => simp only [Honest, running]
    | perform request next =>
      simp only [Honest, running]
      cases request with
      | fileSize path => exact fun _ _ => rfl
      | _ => trivial

theorem first_unsigned : 0 ≤ 0xFFFFFFFFFFFFFFFF := by decide

theorem second_unsigned : 1 ≤ 0xFFFFFFFFFFFFFFFF := by decide

theorem third_unsigned : 2 ≤ 0xFFFFFFFFFFFFFFFF := by decide

def thirdSegmentId : Uuid := ⟨"3", by decide⟩

/-- The sample session once two frames are registered, and once a third one is. -/
def twoRecorded : Sharing :=
  recordedSharing (recordedSharing (.opened (sampleWorld 1 Nat.one_pos))
    (recordedTurns 0 first_unsigned sampleSegmentId))
    (recordedTurns 1 second_unsigned sampleProjectId)

def threeRecorded : Sharing :=
  recordedSharing twoRecorded (recordedTurns 2 third_unsigned thirdSegmentId)

/-- The page that follows a cursor. -/
def pagedFrames (cursor : Option Nat) (frames : List Frame) : FrameQueryPage :=
  .ofPage sampleSessionId (pageAfter Frame.sequence 1 cursor (frames.filter pagedQuery.filter.accepts))

/-- A third frame is registered after the first page: three pages of one frame each. -/
theorem paging_exact_growing : ∃ moves final,
    Path Browsing.step (Browsing.Allowed (fun _ => 100) pagedQuery) (.opened (sampleWorld 1 Nat.one_pos)) moves final ∧
      final.received.map PyFrame.sequence = [0, 1, 2] ∧ final.hasMore = false ∧
      final.Exact (fun _ => 100) pagedQuery := by
  have started : Started pagedQuery.filter.sessionId (sampleWorld 1 Nat.one_pos) := sampleWorld_started 1 Nat.one_pos
  have two : recordedFrames sampleSessionId twoRecorded.world =
      some [Data.sampleFrame 0 first_unsigned, Data.sampleFrame 1 second_unsigned] := by decide +kernel
  have three : recordedFrames sampleSessionId threeRecorded.world =
      some [Data.sampleFrame 0 first_unsigned, Data.sampleFrame 1 second_unsigned,
        Data.sampleFrame 2 third_unsigned] := by decide +kernel
  obtain ⟨_, first⟩ := recordedSharing_path .refl
    (recordedTurns_honest 0 first_unsigned sampleSegmentId)
  obtain ⟨_, second⟩ := recordedSharing_path first
    (recordedTurns_honest 1 second_unsigned sampleProjectId)
  have firstPage := browsing_page started second rfl two rfl
  obtain ⟨_, third⟩ := recordedSharing_path firstPage
    (recordedTurns_honest 2 third_unsigned thirdSegmentId)
  have secondPage := browsing_page started third (by decide +kernel) three rfl
  have thirdPage := browsing_page started secondPage (by decide +kernel) three rfl
  exact ⟨_, _, thirdPage, by decide +kernel, by decide +kernel, paging_exact started thirdPage⟩

/-- The page after the first frame holds the second, and says that more follow. -/
example : (fun page : FrameQueryPage => (page.frames.map PyFrame.sequence, page.hasMore))
    (pagedFrames (some 0) [Data.sampleFrame 0 first_unsigned, Data.sampleFrame 1 second_unsigned,
      Data.sampleFrame 2 third_unsigned]) = ([1], true) := by
  decide +kernel

end Sample

end CanX.Query
