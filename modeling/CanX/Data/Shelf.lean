import CanX.Data.Account
import CanX.Data.Finality
import CanX.Storage.Paging

/-! What a writer has registered, whatever fails and whoever ends its session meanwhile: the tables of the first
segments, each with a row that describes it and a file that holds it. -/

namespace CanX.Data

namespace Shelving

open Domain Storage Transition

section Shelves

variable {sizeOf : StoredFile → Nat} {sessionId : Uuid} {streamId : String} {tables : List SegmentTable}
variable {world : World} {table : SegmentTable} {row : SegmentRow} {files : String → Option StoredFile}

def tableFrames (tables : List SegmentTable) : List Frame := tables.flatMap SegmentTable.frames

/-- A row describes a table of the session, and its file holds it. -/
structure OnShelf (sizeOf : StoredFile → Nat) (sessionId : Uuid) (streamId : String)
    (files : String → Option StoredFile) (table : SegmentTable) (row : SegmentRow) : Prop where
  valid : row.check = .ok ()
  session : table.sessionId = sessionId
  stream : table.streamId = streamId
  index : row.segmentIndex = table.segmentIndex
  bound : table.segmentIndex ≤ largestBoundInteger
  path : row.relativePath = segmentRelativePath sessionId table.segmentIndex
  frameCount : row.frameCount = table.frames.length
  first : table.frames.head?.map Frame.sequence = some row.firstSequence
  last : table.frames.getLast?.map Frame.sequence = some row.lastSequence
  stored : files row.relativePath = some (.table table)
  sized : row.byteSize = sizeOf (.table table)

/-- The row of the session is valid and names its stream. -/
def Listed (sessionId : Uuid) (streamId : String) (database : Database) : Prop :=
  ∃ row, sessionRow sessionId database = some row ∧ row.check = .ok () ∧ row.streamId = streamId

/-- The registered segments of a session, numbered from 0, hold the tables; the sequences of their frames ascend. -/
structure Shelf (sizeOf : StoredFile → Nat) (sessionId : Uuid) (streamId : String) (tables : List SegmentTable)
    (world : World) : Prop where
  indices : tables.map SegmentTable.segmentIndex = List.range tables.length
  rows : List.Forall₂ (OnShelf sizeOf sessionId streamId world.files) tables (sessionSegments sessionId world.database)
  listed : Listed sessionId streamId world.database
  ascending : Ascending Frame.sequence (tableFrames tables)

/-- The registered tables stay, and more may follow them. -/
def Grown (sizeOf : StoredFile → Nat) (sessionId : Uuid) (streamId : String) (before after : World) : Prop :=
  ∃ tables more, Shelf sizeOf sessionId streamId tables before ∧ Shelf sizeOf sessionId streamId (tables ++ more) after

theorem OnShelf.unique {other : SegmentTable} (held : OnShelf sizeOf sessionId streamId files table row)
    (also : OnShelf sizeOf sessionId streamId files other row) : table = other := by
  have same := held.stored.symm.trans also.stored
  exact StoredFile.table.inj (Option.some.inj same)

theorem Shelf.unique {others : List SegmentTable} (shelf : Shelf sizeOf sessionId streamId tables world)
    (also : Shelf sizeOf sessionId streamId others world) : tables = others := by
  have rows := shelf.rows
  have same := also.rows
  clear shelf also
  generalize sessionSegments sessionId world.database = registered at rows same
  induction rows generalizing others with
  | nil =>
    cases same
    rfl
  | cons here _ ih =>
    cases same with
    | cons there later => rw [here.unique there, ih later]

theorem Grown.trans {between after : World} (first : Grown sizeOf sessionId streamId world between)
    (second : Grown sizeOf sessionId streamId between after) : Grown sizeOf sessionId streamId world after := by
  obtain ⟨tables, more, before, middle⟩ := first
  obtain ⟨others, further, between, final⟩ := second
  obtain rfl := middle.unique between
  exact ⟨tables, more ++ further, before, by rwa [List.append_assoc] at final⟩

theorem Shelf.index_lt (shelf : Shelf sizeOf sessionId streamId tables world) (member : table ∈ tables) :
    table.segmentIndex < tables.length := by
  have index := List.mem_map_of_mem (f := SegmentTable.segmentIndex) member
  rw [shelf.indices] at index
  exact List.mem_range.mp index

/-- The paths of the registered segments are kept free of anything else. -/
def Free (sessionId : Uuid) (tables : List SegmentTable) (path : String) : Prop :=
  ∀ index < tables.length, segmentRelativePath sessionId index ≠ path

theorem Shelf.withFile {path : String} {file : Option StoredFile}
    (shelf : Shelf sizeOf sessionId streamId tables world) (free : Free sessionId tables path) :
    Shelf sizeOf sessionId streamId tables (world.withFile path file) := by
  refine { shelf with rows := ?_ }
  have each := (List.forall₂_and_left tables _).mpr ⟨fun table member => member, shelf.rows⟩
  refine each.imp fun table row held => ?_
  obtain ⟨member, here⟩ := held
  have other : row.relativePath ≠ path := by
    rw [here.path]
    exact free _ (shelf.index_lt member)
  exact { here with stored := (Function.update_of_ne other _ _).trans here.stored }

theorem Shelf.withWriter (shelf : Shelf sizeOf sessionId streamId tables world) (writer : Writer) :
    Shelf sizeOf sessionId streamId tables { world with writer } :=
  { shelf with }

end Shelves

section Changes

variable {sizeOf : StoredFile → Nat} {sessionId : Uuid} {streamId : String} {tables : List SegmentTable}
variable {world after : World} {rest : List Frame} {writer : Writer}

/-- Advancing a state leaves the row of a session valid and its stream alone. -/
theorem Listed.advance {database : Database} {named : Uuid} {state : DataSessionState} {endedAt : Option DateTime}
    {updatedAt : DateTime} (listed : Listed sessionId streamId database)
    (dated : (state = .completed ∨ state = .interrupted) → endedAt ≠ none) :
    Listed sessionId streamId (sessionAdvance named state endedAt updatedAt database).1 := by
  obtain ⟨row, found, passed, stream⟩ := listed
  have moved := sessionRow_sessionAdvance sessionId named state endedAt updatedAt database
  rw [found, Option.map_some] at moved
  refine ⟨_, moved, ?_, ?_⟩
  · split
    · simp only [SessionRow.check, checks_ok, refuseIf_ok] at passed ⊢
      exact ⟨passed.1, fun ended => dated ended.1 ended.2, passed.2.2⟩
    · exact passed
  · split
    · exact stream
    · exact stream

theorem Shelf.advance {named : Uuid} {state : DataSessionState} {endedAt : Option DateTime} {updatedAt : DateTime}
    (shelf : Shelf sizeOf sessionId streamId tables world)
    (dated : (state = .completed ∨ state = .interrupted) → endedAt ≠ none) :
    Shelf sizeOf sessionId streamId tables
      { world with database := (sessionAdvance named state endedAt updatedAt world.database).1 } :=
  { shelf with listed := shelf.listed.advance dated }

/-- A session that ends in a state of its own has recorded when. -/
theorem ended_dated (session : DataSession) :
    (session.state = .completed ∨ session.state = .interrupted) → session.endedAt ≠ none := by
  have valid := session.valid
  simp only [SessionRow.check, checks_ok, refuseIf_ok] at valid
  exact fun ended missing => valid.2.1 ⟨ended, missing⟩

/-- The writer goes on where its registered segments end: what it still holds is above what is registered. -/
structure Ready (sessionId : Uuid) (streamId : String) (tables : List SegmentTable) (rest : List Frame)
    (writer : Writer) : Prop where
  named : writer.session.sessionId = sessionId
  streamed : writer.session.streamId = streamId
  counted : writer.session.segmentCount = tables.length
  pending : Ascending Frame.sequence (tableFrames tables ++ rest)
  behind : ∀ frame ∈ tableFrames tables ++ rest,
    ∃ last, writer.lastAppendedSequence = some last ∧ frame.sequence ≤ last

structure Kept (sizeOf : StoredFile → Nat) (sessionId : Uuid) (streamId : String) (tables : List SegmentTable)
    (rest : List Frame) (world : World) : Prop where
  shelf : Shelf sizeOf sessionId streamId tables world
  ready : Ready sessionId streamId tables rest world.writer

/-- Between two calls the writer holds its buffer. -/
def Idle (sizeOf : StoredFile → Nat) (sessionId : Uuid) (streamId : String) (world : World) : Prop :=
  ∃ tables, Kept sizeOf sessionId streamId tables world.writer.buffer world

/-- What other threads and processes do to a writer. -/
structure Aside (sessionId : Uuid) (streamId : String) (before after : World) : Prop where
  writer : after.writer = before.writer
  files : after.files = before.files
  segments : after.database.segments = before.database.segments
  listed : Listed sessionId streamId before.database → Listed sessionId streamId after.database

theorem Aside.refl (world : World) : Aside sessionId streamId world world := ⟨rfl, rfl, rfl, id⟩

theorem Aside.trans {between : World} (first : Aside sessionId streamId world between)
    (second : Aside sessionId streamId between after) : Aside sessionId streamId world after :=
  ⟨second.writer.trans first.writer, second.files.trans first.files, second.segments.trans first.segments,
    second.listed ∘ first.listed⟩

theorem Shelf.aside (shelf : Shelf sizeOf sessionId streamId tables world)
    (moved : Aside sessionId streamId world after) :
    Shelf sizeOf sessionId streamId tables after where
  indices := shelf.indices
  rows := by
    rw [sessionSegments, moved.segments, moved.files]
    exact shelf.rows
  listed := moved.listed shelf.listed
  ascending := shelf.ascending

end Changes

section Triples

variable {sizeOf : StoredFile → Nat} {sessionId : Uuid} {streamId : String} {tables : List SegmentTable}
variable {world : World} {rest frames : List Frame} {writer : Writer} {Value Other : Type}

/-- `stat` tells the size of a file. -/
def measured (sizeOf : StoredFile → Nat) (world : World) (request : DataEffect) (choice : Choice) : Prop :=
  match request with
  | .fileSize path => ∀ file ∈ world.files path, choice.byteSize = sizeOf file
  | _ => True

abbrev ShelfTriple (sizeOf : StoredFile → Nat) (sessionId : Uuid) (streamId : String) {Value : Type}
    (pre : World → Prop) (program : DataProgram Value) (post : Except PyException Value → World → Prop) : Prop :=
  Program.Triple perform (measured sizeOf) (Aside sessionId streamId)
    (fun before _ after => Grown sizeOf sessionId streamId before after) pre program post

/-- What an exception leaves is a writer between two calls. -/
def orIdle (sizeOf : StoredFile → Nat) (sessionId : Uuid) (streamId : String) {Value : Type}
    (kept : Value → World → Prop) : Except PyException Value → World → Prop
  | .ok value => kept value
  | .error _ => Idle sizeOf sessionId streamId

/-- The writer in the middle of a call. -/
def Busy (sizeOf : StoredFile → Nat) (sessionId : Uuid) (streamId : String) (tables : List SegmentTable)
    (writer : Writer) (world : World) : Prop :=
  Kept sizeOf sessionId streamId tables writer.buffer world ∧ world.writer = writer

abbrev Steady (sessionId : Uuid) (streamId : String) (assertion : World → Prop) : Prop :=
  Program.Stable (Aside sessionId streamId) assertion

theorem Kept.aside {after : World} (kept : Kept sizeOf sessionId streamId tables rest world)
    (moved : Aside sessionId streamId world after) : Kept sizeOf sessionId streamId tables rest after := by
  refine ⟨kept.shelf.aside moved, ?_⟩
  rw [moved.writer]
  exact kept.ready

theorem steady_idle : Steady sessionId streamId (Idle sizeOf sessionId streamId) := by
  rintro before after moved ⟨tables, kept⟩
  refine ⟨tables, ?_⟩
  rw [moved.writer]
  exact kept.aside moved

theorem steady_busy : Steady sessionId streamId (Busy sizeOf sessionId streamId tables writer) :=
  fun _ _ moved busy => ⟨busy.1.aside moved, moved.writer.trans busy.2⟩

theorem steady_orIdle {kept : Value → World → Prop} (steady : ∀ value, Steady sessionId streamId (kept value))
    (result : Except PyException Value) :
    Steady sessionId streamId (orIdle sizeOf sessionId streamId kept result) := by
  cases result with
  | ok value => exact steady value
  | error error => exact steady_idle

theorem Busy.idle (busy : Busy sizeOf sessionId streamId tables writer world) :
    Idle sizeOf sessionId streamId world := by
  obtain ⟨kept, rfl⟩ := busy
  exact ⟨tables, kept⟩

/-- An exception leaves the writer between two calls, whatever comes next is not performed. -/
theorem shelf_bind {program : DataProgram Value} {continuation : Value → DataProgram Other} {pre : World → Prop}
    {mid : Value → World → Prop} {kept : Other → World → Prop}
    (first : ShelfTriple sizeOf sessionId streamId pre program (orIdle sizeOf sessionId streamId mid))
    (second : ∀ value, ShelfTriple sizeOf sessionId streamId (mid value) (continuation value)
      (orIdle sizeOf sessionId streamId kept)) :
    ShelfTriple sizeOf sessionId streamId pre (program >>= continuation) (orIdle sizeOf sessionId streamId kept) :=
  .bind Aside.refl first second fun _ => ⟨steady_idle, fun _ idle => idle⟩

theorem shelf_raise {error : PyException} {pre : World → Prop} {kept : Value → World → Prop}
    (idle : ∀ world, pre world → Idle sizeOf sessionId streamId world) :
    ShelfTriple sizeOf sessionId streamId pre (raise error) (orIdle sizeOf sessionId streamId kept) :=
  .finish steady_idle idle

theorem shelf_given {fact : Prop} {program : DataProgram Value} {pre : World → Prop}
    {post : Except PyException Value → World → Prop} (implied : ∀ world, pre world → fact)
    (triple : fact → ShelfTriple sizeOf sessionId streamId pre program post) :
    ShelfTriple sizeOf sessionId streamId pre program post :=
  fun world holds => triple (implied world holds) world holds

/-- An effect that raises leaves its trace, or it acts. -/
theorem shelf_ask {request : DataEffect} {pre : World → Prop}
    {post : Except PyException request.Answer → World → Prop} (steady : Steady sessionId streamId pre)
    (steadyAfter : ∀ result, Steady sessionId streamId (post result))
    (raised : request.inMemory = false → ∀ world error, pre world →
      Grown sizeOf sessionId streamId world (disturbed request world) ∧ post (.error error) (disturbed request world))
    (acted : ∀ world choice, pre world → measured sizeOf world request choice →
      Grown sizeOf sessionId streamId world (act request choice world).1 ∧
        post (act request choice world).2 (act request choice world).1) :
    ShelfTriple sizeOf sessionId streamId pre (ask request) post := by
  refine .effect steady steadyAfter fun world choice holds told => ?_
  unfold perform
  split
  · rename_i error faulted
    by_cases memory : request.inMemory = true
    · simp [memory] at faulted
    · exact raised (Bool.eq_false_iff.mpr memory) world error holds
  · exact acted world choice holds told

/-- An effect that changes nothing, and what its answer tells. -/
theorem shelf_observe {request : DataEffect} {pre : World → Prop} {continuation : request.Answer → DataProgram Value}
    {kept : Value → World → Prop} (seen : request.Answer → Prop) (steady : Steady sessionId streamId pre)
    (idle : ∀ world, pre world → Idle sizeOf sessionId streamId world)
    (traceless : ∀ world, disturbed request world = world)
    (acts : ∀ world choice, pre world → measured sizeOf world request choice →
      (act request choice world).1 = world ∧ ∀ value, (act request choice world).2 = .ok value → seen value)
    (next : ∀ value, seen value → ShelfTriple sizeOf sessionId streamId pre (continuation value)
      (orIdle sizeOf sessionId streamId kept)) :
    ShelfTriple sizeOf sessionId streamId pre (ask request >>= continuation)
      (orIdle sizeOf sessionId streamId kept) := by
  have unmoved (world : World) (holds : pre world) : Grown sizeOf sessionId streamId world world := by
    obtain ⟨tables, kept⟩ := idle world holds
    exact ⟨tables, [], kept.shelf, by rw [List.append_nil]; exact kept.shelf⟩
  have observed : ShelfTriple sizeOf sessionId streamId pre (ask request)
      (orIdle sizeOf sessionId streamId fun value world => pre world ∧ seen value) := by
    refine shelf_ask steady (steady_orIdle fun value => ?_) (fun _ world error holds => ?_)
      fun world choice holds told => ?_
    · exact fun before after moved holds => ⟨steady before after moved holds.1, holds.2⟩
    · rw [traceless]
      exact ⟨unmoved world holds, idle world holds⟩
    · obtain ⟨same, tells⟩ := acts world choice holds told
      rw [same]
      refine ⟨unmoved world holds, ?_⟩
      cases answered : (act request choice world).2 with
      | ok value => exact ⟨holds, tells value answered⟩
      | error error => exact idle world holds
  refine shelf_bind observed fun value => ?_
  exact fun world reached => next value reached.2 world reached.1

theorem shelf_catching {program : DataProgram Value} {handler : PyException → DataProgram Value} {pre : World → Prop}
    {kept : Value → World → Prop} (steady : ∀ value, Steady sessionId streamId (kept value))
    (first : ShelfTriple sizeOf sessionId streamId pre program (orIdle sizeOf sessionId streamId kept))
    (second : ∀ error, ShelfTriple sizeOf sessionId streamId (Idle sizeOf sessionId streamId) (handler error)
      (orIdle sizeOf sessionId streamId kept)) :
    ShelfTriple sizeOf sessionId streamId pre (program.catching handler) (orIdle sizeOf sessionId streamId kept) :=
  .catching Aside.refl first (fun value => ⟨steady value, fun _ held => held⟩) second

/-- Refusing a value raises, and a value that is made goes on. -/
theorem shelf_made {outcome : Except DataError Other} {continuation : Other → DataProgram Value} {pre : World → Prop}
    {kept : Value → World → Prop} (idle : ∀ world, pre world → Idle sizeOf sessionId streamId world)
    (next : ∀ value, outcome = .ok value → ShelfTriple sizeOf sessionId streamId pre (continuation value)
      (orIdle sizeOf sessionId streamId kept)) :
    ShelfTriple sizeOf sessionId streamId pre (made outcome >>= continuation)
      (orIdle sizeOf sessionId streamId kept) := by
  cases outcome with
  | ok value => exact next value rfl
  | error error => exact .finish steady_idle idle

theorem Kept.unmoved (kept : Kept sizeOf sessionId streamId tables rest world) :
    Grown sizeOf sessionId streamId world world :=
  ⟨tables, [], kept.shelf, by rw [List.append_nil]; exact kept.shelf⟩

theorem shelf_modify {change : Writer → Writer} {continuation : Unit → DataProgram Value} {pre mid : World → Prop}
    {kept : Value → World → Prop} (steady : Steady sessionId streamId pre) (steadyMid : Steady sessionId streamId mid)
    (changed : ∀ world, pre world → (∃ tables, Shelf sizeOf sessionId streamId tables world) ∧
      mid { world with writer := change world.writer })
    (next : ShelfTriple sizeOf sessionId streamId mid (continuation ()) (orIdle sizeOf sessionId streamId kept)) :
    ShelfTriple sizeOf sessionId streamId pre (ask (.modifyWriter change) >>= continuation)
      (orIdle sizeOf sessionId streamId kept) := by
  have assigned : ShelfTriple sizeOf sessionId streamId pre (ask (.modifyWriter change))
      (orIdle sizeOf sessionId streamId fun _ => mid) := by
    refine shelf_ask steady (steady_orIdle fun _ => steadyMid) (fun memory => by cases memory) fun world _ holds _ => ?_
    obtain ⟨⟨tables, shelf⟩, reached⟩ := changed world holds
    have same : Shelf sizeOf sessionId streamId (tables ++ []) { world with writer := change world.writer } := by
      rw [List.append_nil]
      exact shelf.withWriter _
    exact ⟨⟨tables, [], shelf, same⟩, reached⟩
  exact shelf_bind assigned fun _ => next

end Triples

end Shelving

end CanX.Data
