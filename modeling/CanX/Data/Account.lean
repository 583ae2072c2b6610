import CanX.Data.Commit
import Mathlib.Algebra.GroupWithZero.Nat

/-! The books of a session: what its rows and its files say of the frames that were registered, and what else may
lie among its files. -/

namespace CanX.Data

open Domain Storage Transition

section Order

variable {frames : List Frame} {first last frame : Frame}

/-- Neither the sequence nor the timestamp of the first frame is above that of the second. -/
def notAfter (first second : Frame) : Prop :=
  first.sequence ≤ second.sequence ∧ first.normalizedTimestamp ≤ second.normalizedTimestamp

private theorem notAfter_refl (frame : Frame) : notAfter frame frame := ⟨Nat.le_refl _, Rat.le_refl⟩

theorem inOrder.notAfter {second : Frame} (before : inOrder first second) : notAfter first second :=
  ⟨before.1.le, before.2⟩

theorem head_notAfter (ordered : frames.Pairwise inOrder) (head : frames.head? = some first)
    (member : frame ∈ frames) : notAfter first frame := by
  cases frames with
  | nil => cases member
  | cons lead rest =>
    obtain rfl := Option.some.inj head
    rcases List.mem_cons.mp member with rfl | later
    · exact notAfter_refl _
    · exact ((List.pairwise_cons.mp ordered).1 frame later).notAfter

theorem notAfter_last (ordered : frames.Pairwise inOrder) (tail : frames.getLast? = some last)
    (member : frame ∈ frames) : notAfter frame last := by
  obtain ⟨earlier, rfl⟩ := List.getLast?_eq_some_iff.mp tail
  rcases List.mem_append.mp member with before | same
  · exact ((List.pairwise_append.mp ordered).2.2 frame before last (List.mem_singleton_self last)).notAfter
  · rw [List.mem_singleton.mp same]
    exact notAfter_refl _

end Order

section Extremes

/-- A value that is below all of them, where there are any. -/
def Extreme {Bound : Type} (below : Bound → Bound → Prop) (bound : Option Bound) (values : List Bound) : Prop :=
  match bound with
  | none => values = []
  | some extreme => extreme ∈ values ∧ ∀ value ∈ values, below extreme value

abbrev Least {Bound : Type} [LE Bound] (bound : Option Bound) (values : List Bound) : Prop :=
  Extreme (fun least value => least ≤ value) bound values

abbrev Greatest {Bound : Type} [LE Bound] (bound : Option Bound) (values : List Bound) : Prop :=
  Extreme (fun greatest value => value ≤ greatest) bound values

/-- The counters and bounds of a session are the sums and the extremes of some segments. -/
structure Balanced (session : SessionRow) (segments : List SegmentRow) : Prop where
  frameCount : session.frameCount = (segments.map SegmentRow.frameCount).sum
  segmentCount : session.segmentCount = segments.length
  firstSequence : Least session.firstSequence (segments.map SegmentRow.firstSequence)
  lastSequence : Greatest session.lastSequence (segments.map SegmentRow.lastSequence)
  firstTimestamp : Least session.firstTimestamp (segments.map SegmentRow.firstTimestamp)
  lastTimestamp : Greatest session.lastTimestamp (segments.map SegmentRow.lastTimestamp)

theorem forall₂_left {Left Right : Type} {related : Left → Right → Prop} {lefts : List Left} {rights : List Right}
    {left : Left} (all : List.Forall₂ related lefts rights) (member : left ∈ lefts) :
    ∃ right ∈ rights, related left right := by
  induction all with
  | nil => cases member
  | cons here _ ih =>
    rcases List.mem_cons.mp member with rfl | later
    · exact ⟨_, List.mem_cons_self, here⟩
    · obtain ⟨right, inside, same⟩ := ih later
      exact ⟨right, List.mem_cons_of_mem _ inside, same⟩

theorem forall₂_right {Left Right : Type} {related : Left → Right → Prop} {lefts : List Left} {rights : List Right}
    {right : Right} (all : List.Forall₂ related lefts rights) (member : right ∈ rights) :
    ∃ left ∈ lefts, related left right :=
  forall₂_left all.flip member

theorem forall₂_imp_right {Left Right : Type} {related implied : Left → Right → Prop} {lefts : List Left}
    {rights : List Right} (all : List.Forall₂ related lefts rights)
    (step : ∀ left, ∀ right ∈ rights, related left right → implied left right) :
    List.Forall₂ implied lefts rights := by
  induction all with
  | nil => exact .nil
  | cons here _ ih =>
    exact .cons (step _ _ List.mem_cons_self here)
      (ih fun left right member => step left right (List.mem_cons_of_mem _ member))

theorem map_of_forall₂ {Left Right Value : Type} {read : Left → Value} {other : Right → Value} {lefts : List Left}
    {rights : List Right} (all : List.Forall₂ (fun left right => other right = read left) lefts rights) :
    rights.map other = lefts.map read := by
  induction all with
  | nil => rfl
  | cons here _ ih => rw [List.map_cons, List.map_cons, here, ih]

end Extremes

section Books

variable {sizeOf : SegmentTable → Nat} {sessionId : Uuid} {chunks : List (List Frame)} {world : World}

/-- The session counts the frames of the chunks and has their bounds. -/
structure Tallies (session : SessionRow) (chunks : List (List Frame)) : Prop where
  frameCount : session.frameCount = chunks.flatten.length
  segmentCount : session.segmentCount = chunks.length
  firstSequence : session.firstSequence = chunks.flatten.head?.map Frame.sequence
  lastSequence : session.lastSequence = chunks.flatten.getLast?.map Frame.sequence
  firstTimestamp : session.firstTimestamp = chunks.flatten.head?.map Frame.normalizedTimestamp
  lastTimestamp : session.lastTimestamp = chunks.flatten.getLast?.map Frame.normalizedTimestamp

/-- The row of a segment describes its frames, and its file holds them. -/
structure Filed (sizeOf : SegmentTable → Nat) (world : World) (frames : List Frame) (row : SegmentRow) : Prop where
  frameCount : row.frameCount = frames.length
  firstSequence : frames.head?.map Frame.sequence = some row.firstSequence
  lastSequence : frames.getLast?.map Frame.sequence = some row.lastSequence
  firstTimestamp : frames.head?.map Frame.normalizedTimestamp = some row.firstTimestamp
  lastTimestamp : frames.getLast?.map Frame.normalizedTimestamp = some row.lastTimestamp
  stored : ∃ table, world.files row.relativePath = some (.table table) ∧ table.frames = frames ∧
    row.byteSize = sizeOf table

/-- The registered segments are numbered from 0, hold the chunks in their files, and the row of their session
counts them. -/
structure Books (sizeOf : SegmentTable → Nat) (sessionId : Uuid) (chunks : List (List Frame)) (world : World) :
    Prop where
  keys : (sessionSegments sessionId world.database).map segmentKey =
    (List.range chunks.length).map fun index => (index, segmentRelativePath sessionId index)
  rows : List.Forall₂ (Filed sizeOf world) chunks (sessionSegments sessionId world.database)
  session : ∃ row, sessionRow sessionId world.database = some row ∧ Tallies row chunks
  ordered : chunks.flatten.Pairwise inOrder

variable {pick : List Frame → Option Frame} {Bound : Type} {bound : Frame → Bound} {below : Bound → Bound → Prop}
variable {rowBound : SegmentRow → Bound} {segments : List SegmentRow}

/-- Where a frame is picked of each list that is below all of it, the one picked of all frames has the extreme of
the rows. -/
theorem extreme_of_picks (some_of : ∀ frames, pick frames = none → frames = [])
    (member_of : ∀ frames frame, pick frames = some frame → frame ∈ frames)
    (below_of : ∀ frames frame other, frames.Pairwise inOrder → pick frames = some frame → other ∈ frames →
      below (bound frame) (bound other))
    (antisymmetric : ∀ first second, below first second → below second first → first = second)
    (ordered : chunks.flatten.Pairwise inOrder)
    (rows : List.Forall₂ (fun frames row => (pick frames).map bound = some (rowBound row)) chunks segments) :
    Extreme below ((pick chunks.flatten).map bound) (segments.map rowBound) := by
  cases picked : pick chunks.flatten with
  | none =>
    rw [Option.map_none, Extreme, List.map_eq_nil_iff]
    have empty := some_of _ picked
    cases rows with
    | nil => rfl
    | @cons frames row others _ here _ =>
      obtain ⟨frame, held, _⟩ := Option.map_eq_some_iff.mp here
      have member : frame ∈ (frames :: others).flatten :=
        List.mem_flatten_of_mem List.mem_cons_self (member_of _ _ held)
      rw [empty] at member
      cases member
  | some extreme =>
    rw [Option.map_some]
    refine ⟨?_, ?_⟩
    · obtain ⟨frames, inside, member⟩ := List.mem_flatten.mp (member_of _ _ picked)
      obtain ⟨row, listed, here⟩ := forall₂_left rows inside
      obtain ⟨frame, held, same⟩ := Option.map_eq_some_iff.mp here
      have within : frames.Pairwise inOrder := (List.pairwise_flatten.mp ordered).1 frames inside
      have above := below_of _ _ _ within held member
      have under := below_of _ _ _ ordered picked (List.mem_flatten_of_mem inside (member_of _ _ held))
      rw [antisymmetric _ _ under above, same]
      exact List.mem_map_of_mem listed
    · intro value member
      obtain ⟨row, listed, rfl⟩ := List.mem_map.mp member
      obtain ⟨frames, inside, here⟩ := forall₂_right rows listed
      obtain ⟨frame, held, same⟩ := Option.map_eq_some_iff.mp here
      rw [← same]
      exact below_of _ _ _ ordered picked (List.mem_flatten_of_mem inside (member_of _ _ held))

private theorem least_of_heads [LE Bound] (monotone : ∀ first second, notAfter first second → bound first ≤ bound second)
    (antisymmetric : ∀ first second : Bound, first ≤ second → second ≤ first → first = second)
    (ordered : chunks.flatten.Pairwise inOrder)
    (rows : List.Forall₂ (fun frames row => frames.head?.map bound = some (rowBound row)) chunks segments) :
    Least (chunks.flatten.head?.map bound) (segments.map rowBound) :=
  extreme_of_picks (fun _ => List.head?_eq_none_iff.mp) (fun _ _ => List.mem_of_mem_head?)
    (fun _ _ _ ordered head member => monotone _ _ (head_notAfter ordered head member)) antisymmetric ordered rows

private theorem greatest_of_lasts [LE Bound]
    (monotone : ∀ first second, notAfter first second → bound first ≤ bound second)
    (antisymmetric : ∀ first second : Bound, first ≤ second → second ≤ first → first = second)
    (ordered : chunks.flatten.Pairwise inOrder)
    (rows : List.Forall₂ (fun frames row => frames.getLast?.map bound = some (rowBound row)) chunks segments) :
    Greatest (chunks.flatten.getLast?.map bound) (segments.map rowBound) :=
  extreme_of_picks (fun _ => List.getLast?_eq_none_iff.mp) (fun _ _ => List.mem_of_getLast?)
    (fun _ _ _ ordered tail member => monotone _ _ (notAfter_last ordered tail member))
    (fun _ _ above under => antisymmetric _ _ under above) ordered rows

/-- A session that tallies its chunks is balanced with the rows of their segments. -/
theorem Books.balanced {session : SessionRow} (books : Books sizeOf sessionId chunks world)
    (tallies : Tallies session chunks) : Balanced session (sessionSegments sessionId world.database) := by
  obtain ⟨keys, rows, -, ordered⟩ := books
  have sequences : ∀ first second, notAfter first second → first.sequence ≤ second.sequence := fun _ _ => And.left
  have timestamps : ∀ first second, notAfter first second →
      first.normalizedTimestamp ≤ second.normalizedTimestamp := fun _ _ => And.right
  refine ⟨?_, ?_, ?_, ?_, ?_, ?_⟩
  · rw [tallies.frameCount, List.length_flatten]
    rw [map_of_forall₂ (rows.imp fun _ _ filed => filed.frameCount)]
  · rw [tallies.segmentCount, rows.length_eq]
  · rw [tallies.firstSequence]
    exact least_of_heads sequences (fun _ _ => Nat.le_antisymm) ordered (rows.imp fun _ _ filed => filed.firstSequence)
  · rw [tallies.lastSequence]
    exact greatest_of_lasts sequences (fun _ _ => Nat.le_antisymm) ordered (rows.imp fun _ _ filed => filed.lastSequence)
  · rw [tallies.firstTimestamp]
    exact least_of_heads timestamps (fun _ _ => Rat.le_antisymm) ordered
      (rows.imp fun _ _ filed => filed.firstTimestamp)
  · rw [tallies.lastTimestamp]
    exact greatest_of_lasts timestamps (fun _ _ => Rat.le_antisymm) ordered
      (rows.imp fun _ _ filed => filed.lastTimestamp)

end Books

section Changes

variable {sizeOf : SegmentTable → Nat} {sessionId : Uuid} {chunks : List (List Frame)} {world : World}
variable {frames : List Frame} {first last : Frame}

theorem Filed.withFile {row : SegmentRow} {path : String} {file : Option StoredFile}
    (filed : Filed sizeOf world frames row) (other : row.relativePath ≠ path) :
    Filed sizeOf (world.withFile path file) frames row := by
  obtain ⟨table, stored, held, sized⟩ := filed.stored
  exact { filed with stored := ⟨table, (Function.update_of_ne other _ _).trans stored, held, sized⟩ }

/-- The paths of the registered segments are those of the first indices. -/
theorem Books.path {row : SegmentRow} (books : Books sizeOf sessionId chunks world)
    (member : row ∈ sessionSegments sessionId world.database) :
    ∃ index < chunks.length, row.segmentIndex = index ∧ row.relativePath = segmentRelativePath sessionId index := by
  have key := List.mem_map_of_mem (f := segmentKey) member
  rw [books.keys] at key
  obtain ⟨index, small, same⟩ := List.mem_map.mp key
  obtain ⟨number, path⟩ := Prod.mk.inj same
  exact ⟨index, List.mem_range.mp small, number.symm, path.symm⟩

/-- A file that no registered segment names. -/
theorem Books.withFile {path : String} {file : Option StoredFile} (books : Books sizeOf sessionId chunks world)
    (fresh : ∀ index < chunks.length, segmentRelativePath sessionId index ≠ path) :
    Books sizeOf sessionId chunks (world.withFile path file) := by
  refine ⟨books.keys, ?_, books.session, books.ordered⟩
  have named : ∀ row ∈ sessionSegments sessionId world.database, row.relativePath ≠ path := by
    intro row member
    obtain ⟨index, small, _, same⟩ := books.path member
    rw [same]
    exact fresh index small
  exact forall₂_imp_right books.rows fun _ row member filed => filed.withFile (named row member)

theorem Books.withWriter (books : Books sizeOf sessionId chunks world) (writer : Writer) :
    Books sizeOf sessionId chunks { world with writer } := by
  refine ⟨books.keys, ?_, books.session, books.ordered⟩
  exact books.rows.imp fun _ _ filed => { filed with stored := filed.stored }

theorem Tallies.advanced {row : SessionRow} (tallies : Tallies row chunks) (state : DataSessionState)
    (endedAt : Option DateTime) (updatedAt : DateTime) : Tallies (row.advanced state endedAt updatedAt) chunks :=
  { tallies with }

/-- Advancing a session's state leaves its books alone. -/
theorem Books.advance {session : DataSession} (books : Books sizeOf sessionId chunks world) :
    Books sizeOf sessionId chunks { world with database := (advanceSessionState session world.database).1 } := by
  obtain ⟨row, found, tallies⟩ := books.session
  have moved := sessionRow_sessionAdvance sessionId session.sessionId session.state session.endedAt session.updatedAt
    world.database
  rw [found, Option.map_some] at moved
  refine ⟨books.keys, ?_, ⟨_, moved, ?_⟩, books.ordered⟩
  · exact books.rows.imp fun _ _ filed => { filed with stored := filed.stored }
  · split
    · exact tallies.advanced _ _ _
    · exact tallies

/-- The bounds that a session keeps and those that it takes from its next segment. -/
theorem Tallies.withSegment {session : DataSession} (tallies : Tallies session.toSessionRow chunks)
    (head : frames.head? = some first) (tail : frames.getLast? = some last) (updatedAt : DateTime) :
    Tallies (withSegment session frames first last updatedAt) (chunks ++ [frames]) := by
  have whole : (chunks ++ [frames]).flatten = chunks.flatten ++ frames := by simp
  have ends : (chunks ++ [frames]).flatten.getLast? = some last := by
    rw [whole, List.getLast?_append, tail]
    rfl
  refine ⟨?_, ?_, ?_, ?_, ?_, ?_⟩
  · rw [Data.withSegment, whole, List.length_append, ← tallies.frameCount]
  · rw [Data.withSegment, List.length_append, ← tallies.segmentCount]
    rfl
  · rw [whole, ← getD_first _ _ head, ← tallies.firstSequence]
    rfl
  · rw [ends]
    rfl
  · rw [whole, ← getD_first _ _ head, ← tallies.firstTimestamp]
    rfl
  · rw [ends]
    rfl

/-- A segment that is registered together with the session's next snapshot. -/
theorem Books.register {session updated : DataSession} {segment : DataSegment} {database : Database}
    {segmentId : Uuid} {byteSize : Nat} {createdAt updatedAt : DateTime} {table : SegmentTable}
    (books : Books sizeOf sessionId chunks world) (tallies : Tallies session.toSessionRow chunks)
    (named : session.sessionId = sessionId)
    (stored : world.files (segmentRelativePath sessionId chunks.length) = some (.table table))
    (held : table.frames = frames) (sized : byteSize = sizeOf table)
    (segmentMade : segment.toSegmentRow = segmentRow session segmentId frames first last byteSize createdAt)
    (sessionMade : updated.toSessionRow = withSegment session frames first last updatedAt)
    (head : frames.head? = some first) (tail : frames.getLast? = some last)
    (ordered : (chunks.flatten ++ frames).Pairwise inOrder)
    (committed : registerSegment segment updated world.database = .ok database) :
    Books sizeOf sessionId (chunks ++ [frames]) { world with database } := by
  have updatedNamed : updated.sessionId = sessionId := by
    rw [sessionMade]
    exact named
  have segmentNamed : segment.sessionId = sessionId := by
    rw [segmentMade]
    exact named
  obtain ⟨row, found, -⟩ := books.session
  have rows := sessionSegments_register segmentNamed committed
  have key : segmentKey segment.toSegmentRow = (chunks.length, segmentRelativePath sessionId chunks.length) := by
    rw [segmentMade, ← tallies.segmentCount, ← named]
    rfl
  refine ⟨?_, ?_, ⟨_, sessionRow_register updatedNamed found committed, ?_⟩, ?_⟩
  · rw [rows, List.map_append, books.keys, List.length_append, List.length_singleton, List.range_succ, List.map_append]
    simp [key]
  · rw [rows]
    refine List.rel_append (books.rows.imp fun _ _ filed => { filed with stored := filed.stored }) (.cons ?_ .nil)
    have path : segment.relativePath = segmentRelativePath sessionId chunks.length := (Prod.mk.inj key).2
    refine ⟨?_, ?_, ?_, ?_, ?_, table, ?_, held, ?_⟩
    · rw [segmentMade]
      rfl
    · rw [segmentMade, head]
      rfl
    · rw [segmentMade, tail]
      rfl
    · rw [segmentMade, head]
      rfl
    · rw [segmentMade, tail]
      rfl
    · rw [path]
      exact stored
    · rw [segmentMade]
      exact sized
  · rw [sessionMade]
    exact tallies.withSegment head tail updatedAt
  · rw [List.flatten_append, List.flatten_singleton]
    exact ordered

end Changes

end CanX.Data
