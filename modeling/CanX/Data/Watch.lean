import CanX.Data.Account
import CanX.Transition.Fenced

/-! A writer watched effect by effect: the files it owns, the removals that failed, the frames it was handed, and what
holds of them between its effects. -/

namespace CanX.Data

open Domain Storage Transition
open Transition.Program (FencedTriple Fenced)

/-- The world, with the paths whose removal failed and the frames ever taken into the buffer. -/
structure Watched where
  world : World
  unremoved : Set String
  appended : List Frame

def Watched.opened (world : World) : Watched := ⟨world, ∅, []⟩

/-- The state once the world is another one: what the buffer got longer by has been appended. -/
def Watched.moved (state : Watched) (world : World) : Watched :=
  { state with world, appended := state.appended ++ world.writer.buffer.drop state.world.writer.buffer.length }

def Watched.withUnremoved (state : Watched) (path : String) : Watched :=
  { state with unremoved := insert path state.unremoved }

def watch (request : DataEffect) (choice : Choice) (state : Watched) : Watched × Except PyException request.Answer :=
  let (world, answer) := perform request choice state.world
  (match request, answer with
    | .removeFile path, .error _ => (state.moved world).withUnremoved path
    | _, _ => state.moved world, answer)

/-- What the writer raises of its own when it refuses a batch. -/
def PyException.refusal : PyException → Bool
  | .data error => error.kind = .validation ∨ error.kind = .streamMismatch ∨
      error.code = "data.integrity.sequence_regression" ∨ error.code = "data.integrity.timestamp_regression"
  | _ => false

/-- The storage behaves: the clock and the identities do not fail, a removal fails with an `OSError` only, nothing
raises the writer's own refusals, and `stat` tells the size of the file. -/
def usual (sizeOf : SegmentTable → Nat) (request : DataEffect) (choice : Choice) (state : Watched) : Prop :=
  match request with
  | .utcNow | .uuid4 => choice.fault = none
  | .removeFile _ => ∀ error, choice.fault = some error → error = .os
  | .fileSize path => (∀ error, choice.fault = some error → error.refusal = false) ∧
      ∀ table, state.world.files path = some (.table table) → choice.byteSize = sizeOf table
  | _ => ∀ error, choice.fault = some error → error.refusal = false

/-- The code around the effect takes its failure, if any, into account. -/
def handled (request : DataEffect) (choice : Choice) (state : Watched) : Prop :=
  match request with
  | .resolveWithinRoot _ => choice.fault = none
  | .makeParent _ | .framesToTable _ | .writeTable _ _ | .fileSize _ | .replaceFile _ _ =>
    ∀ error, choice.fault = some error → error.isWriteFailure = true
  | .registerSegment segment session => (∀ error, choice.fault = some error → error.isStorage = true) ∧
      (choice.fault = none → bindable segment.integers = true ∧
        (segmentAdmitted segment.toSegmentRow state.world.database = true → bindable session.integers = true))
  | _ => True

/-- What holds of the table under a path, if there is one. -/
def OfTable (condition : SegmentTable → Prop) : Option StoredFile → Prop
  | some (.table table) => condition table
  | _ => True

theorem ofTable_iff {condition : SegmentTable → Prop} {found : Option StoredFile} :
    OfTable condition found ↔ ∀ table, found = some (.table table) → condition table := by
  unfold OfTable
  split
  · rename_i table
    constructor
    · intro holds other same
      cases same
      exact holds
    · intro all
      exact all table rfl
  · rename_i untabled
    exact iff_of_true trivial fun table same => absurd same (untabled table)

instance (condition : SegmentTable → Prop) [DecidablePred condition] (found : Option StoredFile) :
    Decidable (OfTable condition found) :=
  match found with
  | some (.table table) => inferInstanceAs (Decidable (condition table))
  | some .truncated | none => inferInstanceAs (Decidable True)

instance (condition : SegmentTable → Prop) [DecidablePred condition] (found : Option StoredFile) :
    Decidable (∀ table, found = some (.table table) → condition table) :=
  decidable_of_iff _ ofTable_iff

instance (sizeOf : SegmentTable → Nat) (request : DataEffect) (choice : Choice) (state : Watched) :
    Decidable (usual sizeOf request choice state) :=
  match request with
  | .utcNow | .uuid4 => inferInstanceAs (Decidable (choice.fault = none))
  | .removeFile _ => inferInstanceAs (Decidable (∀ error, choice.fault = some error → error = .os))
  | .fileSize path => inferInstanceAs (Decidable ((∀ error, choice.fault = some error → error.refusal = false) ∧
      ∀ table, state.world.files path = some (.table table) → choice.byteSize = sizeOf table))
  | .readWriter | .modifyWriter _ | .resolveWithinRoot _ | .makeParent _ | .framesToTable _ | .writeTable _ _
  | .replaceFile _ _ | .registerSegment _ _ | .advanceSessionState _ | .failActiveSession _ _
  | .markSessionInterrupted _ _ | .listSessionsInState _ | .readSession _ =>
    inferInstanceAs (Decidable (∀ error, choice.fault = some error → error.refusal = false))

instance (request : DataEffect) (choice : Choice) (state : Watched) : Decidable (handled request choice state) :=
  match request with
  | .resolveWithinRoot _ => inferInstanceAs (Decidable (choice.fault = none))
  | .makeParent _ | .framesToTable _ | .writeTable _ _ | .fileSize _ | .replaceFile _ _ =>
    inferInstanceAs (Decidable (∀ error, choice.fault = some error → error.isWriteFailure = true))
  | .registerSegment segment session =>
    inferInstanceAs (Decidable ((∀ error, choice.fault = some error → error.isStorage = true) ∧
      (choice.fault = none → bindable segment.integers = true ∧
        (segmentAdmitted segment.toSegmentRow state.world.database = true → bindable session.integers = true))))
  | .readWriter | .modifyWriter _ | .utcNow | .uuid4 | .removeFile _ | .advanceSessionState _ | .failActiveSession _ _
  | .markSessionInterrupted _ _ | .listSessionsInState _ | .readSession _ => inferInstanceAs (Decidable True)

/-! The files of one session. -/

section Files

variable {sessionId : Uuid} {count : Nat} {leftover : String} {files : String → Option StoredFile}

/-- The files of a session are its first segments and at most one more. -/
structure Tree (sessionId : Uuid) (count : Nat) (leftover : String) (files : String → Option StoredFile) : Prop where
  segments : ∀ index, files (segmentRelativePath sessionId index) ≠ none →
    index < count ∨ segmentRelativePath sessionId index = leftover
  temporaries : ∀ index, files (temporaryPath (segmentRelativePath sessionId index)) ≠ none →
    temporaryPath (segmentRelativePath sessionId index) = leftover

/-- The canonical path of the next segment, and its temporary name. -/
def nextSegment (sessionId : Uuid) (count : Nat) : String := segmentRelativePath sessionId count

def nextTemporary (sessionId : Uuid) (count : Nat) : String := temporaryPath (nextSegment sessionId count)

theorem temporary_ne_next (path : String) : temporaryPath path ≠ nextSegment sessionId count :=
  temporaryPath_ne_segment path sessionId count

theorem segment_ne_nextTemporary (index : Nat) : segmentRelativePath sessionId index ≠ nextTemporary sessionId count :=
  (temporaryPath_ne_segment _ sessionId index).symm

theorem Tree.update (tree : Tree sessionId count leftover files) (file : Option StoredFile) :
    Tree sessionId count leftover (Function.update files leftover file) where
  segments index present := by
    by_cases same : segmentRelativePath sessionId index = leftover
    · exact .inr same
    · rw [Function.update_of_ne same] at present
      exact tree.segments index present
  temporaries index present := by
    by_cases same : temporaryPath (segmentRelativePath sessionId index) = leftover
    · exact same
    · rw [Function.update_of_ne same] at present
      exact tree.temporaries index present

/-- The temporary file takes its canonical name. -/
theorem Tree.publish (tree : Tree sessionId count (nextTemporary sessionId count) files) (file : Option StoredFile) :
    Tree sessionId count (nextSegment sessionId count)
      (Function.update (Function.update files (nextTemporary sessionId count) none) (nextSegment sessionId count)
        file) where
  segments index present := by
    by_cases same : segmentRelativePath sessionId index = nextSegment sessionId count
    · exact .inr same
    · rw [Function.update_of_ne same, Function.update_of_ne (segment_ne_nextTemporary index)] at present
      have known := tree.segments index present
      exact known.imp_right fun other => absurd other.symm (temporaryPath_ne_segment _ _ _)
  temporaries index present := by
    rw [Function.update_of_ne (temporary_ne_next _)] at present
    by_cases same : temporaryPath (segmentRelativePath sessionId index) = nextTemporary sessionId count
    · rw [same, Function.update_self] at present
      exact absurd rfl present
    · rw [Function.update_of_ne same] at present
      exact absurd (tree.temporaries index present) same

/-- The file of the next segment is removed again. -/
theorem Tree.unpublish (tree : Tree sessionId count (nextSegment sessionId count) files) :
    Tree sessionId count (nextTemporary sessionId count)
      (Function.update files (nextSegment sessionId count) none) where
  segments index present := by
    by_cases same : segmentRelativePath sessionId index = nextSegment sessionId count
    · rw [same, Function.update_self] at present
      exact absurd rfl present
    · rw [Function.update_of_ne same] at present
      exact .inl ((tree.segments index present).resolve_right same)
  temporaries index present := by
    rw [Function.update_of_ne (temporary_ne_next _)] at present
    exact absurd (tree.temporaries index present) (temporaryPath_ne_segment _ _ _)

/-- The file of the next segment becomes that of a registered one. -/
theorem Tree.register (tree : Tree sessionId count (nextSegment sessionId count) files) (leftover : String) :
    Tree sessionId (count + 1) leftover files where
  segments index present := by
    rcases tree.segments index present with earlier | same
    · exact .inl (by omega)
    · have next := segmentRelativePath_injective same
      exact .inl (by omega)
  temporaries index present := absurd (tree.temporaries index present) (temporaryPath_ne_segment _ _ _)

end Files

/-! What holds between two effects. -/

/-- The files and segment rows of other sessions are those of the start. -/
structure Elsewhere (sessionId : Uuid) (start world : World) : Prop where
  files : ∀ path, (∀ index, path ≠ segmentRelativePath sessionId index ∧
    path ≠ temporaryPath (segmentRelativePath sessionId index)) → world.files path = start.files path
  segments : ∀ row : SegmentRow, row.sessionId ≠ sessionId →
    (row ∈ world.database.segments ↔ row ∈ start.database.segments)

section States

variable (sizeOf : SegmentTable → Nat) (sessionId : Uuid) (start : World)

/-- The books are right, and so is the writer's snapshot. -/
structure Held (chunks : List (List Frame)) (state : Watched) : Prop where
  books : Books sizeOf sessionId chunks state.world
  tallies : Tallies state.world.writer.session.toSessionRow chunks
  named : state.world.writer.session.sessionId = sessionId
  elsewhere : Elsewhere sessionId start state.world

/-- An active writer whose buffer continues the registered chunks. -/
structure Working (chunks : List (List Frame)) (leftover : String) (writer : Writer) (state : Watched) : Prop where
  held : Held sizeOf sessionId start chunks state
  writes : state.world.writer = writer
  active : writer.session.state = .active
  marked : Marked writer (chunks.flatten ++ writer.buffer)
  tree : Tree sessionId chunks.length leftover state.world.files
  appended : state.appended = chunks.flatten ++ writer.buffer

/-- What else the next segment can have left among the files. -/
def Leftover (chunks : List (List Frame)) (leftover : String) : Prop :=
  leftover = nextTemporary sessionId chunks.length ∨ leftover = nextSegment sessionId chunks.length

/-- A file left under the canonical name of the next segment is one whose removal failed. -/
def Tidy (chunks : List (List Frame)) (leftover : String) (state : Watched) : Prop :=
  leftover = nextTemporary sessionId chunks.length ∨
    leftover = nextSegment sessionId chunks.length ∧ leftover ∈ state.unremoved

/-- The registered chunks begin what was appended, and the rest is at the end of the buffer or has been given up. -/
def Begins (abandoned : List Frame → Prop) (chunks : List (List Frame)) (state : Watched) : Prop :=
  ∃ rest, state.appended = chunks.flatten ++ rest ∧ (rest <:+ state.world.writer.buffer ∨ abandoned rest)

/-- What `_mark_failed` needs of a writer. -/
structure Stopping (abandoned : List Frame → Prop) (chunks : List (List Frame)) (leftover : String)
    (state : Watched) : Prop where
  held : Held sizeOf sessionId start chunks state
  tree : Tree sessionId chunks.length leftover state.world.files
  tidy : Tidy sessionId chunks leftover state
  begins : Begins abandoned chunks state

/-- A writer that has ended. -/
structure Over (abandoned : List Frame → Prop) (chunks : List (List Frame)) (leftover : String) (state : Watched) : Prop
    extends Stopping sizeOf sessionId start abandoned chunks leftover state where
  ended : state.world.writer.session.state ≠ .active

/-- What a crash at any moment leaves. -/
structure Durable (abandoned : List Frame → Prop) (chunks : List (List Frame)) (leftover : String)
    (state : Watched) : Prop where
  books : Books sizeOf sessionId chunks state.world
  elsewhere : Elsewhere sessionId start state.world
  tree : Tree sessionId chunks.length leftover state.world.files
  left : Leftover sessionId chunks leftover
  begins : Begins abandoned chunks state

def Lasting (abandoned : List Frame → Prop) (state : Watched) : Prop :=
  ∃ chunks leftover, Durable sizeOf sessionId start abandoned chunks leftover state

/-- An active writer between two calls, with no file under the canonical name of its next segment. -/
def Ready (state : Watched) : Prop :=
  ∃ chunks, Working sizeOf sessionId start chunks (nextTemporary sessionId chunks.length) state.world.writer state

def Terminated (abandoned : List Frame → Prop) (state : Watched) : Prop :=
  ∃ chunks leftover, Over sizeOf sessionId start abandoned chunks leftover state

/-- An exception that no handler has taken into account has left the writer active. -/
def Spoiled (error : PyException) (state : Watched) : Prop :=
  error.refusal = false ∧ ∃ chunks leftover, Leftover sessionId chunks leftover ∧
    Working sizeOf sessionId start chunks leftover state.world.writer state

def Escaped (caught : PyException → Bool) (error : PyException) (state : Watched) : Prop :=
  caught error = false ∧ Spoiled sizeOf sessionId start error state

end States

section Effects

variable {sizeOf : SegmentTable → Nat} {sessionId : Uuid} {start : World} {abandoned : List Frame → Prop}
variable {chunks : List (List Frame)} {leftover : String} {writer : Writer} {state : Watched}

theorem moved_still {world : World} (same : world.writer.buffer = state.world.writer.buffer) :
    state.moved world = { state with world } := by
  simp [Watched.moved, same]

/-- Nothing is appended where the buffer gets no longer. -/
theorem moved_shorter (next : Writer) (shorter : next.buffer.length ≤ state.world.writer.buffer.length) :
    state.moved ⟨state.world.database, state.world.files, next⟩ =
      { state with world := ⟨state.world.database, state.world.files, next⟩ } := by
  simp [Watched.moved, List.drop_eq_nil_of_le shorter]

theorem moved_withFile (path : String) (file : Option StoredFile) :
    state.moved (state.world.withFile path file) = { state with world := state.world.withFile path file } :=
  moved_still rfl

theorem moved_writer (next : Writer) (same : next.buffer = state.world.writer.buffer) :
    state.moved ⟨state.world.database, state.world.files, next⟩ =
      { state with world := ⟨state.world.database, state.world.files, next⟩ } :=
  moved_still same

/-- Only a removal has a trace beyond the world. -/
theorem watch_plain {request : DataEffect} (plain : ∀ path, request ≠ .removeFile path) (choice : Choice)
    (state : Watched) : watch request choice state =
      (state.moved (perform request choice state.world).1, (perform request choice state.world).2) := by
  cases request with
  | removeFile path => exact absurd rfl (plain path)
  | _ => rfl

theorem Working.leftover_kept (working : Working sizeOf sessionId start chunks leftover writer state)
    (left : Leftover sessionId chunks leftover) : Durable sizeOf sessionId start abandoned chunks leftover state where
  books := working.held.books
  elsewhere := working.held.elsewhere
  tree := working.tree
  left := left
  begins := ⟨writer.buffer, working.appended, .inl (working.writes ▸ List.suffix_refl _)⟩

theorem Working.lasting (working : Working sizeOf sessionId start chunks leftover writer state)
    (left : Leftover sessionId chunks leftover) : Lasting sizeOf sessionId start abandoned state :=
  ⟨chunks, leftover, working.leftover_kept left⟩

theorem Tidy.left (tidy : Tidy sessionId chunks leftover state) : Leftover sessionId chunks leftover :=
  tidy.imp_right And.left

theorem Stopping.lasting (stopping : Stopping sizeOf sessionId start abandoned chunks leftover state) :
    Lasting sizeOf sessionId start abandoned state :=
  ⟨chunks, leftover, stopping.held.books, stopping.held.elsewhere, stopping.tree, stopping.tidy.left, stopping.begins⟩

theorem Spoiled.lasting {error : PyException} (spoiled : Spoiled sizeOf sessionId start error state) :
    Lasting sizeOf sessionId start abandoned state := by
  obtain ⟨-, chunks, leftover, left, working⟩ := spoiled
  exact working.lasting left

theorem Elsewhere.withFile {path : String} {file : Option StoredFile} {world : World}
    (elsewhere : Elsewhere sessionId start world) (left : Leftover sessionId chunks path) :
    Elsewhere sessionId start (world.withFile path file) where
  files other outside := by
    have apart : other ≠ path := by
      rintro rfl
      rcases left with same | same
      · exact (outside chunks.length).2 same
      · exact (outside chunks.length).1 same
    exact (Function.update_of_ne apart _ _).trans (elsewhere.files other outside)
  segments := elsewhere.segments

/-- Neither name of the next segment is that of a registered one. -/
theorem Leftover.fresh {path : String} (left : Leftover sessionId chunks path) :
    ∀ index < chunks.length, segmentRelativePath sessionId index ≠ path := by
  intro index small same
  rcases left with temporary | canonical
  · exact segment_ne_nextTemporary index (same.trans temporary)
  · have next := segmentRelativePath_injective (same.trans canonical)
    omega

theorem Held.withFile {path : String} {file : Option StoredFile} (held : Held sizeOf sessionId start chunks state)
    (left : Leftover sessionId chunks path) :
    Held sizeOf sessionId start chunks { state with world := state.world.withFile path file } where
  books := held.books.withFile left.fresh
  tallies := held.tallies
  named := held.named
  elsewhere := held.elsewhere.withFile left

/-- A file of the next segment is written or removed. -/
theorem Working.withFile {path other : String} {file : Option StoredFile}
    (working : Working sizeOf sessionId start chunks leftover writer state) (left : Leftover sessionId chunks path)
    (tree : Tree sessionId chunks.length other (Function.update state.world.files path file)) :
    Working sizeOf sessionId start chunks other writer
      { state with world := state.world.withFile path file } where
  held := working.held.withFile left
  writes := working.writes
  active := working.active
  marked := working.marked
  tree := tree
  appended := working.appended

/-- The file that may be there anyway is replaced. -/
theorem Working.rewritten (working : Working sizeOf sessionId start chunks leftover writer state)
    (left : Leftover sessionId chunks leftover) (file : Option StoredFile) :
    Working sizeOf sessionId start chunks leftover writer
      { state with world := state.world.withFile leftover file } :=
  working.withFile left (working.tree.update file)

theorem Working.withUnremoved (working : Working sizeOf sessionId start chunks leftover writer state) (path : String) :
    Working sizeOf sessionId start chunks leftover writer (state.withUnremoved path) :=
  { working with held := { working.held with } }

end Effects

/-! The rules of one effect. -/

section Rules

variable (sizeOf : SegmentTable → Nat) (sessionId : Uuid) (start : World) (abandoned : List Frame → Prop)

abbrev Guarded {Value : Type} (pre : Watched → Prop) (program : DataProgram Value)
    (post : Except PyException Value → Watched → Prop) (broken : PyException → Watched → Prop) : Prop :=
  FencedTriple watch (usual sizeOf) handled (Lasting sizeOf sessionId start abandoned) pre program post broken

/-- What a value leaves, and what an exception does. -/
def outcome {Value : Type} (kept : Value → Watched → Prop) (failed : PyException → Watched → Prop) :
    Except PyException Value → Watched → Prop
  | .ok value => kept value
  | .error error => failed error

def never (_ : PyException) (_ : Watched) : Prop := False

variable {sizeOf sessionId start abandoned}
variable {pre : Watched → Prop} {broken : PyException → Watched → Prop}

theorem ask_guarded {request : DataEffect} {post : Except PyException request.Answer → Watched → Prop}
    (plain : ∀ path, request ≠ .removeFile path)
    (lasting : ∀ result state, post result state → Lasting sizeOf sessionId start abandoned state)
    (raised : ∀ state choice error, pre state → usual sizeOf request choice state → choice.fault = some error →
      request.inMemory = false →
        handled request choice state ∧ post (.error error) (state.moved (disturbed request state.world)) ∨
          ¬handled request choice state ∧ broken error (state.moved (disturbed request state.world)))
    (acted : ∀ state choice, pre state → usual sizeOf request choice state →
      (request.inMemory = false → choice.fault = none) →
        handled request choice state ∧
            post (act request choice state.world).2 (state.moved (act request choice state.world).1) ∨
          ¬handled request choice state ∧ ∃ error, (act request choice state.world).2 = .error error ∧
            broken error (state.moved (act request choice state.world).1)) :
    Guarded sizeOf sessionId start abandoned pre (ask request) post broken := by
  refine FencedTriple.effect fun state choice holds met => ?_
  rw [watch_plain plain]
  by_cases memory : request.inMemory = true
  · have calm : perform request choice state.world = act request choice state.world := by
      simp [perform, memory]
    rw [calm]
    have quiet : request.inMemory = false → choice.fault = none := fun outside => by
      rw [memory] at outside
      cases outside
    exact (acted state choice holds met quiet).imp_left fun both => ⟨both.1, lasting _ _ both.2, both.2⟩
  · have outside : request.inMemory = false := by simpa using memory
    cases faulted : choice.fault with
    | none =>
      have calm : perform request choice state.world = act request choice state.world := by
        simp [perform, outside, faulted]
      rw [calm]
      exact (acted state choice holds met fun _ => faulted).imp_left fun both => ⟨both.1, lasting _ _ both.2, both.2⟩
    | some error =>
      have struck : perform request choice state.world = (disturbed request state.world, .error error) := by
        simp [perform, outside, faulted]
      rw [struck]
      rcases raised state choice error holds met faulted outside with both | ⟨refused, spoiled⟩
      · exact .inl ⟨both.1, lasting _ _ both.2, both.2⟩
      · exact .inr ⟨refused, error, rfl, spoiled⟩

/-- An effect that neither fails nor leaves a trace. -/
theorem quiet_guarded {request : DataEffect} (plain : ∀ path, request ≠ .removeFile path)
    (lasting : ∀ state, pre state → Lasting sizeOf sessionId start abandoned state)
    (calm : ∀ state choice, usual sizeOf request choice state → request.inMemory = true ∨ choice.fault = none)
    (taken : ∀ state choice, handled request choice state)
    (acts : ∀ choice world, ∃ value, act request choice world = (world, .ok value)) :
    Guarded sizeOf sessionId start abandoned pre (ask request) (outcome (fun _ => pre) never) broken := by
  refine ask_guarded plain (fun result state reached => ?_) (fun state choice error holds met faulted outside => ?_)
    fun state choice holds met _ => ?_
  · cases result with
    | ok value => exact lasting state reached
    | error error => exact reached.elim
  · rcases calm state choice met with memory | none
    · rw [memory] at outside
      cases outside
    · rw [none] at faulted
      cases faulted
  · obtain ⟨value, acted⟩ := acts choice state.world
    rw [acted, moved_still rfl]
    exact .inl ⟨taken state choice, holds⟩

theorem utcNow_guarded (lasting : ∀ state, pre state → Lasting sizeOf sessionId start abandoned state) :
    Guarded sizeOf sessionId start abandoned pre (ask .utcNow) (outcome (fun _ => pre) never) broken :=
  quiet_guarded (fun _ same => by cases same) lasting (fun _ _ met => .inr met) (fun _ _ => trivial)
    fun choice _ => ⟨choice.now, rfl⟩

theorem uuid4_guarded (lasting : ∀ state, pre state → Lasting sizeOf sessionId start abandoned state) :
    Guarded sizeOf sessionId start abandoned pre (ask .uuid4) (outcome (fun _ => pre) never) broken :=
  quiet_guarded (fun _ same => by cases same) lasting (fun _ _ met => .inr met) (fun _ _ => trivial)
    fun choice _ => ⟨choice.uuid, rfl⟩

theorem readWriter_guarded (lasting : ∀ state, pre state → Lasting sizeOf sessionId start abandoned state) :
    Guarded sizeOf sessionId start abandoned pre (ask .readWriter)
      (fun result state => pre state ∧ result = .ok state.world.writer) broken := by
  refine ask_guarded (fun _ same => by cases same) (fun _ state reached => lasting state reached.1)
    (fun _ _ _ _ _ _ outside => by cases outside) fun state choice holds _ _ => .inl ⟨trivial, ?_⟩
  have still : state.moved state.world = state := moved_still rfl
  show pre (state.moved state.world) ∧ Except.ok state.world.writer = Except.ok (state.moved state.world).world.writer
  rw [still]
  exact ⟨holds, rfl⟩

theorem modifyWriter_guarded {change : Writer → Writer} {post : Watched → Prop}
    (lasting : ∀ state, post state → Lasting sizeOf sessionId start abandoned state)
    (changed : ∀ state, pre state →
      post (state.moved ⟨state.world.database, state.world.files, change state.world.writer⟩)) :
    Guarded sizeOf sessionId start abandoned pre (ask (.modifyWriter change))
      (outcome (fun _ => post) never) broken := by
  refine ask_guarded (fun _ same => by cases same) (fun result state reached => ?_)
    (fun _ _ _ _ _ _ outside => by cases outside) fun state choice holds _ _ => .inl ⟨trivial, changed state holds⟩
  cases result with
  | ok value => exact lasting state reached
  | error error => exact reached.elim

/-- A removal that fails is suppressed and remembered. -/
theorem removeQuietly_guarded {path : String} {post : Watched → Prop}
    (lasting : ∀ state, post state → Lasting sizeOf sessionId start abandoned state)
    (removed : ∀ state, pre state → post { state with world := state.world.withFile path none })
    (remained : ∀ state, pre state → post (state.withUnremoved path)) :
    Guarded sizeOf sessionId start abandoned pre (removeQuietly path) (outcome (fun _ => post) never) broken := by
  have attempted : Guarded sizeOf sessionId start abandoned pre (ask (.removeFile path))
      (fun result state => post state ∧ ∀ error, result = .error error → error = .os) never := by
    refine FencedTriple.effect fun state choice holds met => .inl ⟨trivial, ?_⟩
    cases faulted : choice.fault with
    | some error =>
      obtain rfl : error = .os := met error faulted
      have struck : watch (.removeFile path) choice state = (state.withUnremoved path, .error .os) := by
        simp [watch, perform, DataEffect.inMemory, faulted, disturbed, moved_still]
      rw [struck]
      have kept := remained state holds
      exact ⟨lasting _ kept, kept, fun _ same => by cases same; rfl⟩
    | none =>
      by_cases there : (state.world.files path).isSome = true
      · have gone : watch (.removeFile path) choice state =
            ({ state with world := state.world.withFile path none }, .ok ()) := by
          simp [watch, perform, DataEffect.inMemory, faulted, act, there, moved_still, World.withFile]
        rw [gone]
        have kept := removed state holds
        exact ⟨lasting _ kept, kept, fun _ same => by cases same⟩
      · have missing : watch (.removeFile path) choice state = (state.withUnremoved path, .error .os) := by
          simp [watch, perform, DataEffect.inMemory, faulted, act, there, moved_still]
        rw [missing]
        have kept := remained state holds
        exact ⟨lasting _ kept, kept, fun _ same => by cases same; rfl⟩
  refine FencedTriple.catching attempted (fun _ _ reached => reached.1) (fun error => ?_) fun _ _ spoiled => spoiled.elim
  intro state reached
  obtain rfl := reached.2 error rfl
  exact reached.1

end Rules

end CanX.Data
