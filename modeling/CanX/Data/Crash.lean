import CanX.Data.Atomicity
import CanX.Data.Integrity

/-! A run of a writer cut off between any two of its effects: what the files and the database say of the session when
the project is opened again. -/

namespace CanX.Data

open Domain Storage Transition
open Transition.Program (FencedTriple Fenced)

/-! What the inspection makes of one session. -/

section Inspection

variable {sizeOf : SegmentTable → Nat} {sessionId : Uuid} {start : World} {abandoned : List Frame → Prop}
variable {state : Watched} {listing : Listing}

/-- A name the writer of the session gives to one of its files. -/
def Own (sessionId : Uuid) (path : String) : Prop :=
  ∃ index, path = segmentRelativePath sessionId index ∨ path = temporaryPath (segmentRelativePath sessionId index)

/-- A file of the session that no row of the session names. -/
def Stray (sessionId : Uuid) (world : World) (path : String) : Prop :=
  Own sessionId path ∧ world.files path ≠ none ∧
    ∀ row ∈ sessionSegments sessionId world.database, row.relativePath ≠ path

def belowSessions (path : String) : Prop := ∃ rest, path.toList = "data/sessions/".toList ++ rest

/-- The listing shows the files as they are, and no link leads out of the session's directory. -/
structure Listing.Shows (listing : Listing) (sizeOf : SegmentTable → Nat) (sessionId : Uuid)
    (files : String → Option StoredFile) : Prop where
  found : ∀ path, path ∈ listing.found ↔ belowSessions path ∧ files path ≠ none
  resolve : ∀ index, listing.resolve (segmentRelativePath sessionId index) = some (segmentRelativePath sessionId index)
  sized : ∀ table, listing.sizeOf (.table table) = sizeOf table

/-- Of a session's files exactly the strays are reported, at most one of them. -/
structure Inspected (sessionId : Uuid) (world : World) (report : DataIntegrityReport) : Prop where
  residue : ∀ path, Own sessionId path →
    (path ∈ report.temporaryFiles ∨ path ∈ report.orphanSegments ↔ Stray sessionId world path)
  kinds : ∀ index, segmentRelativePath sessionId index ∉ report.temporaryFiles ∧
    temporaryPath (segmentRelativePath sessionId index) ∉ report.orphanSegments
  registered : ∀ path, Own sessionId path → path ∉ report.missingSegments ∧ path ∉ report.metadataMismatches
  single : ∀ first second, Stray sessionId world first → Stray sessionId world second → first = second

theorem belowSessions_segment (index : Nat) : belowSessions (segmentRelativePath sessionId index) := by
  refine ⟨sessionId.text.toList ++ ("/segments/".toList ++ (segmentFilename index).toList), ?_⟩
  simp only [segmentRelativePath, sessionRelativeDirectory, String.toList_append, List.append_assoc]

theorem belowSessions_temporary {path : String} (below : belowSessions path) : belowSessions (temporaryPath path) := by
  obtain ⟨rest, same⟩ := below
  refine ⟨rest ++ temporarySuffix.toList, ?_⟩
  rw [temporaryPath, String.toList_append, same, List.append_assoc]

theorem Own.below {path : String} (own : Own sessionId path) : belowSessions path := by
  obtain ⟨index, rfl | rfl⟩ := own
  · exact belowSessions_segment index
  · exact belowSessions_temporary (belowSessions_segment index)

/-- No row of another session names a file of this one. -/
def Unclaimed (sessionId : Uuid) (world : World) : Prop :=
  ∀ row ∈ world.database.segments, row.sessionId ≠ sessionId → ¬Own sessionId row.relativePath

theorem Elsewhere.unclaimed {world : World} (elsewhere : Elsewhere sessionId start world)
    (unclaimed : Unclaimed sessionId start) : Unclaimed sessionId world := by
  intro row member other
  exact unclaimed row ((elsewhere.segments row other).mp member) other

variable {chunks : List (List Frame)} {leftover : String}

/-- The registered paths of a session with right books are its first ones. -/
theorem Durable.registered_iff (durable : Durable sizeOf sessionId start abandoned chunks leftover state) (index : Nat) :
    (∃ row ∈ sessionSegments sessionId state.world.database, row.relativePath = segmentRelativePath sessionId index) ↔
      index < chunks.length := by
  constructor
  · rintro ⟨row, member, same⟩
    obtain ⟨number, small, _, path⟩ := durable.books.path member
    rw [segmentRelativePath_injective (same.symm.trans path)]
    exact small
  · intro small
    have listed : (index, segmentRelativePath sessionId index) ∈
        (List.range chunks.length).map fun index => (index, segmentRelativePath sessionId index) :=
      List.mem_map_of_mem (List.mem_range.mpr small)
    rw [← durable.books.keys] at listed
    obtain ⟨row, member, key⟩ := List.mem_map.mp listed
    exact ⟨row, member, (Prod.mk.inj key).2⟩

theorem Durable.stray (durable : Durable sizeOf sessionId start abandoned chunks leftover state) {path : String}
    (stray : Stray sessionId state.world path) : path = leftover := by
  obtain ⟨⟨index, rfl | rfl⟩, present, unnamed⟩ := stray
  · rcases durable.tree.segments index present with small | same
    · obtain ⟨row, member, same⟩ := (durable.registered_iff index).mpr small
      exact absurd same (unnamed row member)
    · exact same
  · exact durable.tree.temporaries index present

/-- The file of a registered segment is there with its size. -/
theorem Durable.sound (durable : Durable sizeOf sessionId start abandoned chunks leftover state)
    (shows : listing.Shows sizeOf sessionId state.world.files) {segment : DataSegment}
    (member : segment.toSegmentRow ∈ sessionSegments sessionId state.world.database) :
    inspectSegment listing state.world.files segment = .sound := by
  obtain ⟨index, _, _, path⟩ := durable.books.path member
  obtain ⟨frames, _, filed⟩ := forall₂_right durable.books.rows member
  obtain ⟨table, stored, _, sized⟩ := filed.stored
  have led : listing.resolve segment.relativePath = some segment.relativePath := by
    rw [path]
    exact shows.resolve index
  have kept : listing.sizeOf (.table table) = segment.byteSize := (shows.sized table).trans sized.symm
  simp only [inspectSegment, led, stored, kept]
  exact if_neg (not_not.mpr rfl)

theorem Durable.inspected (durable : Durable sizeOf sessionId start abandoned chunks leftover state)
    (unclaimed : Unclaimed sessionId start) (sound : Sound state.world.database)
    (shows : listing.Shows sizeOf sessionId state.world.files) :
    ∃ report, inspectIntegrity listing state.world = .ok report ∧ Inspected sessionId state.world report := by
  obtain ⟨report, read, temporary, orphan, unsound⟩ := inspectIntegrity_report listing sound
  have others := durable.elsewhere.unclaimed unclaimed
  have listed {path : String} (own : Own sessionId path) : path ∈ listing.found ↔ state.world.files path ≠ none := by
    rw [shows.found]
    exact and_iff_right own.below
  refine ⟨report, read, ⟨fun path own => ?_, fun index => ⟨fun member => ?_, fun member => ?_⟩, fun path own => ?_,
    fun first second here there => (durable.stray here).trans (durable.stray there).symm⟩⟩
  · have unnamed : (∀ row ∈ state.world.database.segments, row.relativePath ≠ path) ↔
        ∀ row ∈ sessionSegments sessionId state.world.database, row.relativePath ≠ path := by
      constructor
      · exact fun all row member => all row (List.mem_filter.mp member).1
      · intro all row member same
        by_cases mine : row.sessionId = sessionId
        · exact all row (List.mem_filter.mpr ⟨member, decide_eq_true mine⟩) same
        · exact others row member mine (same ▸ own)
    rw [temporary, orphan, listed own, unnamed]
    obtain ⟨index, rfl | rfl⟩ := id own
    · rw [isTemporary_segment, pathSuffix_segment]
      constructor
      · rintro (⟨_, wrong⟩ | ⟨present, _, _, free⟩)
        · cases wrong
        · exact ⟨own, present, free⟩
      · exact fun stray => .inr ⟨stray.2.1, rfl, rfl, stray.2.2⟩
    · rw [isTemporary_temporary]
      constructor
      · rintro (⟨present, _⟩ | ⟨_, wrong, _⟩)
        · refine ⟨own, present, fun row member same => ?_⟩
          obtain ⟨number, _, _, path⟩ := durable.books.path member
          exact temporaryPath_ne_segment _ _ _ (same.symm.trans path)
        · cases wrong
      · exact fun stray => .inl ⟨stray.2.1, rfl⟩
  · have wrong := ((temporary _).mp member).2
    rw [isTemporary_segment] at wrong
    cases wrong
  · have wrong := ((orphan _).mp member).2.1
    rw [isTemporary_temporary] at wrong
    cases wrong
  · have absent : ¬(path ∈ report.missingSegments ∨ path ∈ report.metadataMismatches) := by
      intro reported
      obtain ⟨segment, stored, rfl, bad⟩ := unsound path reported
      by_cases mine : segment.sessionId = sessionId
      · exact bad (durable.sound shows (List.mem_filter.mpr ⟨stored, decide_eq_true mine⟩))
      · exact others _ stored mine own
    exact not_or.mp absent

end Inspection

/-! The calls before the crash. -/

section Runs

variable {sizeOf : SegmentTable → Nat} {sessionId : Uuid} {start : World} {abandoned given : List Frame → Prop}
variable {state : Watched} {call : WriterCall} {choices : List Choice}

/-- The state as if every removal had failed: nothing that a run does depends on the removals remembered. -/
def Watched.excused (state : Watched) : Watched := { state with unremoved := Set.univ }

theorem watch_excused (request : DataEffect) (choice : Choice) (state : Watched) :
    watch request choice state.excused = ((watch request choice state).1.excused, (watch request choice state).2) := by
  cases request with
  | removeFile path =>
    cases answered : (perform (.removeFile path) choice state.world).2 with
    | ok value => simp [watch, Watched.excused, Watched.moved, answered]
    | error error => simp [watch, Watched.excused, Watched.moved, Watched.withUnremoved, answered]
  | _ => rfl

theorem usual_excused (request : DataEffect) (choice : Choice) (state : Watched)
    (met : usual sizeOf request choice state) : usual sizeOf request choice state.excused := by
  cases request <;> exact met

theorem Lasting.unexcused (lasting : Lasting sizeOf sessionId start abandoned state.excused) :
    Lasting sizeOf sessionId start abandoned state := by
  obtain ⟨chunks, leftover, durable⟩ := lasting
  exact ⟨chunks, leftover, ⟨durable.books.keys, durable.books.rows, durable.books.session, durable.books.ordered⟩,
    ⟨durable.elsewhere.files, durable.elsewhere.segments⟩, durable.tree, durable.left, durable.begins⟩

theorem Terminated.mono (ended : Terminated sizeOf sessionId start given state)
    (more : ∀ rest, given rest → abandoned rest) : Terminated sizeOf sessionId start abandoned state := by
  obtain ⟨chunks, leftover, halted⟩ := ended
  obtain ⟨rest, appended, left⟩ := halted.begins
  exact ⟨chunks, leftover, ⟨halted.held, halted.tree, halted.tidy, rest, appended, left.imp_right (more rest)⟩,
    halted.ended⟩

theorem Lasting.mono (lasting : Lasting sizeOf sessionId start given state)
    (more : ∀ rest, given rest → abandoned rest) : Lasting sizeOf sessionId start abandoned state := by
  obtain ⟨chunks, leftover, durable⟩ := lasting
  obtain ⟨rest, appended, left⟩ := durable.begins
  exact ⟨chunks, leftover, durable.books, durable.elsewhere, durable.tree, durable.left, rest, appended,
    left.imp_right (more rest)⟩

variable (sizeOf sessionId start given) in
/-- Between two calls, with whatever removals have failed. -/
def Tolerated (state : Watched) : Prop :=
  Resting sizeOf sessionId start state.excused ∨ Terminated sizeOf sessionId start given state.excused

/-- A call that may write a segment begins with no file under the canonical name of the active writer's next one. -/
def Uncluttered (sessionId : Uuid) (call : WriterCall) (_ : List Choice) (state : Watched) : Prop :=
  match call with
  | .append _ | .flushPending => state.world.writer.session.state = .active →
    state.world.files (segmentRelativePath sessionId state.world.writer.session.segmentCount) = none
  | _ => True

theorem Resting.ready (resting : Resting sizeOf sessionId start state)
    (clear : state.world.files (segmentRelativePath sessionId state.world.writer.session.segmentCount) = none) :
    Ready sizeOf sessionId start state := by
  obtain ⟨chunks, leftover, tidy, working⟩ := resting
  rcases tidy with rfl | ⟨rfl, _⟩
  · exact ⟨chunks, working⟩
  · rw [working.held.tallies.segmentCount] at clear
    have tree : Tree sessionId chunks.length (nextTemporary sessionId chunks.length) state.world.files := by
      refine ⟨fun index present => ?_, fun index present => ?_⟩
      · refine (working.tree.segments index present).imp_right fun same => ?_
        rw [same] at present
        exact absurd clear present
      · exact absurd (working.tree.temporaries index present) (temporary_ne_next _)
    exact ⟨chunks, working.held, rfl, working.active, working.marked, tree, working.appended⟩

/-- What a call may have given up. -/
def gives (call : WriterCall) (state : Watched) (rest : List Frame) : Prop :=
  call = .fail ∧ rest = state.world.writer.buffer

variable (sizeOf sessionId start) in
/-- However a call of an excused state ends. -/
def Settling (abandoned : List Frame → Prop) (state : Watched) : Prop :=
  Resting sizeOf sessionId start state ∨ Terminated sizeOf sessionId start abandoned state ∨
    ∃ error, Spoiled sizeOf sessionId start error state

/-- A call that begins uncluttered, whatever the effects before it have left. -/
theorem call_settles (sized : ∀ table, sizeOf table ≠ 0) (tolerated : Tolerated sizeOf sessionId start given state)
    (clear : Uncluttered sessionId call choices state) :
    Guarded sizeOf sessionId start (fun rest => given rest ∨ gives call state rest) (· = state.excused) call.program
      (fun _ => Settling sizeOf sessionId start fun rest => given rest ∨ gives call state rest)
      fun error => Spoiled sizeOf sessionId start error := by
  have standing : Resting sizeOf sessionId start state.excused ∨
      Terminated sizeOf sessionId start (fun rest => given rest ∨ gives call state rest) state.excused :=
    tolerated.imp_right fun ended => ended.mono fun _ => .inl
  have refused {continuation : Unit → DataProgram Unit} {abandoned : List Frame → Prop}
      (ended : Terminated sizeOf sessionId start abandoned state.excused) :
      Guarded sizeOf sessionId start abandoned (· = state.excused) (requireActive >>= continuation)
        (fun _ => Settling sizeOf sessionId start abandoned) fun error => Spoiled sizeOf sessionId start error :=
    (requireActive_ended fun _ ended => .inr (.inl ended)).consequence (fun _ same => same ▸ ended)
      (fun _ _ reached => reached) fun _ _ spoiled => spoiled
  cases call with
  | append batch =>
    rcases standing with resting | ended
    · refine (append_guarded sized batch (resting.ready (clear resting.active))).consequence (fun _ same => same)
        (fun result after reached => ?_) fun _ _ spoiled => spoiled
      cases result with
      | ok value =>
        have ready : Ready sizeOf sessionId start after := reached
        exact .inl ready.resting
      | error error =>
        rcases reached with ⟨_, _, ready⟩ | failed
        · exact .inl ready.resting
        · exact .inr (.inl failed.1)
    · exact refused ended
  | flushPending =>
    rcases standing with resting | ended
    · refine (flushPending_guarded sized).consequence (fun _ same => same ▸ resting.ready (clear resting.active))
        (fun result after reached => ?_) fun _ _ spoiled => spoiled
      cases result with
      | ok value =>
        have ready : Ready sizeOf sessionId start after := reached
        exact .inl ready.resting
      | error error =>
        have failed : Failed sizeOf sessionId start _ error after := reached
        exact .inr (.inl failed.1)
    · exact refused ended
  | commitCompleted =>
    have completed : Guarded sizeOf sessionId start (fun rest => given rest ∨ gives .commitCompleted state rest)
        (· = state.excused) (WriterCall.program .commitCompleted)
        (fun _ => Settling sizeOf sessionId start fun rest => given rest ∨ gives .commitCompleted state rest) never := by
      refine discarding_guarded ?_
      rcases standing with resting | ended
      · refine (commitCompleted_guarded (fun _ resting => resting) fun _ _ => Resting.advance).consequence
          (fun _ same => same ▸ resting) (fun _ _ reached => ?_) fun _ _ spoiled => spoiled
        exact reached.imp_right .inl
      · exact (requireActive_ended fun _ ended => .inr (.inl ended)).consequence (fun _ same => same ▸ ended)
          (fun _ _ reached => reached) fun _ _ spoiled => spoiled
    exact completed.consequence (fun _ same => same) (fun _ _ reached => reached) fun _ _ spoiled => spoiled.elim
  | fail =>
    have failed : Guarded sizeOf sessionId start (fun rest => given rest ∨ gives .fail state rest)
        (· = state.excused) (WriterCall.program .fail)
        (fun _ => Settling sizeOf sessionId start fun rest => given rest ∨ gives .fail state rest) never := by
      refine discarding_guarded (fail_guarded.consequence (fun _ same => ?_) (fun _ _ ended => .inr (.inl ended))
        fun _ _ spoiled => spoiled)
      rw [same]
      exact standing.imp_left fun resting => ⟨resting, .inr ⟨rfl, rfl⟩⟩
    exact failed.consequence (fun _ same => same) (fun _ _ reached => reached) fun _ _ spoiled => spoiled.elim

theorem Settling.tolerated (settling : Settling sizeOf sessionId start abandoned state.excused) :
    Tolerated sizeOf sessionId start abandoned state := by
  rcases settling with resting | ended | ⟨error, _, chunks, leftover, left, working⟩
  · exact .inl resting
  · exact .inr ended
  · exact .inl ⟨chunks, leftover, left.imp_right fun same => ⟨same, Set.mem_univ _⟩, working⟩

theorem Tolerated.lasting (tolerated : Tolerated sizeOf sessionId start given state) :
    Lasting sizeOf sessionId start given state.excused := by
  rcases tolerated with resting | ended
  · exact resting.lasting
  · exact ended.lasting

/-- A whole call. -/
theorem Tolerated.called (tolerated : Tolerated sizeOf sessionId start given state)
    (sized : ∀ table, sizeOf table ≠ 0) (clear : Uncluttered sessionId call choices state)
    (behaves : Behaves sizeOf call choices state) :
    Tolerated sizeOf sessionId start (fun rest => given rest ∨ gives call state rest)
      (call.program.run watch calm choices state).2.1 := by
  have settles := call_settles sized tolerated clear state.excused rfl
  have renamed : (call.program.run watch calm choices state.excused).2.1 =
      (call.program.run watch calm choices state).2.1.excused := (Program.run_renamed watch_excused).2
  refine Settling.tolerated ?_
  rw [← renamed]
  rcases settles.outcome (Program.Meets.renamed watch_excused usual_excused behaves) with ⟨_, settling⟩ |
    ⟨_, error, _, spoiled⟩
  · exact settling
  · exact .inr (.inr ⟨error, spoiled⟩)

/-- A call cut off after some of its effects. -/
theorem Tolerated.cut {count : Nat} (tolerated : Tolerated sizeOf sessionId start given state)
    (sized : ∀ table, sizeOf table ≠ 0) (clear : Uncluttered sessionId call choices state)
    (behaves : Program.MeetsUpTo watch calm (usual sizeOf) count call.program choices state) :
    Lasting sizeOf sessionId start (fun rest => given rest ∨ gives call state rest)
      (call.program.cut watch calm count choices state) := by
  have settles := call_settles sized tolerated clear state.excused rfl
  have met := Program.MeetsUpTo.renamed watch_excused usual_excused behaves
  have lasting := settles.cut (tolerated.lasting.mono fun _ => .inl) (fun _ _ => Spoiled.lasting) met
  rw [Program.cut_renamed watch_excused] at lasting
  exact lasting.unexcused

/-- The state after some calls. -/
def after : List (WriterCall × List Choice) → Watched → Watched
  | [], state => state
  | (call, choices) :: later, state => after later (call.program.run watch calm choices state).2.1

/-- The frames that a call of a run may have given up. -/
def givenUp : List (WriterCall × List Choice) → Watched → List Frame → Prop
  | [], _, _ => False
  | (call, choices) :: later, state, rest =>
    gives call state rest ∨ givenUp later (call.program.run watch calm choices state).2.1 rest

variable {calls : List (WriterCall × List Choice)} {count : Nat}

/-- The calls of a run and the one the crash cuts off. -/
theorem Tolerated.crash (sized : ∀ table, sizeOf table ≠ 0) (tolerated : Tolerated sizeOf sessionId start given state)
    (behaves : Each (Behaves sizeOf) calls state) (clear : Each (Uncluttered sessionId) calls state)
    (begun : Uncluttered sessionId call choices (after calls state))
    (behaved : Program.MeetsUpTo watch calm (usual sizeOf) count call.program choices (after calls state)) :
    Lasting sizeOf sessionId start (fun rest => given rest ∨ givenUp (calls ++ [(call, choices)]) state rest)
      (call.program.cut watch calm count choices (after calls state)) := by
  induction calls generalizing state given with
  | nil => exact (tolerated.cut sized begun behaved).mono fun _ held => held.imp_right .inl
  | cons entry later ih =>
    obtain ⟨first, taken⟩ := entry
    have lasting := ih (tolerated.called sized clear.1 behaves.1) behaves.2 clear.2 begun behaved
    exact lasting.mono fun _ held => or_assoc.mp held

private theorem watch_sound (request : DataEffect) (choice : Choice) (state : Watched)
    (sound : Sound state.world.database) :
    Sound (watch request choice state).1.world.database := by
  have kept := perform_sound request choice sound
  cases request with
  | removeFile path =>
    cases answered : (perform (.removeFile path) choice state.world).2 with
    | ok value => simpa [watch, Watched.moved, answered] using kept
    | error error => simpa [watch, Watched.moved, Watched.withUnremoved, answered] using kept
  | _ => exact kept

theorem after_sound (sound : Sound state.world.database) : Sound (after calls state).world.database := by
  induction calls generalizing state with
  | nil => exact sound
  | cons entry later ih =>
    exact ih (Program.run_keeps (fun state : Watched => Sound state.world.database) watch_sound sound)

/-- What is found when the project is opened again: segments numbered from 0 whose files hold a prefix of what was
appended, a row that counts them, and a report of the strays. -/
def Recovered (sizeOf : SegmentTable → Nat) (sessionId : Uuid) (given : List Frame → Prop) (listing : Listing)
    (state : Watched) : Prop :=
  ∃ chunks rest, (sessionSegments sessionId state.world.database).map SegmentRow.segmentIndex =
      List.range chunks.length ∧
    List.Forall₂ (Filed sizeOf state.world) chunks (sessionSegments sessionId state.world.database) ∧
    state.appended = chunks.flatten ++ rest ∧ (rest <:+ state.world.writer.buffer ∨ given rest) ∧
    (∃ row, sessionRow sessionId state.world.database = some row ∧
      Balanced row (sessionSegments sessionId state.world.database)) ∧
    ∃ report, inspectIntegrity listing state.world = .ok report ∧ Inspected sessionId state.world report

theorem Lasting.recovered {listing : Listing} (lasting : Lasting sizeOf sessionId start given state)
    (unclaimed : Unclaimed sessionId start) (sound : Sound state.world.database)
    (shows : listing.Shows sizeOf sessionId state.world.files) :
    Recovered sizeOf sessionId given listing state := by
  obtain ⟨chunks, leftover, durable⟩ := lasting
  obtain ⟨rest, appended, left⟩ := durable.begins
  obtain ⟨row, found, tallies⟩ := durable.books.session
  have indices := congrArg (List.map Prod.fst) durable.books.keys
  rw [List.map_map, List.map_map] at indices
  refine ⟨chunks, rest, indices.trans (List.map_id _), durable.books.rows, appended, left,
    ⟨row, found, durable.books.balanced tallies⟩, durable.inspected unclaimed sound shows⟩

/-- A run of calls, each begun uncluttered, that a crash cuts off after any effect of the last one. -/
theorem crash_recovered {world : World} {listing : Listing} (sized : ∀ table, sizeOf table ≠ 0)
    (started : Started sessionId world)
    (fresh : ∀ index, world.files (segmentRelativePath sessionId index) = none ∧
      world.files (temporaryPath (segmentRelativePath sessionId index)) = none)
    (unclaimed : Unclaimed sessionId world) (sound : Sound world.database)
    (behaves : Each (Behaves sizeOf) calls (.opened world)) (clear : Each (Uncluttered sessionId) calls (.opened world))
    (begun : Uncluttered sessionId call choices (after calls (.opened world)))
    (behaved : Program.MeetsUpTo watch calm (usual sizeOf) count call.program choices (after calls (.opened world)))
    (shows : listing.Shows sizeOf sessionId
      (call.program.cut watch calm count choices (after calls (.opened world))).world.files) :
    Recovered sizeOf sessionId (givenUp (calls ++ [(call, choices)]) (.opened world)) listing
      (call.program.cut watch calm count choices (after calls (.opened world))) := by
  have ready : Ready sizeOf sessionId world (.opened world) := started.ready fresh
  have resting : Resting sizeOf sessionId world (Watched.opened world).excused := by
    obtain ⟨chunks, working⟩ := ready
    exact ⟨chunks, _, .inl rfl, { working with held := { working.held with } }⟩
  have tolerated : Tolerated sizeOf sessionId world (fun _ => False) (.opened world) := .inl resting
  have lasting := tolerated.crash sized behaves clear begun behaved
  refine Lasting.recovered (lasting.mono fun _ held => held.resolve_left id) unclaimed ?_ shows
  exact Program.cut_keeps (fun state : Watched => Sound state.world.database) watch_sound (after_sound sound)

end Runs

/-! A crash between the write and the rename of a temporary file. -/

def sampleTemporary : String := temporaryPath (segmentRelativePath sampleSessionId 0)

def sampleListing : Listing := ⟨[sampleTemporary], some, fun _ => 100⟩

/-- The first append, after its temporary file has been written. -/
theorem crash_recovered_temporary :
    Recovered (fun _ => 100) sampleSessionId
      (givenUp ([] ++ [(.append (sampleBatch 0 (by decide)), [])]) (.opened (sampleWorld 1 Nat.one_pos))) sampleListing
      ((WriterCall.append (sampleBatch 0 (by decide))).program.cut watch Data.calm 10 []
        (after [] (.opened (sampleWorld 1 Nat.one_pos)))) := by
  have files : ((WriterCall.append (sampleBatch 0 (by decide))).program.cut watch Data.calm 10 []
      (after [] (.opened (sampleWorld 1 Nat.one_pos)))).world.files = Function.update (fun _ => none) sampleTemporary
        (some (.table (segmentTable sampleSession (sampleBatch 0 (by decide)).frames))) := rfl
  have sound : Sound (sampleWorld 1 Nat.one_pos).database := by
    refine ⟨fun row member => ?_, fun row member => by cases member⟩
    rw [List.mem_singleton.mp member]
    exact sampleSession.valid
  refine crash_recovered (fun _ => by decide) (sampleWorld_started _ _) (fun _ => ⟨rfl, rfl⟩)
    (fun row member => by cases member) sound trivial trivial (fun _ => rfl)
    (Program.MeetsUpTo.of_default usual_calm) ⟨fun path => ?_, fun _ => rfl, fun _ => rfl⟩
  have below : belowSessions sampleTemporary := belowSessions_temporary (belowSessions_segment 0)
  rw [files, sampleListing, List.mem_singleton]
  by_cases same : path = sampleTemporary
  · rw [same, Function.update_self]
    exact ⟨fun _ => ⟨below, by simp⟩, fun _ => rfl⟩
  · rw [Function.update_of_ne same]
    exact ⟨fun wrong => absurd wrong same, fun present => absurd rfl present.2⟩

/-- An append whose registration overflowed, then a flush that is cut off before it renames its temporary file. -/
theorem crash_two_strays :
    Each (Behaves fun _ => 100) [(.append (sampleBatch 9223372036854775808 (by decide)), [])]
        (.opened (sampleWorld 1 Nat.one_pos)) ∧
      Program.MeetsUpTo watch Data.calm (usual fun _ => 100) 8 WriterCall.flushPending.program []
        (after [(.append (sampleBatch 9223372036854775808 (by decide)), [])] (.opened (sampleWorld 1 Nat.one_pos))) ∧
      ¬∃ given listing, Recovered (fun _ => 100) sampleSessionId given listing
        (WriterCall.flushPending.program.cut watch Data.calm 8 []
          (after [(.append (sampleBatch 9223372036854775808 (by decide)), [])]
            (.opened (sampleWorld 1 Nat.one_pos)))) := by
  refine ⟨⟨Program.Meets.of_default usual_calm, trivial⟩, Program.MeetsUpTo.of_default usual_calm, ?_⟩
  generalize reached : WriterCall.flushPending.program.cut watch Data.calm 8 []
    (after [(.append (sampleBatch 9223372036854775808 (by decide)), [])] (.opened (sampleWorld 1 Nat.one_pos))) = crashed
  have canonical : (crashed.world.files (segmentRelativePath sampleSessionId 0)).isSome = true := by
    rw [← reached]
    decide +kernel
  have temporary : (crashed.world.files sampleTemporary).isSome = true := by
    rw [← reached]
    decide +kernel
  have unregistered : sessionSegments sampleSessionId crashed.world.database = [] := by
    rw [← reached]
    decide +kernel
  have stray (path : String) (own : Own sampleSessionId path) (present : (crashed.world.files path).isSome = true) :
      Stray sampleSessionId crashed.world path := by
    refine ⟨own, fun absent => ?_, fun row member => ?_⟩
    · rw [absent] at present
      cases present
    · rw [unregistered] at member
      cases member
  rintro ⟨given, listing, _, _, _, _, _, _, _, report, _, inspected⟩
  have same := inspected.single _ _ (stray _ ⟨0, .inr rfl⟩ temporary) (stray _ ⟨0, .inl rfl⟩ canonical)
  exact temporaryPath_ne_segment _ _ _ same

end CanX.Data
