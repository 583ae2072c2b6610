import CanX.Data.Account
import CanX.Data.Reading
import CanX.Transition.Raising

/-! `inspect_integrity`: the stored metadata against the files that are really there, and what it reports of one
session whose books are right. -/

namespace CanX.Data

open Domain Storage Transition

section Names

/-- `PurePath.name`. -/
def pathName (path : String) : List Char := (path.toList.reverse.takeWhile (· ≠ '/')).reverse

/-- `PurePath.suffix`: the last dot of the name and what follows it, unless the dot begins or ends the name. -/
def pathSuffix (path : String) : List Char :=
  let extension := ((pathName path).reverse.takeWhile (· ≠ '.')).reverse
  if extension ≠ [] ∧ extension.length + 1 < (pathName path).length then '.' :: extension else []

def isTemporary (path : String) : Bool := temporarySuffix.toList <:+ pathName path

def parquetSuffix : List Char := ['.', 'p', 'a', 'r', 'q', 'u', 'e', 't']

private theorem takeWhile_reverse_append {Element : Type} {kept : Element → Bool} {first last : List Element}
    {stop : Element}
    (inside : ∀ element ∈ last, kept element = true) (outside : kept stop = false) :
    ((first ++ stop :: last).reverse.takeWhile kept).reverse = last := by
  have all : ∀ element ∈ last.reverse, kept element = true :=
    fun element member => inside element (List.mem_reverse.mp member)
  rw [List.reverse_append, List.reverse_cons, List.append_assoc, List.takeWhile_append_of_pos all]
  simp [outside]

private theorem paddedIndex_digits {segmentIndex : Nat} {character : Char}
    (member : character ∈ paddedIndex segmentIndex) :
    character.isDigit = true := by
  rcases List.mem_append.mp member with padding | digit
  · rw [List.eq_of_mem_replicate padding]
    rfl
  · exact Nat.isDigit_of_mem_toDigits (by decide) (by decide) digit

private theorem paddedIndex_nonempty (segmentIndex : Nat) : paddedIndex segmentIndex ≠ [] := by
  intro empty
  have digits := (List.append_eq_nil_iff.mp empty).2
  exact Nat.toDigits_ne_nil digits

private theorem pathName_segment (sessionId : Uuid) (segmentIndex : Nat) :
    pathName (segmentRelativePath sessionId segmentIndex) = paddedIndex segmentIndex ++ parquetSuffix := by
  have spelled : ∃ before, (segmentRelativePath sessionId segmentIndex).toList =
      before ++ '/' :: (paddedIndex segmentIndex ++ parquetSuffix) := by
    refine ⟨(sessionRelativeDirectory sessionId).toList ++ ['/', 's', 'e', 'g', 'm', 'e', 'n', 't', 's'], ?_⟩
    simp [segmentRelativePath, segmentFilename, parquetSuffix]
  obtain ⟨before, spelled⟩ := spelled
  rw [pathName, spelled]
  refine takeWhile_reverse_append (fun character member => decide_eq_true ?_) (by decide)
  rintro rfl
  rcases List.mem_append.mp member with digit | extension
  · exact absurd (paddedIndex_digits digit) (by decide)
  · exact absurd extension (by decide)

theorem pathSuffix_segment (sessionId : Uuid) (segmentIndex : Nat) :
    pathSuffix (segmentRelativePath sessionId segmentIndex) = parquetSuffix := by
  have extension : ((pathName (segmentRelativePath sessionId segmentIndex)).reverse.takeWhile (· ≠ '.')).reverse =
      parquetSuffix.tail := by
    rw [pathName_segment]
    have outside : decide ('.' ≠ '.') = false := by decide
    have inside : (parquetSuffix.tail.all fun character => decide (character ≠ '.')) = true := by decide
    exact takeWhile_reverse_append (List.all_eq_true.mp inside) outside
  have digits := List.length_pos_iff.mpr (paddedIndex_nonempty segmentIndex)
  have longer : parquetSuffix.tail.length + 1 < (pathName (segmentRelativePath sessionId segmentIndex)).length := by
    rw [pathName_segment, List.length_append]
    exact Nat.lt_add_of_pos_left digits
  rw [pathSuffix, extension]
  exact if_pos ⟨by decide, longer⟩

theorem isTemporary_segment (sessionId : Uuid) (segmentIndex : Nat) :
    isTemporary (segmentRelativePath sessionId segmentIndex) = false := by
  refine decide_eq_false fun ending => ?_
  rw [pathName_segment] at ending
  obtain ⟨before, same⟩ := ending
  have last := congrArg List.getLast? same
  rw [List.getLast?_append, List.getLast?_append] at last
  cases last

theorem isTemporary_temporary (path : String) : isTemporary (temporaryPath path) = true := by
  refine decide_eq_true ?_
  have inside : (temporarySuffix.toList.reverse.all fun character => decide (character ≠ '/')) = true := by decide
  rw [pathName, temporaryPath, String.toList_append, List.reverse_append,
    List.takeWhile_append_of_pos (List.all_eq_true.mp inside), List.reverse_append, List.reverse_reverse]
  exact List.suffix_append _ _

end Names

/-! The inspection. -/

structure DataIntegrityReport where
  scannedSessions : Nat
  temporaryFiles : List String
  orphanSegments : List String
  missingSegments : List String
  metadataMismatches : List String

/-- What the file system tells: the regular files below `data/sessions` in sorted order, where a stored path leads if
not outside the project, and the size of a file. -/
structure Listing where
  found : List String
  resolve : String → Option String
  sizeOf : StoredFile → Nat

inductive Finding where
  | sound
  | missing
  | mismatched
  deriving DecidableEq

def inspectSegment (listing : Listing) (files : String → Option StoredFile) (segment : DataSegment) : Finding :=
  match listing.resolve segment.relativePath with
  | none => .mismatched
  | some path =>
    match files path with
    | none => .missing
    | some file => if listing.sizeOf file ≠ segment.byteSize then .mismatched else .sound

/-- `list_sessions`. -/
def listSessions (database : Database) : Except PyException (List DataSession) :=
  (database.sessions.insertionSort sessionOrder).mapM sessionFromRow

/-- `ORDER BY session_id ASC, segment_index ASC`. -/
def segmentOrder (first second : SegmentRow) : Prop :=
  first.sessionId.text < second.sessionId.text ∨
    first.sessionId.text = second.sessionId.text ∧ first.segmentIndex ≤ second.segmentIndex

instance (first second : SegmentRow) : Decidable (segmentOrder first second) := by
  unfold segmentOrder
  infer_instance

def listAllSegments (database : Database) : Except DataError (List DataSegment) :=
  (database.segments.insertionSort segmentOrder).mapM segmentFromRow

def raisingData {Value : Type} : Except DataError Value → Except PyException Value
  | .ok value => .ok value
  | .error error => .error (.data error)

/-- `inspect_integrity`. The registered paths are distinct, so that `known` has each of them once. -/
def inspectIntegrity (listing : Listing) (world : World) : Except PyException DataIntegrityReport := do
  let sessions ← listSessions world.database
  let registered ← raisingData (listAllSegments world.database)
  let known := registered.insertionSort fun first second => first.relativePath ≤ second.relativePath
  return {
    scannedSessions := sessions.length
    temporaryFiles := listing.found.filter isTemporary
    orphanSegments := listing.found.filter fun path => ¬isTemporary path ∧ pathSuffix path = parquetSuffix ∧
      path ∉ known.map (·.relativePath)
    missingSegments := (known.filter fun segment => inspectSegment listing world.files segment = .missing).map
      (·.relativePath)
    metadataMismatches := (known.filter fun segment =>
      inspectSegment listing world.files segment = .mismatched).map (·.relativePath) }

/-! Rows that describe valid sessions and segments. -/

/-- Every stored row passes its own check. -/
structure Sound (database : Database) : Prop where
  sessions : ∀ row ∈ database.sessions, row.check = .ok ()
  segments : ∀ row ∈ database.segments, row.check = .ok ()

private theorem listSessions_total {database : Database} (sound : Sound database) :
    ∃ sessions, listSessions database = .ok sessions := by
  refine mapM_total fun row member => ?_
  have passed := sound.sessions row ((List.mem_insertionSort _).mp member)
  exact ⟨⟨row, passed⟩, by rw [sessionFromRow, DataSession.make_of_check passed]⟩

private theorem listAllSegments_total {database : Database} (sound : Sound database) :
    ∃ segments, listAllSegments database = .ok segments := by
  refine mapM_total fun row member => ?_
  have passed := sound.segments row ((List.mem_insertionSort _).mp member)
  exact ⟨⟨row, passed⟩, segmentFromRow_own ⟨row, passed⟩⟩

private theorem listAllSegments_mem {database : Database} {segments : List DataSegment} {row : SegmentRow}
    (listed : listAllSegments database = .ok segments) :
    row ∈ segments.map DataSegment.toSegmentRow ↔ row ∈ database.segments := by
  rw [segmentsFromRows_rows listed]
  exact List.mem_insertionSort _

/-- What is in a report. -/
theorem inspectIntegrity_report (listing : Listing) {world : World} (sound : Sound world.database) :
    ∃ report, inspectIntegrity listing world = .ok report ∧
      (∀ path, path ∈ report.temporaryFiles ↔ path ∈ listing.found ∧ isTemporary path = true) ∧
      (∀ path, path ∈ report.orphanSegments ↔ path ∈ listing.found ∧ isTemporary path = false ∧
        pathSuffix path = parquetSuffix ∧ ∀ row ∈ world.database.segments, row.relativePath ≠ path) ∧
      (∀ path, path ∈ report.missingSegments ∨ path ∈ report.metadataMismatches →
        ∃ segment : DataSegment, segment.toSegmentRow ∈ world.database.segments ∧ segment.relativePath = path ∧
          inspectSegment listing world.files segment ≠ .sound) := by
  obtain ⟨sessions, read⟩ := listSessions_total sound
  obtain ⟨segments, listed⟩ := listAllSegments_total sound
  have stored : ∀ segment ∈ segments, segment.toSegmentRow ∈ world.database.segments :=
    fun segment member => (listAllSegments_mem listed).mp (List.mem_map_of_mem member)
  have unsound (finding : Finding) (path : String) (bad : finding ≠ .sound)
      (reported : path ∈ ((segments.insertionSort fun first second => first.relativePath ≤ second.relativePath).filter
        fun segment => inspectSegment listing world.files segment = finding).map (·.relativePath)) :
      ∃ segment : DataSegment, segment.toSegmentRow ∈ world.database.segments ∧ segment.relativePath = path ∧
        inspectSegment listing world.files segment ≠ .sound := by
    obtain ⟨segment, member, same⟩ := List.mem_map.mp reported
    obtain ⟨inside, found⟩ := List.mem_filter.mp member
    refine ⟨segment, stored segment ((List.mem_insertionSort _).mp inside), same, ?_⟩
    rw [of_decide_eq_true found]
    exact bad
  refine ⟨_, by simp only [inspectIntegrity, read, listed, raisingData]; rfl, fun path => List.mem_filter,
    fun path => ?_,
    fun path reported => ?_⟩
  · have unknown : path ∉ (segments.insertionSort fun first second => first.relativePath ≤ second.relativePath).map
        (·.relativePath) ↔ ∀ row ∈ world.database.segments, row.relativePath ≠ path := by
      constructor
      · intro absent row member same
        obtain ⟨segment, inside, rfl⟩ := List.mem_map.mp ((listAllSegments_mem listed).mpr member)
        exact absent (List.mem_map.mpr ⟨segment, (List.mem_insertionSort _).mpr inside, same⟩)
      · intro unnamed member
        obtain ⟨segment, inside, same⟩ := List.mem_map.mp member
        exact unnamed _ (stored segment ((List.mem_insertionSort _).mp inside)) same
    rw [List.mem_filter, decide_eq_true_eq, unknown, Bool.not_eq_true]
  · rcases reported with missing | mismatched
    · exact unsound .missing path (by decide) missing
    · exact unsound .mismatched path (by decide) mismatched

/-! Rows stay valid. -/

theorem Sound.updateSessions {database : Database} {selected : SessionRow → Bool} {change : SessionRow → SessionRow}
    (keeps : ∀ row, selected row = true → (change row).sessionId = row.sessionId) (sound : Sound database)
    (passes : ∀ row, row.check = .ok () → (change row).check = .ok ()) :
    Sound (Data.updateSessions selected change keeps database) where
  sessions row member := by
    obtain ⟨before, stored, same⟩ := List.mem_map.mp member
    have passed := sound.sessions before stored
    rw [← same]
    split
    · exact passes before passed
    · exact passed
  segments := sound.segments

theorem Sound.advance {database : Database} {session : DataSession} (sound : Sound database) :
    Sound (advanceSessionState session database).1 := by
  refine Sound.updateSessions (fun row _ => advanced_sessionId row _ _ _) sound fun row passed => ?_
  have own := session.valid
  simp only [SessionRow.check, checks_ok, refuseIf_ok] at passed own ⊢
  exact ⟨passed.1, own.2.1, passed.2.2⟩

theorem Sound.register {database after : Database} {segment : DataSegment} {session : DataSession}
    (sound : Sound database) (committed : registerSegment segment session database = .ok after) : Sound after := by
  obtain ⟨admitted, rfl⟩ := registerSegment_ok committed
  have inserted : Sound (insertSegment segment.toSegmentRow database admitted) := by
    refine ⟨sound.sessions, fun row member => ?_⟩
    rcases List.mem_append.mp member with stored | added
    · exact sound.segments row stored
    · rw [List.mem_singleton.mp added]
      exact segment.valid
  exact Sound.updateSessions (fun _ chosen => (of_decide_eq_true chosen).symm) inserted fun _ _ => session.valid

theorem Sound.fail {database : Database} {sessionId : Uuid} {moment : DateTime} (sound : Sound database) :
    Sound (failActiveSession sessionId moment database).1 := by
  refine Sound.updateSessions (fun row _ => advanced_sessionId row _ _ _) sound fun row passed => ?_
  simp only [SessionRow.check, checks_ok, refuseIf_ok] at passed ⊢
  exact ⟨passed.1, by simp, passed.2.2⟩

theorem Sound.interrupt {database : Database} {sessionId : Uuid} {moment : DateTime} (sound : Sound database) :
    Sound (markSessionInterrupted sessionId moment database) := by
  refine Sound.updateSessions (fun row _ => advanced_sessionId row _ _ _) sound fun row passed => ?_
  simp only [SessionRow.check, checks_ok, refuseIf_ok] at passed ⊢
  exact ⟨passed.1, by simp [SessionRow.advanced], passed.2.2⟩

theorem perform_sound (request : DataEffect) (choice : Choice) {world : World} (sound : Sound world.database) :
    Sound (perform request choice world).1.database := by
  by_cases struck : request.inMemory = false ∧ choice.fault ≠ none
  · obtain ⟨outside, faulted⟩ := struck
    obtain ⟨error, same⟩ := Option.ne_none_iff_exists'.mp faulted
    have left : (perform request choice world).1 = disturbed request world := by simp [perform, outside, same]
    rw [left]
    cases request <;> exact sound
  · have calm : perform request choice world = act request choice world := by
      by_cases memory : request.inMemory = true
      · simp [perform, memory]
      · have outside : request.inMemory = false := by simpa using memory
        have none : choice.fault = none := Classical.not_not.mp fun faulted => struck ⟨outside, faulted⟩
        simp [perform, outside, none]
    rw [calm]
    cases request with
    | registerSegment segment session =>
      cases committed : registerSegment segment session world.database with
      | ok after =>
        have registered : (act (.registerSegment segment session) choice world).1.database = after := by
          simp [act, committed, storageErrors, World.committed]
        rw [registered]
        exact sound.register committed
      | error error =>
        have kept : (act (.registerSegment segment session) choice world).1.database = world.database := by
          cases error <;> simp [act, committed, storageErrors, World.committed]
        rw [kept]
        exact sound
    | advanceSessionState session => exact sound.advance
    | failActiveSession sessionId moment => exact sound.fail
    | markSessionInterrupted sessionId moment => exact sound.interrupt
    | framesToTable table =>
      by_cases empty : table.frames = []
      · simpa [act, empty] using sound
      · simpa [act, empty] using sound
    | fileSize path =>
      by_cases there : (world.files path).isSome = true
      · simpa [act, there] using sound
      · simpa [act, there] using sound
    | removeFile path =>
      by_cases there : (world.files path).isSome = true
      · simpa [act, there, World.withFile] using sound
      · simpa [act, there] using sound
    | replaceFile source target =>
      cases present : world.files source with
      | none => simpa [act, present] using sound
      | some file => simpa [act, present, World.withFile] using sound
    | _ => exact sound

end CanX.Data
