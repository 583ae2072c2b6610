import CanX.Data.Writer
import CanX.Query.Service

/-! The two ways of reading a session next to each other: `query_frames` over all of it, and `read_segment` index
by index. -/

namespace CanX.Query

open Dbc Domain Data Desktop Transport Storage Transition

section Rows

variable {row : FrameRow} {frame : PyFrame} {rows answer : List FrameRow} {frames : List PyFrame}

/-- No name and no flag of the row is null. -/
def Complete (row : FrameRow) : Prop :=
  row.channelId ≠ none ∧ row.clockDomain ≠ none ∧ row.isExtended ≠ none ∧ row.isFd ≠ none ∧
    row.bitrateSwitch ≠ none ∧ row.errorStateIndicator ≠ none

end Rows

section Engine

variable {files : Files} {sessionId : Uuid} {paths : List String} {limit : Nat} {rows : List FrameRow}
variable {result : Except QueryFault FrameQueryPage}

end Engine

section Paths

variable {database : Database} {tree : FileTree} {session : DataSession} {segments : List DataSegment}
variable {segment : DataSegment} {sessionId : Uuid} {query : FrameQuery} {path : String}

private theorem resolveSegment_ok : resolveSegment tree segment = .ok path ↔
    resolveWithinRoot tree segment.relativePath = .ok path := by
  rw [resolveSegment]
  split
  · rename_i held found
    rw [found, Except.ok.injEq, Except.ok.injEq]
  · rename_i error found
    simp [found]
  · rename_i fault found
    simp [found]

/-- A segment is handed to the engine exactly if its path resolves and the gate lets its file through. -/
theorem candidatePath_ok : candidatePath tree session segment = .ok path ↔
    resolveWithinRoot tree segment.relativePath = .ok path ∧
      ∃ header, requireRegisteredSegment tree path session segment = .ok header := by
  simp only [candidatePath, bind_ok, resolveSegment_ok]
  constructor
  · rintro ⟨found, resolved, _, validated, returned⟩
    obtain rfl := Except.ok.inj returned
    refine ⟨resolved, ?_⟩
    rw [validateSegment] at validated
    split at validated
    · cases validated
    · split at validated
      · exact ⟨_, ‹_›⟩
      · cases validated
      · cases validated
      · cases validated
  · rintro ⟨resolved, header, passed⟩
    refine ⟨path, resolved, (), ?_, rfl⟩
    obtain ⟨table, gated⟩ := requireRegisteredSegment_gated passed
    obtain ⟨file, held, -⟩ := gated.file
    rw [validateSegment, if_neg (by simp [held]), passed]

theorem byPath_listed (listed : listSegments sessionId database = .ok segments) (member : segment ∈ segments) :
    byPath segments segment.relativePath = .ok segment := by
  have found : (segments.reverse.find? fun other => decide (other.relativePath = segment.relativePath)) =
      some segment := by
    refine find?_only (List.mem_reverse.mpr member) (decide_eq_true rfl) ?_
    intro other there same
    exact List.inj_on_of_nodup_map (listSegments_paths listed) (List.mem_reverse.mp there) member
      (of_decide_eq_true same)
  rw [byPath, found]

end Paths

section Agreement

variable {database : Database} {tree : FileTree} {session : DataSession} {segments : List DataSegment}
variable {sessionId : Uuid} {query : FrameQuery}

end Agreement

section Sample

/-- A stored session, with one registered file of one frame with sequence 7. -/
def storedSession : DataSession := ⟨initialSession sampleSession Data.sampleProjectId "s" 0, by decide⟩

def storedSegment (sequence : Nat) : SegmentRow :=
  ⟨Data.sampleSegmentId, sampleSession, 0, segmentRelativePath sampleSession 0, 1, sequence, sequence, 4, 4, 512, 0⟩

theorem stored_named : text "can0" ≠ [] := by decide

def storedFile : ParquetFile :=
  ⟨(framesToTable [storedFrame (text "can0") stored_named] (text "5e55") (text "s") 0).toOption, 512⟩

theorem storedSegment_valid (sequence : Nat) : (storedSegment sequence).check = .ok () := by
  have path : requireRelativePath (segmentRelativePath sampleSession 0) = .ok () := by decide +kernel
  rw [SegmentRow.check, storedSegment]
  dsimp only
  rw [path, ok_bind]
  simp only [refuseIf_bind_ok, requireTimestamp_bind_ok, refuseIf_ok]
  exact ⟨Nat.one_ne_zero, Nat.lt_irrefl _, by decide, by decide, by decide, by decide⟩

end Sample

end CanX.Query
