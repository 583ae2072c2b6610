import CanX.Query.Engine

/-! `plan_segments`: which registered segments a query has to scan, told from their sequence bounds alone. -/

namespace CanX.Query

open Domain Data Storage Dbc

section Plans

/-- `_may_match`. -/
def mayMatch (segment : SegmentRow) (filter : FrameFilter) (afterSequence : Option Int) : Bool :=
  if filter.sequenceStart.any fun bound => segment.lastSequence < bound then false
  else if filter.sequenceEnd.any fun bound => bound < segment.firstSequence then false
  else afterSequence.all fun cursor : Int => cursor < segment.lastSequence

structure QueryPlan where
  sessionId : Uuid
  registeredSegmentCount : Nat
  candidateSegmentCount : Nat
  relativePaths : List String
  deriving DecidableEq

def invalidCursor : QueryError :=
  ⟨.validation, "query.invalid_sequence", "after_sequence must be a non-negative integer or None."⟩

def foreignSegment : QueryError :=
  ⟨.integrity, "query.session_mismatch", "A segment in the candidate list belongs to another session."⟩

def planSegments (segments : List SegmentRow) (filter : FrameFilter) (afterSequence : Option Int) :
    Except QueryError QueryPlan :=
  if afterSequence.any fun cursor => cursor < 0 then .error invalidCursor
  else if segments.any fun segment => segment.sessionId ≠ filter.sessionId then .error foreignSegment
  else
    let candidates := segments.filter fun segment => mayMatch segment filter afterSequence
    .ok ⟨filter.sessionId, segments.length, candidates.length, candidates.map SegmentRow.relativePath⟩

end Plans

section Pruning

variable {files : Files} {filter : FrameFilter} {afterSequence : Option Int} {segments : List SegmentRow}
variable {segment : SegmentRow} {rows : List FrameRow}

/-- The registered bounds are the least and the greatest sequence of the rows. -/
structure Bounded (segment : SegmentRow) (rows : List FrameRow) : Prop where
  within : ∀ row ∈ rows, ∃ sequence, row.sequence = some sequence ∧
    segment.firstSequence ≤ sequence ∧ sequence ≤ segment.lastSequence
  first_held : ∃ row ∈ rows, row.sequence = some segment.firstSequence
  last_held : ∃ row ∈ rows, row.sequence = some segment.lastSequence

/-- Outside the bounds of its segment no row passes the filter and the cursor. -/
theorem mayMatch_sound (bounded : Bounded segment rows) (dropped : mayMatch segment filter afterSequence = false) :
    ∀ row ∈ rows, selects filter afterSequence row = false := by
  intro row member
  obtain ⟨sequence, held, lower, upper⟩ := bounded.within row member
  rw [Bool.eq_false_iff]
  intro selected
  obtain ⟨clauses, cursors⟩ := selects_iff.mp selected
  rw [mayMatch] at dropped
  split at dropped
  · rename_i below
    obtain ⟨bound, given, less⟩ :
        ∃ bound, filter.sequenceStart = some bound ∧ segment.lastSequence < bound := by
      simpa [Option.any_eq_true] using below
    have passed := clauses _ (sequenceStart_clause given)
    simp only [Clause.holds, held, Option.any_some, decide_eq_true_eq] at passed
    omega
  · split at dropped
    · rename_i above
      obtain ⟨bound, given, less⟩ :
          ∃ bound, filter.sequenceEnd = some bound ∧ bound < segment.firstSequence := by
        simpa [Option.any_eq_true] using above
      have passed := clauses _ (sequenceEnd_clause given)
      simp only [Clause.holds, held, Option.any_some, decide_eq_true_eq] at passed
      omega
    · cases afterSequence with
      | none => cases dropped
      | some cursor =>
        have passed := cursors cursor rfl
        simp only [Clause.holds, held, Option.any_some, decide_eq_true_eq] at passed
        simp only [Option.all_some, decide_eq_false_iff_not] at dropped
        omega

/-- The rows of the planned files that a query matches are those of all files. -/
theorem matching_planned (bounded : ∀ segment ∈ segments, Bounded segment (files segment.relativePath)) :
    matching files filter afterSequence
        ((segments.filter fun segment => mayMatch segment filter afterSequence).map SegmentRow.relativePath) =
      matching files filter afterSequence (segments.map SegmentRow.relativePath) := by
  have pruned : selected (fun segment : SegmentRow => files segment.relativePath) (selects filter afterSequence)
      (segments.filter fun segment => mayMatch segment filter afterSequence) =
        selected (fun segment : SegmentRow => files segment.relativePath) (selects filter afterSequence) segments :=
    selected_pruned fun segment member dropped => mayMatch_sound (bounded segment member) dropped
  simpa [matching, selected, List.flatMap_map] using pruned

theorem planSegments_ok (own : ∀ segment ∈ segments, segment.sessionId = filter.sessionId)
    (valid : ∀ cursor ∈ afterSequence, 0 ≤ cursor) : planSegments segments filter afterSequence = .ok
      ⟨filter.sessionId, segments.length,
        (segments.filter fun segment => mayMatch segment filter afterSequence).length,
        (segments.filter fun segment => mayMatch segment filter afterSequence).map SegmentRow.relativePath⟩ := by
  have cursor : ¬ (afterSequence.any fun cursor => decide (cursor < 0)) = true := by
    intro negative
    obtain ⟨cursor, given, below⟩ : ∃ cursor, afterSequence = some cursor ∧ cursor < 0 := by
      simpa [Option.any_eq_true] using negative
    have nonneg := valid cursor given
    omega
  have session : ¬ (segments.any fun segment => decide (segment.sessionId ≠ filter.sessionId)) = true := by
    intro foreign
    obtain ⟨segment, member, other⟩ := List.any_eq_true.mp foreign
    exact of_decide_eq_true other (own segment member)
  rw [planSegments, if_neg cursor, if_neg session]

/-- Scanning the planned segments answers as scanning all of them does, and what is left out matches nothing. -/
theorem planSegments_answers (own : ∀ segment ∈ segments, segment.sessionId = filter.sessionId)
    (valid : ∀ cursor ∈ afterSequence, 0 ≤ cursor)
    (bounded : ∀ segment ∈ segments, Bounded segment (files segment.relativePath)) :
    ∃ plan, planSegments segments filter afterSequence = .ok plan ∧
      matching files filter afterSequence plan.relativePaths =
        matching files filter afterSequence (segments.map SegmentRow.relativePath) ∧
      (∀ limit result, QueryEngine.QueryFrames files plan.relativePaths filter afterSequence limit result ↔
        QueryEngine.QueryFrames files (segments.map SegmentRow.relativePath) filter afterSequence limit result) ∧
      summaryOf filter.sessionId (matching files filter afterSequence plan.relativePaths) =
        summaryOf filter.sessionId (matching files filter afterSequence (segments.map SegmentRow.relativePath)) ∧
      (∀ topN result, CountsOf topN (matching files filter afterSequence plan.relativePaths) result ↔
        CountsOf topN (matching files filter afterSequence (segments.map SegmentRow.relativePath)) result) ∧
      (afterSequence = none →
        QueryEngine.summarize files plan.relativePaths filter =
          QueryEngine.summarize files (segments.map SegmentRow.relativePath) filter ∧
        ∀ topN result, QueryEngine.CountByArbitrationId files plan.relativePaths filter topN result ↔
          QueryEngine.CountByArbitrationId files (segments.map SegmentRow.relativePath) filter topN result) ∧
      ∀ segment ∈ segments, segment.relativePath ∉ plan.relativePaths →
        ∀ row ∈ files segment.relativePath, selects filter afterSequence row = false := by
  have same : matching files filter afterSequence
      ((segments.filter fun segment => mayMatch segment filter afterSequence).map SegmentRow.relativePath) =
        matching files filter afterSequence (segments.map SegmentRow.relativePath) := matching_planned bounded
  refine ⟨_, planSegments_ok own valid, same, ?_, ?_, ?_, ?_, ?_⟩
  · intro limit result
    rw [queryFrames_matching, queryFrames_matching, same]
  · rw [same]
  · intro topN result
    rw [same]
  · rintro rfl
    refine ⟨?_, ?_⟩
    · rw [summarize_matching, summarize_matching, same]
    · intro topN result
      rw [countByArbitrationId_matching, countByArbitrationId_matching, same]
  · intro segment member dropped
    refine mayMatch_sound (bounded segment member) ?_
    rw [Bool.eq_false_iff]
    intro kept
    exact dropped (List.mem_map_of_mem (List.mem_filter.mpr ⟨member, kept⟩))

end Pruning

section Sample

def sampleSession : Uuid := ⟨"5e55", by decide⟩

/-- A segment of one frame of the sample session. -/
def sampleSegment (segmentIndex : Nat) (relativePath : String) (sequence : Nat) : SegmentRow :=
  ⟨⟨"5e9", by decide⟩, sampleSession, segmentIndex, relativePath, 1, sequence, sequence, 0, 0, 64, 0⟩

def sampleRow (sequence : Nat) : FrameRow where
  sequence := some sequence
  channelId := some (text "can0")
  arbitrationId := some 0x100
  isExtended := some false
  isFd := some false
  bitrateSwitch := some false
  errorStateIndicator := some false
  dlc := some 0
  data := some []
  direction := some (text "rx")
  hardwareTimestamp := none
  hostTimestamp := some (.finite 1)
  normalizedTimestamp := some (.finite 1)
  clockDomain := some (text "host")
  timestampQuality := some (text "host")
  flags := some 0

private theorem sampleRow_bounded (segmentIndex : Nat) (relativePath : String) (sequence : Nat) :
    Bounded (sampleSegment segmentIndex relativePath sequence) [sampleRow sequence] := by
  refine ⟨?_, ⟨_, List.mem_singleton_self _, rfl⟩, ⟨_, List.mem_singleton_self _, rfl⟩⟩
  intro row member
  obtain rfl := List.mem_singleton.mp member
  exact ⟨sequence, rfl, Nat.le_refl _, Nat.le_refl _⟩

/-- Sequences from 5 on. -/
def sampleFilter : FrameFilter :=
  { FrameFilter.ofSession sampleSession with
    sequenceStart := some 5
    sequence_range := by simp [FrameFilter.ofSession] }

def sampleSegments : List SegmentRow := [sampleSegment 0 "early" 4, sampleSegment 1 "late" 5]

def sampleFiles (path : String) : List FrameRow := if path = "early" then [sampleRow 4] else [sampleRow 5]

theorem planSegments_answers_sample : ∃ plan, planSegments sampleSegments sampleFilter none = .ok plan ∧
    plan.relativePaths = ["late"] ∧ QueryEngine.summarize sampleFiles plan.relativePaths sampleFilter =
      QueryEngine.summarize sampleFiles ["early", "late"] sampleFilter ∧
    ∀ row ∈ sampleFiles "early", selects sampleFilter none row = false := by
  have own : ∀ segment ∈ sampleSegments, segment.sessionId = sampleFilter.sessionId := by
    simp [sampleSegments, sampleSegment, sampleFilter, FrameFilter.ofSession]
  have bounded : ∀ segment ∈ sampleSegments, Bounded segment (sampleFiles segment.relativePath) := by
    simp only [sampleSegments, List.forall_mem_cons, List.not_mem_nil, false_implies, implies_true, and_true]
    exact ⟨sampleRow_bounded 0 "early" 4, sampleRow_bounded 1 "late" 5⟩
  have valid : ∀ cursor ∈ (none : Option Int), 0 ≤ cursor := by simp
  obtain ⟨plan, planned, -, -, -, -, answers, dropped⟩ := planSegments_answers own valid bounded
  have paths : plan.relativePaths = ["late"] := by
    have evaluated : (planSegments sampleSegments sampleFilter none).map QueryPlan.relativePaths = .ok ["late"] := by
      decide +kernel
    rw [planned] at evaluated
    exact Except.ok.inj evaluated
  refine ⟨plan, planned, paths, (answers rfl).1, ?_⟩
  exact dropped (sampleSegment 0 "early" 4) List.mem_cons_self (by rw [paths]; decide)

end Sample

end CanX.Query
