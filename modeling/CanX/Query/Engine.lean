import CanX.Query.Filter
import CanX.Storage.Selection

/-! The query engine over the rows of the files it is handed. DuckDB filters, orders and limits; where an order
ties, which of the tied rows comes first is left open. -/

namespace CanX.Query

open Dbc Domain Data Transport Storage

section Errors

inductive QueryErrorKind where
  | validation
  | session
  | dataUnavailable
  | integrity
  | execution
  deriving DecidableEq

structure QueryError where
  kind : QueryErrorKind
  code : String
  message : String
  deriving DecidableEq

/-- What a query raises: a typed error, or what no handler translates. -/
inductive QueryFault where
  | typed (error : QueryError)
  | untyped
  deriving DecidableEq

def frameInvalid : QueryFault :=
  .typed ⟨.integrity, "query.frame_invalid", "A stored frame row does not describe a valid canonical frame."⟩

def countInvalid : QueryFault :=
  .typed ⟨.integrity, "query.frame_invalid", "A stored arbitration-id count does not describe a valid row."⟩

def arbitrationIdInvalid : QueryFault :=
  .typed ⟨.validation, "query.invalid_arbitration_id", "arbitration_id is out of range."⟩

end Errors

section Results

structure FrameQueryPage where
  sessionId : Uuid
  frames : List PyFrame
  hasMore : Bool
  nextAfterSequence : Option Nat

structure FrameQuerySummary where
  sessionId : Uuid
  matchingFrameCount : Nat
  firstSequence : Option Nat
  lastSequence : Option Nat
  firstNormalizedTimestamp : Option PyFloat
  lastNormalizedTimestamp : Option PyFloat
  deriving DecidableEq

structure ArbitrationIdCount where
  arbitrationId : Nat
  isExtended : Bool
  frameCount : Nat
  deriving DecidableEq

def emptyPage (sessionId : Uuid) : FrameQueryPage := ⟨sessionId, [], false, none⟩

def emptySummary (sessionId : Uuid) : FrameQuerySummary := ⟨sessionId, 0, none, none, none, none⟩

end Results

section Rows

/-- `str(value)`: a null becomes the text `None`. -/
def strOf (value : Option Text) : Text := value.getD (text "None")

/-- `bool(value)`: a null becomes `False`. -/
def boolOf (value : Option Bool) : Bool := value.getD false

/-- `int(value)`, `bytes(value)` or `float(value)`, which refuse a null. -/
def required {Value : Type} (fault : QueryFault) : Option Value → Except QueryFault Value
  | some value => .ok value
  | none => .error fault

/-- A float that is not finite is refused by `Frame`. -/
def finiteOf : PyFloat → Except QueryFault PyNumber
  | .finite value => .ok (.float value)
  | _ => .error frameInvalid

/-- A handler turns whatever the constructors raise into one error. -/
def reading {Value : Type} : Read Value → Except QueryFault Value
  | .ok value => .ok value
  | .error _ => .error frameInvalid

/-- `_row_to_frame`. -/
def rowToFrame (row : FrameRow) : Except QueryFault PyFrame := do
  let sequence ← required frameInvalid row.sequence
  let arbitrationId ← required frameInvalid row.arbitrationId
  let dlc ← required frameInvalid row.dlc
  let data ← required frameInvalid row.data
  let direction ← reading (directionOf (strOf row.direction))
  let hardwareTimestamp ← row.hardwareTimestamp.mapM finiteOf
  let hostTimestamp ← finiteOf (← required frameInvalid row.hostTimestamp)
  let normalizedTimestamp ← finiteOf (← required frameInvalid row.normalizedTimestamp)
  let timestampQuality ← reading (qualityOf (strOf row.timestampQuality))
  let flags ← required frameInvalid row.flags
  reading (FrameFields.create
    { sequence, channelId := strOf row.channelId, arbitrationId, isExtended := boolOf row.isExtended
      isFd := boolOf row.isFd, bitrateSwitch := boolOf row.bitrateSwitch
      errorStateIndicator := boolOf row.errorStateIndicator, dlc, data, direction, hardwareTimestamp, hostTimestamp
      normalizedTimestamp, clockDomain := strOf row.clockDomain, timestampQuality, flags })

/-- `_row_to_arbitration_count`. -/
def rowToArbitrationCount (group : (Option Nat × Option Bool) × Nat) : Except QueryFault ArbitrationIdCount := do
  let arbitrationId ← required countInvalid group.1.1
  if maxArbitrationId < arbitrationId then .error arbitrationIdInvalid
  else .ok ⟨arbitrationId, boolOf group.1.2, group.2⟩

end Rows

section Statements

/-- The contents of the segment files, by path. -/
abbrev Files := String → List FrameRow

/-- `ORDER BY sequence ASC`, nulls last. -/
def sequenceOrder (first second : FrameRow) : Bool :=
  match first.sequence, second.sequence with
  | some earlier, some later => earlier ≤ later
  | none, some _ => false
  | _, none => true

/-- `ORDER BY frame_count DESC, arbitration_id ASC`, nulls last. -/
def countOrder (first second : (Option Nat × Option Bool) × Nat) : Bool :=
  if first.2 = second.2 then
    match first.1.1, second.1.1 with
    | some lower, some upper => lower ≤ upper
    | none, some _ => false
    | _, none => true
  else second.2 < first.2

/-- The page made of the rows fetched. -/
def pageOf (sessionId : Uuid) (limit : Nat) (rows : List FrameRow) : Except QueryFault FrameQueryPage := do
  let hasMore := decide (limit < rows.length)
  let frames ← (if hasMore then rows.take limit else rows).mapM rowToFrame
  return ⟨sessionId, frames, hasMore, if hasMore then frames.getLast?.map PyFrame.sequence else none⟩

/-- `min` or `max` of a column, over its values that are not null. -/
def extreme {Value : Type} (better : Value → Value → Bool) (values : List Value) : Option Value :=
  values.foldl (fun best value => match best with
    | none => some value
    | some held => if better held value then some held else some value) none

/-- The summary of the rows matched. -/
def summaryOf (sessionId : Uuid) (rows : List FrameRow) : Except QueryFault FrameQuerySummary := do
  if rows.length = 0 then .ok (emptySummary sessionId)
  else
    let sequences := rows.filterMap FrameRow.sequence
    let stamps := rows.filterMap FrameRow.normalizedTimestamp
    let firstSequence ← required .untyped (extreme (fun held value => held ≤ value) sequences)
    let lastSequence ← required .untyped (extreme (fun held value => value ≤ held) sequences)
    let firstTimestamp ← required .untyped (extreme PyFloat.le stamps)
    let lastTimestamp ← required .untyped (extreme (fun held value => value.le held) stamps)
    return ⟨sessionId, rows.length, some firstSequence, some lastSequence, some firstTimestamp, some lastTimestamp⟩

/-- The histograms that the rows matched allow. -/
def CountsOf (topN : Nat) (rows : List FrameRow) (result : Except QueryFault (List ArbitrationIdCount)) : Prop :=
  ∃ groups, Ordered countOrder (grouped (rows.map fun row => (row.arbitrationId, row.isExtended))) groups ∧
    result = (groups.take topN).mapM rowToArbitrationCount

/-- The rows of the files that a statement matches. -/
def matching (files : Files) (filter : FrameFilter) (afterSequence : Option Int) (paths : List String) :
    List FrameRow :=
  selected files (selects filter afterSequence) paths

namespace QueryEngine

def QueryFrames (files : Files) (paths : List String) (filter : FrameFilter) (afterSequence : Option Int)
    (limit : Nat) (result : Except QueryFault FrameQueryPage) : Prop :=
  if paths = [] then result = .ok (emptyPage filter.sessionId)
  else ∃ rows, Ordered sequenceOrder (matching files filter afterSequence paths) rows ∧
    result = pageOf filter.sessionId limit (rows.take (limit + 1))

def summarize (files : Files) (paths : List String) (filter : FrameFilter) : Except QueryFault FrameQuerySummary :=
  if paths = [] then .ok (emptySummary filter.sessionId)
  else summaryOf filter.sessionId (matching files filter none paths)

def CountByArbitrationId (files : Files) (paths : List String) (filter : FrameFilter) (topN : Nat)
    (result : Except QueryFault (List ArbitrationIdCount)) : Prop :=
  if paths = [] then result = .ok [] else CountsOf topN (matching files filter none paths) result

end QueryEngine

end Statements

section Empty

variable {files : Files} {filter : FrameFilter} {afterSequence : Option Int} {paths : List String} {limit topN : Nat}

/-- Without a path the engine answers as it does for rows that match nothing. -/
theorem queryFrames_matching {result : Except QueryFault FrameQueryPage} :
    QueryEngine.QueryFrames files paths filter afterSequence limit result ↔
      ∃ rows, Ordered sequenceOrder (matching files filter afterSequence paths) rows ∧
        result = pageOf filter.sessionId limit (rows.take (limit + 1)) := by
  rw [QueryEngine.QueryFrames]
  by_cases empty : paths = []
  · subst empty
    rw [if_pos rfl, matching, selected_nil]
    simp only [Ordered.nil, exists_eq_left, List.take_nil]
    exact Iff.rfl
  · rw [if_neg empty]

theorem summarize_matching : QueryEngine.summarize files paths filter =
    summaryOf filter.sessionId (matching files filter none paths) := by
  rw [QueryEngine.summarize]
  by_cases empty : paths = []
  · subst empty
    rw [if_pos rfl, matching, selected_nil]
    rfl
  · rw [if_neg empty]

theorem countByArbitrationId_matching {result : Except QueryFault (List ArbitrationIdCount)} :
    QueryEngine.CountByArbitrationId files paths filter topN result ↔
      CountsOf topN (matching files filter none paths) result := by
  rw [QueryEngine.CountByArbitrationId]
  by_cases empty : paths = []
  · subst empty
    rw [if_pos rfl, matching, selected_nil, CountsOf]
    have groups : grouped (([] : List FrameRow).map fun row => (row.arbitrationId, row.isExtended)) = [] := rfl
    simp only [groups, Ordered.nil, exists_eq_left, List.take_nil]
    exact Iff.rfl
  · rw [if_neg empty]

end Empty

end CanX.Query
