import CanX.Data.Columns
import CanX.Data.Model
import CanX.Transport.RoundTrip

/-! Which frames a query asks for, clause by clause, and what a clause makes of a stored row: a null passes no
comparison. -/

namespace CanX.Query

open Dbc Domain Data Transport

def maxQueryRows : Nat := 10000

def maxArbitrationId : Nat := 0x1FFFFFFF

/-- The checks of `FrameFilter` are fields. -/
structure FrameFilter where
  sessionId : Uuid
  sequenceStart : Option Nat
  sequenceEnd : Option Nat
  normalizedTimestampStart : Option PyNumber
  normalizedTimestampEnd : Option PyNumber
  channelIds : Option (List Text)
  arbitrationIds : Option (List Nat)
  directions : Option (List Direction)
  isExtended : Option Bool
  isFd : Option Bool
  arbitrationIdStart : Option Nat
  arbitrationIdEnd : Option Nat
  arbitrationIdMask : Option Nat
  arbitrationIdMaskValue : Option Nat
  sequence_range : ∀ first ∈ sequenceStart, ∀ last ∈ sequenceEnd, first ≤ last
  start_seconds : ∀ stamp ∈ normalizedTimestampStart, stamp.Seconds
  end_seconds : ∀ stamp ∈ normalizedTimestampEnd, stamp.Seconds
  timestamp_range : ∀ first ∈ normalizedTimestampStart, ∀ last ∈ normalizedTimestampEnd, first.value ≤ last.value
  channels_given : channelIds ≠ some []
  ids_given : arbitrationIds ≠ some []
  ids_range : ∀ ids ∈ arbitrationIds, ∀ id ∈ ids, id ≤ maxArbitrationId
  directions_given : directions ≠ some []
  bounds_range : ∀ bound ∈ [arbitrationIdStart, arbitrationIdEnd, arbitrationIdMask, arbitrationIdMaskValue],
    ∀ id ∈ bound, id ≤ maxArbitrationId
  id_range : ∀ first ∈ arbitrationIdStart, ∀ last ∈ arbitrationIdEnd, first ≤ last
  mask_pair : arbitrationIdMask.isSome = arbitrationIdMaskValue.isSome

/-- `arbitration_id_mask_target`. -/
def FrameFilter.arbitrationIdMaskTarget (filter : FrameFilter) : Option Nat :=
  match filter.arbitrationIdMask, filter.arbitrationIdMaskValue with
  | some mask, some value => some (value &&& mask)
  | _, _ => none

/-- The filter that names only its session. -/
def FrameFilter.ofSession (sessionId : Uuid) : FrameFilter where
  sessionId
  sequenceStart := none
  sequenceEnd := none
  normalizedTimestampStart := none
  normalizedTimestampEnd := none
  channelIds := none
  arbitrationIds := none
  directions := none
  isExtended := none
  isFd := none
  arbitrationIdStart := none
  arbitrationIdEnd := none
  arbitrationIdMask := none
  arbitrationIdMaskValue := none
  sequence_range := by simp
  start_seconds := by simp
  end_seconds := by simp
  timestamp_range := by simp
  channels_given := by simp
  ids_given := by simp
  ids_range := by simp
  directions_given := by simp
  bounds_range := by simp
  id_range := by simp
  mask_pair := rfl

structure FrameQuery where
  filter : FrameFilter
  afterSequence : Option Nat
  limit : Nat
  limit_positive : 0 < limit
  limit_bounded : limit ≤ maxQueryRows

section Clauses

/-- A condition of a `WHERE`, with the values bound to it. -/
inductive Clause where
  | sequenceAtLeast (bound : Nat)
  | sequenceAtMost (bound : Nat)
  | timestampAtLeast (bound : Rat)
  | timestampAtMost (bound : Rat)
  | channelIn (channelIds : List Text)
  | arbitrationIn (arbitrationIds : List Nat)
  | arbitrationAtLeast (bound : Nat)
  | arbitrationAtMost (bound : Nat)
  | arbitrationMasked (mask target : Nat)
  | directionIn (values : List Text)
  | extendedIs (value : Bool)
  | fdIs (value : Bool)
  | sequenceAfter (cursor : Int)
  deriving DecidableEq

def Clause.holds : Clause → FrameRow → Bool
  | sequenceAtLeast bound, row => row.sequence.any fun sequence => bound ≤ sequence
  | sequenceAtMost bound, row => row.sequence.any fun sequence => sequence ≤ bound
  | timestampAtLeast bound, row => row.normalizedTimestamp.any fun stamp => (PyFloat.finite bound).le stamp
  | timestampAtMost bound, row => row.normalizedTimestamp.any fun stamp => stamp.le (.finite bound)
  | channelIn channelIds, row => row.channelId.any fun channelId => channelIds.contains channelId
  | arbitrationIn arbitrationIds, row => row.arbitrationId.any fun id => arbitrationIds.contains id
  | arbitrationAtLeast bound, row => row.arbitrationId.any fun id => bound ≤ id
  | arbitrationAtMost bound, row => row.arbitrationId.any fun id => id ≤ bound
  | arbitrationMasked mask target, row => row.arbitrationId.any fun id => id &&& mask = target
  | directionIn values, row => row.direction.any fun direction => values.contains direction
  | extendedIs value, row => row.isExtended = some value
  | fdIs value, row => row.isFd = some value
  | sequenceAfter cursor, row => row.sequence.any fun sequence : Nat => cursor < sequence

/-- `_frame_predicates`. -/
def framePredicates (filter : FrameFilter) : List Clause :=
  (filter.sequenceStart.map Clause.sequenceAtLeast).toList ++
  (filter.sequenceEnd.map Clause.sequenceAtMost).toList ++
  (filter.normalizedTimestampStart.map fun stamp => Clause.timestampAtLeast stamp.rounded.value).toList ++
  (filter.normalizedTimestampEnd.map fun stamp => Clause.timestampAtMost stamp.rounded.value).toList ++
  (filter.channelIds.map Clause.channelIn).toList ++
  (filter.arbitrationIds.map Clause.arbitrationIn).toList ++
  (filter.arbitrationIdStart.map Clause.arbitrationAtLeast).toList ++
  (filter.arbitrationIdEnd.map Clause.arbitrationAtMost).toList ++
  (match filter.arbitrationIdMask, filter.arbitrationIdMaskTarget with
    | some mask, some target => [Clause.arbitrationMasked mask target]
    | _, _ => []) ++
  (filter.directions.map fun directions =>
    Clause.directionIn (directions.map fun direction => text (directionValue direction))).toList ++
  (filter.isExtended.map Clause.extendedIs).toList ++
  (filter.isFd.map Clause.fdIs).toList

/-- The condition of a statement: the clauses of the filter, and that of the cursor. -/
def selects (filter : FrameFilter) (afterSequence : Option Int) (row : FrameRow) : Bool :=
  (framePredicates filter ++ (afterSequence.map Clause.sequenceAfter).toList).all (·.holds row)

variable {filter : FrameFilter} {afterSequence : Option Int} {row : FrameRow}

theorem selects_iff : selects filter afterSequence row = true ↔
    (∀ clause ∈ framePredicates filter, clause.holds row = true) ∧
      ∀ cursor ∈ afterSequence, (Clause.sequenceAfter cursor).holds row = true := by
  rw [selects, List.all_append, Bool.and_eq_true, List.all_eq_true, List.all_eq_true]
  cases afterSequence <;> simp

theorem sequenceStart_clause {bound : Nat} (given : filter.sequenceStart = some bound) :
    Clause.sequenceAtLeast bound ∈ framePredicates filter := by
  simp [framePredicates, given]

theorem sequenceEnd_clause {bound : Nat} (given : filter.sequenceEnd = some bound) :
    Clause.sequenceAtMost bound ∈ framePredicates filter := by
  simp [framePredicates, given]

end Clauses

end CanX.Query
