import Mathlib.Data.Nat.Notation

/-! The counters that a runtime advances to values it owns. -/

namespace CanX.Runtime

inductive MetricsFault where
  | decreasing
  deriving DecidableEq

def MetricsFault.message : MetricsFault → String
  | decreasing => "counter values must not decrease"

/-- `generated_frames`, `captured_frames` and `dropped_frames`. -/
structure FrameCounts where
  generated : ℕ
  captured : ℕ
  dropped : ℕ
  deriving DecidableEq

namespace FrameCounts

def zero : FrameCounts := ⟨0, 0, 0⟩

def add (first second : FrameCounts) : FrameCounts :=
  ⟨first.generated + second.generated, first.captured + second.captured,
    first.dropped + second.dropped⟩

/-- None of the counts is above its counterpart. -/
structure Within (first second : FrameCounts) : Prop where
  generated : first.generated ≤ second.generated
  captured : first.captured ≤ second.captured
  dropped : first.dropped ≤ second.dropped

instance (first second : FrameCounts) : Decidable (first.Within second) :=
  decidable_of_iff (first.generated ≤ second.generated ∧ first.captured ≤ second.captured ∧
    first.dropped ≤ second.dropped)
    ⟨fun ⟨generated, captured, dropped⟩ => ⟨generated, captured, dropped⟩,
      fun within => ⟨within.generated, within.captured, within.dropped⟩⟩

@[simp] theorem add_zero (counts : FrameCounts) : counts.add zero = counts := rfl

theorem Within.refl (counts : FrameCounts) : counts.Within counts :=
  ⟨Nat.le_refl _, Nat.le_refl _, Nat.le_refl _⟩

theorem Within.trans {first second third : FrameCounts} (below : first.Within second)
    (above : second.Within third) : first.Within third :=
  ⟨Nat.le_trans below.generated above.generated, Nat.le_trans below.captured above.captured,
    Nat.le_trans below.dropped above.dropped⟩

theorem within_add (first second : FrameCounts) : first.Within (first.add second) :=
  ⟨Nat.le_add_right _ _, Nat.le_add_right _ _, Nat.le_add_right _ _⟩

theorem add_assoc (first second third : FrameCounts) :
    (first.add second).add third = first.add (second.add third) := by
  simp [add, Nat.add_assoc]

end FrameCounts

/-- `set_counter` on one counter. -/
def setCounter (value current : ℕ) : Except MetricsFault ℕ :=
  if value < current then .error .decreasing else .ok value

/-- `_sync_capture_counters` up to a counter it cannot advance. -/
def syncCaptureCounters (counts : FrameCounts) (metrics : FrameCounts) :
    FrameCounts × Except MetricsFault Unit :=
  match setCounter counts.generated metrics.generated with
  | .error fault => (metrics, .error fault)
  | .ok generated =>
    match setCounter counts.captured metrics.captured with
    | .error fault => ({ metrics with generated }, .error fault)
    | .ok captured => ({ metrics with generated, captured }, .ok ())

/-- `_sync_subscriber_drops`. -/
def syncSubscriberDrops (counts : FrameCounts) (metrics : FrameCounts) :
    FrameCounts × Except MetricsFault Unit :=
  match setCounter counts.dropped metrics.dropped with
  | .error fault => (metrics, .error fault)
  | .ok dropped => ({ metrics with dropped }, .ok ())

/-- Both, one after the other. -/
def syncCounters (counts : FrameCounts) (metrics : FrameCounts) :
    FrameCounts × Except MetricsFault Unit :=
  match syncCaptureCounters counts metrics with
  | (synced, .error fault) => (synced, .error fault)
  | (synced, .ok ()) => syncSubscriberDrops counts synced

theorem setCounter_ok {value current : ℕ} (below : current ≤ value) :
    setCounter value current = .ok value := by
  unfold setCounter
  rw [if_neg (Nat.not_lt.mpr below)]

/-- Counters that are not ahead are advanced to the counts. -/
theorem syncCounters_within {counts metrics : FrameCounts} (within : metrics.Within counts) :
    syncCounters counts metrics = (counts, .ok ()) := by
  simp [syncCounters, syncCaptureCounters, syncSubscriberDrops, setCounter_ok within.generated,
    setCounter_ok within.captured, setCounter_ok within.dropped]

private theorem setCounter_decreasing {value current : ℕ} (above : ¬current ≤ value) :
    setCounter value current = .error .decreasing := by
  unfold setCounter
  rw [if_pos (Nat.lt_of_not_le above)]

/-- A counter that is ahead of its count is not advanced. -/
theorem syncCounters_ok {counts metrics synced : FrameCounts}
    (told : syncCounters counts metrics = (synced, .ok ())) : metrics.Within counts := by
  by_cases generated : metrics.generated ≤ counts.generated
  · by_cases captured : metrics.captured ≤ counts.captured
    · by_cases dropped : metrics.dropped ≤ counts.dropped
      · exact ⟨generated, captured, dropped⟩
      · simp [syncCounters, syncCaptureCounters, syncSubscriberDrops, setCounter_ok generated,
          setCounter_ok captured, setCounter_decreasing dropped] at told
    · simp [syncCounters, syncCaptureCounters, setCounter_ok generated,
        setCounter_decreasing captured] at told
  · simp [syncCounters, syncCaptureCounters, setCounter_decreasing generated] at told

end CanX.Runtime
