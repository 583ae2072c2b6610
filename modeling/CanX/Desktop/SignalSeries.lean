import CanX.Desktop.DecodeWorkSets
import CanX.Desktop.WorkspaceSession
import CanX.Storage.Sampling

/-! The series of one selected signal: the matching samples of the decoded entries, reduced to a bounded number by an
even stride. -/

namespace CanX.Desktop

open Storage

section Source

structure PlotSample where
  time : JsNumber
  value : JsNumber
  deriving DecidableEq

/-- `Math.round`: the nearest integer, half up. -/
def mathRound (value : JsNumber) : Int := (2 * value.num + Int.ofNat value.den) / (2 * Int.ofNat value.den)

/-- `samples[position]`. -/
def elementAt {Sample : Type} (samples : List Sample) : Int → Option Sample
  | .ofNat position => samples[position]?
  | .negSucc _ => none

def selectedSignalIn (record : DecodedFrameEntry) (selection : SignalSelection) : Option DecodedSignalValue :=
  if record.assetId ≠ selection.assetId then none
  else if record.frame.channelId ≠ selection.channelId then none
  else
    match record.outcome with
    | .failed _ => none
    | .decoded messageName signals =>
      if messageName ≠ selection.messageName then none
      else signals.find? fun signal => signal.name = selection.signalName

def reduceToBound {Sample : Type} (samples : List Sample) (maxSamples : Nat) : List Sample :=
  if samples.length ≤ maxSamples then samples
  else (List.range maxSamples).filterMap fun index =>
    elementAt samples (mathRound (mkRat (Int.ofNat (index * (samples.length - 1))) (maxSamples - 1)))

/-- The samples of the records, in their order. -/
def signalSamples (records : List DecodedFrameEntry) (selection : SignalSelection) : List PlotSample :=
  records.filterMap fun record => (selectedSignalIn record selection).map fun signal =>
    ⟨record.frame.normalizedTimestamp, signal.physicalValue⟩

/-- `buildSignalSeries`, which throws for a bound that is not an integer of at least two. -/
def buildSignalSeries (records : List DecodedFrameEntry) (selection : SignalSelection) (maxSamples : JsNumber) :
    Except String (List PlotSample) :=
  if maxSamples.den ≠ 1 ∨ maxSamples.num < 2 then .error "maxSamples must be an integer of at least 2"
  else .ok (reduceToBound (signalSamples records selection) maxSamples.num.toNat)

end Source

section Matching

variable {record : DecodedFrameEntry} {selection : SignalSelection} {signal : DecodedSignalValue}

/-- Channel, asset, message and signal of a selection are those of a record, whose first signal of that name this is. -/
structure Selects (selection : SignalSelection) (record : DecodedFrameEntry) (signal : DecodedSignalValue) : Prop where
  asset : record.assetId = selection.assetId
  channel : record.frame.channelId = selection.channelId
  message : ∃ signals, record.outcome = .decoded selection.messageName signals ∧
    signals.find? (fun other => other.name = selection.signalName) = some signal

/-- The full list of samples: one for each record that matches, in the order of the records. -/
inductive Sampled (selection : SignalSelection) : List DecodedFrameEntry → List PlotSample → Prop
  | nil : Sampled selection [] []
  | taken {record : DecodedFrameEntry} {signal : DecodedSignalValue} {records : List DecodedFrameEntry}
      {samples : List PlotSample} (selects : Selects selection record signal)
      (rest : Sampled selection records samples) :
      Sampled selection (record :: records) (⟨record.frame.normalizedTimestamp, signal.physicalValue⟩ :: samples)
  | passed {record : DecodedFrameEntry} {records : List DecodedFrameEntry} {samples : List PlotSample}
      (other : ∀ signal, ¬Selects selection record signal) (rest : Sampled selection records samples) :
      Sampled selection (record :: records) samples

private theorem selectedSignalIn_some :
    selectedSignalIn record selection = some signal ↔ Selects selection record signal := by
  rw [selectedSignalIn]
  constructor
  · intro found
    split at found
    · cases found
    · rename_i asset
      split at found
      · cases found
      · rename_i channel
        split at found
        · cases found
        · rename_i messageName signals decoded
          split at found
          · cases found
          · rename_i message
            have named := not_not.mp message
            exact ⟨not_not.mp asset, not_not.mp channel, signals, by rw [decoded, named], found⟩
  · intro selects
    obtain ⟨signals, decoded, found⟩ := selects.message
    rw [if_neg (not_not.mpr selects.asset), if_neg (not_not.mpr selects.channel), decoded]
    exact (if_neg (not_not.mpr rfl)).trans found

theorem signalSamples_sampled (records : List DecodedFrameEntry) (selection : SignalSelection) :
    Sampled selection records (signalSamples records selection) := by
  induction records with
  | nil => exact .nil
  | cons record rest ih =>
    rw [signalSamples, List.filterMap_cons]
    cases found : selectedSignalIn record selection with
    | none =>
      refine .passed ?_ ih
      intro signal selects
      rw [selectedSignalIn_some.mpr selects] at found
      cases found
    | some signal => exact .taken (selectedSignalIn_some.mp found) ih

end Matching

section Reduction

/-- Rounding an exact quotient half up is a division of whole numbers. -/
theorem mathRound_quotient (amount : Nat) {parts : Nat} (positive : 0 < parts) :
    mathRound (mkRat (Int.ofNat amount) parts) = Int.ofNat ((2 * amount + parts) / (2 * parts)) := by
  rcases shape : mkRat (Int.ofNat amount) parts with ⟨numerator, denominator, nonzero, reduced⟩
  obtain ⟨factor, positiveFactor, above, below⟩ := Rat.mkRat_num_den (Nat.ne_of_gt positive) shape
  have scale : (0 : Int) < factor := Int.natCast_pos.mpr (Nat.pos_of_ne_zero positiveFactor)
  have dividend : Int.ofNat (2 * amount + parts) = (2 * numerator + Int.ofNat denominator) * factor := by
    have whole : (amount : Int) = numerator * factor := above
    simp only [Int.ofNat_eq_natCast, below]
    rw [Int.add_mul, Int.mul_assoc, ← whole]
    norm_cast
  have divisor : Int.ofNat (2 * parts) = 2 * Int.ofNat denominator * factor := by
    simp only [Int.ofNat_eq_natCast, below]
    norm_cast
    rw [Nat.mul_assoc]
  have cancelled := Int.mul_ediv_mul_of_pos_left (2 * numerator + Int.ofNat denominator)
    (2 * Int.ofNat denominator) scale
  rw [← dividend, ← divisor] at cancelled
  exact cancelled.symm

theorem reduceToBound_strided {Sample : Type} {samples : List Sample} {maxSamples : Nat} (least : 2 ≤ maxSamples)
    (long : maxSamples < samples.length) : reduceToBound samples maxSamples =
      (stridedAll (samples.length - 1) (maxSamples - 1)).filterMap fun position => samples[position]? := by
  have parts : maxSamples - 1 + 1 = maxSamples := by omega
  rw [reduceToBound, if_neg (Nat.not_le_of_lt long), stridedAll, parts, List.filterMap_map]
  congr 1
  funext index
  rw [mathRound_quotient _ (by omega), elementAt]
  rfl

/-- Where every element has an image, none is left out. -/
theorem filterMap_present {Source Target : Type} {image : Source → Option Target} {sources : List Source}
    (present : ∀ source ∈ sources, (image source).isSome = true) :
    (sources.filterMap image).map some = sources.map image := by
  induction sources with
  | nil => rfl
  | cons source rest ih =>
    obtain ⟨here, there⟩ := List.forall_mem_cons.mp present
    obtain ⟨target, found⟩ := Option.isSome_iff_exists.mp here
    rw [List.filterMap_cons_some found, List.map_cons, List.map_cons, found, ih there]

/-- The positions that a reduction keeps. -/
structure Kept (total bound : Nat) (positions : List Nat) : Prop where
  increasing : positions.Pairwise (· < ·)
  inside : ∀ position ∈ positions, position < total
  count : positions.length = min total bound
  first : 0 < total → positions.head? = some 0
  last : 0 < total → positions.getLast? = some (total - 1)
  even : positions.IsChain fun earlier later => later ≤ earlier + strideBound (total - 1) (bound - 1)

private theorem kept_all {total bound : Nat} (least : 2 ≤ bound) (short : total ≤ bound) :
    Kept total bound (List.range total) where
  increasing := List.pairwise_lt_range
  inside := fun _ => List.mem_range.mp
  count := by rw [List.length_range, Nat.min_eq_left short]
  first := by
    intro some
    obtain ⟨fewer, rfl⟩ := Nat.exists_eq_succ_of_ne_zero (Nat.ne_of_gt some)
    rw [List.range_succ_eq_map, List.head?_cons]
  last := by
    intro some
    obtain ⟨fewer, rfl⟩ := Nat.exists_eq_succ_of_ne_zero (Nat.ne_of_gt some)
    rw [List.range_succ, List.getLast?_concat, Nat.succ_sub_one]
  even := by
    rw [List.isChain_range]
    intro index inside
    have parts : 0 < bound - 1 := by omega
    have reached := last_le_bound (total - 1) parts
    have one : strideBound (total - 1) (bound - 1) ≠ 0 := by
      intro zero
      rw [zero, Nat.mul_zero] at reached
      omega
    omega

private theorem kept_strided {total bound : Nat} (least : 2 ≤ bound) (long : bound < total) :
    Kept total bound (stridedAll (total - 1) (bound - 1)) where
  increasing := stridedAll_pairwise (by omega) (by omega)
  inside := by
    intro position member
    have reached := stridedAll_mem (by omega) (by omega) member
    omega
  count := by
    rw [stridedAll, List.length_map, List.length_range, Nat.min_eq_right (Nat.le_of_lt long)]
    omega
  first := fun _ => stridedAll_first (by omega)
  last := fun _ => stridedAll_last (by omega)
  even := stridedAll_chain (by omega)

private theorem reduceToBound_kept {Sample : Type} (samples : List Sample) {maxSamples : Nat} (least : 2 ≤ maxSamples) :
    ∃ positions, Kept samples.length maxSamples positions ∧
      (reduceToBound samples maxSamples).map some = positions.map fun position => samples[position]? := by
  by_cases short : samples.length ≤ maxSamples
  · refine ⟨List.range samples.length, kept_all least short, ?_⟩
    rw [reduceToBound, if_pos short]
    refine List.ext_getElem? ?_
    intro index
    rw [List.getElem?_map, List.getElem?_map]
    by_cases inside : index < samples.length
    · rw [List.getElem?_range inside, Option.map_some, List.getElem?_eq_getElem inside, Option.map_some]
    · have outside := Nat.le_of_not_lt inside
      have beyond : (List.range samples.length)[index]? = none :=
        List.getElem?_eq_none (by rw [List.length_range]; exact outside)
      rw [beyond, List.getElem?_eq_none outside, Option.map_none, Option.map_none]
  · have long := Nat.lt_of_not_le short
    have kept := kept_strided least long
    refine ⟨_, kept, ?_⟩
    rw [reduceToBound_strided least long]
    refine filterMap_present ?_
    intro position member
    rw [List.getElem?_eq_getElem (kept.inside position member)]
    rfl

/-- The middle of six elements is half way between two of them, and is rounded up. -/
example : reduceToBound [0, 1, 2, 3, 4, 5] 3 = [0, 3, 5] := by decide +kernel

/-- A series is an even sample of all that match: the first and the last one are in it, and no step leaves out more
than the stride asks for. -/
theorem buildSignalSeries_sampled (records : List DecodedFrameEntry) (selection : SignalSelection)
    (maxSamples : JsNumber) (integral : maxSamples.den = 1) (least : 2 ≤ maxSamples.num) :
    ∃ samples positions series, Sampled selection records samples ∧
      Kept samples.length maxSamples.num.toNat positions ∧
      buildSignalSeries records selection maxSamples = .ok series ∧
      series.map some = positions.map fun position => samples[position]? := by
  have accepted : ¬(maxSamples.den ≠ 1 ∨ maxSamples.num < 2) := by omega
  obtain ⟨positions, kept, taken⟩ := reduceToBound_kept (signalSamples records selection)
    (show 2 ≤ maxSamples.num.toNat by omega)
  refine ⟨signalSamples records selection, positions, _, signalSamples_sampled records selection, kept, ?_, taken⟩
  rw [buildSignalSeries, if_neg accepted]

end Reduction

section Sample

def plottedEntry (sequence : Nat) : DecodedFrameEntry :=
  ⟨viewportFrame "can0" sequence, "asset", .decoded "Engine" [⟨"Rpm", 7, 7, none, none⟩]⟩

theorem buildSignalSeries_sampled_five : ∃ samples positions series,
    Sampled ⟨"can0", "asset", "Engine", "Rpm", none⟩ ((List.range 5).map plottedEntry) samples ∧
      Kept samples.length 3 positions ∧
      buildSignalSeries ((List.range 5).map plottedEntry) ⟨"can0", "asset", "Engine", "Rpm", none⟩ 3 = .ok series ∧
      series.map some = positions.map fun position => samples[position]? :=
  buildSignalSeries_sampled _ _ 3 rfl (by decide)

end Sample

end CanX.Desktop
