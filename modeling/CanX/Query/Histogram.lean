import CanX.Query.Planning
import CanX.Query.StoredFrames
import CanX.Storage.Ranking
import Mathlib.Data.List.Count

/-! The histogram of arbitration identifiers, over every way to distribute and order the frames it counts. -/

namespace CanX.Query

open Dbc Domain Data Transport Storage

section Counts

/-- The files hold the frames, distributed and ordered in some way. -/
def Stored (files : Files) (paths : List String) (frames : List PyFrame) : Prop :=
  (paths.flatMap files).Perm (frames.map FrameRow.ofFrame)

/-- The group keys of the frames that a filter selects. -/
def identities (filter : FrameFilter) (frames : List PyFrame) : List (Nat × Bool) :=
  (frames.filter fun frame => selects filter none (FrameRow.ofFrame frame)).map fun frame =>
    (frame.arbitrationId, frame.isExtended)

/-- How often a key occurs. -/
def tally {Key : Type} [DecidableEq Key] (keys : List Key) (key : Key) : Nat :=
  keys.countP fun other => decide (other = key)

/-- How many group keys have a larger count than one of the given number, or the same count and a smaller number. -/
def ahead (keys : List (Nat × Bool)) (key : Nat × Bool) : Nat :=
  keys.dedup.countP fun other =>
    tally keys key < tally keys other ∨ tally keys other = tally keys key ∧ other.1 < key.1

/-- A number that standard and extended frames bear equally often is counted behind the first rows only. -/
def Distinguished (topN : Nat) (keys : List (Nat × Bool)) : Prop :=
  ∀ id, (id, false) ∈ keys → tally keys (id, false) = tally keys (id, true) → topN ≤ ahead keys (id, false)

/-- The histogram is a function of the frames, however they are stored, and decreases. -/
structure StorageBlind (frames : List PyFrame) (filter : FrameFilter) (topN : Nat) : Prop where
  agrees : ∀ files paths again others first second, Stored files paths frames → Stored again others frames →
    QueryEngine.CountByArbitrationId files paths filter topN first →
    QueryEngine.CountByArbitrationId again others filter topN second → first = second
  decreases : ∀ files paths result, Stored files paths frames →
    QueryEngine.CountByArbitrationId files paths filter topN result →
    ∃ counts, result = .ok counts ∧ counts.Pairwise fun earlier later => later.frameCount ≤ earlier.frameCount

end Counts

section Groups

variable {frames : List PyFrame} {filter : FrameFilter} {topN : Nat} {keys : List (Nat × Bool)}

/-- A group of the statement, whose columns are never null for frames. -/
def group (keyed : (Nat × Bool) × Nat) : (Option Nat × Option Bool) × Nat := ((some keyed.1.1, some keyed.1.2), keyed.2)

def toCount (keyed : (Nat × Bool) × Nat) : ArbitrationIdCount := ⟨keyed.1.1, keyed.1.2, keyed.2⟩

theorem group_injective : Function.Injective group := by
  intro first second same
  simp only [group, Prod.mk.injEq, Option.some.injEq] at same
  exact Prod.ext (Prod.ext same.1.1 same.1.2) same.2

private theorem tally_map {Key Other : Type} [DecidableEq Key] [DecidableEq Other] {keys : List Key} {key : Key}
    {rename : Key → Other} (injective : Function.Injective rename) :
    tally (keys.map rename) (rename key) = tally keys key := by
  rw [tally, List.countP_map, tally]
  refine List.countP_congr ?_
  intro other _
  simp [injective.eq_iff]

theorem grouped_groups : grouped (keys.map fun key => (some key.1, some key.2)) = (grouped keys).map group := by
  have injective : Function.Injective fun key : Nat × Bool => (some key.1, some key.2) := by
    intro first second same
    simp only [Prod.mk.injEq, Option.some.injEq] at same
    exact Prod.ext same.1 same.2
  simp only [grouped, List.dedup_map_of_injective injective, List.map_map]
  refine List.map_congr_left ?_
  intro key _
  exact Prod.ext rfl (tally_map injective)

theorem countOrder_group {first second : (Nat × Bool) × Nat} : countOrder (group first) (group second) = true ↔
    second.2 < first.2 ∨ first.2 = second.2 ∧ first.1.1 ≤ second.1.1 := by
  by_cases same : first.2 = second.2
  · simp [countOrder, group, same]
  · rw [countOrder, if_neg (show ¬ (group first).2 = (group second).2 from same), decide_eq_true_eq]
    exact ⟨Or.inl, fun given => given.resolve_right fun level => same level.1⟩

theorem countOrder_transitive (first second third : (Option Nat × Option Bool) × Nat)
    (early : countOrder first second = true) (late : countOrder second third = true) :
    countOrder first third = true := by
  obtain ⟨⟨firstId, _⟩, firstCount⟩ := first
  obtain ⟨⟨secondId, _⟩, secondCount⟩ := second
  obtain ⟨⟨thirdId, _⟩, thirdCount⟩ := third
  cases firstId <;> cases secondId <;> cases thirdId <;> simp only [countOrder] at early late ⊢ <;> grind

theorem countOrder_total (first second : (Option Nat × Option Bool) × Nat) :
    (countOrder first second || countOrder second first) = true := by
  obtain ⟨⟨firstId, _⟩, firstCount⟩ := first
  obtain ⟨⟨secondId, _⟩, secondCount⟩ := second
  cases firstId <;> cases secondId <;> simp only [countOrder] <;> grind

theorem mem_grouped {keyed : (Nat × Bool) × Nat} :
    keyed ∈ grouped keys ↔ keyed.1 ∈ keys ∧ keyed.2 = tally keys keyed.1 := by
  rw [grouped, List.mem_map]
  constructor
  · rintro ⟨key, member, rfl⟩
    exact ⟨List.mem_dedup.mp member, rfl⟩
  · rintro ⟨member, counted⟩
    exact ⟨keyed.1, List.mem_dedup.mpr member, Prod.ext rfl counted.symm⟩

theorem grouped_nodup : ((grouped keys).map group).Nodup := by
  refine List.Nodup.map group_injective ?_
  refine List.Nodup.map ?_ (List.nodup_dedup keys)
  intro first second same
  exact (Prod.mk.inj same).1

/-- Only the two formats of one number, equally often counted, are left open. -/
theorem tied_groups {first second : (Nat × Bool) × Nat} :
    Tied countOrder (group first) (group second) ↔ first.2 = second.2 ∧ first.1.1 = second.1.1 := by
  rw [Tied, countOrder_group, countOrder_group]
  omega

private theorem rank_groups {key : Nat × Bool} :
    rank countOrder ((grouped keys).map group) (group (key, tally keys key)) = ahead keys key := by
  rw [rank, grouped, List.map_map, List.countP_map, ahead]
  refine List.countP_congr ?_
  intro other _
  have later := @countOrder_group (key, tally keys key) (other, tally keys other)
  have sooner := @countOrder_group (other, tally keys other) (key, tally keys key)
  have strictly : precedes countOrder (group (key, tally keys key)) (group (other, tally keys other)) = true ↔
      tally keys key < tally keys other ∨ tally keys other = tally keys key ∧ other.1 < key.1 := by
    rw [precedes, Bool.and_eq_true, Bool.not_eq_true', ← Bool.not_eq_true, sooner, later]
    simp only
    omega
  rw [decide_eq_true_eq]
  exact strictly

/-- Both formats of a number stand behind the same keys when they are counted equally often. -/
theorem ahead_format {id : Nat} (equal : tally keys (id, false) = tally keys (id, true)) :
    ahead keys (id, true) = ahead keys (id, false) := by
  simp only [ahead, equal]

theorem settled_distinguished : Settled countOrder topN ((grouped keys).map group) ↔ Distinguished topN keys := by
  constructor
  · intro settled id member equal
    have other : (id, true) ∈ keys := by
      have some_ : 0 < tally keys (id, true) := by
        rw [← equal]
        exact List.countP_pos_iff.mpr ⟨_, member, decide_eq_true rfl⟩
      obtain ⟨found, inside, same⟩ := List.countP_pos_iff.mp some_
      exact of_decide_eq_true same ▸ inside
    have here : ((id, false), tally keys (id, false)) ∈ grouped keys := mem_grouped.mpr ⟨member, rfl⟩
    have there : ((id, true), tally keys (id, true)) ∈ grouped keys := mem_grouped.mpr ⟨other, rfl⟩
    have far := settled _ (List.mem_map_of_mem here) _ (List.mem_map_of_mem there) (by simp [group])
      (tied_groups.mpr ⟨equal, rfl⟩)
    rwa [rank_groups] at far
  · intro distinguished row held other otherHeld different tied
    obtain ⟨⟨⟨id, format⟩, count⟩, member, rfl⟩ := List.mem_map.mp held
    obtain ⟨⟨⟨otherId, otherFormat⟩, otherCount⟩, otherMember, rfl⟩ := List.mem_map.mp otherHeld
    obtain ⟨inKeys, counted⟩ := mem_grouped.mp member
    obtain ⟨otherInKeys, otherCounted⟩ := mem_grouped.mp otherMember
    obtain ⟨equal, same⟩ := tied_groups.mp tied
    simp only at inKeys counted otherInKeys otherCounted equal same
    subst counted otherCounted same
    rw [rank_groups]
    cases format with
    | false =>
      cases otherFormat with
      | false => exact absurd rfl different
      | true => exact distinguished id inKeys equal
    | true =>
      cases otherFormat with
      | false =>
        rw [ahead_format equal.symm]
        exact distinguished id otherInKeys equal.symm
      | true => exact absurd rfl different

end Groups

section Results

variable {frames : List PyFrame} {filter : FrameFilter} {topN : Nat} {files : Files} {paths : List String}
variable {result : Except QueryFault (List ArbitrationIdCount)}

private theorem identities_range {key : Nat × Bool} (member : key ∈ identities filter frames) :
    key.1 ≤ maxArbitrationId := by
  obtain ⟨frame, _, rfl⟩ := List.mem_map.mp member
  have range := frame.arbitration_range
  have wide : maxArbitrationId = 0x1FFFFFFF := rfl
  split at range <;> simp only <;> omega

/-- The rows that a statement matches are those of the frames that the filter selects. -/
theorem matching_identities (stored : Stored files paths frames) :
    ((matching files filter none paths).map fun row => (row.arbitrationId, row.isExtended)).Perm
      ((identities filter frames).map fun key => (some key.1, some key.2)) := by
  have rows : (matching files filter none paths).Perm
      ((frames.map FrameRow.ofFrame).filter (selects filter none)) := stored.filter _
  have keyed := rows.map fun row => (row.arbitrationId, row.isExtended)
  rw [List.filter_map, List.map_map] at keyed
  rw [identities, List.map_map]
  exact keyed

private theorem grouped_perm {Group : Type} [DecidableEq Group] {first second : List Group} (same : first.Perm second) :
    (grouped first).Perm (grouped second) := by
  have counts : (second.dedup.map fun group => (group, first.count group)) = grouped second := by
    refine List.map_congr_left ?_
    intro group _
    rw [same.count_eq]
  rw [← counts]
  exact same.dedup.map _

/-- Every group is counted without an error. -/
theorem rowToArbitrationCount_group {keyed : (Nat × Bool) × Nat} (range : keyed.1.1 ≤ maxArbitrationId) :
    rowToArbitrationCount (group keyed) = .ok (toCount keyed) := by
  have within : ¬ maxArbitrationId < keyed.1.1 := Nat.not_lt.mpr range
  simp [rowToArbitrationCount, group, required, within, boolOf, toCount, bind, Except.bind]

/-- The group that a count is read from. -/
def ungroup (count : ArbitrationIdCount) : (Option Nat × Option Bool) × Nat :=
  group ((count.arbitrationId, count.isExtended), count.frameCount)

theorem ungroup_injective : Function.Injective ungroup := by
  intro first second same
  simp only [ungroup, group, Prod.mk.injEq, Option.some.injEq] at same
  obtain ⟨⟨id, format⟩, count⟩ := same
  cases first
  cases second
  simp only at id format count
  rw [id, format, count]

/-- The groups of an answer are read as counts without an error. -/
theorem groups_read {rows : List ((Option Nat × Option Bool) × Nat)}
    (held : ∀ row ∈ rows, row ∈ (grouped (identities filter frames)).map group) :
    ∃ counts, rows.mapM rowToArbitrationCount = .ok counts ∧ counts.map ungroup = rows := by
  induction rows with
  | nil => exact ⟨[], rfl, rfl⟩
  | cons row rest ih =>
    obtain ⟨here, there⟩ := List.forall_mem_cons.mp held
    obtain ⟨counts, mapped, restored⟩ := ih there
    obtain ⟨keyed, member, rfl⟩ := List.mem_map.mp here
    have range := identities_range (mem_grouped.mp member).1
    refine ⟨toCount keyed :: counts, ?_, ?_⟩
    · rw [List.mapM_cons, rowToArbitrationCount_group range, mapped]
      rfl
    · rw [List.map_cons, restored]
      rfl

/-- What the histogram answers: the first groups of some ordered answer. -/
theorem counts_stored (stored : Stored files paths frames) :
    QueryEngine.CountByArbitrationId files paths filter topN result ↔
      ∃ groups, Ordered countOrder ((grouped (identities filter frames)).map group) groups ∧
        ∃ counts, result = .ok counts ∧ counts.map ungroup = groups.take topN := by
  have rows : ((matching files filter none paths).map fun row => (row.arbitrationId, row.isExtended)).Perm
      ((identities filter frames).map fun key => (some key.1, some key.2)) := matching_identities stored
  have same := grouped_perm rows
  rw [grouped_groups] at same
  rw [countByArbitrationId_matching, CountsOf]
  refine exists_congr fun groups => ?_
  rw [Ordered.of_perm same]
  refine and_congr_right fun ordered => ?_
  have held : ∀ row ∈ groups.take topN, row ∈ (grouped (identities filter frames)).map group :=
    fun row member => ordered.1.mem_iff.mp (List.mem_of_mem_take member)
  obtain ⟨counts, mapped, restored⟩ := groups_read held
  rw [mapped]
  constructor
  · intro given
    exact ⟨counts, given, restored⟩
  · rintro ⟨others, rfl, again⟩
    rw [List.map_injective_iff.mpr ungroup_injective (again.trans restored.symm)]

/-- Storing the frames in one file. -/
theorem stored_single : Stored (fun _ => frames.map FrameRow.ofFrame) ["segment"] frames := by
  rw [Stored, List.flatMap_singleton]

/-- Two storages of the frames agree on the histogram exactly if no tie reaches into it. -/
theorem histograms_agree : (∀ files paths again others first second, Stored files paths frames →
      Stored again others frames → QueryEngine.CountByArbitrationId files paths filter topN first →
      QueryEngine.CountByArbitrationId again others filter topN second → first = second) ↔
    Distinguished topN (identities filter frames) := by
  rw [← settled_distinguished, settled_iff countOrder_transitive countOrder_total grouped_nodup]
  constructor
  · intro agrees first second ordered again
    have answer : ∀ groups, Ordered countOrder ((grouped (identities filter frames)).map group) groups →
        ∃ counts, counts.map ungroup = groups.take topN ∧
          QueryEngine.CountByArbitrationId (fun _ => frames.map FrameRow.ofFrame) ["segment"] filter topN
            (.ok counts) := by
      intro groups sorted
      have held : ∀ row ∈ groups.take topN, row ∈ (grouped (identities filter frames)).map group :=
        fun row member => sorted.1.mem_iff.mp (List.mem_of_mem_take member)
      obtain ⟨counts, _, restored⟩ := groups_read held
      exact ⟨counts, restored, (counts_stored stored_single).mpr ⟨groups, sorted, counts, rfl, restored⟩⟩
    obtain ⟨counts, restored, answered⟩ := answer first ordered
    obtain ⟨others, otherRestored, otherAnswered⟩ := answer second again
    have same := agrees _ _ _ _ _ _ stored_single stored_single answered otherAnswered
    rw [← restored, ← otherRestored, Except.ok.inj same]
  · intro same files paths again others first second stored restored answered otherAnswered
    obtain ⟨groups, ordered, counts, rfl, taken⟩ := (counts_stored stored).mp answered
    obtain ⟨otherGroups, otherOrdered, otherCounts, rfl, otherTaken⟩ := (counts_stored restored).mp otherAnswered
    have equal := same groups otherGroups ordered otherOrdered
    rw [← taken, ← otherTaken] at equal
    rw [List.map_injective_iff.mpr ungroup_injective equal]

/-- A histogram falls, whatever the order left open. -/
theorem histogram_decreases (stored : Stored files paths frames)
    (answered : QueryEngine.CountByArbitrationId files paths filter topN result) :
    ∃ counts, result = .ok counts ∧ counts.Pairwise fun earlier later => later.frameCount ≤ earlier.frameCount := by
  obtain ⟨groups, ordered, counts, rfl, taken⟩ := (counts_stored stored).mp answered
  refine ⟨counts, rfl, ?_⟩
  have sorted := ordered.2.sublist (List.take_sublist topN groups)
  rw [← taken, List.pairwise_map] at sorted
  refine sorted.imp ?_
  intro earlier later before
  rcases countOrder_group.mp before with larger | ⟨equal, _⟩
  · exact Nat.le_of_lt larger
  · exact Nat.le_of_eq equal.symm

/-- The histogram does not depend on storage exactly if no number that both formats bear equally often reaches into
the rows returned. -/
theorem histogram_storageBlind (frames : List PyFrame) (filter : FrameFilter) (topN : Nat) :
    StorageBlind frames filter topN ↔ Distinguished topN (identities filter frames) := by
  constructor
  · intro blind
    exact histograms_agree.mp blind.agrees
  · intro distinguished
    refine ⟨histograms_agree.mpr distinguished, ?_⟩
    intro files paths result stored answered
    exact histogram_decreases stored answered

end Results

section Sample

theorem three_word : 3 ≤ 0xFFFFFFFFFFFFFFFF := by decide

theorem format_range (isExtended : Bool) : 1 ≤ if isExtended then 0x1FFFFFFF else 0x7FF := by
  cases isExtended <;> decide

/-- A frame with identifier 1 in one of the two formats. -/
def formatFrame (isExtended : Bool) : PyFrame :=
  { Transport.sampleFrame 3 three_word with
    isExtended
    arbitration_range := format_range isExtended }

def formatFrames : List PyFrame := [formatFrame false, formatFrame true]

/-- One standard and one extended frame with the same number, and a limit of one row: either may be the row. -/
theorem formatFrames_open : (∀ isExtended, QueryEngine.CountByArbitrationId
      (fun _ => formatFrames.map FrameRow.ofFrame) ["segment"] (FrameFilter.ofSession Query.sampleSession) 1
      (.ok [⟨1, isExtended, 1⟩])) ∧ ¬ StorageBlind formatFrames (FrameFilter.ofSession Query.sampleSession) 1 := by
  have keys : identities (FrameFilter.ofSession Query.sampleSession) formatFrames = [(1, false), (1, true)] := by
    decide +kernel
  have answers : ∀ isExtended, QueryEngine.CountByArbitrationId (fun _ => formatFrames.map FrameRow.ofFrame)
      ["segment"] (FrameFilter.ofSession Query.sampleSession) 1 (.ok [⟨1, isExtended, 1⟩]) := by
    intro isExtended
    refine (counts_stored stored_single).mpr
      ⟨[group ((1, isExtended), 1), group ((1, !isExtended), 1)], ?_, _, rfl, rfl⟩
    rw [keys]
    cases isExtended <;> exact ⟨by decide, by decide⟩
  refine ⟨answers, ?_⟩
  intro blind
  have same := blind.agrees _ _ _ _ _ _ stored_single stored_single (answers false) (answers true)
  cases same

end Sample

end CanX.Query
