import CanX.Api.DecodeFrames
import CanX.Dbc.FrameDecode
import CanX.Desktop.DecodePartition

/-! The whole partition of a viewport: what each work set holds, how many there are, and what the Runtime makes
of them. -/

namespace CanX.Desktop

open Dbc Domain Storage

section Partition

/-- `partitionDecodeWorkSets` with its check of the bound. -/
def partitionWithin (frames : List RuntimeFrame) (assetForChannel : String → Option String)
    (maxFramesPerSet : JsNumber) : Except String (List DecodeWorkSet) :=
  if maxFramesPerSet.den = 1 ∧ 1 ≤ maxFramesPerSet.num then
    .ok (partitionDecodeWorkSets frames assetForChannel maxFramesPerSet.num.toNat)
  else .error "maxFramesPerSet must be a positive integer"

/-- How many sets so many frames need. -/
def setCount (maxFramesPerSet frameCount : Nat) : Nat := (frameCount + maxFramesPerSet - 1) / maxFramesPerSet

/-- The assets of a viewport, in the order of their first frames. -/
def appearing (assetForChannel : String → Option String) (frames : List RuntimeFrame) : List String :=
  (frames.filterMap fun frame => assetForChannel frame.channelId).eraseDups

/-- The sets of one asset, in order. -/
def setsFor (assetId : String) (sets : List DecodeWorkSet) : List (List RuntimeFrame) :=
  (sets.filter fun set => set.assetId = assetId).map DecodeWorkSet.frames

/-- Every bound frame is in one set, and each asset's sets are its frames, cut at the bound. -/
structure Partitions (assetForChannel : String → Option String) (maxFramesPerSet : Nat) (frames : List RuntimeFrame)
    (sets : List DecodeWorkSet) : Prop where
  complete : (sets.flatMap DecodeWorkSet.frames).Perm
    (frames.filter fun frame => (assetForChannel frame.channelId).isSome)
  owned : ∀ set ∈ sets, set.frames ≠ [] ∧ set.frames.Sublist (framesOf assetForChannel frames set.assetId)
  whole : ∀ assetId, (setsFor assetId sets).flatten = framesOf assetForChannel frames assetId
  counted : ∀ assetId, (setsFor assetId sets).length =
    setCount maxFramesPerSet (framesOf assetForChannel frames assetId).length
  full : ∀ assetId, ∀ set ∈ (setsFor assetId sets).dropLast, set.length = maxFramesPerSet
  bounded : ∀ set ∈ sets, set.frames.length ≤ maxFramesPerSet
  ordered : sets.map DecodeWorkSet.assetId = (appearing assetForChannel frames).flatMap fun assetId =>
    List.replicate (setCount maxFramesPerSet (framesOf assetForChannel frames assetId).length) assetId

/-- The Runtime makes a work set of the canonical frames with the sequences of the set. -/
def Acceptable (set : DecodeWorkSet) : Prop :=
  ∀ streamId canonical, (text streamId).blank = false →
    canonical.map (fun frame : Frame => Int.ofNat frame.sequence) = set.frames.map RuntimeFrame.sequence →
    ∃ workSet, Api.createFrameSet streamId canonical = .ok workSet

end Partition

section Cuts

variable {maxFramesPerSet : Nat} {frames open_ : List RuntimeFrame} {frame : RuntimeFrame}
variable {closed sets : List (List RuntimeFrame)}

/-- Sets that are full but for the last, which holds at least one frame. -/
def Cut (maxFramesPerSet : Nat) (sets : List (List RuntimeFrame)) : Prop :=
  sets = [] ∨ ∃ closed open_, sets = closed ++ [open_] ∧ (∀ set ∈ closed, set.length = maxFramesPerSet) ∧
    1 ≤ open_.length ∧ open_.length ≤ maxFramesPerSet

private theorem growSets_snoc : growSets maxFramesPerSet frame (closed ++ [open_]) =
    if open_.length < maxFramesPerSet then closed ++ [open_ ++ [frame]] else closed ++ [open_, [frame]] := by
  induction closed with
  | nil => rw [List.nil_append, growSets]; rfl
  | cons first rest ih =>
    have unfolded : growSets maxFramesPerSet frame (first :: (rest ++ [open_])) =
        first :: growSets maxFramesPerSet frame (rest ++ [open_]) := by
      cases rest with
      | nil => rfl
      | cons second rest => rfl
    rw [List.cons_append, unfolded, ih]
    split <;> rfl

theorem Cut.grow (positive : 1 ≤ maxFramesPerSet) (cut : Cut maxFramesPerSet sets) :
    Cut maxFramesPerSet (growSets maxFramesPerSet frame sets) := by
  rcases cut with rfl | ⟨closed, open_, rfl, full, some_, bounded⟩
  · exact .inr ⟨[], [frame], rfl, by simp, Nat.le_refl 1, positive⟩
  · rw [growSets_snoc]
    split
    · rename_i room
      refine .inr ⟨closed, open_ ++ [frame], rfl, full, ?_, ?_⟩
      · rw [List.length_append]
        exact Nat.le_add_left 1 _
      · rw [List.length_append]
        exact room
    · rename_i noRoom
      refine .inr ⟨closed ++ [open_], [frame], by simp, ?_, Nat.le_refl 1, positive⟩
      intro set member
      rcases List.mem_append.mp member with earlier | last
      · exact full set earlier
      · rw [List.mem_singleton.mp last]
        omega

theorem setsOf_cut (positive : 1 ≤ maxFramesPerSet) (frames : List RuntimeFrame) :
    Cut maxFramesPerSet (setsOf maxFramesPerSet frames) := by
  induction frames using List.reverseRecOn with
  | nil => exact .inl rfl
  | append_singleton frames frame ih =>
    rw [setsOf, List.foldl_append]
    exact ih.grow positive

theorem Cut.bounded (cut : Cut maxFramesPerSet sets) : ∀ set ∈ sets, set ≠ [] ∧ set.length ≤ maxFramesPerSet := by
  intro set member
  rcases cut with rfl | ⟨closed, open_, rfl, full, some_, bounded⟩
  · cases member
  · rcases List.mem_append.mp member with earlier | last
    · have length := full set earlier
      exact ⟨List.ne_nil_of_length_pos (by omega), Nat.le_of_eq length⟩
    · obtain rfl := List.mem_singleton.mp last
      exact ⟨List.ne_nil_of_length_pos some_, bounded⟩

theorem Cut.full (cut : Cut maxFramesPerSet sets) : ∀ set ∈ sets.dropLast, set.length = maxFramesPerSet := by
  intro set member
  rcases cut with rfl | ⟨closed, open_, rfl, full, _, _⟩
  · cases member
  · rw [List.dropLast_concat] at member
    exact full set member

theorem Cut.counted (cut : Cut maxFramesPerSet sets) : sets.length = setCount maxFramesPerSet sets.flatten.length := by
  rcases cut with rfl | ⟨closed, open_, rfl, full, some_, bounded⟩
  · simp only [setCount, List.flatten_nil, List.length_nil, Nat.zero_add]
    by_cases zero : maxFramesPerSet = 0
    · rw [zero, Nat.div_zero]
    · exact (Nat.div_eq_of_lt (by omega)).symm
  · have filled : closed.flatten.length = closed.length * maxFramesPerSet := by
      rw [List.length_flatten, List.map_congr_left full, List.map_const', List.sum_replicate_nat]
    rw [setCount, List.flatten_append, List.length_append, List.length_append, filled]
    symm
    rw [Nat.div_eq_of_lt_le]
    · simp only [List.flatten_singleton, List.length_singleton, Nat.add_mul]
      omega
    · simp only [List.flatten_singleton, List.length_singleton, Nat.add_mul]
      omega

end Cuts

section Assets

variable {assetForChannel : String → Option String} {maxFramesPerSet : Nat} {frames : List RuntimeFrame}
variable {frame : RuntimeFrame} {assetId : String}

private theorem appearing_snoc : appearing assetForChannel (frames ++ [frame]) =
    match assetForChannel frame.channelId with
    | none => appearing assetForChannel frames
    | some assetId => if assetId ∈ appearing assetForChannel frames then appearing assetForChannel frames
        else appearing assetForChannel frames ++ [assetId] := by
  rw [appearing, List.filterMap_append]
  cases bound : assetForChannel frame.channelId with
  | none => simp [bound, appearing]
  | some assetId =>
    have last : ([frame].filterMap fun frame => assetForChannel frame.channelId) = [assetId] := by simp [bound]
    rw [last, List.eraseDups_append]
    simp only [appearing, List.mem_eraseDups]
    generalize (frames.filterMap fun frame => assetForChannel frame.channelId) = owners
    rw [List.cons_removeAll, List.nil_removeAll]
    by_cases present : assetId ∈ owners
    · simp [present]
    · simp [present, List.eraseDups_cons]

/-- The assets are collected in the order in which they appear. -/
theorem collected_order : (collected assetForChannel maxFramesPerSet frames).entries.map Prod.fst =
    appearing assetForChannel frames := by
  induction frames using List.reverseRecOn with
  | nil => rfl
  | append_singleton frames frame ih =>
    rw [collected_snoc, appearing_snoc]
    unfold collectFrame
    cases bound : assetForChannel frame.channelId with
    | none => exact ih
    | some assetId =>
      simp only
      by_cases present : assetId ∈ appearing assetForChannel frames
      · rw [if_pos present, ← ih]
        exact OrderedMap.assign_keys_present (ih ▸ present)
      · rw [if_neg present, OrderedMap.assign_keys_absent (ih ▸ present), List.map_append, ih]
        rfl

theorem appearing_nodup : (appearing assetForChannel frames).Nodup := by
  have order : (collected assetForChannel 1 frames).entries.map Prod.fst = appearing assetForChannel frames :=
    collected_order
  rw [← order]
  exact (collected assetForChannel 1 frames).distinct

theorem mem_appearing : assetId ∈ appearing assetForChannel frames ↔
    framesOf assetForChannel frames assetId ≠ [] := by
  have order : (collected assetForChannel 1 frames).entries.map Prod.fst = appearing assetForChannel frames :=
    collected_order
  rw [← order]
  exact collected_keys

/-- The partition is the sets of each asset, asset by asset. -/
theorem partition_assets : partitionDecodeWorkSets frames assetForChannel maxFramesPerSet =
    (appearing assetForChannel frames).flatMap fun assetId =>
      (setsOf maxFramesPerSet (framesOf assetForChannel frames assetId)).map (DecodeWorkSet.mk assetId) := by
  have parts : partitionDecodeWorkSets frames assetForChannel maxFramesPerSet =
      (collected assetForChannel maxFramesPerSet frames).entries.flatMap
        fun entry => entry.2.map fun frames => ⟨entry.1, frames⟩ := rfl
  have order : (collected assetForChannel maxFramesPerSet frames).entries.map Prod.fst =
      appearing assetForChannel frames := collected_order
  rw [parts, ← order, List.flatMap_map]
  refine List.flatMap_congr ?_
  intro entry member
  obtain ⟨assetId, sets⟩ := entry
  have found := OrderedMap.lookup_some.mpr member
  rw [collected_lookup] at found
  split at found
  · cases found
  · rw [← Option.some.inj found]

/-- Of lists that are joined, one is picked out. -/
theorem flatMap_picked {Item : Type} {keys : List String} (distinct : keys.Nodup) (lists : String → List Item) :
    (keys.flatMap fun key => if key = assetId then lists key else []) =
      if assetId ∈ keys then lists assetId else [] := by
  induction keys with
  | nil => rfl
  | cons key rest ih =>
    obtain ⟨absent, others⟩ := List.nodup_cons.mp distinct
    rw [List.flatMap_cons, ih others]
    by_cases same : key = assetId
    · subst same
      simp [absent]
    · have apart : ¬ assetId = key := fun eq => same eq.symm
      simp [same, apart]

/-- The sets that the partition has for an asset. -/
theorem setsFor_partition : setsFor assetId (partitionDecodeWorkSets frames assetForChannel maxFramesPerSet) =
    setsOf maxFramesPerSet (framesOf assetForChannel frames assetId) := by
  rw [setsFor, partition_assets, List.filter_flatMap, List.map_flatMap]
  have picked : ∀ key, (((setsOf maxFramesPerSet (framesOf assetForChannel frames key)).map
      (DecodeWorkSet.mk key)).filter fun set => decide (set.assetId = assetId)).map DecodeWorkSet.frames =
        if key = assetId then setsOf maxFramesPerSet (framesOf assetForChannel frames key) else [] := by
    intro key
    by_cases same : key = assetId
    · simp [same, List.filter_map, Function.comp_def]
    · simp [same, List.filter_map, Function.comp_def]
  simp only [picked]
  rw [flatMap_picked appearing_nodup fun key => setsOf maxFramesPerSet (framesOf assetForChannel frames key)]
  by_cases some_ : framesOf assetForChannel frames assetId = []
  · rw [if_neg (fun member => mem_appearing.mp member some_), some_]
    rfl
  · rw [if_pos (mem_appearing.mpr some_)]

/-- Grouping frames by their assets keeps each of them. -/
theorem grouped_complete {keys : List String} (distinct : keys.Nodup)
    (known : ∀ frame ∈ frames, ∀ assetId ∈ assetForChannel frame.channelId, assetId ∈ keys) :
    (keys.flatMap (framesOf assetForChannel frames)).Perm
      (frames.filter fun frame => (assetForChannel frame.channelId).isSome) := by
  induction frames with
  | nil => simp [framesOf]
  | cons frame rest ih =>
    obtain ⟨here, there⟩ := List.forall_mem_cons.mp known
    have kept := ih there
    cases bound : assetForChannel frame.channelId with
    | none =>
      have same : framesOf assetForChannel (frame :: rest) = framesOf assetForChannel rest := by
        funext assetId
        simp [framesOf, bound]
      simpa [same, bound] using kept
    | some owner =>
      obtain ⟨front, back, rfl⟩ := List.append_of_mem (here owner bound)
      obtain ⟨-, behind, apart⟩ := List.nodup_append.mp distinct
      have own : framesOf assetForChannel (frame :: rest) owner = frame :: framesOf assetForChannel rest owner := by
        simp [framesOf, bound]
      have others : ∀ key, key ≠ owner →
          framesOf assetForChannel (frame :: rest) key = framesOf assetForChannel rest key := by
        intro key different
        have differs : ¬ owner = key := fun eq => different eq.symm
        simp [framesOf, bound, differs]
      have ahead : front.flatMap (framesOf assetForChannel (frame :: rest)) =
          front.flatMap (framesOf assetForChannel rest) := by
        refine List.flatMap_congr ?_
        intro key member
        exact others key (apart key member owner List.mem_cons_self)
      have after : back.flatMap (framesOf assetForChannel (frame :: rest)) =
          back.flatMap (framesOf assetForChannel rest) := by
        refine List.flatMap_congr ?_
        intro key member
        exact others key fun same => (List.nodup_cons.mp behind).1 (same ▸ member)
      rw [List.flatMap_append, List.flatMap_cons] at kept ⊢
      rw [ahead, after, own, List.filter_cons_of_pos (by simp [bound])]
      exact List.perm_middle.trans (kept.cons frame)

end Assets

section Whole

variable {assetForChannel : String → Option String} {maxFramesPerSet : Nat} {frames : List RuntimeFrame}

private theorem partition_member {set : DecodeWorkSet}
    (member : set ∈ partitionDecodeWorkSets frames assetForChannel maxFramesPerSet) :
    set.frames ∈ setsOf maxFramesPerSet (framesOf assetForChannel frames set.assetId) := by
  rw [partition_assets] at member
  obtain ⟨assetId, _, inside⟩ := List.mem_flatMap.mp member
  obtain ⟨frames, held, rfl⟩ := List.mem_map.mp inside
  exact held

theorem partition_partitions (positive : 1 ≤ maxFramesPerSet) : Partitions assetForChannel maxFramesPerSet frames
    (partitionDecodeWorkSets frames assetForChannel maxFramesPerSet) := by
  refine ⟨?_, ?_, ?_, ?_, ?_, ?_, ?_⟩
  · have joined : (partitionDecodeWorkSets frames assetForChannel maxFramesPerSet).flatMap DecodeWorkSet.frames =
        (appearing assetForChannel frames).flatMap (framesOf assetForChannel frames) := by
      rw [partition_assets, List.flatMap_assoc]
      refine List.flatMap_congr ?_
      intro assetId _
      rw [List.flatMap_map]
      exact List.flatMap_id.trans setsOf_flatten
    rw [joined]
    refine grouped_complete appearing_nodup ?_
    intro frame member assetId bound
    refine mem_appearing.mpr (List.ne_nil_of_mem (a := frame) ?_)
    simpa [framesOf, member] using bound
  · intro set member
    have held := partition_member member
    refine ⟨((setsOf_cut positive _).bounded _ held).1, ?_⟩
    have inside := List.sublist_flatten_of_mem held
    rwa [setsOf_flatten] at inside
  · intro assetId
    rw [setsFor_partition, setsOf_flatten]
  · intro assetId
    rw [setsFor_partition, (setsOf_cut positive _).counted, setsOf_flatten]
  · intro assetId
    rw [setsFor_partition]
    exact (setsOf_cut positive _).full
  · intro set member
    exact ((setsOf_cut positive _).bounded _ (partition_member member)).2
  · rw [partition_assets, List.map_flatMap]
    refine List.flatMap_congr ?_
    intro assetId _
    rw [List.map_map]
    refine List.eq_replicate_iff.mpr ⟨?_, ?_⟩
    · rw [List.length_map, (setsOf_cut positive _).counted, setsOf_flatten]
    · intro owner member
      obtain ⟨_, _, rfl⟩ := List.mem_map.mp member
      rfl

/-- The Runtime accepts a set of at most as many frames as a request may carry, in increasing order. -/
theorem acceptable {set : DecodeWorkSet} (nonempty : set.frames ≠ []) (few : set.frames.length ≤ maxWorkSetFrames)
    (increasing : (set.frames.map RuntimeFrame.sequence).Pairwise (· < ·)) : Acceptable set := by
  intro streamId canonical named same
  have length : canonical.length = set.frames.length := by simpa using congrArg List.length same
  have given : canonical ≠ [] := by
    intro empty
    rw [empty, List.length_nil] at length
    exact nonempty (List.length_eq_zero_iff.mp length.symm)
  have bounded : canonical.length ≤ 1000 := length ▸ few
  have ordered : (canonical.map Frame.sequence).IsChain (· < ·) := by
    rw [← same, List.pairwise_map] at increasing
    rw [List.isChain_map]
    exact (increasing.imp fun {_ _} below => Int.ofNat_lt.mp below).isChain
  unfold Api.createFrameSet
  simp only [Api.checked, dif_pos given, dif_pos named, dif_pos bounded, dif_pos ordered]
  exact ⟨_, rfl⟩

/-- A viewport is partitioned for every positive bound; for a bound that the Runtime's own limit allows, every set of
an increasing viewport is accepted. -/
theorem workSets_partition (assetForChannel : String → Option String) (frames : List RuntimeFrame)
    (maxFramesPerSet : Nat) (positive : 1 ≤ maxFramesPerSet) :
    ∃ sets, partitionWithin frames assetForChannel (Int.ofNat maxFramesPerSet) = .ok sets ∧
      Partitions assetForChannel maxFramesPerSet frames sets ∧
      (maxFramesPerSet ≤ maxWorkSetFrames → (frames.map RuntimeFrame.sequence).IsChain (· < ·) →
        ∀ set ∈ sets, Acceptable set) := by
  have whole : partitionWithin frames assetForChannel (Int.ofNat maxFramesPerSet) =
      .ok (partitionDecodeWorkSets frames assetForChannel maxFramesPerSet) := by
    rw [partitionWithin, if_pos ⟨rfl, Int.ofNat_le.mpr positive⟩]
    rfl
  have partitions : Partitions assetForChannel maxFramesPerSet frames
      (partitionDecodeWorkSets frames assetForChannel maxFramesPerSet) := partition_partitions positive
  refine ⟨_, whole, partitions, ?_⟩
  intro allowed increasing set member
  obtain ⟨nonempty, inside⟩ := partitions.owned set member
  refine acceptable nonempty (Nat.le_trans (partitions.bounded set member) allowed) ?_
  have ascending := List.isChain_iff_pairwise.mp increasing
  exact ascending.sublist ((inside.trans List.filter_sublist).map RuntimeFrame.sequence)

end Whole

section Sample

/-- A frame of a viewport, on the given channel. -/
def viewportFrame (channelId : String) (sequence : Nat) : RuntimeFrame where
  sequence := Int.ofNat sequence
  channelId
  arbitrationId := 1
  isExtended := false
  isFd := false
  bitrateSwitch := false
  errorStateIndicator := false
  dlc := 0
  data := []
  direction := .rx
  hardwareTimestamp := none
  hostTimestamp := 1
  normalizedTimestamp := 1
  clockDomain := "host"
  timestampQuality := .host
  flags := 0

/-- Two channels of one asset, one of another, and one that is unbound. -/
def sampleAsset (channelId : String) : Option String :=
  if channelId = "can3" then none else if channelId = "can2" then some "body" else some "engine"

def interleaved : List RuntimeFrame :=
  [viewportFrame "can3" 1, viewportFrame "can0" 2, viewportFrame "can2" 3, viewportFrame "can1" 5,
    viewportFrame "can0" 8]

theorem workSets_partition_interleaved :
    ∃ sets, partitionWithin interleaved sampleAsset 2 = .ok sets ∧ sets.map DecodeWorkSet.assetId =
        ["engine", "engine", "body"] ∧ Partitions sampleAsset 2 interleaved sets ∧ ∀ set ∈ sets, Acceptable set := by
  obtain ⟨sets, given, partitions, accepted⟩ := workSets_partition sampleAsset interleaved 2 (by decide)
  have owners : (partitionWithin interleaved sampleAsset 2).map (fun sets => sets.map DecodeWorkSet.assetId) =
      .ok ["engine", "engine", "body"] := by
    decide +kernel
  have known : partitionWithin interleaved sampleAsset 2 = .ok sets := given
  rw [known] at owners
  exact ⟨sets, known, Except.ok.inj owners, partitions, accepted (by decide) (by decide)⟩

/-- More frames than one decode request may carry. -/
def longViewport : List RuntimeFrame := (List.range 1001).map (viewportFrame "can0")

def longFrames : List Frame :=
  (List.finRange 1001).map fun position =>
    { torqueFrame with
      sequence := position.val
      sequence_unsigned := by omega }

private theorem longFrames_sequences :
    longFrames.map (fun frame => Int.ofNat frame.sequence) = longViewport.map RuntimeFrame.sequence := by
  have positions : (List.finRange 1001).map Fin.val = List.range 1001 := List.map_coe_finRange_eq_range
  rw [longFrames, longViewport, ← positions, List.map_map, List.map_map, List.map_map]
  rfl

/-- A work set has no more frames than the Runtime's limit. -/
theorem createFrameSet_bounded {streamId : String} {frames : List Frame} {workSet : DecodeFrameSet}
    (created : Api.createFrameSet streamId frames = .ok workSet) : frames.length ≤ 1000 := by
  unfold Api.createFrameSet at created
  simp only [Api.checked_bind] at created
  obtain ⟨_, _, bounded, _⟩ := created
  exact bounded

/-- With a bound above the limit of the Runtime, an increasing viewport makes a set that it refuses. -/
theorem longViewport_refused : ∃ sets, partitionWithin longViewport (fun _ => some "dbc") 1001 = .ok sets ∧
    (longViewport.map RuntimeFrame.sequence).IsChain (· < ·) ∧ ∃ set ∈ sets, ¬ Acceptable set := by
  have given : partitionWithin longViewport (fun _ => some "dbc") 1001 =
      .ok (partitionDecodeWorkSets longViewport (fun _ => some "dbc") 1001) := rfl
  have increasing : (longViewport.map RuntimeFrame.sequence).IsChain (· < ·) := by
    rw [longViewport, List.map_map, List.isChain_map]
    refine List.Pairwise.isChain (List.pairwise_lt_range.imp ?_)
    intro earlier later before
    exact Int.ofNat_lt.mpr before
  have own : framesOf (fun _ => some "dbc") longViewport "dbc" = longViewport := by
    simp [framesOf]
  have length : longViewport.length = 1001 := by simp [longViewport]
  have one : longViewport ∈ setsFor "dbc" (partitionDecodeWorkSets longViewport (fun _ => some "dbc") 1001) := by
    have some_ : longViewport ≠ [] := List.ne_nil_of_length_pos (by omega)
    have wide : 1 ≤ 1001 := by decide
    obtain ⟨later, headed, _⟩ := setsOf_head wide some_
    rw [setsFor_partition, own, headed, List.take_of_length_le (Nat.le_of_eq length)]
    exact List.mem_cons_self
  obtain ⟨set, held, frames⟩ := List.mem_map.mp one
  refine ⟨_, given, increasing, set, (List.mem_filter.mp held).1, ?_⟩
  intro accepted
  have named : (text "s").blank = false := by decide
  obtain ⟨workSet, created⟩ := accepted "s" longFrames named (by rw [frames, longFrames_sequences])
  have few := createFrameSet_bounded created
  have many : longFrames.length = 1001 := by simp [longFrames]
  omega

end Sample

end CanX.Desktop
