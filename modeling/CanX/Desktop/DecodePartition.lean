import Mathlib.Data.List.Induction
import CanX.Desktop.FrameSchema
import CanX.Storage.OrderedMap

/-! Turning a viewport into decode requests: one ordered work set per asset, cut at a bound. -/

namespace CanX.Desktop

open Storage

structure DecodeWorkSet where
  assetId : String
  frames : List RuntimeFrame

def maxWorkSetFrames : Nat := 1000

/-- The last set of an asset is the one that can still grow. -/
def growSets (maxFramesPerSet : Nat) (frame : RuntimeFrame) : List (List RuntimeFrame) →
    List (List RuntimeFrame)
  | [] => [[frame]]
  | [open_] => if open_.length < maxFramesPerSet then [open_ ++ [frame]] else [open_, [frame]]
  | full :: next :: rest => full :: growSets maxFramesPerSet frame (next :: rest)

/-- One frame of the viewport joins the sets of its asset; one of an unbound channel joins none. -/
def collectFrame (assetForChannel : String → Option String) (maxFramesPerSet : Nat)
    (setsByAsset : OrderedMap String (List (List RuntimeFrame))) (frame : RuntimeFrame) :
    OrderedMap String (List (List RuntimeFrame)) :=
  match assetForChannel frame.channelId with
  | none => setsByAsset
  | some assetId =>
    setsByAsset.assign assetId (growSets maxFramesPerSet frame ((setsByAsset.lookup assetId).getD []))

def partitionDecodeWorkSets (frames : List RuntimeFrame) (assetForChannel : String → Option String)
    (maxFramesPerSet : Nat) : List DecodeWorkSet :=
  (frames.foldl (collectFrame assetForChannel maxFramesPerSet) .empty).entries.flatMap fun (assetId, sets) =>
    sets.map fun frames => ⟨assetId, frames⟩

section Laws

variable {assetForChannel : String → Option String} {maxFramesPerSet : Nat} {frames : List RuntimeFrame}
variable {assetId : String} {frame : RuntimeFrame} {sets : List (List RuntimeFrame)}

/-- The frames of one asset, in viewport order. -/
def framesOf (assetForChannel : String → Option String) (frames : List RuntimeFrame) (assetId : String) :
    List RuntimeFrame :=
  frames.filter fun frame => assetForChannel frame.channelId = some assetId

/-- The asset of the first frame that has one. -/
def firstAsset (assetForChannel : String → Option String) (frames : List RuntimeFrame) : Option String :=
  frames.findSome? fun frame => assetForChannel frame.channelId

def setsOf (maxFramesPerSet : Nat) (frames : List RuntimeFrame) : List (List RuntimeFrame) :=
  frames.foldl (fun sets frame => growSets maxFramesPerSet frame sets) []

private theorem growSets_flatten : (growSets maxFramesPerSet frame sets).flatten = sets.flatten ++ [frame] := by
  induction sets with
  | nil => rfl
  | cons first rest ih =>
    cases rest with
    | nil =>
      unfold growSets
      split
      · simp
      · simp
    | cons next rest =>
      rw [growSets, List.flatten_cons, ih, List.flatten_cons (l := first), List.append_assoc]

/-- The sets of an asset are its frames, cut. -/
theorem setsOf_flatten : (setsOf maxFramesPerSet frames).flatten = frames := by
  induction frames using List.reverseRecOn with
  | nil => rfl
  | append_singleton frames frame ih =>
    rw [setsOf, List.foldl_append, List.foldl_cons, List.foldl_nil, growSets_flatten]
    exact congrArg (· ++ [frame]) ih

/-- The first set takes frames until it is full. -/
theorem growSets_head (frame : RuntimeFrame) {first : List RuntimeFrame} {rest : List (List RuntimeFrame)}
    (full : rest ≠ [] → maxFramesPerSet ≤ first.length) (bounded : first.length ≤ maxFramesPerSet) :
    ∃ later, growSets maxFramesPerSet frame (first :: rest) =
        (first ++ [frame]).take maxFramesPerSet :: later ∧
      (later ≠ [] → maxFramesPerSet ≤ ((first ++ [frame]).take maxFramesPerSet).length) := by
  cases rest with
  | nil =>
    unfold growSets
    split
    · rename_i room
      refine ⟨[], ?_, fun some => absurd rfl some⟩
      rw [List.take_of_length_le (by rw [List.length_append]; exact room)]
    · rename_i noRoom
      have exact_ : first.length = maxFramesPerSet := by omega
      have taken : (first ++ [frame]).take maxFramesPerSet = first := by
        rw [← exact_, List.take_left']
        rfl
      rw [taken]
      exact ⟨[[frame]], rfl, fun _ => exact_.ge⟩
  | cons next rest =>
    have filled := full (List.cons_ne_nil _ _)
    have exact_ : first.length = maxFramesPerSet := by omega
    have taken : (first ++ [frame]).take maxFramesPerSet = first := by
      rw [← exact_, List.take_left']
      rfl
    rw [taken]
    exact ⟨growSets maxFramesPerSet frame (next :: rest), rfl, fun _ => filled⟩

theorem setsOf_head (positive : 1 ≤ maxFramesPerSet) (some_ : frames ≠ []) :
    ∃ later, setsOf maxFramesPerSet frames = frames.take maxFramesPerSet :: later ∧
      (later ≠ [] → maxFramesPerSet ≤ (frames.take maxFramesPerSet).length) := by
  induction frames using List.reverseRecOn with
  | nil => exact absurd rfl some_
  | append_singleton frames frame ih =>
    have stepped : setsOf maxFramesPerSet (frames ++ [frame]) =
        growSets maxFramesPerSet frame (setsOf maxFramesPerSet frames) := by
      rw [setsOf, List.foldl_append]
      rfl
    rw [stepped]
    by_cases empty : frames = []
    · subst empty
      refine ⟨[], ?_, fun some => absurd rfl some⟩
      rw [List.take_of_length_le (by simpa using positive)]
      rfl
    · obtain ⟨later, same, full⟩ := ih empty
      rw [same]
      obtain ⟨rest, grown, filled⟩ := growSets_head frame full (List.length_take_le _ _)
      have taken : (frames.take maxFramesPerSet ++ [frame]).take maxFramesPerSet =
          (frames ++ [frame]).take maxFramesPerSet := by
        have same : maxFramesPerSet - min maxFramesPerSet frames.length =
            maxFramesPerSet - frames.length := by omega
        rw [List.take_append, List.take_append, List.length_take, List.take_take, Nat.min_self, same]
      rw [taken] at grown filled
      exact ⟨rest, grown, filled⟩

/-- The sets collected from a viewport. -/
def collected (assetForChannel : String → Option String) (maxFramesPerSet : Nat) (frames : List RuntimeFrame) :
    OrderedMap String (List (List RuntimeFrame)) :=
  frames.foldl (collectFrame assetForChannel maxFramesPerSet) .empty

theorem collected_snoc : collected assetForChannel maxFramesPerSet (frames ++ [frame]) =
    collectFrame assetForChannel maxFramesPerSet (collected assetForChannel maxFramesPerSet frames) frame := by
  rw [collected, List.foldl_append]
  rfl

private theorem framesOf_snoc : framesOf assetForChannel (frames ++ [frame]) assetId =
    framesOf assetForChannel frames assetId ++
      if assetForChannel frame.channelId = some assetId then [frame] else [] := by
  unfold framesOf
  rw [List.filter_append]
  by_cases bound : assetForChannel frame.channelId = some assetId
  · simp [bound]
  · simp [bound]

/-- Each asset has collected its own frames, and no asset without frames is there. -/
theorem collected_lookup : (collected assetForChannel maxFramesPerSet frames).lookup assetId =
    if framesOf assetForChannel frames assetId = [] then none
    else some (setsOf maxFramesPerSet (framesOf assetForChannel frames assetId)) := by
  induction frames using List.reverseRecOn with
  | nil => rfl
  | append_singleton frames frame ih =>
    rw [collected_snoc, framesOf_snoc]
    unfold collectFrame
    cases bound : assetForChannel frame.channelId with
    | none => simpa using ih
    | some owner =>
      by_cases same : assetId = owner
      · subst same
        have sofar : ((collected assetForChannel maxFramesPerSet frames).lookup assetId).getD [] =
            setsOf maxFramesPerSet (framesOf assetForChannel frames assetId) := by
          rw [ih]
          split
          · rename_i none_
            rw [none_]
            rfl
          · rfl
        have grown : setsOf maxFramesPerSet (framesOf assetForChannel frames assetId ++ [frame]) =
            growSets maxFramesPerSet frame (setsOf maxFramesPerSet (framesOf assetForChannel frames assetId)) := by
          rw [setsOf, List.foldl_append]
          rfl
        simp only [OrderedMap.lookup_assign_self, sofar, if_true, grown]
        rw [if_neg (by simp)]
      · have other : ¬ owner = assetId := fun eq => same eq.symm
        simp only [OrderedMap.lookup_assign_other same, Option.some.injEq, other, if_false, List.append_nil]
        exact ih

theorem collected_keys : assetId ∈ (collected assetForChannel maxFramesPerSet frames).entries.map Prod.fst ↔
    framesOf assetForChannel frames assetId ≠ [] := by
  rw [← OrderedMap.lookup_isSome, collected_lookup]
  split
  · rename_i none_
    simp [none_]
  · rename_i some_
    simp [some_]

/-- The assets come in the order in which they first appear. -/
theorem collected_first : ((collected assetForChannel maxFramesPerSet frames).entries.map Prod.fst).head? =
    firstAsset assetForChannel frames := by
  induction frames using List.reverseRecOn with
  | nil => rfl
  | append_singleton frames frame ih =>
    have first : firstAsset assetForChannel (frames ++ [frame]) =
        (firstAsset assetForChannel frames).or (assetForChannel frame.channelId) := by
      unfold firstAsset
      rw [List.findSome?_append]
      simp
    rw [collected_snoc, first, ← ih]
    unfold collectFrame
    cases bound : assetForChannel frame.channelId with
    | none => simp
    | some owner =>
      by_cases present : owner ∈ (collected assetForChannel maxFramesPerSet frames).entries.map Prod.fst
      · have some_ : (collected assetForChannel maxFramesPerSet frames).entries.map Prod.fst ≠ [] :=
          List.ne_nil_of_mem present
        obtain ⟨head, rest, split⟩ := List.exists_cons_of_ne_nil some_
        simp only [OrderedMap.assign_keys_present present, split, List.head?_cons, Option.some_or]
      · simp only [OrderedMap.assign_keys_absent present, List.map_append, List.map_singleton,
          List.head?_append, List.head?_cons]

/-- The first work set is the first frames of the asset that appears first. -/
theorem partition_head (positive : 1 ≤ maxFramesPerSet) :
    (partitionDecodeWorkSets frames assetForChannel maxFramesPerSet).head? =
      (firstAsset assetForChannel frames).map fun assetId =>
        ⟨assetId, (framesOf assetForChannel frames assetId).take maxFramesPerSet⟩ := by
  have first : ((collected assetForChannel maxFramesPerSet frames).entries.map Prod.fst).head? =
      firstAsset assetForChannel frames := collected_first
  have parts : partitionDecodeWorkSets frames assetForChannel maxFramesPerSet =
      (collected assetForChannel maxFramesPerSet frames).entries.flatMap
        fun (assetId, sets) => sets.map fun frames => ⟨assetId, frames⟩ := rfl
  rw [parts, ← first]
  cases entries : (collected assetForChannel maxFramesPerSet frames).entries with
  | nil => rfl
  | cons entry rest =>
    obtain ⟨assetId, sets⟩ := entry
    have member : (assetId, sets) ∈ (collected assetForChannel maxFramesPerSet frames).entries := by
      rw [entries]
      exact List.mem_cons_self
    have found := OrderedMap.lookup_some.mpr member
    rw [collected_lookup] at found
    split at found
    · cases found
    · rename_i some_
      obtain ⟨later, headed, _⟩ := setsOf_head positive some_
      rw [← Option.some.inj found, headed]
      rfl

/-- Every work set holds frames of the viewport that are bound to its asset. -/
theorem partition_head_frames {work : DecodeWorkSet} (positive : 1 ≤ maxFramesPerSet)
    (first : (partitionDecodeWorkSets frames assetForChannel maxFramesPerSet).head? = some work) :
    work.frames ≠ [] ∧ ∀ frame ∈ work.frames,
      frame ∈ frames ∧ assetForChannel frame.channelId = some work.assetId := by
  rw [partition_head positive] at first
  obtain ⟨assetId, found, rfl⟩ := Option.map_eq_some_iff.mp first
  obtain ⟨frame, member, bound⟩ := List.exists_of_findSome?_eq_some found
  have owned : frame ∈ framesOf assetForChannel frames assetId := by
    simp [framesOf, member, bound]
  constructor
  · intro none_
    rcases List.take_eq_nil_iff.mp none_ with zero | empty
    · omega
    · rw [empty] at owned
      cases owned
  · intro other taken
    have inside := List.mem_of_mem_take taken
    simpa [framesOf] using inside

theorem firstAsset_none : firstAsset assetForChannel frames = none ↔
    ∀ frame ∈ frames, assetForChannel frame.channelId = none :=
  List.findSome?_eq_none_iff

end Laws

end CanX.Desktop
