import CanX.Query.Histogram
import CanX.Query.History
import Mathlib.Algebra.BigOperators.Group.List.Lemmas

/-! The aggregates of a session whose writer goes on. At every snapshot the summary and the histogram describe the
frames that following the pages hands out, and no later snapshot takes any of them back. -/

namespace CanX.Query

open Dbc Domain Data Shelving Transport Storage Transition

section Checks

def maxArbitrationIdTopN : Int := 1000

def invalidTopN : QueryError := ⟨.validation, "query.invalid_top_n", "top_n must be a positive integer."⟩

def topNExceeded : QueryError :=
  ⟨.validation, "query.top_n_exceeded", "top_n exceeds the maximum number of arbitration-id counts."⟩

def requireTopN (topN : Int) : Except QueryError Unit :=
  if topN ≤ 0 then .error invalidTopN
  else if maxArbitrationIdTopN < topN then .error topNExceeded
  else .ok ()

theorem requireTopN_outside {topN : Int} (outside : topN ≤ 0 ∨ maxArbitrationIdTopN < topN) :
    ∃ error, requireTopN topN = .error error ∧ error.kind = .validation := by
  by_cases positive : topN ≤ 0
  · exact ⟨invalidTopN, by rw [requireTopN, if_pos positive], rfl⟩
  · exact ⟨topNExceeded, by rw [requireTopN, if_neg positive, if_pos (outside.resolve_left positive)], rfl⟩

def invalidSummary (message : String) : QueryError := ⟨.validation, "query.invalid_summary", message⟩

/-- `first < second`, which is false whenever one side is not a number. -/
def PyFloat.below : PyFloat → PyFloat → Bool
  | .nan, _ => false
  | _, .nan => false
  | first, second => !second.le first

/-- `FrameQuerySummary.__post_init__`. -/
def FrameQuerySummary.check (summary : FrameQuerySummary) : Except QueryError Unit :=
  if summary.matchingFrameCount = 0 then
    if summary.firstSequence.isSome || summary.lastSequence.isSome || summary.firstNormalizedTimestamp.isSome ||
        summary.lastNormalizedTimestamp.isSome then
      .error (invalidSummary "An empty summary must not report sequence or timestamp bounds.")
    else .ok ()
  else
    match summary.firstSequence, summary.lastSequence, summary.firstNormalizedTimestamp,
        summary.lastNormalizedTimestamp with
    | some firstSequence, some lastSequence, some firstTimestamp, some lastTimestamp =>
      if lastSequence < firstSequence then .error (invalidSummary "summary sequence bounds are inverted.")
      else if PyFloat.below lastTimestamp firstTimestamp then
        .error (invalidSummary "summary timestamp bounds are inverted.")
      else .ok ()
    | _, _, _, _ =>
      .error (invalidSummary "A non-empty summary must report both sequence and timestamp bounds.")

end Checks

section Service

/-- The files that an aggregate hands to the engine. -/
def filterPaths (database : Database) (tree : FileTree) (filter : FrameFilter) : Except QueryFault (List String) := do
  let (session, segments) ← typed (snapshot database filter.sessionId)
  let plan ← typed (planSegments (segments.map DataSegment.toSegmentRow) filter none)
  candidatePaths tree session segments plan

def QueryService.summarizeFrames (database : Database) (tree : FileTree) (filter : FrameFilter) :
    Except QueryFault FrameQuerySummary := do
  let paths ← filterPaths database tree filter
  let summary ← QueryEngine.summarize (engineFiles tree) paths filter
  typed summary.check
  return summary

/-- `QueryService.count_by_arbitration_id`, with every result that the engine can give. -/
def QueryService.CountByArbitrationId (database : Database) (tree : FileTree) (filter : FrameFilter) (topN : Int)
    (result : Except QueryFault (List ArbitrationIdCount)) : Prop :=
  match typed (requireTopN topN) with
  | .error fault => result = .error fault
  | .ok () =>
    match filterPaths database tree filter with
    | .error fault => result = .error fault
    | .ok paths => QueryEngine.CountByArbitrationId (engineFiles tree) paths filter topN.toNat result

/-- `QueryService.plan_frames` opens no file. -/
def QueryService.planFrames (database : Database) (filter : FrameFilter) (afterSequence : Option Int) :
    Except QueryError QueryPlan := do
  let (_, segments) ← snapshot database filter.sessionId
  planSegments (segments.map DataSegment.toSegmentRow) filter afterSequence

end Service

section Extremes

variable {Value Other : Type}

theorem extreme_snoc {better : Value → Value → Bool} (values : List Value) (value : Value) :
    extreme better (values ++ [value]) =
      some ((extreme better values).elim value fun held => if better held value then held else value) := by
  rw [extreme, List.foldl_append, ← extreme, List.foldl_cons, List.foldl_nil]
  cases extreme better values with
  | none => rfl
  | some held => exact (apply_ite some _ _ _).symm

theorem extreme_map {better : Value → Value → Bool} {betterOther : Other → Other → Bool} {image : Value → Other}
    (same : ∀ held value, betterOther (image held) (image value) = better held value) (values : List Value) :
    extreme betterOther (values.map image) = (extreme better values).map image := by
  induction values using List.reverseRecOn with
  | nil => rfl
  | append_singleton rest value ih =>
    rw [List.map_append, List.map_singleton, extreme_snoc, extreme_snoc, ih]
    cases extreme better rest with
    | none => rfl
    | some held => simp only [Option.map_some, Option.elim_some, same, apply_ite image]

variable [LinearOrder Value]

theorem extreme_least (values : List Value) :
    extreme (fun held value => decide (held ≤ value)) values = values.min? := by
  induction values using List.reverseRecOn with
  | nil => rfl
  | append_singleton rest value ih =>
    rw [extreme_snoc, ih]
    cases rest with
    | nil => rfl
    | cons first rest =>
      rw [List.min?_cons', List.cons_append, List.min?_cons', List.foldl_append, List.foldl_cons, List.foldl_nil,
        Option.elim_some, min_def]
      simp only [decide_eq_true_eq]

theorem extreme_greatest (values : List Value) :
    extreme (fun held value => decide (value ≤ held)) values = values.max? := by
  induction values using List.reverseRecOn with
  | nil => rfl
  | append_singleton rest value ih =>
    rw [extreme_snoc, ih]
    cases rest with
    | nil => rfl
    | cons first rest =>
      rw [List.max?_cons', List.cons_append, List.max?_cons', List.foldl_append, List.foldl_cons, List.foldl_nil,
        Option.elim_some, max_comm, max_def]
      simp only [decide_eq_true_eq]

end Extremes

section Descriptions

variable {frames : List PyFrame} {sessionId : Uuid}

/-- The summary of frames in sequence order. -/
def FrameQuerySummary.ofFrames (sessionId : Uuid) (frames : List PyFrame) : FrameQuerySummary :=
  let stamps := frames.map fun frame => frame.normalizedTimestamp.value
  ⟨sessionId, frames.length, frames.head?.map PyFrame.sequence, frames.getLast?.map PyFrame.sequence,
    stamps.min?.map .finite, stamps.max?.map .finite⟩

/-- The key that a frame is counted under. -/
def identityOf (frame : PyFrame) : Nat × Bool := (frame.arbitrationId, frame.isExtended)

/-- The key of a count. -/
def ArbitrationIdCount.identity (count : ArbitrationIdCount) : Nat × Bool := (count.arbitrationId, count.isExtended)

/-- The documented order of counts: the more frequent first, then the lower number. -/
def ArbitrationIdCount.Before (earlier later : ArbitrationIdCount) : Prop :=
  later.frameCount < earlier.frameCount ∨
    earlier.frameCount = later.frameCount ∧ earlier.arbitrationId ≤ later.arbitrationId

/-- How often the key of a frame occurs. -/
def countOf (frames : List PyFrame) (frame : PyFrame) : ArbitrationIdCount :=
  ⟨frame.arbitrationId, frame.isExtended, tally (frames.map identityOf) (identityOf frame)⟩

/-- A histogram has the true count of each key it lists, of as many keys as it may and in order; whatever it leaves out
comes after all that it lists. -/
structure Histogram (topN : Nat) (frames : List PyFrame) (counts : List ArbitrationIdCount) : Prop where
  counted : ∀ count ∈ counts, 0 < count.frameCount ∧ count.frameCount = tally (frames.map identityOf) count.identity
  distinct : (counts.map ArbitrationIdCount.identity).Nodup
  ordered : counts.Pairwise ArbitrationIdCount.Before
  listed : counts.length = min topN (frames.map identityOf).dedup.length
  omitted : ∀ frame ∈ frames, identityOf frame ∉ counts.map ArbitrationIdCount.identity →
    ∀ count ∈ counts, count.Before (countOf frames frame)
  total : (counts.map ArbitrationIdCount.frameCount).sum ≤ frames.length
  whole : (frames.map identityOf).dedup.length ≤ topN →
    (counts.map ArbitrationIdCount.frameCount).sum = frames.length

private theorem ascending_least (ascending : Ascending PyFrame.sequence frames) :
    (frames.map PyFrame.sequence).min? = frames.head?.map PyFrame.sequence := by
  rw [← List.head?_map]
  refine List.min?_eq_head? (List.pairwise_map.mpr (ascending.imp fun before => ?_))
  exact Nat.min_eq_left (Nat.le_of_lt before)

private theorem ascending_greatest (ascending : Ascending PyFrame.sequence frames) :
    (frames.map PyFrame.sequence).max? = frames.getLast?.map PyFrame.sequence := by
  cases tail : frames.getLast? with
  | none =>
    rw [List.getLast?_eq_none_iff.mp tail]
    rfl
  | some last =>
    refine List.max?_eq_some_iff.mpr ⟨List.mem_map_of_mem (List.mem_of_getLast? tail), fun value member => ?_⟩
    obtain ⟨frame, inside, rfl⟩ := List.mem_map.mp member
    exact ascending.le_last tail inside

/-- The bounds of a summary are in order. -/
theorem ofFrames_check (ascending : Ascending PyFrame.sequence frames) :
    (FrameQuerySummary.ofFrames sessionId frames).check = .ok () := by
  cases frames with
  | nil => rfl
  | cons frame rest =>
    obtain ⟨last, tail⟩ : ∃ last, (frame :: rest).getLast? = some last := ⟨_, List.getLast?_eq_some_getLast (by simp)⟩
    have ordered : frame.sequence ≤ last.sequence := ascending.head_le rfl (List.mem_of_getLast? tail)
    obtain ⟨earliest, least⟩ : ∃ earliest, ((frame :: rest).map fun frame => frame.normalizedTimestamp.value).min? =
        some earliest := ⟨_, rfl⟩
    obtain ⟨latest, greatest⟩ : ∃ latest, ((frame :: rest).map fun frame => frame.normalizedTimestamp.value).max? =
        some latest := ⟨_, rfl⟩
    have timely : earliest ≤ latest := (List.min?_eq_some_iff.mp least).2 latest (List.max?_eq_some_iff.mp greatest).1
    have upright : PyFloat.below (.finite latest) (.finite earliest) = false := by
      simp [PyFloat.below, PyFloat.le, timely]
    simp [FrameQuerySummary.check, FrameQuerySummary.ofFrames, tail, least, greatest, upright, ordered, -List.map_cons]

private theorem le_finite (held value : Rat) : PyFloat.le (.finite held) (.finite value) = decide (held ≤ value) := rfl

/-- The engine summarizes rows of frames in sequence order as the frames. -/
theorem summaryOf_frames (ascending : Ascending PyFrame.sequence frames) :
    summaryOf sessionId (frames.map FrameRow.ofFrame) = .ok (.ofFrames sessionId frames) := by
  have sequences : (frames.map FrameRow.ofFrame).filterMap FrameRow.sequence = frames.map PyFrame.sequence := by
    rw [List.filterMap_map, ← List.filterMap_eq_map]
    rfl
  have stamps : (frames.map FrameRow.ofFrame).filterMap FrameRow.normalizedTimestamp =
      (frames.map fun frame => frame.normalizedTimestamp.value).map PyFloat.finite := by
    rw [List.filterMap_map, List.map_map, ← List.filterMap_eq_map]
    rfl
  have earliest : extreme PyFloat.le ((frames.map fun frame => frame.normalizedTimestamp.value).map .finite) =
      ((frames.map fun frame => frame.normalizedTimestamp.value).min?).map .finite := by
    rw [extreme_map le_finite, extreme_least]
  have latest : extreme (fun held value => PyFloat.le value held)
      ((frames.map fun frame => frame.normalizedTimestamp.value).map PyFloat.finite) =
      ((frames.map fun frame => frame.normalizedTimestamp.value).max?).map PyFloat.finite := by
    rw [extreme_map fun held value => le_finite value held, extreme_greatest]
  rw [summaryOf, sequences, stamps]
  dsimp only
  rw [earliest, latest, extreme_least, extreme_greatest, ascending_least ascending, ascending_greatest ascending,
    List.length_map]
  cases frames with
  | nil => rfl
  | cons frame rest =>
    have last : (frame :: rest).getLast? = some ((frame :: rest).getLast (by simp)) := List.getLast?_eq_some_getLast _
    have nonempty : (frame :: rest).length ≠ 0 := Nat.succ_ne_zero _
    rw [if_neg nonempty, FrameQuerySummary.ofFrames, last]
    rfl

end Descriptions

section Histograms

variable {frames : List PyFrame} {keys : List (Nat × Bool)} {topN : Nat} {counts : List ArbitrationIdCount}
variable {groups : List ((Option Nat × Option Bool) × Nat)}

private theorem ungroup_count (count : ArbitrationIdCount) :
    ungroup count = group (count.identity, count.frameCount) := rfl

private theorem before_ungroup {earlier later : ArbitrationIdCount} :
    countOrder (ungroup earlier) (ungroup later) = true ↔ earlier.Before later := by
  rw [ungroup_count, ungroup_count, countOrder_group]
  rfl

/-- The first of the groups in order are a histogram. -/
theorem histogram_groups (ordered : Ordered countOrder ((grouped (frames.map identityOf)).map group) groups)
    (read : counts.map ungroup = groups.take topN) : Histogram topN frames counts := by
  set keys := frames.map identityOf with named
  have keyed (keyed : (Nat × Bool) × Nat) : group keyed ∈ groups ↔ keyed.1 ∈ keys ∧ keyed.2 = tally keys keyed.1 := by
    rw [ordered.1.mem_iff, List.mem_map_of_injective group_injective, mem_grouped]
  have member (count : ArbitrationIdCount) (held : count ∈ counts) :
      count.identity ∈ keys ∧ count.frameCount = tally keys count.identity := by
    have inside := List.mem_map_of_mem (f := ungroup) held
    rw [read] at inside
    exact (keyed (count.identity, count.frameCount)).mp (List.mem_of_mem_take inside)
  have sums : groups.map Prod.snd = (groups.take topN).map Prod.snd ++ (groups.drop topN).map Prod.snd := by
    rw [← List.map_append, List.take_append_drop]
  have listed : counts.map ArbitrationIdCount.frameCount = (groups.take topN).map Prod.snd := by
    rw [← read, List.map_map]
    rfl
  have all : (groups.map Prod.snd).sum = frames.length := by
    have counted := (ordered.1.map Prod.snd).sum_eq
    rw [counted, grouped, List.map_map, List.map_map]
    refine (List.sum_map_count_dedup_eq_length keys).trans ?_
    rw [named, List.length_map]
  have size : groups.length = keys.dedup.length := by
    rw [ordered.1.length_eq, List.length_map, grouped, List.length_map]
  have length : counts.length = min topN keys.dedup.length := by
    rw [← size, ← List.length_take, ← read, List.length_map]
  refine ⟨fun count held => ?_, ?_, ?_, length, fun frame inside absent count held => ?_, ?_, fun wide => ?_⟩
  · obtain ⟨inside, counted⟩ := member count held
    refine ⟨?_, counted⟩
    rw [counted]
    exact List.countP_pos_iff.mpr ⟨_, inside, decide_eq_true rfl⟩
  · refine List.Nodup.of_map (fun key => group (key, tally keys key)) ?_
    have same : (counts.map ArbitrationIdCount.identity).map (fun key => group (key, tally keys key)) =
        groups.take topN := by
      rw [← read, List.map_map]
      refine List.map_congr_left fun count held => ?_
      rw [ungroup_count, (member count held).2]
      rfl
    rw [same]
    exact (ordered.1.nodup_iff.mpr grouped_nodup).sublist (List.take_sublist _ _)
  · have sorted := ordered.2.sublist (List.take_sublist topN groups)
    rw [← read, List.pairwise_map] at sorted
    exact sorted.imp before_ungroup.mp
  · have left : ungroup (countOf frames frame) ∈ groups.drop topN := by
      have present := (keyed (identityOf frame, tally keys (identityOf frame))).mpr ⟨List.mem_map_of_mem inside, rfl⟩
      rw [← List.take_append_drop topN groups, List.mem_append] at present
      refine present.resolve_left fun kept => absent ?_
      rw [← read] at kept
      obtain ⟨other, listed, same⟩ := List.mem_map.mp kept
      have equal := group_injective same
      exact List.mem_map.mpr ⟨other, listed, congrArg Prod.fst equal⟩
    have sorted := ordered.2
    rw [← List.take_append_drop topN groups, List.pairwise_append, ← read] at sorted
    exact before_ungroup.mp (sorted.2.2 _ (List.mem_map_of_mem held) _ left)
  · rw [listed, ← all, sums, List.sum_append]
    exact Nat.le_add_right _ _
  · have short : groups.take topN = groups := List.take_of_length_le (size.trans_le (named ▸ wide))
    rw [listed, short, all]

end Histograms

section Snapshots

variable {sizeOf : StoredFile → Nat} {streamId : String} {world : World} {tables : List SegmentTable}
variable {filter : FrameFilter} {topN : Nat} {result : Except QueryFault (List ArbitrationIdCount)}

/-- The accepted frames of the tables, as the services give them. -/
def acceptedOf (filter : FrameFilter) (tables : List SegmentTable) : List PyFrame :=
  ((tableFrames tables).filter filter.accepts).map PyFrame.ofFrame

private theorem acceptedOf_ascending (ascending : Ascending Frame.sequence (tableFrames tables)) :
    Ascending PyFrame.sequence (acceptedOf filter tables) :=
  List.pairwise_map.mpr (ascending.filter _)

/-- The engine is handed files whose matching rows are those of the accepted frames. -/
theorem filterPaths_shelf (shelf : Shelf sizeOf filter.sessionId streamId tables world) : ∃ paths,
    filterPaths world.database (projectTree sizeOf world) filter = .ok paths ∧
      matching (engineFiles (projectTree sizeOf world)) filter none paths =
        (acceptedOf filter tables).map FrameRow.ofFrame := by
  let query : FrameQuery := ⟨filter, none, 1, Nat.one_pos, sampleLimit⟩
  obtain ⟨segments, paths, held, handed, same⟩ := framePaths_shelf query shelf
  refine ⟨paths, handed, same.trans ?_⟩
  have rows : matching (engineFiles (projectTree sizeOf world)) query.filter ((none : Option Nat).map Int.ofNat)
      (segments.map fun segment => segment.relativePath) = _ := matching_shelf held
  have all : beyond Frame.sequence none ((tableFrames tables).filter filter.accepts) =
      (tableFrames tables).filter filter.accepts := List.filter_eq_self.mpr fun _ _ => rfl
  rw [all] at rows
  rw [acceptedOf, List.map_map]
  exact rows

/-- A summary over a shelf is that of the accepted frames. -/
theorem summarizeFrames_shelf (shelf : Shelf sizeOf filter.sessionId streamId tables world) :
    QueryService.summarizeFrames world.database (projectTree sizeOf world) filter =
      .ok (.ofFrames filter.sessionId (acceptedOf filter tables)) := by
  obtain ⟨paths, handed, rows⟩ := filterPaths_shelf shelf
  have ascending : Ascending PyFrame.sequence (acceptedOf filter tables) := acceptedOf_ascending shelf.ascending
  rw [QueryService.summarizeFrames, handed, ok_bind, summarize_matching, rows]
  generalize acceptedOf filter tables = frames at ascending
  rw [summaryOf_frames ascending, ok_bind, ofFrames_check ascending]
  rfl

private theorem accepted_selected (filter : FrameFilter) (tables : List SegmentTable) :
    (acceptedOf filter tables).filter (fun frame => selects filter none (FrameRow.ofFrame frame)) =
      acceptedOf filter tables := by
  refine List.filter_eq_self.mpr fun frame member => ?_
  obtain ⟨captured, inside, rfl⟩ := List.mem_map.mp member
  exact (List.mem_filter.mp inside).2

theorem accepted_identities (filter : FrameFilter) (tables : List SegmentTable) :
    identities filter (acceptedOf filter tables) = (acceptedOf filter tables).map identityOf := by
  rw [identities, accepted_selected]
  rfl

/-- A histogram over a shelf is one of the accepted frames. -/
theorem countByArbitrationId_shelf {topN : Int} (shelf : Shelf sizeOf filter.sessionId streamId tables world)
    (positive : 0 < topN) (bounded : topN ≤ maxArbitrationIdTopN) :
    QueryService.CountByArbitrationId world.database (projectTree sizeOf world) filter topN result ↔
      ∃ groups, Ordered countOrder ((grouped ((acceptedOf filter tables).map identityOf)).map group) groups ∧
        ∃ counts, result = .ok counts ∧ counts.map ungroup = groups.take topN.toNat := by
  obtain ⟨paths, handed, rows⟩ := filterPaths_shelf shelf
  have required : requireTopN topN = .ok () := by
    rw [requireTopN, if_neg (Int.not_le.mpr positive), if_neg (Int.not_lt.mpr bounded)]
  have whole : matching (fun _ => (acceptedOf filter tables).map FrameRow.ofFrame) filter none ["segment"] =
      (acceptedOf filter tables).map FrameRow.ofFrame := by
    rw [matching, selected, List.flatMap_singleton, List.filter_map]
    exact congrArg (List.map _) (accepted_selected filter tables)
  rw [QueryService.CountByArbitrationId, required, handed]
  refine countByArbitrationId_matching.trans ?_
  rw [rows, ← whole, ← countByArbitrationId_matching, counts_stored stored_single, accepted_identities]

theorem typed_ok {Value : Type} {outcome : Except QueryError Value} {value : Value} :
    typed outcome = .ok value ↔ outcome = .ok value := by
  cases outcome with
  | error error => simp [typed]
  | ok held => simp [typed]

/-- What the plan names is what the engine is handed. -/
theorem candidatePaths_planned {session : DataSession} {segments : List DataSegment} {plan : QueryPlan}
    {paths : List String} (handed : candidatePaths (projectTree sizeOf world) session segments plan = .ok paths) :
    paths = plan.relativePaths := by
  refine (List.forall₂_eq_eq_eq ▸ (mapM_ok.mp handed).imp fun path candidate found => ?_ :
    plan.relativePaths = paths).symm
  obtain ⟨segment, held, through⟩ := bind_ok.mp found
  obtain ⟨resolved, -⟩ := candidatePath_ok.mp through
  have same : segment.relativePath = path := by
    rw [byPath] at held
    split at held
    · rename_i listed
      obtain rfl := Except.ok.inj held
      simpa using List.find?_some listed
    · cases held
  rw [← same]
  exact Except.ok.inj resolved

/-- The answers to the requests for aggregates at one snapshot describe the frames; the plan, for which no file is
opened, names the files that they scan. -/
structure Aggregates (sizeOf : StoredFile → Nat) (filter : FrameFilter) (world : World) (frames : List PyFrame) :
    Prop where
  summarized : QueryService.summarizeFrames world.database (projectTree sizeOf world) filter =
    .ok (.ofFrames filter.sessionId frames)
  answered : ∀ topN, 0 < topN → topN ≤ maxArbitrationIdTopN → ∃ counts,
    QueryService.CountByArbitrationId world.database (projectTree sizeOf world) filter topN (.ok counts)
  counted : ∀ topN result, 0 < topN → topN ≤ maxArbitrationIdTopN →
    QueryService.CountByArbitrationId world.database (projectTree sizeOf world) filter topN result →
    ∃ counts, result = .ok counts ∧ Histogram topN.toNat frames counts
  refused : ∀ topN result, topN ≤ 0 ∨ maxArbitrationIdTopN < topN →
    QueryService.CountByArbitrationId world.database (projectTree sizeOf world) filter topN result →
    ∃ error, result = .error (.typed error) ∧ error.kind = .validation
  planned : ∃ plan, QueryService.planFrames world.database filter none = .ok plan ∧
    filterPaths world.database (projectTree sizeOf world) filter = .ok plan.relativePaths

theorem aggregates_shelf (shelf : Shelf sizeOf filter.sessionId streamId tables world) :
    Aggregates sizeOf filter world (acceptedOf filter tables) := by
  refine ⟨summarizeFrames_shelf shelf, fun topN positive bounded => ?_, fun topN result positive bounded given => ?_,
    fun topN result outside given => ?_, ?_⟩
  · obtain ⟨groups, ordered⟩ := Ordered.exists countOrder_transitive countOrder_total
      ((grouped (identities filter (acceptedOf filter tables))).map group)
    obtain ⟨counts, -, read⟩ := groups_read fun row member => ordered.1.mem_iff.mp
      (List.mem_of_mem_take (i := topN.toNat) member)
    rw [accepted_identities] at ordered
    exact ⟨counts, (countByArbitrationId_shelf shelf positive bounded).mpr ⟨groups, ordered, counts, rfl, read⟩⟩
  · obtain ⟨groups, ordered, counts, rfl, read⟩ := (countByArbitrationId_shelf shelf positive bounded).mp given
    exact ⟨counts, rfl, histogram_groups ordered read⟩
  · obtain ⟨error, refused, kind⟩ := requireTopN_outside outside
    rw [QueryService.CountByArbitrationId, refused] at given
    exact ⟨error, given, kind⟩
  · obtain ⟨paths, handed, -⟩ := filterPaths_shelf shelf
    obtain ⟨⟨session, segments⟩, snapped, rest⟩ := bind_ok.mp handed
    obtain ⟨plan, made, found⟩ := bind_ok.mp rest
    have planned : planSegments (segments.map DataSegment.toSegmentRow) filter none = .ok plan := typed_ok.mp made
    refine ⟨plan, ?_, candidatePaths_planned found ▸ handed⟩
    rw [QueryService.planFrames, typed_ok.mp snapped]
    exact planned

end Snapshots

section Runs

variable {sizeOf : StoredFile → Nat} {query : FrameQuery} {streamId : String} {world : World} {state : Browsing}
variable {tables : List SegmentTable} {trace : List (Move × Unit)}

/-- The aggregates are those of the frames matched, now and at each request of the reader; what was matched then begins
what is matched now. Once there are no more pages, those of the last request are the aggregates of what was received. -/
structure Browsing.Aggregated (sizeOf : StoredFile → Nat) (query : FrameQuery) (state : Browsing) : Prop where
  current : ∃ now, matchedFrames query.filter state.sharing.world = some now ∧
    Aggregates sizeOf query.filter state.sharing.world now ∧
    ∀ request ∈ state.requests, ∃ frames, matchedFrames query.filter request.1 = some frames ∧
      Aggregates sizeOf query.filter request.1 frames ∧ frames <+: now
  drained : state.hasMore = false →
    ∃ last ∈ state.requests.getLast?, Aggregates sizeOf query.filter last.1 state.received

private theorem shelf_accepted (shelf : Shelf sizeOf query.filter.sessionId streamId tables world) :
    matchedFrames query.filter world = some (acceptedOf query.filter tables) := shelf_matched shelf

theorem Refines.aggregated {log : List (List Frame × Page Frame Nat)}
    (refines : Refines sizeOf query streamId state log) : state.Aggregated sizeOf query := by
  obtain ⟨tables, shelf⟩ := refines.attended.shelf
  refine ⟨⟨_, shelf_accepted shelf, aggregates_shelf shelf, fun request member => ?_⟩, fun ended => ?_⟩
  · obtain ⟨entry, inside, models⟩ := forall₂_right refines.models member
    obtain ⟨earlier, before, held⟩ := models.shelf
    refine ⟨_, shelf_accepted before, aggregates_shelf before, ?_⟩
    have grown := refines.grown entry inside tables shelf
    rw [held] at grown
    exact grown.map PyFrame.ofFrame
  · have nonempty := refines.requested.nonempty ended
    have latest : log.getLast? = some (log.getLast nonempty) := List.getLast?_eq_some_getLast nonempty
    obtain ⟨request, last, models⟩ := forall₂_last refines.models.flip latest
    obtain ⟨before, shelf, held⟩ := models.shelf
    refine ⟨request, last, ?_⟩
    have all := (refines.requested.exact query.limit_positive).covers ended _ latest
    rw [refines.received, all, held]
    exact aggregates_shelf shelf

/-- While a writer commits and others may end its session, every summary and every histogram of a query is that of the
frames which its filter has matched by then, none of which a later one takes back; when the pages have been followed to
their end, the aggregates of the last snapshot are those of the frames received. -/
theorem aggregates_exact (started : Started query.filter.sessionId world)
    (path : Path Browsing.step (Browsing.Allowed sizeOf query) (.opened world) trace state) :
    state.Aggregated sizeOf query := by
  obtain ⟨log, refines⟩ := Refines.run started path
  exact refines.aggregated

/-- Two frames are registered and received in two pages. -/
theorem aggregates_exact_drained : ∃ moves final,
    Path Browsing.step (Browsing.Allowed (fun _ => 100) pagedQuery) (.opened (sampleWorld 1 Nat.one_pos)) moves final ∧
      final.received.map PyFrame.sequence = [0, 1] ∧ final.hasMore = false ∧
      final.Aggregated (fun _ => 100) pagedQuery := by
  have started : Started pagedQuery.filter.sessionId (sampleWorld 1 Nat.one_pos) := sampleWorld_started 1 Nat.one_pos
  have two : recordedFrames sampleSessionId twoRecorded.world =
      some [Data.sampleFrame 0 first_unsigned, Data.sampleFrame 1 second_unsigned] := by decide +kernel
  obtain ⟨_, first⟩ := recordedSharing_path .refl (recordedTurns_honest 0 first_unsigned sampleSegmentId)
  obtain ⟨_, second⟩ := recordedSharing_path first (recordedTurns_honest 1 second_unsigned sampleProjectId)
  have firstPage := browsing_page started second rfl two rfl
  have secondPage := browsing_page started firstPage (by decide +kernel) two rfl
  exact ⟨_, _, secondPage, by decide +kernel, by decide +kernel, aggregates_exact started secondPage⟩

end Runs

end CanX.Query
