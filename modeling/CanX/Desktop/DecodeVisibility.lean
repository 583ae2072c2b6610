import CanX.Desktop.DecodeProgress

/-! Whether a frame that the decode loop no longer asks about still has an outcome: the loop
remembers what is in view, the decoded store what there is room for. -/

namespace CanX.Desktop

open Transition DecodedRealtimeStore

def RealtimeView.sequences (view : RealtimeView) : List Int :=
  ((view.snapshot.map FrameViewportSnapshot.frames).getD []).map RuntimeFrame.sequence

namespace DecodeWorkspace

variable {workspace next : DecodeWorkspace} {label : DecodeLabel} {output : DecodeOutput} {trace : DecodeTrace}
variable {request : DecodeRequest}

/-- Every sequence in view that would not be asked about again has an outcome. -/
def Shown (workspace : DecodeWorkspace) : Prop :=
  ∀ sequence ∈ workspace.coordinator.processed, sequence ∈ workspace.realtime.sequences →
    workspace.decoded.Records sequence

/-- An answer that is accepted displaces no outcome that the loop relies on: none of a sequence in view
that was or is answered. -/
def makesRoom (workspace : DecodeWorkspace) (request : DecodeRequest) (result : DecodedFrameSetResult) : Prop :=
  request.generation = workspace.coordinator.generation →
    ∀ sequence ∈ workspace.decoded.displacedBy (batchOf request result),
      sequence ∈ workspace.realtime.sequences → sequence ∉ workspace.coordinator.processed ∧
        sequence ∉ result.records.map fun record => record.frame.sequence

/-- A viewport of the stream the coordinator knows shows again, of the sequences that were answered,
only those that have an outcome. -/
def returnsShown (workspace : DecodeWorkspace) (view : RealtimeView) : Prop :=
  workspace.coordinator.subscribed = true ∧ view.streamId ≠ workspace.coordinator.streamId ∨
    ∀ sequence ∈ workspace.coordinator.processed, sequence ∈ view.sequences →
      sequence ∈ workspace.realtime.sequences ∨ sequence ∈ workspace.decoded.recorded

def keepsVisible (workspace : DecodeWorkspace) : DecodeLabel → Prop
  | .realtime view => workspace.returnsShown view
  | .resolved number result =>
    ∀ request ∈ workspace.requests, request.number = number → workspace.makesRoom request result
  | _ => True

theorem passOver_sequences {projectPath streamId : String} {frames : List RuntimeFrame}
    (past : workspace.passOver = some (projectPath, streamId, frames)) :
    workspace.realtime.sequences = frames.map RuntimeFrame.sequence := by
  obtain ⟨_, _, viewport⟩ := passOver_some past
  obtain ⟨snapshot, present, named⟩ := Option.bind_eq_some_iff.mp viewport
  obtain ⟨stream, _, same⟩ := Option.map_eq_some_iff.mp named
  simp only [Prod.mk.injEq] at same
  rw [RealtimeView.sequences, present, ← same.2]
  rfl

private theorem retain_shown : workspace.retain.Shown ↔ workspace.Shown := by
  unfold retain
  split
  · rfl
  · rename_i projectPath streamId frames past
    have seen := (passOver_sequences past).symm
    constructor
    · intro shown sequence processed visible
      exact shown sequence (mem_retainVisibleSequences.mpr ⟨processed, seen ▸ visible⟩) visible
    · intro shown sequence processed visible
      exact shown sequence (mem_retainVisibleSequences.mp processed).1 visible

/-- A pass forgets only what is out of view, and records nothing. -/
theorem pump_shown : Shown workspace.pump.1 ↔ workspace.Shown := by
  rcases workspace.pump_cases with ⟨_, same⟩ | ⟨_, _, same⟩ | ⟨request, _, _, same⟩
  · rw [same]
  · rw [same]
    exact retain_shown
  · rw [same]
    exact retain_shown

theorem unanswered_shown (none_ : workspace.coordinator.processed = []) : workspace.Shown := by
  intro sequence member
  rw [none_] at member
  cases member

theorem afterRealtime_shown : workspace.afterRealtime.Shown ↔
    workspace.realtime.streamId ≠ workspace.coordinator.streamId ∨ workspace.Shown := by
  unfold afterRealtime
  split
  · rename_i changed
    exact iff_of_true (unanswered_shown rfl) (.inl changed)
  · rename_i same
    exact (or_iff_right same).symm

theorem afterSession_shown (shown : workspace.Shown) : workspace.afterSession.Shown := by
  unfold afterSession
  split
  · exact shown
  · exact unanswered_shown rfl

/-- What is in view of another viewport of the same stream. -/
theorem shown_view (shown : workspace.Shown) (view : RealtimeView) :
    Shown { workspace with realtime := view } ↔
      ∀ sequence ∈ workspace.coordinator.processed, sequence ∈ view.sequences →
        sequence ∈ workspace.realtime.sequences ∨ sequence ∈ workspace.decoded.recorded := by
  constructor
  · intro later sequence processed visible
    exact .inr (records_iff.mp (later sequence processed visible))
  · intro returns sequence processed visible
    rcases returns sequence processed visible with before | recorded
    · exact shown sequence processed before
    · exact records_iff.mpr recorded

private theorem resolve_shown (shown : workspace.Shown) {result : DecodedFrameSetResult} :
    Shown (workspace.resolve request result).1 ↔ workspace.makesRoom request result := by
  unfold resolve makesRoom
  by_cases current : request.generation = workspace.coordinator.generation
  · rw [if_neg (not_not.mpr current)]
    have answered : (batchOf request result).entries.map (fun entry => entry.frame.sequence) =
        result.records.map fun record => record.frame.sequence := by
      rw [batchOf, List.map_map]
      rfl
    constructor
    · intro later _ sequence displaced visible
      rw [← not_or]
      intro suppressed
      have known : sequence ∈ workspace.decoded.recorded ∨
          sequence ∈ (batchOf request result).entries.map fun entry => entry.frame.sequence := by
        rw [answered]
        exact suppressed.imp_left fun processed => records_iff.mp (shown sequence processed visible)
      have kept := records_iff.mp (later sequence (mem_addProcessed.mpr suppressed) visible)
      exact (mem_applyBatch known).mp kept displaced
    · intro room sequence suppressed visible
      have either := mem_addProcessed.mp suppressed
      have known : sequence ∈ workspace.decoded.recorded ∨
          sequence ∈ (batchOf request result).entries.map fun entry => entry.frame.sequence := by
        rw [answered]
        exact either.imp_left fun processed => records_iff.mp (shown sequence processed visible)
      refine records_iff.mpr ((mem_applyBatch known).mpr fun displaced => ?_)
      obtain ⟨unprocessed, unanswered⟩ := room current sequence displaced visible
      exact either.elim unprocessed unanswered
  · rw [if_pos current]
    exact iff_of_true shown fun same => absurd same current

/-- A step keeps every suppressed sequence in view recorded exactly if it makes room for its answer and
brings nothing back without its outcome. -/
theorem step_shown (numbered : workspace.Numbered) (shown : workspace.Shown)
    (moved : workspace.step label = some (next, output)) : next.Shown ↔ workspace.keepsVisible label := by
  cases step_moves moved with
  | start off =>
    refine iff_of_true ?_ trivial
    rw [start, onRealtime_pump]
    exact pump_shown.mpr (afterRealtime_shown.mpr (.inr shown))
  | dispose => exact iff_of_true shown trivial
  | realtime view _ on moves =>
    subst moves
    rw [onRealtime_pump, pump_shown, afterRealtime_shown, shown_view shown]
    exact or_congr (and_iff_right on).symm Iff.rfl
  | realtimeUnwatched view off =>
    rw [shown_view shown]
    refine (or_iff_right ?_).symm
    rintro ⟨on, _⟩
    exact absurd (on.symm.trans off) (by decide)
  | unchanged call nothing => exact iff_of_true shown trivial
  | session call session _ performed on moves =>
    subst moves
    refine iff_of_true ?_ trivial
    rw [onSession_pump]
    exact pump_shown.mpr (afterSession_shown shown)
  | sessionUnwatched call session performed off => exact iff_of_true shown trivial
  | resolved number result request present same unsettled answers =>
    have settled : (workspace.settle number).Shown := shown
    refine (resolve_shown settled).trans ⟨fun room other member equal => ?_, fun room => room request present same⟩
    have identical : other = request :=
      List.inj_on_of_nodup_map numbered.distinct member present (equal.trans same.symm)
    rw [identical]
    exact room
  | rejected number cause request present same unsettled =>
    refine iff_of_true ?_ trivial
    unfold reject
    split
    · exact shown
    · exact shown
  | completed number request present same settled =>
    refine iff_of_true ?_ trivial
    exact pump_shown.mpr shown

/-- A viewport of more frames of answering assets than there is room for ends with one that is suppressed
and has no outcome. -/
theorem Progress.crowded {start : DecodeWorkspace} {fails : String → Bool} {projectPath streamId : String}
    {frames : List RuntimeFrame} {rounds : String → Nat}
    (progress : Progress start fails projectPath streamId frames rounds workspace)
    (distinct : (frames.map RuntimeFrame.sequence).Nodup) (nothing : workspace.NothingDue)
    (answers : ∀ frame ∈ frames, answerable start.session.assetForChannel fails frame = true)
    (crowd : start.decoded.capacity < frames.length) : ¬ workspace.Shown := by
  intro shown
  have allowed : ∀ frame ∈ frames, unanswerable start.session.assetForChannel fails frame = false := by
    intro frame member
    obtain ⟨assetId, bound, answering⟩ := answerable_iff.mp (answers frame member)
    simp [unanswerable, bound, answering]
  have recorded : ∀ frame ∈ frames, answerable start.session.assetForChannel fails frame = true →
      workspace.decoded.Records frame.sequence := by
    intro frame member answering
    obtain ⟨assetId, bound, _⟩ := answerable_iff.mp answering
    have served : frame ∈ start.served fails frames assetId := by
      refine mem_framesOf.mpr ⟨?_, bound⟩
      rw [beforeFailing_answered allowed]
      exact member
    refine shown _ (progress.served_answered nothing served) ?_
    rw [passOver_sequences progress.past]
    exact List.mem_map_of_mem member
  have room := ((progress.records_iff distinct nothing).mp recorded).kept
  rw [List.filter_eq_self.mpr answers] at room
  omega

end DecodeWorkspace

open DecodeWorkspace

/-- Throughout a run every suppressed sequence in view has an outcome exactly if no answer displaces one of
these and no viewport brings one back. -/
theorem decodeLoop_shows {capacity maxWorkSetFrames : Nat} {room : 1 ≤ capacity}
    {positive : 1 ≤ maxWorkSetFrames} {trace : DecodeTrace} {workspace : DecodeWorkspace}
    (path : Path DecodeWorkspace.step anyLabel (.create capacity maxWorkSetFrames room positive) trace workspace) :
    Throughout DecodeWorkspace.step Shown (.create capacity maxWorkSetFrames room positive) trace ↔
      Path DecodeWorkspace.step keepsVisible (.create capacity maxWorkSetFrames room positive) trace workspace :=
  path.throughout_iff Numbered Shown
    ⟨List.nodup_nil, fun request member => by cases member⟩ (unanswered_shown rfl)
    (fun _ _ _ _ numbered moved => numbered.step moved)
    (fun _ _ _ _ numbered shown moved => step_shown numbered shown moved)

section Sample

instance (workspace : DecodeWorkspace) (label : DecodeLabel) : Decidable (workspace.keepsVisible label) :=
  match label with
  | .realtime view => inferInstanceAs (Decidable (_ ∧ _ ∨ ∀ sequence ∈ workspace.coordinator.processed,
      sequence ∈ view.sequences → _))
  | .resolved number result => inferInstanceAs (Decidable (∀ request ∈ workspace.requests,
      request.number = number → request.generation = workspace.coordinator.generation →
        ∀ sequence ∈ workspace.decoded.displacedBy (batchOf request result), _))
  | .start | .dispose | .session _ | .rejected _ _ | .completed _ => .isTrue trivial

/-- The store and the work sets as the application makes them, a project with one bound channel. -/
def defaultOpened : DecodeWorkspace :=
  ((follow DecodeWorkspace.step (.create defaultDecodedCapacity maxWorkSetFrames (by decide) (by decide))
    (sampleStart ["a"]).dropLast).map Prod.fst).getD
      (.create defaultDecodedCapacity maxWorkSetFrames (by decide) (by decide))

def sampleFrames (count : Nat) : List RuntimeFrame :=
  (List.range count).map fun (number : Nat) => sampleFrame (number : Int) "a"

private theorem sampleFrames_distinct (count : Nat) : ((sampleFrames count).map RuntimeFrame.sequence).Nodup := by
  rw [sampleFrames, List.map_map]
  exact List.nodup_range.map fun one two same => Int.ofNat_inj.mp same

/-- Every viewport of more frames than the decoded store has room for leads there. -/
theorem crowded_reached {count : Nat} (crowd : defaultDecodedCapacity < count) :
    ∃ (trace : DecodeTrace) (workspace : DecodeWorkspace), Path DecodeWorkspace.step anyLabel
      (.create defaultDecodedCapacity maxWorkSetFrames (by decide) (by decide)) trace workspace ∧
        ¬ workspace.Shown := by
  have setup : (follow DecodeWorkspace.step
      (.create defaultDecodedCapacity maxWorkSetFrames (by decide) (by decide))
      (sampleStart ["a"]).dropLast).isSome = true := by decide +kernel
  obtain ⟨⟨opened, before⟩, followed⟩ := Option.isSome_iff_exists.mp setup
  have same : defaultOpened = opened := by rw [defaultOpened, followed]; rfl
  have reached : Path DecodeWorkspace.step anyLabel
      (.create defaultDecodedCapacity maxWorkSetFrames (by decide) (by decide)) before opened :=
    .of_follow (fun _ _ _ => trivial) followed
  subst same
  have off : defaultOpened.coordinator.subscribed = false := by decide +kernel
  have idle : defaultOpened.requests = [] := by decide +kernel
  have clear : defaultOpened.coordinator.inFlight = false := by decide +kernel
  have project : defaultOpened.session.projectPath = some "p" := by decide +kernel
  have fresh : defaultOpened.coordinator.streamId = none := by decide +kernel
  have bound : defaultOpened.session.assetForChannel "a" = some "a" := by decide +kernel
  have room : defaultOpened.decoded.capacity = defaultDecodedCapacity := by decide +kernel
  generalize defaultOpened = opened at *
  let showing : DecodeWorkspace := { opened with realtime := sampleView (sampleFrames count) }
  have unseen : showing.realtime.streamId ≠ showing.coordinator.streamId := by
    have known : showing.coordinator.streamId = none := fresh
    rw [known]
    exact Option.some_ne_none _
  have begins : showing.subscribe.afterRealtime.Begins "p" "s" (sampleFrames count) :=
    begins_of_start idle clear project rfl unseen
  have pass : showing.subscribe.afterRealtime = showing.subscribe.resetStream := if_pos unseen
  have shown : opened.step (.realtime (sampleView (sampleFrames count))) =
      some (showing, ⟨[], some "s" ≠ opened.realtime.streamId⟩) := by
    simp only [DecodeWorkspace.step, off]
    rfl
  have started : showing.step .start = some (quietly showing.start) := step_start off
  have begun : (quietly showing.start).1 = showing.subscribe.afterRealtime.pump.1 := onRealtime_pump
  have initial : Progress showing.subscribe.afterRealtime (fun _ => false) "p" "s" (sampleFrames count)
      (fun _ => 0) showing.subscribe.afterRealtime := begins.progress
  have underway : Underway showing.subscribe.afterRealtime (fun _ => false) "p" "s" (sampleFrames count)
      showing.subscribe.afterRealtime.pump.1 := begins.underway
  obtain ⟨trace, final, path, rest⟩ := underway.rests (sampleFrames_distinct count)
    (initial.pump_asks begins.idle).2 (.failure "dbc.frame_failed")
  obtain ⟨rounds, progress, nothing⟩ := (underway.run (sampleFrames_distinct count) path).at_rest rest
  have front : Path DecodeWorkspace.step anyLabel
      (.create defaultDecodedCapacity maxWorkSetFrames (by decide) (by decide)) _ (quietly showing.start).1 :=
    (reached.snoc trivial shown).snoc trivial started
  rw [begun] at front
  refine ⟨_, final, front.trans path.anyLabel, progress.crowded (sampleFrames_distinct count) nothing ?_ ?_⟩
  · intro frame member
    obtain ⟨number, _, rfl⟩ := List.mem_map.mp member
    refine answerable_iff.mpr ⟨"a", ?_, rfl⟩
    rw [pass]
    exact bound
  · have held : showing.subscribe.resetStream.decoded.capacity = showing.decoded.capacity := reset_capacity
    have length : (sampleFrames count).length = count := by simp [sampleFrames]
    rw [pass, held, length]
    exact room ▸ crowd

/-- A viewport of the Worker leaves the loop with a suppressed frame that has no outcome. -/
theorem decodeLoop_hides : ¬ ∀ (trace : DecodeTrace) (workspace : DecodeWorkspace),
    Path DecodeWorkspace.step anyLabel
      (.create defaultDecodedCapacity maxWorkSetFrames (by decide) (by decide)) trace workspace →
    workspace.Shown := by
  intro shows
  obtain ⟨trace, workspace, path, hidden⟩ := crowded_reached (Nat.lt_succ_self defaultDecodedCapacity)
  exact hidden (shows trace workspace path)

/-- One visible frame, asked about and answered. -/
def shownSchedule : List DecodeLabel :=
  sampleStart ["a"] ++ [.realtime (sampleView [sampleFrame 1 "a"]),
    .resolved 0 (sampleAnswer [sampleFrame 1 "a"]), .completed 0]

theorem decodeLoop_shows_answer : ∃ (trace : DecodeTrace) (workspace : DecodeWorkspace),
    Path DecodeWorkspace.step anyLabel (.create 1 1 (by decide) (by decide)) trace workspace ∧
      workspace.coordinator.processed = [1] ∧
      Throughout DecodeWorkspace.step Shown (.create 1 1 (by decide) (by decide)) trace := by
  have evaluated : (followWithin DecodeWorkspace.step (fun state label => decide (state.keepsVisible label))
      (.create 1 1 (by decide) (by decide)) shownSchedule).map
        (fun reached : DecodeWorkspace × DecodeTrace => reached.1.coordinator.processed) = some [1] := by
    decide +kernel
  obtain ⟨trace, workspace, path, one⟩ := Path.observedWithin _ _ _ (fun _ _ => of_decide_eq_true) evaluated
  exact ⟨trace, workspace, path.anyLabel, one, (decodeLoop_shows path.anyLabel).mpr path⟩

/-- With room for one outcome the second answer displaces that of the first frame, which stays suppressed. -/
example : (follow DecodeWorkspace.step (.create 1 1 (by decide) (by decide)) (sampleStart ["a"] ++
    [.realtime (sampleView [sampleFrame 1 "a", sampleFrame 2 "a"]), .resolved 0 (sampleAnswer [sampleFrame 1 "a"]),
      .completed 0, .resolved 1 (sampleAnswer [sampleFrame 2 "a"]), .completed 1])).map
        (fun reached : DecodeWorkspace × DecodeTrace =>
          (reached.1.coordinator.processed, reached.1.decoded.recorded)) = some ([1, 2], [2]) := by
  decide +kernel

end Sample

end CanX.Desktop
