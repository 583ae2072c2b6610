import Mathlib.Data.List.Perm.Subperm
import Mathlib.Data.List.TakeWhile
import Mathlib.Tactic.ByContra
import CanX.Desktop.DecodeExclusion

/-! How far the decode loop gets with one viewport, where some assets always fail: each pass
asks for the asset that comes first, and the first one that fails blocks the rest. -/

namespace CanX.Desktop

open Transition DecodedRealtimeStore

section Viewports

variable {assetForChannel : String → Option String} {fails : String → Bool} {frames : List RuntimeFrame}
variable {pending : RuntimeFrame → Bool} {assetId : String} {frame : RuntimeFrame}

/-- The channel of a frame is bound to an asset that answers. -/
def answerable (assetForChannel : String → Option String) (fails : String → Bool) (frame : RuntimeFrame) : Bool :=
  match assetForChannel frame.channelId with
  | none => false
  | some assetId => !fails assetId

/-- The channel of a frame is bound to an asset that fails. -/
def unanswerable (assetForChannel : String → Option String) (fails : String → Bool) (frame : RuntimeFrame) :
    Bool :=
  match assetForChannel frame.channelId with
  | none => false
  | some assetId => fails assetId

/-- The frames before the first one of an asset that fails. -/
def beforeFailing (assetForChannel : String → Option String) (fails : String → Bool)
    (frames : List RuntimeFrame) : List RuntimeFrame :=
  frames.takeWhile fun frame => !unanswerable assetForChannel fails frame

/-- The requests that a number of frames of one asset takes. -/
def requestsFor (maxFramesPerSet count : Nat) : Nat := (count + maxFramesPerSet - 1) / maxFramesPerSet

theorem lt_requestsFor {bound rounds count : Nat} (positive : 1 ≤ bound) (short : rounds * bound < count) :
    rounds < requestsFor bound count := by
  refine (Nat.le_div_iff_mul_le positive).mpr ?_
  rw [Nat.succ_mul]
  omega

theorem requestsFor_le {bound rounds count : Nat} (positive : 1 ≤ bound) (enough : count ≤ rounds * bound) :
    requestsFor bound count ≤ rounds := by
  refine Nat.lt_succ_iff.mp ((Nat.div_lt_iff_lt_mul positive).mpr ?_)
  rw [Nat.succ_mul]
  omega

theorem answerable_iff : answerable assetForChannel fails frame = true ↔
    ∃ assetId, assetForChannel frame.channelId = some assetId ∧ fails assetId = false := by
  unfold answerable
  split
  · rename_i unbound
    simp [unbound]
  · rename_i assetId bound
    simp [bound]

theorem unanswerable_iff : unanswerable assetForChannel fails frame = true ↔
    ∃ assetId, assetForChannel frame.channelId = some assetId ∧ fails assetId = true := by
  unfold unanswerable
  split
  · rename_i unbound
    simp [unbound]
  · rename_i assetId bound
    simp [bound]

theorem mem_framesOf : frame ∈ framesOf assetForChannel frames assetId ↔
    frame ∈ frames ∧ assetForChannel frame.channelId = some assetId := by
  simp [framesOf]

/-- Where an asset that answers comes first among what is pending, a frame of it is pending
before any of an asset that fails. -/
theorem firstAsset_answering (held : ∀ frame ∈ frames, unanswerable assetForChannel fails frame = true →
      pending frame = true) (first : firstAsset assetForChannel (frames.filter pending) = some assetId)
    (answers : fails assetId = false) :
    ∃ frame ∈ beforeFailing assetForChannel fails frames,
      pending frame = true ∧ assetForChannel frame.channelId = some assetId := by
  induction frames with
  | nil => cases first
  | cons frame rest ih =>
    have heldRest : ∀ frame ∈ rest, unanswerable assetForChannel fails frame = true → pending frame = true :=
      fun frame member => held frame (List.mem_cons_of_mem _ member)
    by_cases failing : unanswerable assetForChannel fails frame = true
    · obtain ⟨failed, bound, refuses⟩ := unanswerable_iff.mp failing
      rw [List.filter_cons_of_pos (held frame List.mem_cons_self failing), firstAsset, List.findSome?_cons,
        bound] at first
      cases first
      exact absurd (refuses.symm.trans answers) (by decide)
    · have clean : beforeFailing assetForChannel fails (frame :: rest) =
          frame :: beforeFailing assetForChannel fails rest := by
        rw [beforeFailing, List.takeWhile_cons_of_pos (by simpa using failing)]
        rfl
      have later : firstAsset assetForChannel (rest.filter pending) = some assetId →
          ∃ other ∈ beforeFailing assetForChannel fails (frame :: rest),
            pending other = true ∧ assetForChannel other.channelId = some assetId := by
        intro found
        obtain ⟨other, member, waits, bound⟩ := ih heldRest found
        exact ⟨other, clean ▸ List.mem_cons_of_mem _ member, waits, bound⟩
      by_cases waits : pending frame = true
      · rw [List.filter_cons_of_pos waits, firstAsset, List.findSome?_cons] at first
        split at first
        · rename_i found bound
          cases first
          exact ⟨frame, clean ▸ List.mem_cons_self, waits, bound⟩
        · exact later first
      · rw [List.filter_cons_of_neg waits] at first
        exact later first

/-- Where an asset that fails comes first among what is pending, or none does, nothing bound is
pending before it. -/
theorem firstAsset_failing (held : ∀ frame ∈ frames, unanswerable assetForChannel fails frame = true →
      pending frame = true)
    (first : ∀ assetId, firstAsset assetForChannel (frames.filter pending) = some assetId → fails assetId = true)
    (member : frame ∈ beforeFailing assetForChannel fails frames) (waits : pending frame = true) :
    assetForChannel frame.channelId = none := by
  induction frames with
  | nil => cases member
  | cons head rest ih =>
    have heldRest : ∀ frame ∈ rest, unanswerable assetForChannel fails frame = true → pending frame = true :=
      fun frame member => held frame (List.mem_cons_of_mem _ member)
    by_cases failing : unanswerable assetForChannel fails head = true
    · rw [beforeFailing, List.takeWhile_cons_of_neg (by simpa using failing)] at member
      cases member
    · rw [beforeFailing, List.takeWhile_cons_of_pos (by simpa using failing)] at member
      by_cases here : pending head = true
      · rw [List.filter_cons_of_pos here, firstAsset, List.findSome?_cons] at first
        cases bound : assetForChannel head.channelId with
        | none =>
          rw [bound] at first
          rcases List.mem_cons.mp member with rfl | later
          · exact bound
          · exact ih heldRest first later
        | some owner =>
          rw [bound] at first
          exact absurd (unanswerable_iff.mpr ⟨owner, bound, first owner rfl⟩) failing
      · rw [List.filter_cons_of_neg here] at first
        rcases List.mem_cons.mp member with rfl | later
        · exact absurd waits here
        · exact ih heldRest first later

/-- What is not among the first of a list without repetitions comes after them. -/
theorem filter_beyond {items : List RuntimeFrame} (distinct : items.Nodup) (count : Nat)
    (beyond : ∀ item ∈ items, pending item = true ↔ item ∉ items.take count) :
    items.filter pending = items.drop count := by
  have halves : items.take count ++ items.drop count = items := List.take_append_drop count items
  have apart := (List.nodup_append.mp (halves ▸ distinct)).2.2
  have early : (items.take count).filter pending = [] := by
    refine List.filter_eq_nil_iff.mpr fun item taken waits => ?_
    exact (beyond item (List.mem_of_mem_take taken)).mp waits taken
  have late : (items.drop count).filter pending = items.drop count := by
    refine List.filter_eq_self.mpr fun item dropped => ?_
    exact (beyond item (List.mem_of_mem_drop dropped)).mpr fun taken => apart item taken item dropped rfl
  calc items.filter pending = (items.take count ++ items.drop count).filter pending := by rw [halves]
    _ = items.drop count := by rw [List.filter_append, early, late, List.nil_append]

end Viewports

namespace DecodeWorkspace

variable {start workspace now next pass : DecodeWorkspace} {label : DecodeLabel} {output : DecodeOutput}
variable {fails : String → Bool} {frames : List RuntimeFrame} {projectPath streamId assetId : String}
variable {request : DecodeRequest} {rounds : String → Nat} {frame : RuntimeFrame}

/-- A decode function that always fails some assets and answers the others; nothing else happens. -/
def answering (fails : String → Bool) (workspace : DecodeWorkspace) : DecodeLabel → Prop
  | .resolved number _ =>
    ∀ request ∈ workspace.requests, request.number = number → fails request.input.assetId = false
  | .rejected number _ =>
    ∀ request ∈ workspace.requests, request.number = number → fails request.input.assetId = true
  | .completed _ => True
  | _ => False

instance (fails : String → Bool) (workspace : DecodeWorkspace) (label : DecodeLabel) :
    Decidable (workspace.answering fails label) :=
  match label with
  | .resolved number _ => inferInstanceAs (Decidable (∀ request ∈ workspace.requests,
      request.number = number → fails request.input.assetId = false))
  | .rejected number _ => inferInstanceAs (Decidable (∀ request ∈ workspace.requests,
      request.number = number → fails request.input.assetId = true))
  | .completed _ => .isTrue trivial
  | .start | .dispose | .realtime _ | .session _ => .isFalse id

/-- The frames of an asset in a viewport, under the bindings of the session. -/
def owned (workspace : DecodeWorkspace) (frames : List RuntimeFrame) (assetId : String) : List RuntimeFrame :=
  framesOf workspace.session.assetForChannel frames assetId

/-- Those of them that come before the first frame of an asset that fails. -/
def served (workspace : DecodeWorkspace) (fails : String → Bool) (frames : List RuntimeFrame) (assetId : String) :
    List RuntimeFrame :=
  framesOf workspace.session.assetForChannel (beforeFailing workspace.session.assetForChannel fails frames) assetId

/-- A pass over a viewport of which nothing has been answered, while no request is out. -/
structure Begins (pass : DecodeWorkspace) (projectPath streamId : String) (frames : List RuntimeFrame) :
    Prop where
  past : pass.passOver = some (projectPath, streamId, frames)
  idle : pass.requests = []
  clear : pass.coordinator.inFlight = false
  unanswered : pass.coordinator.processed = []
  unblocked : pass.coordinator.blockedSignature = none
  unrecorded : pass.decoded.entries.entries = []

/-- Of each asset, some number of full work sets has been answered, none of an asset that fails;
the newest answers are recorded. -/
structure Progress (start : DecodeWorkspace) (fails : String → Bool) (projectPath streamId : String)
    (frames : List RuntimeFrame) (rounds : String → Nat) (now : DecodeWorkspace) : Prop where
  session : now.session = start.session
  past : now.passOver = some (projectPath, streamId, frames)
  bound : now.coordinator.maxWorkSetFrames = start.coordinator.maxWorkSetFrames
  room : now.decoded.capacity = start.decoded.capacity
  answered : ∀ sequence ∈ now.coordinator.processed, ∃ frame ∈ frames,
    answerable start.session.assetForChannel fails frame = true ∧ frame.sequence = sequence
  reached : ∀ assetId, ∀ frame ∈ start.owned frames assetId, frame.sequence ∈ now.coordinator.processed ↔
    frame ∈ (start.owned frames assetId).take (rounds assetId * start.coordinator.maxWorkSetFrames)
  within : ∀ assetId, rounds assetId ≤
    requestsFor start.coordinator.maxWorkSetFrames (start.served fails frames assetId).length
  once : now.coordinator.processed.Nodup
  recorded : now.decoded.recorded = latest start.decoded.capacity now.coordinator.processed
  stream : now.decoded.state.streamId = some streamId ∨ now.decoded.entries.entries = []
  blocked : now.coordinator.blockedSignature = none ∨
    now.coordinator.blockedSignature = some ⟨streamId, (now.pendingIn frames).map RuntimeFrame.sequence⟩ ∧
      ∃ assetId, firstAsset start.session.assetForChannel (now.pendingIn frames) = some assetId ∧
        fails assetId = true

/-- The one request that may be out. -/
inductive Stage (start : DecodeWorkspace) (projectPath streamId : String) (frames : List RuntimeFrame)
    (now : DecodeWorkspace) : Prop
  | rest (idle : now.requests = []) (nothing : now.NothingDue)
  | asked (request : DecodeRequest) (assetId : String) (single : now.requests = [request])
      (unsettled : request.settled = false)
    (current : request.generation = now.coordinator.generation)
    (signature : request.signature = ⟨streamId, (now.pendingIn frames).map RuntimeFrame.sequence⟩)
    (first : firstAsset start.session.assetForChannel (now.pendingIn frames) = some assetId)
    (input : request.input = ⟨projectPath, assetId, streamId,
      (framesOf start.session.assetForChannel (now.pendingIn frames) assetId).take
        start.coordinator.maxWorkSetFrames⟩)
  | handled (request : DecodeRequest) (single : now.requests = [request]) (settled : request.settled = true)

section Lists

theorem served_first (start : DecodeWorkspace) (fails : String → Bool) (frames : List RuntimeFrame)
    (assetId : String) : ∃ rest, start.owned frames assetId = start.served fails frames assetId ++ rest := by
  have parts : frames = beforeFailing start.session.assetForChannel fails frames ++
      frames.dropWhile fun frame => !unanswerable start.session.assetForChannel fails frame :=
    List.takeWhile_append_dropWhile.symm
  unfold owned served framesOf
  refine ⟨(frames.dropWhile fun frame => !unanswerable start.session.assetForChannel fails frame).filter
    fun frame => start.session.assetForChannel frame.channelId = some assetId, ?_⟩
  rw [← List.filter_append, ← parts]

theorem mem_owned : frame ∈ start.owned frames assetId ↔
    frame ∈ frames ∧ start.session.assetForChannel frame.channelId = some assetId := mem_framesOf

theorem owned_nodup (distinct : (frames.map RuntimeFrame.sequence).Nodup) : (start.owned frames assetId).Nodup :=
  distinct.of_map.sublist List.filter_sublist

theorem mem_pendingIn : frame ∈ workspace.pendingIn frames ↔
    frame ∈ frames ∧ frame.sequence ∉ workspace.coordinator.processed := by
  simp [pendingIn]

private theorem framesOf_pendingIn : framesOf start.session.assetForChannel (workspace.pendingIn frames) assetId =
    (start.owned frames assetId).filter fun frame => frame.sequence ∉ workspace.coordinator.processed := by
  unfold framesOf pendingIn owned framesOf
  rw [List.filter_filter, List.filter_filter]
  exact List.filter_congr fun frame _ => Bool.and_comm _ _

end Lists

section Lemmas

/-- No frame of an asset that fails has been answered. -/
theorem Progress.untouched (progress : Progress start fails projectPath streamId frames rounds now)
    (failing : unanswerable start.session.assetForChannel fails frame = true)
    (visible : frame ∈ frames) : frame.sequence ∉ now.coordinator.processed := by
  obtain ⟨assetId, bound, refuses⟩ := unanswerable_iff.mp failing
  have none_ : start.served fails frames assetId = [] := by
    refine List.filter_eq_nil_iff.mpr fun other member owned => ?_
    have clean : unanswerable start.session.assetForChannel fails other = false := by
      simpa using List.mem_takeWhile_imp member
    have refused : unanswerable start.session.assetForChannel fails other = true :=
      unanswerable_iff.mpr ⟨assetId, by simpa using owned, refuses⟩
    exact absurd (refused.symm.trans clean) (by decide)
  have still : rounds assetId = 0 := by
    have bounded := progress.within assetId
    rw [none_] at bounded
    have zero : requestsFor start.coordinator.maxWorkSetFrames 0 ≤ 0 :=
      requestsFor_le start.coordinator.positive (Nat.zero_le _)
    exact Nat.le_zero.mp (bounded.trans zero)
  rw [progress.reached assetId frame (mem_owned.mpr ⟨visible, bound⟩), still]
  simp

theorem Progress.pending_owned (progress : Progress start fails projectPath streamId frames rounds now)
    (distinct : (frames.map RuntimeFrame.sequence).Nodup) (assetId : String) :
    framesOf start.session.assetForChannel (now.pendingIn frames) assetId =
      (start.owned frames assetId).drop (rounds assetId * start.coordinator.maxWorkSetFrames) := by
  rw [framesOf_pendingIn]
  refine filter_beyond (owned_nodup distinct) _ fun frame member => ?_
  rw [decide_eq_true_eq, progress.reached assetId frame member]

theorem beforeFailing_answered {assetForChannel : String → Option String}
    (answers : ∀ frame ∈ frames, unanswerable assetForChannel fails frame = false) :
    beforeFailing assetForChannel fails frames = frames :=
  List.takeWhile_eq_self_iff.mpr fun frame member => by rw [answers frame member]; rfl

/-- An asset that answers and comes first has frames left before any of an asset that fails. -/
theorem Progress.first_within (progress : Progress start fails projectPath streamId frames rounds now)
    (first : firstAsset start.session.assetForChannel (now.pendingIn frames) = some assetId)
    (answers : fails assetId = false) :
    rounds assetId < requestsFor start.coordinator.maxWorkSetFrames (start.served fails frames assetId).length := by
  have held : ∀ frame ∈ frames, unanswerable start.session.assetForChannel fails frame = true →
      decide (frame.sequence ∉ now.coordinator.processed) = true :=
    fun frame visible failing => decide_eq_true (progress.untouched failing visible)
  obtain ⟨frame, early, waits, bound⟩ := firstAsset_answering held first answers
  refine lt_requestsFor start.coordinator.positive (Nat.lt_of_not_le fun enough => ?_)
  obtain ⟨rest, split⟩ := start.served_first fails frames assetId
  have member : frame ∈ start.served fails frames assetId := mem_framesOf.mpr ⟨early, bound⟩
  have owned : frame ∈ start.owned frames assetId := by
    rw [split]
    exact List.mem_append_left _ member
  have taken : frame ∈ (start.owned frames assetId).take
      (rounds assetId * start.coordinator.maxWorkSetFrames) := by
    rw [split, List.take_append, List.take_of_length_le enough]
    exact List.mem_append_left _ member
  exact of_decide_eq_true waits ((progress.reached assetId frame owned).mpr taken)

private theorem retain_visible (past : workspace.passOver = some (projectPath, streamId, frames))
    (visible : ∀ sequence ∈ workspace.coordinator.processed, sequence ∈ frames.map RuntimeFrame.sequence) :
    workspace.retain = workspace := by
  have kept : retainVisibleSequences workspace.coordinator.processed frames = workspace.coordinator.processed :=
    List.filter_eq_self.mpr fun sequence member => decide_eq_true (visible sequence member)
  simp only [retain, past, kept]

theorem Progress.retain_eq (progress : Progress start fails projectPath streamId frames rounds now) :
    now.retain = now :=
  retain_visible progress.past fun sequence member => by
    obtain ⟨frame, visible, _, rfl⟩ := progress.answered sequence member
    exact List.mem_map_of_mem visible

/-- A pass while no request is out finds nothing to ask, or asks for the asset that comes first. -/
theorem Progress.pump (progress : Progress start fails projectPath streamId frames rounds now)
    (idle : now.requests = []) (clear : now.coordinator.inFlight = false) :
    Progress start fails projectPath streamId frames rounds now.pump.1 ∧
      Stage start projectPath streamId frames now.pump.1 := by
  have kept := progress.retain_eq
  rcases now.pump_cases with ⟨busy, _⟩ | ⟨_, nothing, same⟩ | ⟨request, _, found, same⟩
  · exact absurd (busy.symm.trans clear) (by decide)
  · rw [kept] at nothing same
    rw [same]
    exact ⟨progress, .rest idle (due_none_iff.mp nothing)⟩
  · rw [kept] at found same
    rw [same]
    obtain ⟨visible, past, _, current, unsettled, signature, first⟩ := due_input found
    have whole := Option.some.inj (past.symm.trans progress.past)
    simp only [Prod.mk.injEq] at whole
    obtain ⟨path, stream, rfl⟩ := whole
    rw [partition_head now.coordinator.positive, progress.session, progress.bound, Option.map_eq_some_iff] at first
    obtain ⟨assetId, first, work⟩ := first
    obtain ⟨asset, taken⟩ := DecodeWorkSet.mk.inj work
    have input : request.input = ⟨projectPath, assetId, streamId,
        (framesOf start.session.assetForChannel (now.pendingIn visible) assetId).take
          start.coordinator.maxWorkSetFrames⟩ := by
      rw [taken, asset, ← path, ← stream]
    have single : (now.submit request).requests = [request] := by simp [submit, idle]
    have signed : request.signature = ⟨streamId, (now.pendingIn visible).map RuntimeFrame.sequence⟩ := by
      rw [signature, stream]
    exact ⟨⟨progress.session, progress.past, progress.bound, progress.room, progress.answered, progress.reached,
      progress.within, progress.once, progress.recorded, progress.stream, progress.blocked⟩,
      .asked request assetId single unsettled current signed first input⟩

/-- Where the asset that comes first answers, one more of its work sets has been answered. -/
theorem Progress.resolve (progress : Progress start fails projectPath streamId frames rounds now)
    (distinct : (frames.map RuntimeFrame.sequence).Nodup) {result : DecodedFrameSetResult}
    (current : request.generation = now.coordinator.generation)
    (first : firstAsset start.session.assetForChannel (now.pendingIn frames) = some assetId)
    (input : request.input = ⟨projectPath, assetId, streamId,
      (framesOf start.session.assetForChannel (now.pendingIn frames) assetId).take
        start.coordinator.maxWorkSetFrames⟩)
    (answers : fails assetId = false) (answered : result.Answers request.input) :
    Progress start fails projectPath streamId frames
      (Function.update rounds assetId (rounds assetId + 1)) (now.resolve request result).1 := by
  obtain ⟨stream, records⟩ := answered
  let work := ((start.owned frames assetId).drop (rounds assetId * start.coordinator.maxWorkSetFrames)).take
    start.coordinator.maxWorkSetFrames
  have taken : result.records.map DecodedFrameRecord.frame = work := by
    rw [records, input, progress.pending_owned distinct]
  have sequences : (result.records.map fun record => record.frame.sequence) = work.map RuntimeFrame.sequence := by
    rw [← taken, List.map_map]
    rfl
  have ownedWork : ∀ frame ∈ work, frame ∈ start.owned frames assetId :=
    fun frame member => List.mem_of_mem_drop (List.mem_of_mem_take member)
  have injective : ∀ one ∈ frames, ∀ two ∈ frames, one.sequence = two.sequence → one = two :=
    fun one here two there => List.inj_on_of_nodup_map distinct here there
  have workOnce : (work.map RuntimeFrame.sequence).Nodup := by
    have part : work.Sublist frames :=
      (List.take_sublist _ _).trans ((List.drop_sublist _ _).trans List.filter_sublist)
    exact distinct.sublist (part.map _)
  have fresh : ∀ sequence ∈ work.map RuntimeFrame.sequence, sequence ∉ now.coordinator.processed := by
    intro sequence member
    obtain ⟨frame, inside, rfl⟩ := List.mem_map.mp member
    have waits : frame ∈ framesOf start.session.assetForChannel (now.pendingIn frames) assetId := by
      rw [progress.pending_owned distinct]
      exact List.mem_of_mem_take inside
    exact (mem_pendingIn.mp (mem_framesOf.mp waits).1).2
  have processed : addProcessed now.coordinator.processed result.records =
      now.coordinator.processed ++ work.map RuntimeFrame.sequence := by
    rw [addProcessed_eq, sequences, joined_fresh workOnce fresh]
  have resolved : now.resolve request result = ({ now with
        decoded := now.decoded.applyBatch (batchOf request result)
        coordinator := { now.coordinator with
          processed := now.coordinator.processed ++ work.map RuntimeFrame.sequence
          blockedSignature := none } }, [.applyBatch (batchOf request result)]) := by
    unfold DecodeWorkspace.resolve
    rw [if_neg (not_not.mpr current), ← processed]
  have named : (batchOf request result).streamId = streamId := by
    have same : request.input.streamId = streamId := by rw [input]
    exact stream.trans same
  have known : now.decoded.state.streamId = some (batchOf request result).streamId ∨
      now.decoded.entries.entries = [] := by
    rw [named]
    exact progress.stream
  have keys : ((batchOf request result).entries.map fun entry => entry.frame.sequence) =
      work.map RuntimeFrame.sequence := by
    rw [← sequences, batchOf, List.map_map]
    rfl
  rw [resolved]
  refine ⟨progress.session, progress.past, progress.bound, progress.room, ?answered, ?reached, ?within, ?once,
    ?recorded, ?stream, .inl rfl⟩
  case answered =>
    intro sequence member
    rcases List.mem_append.mp member with old | new
    · exact progress.answered sequence old
    · obtain ⟨frame, inside, rfl⟩ := List.mem_map.mp new
      obtain ⟨visible, bound⟩ := mem_owned.mp (ownedWork frame inside)
      exact ⟨frame, visible, answerable_iff.mpr ⟨assetId, bound, answers⟩, rfl⟩
  case reached =>
    intro other frame member
    have inWork : frame.sequence ∈ work.map RuntimeFrame.sequence ↔ frame ∈ work := by
      refine ⟨fun inside => ?_, List.mem_map_of_mem⟩
      obtain ⟨found, there, same⟩ := List.mem_map.mp inside
      have equal := injective found (mem_owned.mp (ownedWork found there)).1 frame (mem_owned.mp member).1 same
      exact equal ▸ there
    rw [List.mem_append, progress.reached other frame member, inWork]
    by_cases same : other = assetId
    · subst same
      rw [Function.update_self, Nat.succ_mul, List.take_add, List.mem_append]
    · have apart : frame ∉ work := by
        intro there
        have bound := (mem_owned.mp (ownedWork frame there)).2
        exact same (Option.some.inj ((mem_owned.mp member).2.symm.trans bound))
      rw [Function.update_of_ne same, or_iff_left apart]
  case within =>
    intro other
    by_cases same : other = assetId
    · subst same
      rw [Function.update_self]
      exact progress.first_within first answers
    · rw [Function.update_of_ne same]
      exact progress.within other
  case once =>
    rw [List.nodup_append]
    refine ⟨progress.once, workOnce, fun one here two there same => ?_⟩
    exact fresh two there (same ▸ here)
  case recorded =>
    have absent : ∀ sequence ∈ work.map RuntimeFrame.sequence,
        sequence ∉ latest start.decoded.capacity now.coordinator.processed :=
      fun sequence member held => fresh sequence member (latest_subset sequence held)
    calc (now.decoded.applyBatch (batchOf request result)).recorded
        = latest start.decoded.capacity (joined now.decoded.recorded (work.map RuntimeFrame.sequence)) := by
          rw [applyBatch_recorded, recordedOf_eq known, keys, progress.room]
      _ = latest start.decoded.capacity
            (latest start.decoded.capacity now.coordinator.processed ++ work.map RuntimeFrame.sequence) := by
          rw [progress.recorded, joined_fresh workOnce absent]
      _ = latest start.decoded.capacity (now.coordinator.processed ++ work.map RuntimeFrame.sequence) :=
          latest_append
  case stream => exact .inl (congrArg some named)

/-- Where the asset that comes first fails, what is pending is blocked as it is. -/
theorem Progress.reject (progress : Progress start fails projectPath streamId frames rounds now)
    (current : request.generation = now.coordinator.generation) (cause : DecodeCause)
    (signature : request.signature = ⟨streamId, (now.pendingIn frames).map RuntimeFrame.sequence⟩)
    (first : firstAsset start.session.assetForChannel (now.pendingIn frames) = some assetId)
    (refuses : fails assetId = true) :
    Progress start fails projectPath streamId frames rounds (now.reject request cause).1 := by
  unfold DecodeWorkspace.reject
  rw [if_neg (not_not.mpr current)]
  exact ⟨progress.session, progress.past, progress.bound, progress.room, progress.answered, progress.reached,
    progress.within, progress.once, progress.recorded, progress.stream,
    .inr ⟨congrArg some signature, assetId, first, refuses⟩⟩

theorem Progress.settle (progress : Progress start fails projectPath streamId frames rounds now) (number : Nat) :
    Progress start fails projectPath streamId frames rounds (now.settle number) :=
  ⟨progress.session, progress.past, progress.bound, progress.room, progress.answered, progress.reached,
    progress.within, progress.once, progress.recorded, progress.stream, progress.blocked⟩

theorem Progress.release (progress : Progress start fails projectPath streamId frames rounds now) (number : Nat) :
    Progress start fails projectPath streamId frames rounds (now.release number) :=
  ⟨progress.session, progress.past, progress.bound, progress.room, progress.answered, progress.reached,
    progress.within, progress.once, progress.recorded, progress.stream, progress.blocked⟩

theorem settle_single (single : now.requests = [request]) :
    (now.settle request.number).requests = [{ request with settled := true }] := by
  simp [DecodeWorkspace.settle, single]

theorem release_single (single : now.requests = [request]) : (now.release request.number).requests = [] := by
  simp [DecodeWorkspace.release, single]

theorem resolve_requests {result : DecodedFrameSetResult} :
    (now.resolve request result).1.requests = now.requests := by
  unfold DecodeWorkspace.resolve
  split
  · rfl
  · rfl

theorem reject_requests {cause : DecodeCause} : (now.reject request cause).1.requests = now.requests := by
  unfold DecodeWorkspace.reject
  split
  · rfl
  · rfl

end Lemmas

/-- Some progress has been made with the viewport. -/
def Underway (start : DecodeWorkspace) (fails : String → Bool) (projectPath streamId : String)
    (frames : List RuntimeFrame) (now : DecodeWorkspace) : Prop :=
  (∃ rounds, Progress start fails projectPath streamId frames rounds now) ∧
    Stage start projectPath streamId frames now

theorem Underway.step (distinct : (frames.map RuntimeFrame.sequence).Nodup)
    (underway : Underway start fails projectPath streamId frames now) (admitted : now.answering fails label)
    (moved : now.step label = some (next, output)) : Underway start fails projectPath streamId frames next := by
  obtain ⟨⟨rounds, progress⟩, stage⟩ := underway
  cases step_moves moved with
  | start | dispose | realtime | realtimeUnwatched | unchanged | session | sessionUnwatched =>
    exact admitted.elim
  | resolved number result request present numbered unsettled answers =>
    have answering := admitted request present numbered
    cases stage with
    | rest idle nothing =>
      rw [idle] at present
      cases present
    | asked asked assetId single open_ current signature first input =>
      obtain rfl : request = asked := by simpa [single] using present
      subst numbered
      have settled := (progress.settle request.number).resolve distinct current first input
        (by simpa [input] using answering) answers
      refine ⟨⟨_, settled⟩, .handled { request with settled := true } ?_ rfl⟩
      rw [resolve_requests, settle_single single]
    | handled asked single settled =>
      obtain rfl : request = asked := by simpa [single] using present
      exact absurd (settled.symm.trans unsettled) (by decide)
  | rejected number cause request present numbered unsettled =>
    have refusing := admitted request present numbered
    cases stage with
    | rest idle nothing =>
      rw [idle] at present
      cases present
    | asked asked assetId single open_ current signature first input =>
      obtain rfl : request = asked := by simpa [single] using present
      subst numbered
      have settled := (progress.settle request.number).reject current cause signature first
        (by simpa [input] using refusing)
      refine ⟨⟨_, settled⟩, .handled { request with settled := true } ?_ rfl⟩
      rw [reject_requests, settle_single single]
    | handled asked single settled =>
      obtain rfl : request = asked := by simpa [single] using present
      exact absurd (settled.symm.trans unsettled) (by decide)
  | completed number request present numbered settled =>
    cases stage with
    | rest idle nothing =>
      rw [idle] at present
      cases present
    | asked asked assetId single open_ current signature first input =>
      obtain rfl : request = asked := by simpa [single] using present
      exact absurd (settled.symm.trans open_) (by decide)
    | handled asked single settled =>
      obtain rfl : request = asked := by simpa [single] using present
      subst numbered
      obtain ⟨later, stage⟩ := (progress.release request.number).pump (release_single single) rfl
      exact ⟨⟨rounds, later⟩, stage⟩

theorem Begins.progress (begins : pass.Begins projectPath streamId frames) :
    Progress pass fails projectPath streamId frames (fun _ => 0) pass := by
  refine ⟨rfl, begins.past, rfl, rfl, ?_, ?_, fun _ => Nat.zero_le _, ?_, ?_, .inr begins.unrecorded,
    .inl begins.unblocked⟩
  · intro sequence member
    rw [begins.unanswered] at member
    cases member
  · intro assetId frame _
    simp [begins.unanswered]
  · rw [begins.unanswered]
    exact List.nodup_nil
  · rw [begins.unanswered, recorded, begins.unrecorded, List.map_nil, latest_all (Nat.zero_le _)]

theorem Begins.underway (begins : pass.Begins projectPath streamId frames) :
    Underway pass fails projectPath streamId frames pass.pump.1 := by
  obtain ⟨later, stage⟩ := begins.progress.pump begins.idle begins.clear
  exact ⟨⟨_, later⟩, stage⟩

theorem Underway.run {trace : DecodeTrace} (distinct : (frames.map RuntimeFrame.sequence).Nodup)
    (underway : Underway start fails projectPath streamId frames now)
    (path : Path DecodeWorkspace.step (answering fails) now trace next) :
    Underway start fails projectPath streamId frames next :=
  path.preserves (Underway start fails projectPath streamId frames)
    (fun _ _ _ _ underway admitted moved => underway.step distinct admitted moved) underway

theorem Underway.at_rest (underway : Underway start fails projectPath streamId frames now)
    (idle : now.requests = []) :
    ∃ rounds, Progress start fails projectPath streamId frames rounds now ∧ now.NothingDue := by
  obtain ⟨⟨rounds, progress⟩, stage⟩ := underway
  cases stage with
  | rest _ nothing => exact ⟨rounds, progress, nothing⟩
  | asked request assetId single => cases idle.symm.trans single
  | handled request single => cases idle.symm.trans single

theorem step_start (off : workspace.coordinator.subscribed = false) :
    workspace.step .start = some (quietly workspace.start) := by
  simp [DecodeWorkspace.step, off]

/-- A loop that is started over a stream it has not seen begins with what is in view. -/
theorem begins_of_start (idle : workspace.requests = []) (clear : workspace.coordinator.inFlight = false)
    (opened : workspace.session.projectPath = some projectPath)
    (seen : workspace.viewport = some (streamId, frames))
    (unseen : workspace.realtime.streamId ≠ workspace.coordinator.streamId) :
    workspace.subscribe.afterRealtime.Begins projectPath streamId frames := by
  have same : workspace.subscribe.afterRealtime = workspace.subscribe.resetStream := if_pos unseen
  have past : workspace.subscribe.resetStream.passOver =
      workspace.session.projectPath.bind fun projectPath =>
        workspace.viewport.map fun seen => (projectPath, seen.1, seen.2) := rfl
  rw [same]
  refine ⟨?_, idle, clear, rfl, rfl, reset_entries⟩
  rw [past, opened, seen]
  rfl

section Rest

/-- Where a pass finds nothing to ask, nothing bound is left before the first frame of an asset that
fails. -/
theorem Progress.served_answered (progress : Progress start fails projectPath streamId frames rounds now)
    (nothing : now.NothingDue) (member : frame ∈ start.served fails frames assetId) :
    frame.sequence ∈ now.coordinator.processed := by
  obtain ⟨early, bound⟩ := mem_framesOf.mp member
  have visible : frame ∈ frames := (List.takeWhile_sublist _).subset early
  obtain ⟨opened, _, seen⟩ := passOver_some progress.past
  rcases nothing with closed | unseen | ⟨stream, view, seen_, answered | blocked⟩
  · cases closed.symm.trans opened
  · cases unseen.symm.trans seen
  · have same := Option.some.inj (seen_.symm.trans seen)
    simp only [Prod.mk.injEq] at same
    obtain ⟨rfl, rfl⟩ := same
    rcases answered frame visible with processed | unbound
    · exact processed
    · rw [progress.session, bound] at unbound
      cases unbound
  · rcases progress.blocked with clear | ⟨_, failed, first, refuses⟩
    · cases clear.symm.trans blocked
    · by_contra waits
      have held : ∀ frame ∈ frames, unanswerable start.session.assetForChannel fails frame = true →
          decide (frame.sequence ∉ now.coordinator.processed) = true :=
        fun frame visible failing => decide_eq_true (progress.untouched failing visible)
      have failing : ∀ assetId, firstAsset start.session.assetForChannel
          (frames.filter fun frame => decide (frame.sequence ∉ now.coordinator.processed)) = some assetId →
            fails assetId = true := by
        intro assetId found
        rw [← Option.some.inj (first.symm.trans found)]
        exact refuses
      have unbound := firstAsset_failing held failing early (decide_eq_true waits)
      cases unbound.symm.trans bound

theorem Progress.answered_iff (progress : Progress start fails projectPath streamId frames rounds now)
    (distinct : (frames.map RuntimeFrame.sequence).Nodup) (assetId : String) :
    (∀ frame ∈ start.owned frames assetId, frame.sequence ∈ now.coordinator.processed) ↔
      (start.owned frames assetId).length ≤ rounds assetId * start.coordinator.maxWorkSetFrames := by
  constructor
  · intro answered
    have taken : start.owned frames assetId ⊆ (start.owned frames assetId).take
        (rounds assetId * start.coordinator.maxWorkSetFrames) :=
      fun frame member => (progress.reached assetId frame member).mp (answered frame member)
    have fewer := ((owned_nodup distinct).subperm taken).length_le
    rw [List.length_take] at fewer
    omega
  · intro enough frame member
    rw [progress.reached assetId frame member, List.take_of_length_le enough]
    exact member

/-- At rest, each asset was asked for as often as its frames before the first failing one take. -/
theorem Progress.rounds_eq (progress : Progress start fails projectPath streamId frames rounds now)
    (distinct : (frames.map RuntimeFrame.sequence).Nodup) (nothing : now.NothingDue) (assetId : String) :
    rounds assetId =
      requestsFor start.coordinator.maxWorkSetFrames (start.served fails frames assetId).length := by
  refine Nat.le_antisymm (progress.within assetId) (requestsFor_le start.coordinator.positive ?_)
  obtain ⟨rest, split⟩ := start.served_first fails frames assetId
  have once : (start.served fails frames assetId).Nodup := by
    have whole : (start.owned frames assetId).Nodup := owned_nodup distinct
    rw [split] at whole
    exact (List.nodup_append.mp whole).1
  have taken : start.served fails frames assetId ⊆ (start.owned frames assetId).take
      (rounds assetId * start.coordinator.maxWorkSetFrames) := by
    intro frame member
    have owned : frame ∈ start.owned frames assetId := by
      rw [split]
      exact List.mem_append_left _ member
    exact (progress.reached assetId frame owned).mp (progress.served_answered nothing member)
  have fewer := (once.subperm taken).length_le
  rw [List.length_take] at fewer
  omega

/-- The work sets that begin before the first frame of an asset that fails hold all frames of each asset
that answers, and the decoded store has room for their outcomes. -/
structure Accommodates (start : DecodeWorkspace) (fails : String → Bool) (frames : List RuntimeFrame) : Prop where
  asked : ∀ assetId, fails assetId = false → (start.owned frames assetId).length ≤
    requestsFor start.coordinator.maxWorkSetFrames (start.served fails frames assetId).length *
      start.coordinator.maxWorkSetFrames
  kept : (frames.filter (answerable start.session.assetForChannel fails)).length ≤ start.decoded.capacity

theorem Progress.records_iff (progress : Progress start fails projectPath streamId frames rounds now)
    (distinct : (frames.map RuntimeFrame.sequence).Nodup) (nothing : now.NothingDue) :
    (∀ frame ∈ frames, answerable start.session.assetForChannel fails frame = true →
        now.decoded.Records frame.sequence) ↔ start.Accommodates fails frames := by
  have answerableOnce : ((frames.filter (answerable start.session.assetForChannel fails)).map
      RuntimeFrame.sequence).Nodup := distinct.sublist (List.filter_sublist.map _)
  have rounds_ := progress.rounds_eq distinct nothing
  constructor
  · intro recorded
    have held : ∀ frame ∈ frames, answerable start.session.assetForChannel fails frame = true →
        frame.sequence ∈ latest start.decoded.capacity now.coordinator.processed := by
      intro frame visible answers
      rw [← progress.recorded]
      exact DecodedRealtimeStore.records_iff.mp (recorded frame visible answers)
    constructor
    · intro assetId answers
      rw [← rounds_ assetId]
      refine (progress.answered_iff distinct assetId).mp fun frame member => ?_
      obtain ⟨visible, bound⟩ := mem_owned.mp member
      exact latest_subset _ (held frame visible (answerable_iff.mpr ⟨assetId, bound, answers⟩))
    · have inside : (frames.filter (answerable start.session.assetForChannel fails)).map RuntimeFrame.sequence ⊆
          latest start.decoded.capacity now.coordinator.processed := by
        intro sequence member
        obtain ⟨frame, kept, rfl⟩ := List.mem_map.mp member
        obtain ⟨visible, answers⟩ := List.mem_filter.mp kept
        exact held frame visible answers
      have fewer := (answerableOnce.subperm inside).length_le
      rw [List.length_map] at fewer
      exact fewer.trans latest_length
  · rintro ⟨asked, kept⟩ frame visible answers
    obtain ⟨assetId, bound, answering⟩ := answerable_iff.mp answers
    have processed : frame.sequence ∈ now.coordinator.processed := by
      refine (progress.answered_iff distinct assetId).mpr ?_ frame (mem_owned.mpr ⟨visible, bound⟩)
      rw [rounds_ assetId]
      exact asked assetId answering
    have inside : now.coordinator.processed ⊆
        (frames.filter (answerable start.session.assetForChannel fails)).map RuntimeFrame.sequence := by
      intro sequence member
      obtain ⟨other, there, answers, rfl⟩ := progress.answered sequence member
      exact List.mem_map_of_mem (List.mem_filter.mpr ⟨there, answers⟩)
    have fewer := (progress.once.subperm inside).length_le
    rw [List.length_map] at fewer
    rw [DecodedRealtimeStore.records_iff, progress.recorded, latest_all (fewer.trans kept)]
    exact processed

/-- An answer that says the same of every frame that was asked about. -/
def answerTo (input : DecodeFrameSetInput) (outcome : DecodedFrameOutcome) : DecodedFrameSetResult where
  streamId := input.streamId
  frameCount := input.frames.length
  sequences := input.frames.map RuntimeFrame.sequence
  records := input.frames.map fun frame => ⟨frame, outcome⟩

theorem answerTo_answers {input : DecodeFrameSetInput} {outcome : DecodedFrameOutcome} :
    (answerTo input outcome).Answers input := by
  refine ⟨rfl, ?_⟩
  rw [answerTo, List.map_map]
  exact List.map_id _

theorem Progress.processed_length (progress : Progress start fails projectPath streamId frames rounds now) :
    now.coordinator.processed.length ≤ frames.length := by
  have inside : now.coordinator.processed ⊆ frames.map RuntimeFrame.sequence := by
    intro sequence member
    obtain ⟨frame, visible, _, rfl⟩ := progress.answered sequence member
    exact List.mem_map_of_mem visible
  have fewer := (progress.once.subperm inside).length_le
  rwa [List.length_map] at fewer

/-- An answer adds to what has been processed. -/
theorem resolve_grows {result : DecodedFrameSetResult} (once : now.coordinator.processed.Nodup)
    (current : request.generation = now.coordinator.generation)
    (first : firstAsset start.session.assetForChannel (now.pendingIn frames) = some assetId)
    (input : request.input = ⟨projectPath, assetId, streamId,
      (framesOf start.session.assetForChannel (now.pendingIn frames) assetId).take
        start.coordinator.maxWorkSetFrames⟩)
    (answers : result.Answers request.input) :
    now.coordinator.processed.length < (now.resolve request result).1.coordinator.processed.length := by
  have resolved : (now.resolve request result).1.coordinator.processed =
      addProcessed now.coordinator.processed result.records := by
    unfold DecodeWorkspace.resolve
    rw [if_neg (not_not.mpr current)]
  obtain ⟨frame, waiting, bound⟩ := List.exists_of_findSome?_eq_some first
  have some_ : framesOf start.session.assetForChannel (now.pendingIn frames) assetId ≠ [] :=
    List.ne_nil_of_mem (mem_framesOf.mpr ⟨waiting, bound⟩)
  obtain ⟨head, rest, split⟩ := List.exists_cons_of_ne_nil some_
  have submitted : head ∈ result.records.map DecodedFrameRecord.frame := by
    rw [answers.2, input, split, ← Nat.sub_add_cancel start.coordinator.positive, List.take_succ_cons]
    exact List.mem_cons_self
  have fresh : head.sequence ∉ now.coordinator.processed := by
    have waits : head ∈ framesOf start.session.assetForChannel (now.pendingIn frames) assetId := by
      rw [split]
      exact List.mem_cons_self
    exact (mem_pendingIn.mp (mem_framesOf.mp waits).1).2
  have more : (now.coordinator.processed ++ [head.sequence]).Nodup := by
    refine List.nodup_append.mpr ⟨once, List.nodup_singleton _, fun one here two there same => ?_⟩
    rw [List.mem_singleton.mp there] at same
    exact fresh (same ▸ here)
  have inside : now.coordinator.processed ++ [head.sequence] ⊆
      addProcessed now.coordinator.processed result.records := by
    intro sequence member
    refine mem_addProcessed.mpr ?_
    rcases List.mem_append.mp member with old | new
    · exact .inl old
    · obtain ⟨record, there, rfl⟩ := List.mem_map.mp submitted
      rw [List.mem_singleton.mp new]
      exact .inr (List.mem_map_of_mem there)
  have longer := (more.subperm inside).length_le
  rw [List.length_append, List.length_singleton] at longer
  rw [resolved]
  exact longer

/-- Where the first asset has failed, the pass that follows finds nothing to ask. -/
theorem Progress.blocked_rests (progress : Progress start fails projectPath streamId frames rounds now)
    (blocked : now.coordinator.blockedSignature ≠ none) (idle : now.requests = []) :
    now.pump.1.requests = [] := by
  obtain ⟨_, _, seen⟩ := passOver_some progress.past
  have same := (progress.blocked.resolve_left blocked).1
  have nothing : now.retain.due = none := by
    rw [retain_due]
    exact due_none_iff.mpr (.inr (.inr ⟨streamId, frames, seen, .inr same⟩))
  rcases now.pump_cases with ⟨_, same⟩ | ⟨_, _, same⟩ | ⟨request, _, found, _⟩
  · rw [same]
    exact idle
  · rw [same, retain_requests]
    exact idle
  · cases nothing.symm.trans found

/-- A pass leaves the processed sequences, and makes a request that has not settled. -/
theorem Progress.pump_asks (progress : Progress start fails projectPath streamId frames rounds now)
    (idle : now.requests = []) : now.pump.1.coordinator.processed = now.coordinator.processed ∧
      ∀ request ∈ now.pump.1.requests, request.settled = false := by
  have kept := progress.retain_eq
  rcases now.pump_cases with ⟨_, same⟩ | ⟨_, _, same⟩ | ⟨request, _, found, same⟩
  · rw [same, idle]
    exact ⟨rfl, fun _ member => absurd member List.not_mem_nil⟩
  · rw [same, kept, idle]
    exact ⟨rfl, fun _ member => absurd member List.not_mem_nil⟩
  · obtain ⟨_, _, _, _, unsettled, _⟩ := due_input found
    rw [same, kept]
    refine ⟨rfl, fun other member => ?_⟩
    have only : (now.submit request).requests = [request] := by simp [submit, idle]
    rw [only, List.mem_singleton] at member
    rw [member, unsettled]

private theorem reject_blocks {cause : DecodeCause} (current : request.generation = now.coordinator.generation) :
    (now.reject request cause).1.coordinator.blockedSignature = some request.signature := by
  unfold DecodeWorkspace.reject
  rw [if_neg (not_not.mpr current)]

theorem step_rejected {cause : DecodeCause} (single : now.requests = [request])
    (unsettled : request.settled = false) : now.step (.rejected request.number cause) =
      some (quietly ((now.settle request.number).reject request cause)) := by
  simp [DecodeWorkspace.step, find, single, unsettled]

theorem step_resolved {result : DecodedFrameSetResult} (single : now.requests = [request])
    (unsettled : request.settled = false) (answers : result.Answers request.input) :
    now.step (.resolved request.number result) =
      some (quietly ((now.settle request.number).resolve request result)) := by
  simp [DecodeWorkspace.step, find, single, unsettled, answers]

theorem step_completed {number : Nat} (single : now.requests = [request]) (numbered : request.number = number)
    (settled : request.settled = true) :
    now.step (.completed number) = some (quietly (now.release number).pump) := by
  simp [DecodeWorkspace.step, find, single, numbered, settled]

/-- The loop comes to rest, whichever assets fail. -/
theorem Underway.rests (distinct : (frames.map RuntimeFrame.sequence).Nodup)
    (underway : Underway start fails projectPath streamId frames now)
    (unsettled : ∀ request ∈ now.requests, request.settled = false) (outcome : DecodedFrameOutcome) :
    ∃ trace final, Path DecodeWorkspace.step (answering fails) now trace final ∧ final.requests = [] := by
  generalize left : frames.length - now.coordinator.processed.length = measure
  induction measure using Nat.strongRecOn generalizing now with
  | ind measure ih =>
    obtain ⟨⟨rounds, progress⟩, stage⟩ := underway
    cases stage with
    | rest idle nothing => exact ⟨[], now, .refl, idle⟩
    | handled request single settled =>
      have closed := unsettled request (by simp [single])
      exact absurd (settled.symm.trans closed) (by decide)
    | asked request assetId single open_ current signature first input =>
      have asset : request.input.assetId = assetId := by rw [input]
      have settled := settle_single single
      let closed : DecodeRequest := { request with settled := true }
      cases refuses : fails assetId with
      | true =>
        let refused := ((now.settle request.number).reject request .unknown).1
        have later := (progress.settle request.number).reject current .unknown signature first refuses
        have single_ : refused.requests = [closed] := reject_requests.trans settled
        have blocks : refused.coordinator.blockedSignature = some request.signature :=
          reject_blocks current
        have blocked : refused.coordinator.blockedSignature ≠ none := by
          rw [blocks]
          exact Option.some_ne_none _
        have released : (refused.release closed.number).requests = [] := release_single single_
        have idle : (refused.release request.number).pump.1.requests = [] :=
          (later.release request.number).blocked_rests blocked released
        have rejects : now.answering fails (.rejected request.number .unknown) := by
          simpa [answering, single, asset] using refuses
        have completes : refused.answering fails (.completed request.number) := trivial
        exact ⟨_, _, .snoc (.snoc .refl rejects (step_rejected single open_)) completes
          (step_completed single_ rfl rfl), idle⟩
      | false =>
        let answered := ((now.settle request.number).resolve request (answerTo request.input outcome)).1
        have answers : (answerTo request.input outcome).Answers request.input := answerTo_answers
        have later := (progress.settle request.number).resolve distinct current first input refuses answers
        have once : (now.settle request.number).coordinator.processed.Nodup := progress.once
        have grown : now.coordinator.processed.length < answered.coordinator.processed.length :=
          resolve_grows once current first input answers
        have single_ : answered.requests = [closed] := resolve_requests.trans settled
        have released := later.release request.number
        have idle : (answered.release closed.number).requests = [] := release_single single_
        obtain ⟨same, open_'⟩ := released.pump_asks idle
        obtain ⟨pumped, stage⟩ := released.pump idle rfl
        have fewer : frames.length - (answered.release request.number).pump.1.coordinator.processed.length <
            measure := by
          have bound := later.processed_length
          have still : (answered.release request.number).pump.1.coordinator.processed =
              answered.coordinator.processed := same
          have within : answered.coordinator.processed.length ≤ frames.length := bound
          rw [still]
          omega
        obtain ⟨trace, final, path, rest⟩ := ih _ fewer ⟨⟨_, pumped⟩, stage⟩ open_' rfl
        have resolves : now.answering fails (.resolved request.number (answerTo request.input outcome)) := by
          simpa [answering, single, asset] using refuses
        have completes : answered.answering fails (.completed request.number) := trivial
        have front := Path.snoc (.snoc .refl resolves (step_resolved single open_ answers)) completes
          (step_completed single_ rfl rfl)
        exact ⟨_, final, front.trans path, rest⟩

end Rest

end DecodeWorkspace

open DecodeWorkspace

/-- When the loop is at rest after one viewport, every visible frame of an asset that answers has an outcome
exactly if the work sets that begin before the first failing frame, and the store, have room for them. -/
theorem decodeLoop_serves {fails : String → Bool} {projectPath streamId : String} {frames : List RuntimeFrame}
    {ready pass begun final : DecodeWorkspace} {label : DecodeLabel} {output : DecodeOutput} {trace : DecodeTrace}
    (distinct : (frames.map RuntimeFrame.sequence).Nodup) (moved : ready.step label = some (begun, output))
    (passes : ready.passing label = some pass) (begins : pass.Begins projectPath streamId frames)
    (path : Path DecodeWorkspace.step (answering fails) begun trace final) (quiescent : final.requests = []) :
    (∀ frame ∈ frames, answerable pass.session.assetForChannel fails frame = true →
        final.decoded.Records frame.sequence) ↔ pass.Accommodates fails frames := by
  have started : Underway pass fails projectPath streamId frames begun := by
    rcases step_passes moved with ⟨other, passes_, rfl⟩ | ⟨none_, _⟩
    · obtain rfl := Option.some.inj (passes.symm.trans passes_)
      exact begins.underway
    · cases passes.symm.trans none_
  obtain ⟨rounds, progress, nothing⟩ := (started.run distinct path).at_rest quiescent
  exact progress.records_iff distinct nothing

section Sample

def failsB (assetId : String) : Bool := assetId = "b"

/-- A project whose channels are bound to the assets of the same names, and a viewport. -/
def showingSchedule (channels : List String) (frames : List RuntimeFrame) : List DecodeLabel :=
  (sampleStart channels).dropLast ++ [.realtime (sampleView frames)]

/-- The loop is about to be started over a viewport of one frame of each channel. -/
def sampleShowing (frames : List RuntimeFrame) : DecodeWorkspace :=
  ((follow DecodeWorkspace.step (.create 4 2 (by decide) (by decide)) (showingSchedule ["a", "b"] frames)).map
    Prod.fst).getD (.create 4 2 (by decide) (by decide))

/-- The asset that fails comes first, and the other is never asked for. -/
theorem decodeLoop_starves : ¬ ∀ (fails : String → Bool) (projectPath streamId : String)
    (frames : List RuntimeFrame) (ready pass begun final : DecodeWorkspace) (label : DecodeLabel)
    (output : DecodeOutput) (before trace : DecodeTrace),
    Path DecodeWorkspace.step anyLabel (.create 4 2 (by decide) (by decide)) before ready →
    (frames.map RuntimeFrame.sequence).Nodup → ready.step label = some (begun, output) →
    ready.passing label = some pass → pass.Begins projectPath streamId frames →
    Path DecodeWorkspace.step (answering fails) begun trace final → final.requests = [] →
    ∀ frame ∈ frames, answerable pass.session.assetForChannel fails frame = true →
      final.decoded.Records frame.sequence := by
  intro serves
  let frames := [sampleFrame 1 "b", sampleFrame 2 "a"]
  have setup : (follow DecodeWorkspace.step (.create 4 2 (by decide) (by decide))
      (showingSchedule ["a", "b"] frames)).isSome = true := by decide +kernel
  obtain ⟨⟨ready, before⟩, followed⟩ := Option.isSome_iff_exists.mp setup
  have same : sampleShowing frames = ready := by rw [sampleShowing, followed]; rfl
  have reached : Path DecodeWorkspace.step anyLabel (.create 4 2 (by decide) (by decide)) before ready :=
    .of_follow (fun _ _ _ => trivial) followed
  subst same
  have begins : (sampleShowing frames).subscribe.afterRealtime.Begins "p" "s" frames :=
    begins_of_start (by decide +kernel) (by decide +kernel) (by decide +kernel) (by decide +kernel)
      (by decide +kernel)
  have moved : (sampleShowing frames).step .start = some (quietly (sampleShowing frames).start) :=
    step_start (by decide +kernel)
  have evaluated : (followWithin DecodeWorkspace.step (fun state label => decide (state.answering failsB label))
      (sampleShowing frames).start.1 [.rejected 0 .transport, .completed 0]).map
        (fun last : DecodeWorkspace × DecodeTrace => (last.1.requests, last.1.decoded.recorded)) = some ([], []) := by
    decide +kernel
  obtain ⟨trace, final, path, last⟩ := Path.observedWithin _ _ _ (fun _ _ => of_decide_eq_true) evaluated
  simp only [Prod.mk.injEq] at last
  have served := serves failsB "p" "s" _ _ _ _ final .start _ before trace reached (by decide +kernel) moved rfl begins
    path last.1 (sampleFrame 2 "a") (by decide +kernel) (by decide +kernel)
  rw [DecodedRealtimeStore.records_iff, last.2] at served
  cases served

/-- The asset that answers comes first. -/
theorem decodeLoop_serves_first : ∃ (pass final : DecodeWorkspace) (trace : DecodeTrace),
    Path DecodeWorkspace.step (answering failsB) (sampleShowing [sampleFrame 1 "a", sampleFrame 2 "b"]).start.1
        trace final ∧
      final.requests = [] ∧ final.decoded.Records 1 ∧
      pass.Accommodates failsB [sampleFrame 1 "a", sampleFrame 2 "b"] := by
  let frames := [sampleFrame 1 "a", sampleFrame 2 "b"]
  have begins : (sampleShowing frames).subscribe.afterRealtime.Begins "p" "s" frames :=
    begins_of_start (by decide +kernel) (by decide +kernel) (by decide +kernel) (by decide +kernel)
      (by decide +kernel)
  have moved : (sampleShowing frames).step .start = some (quietly (sampleShowing frames).start) :=
    step_start (by decide +kernel)
  have evaluated : (followWithin DecodeWorkspace.step (fun state label => decide (state.answering failsB label))
      (sampleShowing frames).start.1
        [.resolved 0 (sampleAnswer [sampleFrame 1 "a"]), .completed 0, .rejected 1 .transport, .completed 1]).map
        (fun last : DecodeWorkspace × DecodeTrace => (last.1.requests, last.1.decoded.recorded)) = some ([], [1]) := by
    decide +kernel
  obtain ⟨trace, final, path, last⟩ := Path.observedWithin _ _ _ (fun _ _ => of_decide_eq_true) evaluated
  simp only [Prod.mk.injEq] at last
  have recorded : final.decoded.Records 1 := by
    rw [DecodedRealtimeStore.records_iff, last.2]
    exact List.mem_singleton_self 1
  have accommodates := (decodeLoop_serves (by decide +kernel) moved rfl begins path last.1).mp (by
    intro frame visible answers
    rcases List.mem_pair.mp visible with rfl | rfl
    · exact recorded
    · exact absurd answers (by decide +kernel))
  exact ⟨_, final, trace, path, last.1, recorded, accommodates⟩

/-- A frame behind those of the asset that fails is answered in the work set of one before them. -/
example : (follow DecodeWorkspace.step
    (sampleShowing [sampleFrame 1 "a", sampleFrame 2 "b", sampleFrame 3 "a"]).start.1
    [.resolved 0 (sampleAnswer [sampleFrame 1 "a", sampleFrame 3 "a"]), .completed 0, .rejected 1 .transport,
      .completed 1]).map (fun last : DecodeWorkspace × DecodeTrace =>
        (last.1.requests.length, last.1.decoded.recorded)) = some (0, [1, 3]) := by
  decide +kernel

end Sample

end CanX.Desktop
