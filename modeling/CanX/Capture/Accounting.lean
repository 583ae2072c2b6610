import CanX.Capture.Standing
import CanX.Capture.Lossless

/-! The accounts of a fan-out: what each subscriber was offered against what became of it, what
failed against what was reported, and the gaps a consumer saw against the frames dropped. -/

namespace CanX.Capture

open Domain Transition

section Runs

variable {pipeline next : FanoutPipeline} {event : FanoutEvent} {represent : String → String}
variable {histories : Nat → History}

/-- The books of every subscriber, and nothing is known of one that is not listed. -/
structure Balanced (pipeline : FanoutPipeline) (histories : Nat → History) : Prop where
  active : pipeline.publishing.isSome = true → pipeline.running = true
  accounts : ∀ (index : Nat) subscription, pipeline.subscriptions[index]? = some subscription →
    Accounted pipeline subscription (histories index)
  unlisted : ∀ index : Nat, pipeline.subscriptions[index]? = none → histories index = []

/-- What an event adds to each history. -/
def extend (histories : Nat → History) (event : FanoutEvent) (index : Nat) : History :=
  histories index ++ event.happenings index

theorem extend_silent : extend histories .silent = histories := by
  funext index
  exact List.append_nil _

/-- A step that changes each listed subscriber by itself. -/
theorem Balanced.map (balanced : Balanced pipeline histories) (change : Subscription → Subscription)
    (listed : next.subscriptions = pipeline.subscriptions.map change)
    (active : next.publishing.isSome = true → next.running = true)
    (silent : ∀ index, pipeline.subscriptions[index]? = none → event.happenings index = [])
    (kept : ∀ index subscription, pipeline.subscriptions[index]? = some subscription →
      Accounted pipeline subscription (histories index) →
      Accounted next (change subscription) (histories index ++ event.happenings index)) :
    Balanced next (extend histories event) := by
  refine ⟨active, ?_, ?_⟩
  · intro index after present
    rw [listed, List.getElem?_map, Option.map_eq_some_iff] at present
    obtain ⟨subscription, held, rfl⟩ := present
    exact kept index subscription held (balanced.accounts index subscription held)
  · intro index absent
    rw [listed, List.getElem?_map, Option.map_eq_none_iff] at absent
    rw [extend, balanced.unlisted index absent, silent index absent, List.append_nil]

/-- A step that none of the subscribers has a part in. -/
theorem Balanced.beside (balanced : Balanced pipeline histories)
    (listed : next.subscriptions = pipeline.subscriptions)
    (active : next.publishing.isSome = true → next.running = true)
    (publishing : next.publishing = pipeline.publishing)
    (running : next.running = true → pipeline.running = true)
    (stopRequested : pipeline.stopRequested = true → next.stopRequested = true)
    (normalizer : next.normalizer = pipeline.normalizer) : Balanced next (extend histories .silent) := by
  refine balanced.map id (by rw [listed, List.map_id]) active (fun _ _ => rfl) ?_
  intro index subscription _ accounted
  rw [FanoutEvent.happenings, List.append_nil]
  exact accounted.beside publishing running stopRequested normalizer

/-- A step of one listed subscriber. -/
theorem Balanced.set (balanced : Balanced pipeline histories) {index : Nat}
    {subscription after : Subscription} {happened : SubscriptionEvent}
    (held : pipeline.subscriptions[index]? = some subscription)
    (kept : Accounted pipeline after (histories index ++ [happened])) :
    Balanced { pipeline with subscriptions := pipeline.subscriptions.set index after }
      (extend histories (.subscription index happened)) := by
  have within : index < pipeline.subscriptions.length := (List.getElem?_eq_some_iff.mp held).1
  refine ⟨balanced.active, ?_, ?_⟩
  · intro other found present
    simp only [extend, FanoutEvent.happenings]
    by_cases same : index = other
    · subst same
      rw [List.getElem?_set_self within] at present
      obtain rfl := Option.some.inj present
      rw [if_pos rfl]
      exact kept.beside rfl id id rfl
    · rw [List.getElem?_set_ne same] at present
      rw [if_neg same, List.append_nil]
      exact (balanced.accounts other found present).beside rfl id id rfl
  · intro other absent
    have different : index ≠ other := by
      rintro rfl
      rw [List.getElem?_set_self within] at absent
      cases absent
    rw [List.getElem?_set_ne different] at absent
    simp only [extend, FanoutEvent.happenings]
    rw [if_neg different, List.append_nil]
    exact balanced.unlisted other absent

theorem Balanced.subscribe (balanced : Balanced pipeline histories) {name : String} {capacity : Nat}
    {lossy : Bool} {timeout : Option Seconds} (positive : 0 < capacity) :
    Balanced { pipeline with
      subscriptions := pipeline.subscriptions ++ [.create name capacity lossy timeout] }
      (extend histories .silent) := by
  rw [extend_silent]
  refine ⟨balanced.active, ?_, ?_⟩
  · intro index subscription present
    by_cases before : index < pipeline.subscriptions.length
    · rw [List.getElem?_append_left before] at present
      exact (balanced.accounts index subscription present).beside rfl id id rfl
    · have absent : pipeline.subscriptions[index]? = none := List.getElem?_eq_none (Nat.le_of_not_lt before)
      rw [List.getElem?_append_right (Nat.le_of_not_lt before)] at present
      obtain rfl := List.mem_singleton.mp (List.mem_of_getElem? present)
      rw [balanced.unlisted index absent]
      exact Accounted.create positive
  · intro index absent
    apply balanced.unlisted index
    rw [List.getElem?_eq_none_iff] at absent ⊢
    rw [List.length_append] at absent
    omega

/-- A frame arrives, and its fan-out begins. -/
theorem Balanced.publish (balanced : Balanced pipeline histories) {frame normalized : Frame}
    {normalizer : TimestampNormalizer} (running : pipeline.running = true)
    (free : pipeline.publishing = none)
    (numbered : pipeline.normalizer.normalize frame = some (normalized, normalizer)) :
    Balanced (pipeline.publishFrame normalized normalizer)
      (extend histories (.captured normalized (pipeline.subscriptions.map Subscription.attached))) := by
  obtain ⟨sequence, later⟩ := normalize_numbers numbered
  have snapshot (index : Nat) : (pipeline.subscriptions.map Subscription.attached)[index]? =
      pipeline.subscriptions[index]?.map Subscription.attached := List.getElem?_map
  have silent (index : Nat) (absent : pipeline.subscriptions[index]? = none) :
      (FanoutEvent.captured normalized (pipeline.subscriptions.map Subscription.attached)).happenings index =
        [] := by
    simp [FanoutEvent.happenings, snapshot, absent]
  unfold FanoutPipeline.publishFrame
  split
  · refine balanced.map Subscription.begin rfl (fun _ => running) silent ?_
    intro index subscription held accounted
    have happened : (FanoutEvent.captured normalized
        (pipeline.subscriptions.map Subscription.attached)).happenings index =
          if subscription.attached = true then [.assigned normalized] else [] := by
      simp [FanoutEvent.happenings, snapshot, held]
    rw [happened]
    exact accounted.begin free running rfl sequence rfl (by rw [later, sequence])
  · rename_i nobody
    have detached (index : Nat) (subscription : Subscription)
        (held : pipeline.subscriptions[index]? = some subscription) : subscription.attached = false := by
      by_contra attached
      apply nobody
      rw [List.any_eq_true]
      exact ⟨subscription, List.mem_of_getElem? held, Bool.eq_true_of_not_eq_false attached⟩
    refine balanced.map id (by rw [List.map_id]) (by simp [free]) silent ?_
    intro index subscription held accounted
    have apart := detached index subscription held
    have happened : (FanoutEvent.captured normalized
        (pipeline.subscriptions.map Subscription.attached)).happenings index = [] := by
      simp [FanoutEvent.happenings, snapshot, held, apart]
    rw [happened, List.append_nil]
    exact accounted.unattended apart free running

/-- The results of a fan-out are gone through. -/
theorem Balanced.settle (balanced : Balanced pipeline histories) (publishing : pipeline.publishing ≠ none)
    (done : ∀ subscription ∈ pipeline.subscriptions, subscription.delivery.all Delivery.done = true) :
    Balanced (pipeline.settle (settleDeliveries pipeline.stopRequested 0 pipeline.subscriptions))
      (extend histories (.settled
        (settleDeliveries pipeline.stopRequested 0 pipeline.subscriptions).reports)) := by
  have unraised : ∀ subscription ∈ pipeline.subscriptions,
      subscription.verdict pipeline.stopRequested ≠ .raised := by
    intro subscription member
    obtain ⟨index, held⟩ := List.getElem?_of_mem member
    exact (balanced.accounts index subscription held).standing.unraised
  obtain ⟨_, listed, _, reports⟩ := settleDeliveries_unraised 0 unraised
  have happened (index : Nat) := reports index
  simp only [Nat.zero_add] at happened
  refine balanced.map (fun subscription => subscription.reap (!subscription.unreported.isEmpty)) listed ?_ ?_ ?_
  · simp [FanoutPipeline.settle]
  · intro index absent
    rw [happened, absent]
    rfl
  · intro index subscription held accounted
    have settled : (FanoutEvent.settled
        (settleDeliveries pipeline.stopRequested 0 pipeline.subscriptions).reports).happenings index =
          subscription.unreported.map .reported := by
      rw [happened, held]
      simp
    rw [settled]
    refine accounted.reap (done subscription (List.mem_of_getElem? held)) publishing balanced.active ?_ rfl
    intro again
    obtain ⟨unstopped, _⟩ := Bool.and_eq_true_iff.mp again
    simpa using unstopped

/-- Every step of the pipeline keeps the books. -/
theorem Balanced.step (balanced : Balanced pipeline histories) {label : FanoutPipelineLabel}
    (moved : pipeline.step represent label = some (next, event)) : Balanced next (extend histories event) := by
  cases label with
  | subscribe name capacity lossy timeout =>
    simp only [FanoutPipeline.step] at moved
    split at moved
    · rename_i admitted
      obtain ⟨rfl, rfl⟩ := Prod.mk.inj (Option.some.inj moved)
      have positive : 0 < capacity := (of_decide_eq_true admitted.2).2.1
      exact balanced.subscribe positive
    · cases moved
  | unsubscribe name =>
    obtain ⟨rfl, rfl⟩ := Prod.mk.inj (Option.some.inj moved)
    refine balanced.map _ rfl balanced.active (fun _ _ => rfl) ?_
    intro index subscription _ accounted
    rw [FanoutEvent.happenings, List.append_nil]
    have less : (subscription.attached && subscription.name != name) = true → subscription.attached = true :=
      fun present => (Bool.and_eq_true_iff.mp present).1
    exact (accounted.detach less).beside rfl id id rfl
  | receive frame =>
    simp only [FanoutPipeline.step] at moved
    split at moved
    · rename_i idle
      split at moved
      · obtain ⟨rfl, rfl⟩ := Prod.mk.inj (Option.some.inj moved)
        have free : pipeline.publishing = none := idle.2
        exact balanced.beside rfl (by simp [free]) rfl (by simp) id rfl
      · rename_i normalized normalizer numbered
        obtain ⟨rfl, rfl⟩ := Prod.mk.inj (Option.some.inj moved)
        exact balanced.publish idle.1 idle.2 numbered
    · cases moved
  | subscription index label =>
    simp only [FanoutPipeline.step] at moved
    split at moved
    · cases moved
    · rename_i subscription held
      obtain ⟨⟨after, happened⟩, stepped, same⟩ := Option.map_eq_some_iff.mp moved
      obtain ⟨rfl, rfl⟩ := Prod.mk.inj same
      exact balanced.set held ((balanced.accounts index subscription held).step balanced.active stepped)
  | requestStop =>
    obtain ⟨rfl, rfl⟩ := Prod.mk.inj (Option.some.inj moved)
    exact balanced.beside rfl balanced.active rfl id (fun _ => rfl) rfl
  | cancel =>
    simp only [FanoutPipeline.step] at moved
    split at moved
    · rename_i admitted
      obtain ⟨rfl, rfl⟩ := Prod.mk.inj (Option.some.inj moved)
      refine balanced.map Subscription.cancel rfl balanced.active (fun _ _ => rfl) ?_
      intro index subscription _ accounted
      rw [FanoutEvent.happenings, List.append_nil]
      exact (accounted.cancel admitted.2.1).beside rfl id id rfl
    · cases moved
  | settle =>
    simp only [FanoutPipeline.step] at moved
    split at moved
    · rename_i admitted
      obtain ⟨rfl, rfl⟩ := Prod.mk.inj (Option.some.inj moved)
      exact balanced.settle (Option.isSome_iff_ne_none.mp admitted.1) (List.all_eq_true.mp admitted.2)
    · cases moved
  | finish =>
    simp only [FanoutPipeline.step] at moved
    split at moved
    · rename_i free
      obtain ⟨rfl, rfl⟩ := Prod.mk.inj (Option.some.inj moved)
      exact balanced.beside rfl (by simp [free]) rfl (by simp) id rfl
    · cases moved

end Runs

section Gaps

variable {capture next : CaptureRun} {label : CaptureLabel} {event : CaptureEvent}
variable {consumer : Consumer} {received : List Frame} {frame : Frame}

/-- The last frame that the loop took into account, and the one it still holds back. -/
def Consumer.Remembers (consumer : Consumer) (received : List Frame) : Prop :=
  match consumer.stage with
  | .publishing (.gap frame) | .awaiting (.gap frame) => received.getLast? = some frame
  | .raised _ => True
  | _ => consumer.lastSequence = received.getLast?.map Frame.sequence

/-- The gaps between the frames that a consumer received, as it counted them. -/
structure Gapped (received : List Frame) (consumer : Consumer) : Prop where
  tracking : consumer.sink.trackGaps = true
  remembered : consumer.Remembers received
  unreceived : received = [] → consumer.sequenceGaps = 0
  counted : ∀ first ∈ received.head?, ∀ last ∈ received.getLast?,
    consumer.sequenceGaps + received.length + first.sequence = last.sequence + 1

theorem Gapped.notePending (gapped : Gapped received consumer) (count : Nat) :
    consumer.notePending count = consumer := by
  rw [Consumer.notePending, if_pos gapped.tracking]

/-- The loop moves on, and what it remembers stays right. -/
theorem Gapped.move (gapped : Gapped received consumer) {stage : ConsumerStage}
    (remembered : (consumer.move stage).Remembers received) : Gapped received (consumer.move stage) :=
  ⟨gapped.tracking, remembered, gapped.unreceived, gapped.counted⟩

theorem Consumer.Remembers.last {stage : ConsumerStage} (remembered : consumer.Remembers received)
    (known : consumer.stage = stage) (plain : stage = .looping ∨ stage = .receiving) :
    consumer.lastSequence = received.getLast?.map Frame.sequence := by
  rw [Consumer.Remembers, known] at remembered
  rcases plain with rfl | rfl
  · exact remembered
  · exact remembered

/-- A frame that the loop appends is the last one it knows. -/
theorem Gapped.append (tracking : consumer.sink.trackGaps = true)
    (final : received.getLast? = some frame) (unreceived : received = [] → consumer.sequenceGaps = 0)
    (counted : ∀ first ∈ received.head?, ∀ last ∈ received.getLast?,
      consumer.sequenceGaps + received.length + first.sequence = last.sequence + 1) :
    Gapped received (consumer.appendPending frame) := by
  simp only [Consumer.appendPending, Consumer.notePending, tracking, if_true]
  split
  · refine ⟨tracking, ?_, unreceived, counted⟩
    simp [Consumer.Remembers, Consumer.move, final]
  · refine ⟨tracking, ?_, unreceived, counted⟩
    simp [Consumer.Remembers, Consumer.move, final]

/-- A frame numbered above the last one adds the numbers between them to the gaps. -/
theorem Gapped.receive (gapped : Gapped received consumer) (receiving : consumer.stage = .receiving)
    (above : ∀ last ∈ received.getLast?, last.sequence < frame.sequence) :
    Gapped (received ++ [frame]) (consumer.receive frame) := by
  have known := gapped.remembered.last receiving (.inr rfl)
  have final : (received ++ [frame]).getLast? = some frame := List.getLast?_concat
  have occupied : received ++ [frame] = [] → ∀ number : Nat, number = 0 := by simp
  have length : (received ++ [frame]).length = received.length + 1 := List.length_append
  have total (gaps : Nat) (gap : gaps = consumer.sequenceGaps + consumer.gapBefore frame) :
      ∀ first ∈ (received ++ [frame]).head?, ∀ last ∈ (received ++ [frame]).getLast?,
        gaps + (received ++ [frame]).length + first.sequence = last.sequence + 1 := by
    intro first head last tail
    rw [final] at tail
    obtain rfl := Option.some.inj tail
    rw [length, gap, Consumer.gapBefore, known]
    rcases List.eq_nil_or_concat received with rfl | ⟨front, prior, rfl⟩
    · rw [List.nil_append, List.head?_cons] at head
      obtain rfl := Option.some.inj head
      have nothing := gapped.unreceived rfl
      simp [nothing]
      omega
    · rw [List.concat_eq_append] at *
      have before : (front ++ [prior]).getLast? = some prior := List.getLast?_concat
      have start : first ∈ (front ++ [prior]).head? := by
        rw [List.head?_append_of_ne_nil _ (by simp)] at head
        exact head
      have earlier := gapped.counted first start prior before
      have higher := above prior before
      simp only [before, Option.map_some]
      omega
  unfold Consumer.receive
  split
  · rename_i continues
    have zero : consumer.gapBefore frame = 0 := by
      rw [Consumer.continues] at continues
      rw [Consumer.gapBefore]
      split
      · rfl
      · rename_i last held
        rw [held] at continues
        have next : frame.sequence = last + 1 := of_decide_eq_true continues
        omega
    exact Gapped.append gapped.tracking final (fun empty => occupied empty _) (total _ (by rw [zero, Nat.add_zero]))
  · simp only [gapped.tracking, if_true]
    split
    · exact Gapped.append gapped.tracking final (fun empty => occupied empty _) (total _ rfl)
    · exact ⟨gapped.tracking, final, fun empty => occupied empty _, total _ rfl⟩

theorem Gapped.resume (gapped : Gapped received consumer) {cut : Cut} (awaiting : consumer.stage = .awaiting cut) :
    Gapped received (consumer.resume cut) := by
  have remembered := gapped.remembered
  rw [Consumer.Remembers, awaiting] at remembered
  have emptied : Gapped received { consumer with pending := [] } :=
    ⟨gapped.tracking, gapped.remembered, gapped.unreceived, gapped.counted⟩
  cases cut with
  | timeout =>
    rw [Consumer.resume, emptied.notePending]
    exact emptied.move remembered
  | size =>
    rw [Consumer.resume, emptied.notePending]
    exact emptied.move remembered
  | gap frame =>
    exact Gapped.append gapped.tracking remembered gapped.unreceived gapped.counted
  | finish =>
    rw [Consumer.resume, gapped.notePending]
    exact gapped.move remembered

theorem Gapped.raise (gapped : Gapped received consumer) (error : ConsumerError) :
    Gapped received (consumer.move (.raised error)) :=
  gapped.move trivial

theorem Gapped.check (gapped : Gapped received capture.consumer) (looping : capture.consumer.stage = .looping) :
    Gapped received capture.check := by
  have known := gapped.remembered.last looping (.inl rfl)
  unfold CaptureRun.check
  split
  · exact gapped.move known
  · split
    · rw [gapped.notePending]
      exact gapped.move known
    · exact gapped.move known

/-- A step of the loop takes a frame of its queue, or it leaves the queue and the gaps alone. -/
theorem loop_cases (moved : captureStep capture label = some (next, event))
    (own : ∀ other, label ≠ .pipeline other) :
    (∃ frame queue, capture.consumer.stage = .receiving ∧ event = .took frame ∧
      capture.pipeline.subscriber.queue = frame :: queue ∧
      next.pipeline.subscriber = { capture.pipeline.subscriber with queue } ∧
      next.consumer = capture.consumer.receive frame) ∨
    (event.takenFrames = [] ∧ next.pipeline = capture.pipeline ∧
      ∀ received, Gapped received capture.consumer → Gapped received next.consumer) := by
  cases label with
  | pipeline other => exact absurd rfl (own other)
  | setStopEvent =>
    cases moved
    exact .inr ⟨rfl, rfl, fun _ gapped => gapped⟩
  | check =>
    simp only [captureStep] at moved
    split at moved
    · rename_i looping
      cases moved
      exact .inr ⟨rfl, rfl, fun _ gapped => gapped.check looping⟩
    · cases moved
  | take =>
    simp only [captureStep] at moved
    split at moved
    · rename_i frame queue receiving held
      cases moved
      exact .inl ⟨frame, queue, receiving, rfl, held, rfl, rfl⟩
    · cases moved
  | timeout =>
    simp only [captureStep] at moved
    split at moved
    · rename_i receiving
      cases moved
      refine .inr ⟨rfl, rfl, fun received gapped => ?_⟩
      have known := gapped.remembered.last receiving (.inr rfl)
      apply gapped.move
      split
      · exact known
      · exact known
    · cases moved
  | disabled =>
    simp only [captureStep] at moved
    split at moved
    · split at moved
      · cases moved
        exact .inr ⟨rfl, rfl, fun _ gapped => gapped.raise _⟩
      · cases moved
    · cases moved
  | publish recording =>
    simp only [captureStep] at moved
    split at moved
    · rename_i cut publishing
      split at moved
      · cases moved
        exact .inr ⟨rfl, rfl, fun _ gapped => gapped.raise _⟩
      · cases moved
        refine .inr ⟨rfl, rfl, fun received gapped => ?_⟩
        have remembered := gapped.remembered
        rw [Consumer.Remembers, publishing] at remembered
        apply gapped.move
        cases cut with
        | _ => exact remembered
    · cases moved
  | accept =>
    simp only [captureStep] at moved
    split at moved
    · rename_i cut awaiting
      cases moved
      exact .inr ⟨rfl, rfl, fun _ gapped => gapped.resume awaiting⟩
    · cases moved
  | reject =>
    simp only [captureStep] at moved
    split at moved
    · cases moved
      exact .inr ⟨rfl, rfl, fun _ gapped => gapped.raise _⟩
    · cases moved
  | cancel =>
    simp only [captureStep] at moved
    split at moved
    · cases moved
      exact .inr ⟨rfl, rfl, fun _ gapped => gapped.raise _⟩
    · cases moved
      exact .inr ⟨rfl, rfl, fun _ gapped => gapped.raise _⟩
    · cases moved

end Gaps

section Counts

/-- How many of the numbers from one on lie between two of them. -/
theorem countP_range' {start length low high : Nat} (above : start ≤ low) (ordered : low ≤ high)
    (within : high < start + length) :
    (List.range' start length).countP (fun number => low ≤ number ∧ number ≤ high) = high + 1 - low := by
  have split : List.range' start length = List.range' start (low - start) ++
      (List.range' low (high + 1 - low) ++ List.range' (high + 1) (start + length - (high + 1))) := by
    have second : List.range' low (high + 1 - low) ++ List.range' (high + 1) (start + length - (high + 1)) =
        List.range' low (start + length - low) := by
      have joined := List.range'_append_1 (s := low) (m := high + 1 - low) (n := start + length - (high + 1))
      rw [show low + (high + 1 - low) = high + 1 by omega] at joined
      rw [joined]
      congr 1
      omega
    have first := List.range'_append_1 (s := start) (m := low - start) (n := start + length - low)
    rw [show start + (low - start) = low by omega] at first
    rw [second, first]
    congr 1
    omega
  have below : (List.range' start (low - start)).countP (fun number => low ≤ number ∧ number ≤ high) = 0 := by
    rw [List.countP_eq_zero]
    intro number member
    rw [List.mem_range'_1] at member
    simp
    omega
  have beyond : (List.range' (high + 1) (start + length - (high + 1))).countP
      (fun number => low ≤ number ∧ number ≤ high) = 0 := by
    rw [List.countP_eq_zero]
    intro number member
    rw [List.mem_range'_1] at member
    simp
    omega
  have inside : (List.range' low (high + 1 - low)).countP (fun number => low ≤ number ∧ number ≤ high) =
      high + 1 - low := by
    rw [List.countP_eq_length.mpr, List.length_range']
    intro number member
    rw [List.mem_range'_1] at member
    simp
    omega
  rw [split, List.countP_append, List.countP_append, below, inside, beyond, Nat.zero_add, Nat.add_zero]

/-- Of consecutive numbers shared between two lists, what the second has between the ends of the
first is what the first misses there. -/
theorem shared_between {taken dropped : List Nat} {start length low high : Nat}
    (shared : (taken ++ dropped).Perm (List.range' start length)) (increasing : taken.Pairwise (· < ·))
    (first : low ∈ taken.head?) (last : high ∈ taken.getLast?) :
    dropped.countP (fun number => low < number ∧ number < high) + taken.length + low = high + 1 := by
  have lowest : low ∈ taken := List.mem_of_mem_head? first
  have highest : high ∈ taken := List.mem_of_mem_getLast? last
  have low_in : low ∈ List.range' start length := shared.mem_iff.mp (List.mem_append_left _ lowest)
  have high_in : high ∈ List.range' start length := shared.mem_iff.mp (List.mem_append_left _ highest)
  rw [List.mem_range'_1] at low_in high_in
  have distinct : (taken ++ dropped).Nodup := shared.nodup_iff.mpr List.nodup_range'
  have between : ∀ number ∈ taken, low ≤ number ∧ number ≤ high := by
    intro number member
    constructor
    · obtain ⟨rest, rfl⟩ := List.head?_eq_some_iff.mp first
      rcases List.mem_cons.mp member with rfl | later
      · exact Nat.le_refl _
      · exact Nat.le_of_lt (List.rel_of_pairwise_cons increasing later)
    · obtain ⟨front, rfl⟩ := List.getLast?_eq_some_iff.mp last
      rcases List.mem_append.mp member with before | final
      · exact Nat.le_of_lt ((List.pairwise_append.mp increasing).2.2 number before high List.mem_cons_self)
      · exact Nat.le_of_eq (List.mem_singleton.mp final)
  have whole := countP_range' low_in.1 (between high highest).1 high_in.2
  rw [← shared.countP_eq, List.countP_append] at whole
  have everything : taken.countP (fun number => low ≤ number ∧ number ≤ high) = taken.length := by
    rw [List.countP_eq_length]
    intro number member
    simpa using between number member
  have strict : dropped.countP (fun number => low ≤ number ∧ number ≤ high) =
      dropped.countP (fun number => low < number ∧ number < high) := by
    apply List.countP_congr
    intro number member
    have apart := (List.nodup_append.mp distinct).2.2
    have not_low : low ≠ number := apart low lowest number member
    have not_high : high ≠ number := apart high highest number member
    simp only [decide_eq_true_eq]
    omega
  have ends := (between low lowest).2
  omega

end Counts

section Books

variable {pipeline : FanoutPipeline} {subscription : Subscription} {history : History}

/-- The books of one subscriber, as they stand at every instant. `conserved` is that of a queue
nobody has disabled. -/
structure Books (pipeline : FanoutPipeline) (subscription : Subscription) (history : History) : Prop where
  consecutive : Contiguous (assignedTo history)
  offered : (offeredTo history).IsPrefix (assignedTo history)
  ordered : (takenFrom history).Sublist (offeredTo history)
  increasing : (takenFrom history).Pairwise fun first second => first.sequence < second.sequence
  conserved : subscription.subscriber.lossy = true → subscription.subscriber.shutDown = false →
    (takenFrom history).length + subscription.subscriber.droppedFrames + subscription.subscriber.queueDepth =
      (offeredTo history).length
  discarding : subscription.subscriber.lossy = true →
    (takenFrom history).length + subscription.subscriber.droppedFrames + subscription.subscriber.queueDepth +
      (discardedFrom history).length = (offeredTo history).length
  lossless : subscription.subscriber.lossy = false → subscription.subscriber.shutDown = false →
    (takenFrom history ++ subscription.subscriber.queue).IsPrefix (assignedTo history)
  never_more : subscription.subscriber.lossy = false → (takenFrom history).IsPrefix (assignedTo history)
  dropping : subscription.subscriber.droppedFrames = (droppedFrom history).length
  failed_once : (failuresOf history).length ≤ 1
  reporting : (reportsOf history).IsPrefix (failuresOf history)
  reported : pipeline.publishing = none → reportsOf history = failuresOf history

theorem Contiguous.numbers {frames : List Frame} (contiguous : Contiguous frames) :
    ∃ start, frames.map Frame.sequence = List.range' start frames.length := by
  by_cases empty : frames = []
  · exact ⟨0, by rw [empty]; rfl⟩
  · exact ⟨_, contiguous.sequences empty⟩

theorem Contiguous.increasing {frames : List Frame} (contiguous : Contiguous frames) :
    frames.Pairwise fun first second => first.sequence < second.sequence := by
  obtain ⟨start, numbers⟩ := contiguous.numbers
  have ascending : (frames.map Frame.sequence).Pairwise (· < ·) := by
    rw [numbers]
    exact List.pairwise_lt_range'
  exact List.pairwise_map.mp ascending

theorem Flow.passed_contiguous {passed lost skipped : List Frame}
    (flow : Flow pipeline subscription history passed lost skipped)
    (consecutive : Contiguous (assignedTo history)) : Contiguous passed := by
  have within : passed.IsPrefix (assignedTo history) := by
    rw [flow.assigned, flow.offered, List.append_assoc, List.append_assoc]
    exact List.prefix_append _ _
  exact List.IsChain.prefix consecutive within

theorem Flow.conserved {passed lost skipped : List Frame}
    (flow : Flow pipeline subscription history passed lost skipped)
    (lossy : subscription.subscriber.lossy = true) :
    (takenFrom history).length + subscription.subscriber.droppedFrames + subscription.subscriber.queueDepth +
      (discardedFrom history).length = (offeredTo history).length := by
  have shared := flow.shared.length_eq
  have discards := flow.discards lossy
  rw [List.length_append] at shared
  rw [flow.offered, flow.counted, ← discards, FrameSubscriber.queueDepth, List.length_append,
    List.length_append, shared]

theorem Flow.taken_lossless {passed lost skipped : List Frame}
    (flow : Flow pipeline subscription history passed lost skipped)
    (lossless : subscription.subscriber.lossy = false) : takenFrom history = passed := by
  have shared := flow.shared
  rw [flow.lossless lossless, List.append_nil] at shared
  exact flow.ordered.eq_of_length shared.length_eq

theorem Accounted.books (accounted : Accounted pipeline subscription history) :
    Books pipeline subscription history := by
  obtain ⟨standing, passed, lost, skipped, flow⟩ := accounted
  have passes : passed.IsPrefix (offeredTo history) := by
    rw [flow.offered, List.append_assoc]
    exact List.prefix_append _ _
  have offers : (offeredTo history).IsPrefix (assignedTo history) := by
    rw [flow.assigned]
    exact List.prefix_append _ _
  have contiguous := flow.passed_contiguous standing.contiguous
  refine ⟨standing.contiguous, offers, flow.ordered.trans passes.sublist,
    contiguous.increasing.sublist flow.ordered, ?_, flow.conserved, ?_, ?_, flow.counted, standing.once, ?_, ?_⟩
  · intro lossy available
    have whole := flow.conserved lossy
    rw [flow.undisturbed available] at whole
    exact whole
  · intro lossless _
    rw [flow.taken_lossless lossless, flow.assigned, flow.offered, List.append_assoc]
    exact List.prefix_append _ _
  · intro lossless
    rw [flow.taken_lossless lossless]
    exact passes.trans offers
  · rw [standing.reported]
    exact List.prefix_append _ _
  · intro free
    have silent : subscription.unreported = [] := by
      rw [Subscription.unreported, standing.idle free]
    rw [standing.reported, silent, List.append_nil]

/-- The frames that a full queue dropped between two that were taken. -/
def droppedBetween (history : History) (first last : Frame) : Nat :=
  (droppedFrom history).countP fun frame => first.sequence < frame.sequence ∧ frame.sequence < last.sequence

/-- Between the first and the last frame taken, each number was taken or dropped. -/
theorem Accounted.between (accounted : Accounted pipeline subscription history) {first last : Frame}
    (head : first ∈ (takenFrom history).head?) (tail : last ∈ (takenFrom history).getLast?) :
    droppedBetween history first last + (takenFrom history).length + first.sequence = last.sequence + 1 := by
  obtain ⟨standing, passed, lost, skipped, flow⟩ := accounted
  have contiguous := flow.passed_contiguous standing.contiguous
  obtain ⟨start, numbers⟩ := contiguous.numbers
  have shared := flow.shared.map Frame.sequence
  rw [List.map_append, numbers] at shared
  have increasing : ((takenFrom history).map Frame.sequence).Pairwise (· < ·) :=
    List.pairwise_map.mpr (contiguous.increasing.sublist flow.ordered)
  have low : first.sequence ∈ ((takenFrom history).map Frame.sequence).head? := by
    rw [List.head?_map, Option.mem_def.mp head]
    rfl
  have high : last.sequence ∈ ((takenFrom history).map Frame.sequence).getLast? := by
    rw [List.getLast?_map, Option.mem_def.mp tail]
    rfl
  have counted := shared_between shared increasing low high
  rw [List.countP_map, List.length_map] at counted
  exact counted

end Books

section Fanouts

variable {represent : String → String} {run next : FanoutRun} {trace : FanoutTrace} {event : FanoutEvent}
variable {label : FanoutLabel} {source batchSize : Nat} {streamId : String}

/-- The books of every subscriber, and the gaps that the consumer of one of them counted. -/
structure Audited (run : FanoutRun) (trace : FanoutTrace) : Prop where
  balanced : Balanced run.pipeline fun index => historyOf index trace
  gapped : Gapped (takenFrom (historyOf run.source trace)) run.consumer

theorem historyOf_extend : (fun index => historyOf index (trace ++ [(label, event)])) =
    extend (fun index => historyOf index trace) event := by
  funext index
  exact historyOf_snoc

/-- Only a call of `get` takes a frame. -/
theorem step_takes {subscription after : Subscription} {happened : SubscriptionEvent}
    {publishing : Option Frame} {called : SubscriptionLabel} (other : called ≠ .get)
    (moved : subscription.step represent publishing called = some (after, happened)) :
    happened.takenFrames = [] := by
  cases called with
  | get => exact absurd rfl other
  | attempt =>
    simp only [Subscription.step] at moved
    split at moved
    · split at moved
      · cases moved
        rfl
      · split at moved <;> (cases moved; rfl)
    · cases moved
  | wake =>
    simp only [Subscription.step] at moved
    split at moved
    · split at moved
      · cases moved
        rfl
      · split at moved
        · cases moved
          rfl
        · cases moved
    · cases moved
  | expire =>
    simp only [Subscription.step] at moved
    split at moved
    · split at moved
      · cases moved
        rfl
      · cases moved
    · cases moved
  | disable =>
    simp only [Subscription.step] at moved
    split at moved
    · cases moved
      rfl
    · cases moved

/-- The pipeline takes no frame of the consumer's own subscriber. -/
theorem pipeline_takes {called : FanoutPipelineLabel} {pipeline : FanoutPipeline}
    (permitted : run.permits called = true)
    (moved : run.pipeline.step represent called = some (pipeline, event)) :
    takenFrom (event.happenings run.source) = [] := by
  have silent (happening : FanoutEvent) (quiet : ∀ entry ∈ happening.happenings run.source,
      entry.takenFrames = []) : takenFrom (happening.happenings run.source) = [] := by
    rw [takenFrom, List.flatMap_eq_nil_iff]
    exact quiet
  apply silent
  intro entry member
  cases event with
  | silent => simp [FanoutEvent.happenings] at member
  | captured frame snapshot =>
    simp only [FanoutEvent.happenings] at member
    split at member
    · rw [List.mem_singleton.mp member]
      rfl
    · cases member
  | settled reports =>
    obtain ⟨report, _, rfl⟩ := List.mem_map.mp member
    rfl
  | subscription index happened =>
    simp only [FanoutEvent.happenings] at member
    split at member
    · rename_i own
      rw [List.mem_singleton.mp member]
      cases called with
      | subscription other called =>
        simp only [FanoutPipeline.step] at moved
        split at moved
        · cases moved
        · obtain ⟨⟨after, found⟩, stepped, same⟩ := Option.map_eq_some_iff.mp moved
          obtain ⟨_, here⟩ := Prod.mk.inj same
          obtain ⟨rfl, rfl⟩ := FanoutEvent.subscription.inj here
          apply step_takes _ stepped
          rintro rfl
          exact absurd own (of_decide_eq_true permitted)
      | subscribe name capacity lossy timeout =>
        simp only [FanoutPipeline.step] at moved
        split at moved <;> cases moved
      | unsubscribe name => cases moved
      | receive frame =>
        simp only [FanoutPipeline.step] at moved
        split at moved
        · split at moved <;> cases moved
        · cases moved
      | requestStop => cases moved
      | cancel =>
        simp only [FanoutPipeline.step] at moved
        split at moved <;> cases moved
      | settle =>
        simp only [FanoutPipeline.step] at moved
        split at moved <;> cases moved
      | finish =>
        simp only [FanoutPipeline.step] at moved
        split at moved <;> cases moved
    · cases member

theorem takenFrom_append (front back : History) : takenFrom (front ++ back) = takenFrom front ++ takenFrom back :=
  List.flatMap_append

/-- A step of the consumer's loop is a call of `get` on its subscriber, or it moves no frame. -/
theorem consume_audited (audited : Audited run trace) {called : CaptureLabel} {subscription : Subscription}
    {capture : CaptureRun} {looped : CaptureEvent} (own : ∀ other, called ≠ .pipeline other)
    (held : run.pipeline.subscriptions[run.source]? = some subscription)
    (moved : captureStep (run.capture subscription) called = some (capture, looped)) :
    Audited (run.resume subscription capture)
      (trace ++ [(label, .subscription run.source (FanoutRun.seen looped))]) := by
  have accounted := audited.balanced.accounts run.source subscription held
  rcases loop_cases moved own with ⟨frame, queue, receiving, rfl, waiting, same, consumer⟩ | ⟨quiet, same, gaps⟩
  · have called : subscription.step id run.pipeline.publishing .get =
        some ({ subscription with subscriber := { subscription.subscriber with queue } }, .took frame) := by
      have front : subscription.subscriber.queue = frame :: queue := waiting
      simp only [Subscription.step, front]
    have after := accounted.step audited.balanced.active called
    have taken : takenFrom (historyOf run.source trace ++ [.took frame]) =
        takenFrom (historyOf run.source trace) ++ [frame] := takenFrom_snoc
    constructor
    · rw [historyOf_extend]
      simp only [FanoutRun.resume, same]
      exact audited.balanced.set held after
    · have increasing := after.books.increasing
      rw [taken, List.pairwise_append] at increasing
      have received : takenFrom (historyOf run.source
          (trace ++ [(label, .subscription run.source (.took frame))])) =
            takenFrom (historyOf run.source trace) ++ [frame] := by
        rw [historyOf_snoc, FanoutEvent.happenings, if_pos rfl, taken]
      change Gapped (takenFrom (historyOf run.source _)) capture.consumer
      rw [FanoutRun.seen, received, consumer]
      apply audited.gapped.receive receiving
      intro last final
      exact increasing.2.2 last (List.mem_of_mem_getLast? final) frame List.mem_cons_self
  · have unseen : FanoutRun.seen looped = .silent := by
      unfold FanoutRun.seen
      split
      · cases quiet
      · rfl
    have unchanged : ({ subscription with subscriber := capture.pipeline.subscriber } : Subscription) =
        subscription := by
      rw [same]
      rfl
    obtain ⟨standing, passed, lost, skipped, flow⟩ := accounted
    have after : Accounted run.pipeline subscription (historyOf run.source trace ++ [.silent]) :=
      ⟨standing.quiet rfl rfl rfl, passed, lost, skipped, flow.quiet rfl rfl rfl rfl rfl⟩
    rw [unseen]
    constructor
    · rw [historyOf_extend]
      simp only [FanoutRun.resume, unchanged]
      exact audited.balanced.set held after
    · change Gapped (takenFrom (historyOf run.source _)) capture.consumer
      rw [historyOf_snoc, FanoutEvent.happenings, if_pos rfl, takenFrom_snoc]
      exact (List.append_nil _).symm ▸ gaps _ audited.gapped

theorem step_audited (audited : Audited run trace)
    (moved : fanoutStep represent run label = some (next, event)) :
    Audited next (trace ++ [(label, event)]) := by
  cases label with
  | pipeline called =>
    simp only [fanoutStep] at moved
    split at moved
    · rename_i permitted
      obtain ⟨⟨pipeline, happened⟩, stepped, same⟩ := Option.map_eq_some_iff.mp moved
      obtain ⟨rfl, rfl⟩ := Prod.mk.inj same
      constructor
      · rw [historyOf_extend]
        exact audited.balanced.step stepped
      · have nothing := pipeline_takes permitted stepped
        change Gapped (takenFrom (historyOf run.source _)) run.consumer
        rw [historyOf_snoc, takenFrom_append, nothing, List.append_nil]
        exact audited.gapped
    · cases moved
  | consume called =>
    cases called with
    | pipeline other => cases moved
    | _ =>
      simp only [fanoutStep] at moved
      split at moved
      · cases moved
      · rename_i subscription held
        obtain ⟨⟨capture, looped⟩, stepped, same⟩ := Option.map_eq_some_iff.mp moved
        obtain ⟨rfl, rfl⟩ := Prod.mk.inj same
        exact consume_audited audited (by simp) held stepped

/-- A pipeline that was started has no subscribers, and its consumer has received nothing. -/
theorem create_audited : Audited (.create source streamId batchSize .stream) [] := by
  refine ⟨⟨by simp [FanoutRun.create, FanoutPipeline.create], ?_, fun _ _ => rfl⟩,
    ⟨rfl, rfl, fun _ => rfl, ?_⟩⟩
  · intro index subscription present
    cases present
  · intro first head
    cases head

/-- The accounts of a fan-out and of its stream consumer. -/
structure FanoutAccounts (run : FanoutRun) (trace : FanoutTrace) : Prop where
  books : ∀ (index : Nat) subscription, run.pipeline.subscriptions[index]? = some subscription →
    Books run.pipeline subscription (historyOf index trace)
  unreceived : takenFrom (historyOf run.source trace) = [] → run.consumer.sequenceGaps = 0
  gaps : ∀ first ∈ (takenFrom (historyOf run.source trace)).head?,
    ∀ last ∈ (takenFrom (historyOf run.source trace)).getLast?,
      run.consumer.sequenceGaps = droppedBetween (historyOf run.source trace) first last

/-- Whatever the schedule of publications, deliveries, reads, detachments, deadlines and the stop,
every subscriber's frames are accounted for, each failure is reported once, and the stream
consumer counts as gaps what was dropped between the frames it received. -/
theorem fanout_accounted (path : Path (fanoutStep represent) anyLabel
    (.create source streamId batchSize .stream) trace run) : FanoutAccounts run trace := by
  have audited : Audited run trace :=
    path.preserves_trace (fun trace run => Audited run trace) create_audited
      fun _ _ _ _ _ _ audited _ moved => step_audited audited moved
  refine ⟨?_, audited.gapped.unreceived, ?_⟩
  · exact fun index subscription held => (audited.balanced.accounts index subscription held).books
  · intro first head last tail
    cases listed : run.pipeline.subscriptions[run.source]? with
    | none =>
      rw [audited.balanced.unlisted run.source listed] at head
      cases head
    | some subscription =>
      have between := (audited.balanced.accounts run.source subscription listed).between head tail
      have counted := audited.gapped.counted first head last tail
      omega

/-- The archive misses its deadline for the second frame, and the stream drops that frame for a
third before its consumer comes back. -/
def overloadSchedule : List FanoutLabel :=
  let offer (labels : List FanoutPipelineLabel) : List FanoutLabel :=
    (FanoutPipelineLabel.receive sampleFrame :: labels ++ [FanoutPipelineLabel.settle]).map .pipeline
  [.pipeline (.subscribe "archive" 1 false (some 1)), .pipeline (.subscribe "stream" 1 true none)] ++
    offer [.subscription 0 .attempt, .subscription 1 .attempt] ++ [.consume .check, .consume .take] ++
    offer [.subscription 0 .attempt, .subscription 1 .attempt, .subscription 0 .expire] ++
    offer [.subscription 1 .attempt] ++ [.consume .check, .consume .take]

/-- The gaps of the consumer, what it received, and the frames of the reported failures. -/
def overloadSeen (reached : FanoutRun × FanoutTrace) : Nat × List Nat × List Nat :=
  (reached.1.consumer.sequenceGaps, (takenFrom (historyOf 1 reached.2)).map Frame.sequence,
    (reportsOf (historyOf 0 reached.2)).map SubscriberFailure.frameSequence)

theorem fanout_accounted_sample : ∃ trace run,
    Path (fanoutStep fun name => "'" ++ name ++ "'") anyLabel (.create 1 "stream" 8 .stream) trace run ∧
    overloadSeen (run, trace) = (1, [0, 2], [1]) ∧ FanoutAccounts run trace := by
  have evaluated : (followWithin (fanoutStep fun name => "'" ++ name ++ "'") (fun _ _ => true)
      (.create 1 "stream" 8 .stream) overloadSchedule).map overloadSeen = some (1, [0, 2], [1]) := by
    decide +kernel
  obtain ⟨trace, run, path, seen⟩ :=
    Path.observedWithin overloadSchedule overloadSeen _ (fun _ _ _ => trivial) evaluated
  exact ⟨trace, run, path, seen, fanout_accounted path⟩

end Fanouts

end CanX.Capture
