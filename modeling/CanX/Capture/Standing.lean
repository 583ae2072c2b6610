import CanX.Capture.Conservation
import Mathlib.Tactic.ByContra

/-! The standing of one subscriber with the pipeline: it is numbered without a gap while it is
attached, its failure is its end, and a settlement reports each failure once. -/

namespace CanX.Capture

open Domain Transition

section Standings

/-- The failure that the loop has yet to report. -/
def Subscription.unreported (subscription : Subscription) : List SubscriberFailure :=
  match subscription.delivery with
  | some (.failed failure) => [failure]
  | _ => []

theorem Subscription.unreported_cases (subscription : Subscription) :
    subscription.unreported = [] ∨ ∃ failure, subscription.unreported = [failure] := by
  unfold Subscription.unreported
  split
  · exact .inr ⟨_, rfl⟩
  · exact .inl rfl

/-- The loop reports what has failed and nothing else. -/
theorem Subscription.unreported_failed {subscription : Subscription} {stopRequested : Bool}
    {failure : SubscriberFailure} (reported : subscription.verdict stopRequested = .reported failure) :
    subscription.unreported = [failure] := by
  unfold Subscription.verdict at reported
  unfold Subscription.unreported
  split at reported
  · rename_i other failed
    cases reported
    rw [failed]
  · split at reported <;> cases reported
  · split at reported <;> cases reported
  · cases reported

theorem Subscription.unreported_quiet {subscription : Subscription} {stopRequested : Bool}
    (quiet : ∀ failure, subscription.verdict stopRequested ≠ .reported failure) :
    subscription.unreported = [] := by
  unfold Subscription.unreported
  split
  · rename_i failure failed
    exact absurd (by rw [Subscription.verdict, failed]) (quiet failure)
  · rfl

def Subscription.Failed (subscription : Subscription) : Prop :=
  ∃ failure, subscription.delivery = some (.failed failure)

/-- What ties a subscriber to the pipeline: a queue that was shut down while it was attached
belongs to a failure, and a failure is the end of the subscriber. -/
structure Standing (pipeline : FanoutPipeline) (subscription : Subscription) (history : History) : Prop where
  idle : pipeline.publishing = none → subscription.delivery = none
  faulted : subscription.subscriber.shutDown = true → subscription.attached = true → subscription.Failed
  reported : failuresOf history = reportsOf history ++ subscription.unreported
  once : (failuresOf history).length ≤ 1
  spent : failuresOf history ≠ [] → subscription.attached = true ∨ subscription.delivery ≠ none →
    subscription.Failed
  refused : subscription.delivery = some .disabled → subscription.attached = false
  stopped : subscription.delivery = some .cancelled → pipeline.stopRequested = true
  contiguous : Contiguous (assignedTo history)
  next : subscription.attached = true → ∀ last ∈ (assignedTo history).getLast?,
    pipeline.normalizer.nextSequence = last.sequence + 1

variable {pipeline other : FanoutPipeline} {subscription after : Subscription} {history : History}
variable {event : SubscriptionEvent} {represent : String → String} {frame : Frame}

theorem Standing.beside (standing : Standing pipeline subscription history)
    (publishing : other.publishing = pipeline.publishing)
    (stopRequested : pipeline.stopRequested = true → other.stopRequested = true)
    (normalizer : other.normalizer = pipeline.normalizer) : Standing other subscription history := by
  refine { standing with idle := ?_, stopped := ?_, next := ?_ }
  · rw [publishing]
    exact standing.idle
  · exact fun cancelled => stopRequested (standing.stopped cancelled)
  · rw [normalizer]
    exact standing.next

/-- A queue changes without being shut down. -/
theorem Standing.requeue (standing : Standing pipeline subscription history) {subscriber : FrameSubscriber}
    (same : subscriber.shutDown = subscription.subscriber.shutDown) :
    Standing pipeline { subscription with subscriber } history := by
  refine { standing with faulted := ?_ }
  rw [same]
  exact standing.faulted

/-- An event that neither assigns nor fails. -/
theorem Standing.quiet (standing : Standing pipeline subscription history)
    (assigned : event.assignedFrames = []) (failures : event.failures = []) (reports : event.reports = []) :
    Standing pipeline subscription (history ++ [event]) := by
  constructor
  case idle => exact standing.idle
  case faulted => exact standing.faulted
  case reported => simpa [failures, reports] using standing.reported
  case once => simpa [failures] using standing.once
  case spent => simpa [failures] using standing.spent
  case refused => exact standing.refused
  case stopped => exact standing.stopped
  case contiguous => simpa [assigned] using standing.contiguous
  case next => simpa [assigned] using standing.next

/-- A delivery under way moves to another state than failure. -/
theorem Standing.advance (standing : Standing pipeline subscription history) (delivery : Delivery)
    (present : subscription.delivery ≠ none) (unfailed : ¬ subscription.Failed)
    (normal : ∀ failure, delivery ≠ .failed failure)
    (refused : delivery = .disabled → subscription.subscriber.shutDown = true)
    (stopped : delivery = .cancelled → pipeline.stopRequested = true) :
    Standing pipeline { subscription with delivery := some delivery } history := by
  have unshut : subscription.attached = true → subscription.subscriber.shutDown = false := by
    intro attached
    by_contra shut
    exact unfailed (standing.faulted (Bool.eq_true_of_not_eq_false shut) attached)
  have nothing : failuresOf history = [] := by
    by_contra some_
    exact unfailed (standing.spent some_ (.inr present))
  have quiet : subscription.unreported = [] := by
    unfold Subscription.unreported
    split
    · rename_i failure failed
      exact absurd ⟨failure, failed⟩ unfailed
    · rfl
  have calm : Subscription.unreported { subscription with delivery := some delivery } = [] := by
    unfold Subscription.unreported
    split
    · rename_i failure failed
      exact absurd (Option.some.inj failed) (normal failure)
    · rfl
  constructor
  case idle => exact fun free => absurd (standing.idle free) present
  case faulted =>
    intro shut attached
    exact absurd (unshut attached) (by simpa using shut)
  case reported => rw [standing.reported, quiet, calm]
  case once => exact standing.once
  case spent => exact fun some_ => absurd nothing some_
  case refused =>
    intro disabled
    by_contra attached
    have shut := refused (Option.some.inj disabled)
    exact unfailed (standing.faulted shut (Bool.eq_true_of_not_eq_false attached))
  case stopped => exact fun cancelled => stopped (Option.some.inj cancelled)
  case contiguous => exact standing.contiguous
  case next => exact standing.next

/-- The deadline of a delivery passes. -/
theorem Standing.expire (standing : Standing pipeline subscription history) (failure : SubscriberFailure)
    (present : subscription.delivery ≠ none) (unfailed : ¬ subscription.Failed) :
    Standing pipeline { subscription with
      subscriber := subscription.subscriber.disable
      delivery := some (.failed failure) } (history ++ [.failed failure]) := by
  have nothing : failuresOf history = [] := by
    by_contra some_
    exact unfailed (standing.spent some_ (.inr present))
  have unreported : reportsOf history = [] := by
    have whole := standing.reported
    rw [nothing] at whole
    exact (List.append_eq_nil_iff.mp whole.symm).1
  constructor
  case idle => exact fun free => absurd (standing.idle free) present
  case faulted => exact fun _ _ => ⟨failure, rfl⟩
  case reported => simp [nothing, unreported, SubscriptionEvent.failures, SubscriptionEvent.reports,
    Subscription.unreported]
  case once => simp [nothing, SubscriptionEvent.failures]
  case spent => exact fun _ _ => ⟨failure, rfl⟩
  case refused => simp
  case stopped => simp
  case contiguous => simpa [SubscriptionEvent.assignedFrames] using standing.contiguous
  case next => simpa [SubscriptionEvent.assignedFrames] using standing.next

/-- The owner disables a queue that is detached. -/
theorem Standing.disable (standing : Standing pipeline subscription history)
    (detached : subscription.attached = false) (frames : List Frame) :
    Standing pipeline { subscription with subscriber := subscription.subscriber.disable }
      (history ++ [.discarded frames]) := by
  have quiet : Standing pipeline subscription (history ++ [.discarded frames]) := standing.quiet rfl rfl rfl
  refine { quiet with faulted := ?_ }
  intro _ attached
  exact absurd (detached.symm.trans attached) (by simp)

theorem Standing.detach (standing : Standing pipeline subscription history) {attached : Bool}
    (less : attached = true → subscription.attached = true) :
    Standing pipeline { subscription with attached } history := by
  refine { standing with faulted := ?_, spent := ?_, refused := ?_, next := ?_ }
  · exact fun shut present => standing.faulted shut (less present)
  · intro some_ cause
    exact standing.spent some_ (cause.imp less id)
  · intro disabled
    have detached := standing.refused disabled
    by_contra present
    exact absurd (less (Bool.eq_true_of_not_eq_false present)) (by simp [detached])
  · exact fun present => standing.next (less present)

/-- A fan-out begins, with this subscriber in its snapshot. -/
theorem Standing.begin (standing : Standing pipeline subscription history)
    (free : pipeline.publishing = none) (attached : subscription.attached = true)
    (publishing : other.publishing = some frame) (sequence : frame.sequence = pipeline.normalizer.nextSequence)
    (next : other.normalizer.nextSequence = frame.sequence + 1) :
    Standing other { subscription with delivery := some .started } (history ++ [.assigned frame]) := by
  have idle := standing.idle free
  have unfailed : ¬ subscription.Failed := by
    rintro ⟨failure, failed⟩
    exact absurd (idle.symm.trans failed) (by simp)
  have nothing : failuresOf history = [] := by
    by_contra some_
    exact unfailed (standing.spent some_ (.inl attached))
  have unreported : reportsOf history = [] := by
    have whole := standing.reported
    rw [nothing] at whole
    exact (List.append_eq_nil_iff.mp whole.symm).1
  constructor
  case idle => simp [publishing]
  case faulted => exact fun shut _ => absurd (standing.faulted shut attached) unfailed
  case reported => simp [nothing, unreported, SubscriptionEvent.failures, SubscriptionEvent.reports,
    Subscription.unreported]
  case once => simp [nothing, SubscriptionEvent.failures]
  case spent => simp [nothing, SubscriptionEvent.failures]
  case refused => simp
  case stopped => simp
  case contiguous =>
    rw [assignedTo_snoc]
    apply standing.contiguous.snoc
    intro last final
    rw [Follows, sequence]
    exact standing.next attached last final
  case next => simp [SubscriptionEvent.assignedFrames, next]

/-- The fan-out is over, and a failure in it is reported. -/
theorem Standing.reap (standing : Standing pipeline subscription history)
    (normalizer : other.normalizer = pipeline.normalizer) :
    Standing other (subscription.reap (!subscription.unreported.isEmpty))
      (history ++ subscription.unreported.map .reported) := by
  have reports : reportsOf (history ++ subscription.unreported.map .reported) =
      reportsOf history ++ subscription.unreported := by
    simp [reportsOf, List.flatMap_map, SubscriptionEvent.reports]
  have failures : failuresOf (history ++ subscription.unreported.map .reported) = failuresOf history := by
    simp [failuresOf, List.flatMap_map, SubscriptionEvent.failures]
  have assigned : assignedTo (history ++ subscription.unreported.map .reported) = assignedTo history := by
    simp [assignedTo, List.flatMap_map, SubscriptionEvent.assignedFrames]
  have attached : (subscription.reap (!subscription.unreported.isEmpty)).attached = true →
      subscription.attached = true ∧ ¬ subscription.Failed := by
    intro present
    obtain ⟨before, empty⟩ := Bool.and_eq_true_iff.mp present
    refine ⟨before, ?_⟩
    rintro ⟨failure, failed⟩
    simp [Subscription.unreported, failed] at empty
  constructor
  case idle => exact fun _ => rfl
  case faulted =>
    intro shut present
    obtain ⟨before, unfailed⟩ := attached present
    exact absurd (standing.faulted shut before) unfailed
  case reported =>
    rw [reports, failures, standing.reported]
    simp [Subscription.unreported, Subscription.reap]
  case once => exact failures ▸ standing.once
  case spent =>
    intro some_ cause
    rcases cause with present | busy
    · obtain ⟨before, unfailed⟩ := attached present
      exact absurd (standing.spent (failures ▸ some_) (.inl before)) unfailed
    · exact absurd rfl busy
  case refused => simp [Subscription.reap]
  case stopped => simp [Subscription.reap]
  case contiguous => exact assigned ▸ standing.contiguous
  case next =>
    intro present
    rw [assigned, normalizer]
    exact standing.next (attached present).1

end Standings

/-- The books of one subscriber. -/
structure Accounted (pipeline : FanoutPipeline) (subscription : Subscription) (history : History) : Prop where
  standing : Standing pipeline subscription history
  flow : ∃ passed lost skipped, Flow pipeline subscription history passed lost skipped

section Steps

variable {pipeline other next : FanoutPipeline} {subscription after : Subscription} {history : History}
variable {event : SubscriptionEvent} {represent : String → String} {frame : Frame}

/-- A step of the delivery task or of the owner. -/
theorem Accounted.step (accounted : Accounted pipeline subscription history)
    (active : pipeline.publishing.isSome = true → pipeline.running = true) {label : SubscriptionLabel}
    (moved : subscription.step represent pipeline.publishing label = some (after, event)) :
    Accounted pipeline after (history ++ [event]) := by
  obtain ⟨standing, passed, lost, skipped, flow⟩ := accounted
  cases label with
  | attempt =>
    simp only [Subscription.step] at moved
    split at moved
    · rename_i frame started publishing
      have running := active (by simp [publishing])
      have present : subscription.delivery ≠ none := by simp [started]
      have unfailed : ¬ subscription.Failed := by simp [Subscription.Failed, started]
      split at moved
      · rename_i subscriber put
        obtain ⟨rfl, rfl⟩ := Prod.mk.inj (Option.some.inj moved)
        obtain ⟨more, kept⟩ := flow.accept running started publishing put
        have ahead := standing.advance .succeeded present unfailed (by simp) (by simp) (by simp)
        have same : subscriber.shutDown = subscription.subscriber.shutDown := put_shutDown put
        exact ⟨(ahead.requeue same).quiet rfl rfl rfl, more, [], [], kept⟩
      · rename_i refused
        split at moved
        · rename_i shut
          obtain ⟨rfl, rfl⟩ := Prod.mk.inj (Option.some.inj moved)
          have ahead := standing.advance .disabled present unfailed (by simp) (fun _ => shut) (by simp)
          exact ⟨ahead.quiet rfl rfl rfl, passed, lost, skipped, flow.refuse shut⟩
        · rename_i available
          obtain ⟨rfl, rfl⟩ := Prod.mk.inj (Option.some.inj moved)
          have ahead := standing.advance .blocked present unfailed (by simp) (by simp) (by simp)
          exact ⟨ahead.quiet rfl rfl rfl, passed, [frame], [],
            flow.block running started publishing refused (Bool.eq_false_of_not_eq_true available)⟩
    · cases moved
  | wake =>
    simp only [Subscription.step] at moved
    split at moved
    · rename_i frame blocked publishing
      have present : subscription.delivery ≠ none := by simp [blocked]
      have unfailed : ¬ subscription.Failed := by simp [Subscription.Failed, blocked]
      split at moved
      · rename_i subscriber put
        obtain ⟨rfl, rfl⟩ := Prod.mk.inj (Option.some.inj moved)
        have ahead := standing.advance .succeeded present unfailed (by simp) (by simp) (by simp)
        have same : subscriber.shutDown = subscription.subscriber.shutDown := put_shutDown put
        exact ⟨(ahead.requeue same).quiet rfl rfl rfl, passed, [], skipped,
          flow.woken blocked publishing put⟩
      · split at moved
        · rename_i shut
          obtain ⟨rfl, rfl⟩ := Prod.mk.inj (Option.some.inj moved)
          have ahead := standing.advance .disabled present unfailed (by simp) (fun _ => shut) (by simp)
          exact ⟨ahead.quiet rfl rfl rfl, passed, lost, skipped, flow.refuse shut⟩
        · cases moved
    · cases moved
  | expire =>
    simp only [Subscription.step] at moved
    split at moved
    · rename_i frame blocked _
      have present : subscription.delivery ≠ none := by simp [blocked]
      have unfailed : ¬ subscription.Failed := by simp [Subscription.Failed, blocked]
      split at moved
      · obtain ⟨rfl, rfl⟩ := Prod.mk.inj (Option.some.inj moved)
        refine ⟨standing.expire _ present unfailed, passed, _, skipped,
          flow.shut _ (.inr (by simp)) rfl rfl rfl rfl ?_⟩
        intro lossy
        exact absurd (lossy.symm.trans (flow.blocked blocked).1) (by simp)
      · cases moved
    · cases moved
  | disable =>
    simp only [Subscription.step] at moved
    split at moved
    · rename_i detached
      obtain ⟨rfl, rfl⟩ := Prod.mk.inj (Option.some.inj moved)
      exact ⟨standing.disable detached _, passed, _, skipped,
        flow.shut subscription.delivery (.inl rfl) rfl rfl rfl rfl fun _ => rfl⟩
    · cases moved
  | get =>
    simp only [Subscription.step] at moved
    split at moved
    · cases moved
    · rename_i frame queue held
      obtain ⟨rfl, rfl⟩ := Prod.mk.inj (Option.some.inj moved)
      have requeued : Standing pipeline
          { subscription with subscriber := { subscription.subscriber with queue } } history :=
        standing.requeue rfl
      exact ⟨requeued.quiet rfl rfl rfl, passed ++ [frame], lost, skipped, flow.take held⟩

theorem Accounted.beside (accounted : Accounted pipeline subscription history)
    (publishing : other.publishing = pipeline.publishing)
    (running : other.running = true → pipeline.running = true)
    (stopRequested : pipeline.stopRequested = true → other.stopRequested = true)
    (normalizer : other.normalizer = pipeline.normalizer) : Accounted other subscription history := by
  obtain ⟨standing, passed, lost, skipped, flow⟩ := accounted
  exact ⟨standing.beside publishing stopRequested normalizer, passed, lost, skipped,
    flow.beside publishing running⟩

theorem Accounted.detach (accounted : Accounted pipeline subscription history) {attached : Bool}
    (less : attached = true → subscription.attached = true) :
    Accounted pipeline { subscription with attached } history := by
  obtain ⟨standing, passed, lost, skipped, flow⟩ := accounted
  exact ⟨standing.detach less, passed, lost, skipped, { flow with }⟩

/-- A fan-out begins: who is attached takes part, and for the others only numbers go on. -/
theorem Accounted.begin (accounted : Accounted pipeline subscription history)
    (free : pipeline.publishing = none) (running : pipeline.running = true)
    (publishing : other.publishing = some frame)
    (sequence : frame.sequence = pipeline.normalizer.nextSequence)
    (stopRequested : other.stopRequested = pipeline.stopRequested)
    (later : other.normalizer.nextSequence = frame.sequence + 1) :
    Accounted other subscription.begin
      (history ++ if subscription.attached = true then [.assigned frame] else []) := by
  obtain ⟨standing, passed, lost, skipped, flow⟩ := accounted
  have idle := standing.idle free
  unfold Subscription.begin
  by_cases attached : subscription.attached = true
  · have available : subscription.subscriber.shutDown = false := by
      by_contra shut
      obtain ⟨failure, failed⟩ := standing.faulted (Bool.eq_true_of_not_eq_false shut) attached
      exact absurd (idle.symm.trans failed) (by simp)
    rw [if_pos attached, if_pos attached]
    exact ⟨standing.begin free attached publishing sequence later, passed, lost, [frame],
      flow.begin running idle available publishing⟩
  · rw [if_neg attached, if_neg attached, List.append_nil]
    refine ⟨{ standing with idle := ?_, stopped := ?_, next := ?_ }, passed, lost, skipped,
      { flow with started := ?_, blocked := ?_, clear := ?_ }⟩
    · exact fun _ => idle
    · rw [stopRequested]
      exact standing.stopped
    · exact fun present => absurd present attached
    · simp [idle]
    · simp [idle]
    · exact fun _ => flow.clear running

/-- A frame that nobody was there for. -/
theorem Accounted.unattended (accounted : Accounted pipeline subscription history)
    (detached : subscription.attached = false) (free : pipeline.publishing = none)
    (running : pipeline.running = true) : Accounted other subscription history := by
  obtain ⟨standing, passed, lost, skipped, flow⟩ := accounted
  have idle := standing.idle free
  refine ⟨{ standing with idle := ?_, stopped := ?_, next := ?_ }, passed, lost, skipped,
    { flow with started := ?_, blocked := ?_, clear := ?_ }⟩
  · exact fun _ => idle
  · simp [idle]
  · exact fun present => absurd (detached.symm.trans present) (by simp)
  · simp [idle]
  · simp [idle]
  · exact fun _ => flow.clear running

theorem Accounted.cancel (accounted : Accounted pipeline subscription history)
    (requested : pipeline.stopRequested = true) : Accounted pipeline subscription.cancel history := by
  obtain ⟨standing, passed, lost, skipped, flow⟩ := accounted
  refine ⟨?_, passed, lost, skipped, flow.cancel⟩
  unfold Subscription.cancel
  split
  · rename_i blocked
    exact standing.advance .cancelled (by simp [blocked]) (by simp [Subscription.Failed, blocked]) (by simp)
      (by simp) fun _ => requested
  · exact standing

/-- The fan-out is over. -/
theorem Accounted.reap (accounted : Accounted pipeline subscription history)
    (done : subscription.delivery.all Delivery.done = true) (publishing : pipeline.publishing ≠ none)
    (active : pipeline.publishing.isSome = true → pipeline.running = true)
    (halted : other.running = true → pipeline.stopRequested = false)
    (normalizer : other.normalizer = pipeline.normalizer) :
    Accounted other (subscription.reap (!subscription.unreported.isEmpty))
      (history ++ subscription.unreported.map .reported) := by
  obtain ⟨standing, passed, lost, skipped, flow⟩ := accounted
  have reaped : Flow other (subscription.reap (!subscription.unreported.isEmpty)) history passed lost skipped := by
    apply flow.reap _ done publishing active
    intro again cancelled
    exact absurd ((halted again).symm.trans (standing.stopped cancelled)) (by simp)
  refine ⟨standing.reap normalizer, passed, lost, skipped, ?_⟩
  rcases subscription.unreported_cases with silent | ⟨failure, failed⟩
  · rw [silent, List.map_nil, List.append_nil]
    exact silent ▸ reaped
  · rw [failed] at reaped ⊢
    have reporting : Flow other _ (history ++ [.reported failure]) passed lost skipped :=
      reaped.quiet rfl rfl rfl rfl rfl
    exact reporting

/-- A new subscriber. -/
theorem Accounted.create {name : String} {capacity : Nat} {lossy : Bool} {timeout : Option Seconds}
    (positive : 0 < capacity) : Accounted pipeline (.create name capacity lossy timeout) [] := by
  refine ⟨⟨fun _ => rfl, ?_, rfl, Nat.zero_le 1, ?_, ?_, ?_, .nil, ?_⟩, [], [], [],
    ⟨positive, rfl, rfl, .refl _, .refl _, rfl, fun _ => rfl, fun _ => rfl, fun _ => rfl, ?_, fun _ _ => rfl,
      ?_, fun _ _ _ _ => rfl⟩⟩
  · simp [Subscription.create, FrameSubscriber.create]
  · simp [failuresOf]
  · simp [Subscription.create]
  · simp [Subscription.create]
  · simp [assignedTo]
  · simp [Subscription.create]
  · simp [Subscription.create]

end Steps

section Settlements

variable {pipeline : FanoutPipeline} {history : History} {stopRequested : Bool}

/-- No result of a fan-out is raised by the loop that goes through them. -/
theorem Standing.unraised {subscription : Subscription} (standing : Standing pipeline subscription history) :
    subscription.verdict pipeline.stopRequested ≠ .raised := by
  unfold Subscription.verdict
  split
  · simp
  · rename_i disabled
    simp [standing.refused disabled]
  · rename_i cancelled
    simp [standing.stopped cancelled]
  · simp

private theorem happenings_cons {reports : List (Nat × SubscriberFailure)} {index other : Nat}
    {failure : SubscriberFailure} :
    (FanoutEvent.settled ((other, failure) :: reports)).happenings index =
      (if other = index then [.reported failure] else []) ++ (FanoutEvent.settled reports).happenings index := by
  by_cases same : other = index <;> simp [FanoutEvent.happenings, same]

/-- A settlement that raises nothing deals with every subscriber alike. -/
theorem settleDeliveries_unraised {subscriptions : List Subscription} (first : Nat)
    (unraised : ∀ subscription ∈ subscriptions, subscription.verdict stopRequested ≠ .raised) :
    (settleDeliveries stopRequested first subscriptions).raised = false ∧
    (settleDeliveries stopRequested first subscriptions).subscriptions =
      subscriptions.map (fun subscription => subscription.reap (!subscription.unreported.isEmpty)) ∧
    (∀ report ∈ (settleDeliveries stopRequested first subscriptions).reports, first ≤ report.1) ∧
    ∀ position,
      (FanoutEvent.settled (settleDeliveries stopRequested first subscriptions).reports).happenings
        (first + position) =
      (subscriptions[position]?.toList.flatMap Subscription.unreported).map .reported := by
  induction subscriptions generalizing first with
  | nil => simp [settleDeliveries, FanoutEvent.happenings]
  | cons subscription rest ih =>
    obtain ⟨calm, mapped, beyond, shared⟩ := ih (first + 1) fun other member =>
      unraised other (List.mem_cons_of_mem _ member)
    have above : ∀ report ∈ (settleDeliveries stopRequested (first + 1) rest).reports, first ≤ report.1 :=
      fun report member => Nat.le_of_succ_le (beyond report member)
    have own : (FanoutEvent.settled (settleDeliveries stopRequested (first + 1) rest).reports).happenings first =
        [] := by
      simp only [FanoutEvent.happenings, List.map_eq_nil_iff, List.filter_eq_nil_iff, decide_eq_true_eq]
      intro report member
      have larger := beyond report member
      omega
    have others (position : Nat) :
        (FanoutEvent.settled (settleDeliveries stopRequested (first + 1) rest).reports).happenings
          (first + (position + 1)) =
        (rest[position]?.toList.flatMap Subscription.unreported).map .reported := by
      rw [← shared position, Nat.add_right_comm first 1 position, Nat.add_assoc]
    have quiet (silent : subscription.unreported = []) (position : Nat) :
        (FanoutEvent.settled (settleDeliveries stopRequested (first + 1) rest).reports).happenings
          (first + position) =
        ((subscription :: rest)[position]?.toList.flatMap Subscription.unreported).map .reported := by
      cases position with
      | zero => simpa [silent] using own
      | succ position => exact others position
    simp only [settleDeliveries]
    split
    · rename_i passed
      have silent : subscription.unreported = [] :=
        Subscription.unreported_quiet fun failure reported => by cases passed.symm.trans reported
      exact ⟨calm, by simp [mapped, silent], above, quiet silent⟩
    · rename_i failure reported
      have noisy := Subscription.unreported_failed reported
      refine ⟨calm, by simp [mapped, noisy], ?_, ?_⟩
      · intro report member
        rcases List.mem_cons.mp member with rfl | later
        · exact Nat.le_refl first
        · exact above report later
      · intro position
        rw [happenings_cons]
        cases position with
        | zero => simpa [noisy] using own
        | succ position =>
          rw [others, if_neg (by omega)]
          rfl
    · rename_i unsettled
      have silent : subscription.unreported = [] :=
        Subscription.unreported_quiet fun failure reported => by cases unsettled.symm.trans reported
      exact ⟨calm, by simp [mapped, silent], above, quiet silent⟩
    · rename_i raised
      exact absurd raised (unraised subscription List.mem_cons_self)

end Settlements

end CanX.Capture
