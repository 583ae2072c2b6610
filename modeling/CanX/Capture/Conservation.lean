import CanX.Capture.Fanout
import CanX.Capture.Publication

/-! What became of the frames of one subscriber: every frame offered to it was passed on, is
queued, or was lost when its queue was shut down or its delivery cancelled. -/

namespace CanX.Capture

open Domain Transition

section Histories

/-- What happened to one subscriber. -/
abbrev History := List SubscriptionEvent

abbrev FanoutTrace := List (FanoutLabel × FanoutEvent)

namespace SubscriptionEvent

def assignedFrames : SubscriptionEvent → List Frame
  | .assigned frame => [frame]
  | _ => []

def offeredFrames : SubscriptionEvent → List Frame
  | .offered frame _ => [frame]
  | _ => []

def droppedFrames : SubscriptionEvent → List Frame
  | .offered _ dropped => dropped.toList
  | _ => []

def takenFrames : SubscriptionEvent → List Frame
  | .took frame => [frame]
  | _ => []

def discardedFrames : SubscriptionEvent → List Frame
  | .discarded frames => frames
  | _ => []

def failures : SubscriptionEvent → List SubscriberFailure
  | .failed failure => [failure]
  | _ => []

def reports : SubscriptionEvent → List SubscriberFailure
  | .reported failure => [failure]
  | _ => []

end SubscriptionEvent

/-- The frames whose fan-out had the subscriber in its snapshot. -/
def assignedTo (history : History) : List Frame := history.flatMap SubscriptionEvent.assignedFrames

/-- The frames that were published to the subscriber. -/
def offeredTo (history : History) : List Frame := history.flatMap SubscriptionEvent.offeredFrames

/-- The frames that a full lossy queue let go. -/
def droppedFrom (history : History) : List Frame := history.flatMap SubscriptionEvent.droppedFrames

/-- The frames that were delivered. -/
def takenFrom (history : History) : List Frame := history.flatMap SubscriptionEvent.takenFrames

/-- The frames that were queued when the owner disabled the queue. -/
def discardedFrom (history : History) : List Frame := history.flatMap SubscriptionEvent.discardedFrames

def failuresOf (history : History) : List SubscriberFailure := history.flatMap SubscriptionEvent.failures

def reportsOf (history : History) : List SubscriberFailure := history.flatMap SubscriptionEvent.reports

def FanoutEvent.happenings (index : Nat) : FanoutEvent → History
  | .silent => []
  | .captured frame snapshot => if snapshot[index]? = some true then [.assigned frame] else []
  | .subscription other event => if other = index then [event] else []
  | .settled reports =>
    (reports.filter fun report => report.1 = index).map fun report => .reported report.2

def historyOf (index : Nat) (trace : FanoutTrace) : History :=
  trace.flatMap fun step => step.2.happenings index

variable {history : History} {event : SubscriptionEvent}

@[simp] theorem historyOf_snoc {index : Nat} {trace : FanoutTrace} {label : FanoutLabel} {event : FanoutEvent} :
    historyOf index (trace ++ [(label, event)]) = historyOf index trace ++ event.happenings index := by
  simp [historyOf]

@[simp] theorem assignedTo_snoc : assignedTo (history ++ [event]) = assignedTo history ++ event.assignedFrames := by
  simp [assignedTo]

@[simp] theorem offeredTo_snoc : offeredTo (history ++ [event]) = offeredTo history ++ event.offeredFrames := by
  simp [offeredTo]

@[simp] theorem droppedFrom_snoc :
    droppedFrom (history ++ [event]) = droppedFrom history ++ event.droppedFrames := by
  simp [droppedFrom]

@[simp] theorem takenFrom_snoc : takenFrom (history ++ [event]) = takenFrom history ++ event.takenFrames := by
  simp [takenFrom]

@[simp] theorem discardedFrom_snoc :
    discardedFrom (history ++ [event]) = discardedFrom history ++ event.discardedFrames := by
  simp [discardedFrom]

@[simp] theorem failuresOf_snoc : failuresOf (history ++ [event]) = failuresOf history ++ event.failures := by
  simp [failuresOf]

@[simp] theorem reportsOf_snoc : reportsOf (history ++ [event]) = reportsOf history ++ event.reports := by
  simp [reportsOf]

end Histories

section Queues

variable {subscriber later : FrameSubscriber} {frame : Frame}

/-- A queue that takes a frame has room, or drops its oldest frame for it. -/
theorem put_some (moved : subscriber.put frame = some later) :
    subscriber.shutDown = false ∧
      ((subscriber.full = false ∧ later = { subscriber with queue := subscriber.queue ++ [frame] }) ∨
      (subscriber.full = true ∧ subscriber.lossy = true ∧ later = { subscriber with
        queue := subscriber.queue.tail ++ [frame]
        droppedFrames := subscriber.droppedFrames + 1 })) := by
  unfold FrameSubscriber.put at moved
  split at moved
  · cases moved
  · rename_i available
    refine ⟨Bool.eq_false_of_not_eq_true available, ?_⟩
    split at moved
    · rename_i full
      split at moved
      · rename_i lossy
        exact .inr ⟨full, lossy, (Option.some.inj moved).symm⟩
      · cases moved
    · rename_i room
      exact .inl ⟨Bool.eq_false_of_not_eq_true room, (Option.some.inj moved).symm⟩

/-- A queue that is not shut down refuses a frame only if it is lossless. -/
theorem put_none (refused : subscriber.put frame = none) (available : subscriber.shutDown = false) :
    subscriber.lossy = false := by
  unfold FrameSubscriber.put at refused
  rw [available] at refused
  split at refused
  · contradiction
  · split at refused
    · split at refused
      · cases refused
      · rename_i lossless
        exact Bool.eq_false_of_not_eq_true lossless
    · cases refused

theorem put_shutDown (moved : subscriber.put frame = some later) : later.shutDown = subscriber.shutDown := by
  obtain ⟨_, ⟨_, rfl⟩ | ⟨_, _, rfl⟩⟩ := put_some moved
  · rfl
  · rfl

theorem full_cons (positive : 0 < subscriber.capacity) (full : subscriber.full = true) :
    ∃ oldest rest, subscriber.queue = oldest :: rest := by
  have enough : subscriber.capacity ≤ subscriber.queue.length := of_decide_eq_true full
  exact List.exists_cons_of_length_pos (positive.trans_le enough)

end Queues

/-- Where the frames of one subscriber are. `passed` left the queue at its head, `lost` never
will, and `skipped` was assigned but not offered. -/
structure Flow (pipeline : FanoutPipeline) (subscription : Subscription) (history : History)
    (passed lost skipped : List Frame) : Prop where
  positive : 0 < subscription.subscriber.capacity
  assigned : assignedTo history = offeredTo history ++ skipped
  offered : offeredTo history = passed ++ subscription.subscriber.queue ++ lost
  shared : (takenFrom history ++ droppedFrom history).Perm passed
  ordered : (takenFrom history).Sublist passed
  counted : subscription.subscriber.droppedFrames = (droppedFrom history).length
  lossless : subscription.subscriber.lossy = false → droppedFrom history = []
  discards : subscription.subscriber.lossy = true → lost.length = (discardedFrom history).length
  undisturbed : subscription.subscriber.shutDown = false → discardedFrom history = []
  started : subscription.delivery = some .started → ∃ frame, pipeline.publishing = some frame ∧ skipped = [frame]
  unskipped : subscription.delivery ≠ some .started → subscription.subscriber.shutDown = false → skipped = []
  blocked : subscription.delivery = some .blocked → subscription.subscriber.lossy = false ∧
    (subscription.subscriber.shutDown = false → ∃ frame, pipeline.publishing = some frame ∧ lost = [frame])
  clear : pipeline.running = true → subscription.subscriber.shutDown = false →
    subscription.delivery ≠ some .blocked → subscription.delivery ≠ some .cancelled → lost = []

section Flowing

variable {pipeline other : FanoutPipeline} {subscription after : Subscription} {history : History}
variable {event : SubscriptionEvent} {passed lost skipped : List Frame} {represent : String → String}
variable {frame : Frame}

/-- A step that the subscriber has no part in. -/
theorem Flow.beside (flow : Flow pipeline subscription history passed lost skipped)
    (publishing : other.publishing = pipeline.publishing)
    (running : other.running = true → pipeline.running = true) :
    Flow other subscription history passed lost skipped := by
  refine { flow with started := ?_, blocked := ?_, clear := ?_ }
  · rw [publishing]
    exact flow.started
  · rw [publishing]
    exact flow.blocked
  · intro active
    exact flow.clear (running active)

/-- An event that moves no frame. -/
theorem Flow.quiet (flow : Flow pipeline subscription history passed lost skipped)
    (assigned : event.assignedFrames = []) (offered : event.offeredFrames = [])
    (dropped : event.droppedFrames = []) (taken : event.takenFrames = [])
    (discarded : event.discardedFrames = []) :
    Flow pipeline subscription (history ++ [event]) passed lost skipped where
  positive := flow.positive
  assigned := by
    rw [assignedTo_snoc, offeredTo_snoc, assigned, offered, List.append_nil, List.append_nil]
    exact flow.assigned
  offered := by
    rw [offeredTo_snoc, offered, List.append_nil]
    exact flow.offered
  shared := by
    rw [takenFrom_snoc, droppedFrom_snoc, taken, dropped, List.append_nil, List.append_nil]
    exact flow.shared
  ordered := by
    rw [takenFrom_snoc, taken, List.append_nil]
    exact flow.ordered
  counted := by
    rw [droppedFrom_snoc, dropped, List.append_nil]
    exact flow.counted
  lossless := by
    rw [droppedFrom_snoc, dropped, List.append_nil]
    exact flow.lossless
  discards := by
    rw [discardedFrom_snoc, discarded, List.append_nil]
    exact flow.discards
  undisturbed := by
    rw [discardedFrom_snoc, discarded, List.append_nil]
    exact flow.undisturbed
  started := flow.started
  unskipped := flow.unskipped
  blocked := flow.blocked
  clear := flow.clear

/-- The queue takes the frame that it was just offered. -/
theorem Flow.accept (flow : Flow pipeline subscription history passed lost skipped)
    (running : pipeline.running = true) (started : subscription.delivery = some .started)
    (publishing : pipeline.publishing = some frame) {subscriber : FrameSubscriber}
    (moved : subscription.subscriber.put frame = some subscriber) :
    ∃ passed, Flow pipeline { subscription with subscriber, delivery := some .succeeded }
      (history ++ [.offered frame subscription.overflow]) passed [] [] := by
  obtain ⟨available, shapes⟩ := put_some moved
  have nothing : lost = [] := by
    apply flow.clear running available
    · simp [started]
    · simp [started]
  subst nothing
  obtain ⟨offering, current, waiting⟩ := flow.started started
  have same : offering = frame := Option.some.inj (current.symm.trans publishing)
  subst same waiting
  have offered := flow.offered
  rw [List.append_nil] at offered
  have undisturbed := flow.undisturbed available
  rcases shapes with ⟨room, rfl⟩ | ⟨full, lossy, rfl⟩
  · have kept : subscription.overflow = none := by
      simp [Subscription.overflow, room]
    refine ⟨passed, ?_⟩
    constructor
    case positive => exact flow.positive
    case assigned => simpa [SubscriptionEvent.assignedFrames, SubscriptionEvent.offeredFrames] using flow.assigned
    case offered => simp [SubscriptionEvent.offeredFrames, offered]
    case shared => simpa [SubscriptionEvent.takenFrames, SubscriptionEvent.droppedFrames, kept] using flow.shared
    case ordered => simpa [SubscriptionEvent.takenFrames] using flow.ordered
    case counted => simpa [SubscriptionEvent.droppedFrames, kept] using flow.counted
    case lossless => simpa [SubscriptionEvent.droppedFrames, kept] using flow.lossless
    case discards => simp [SubscriptionEvent.discardedFrames, undisturbed]
    case undisturbed => simp [SubscriptionEvent.discardedFrames, undisturbed]
    case started => simp
    case unskipped => simp
    case blocked => simp
    case clear => simp
  · obtain ⟨oldest, rest, queue⟩ := full_cons flow.positive full
    have dropped : subscription.overflow = some oldest := by
      simp [Subscription.overflow, full, lossy, queue]
    rw [queue] at offered
    refine ⟨passed ++ [oldest], ?_⟩
    constructor
    case positive => exact flow.positive
    case assigned => simpa [SubscriptionEvent.assignedFrames, SubscriptionEvent.offeredFrames] using flow.assigned
    case offered => simp [SubscriptionEvent.offeredFrames, offered, queue]
    case shared =>
      have more := flow.shared.append_right [oldest]
      simpa [SubscriptionEvent.takenFrames, SubscriptionEvent.droppedFrames, dropped] using more
    case ordered =>
      have more := flow.ordered.trans (List.sublist_append_left passed [oldest])
      simpa [SubscriptionEvent.takenFrames] using more
    case counted => simp [SubscriptionEvent.droppedFrames, dropped, flow.counted]
    case lossless =>
      intro lossless
      exact absurd (lossy.symm.trans lossless) (by simp)
    case discards => simp [SubscriptionEvent.discardedFrames, undisturbed]
    case undisturbed => simp [SubscriptionEvent.discardedFrames, undisturbed]
    case started => simp
    case unskipped => simp
    case blocked => simp
    case clear => simp

/-- A lossless queue is full, and the delivery waits. -/
theorem Flow.block (flow : Flow pipeline subscription history passed lost skipped)
    (running : pipeline.running = true) (started : subscription.delivery = some .started)
    (publishing : pipeline.publishing = some frame) (refused : subscription.subscriber.put frame = none)
    (available : subscription.subscriber.shutDown = false) :
    Flow pipeline { subscription with delivery := some .blocked } (history ++ [.offered frame none])
      passed [frame] [] := by
  have nothing : lost = [] := by
    apply flow.clear running available
    · simp [started]
    · simp [started]
  subst nothing
  obtain ⟨offering, current, waiting⟩ := flow.started started
  have same : offering = frame := Option.some.inj (current.symm.trans publishing)
  subst same waiting
  have lossless := put_none refused available
  constructor
  case positive => exact flow.positive
  case assigned => simpa [SubscriptionEvent.assignedFrames, SubscriptionEvent.offeredFrames] using flow.assigned
  case offered =>
    have offered := flow.offered
    rw [List.append_nil] at offered
    simp [SubscriptionEvent.offeredFrames, offered]
  case shared => simpa [SubscriptionEvent.takenFrames, SubscriptionEvent.droppedFrames] using flow.shared
  case ordered => simpa [SubscriptionEvent.takenFrames] using flow.ordered
  case counted => simpa [SubscriptionEvent.droppedFrames] using flow.counted
  case lossless => simpa [SubscriptionEvent.droppedFrames] using flow.lossless
  case discards =>
    intro lossy
    exact absurd (lossy.symm.trans lossless) (by simp)
  case undisturbed => simpa [SubscriptionEvent.discardedFrames] using flow.undisturbed
  case started => simp
  case unskipped => simp
  case blocked => exact fun _ => ⟨lossless, fun _ => ⟨offering, publishing, rfl⟩⟩
  case clear => simp

/-- There is room at last for the frame of a delivery that waited. -/
theorem Flow.woken (flow : Flow pipeline subscription history passed lost skipped)
    (blocked : subscription.delivery = some .blocked) (publishing : pipeline.publishing = some frame)
    {subscriber : FrameSubscriber} (moved : subscription.subscriber.put frame = some subscriber) :
    Flow pipeline { subscription with subscriber, delivery := some .succeeded } (history ++ [.silent])
      passed [] skipped := by
  obtain ⟨available, shapes⟩ := put_some moved
  obtain ⟨lossless, waits⟩ := flow.blocked blocked
  obtain ⟨waiting, current, held⟩ := waits available
  have same : waiting = frame := Option.some.inj (current.symm.trans publishing)
  subst same held
  rcases shapes with ⟨room, rfl⟩ | ⟨full, lossy, rfl⟩
  · have quiet : Flow pipeline subscription (history ++ [.silent]) passed [waiting] skipped :=
      flow.quiet rfl rfl rfl rfl rfl
    refine { quiet with offered := ?_, discards := ?_, started := ?_, unskipped := ?_, blocked := ?_, clear := ?_ }
    · rw [quiet.offered]
      simp
    · intro lossy
      exact absurd (lossy.symm.trans lossless) (by simp)
    · simp
    · intro _ _
      apply flow.unskipped _ available
      simp [blocked]
    · simp
    · simp
  · exact absurd (lossy.symm.trans lossless) (by simp)

/-- A delivery meets a queue that was shut down. -/
theorem Flow.refuse (flow : Flow pipeline subscription history passed lost skipped)
    (shut : subscription.subscriber.shutDown = true) :
    Flow pipeline { subscription with delivery := some .disabled } (history ++ [.silent]) passed lost skipped := by
  have quiet : Flow pipeline subscription (history ++ [.silent]) passed lost skipped :=
    flow.quiet rfl rfl rfl rfl rfl
  refine { quiet with started := ?_, unskipped := ?_, blocked := ?_, clear := ?_ }
  · simp
  · intro _ available
    exact absurd (shut.symm.trans available) (by simp)
  · simp
  · intro _ available
    exact absurd (shut.symm.trans available) (by simp)

/-- The queue is shut down, and what it held is lost. -/
theorem Flow.shut (flow : Flow pipeline subscription history passed lost skipped)
    (delivery : Option Delivery)
    (same : delivery = subscription.delivery ∨ delivery ≠ some .started ∧ delivery ≠ some .blocked)
    (assigned : event.assignedFrames = []) (offered : event.offeredFrames = [])
    (dropped : event.droppedFrames = []) (taken : event.takenFrames = [])
    (discarded : subscription.subscriber.lossy = true →
      event.discardedFrames.length = subscription.subscriber.queueDepth) :
    Flow pipeline { subscription with subscriber := subscription.subscriber.disable, delivery }
      (history ++ [event]) passed (subscription.subscriber.queue ++ lost) skipped := by
  constructor
  case positive => exact flow.positive
  case assigned => simpa [assigned, offered] using flow.assigned
  case offered => simp [offered, flow.offered, FrameSubscriber.disable]
  case shared => simpa [taken, dropped] using flow.shared
  case ordered => simpa [taken] using flow.ordered
  case counted => simpa [dropped, FrameSubscriber.disable] using flow.counted
  case lossless => simpa [dropped, FrameSubscriber.disable] using flow.lossless
  case discards =>
    intro lossy
    have before := flow.discards lossy
    have more := discarded lossy
    rw [discardedFrom_snoc, List.length_append, List.length_append, before, more,
      FrameSubscriber.queueDepth, Nat.add_comm]
  case undisturbed => simp [FrameSubscriber.disable]
  case started =>
    intro started
    rcases same with rfl | ⟨other, _⟩
    · exact flow.started started
    · exact absurd started other
  case unskipped => simp [FrameSubscriber.disable]
  case blocked =>
    intro blocked
    rcases same with rfl | ⟨_, other⟩
    · exact ⟨(flow.blocked blocked).1, by simp [FrameSubscriber.disable]⟩
    · exact absurd blocked other
  case clear => simp [FrameSubscriber.disable]

/-- The owner takes the oldest frame of the queue. -/
theorem Flow.take (flow : Flow pipeline subscription history passed lost skipped) {queue : List Frame}
    (held : subscription.subscriber.queue = frame :: queue) :
    Flow pipeline { subscription with subscriber := { subscription.subscriber with queue } }
      (history ++ [.took frame]) (passed ++ [frame]) lost skipped := by
  constructor
  case positive => exact flow.positive
  case assigned => simpa [SubscriptionEvent.assignedFrames, SubscriptionEvent.offeredFrames] using flow.assigned
  case offered => simp [SubscriptionEvent.offeredFrames, flow.offered, held]
  case shared =>
    have swapped : (takenFrom history ++ [frame] ++ droppedFrom history).Perm
        (takenFrom history ++ droppedFrom history ++ [frame]) := by
      rw [List.append_assoc, List.append_assoc]
      exact List.perm_append_comm.append_left _
    have more := swapped.trans (flow.shared.append_right [frame])
    simpa [SubscriptionEvent.takenFrames, SubscriptionEvent.droppedFrames] using more
  case ordered => simpa [SubscriptionEvent.takenFrames] using flow.ordered
  case counted => simpa [SubscriptionEvent.droppedFrames] using flow.counted
  case lossless => simpa [SubscriptionEvent.droppedFrames] using flow.lossless
  case discards => simpa [SubscriptionEvent.discardedFrames] using flow.discards
  case undisturbed => simpa [SubscriptionEvent.discardedFrames] using flow.undisturbed
  case started => exact flow.started
  case unskipped => exact flow.unskipped
  case blocked => exact flow.blocked
  case clear => exact flow.clear

/-- A fan-out begins, with this subscriber in its snapshot. -/
theorem Flow.begin (flow : Flow pipeline subscription history passed lost skipped)
    (running : pipeline.running = true) (idle : subscription.delivery = none)
    (available : subscription.subscriber.shutDown = false) (publishing : other.publishing = some frame) :
    Flow other { subscription with delivery := some .started } (history ++ [.assigned frame])
      passed lost [frame] := by
  have nothing : skipped = [] := flow.unskipped (by simp [idle]) available
  subst nothing
  constructor
  case positive => exact flow.positive
  case assigned =>
    have assigned := flow.assigned
    rw [List.append_nil] at assigned
    simp [SubscriptionEvent.assignedFrames, SubscriptionEvent.offeredFrames, assigned]
  case offered => simpa [SubscriptionEvent.offeredFrames] using flow.offered
  case shared => simpa [SubscriptionEvent.takenFrames, SubscriptionEvent.droppedFrames] using flow.shared
  case ordered => simpa [SubscriptionEvent.takenFrames] using flow.ordered
  case counted => simpa [SubscriptionEvent.droppedFrames] using flow.counted
  case lossless => simpa [SubscriptionEvent.droppedFrames] using flow.lossless
  case discards => simpa [SubscriptionEvent.discardedFrames] using flow.discards
  case undisturbed => simpa [SubscriptionEvent.discardedFrames] using flow.undisturbed
  case started => exact fun _ => ⟨frame, publishing, rfl⟩
  case unskipped => simp
  case blocked => simp
  case clear =>
    intro _ _ _ _
    apply flow.clear running available
    · simp [idle]
    · simp [idle]

/-- The stop cancels a delivery that waits. -/
theorem Flow.cancel (flow : Flow pipeline subscription history passed lost skipped) :
    Flow pipeline subscription.cancel history passed lost skipped := by
  unfold Subscription.cancel
  split
  · rename_i blocked
    refine { flow with started := ?_, unskipped := ?_, blocked := ?_, clear := ?_ }
    · simp
    · intro _ available
      apply flow.unskipped _ available
      simp [blocked]
    · simp
    · simp
  · exact flow

/-- The fan-out is over. -/
theorem Flow.reap (flow : Flow pipeline subscription history passed lost skipped) (detached : Bool)
    (done : subscription.delivery.all Delivery.done = true) (publishing : pipeline.publishing ≠ none)
    (active : pipeline.publishing.isSome = true → pipeline.running = true)
    (stopped : other.running = true → subscription.delivery ≠ some .cancelled) :
    Flow other (subscription.reap detached) history passed lost skipped := by
  have running := active (Option.isSome_iff_ne_none.mpr publishing)
  have unstarted : subscription.delivery ≠ some .started := by
    intro started
    simp [started, Delivery.done] at done
  have unblocked : subscription.delivery ≠ some .blocked := by
    intro blocked
    simp [blocked, Delivery.done] at done
  refine { flow with started := ?_, unskipped := ?_, blocked := ?_, clear := ?_ }
  · simp [Subscription.reap]
  · intro _ available
    exact flow.unskipped unstarted available
  · simp [Subscription.reap]
  · intro again available _ _
    exact flow.clear running available unblocked (stopped again)

end Flowing

end CanX.Capture
