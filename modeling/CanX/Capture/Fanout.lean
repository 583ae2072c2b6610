import CanX.Capture.Consumer

/-! The capture pipeline with all of its subscribers. One frame at a time is offered to every
subscriber of a snapshot, while owners read, detach and disable their queues. -/

namespace CanX.Capture

open Domain

structure SubscriberFailure where
  code : String
  subscriber : String
  message : String
  recoverable : Bool
  capacity : Nat
  queueDepth : Nat
  frameSequence : Nat
  deriving DecidableEq

/-- How one delivery of a fan-out stands. All but the first two have settled. -/
inductive Delivery where
  | started
  | blocked
  | succeeded
  | failed (failure : SubscriberFailure)
  | disabled
  | cancelled
  deriving DecidableEq

def Delivery.done : Delivery → Bool
  | started | blocked => false
  | _ => true

/-- A subscriber under its name. It stays listed once it is detached, for its owner still holds
it. `delivery` is its part in the fan-out under way. -/
structure Subscription where
  name : String
  publishTimeoutSeconds : Option Seconds
  attached : Bool
  subscriber : FrameSubscriber
  delivery : Option Delivery

/-- `attempt` is the first step of a delivery task, `wake` and `expire` end its wait for room;
`disable` and `get` are calls of the owner. -/
inductive SubscriptionLabel where
  | attempt
  | wake
  | expire
  | disable
  | get

/-- `assigned` and `reported` are the pipeline's: a fan-out begins with this subscriber in its
snapshot, and its failure goes to the handler. -/
inductive SubscriptionEvent where
  | silent
  | assigned (frame : Frame)
  | offered (frame : Frame) (dropped : Option Frame)
  | took (frame : Frame)
  | failed (failure : SubscriberFailure)
  | discarded (frames : List Frame)
  | reported (failure : SubscriberFailure)

/-- What one result of a fan-out is to the loop that goes through them. -/
inductive Verdict where
  | passed
  | reported (failure : SubscriberFailure)
  | unsettled
  | raised

namespace Subscription

variable (subscription : Subscription)

def create (name : String) (capacity : Nat) (lossy : Bool) (publishTimeoutSeconds : Option Seconds) :
    Subscription :=
  ⟨name, publishTimeoutSeconds, true, .create capacity lossy, none⟩

/-- `__post_init__`. -/
def acceptable (name : String) (capacity : Nat) (publishTimeoutSeconds : Option Seconds) : Bool :=
  name ≠ "" ∧ 0 < capacity ∧ publishTimeoutSeconds.all (fun seconds => 0 < seconds)

/-- The frame that makes room for another in a full lossy queue. -/
def overflow : Option Frame :=
  if subscription.subscriber.full = true ∧ subscription.subscriber.lossy = true then
    subscription.subscriber.queue.head?
  else none

/-- `represent` is `repr` of a string. -/
def failure (represent : String → String) (frame : Frame) : SubscriberFailure where
  code := "subscriber.backpressure"
  subscriber := subscription.name
  message := "Subscriber " ++ represent subscription.name ++ " exceeded its publication deadline"
  recoverable := false
  capacity := subscription.subscriber.capacity
  queueDepth := subscription.subscriber.queueDepth
  frameSequence := frame.sequence

/-- The tasks of `publish` and the owner's calls. -/
def step (represent : String → String) (publishing : Option Frame) :
    SubscriptionLabel → Option (Subscription × SubscriptionEvent)
  | .attempt =>
    match subscription.delivery, publishing with
    | some .started, some frame =>
      match subscription.subscriber.put frame with
      | some subscriber =>
        some ({ subscription with subscriber, delivery := some .succeeded },
          .offered frame subscription.overflow)
      | none =>
        if subscription.subscriber.shutDown = true then
          some ({ subscription with delivery := some .disabled }, .silent)
        else some ({ subscription with delivery := some .blocked }, .offered frame none)
    | _, _ => none
  | .wake =>
    match subscription.delivery, publishing with
    | some .blocked, some frame =>
      match subscription.subscriber.put frame with
      | some subscriber => some ({ subscription with subscriber, delivery := some .succeeded }, .silent)
      | none =>
        if subscription.subscriber.shutDown = true then
          some ({ subscription with delivery := some .disabled }, .silent)
        else none
    | _, _ => none
  | .expire =>
    match subscription.delivery, publishing with
    | some .blocked, some frame =>
      if subscription.publishTimeoutSeconds.isSome = true then
        let failure := subscription.failure represent frame
        some ({ subscription with
          subscriber := subscription.subscriber.disable
          delivery := some (.failed failure) }, .failed failure)
      else none
    | _, _ => none
  | .disable =>
    -- The owner of a subscriber detaches it first.
    if subscription.attached = false then
      some ({ subscription with subscriber := subscription.subscriber.disable },
        .discarded subscription.subscriber.queue)
    else none
  | .get =>
    match subscription.subscriber.queue with
    | [] => none
    | frame :: queue =>
      some ({ subscription with subscriber := { subscription.subscriber with queue } }, .took frame)

/-- The snapshot of a fan-out takes this subscriber in. -/
def begin : Subscription :=
  if subscription.attached then { subscription with delivery := some .started } else subscription

def cancel : Subscription :=
  if subscription.delivery = some .blocked then { subscription with delivery := some .cancelled }
  else subscription

def verdict (stopRequested : Bool) : Verdict :=
  match subscription.delivery with
  | some (.failed failure) => .reported failure
  | some .disabled => if subscription.attached then .raised else .passed
  | some .cancelled => if stopRequested then .unsettled else .raised
  | _ => .passed

/-- The fan-out is over, and a subscriber that failed in it is detached. -/
def reap (detached : Bool) : Subscription :=
  { subscription with attached := subscription.attached && !detached, delivery := none }

end Subscription

/-- What `_publish_frame` makes of the results, in the order of its snapshot. -/
structure Settlement where
  subscriptions : List Subscription
  reports : List (Nat × SubscriberFailure)
  settled : Bool
  raised : Bool

/-- A result that is raised ends the loop: what comes after it is neither detached nor reported. -/
def settleDeliveries (stopRequested : Bool) (index : Nat) : List Subscription → Settlement
  | [] => ⟨[], [], true, false⟩
  | subscription :: rest =>
    let later := settleDeliveries stopRequested (index + 1) rest
    let passed := subscription.reap false :: later.subscriptions
    match subscription.verdict stopRequested with
    | .passed => { later with subscriptions := passed }
    | .reported failure => { later with
        subscriptions := subscription.reap true :: later.subscriptions
        reports := (index, failure) :: later.reports }
    | .unsettled => { later with subscriptions := passed, settled := false }
    | .raised =>
      ⟨(subscription :: rest).map fun subscription => subscription.reap false, [], false, true⟩

structure FanoutPipeline where
  normalizer : TimestampNormalizer
  running : Bool
  stopRequested : Bool
  publishing : Option Frame
  subscriptions : List Subscription
  capturedFrames : Nat

inductive FanoutPipelineLabel where
  | subscribe (name : String) (capacity : Nat) (lossy : Bool) (publishTimeoutSeconds : Option Seconds)
  | unsubscribe (name : String)
  | receive (frame : Frame)
  | subscription (index : Nat) (label : SubscriptionLabel)
  | requestStop
  | cancel
  | settle
  | finish

/-- `snapshot` says of every listed subscriber whether the fan-out includes it. -/
inductive FanoutEvent where
  | silent
  | captured (frame : Frame) (snapshot : List Bool)
  | subscription (index : Nat) (event : SubscriptionEvent)
  | settled (reports : List (Nat × SubscriberFailure))

namespace FanoutPipeline

variable (pipeline : FanoutPipeline)

/-- A pipeline that was started, before its subscribers are known. -/
def create : FanoutPipeline := ⟨⟨none, 0⟩, true, false, none, [], 0⟩

def subscribed (name : String) : Bool :=
  pipeline.subscriptions.any fun subscription => subscription.attached && subscription.name == name

def unsubscribe (name : String) : FanoutPipeline :=
  let detach (subscription : Subscription) : Subscription :=
    { subscription with attached := subscription.attached && subscription.name != name }
  { pipeline with subscriptions := pipeline.subscriptions.map detach }

/-- The start of `_publish_frame`. A frame that nobody is there for has been published at once. -/
def publishFrame (frame : Frame) (normalizer : TimestampNormalizer) : FanoutPipeline :=
  if pipeline.subscriptions.any Subscription.attached then { pipeline with
    normalizer
    publishing := some frame
    subscriptions := pipeline.subscriptions.map Subscription.begin }
  else { pipeline with
    normalizer
    running := !pipeline.stopRequested
    capturedFrames := pipeline.capturedFrames + 1 }

/-- The end of `_publish_frame`, and the condition of the loop around it. -/
def settle (settlement : Settlement) : FanoutPipeline :=
  { pipeline with
    running := !pipeline.stopRequested && !settlement.raised
    publishing := none
    subscriptions := settlement.subscriptions
    capturedFrames := pipeline.capturedFrames + if settlement.settled then 1 else 0 }

def step (represent : String → String) :
    FanoutPipelineLabel → Option (FanoutPipeline × FanoutEvent)
  | .subscribe name capacity lossy publishTimeoutSeconds =>
    if pipeline.subscribed name = false ∧
        Subscription.acceptable name capacity publishTimeoutSeconds = true then
      let subscription := Subscription.create name capacity lossy publishTimeoutSeconds
      some ({ pipeline with subscriptions := pipeline.subscriptions ++ [subscription] }, .silent)
    else none
  | .unsubscribe name => some (pipeline.unsubscribe name, .silent)
  | .receive frame =>
    -- A frame that arrives together with the stop request still belongs to the capture.
    if pipeline.running = true ∧ pipeline.publishing = none then
      match pipeline.normalizer.normalize frame with
      | none => some ({ pipeline with running := false }, .silent)
      | some (normalized, normalizer) =>
        some (pipeline.publishFrame normalized normalizer,
          .captured normalized (pipeline.subscriptions.map Subscription.attached))
    else none
  | .subscription index label =>
    match pipeline.subscriptions[index]? with
    | none => none
    | some subscription =>
      (subscription.step represent pipeline.publishing label).map fun (after, event) =>
        ({ pipeline with subscriptions := pipeline.subscriptions.set index after },
          .subscription index event)
  | .requestStop => some ({ pipeline with stopRequested := true }, .silent)
  | .cancel =>
    -- Every subscriber has had its first attempt before the stop is looked at.
    if pipeline.publishing.isSome = true ∧ pipeline.stopRequested = true ∧
        pipeline.subscriptions.all (fun subscription => subscription.delivery ≠ some .started) = true then
      some ({ pipeline with subscriptions := pipeline.subscriptions.map Subscription.cancel }, .silent)
    else none
  | .settle =>
    if pipeline.publishing.isSome = true ∧
        pipeline.subscriptions.all (fun subscription => subscription.delivery.all Delivery.done) = true then
      let settlement := settleDeliveries pipeline.stopRequested 0 pipeline.subscriptions
      some (pipeline.settle settlement, .settled settlement.reports)
    else none
  | .finish =>
    if pipeline.publishing = none then some ({ pipeline with running := false }, .silent) else none

end FanoutPipeline

/-- The pipeline and the consumer of the subscriber listed at `source`. -/
structure FanoutRun where
  pipeline : FanoutPipeline
  source : Nat
  consumer : Consumer
  stopEvent : Bool

inductive FanoutLabel where
  | pipeline (label : FanoutPipelineLabel)
  | consume (label : CaptureLabel)

namespace FanoutRun

variable (run : FanoutRun)

def create (source : Nat) (streamId : String) (batchSize : Nat) (sink : Sink) : FanoutRun :=
  ⟨.create, source, .create streamId batchSize sink, false⟩

/-- What the consumer's loop sees of the run. -/
def capture (subscription : Subscription) : CaptureRun where
  pipeline :=
    { normalizer := run.pipeline.normalizer
      running := run.pipeline.running
      stopRequested := run.pipeline.stopRequested
      attached := subscription.attached
      offered := none
      subscriber := subscription.subscriber }
  consumer := run.consumer
  stopEvent := run.stopEvent

/-- The run after a step of the consumer's loop. -/
def resume (subscription : Subscription) (capture : CaptureRun) : FanoutRun :=
  let consumed := { subscription with subscriber := capture.pipeline.subscriber }
  { run with
    pipeline := { run.pipeline with
      subscriptions := run.pipeline.subscriptions.set run.source consumed }
    consumer := capture.consumer
    stopEvent := capture.stopEvent }

def seen : CaptureEvent → SubscriptionEvent
  | .took frame => .took frame
  | _ => .silent

/-- The frames of the consumer's own subscriber are taken by nobody else. -/
def permits : FanoutPipelineLabel → Bool
  | .subscription index .get => index ≠ run.source
  | _ => true

end FanoutRun

/-- `consume` is the loop of one consumer, whose own pipeline label has no meaning here. -/
def fanoutStep (represent : String → String) (run : FanoutRun) :
    FanoutLabel → Option (FanoutRun × FanoutEvent)
  | .pipeline label =>
    if run.permits label = true then
      (run.pipeline.step represent label).map fun (pipeline, event) => ({ run with pipeline }, event)
    else none
  | .consume (.pipeline _) => none
  | .consume label =>
    match run.pipeline.subscriptions[run.source]? with
    | none => none
    | some subscription =>
      (captureStep (run.capture subscription) label).map fun (capture, event) =>
        (run.resume subscription capture, .subscription run.source (FanoutRun.seen event))

end CanX.Capture
