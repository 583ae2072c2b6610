import CanX.Storage.Backlog
import CanX.Transition.Path
import CanX.Transport.WireFormat
import Mathlib.Algebra.BigOperators.Group.List.Basic
import Mathlib.Algebra.Order.BigOperators.Group.List

/-! The live frame stream: a broker that fans batches out to the clients of `/stream/frames`, each behind a bounded
queue of its own that gives up its oldest batch under pressure, so that no client holds up the capture. -/

namespace CanX.Transport

open Dbc Desktop Domain DecodeFrameBatch Storage Transition

section Clients

/-- Where the handler of a connection is. While it waits, one task asks the queue and one the socket. -/
inductive StreamPhase where
  | entering
  | waiting
  | taken (batch : FrameBatch)
  | sending (batch : FrameBatch)
  | leaving
  | closed
  deriving DecidableEq

structure StreamClient where
  phase : StreamPhase
  queue : List FrameBatch

/-- The queue is one of the broker's. -/
def StreamClient.registered (client : StreamClient) : Bool :=
  match client.phase with
  | .entering | .closed => false
  | _ => true

/-- What happens to a batch on the way to one client. -/
inductive StreamEvent where
  | offered (batch : FrameBatch)
  | dropped (batch : FrameBatch)
  | took (batch : FrameBatch)
  | sent (batch : FrameBatch) (bytes : Bytes)

end Clients

section Broker

/-- The broker, with the connections that hold its queues. -/
structure BatchBroker where
  clientCapacity : Nat
  capacity_positive : 0 < clientCapacity
  clients : List StreamClient
  droppedFrames : Nat

/-- The broker of a runtime and the counters that follow it. -/
structure FrameStream where
  broker : BatchBroker
  streamedFrames : Nat
  droppedStreamFrames : Nat

inductive StreamLabel where
  | accept
  | subscribe (client : Nat)
  | publish (batch : FrameBatch)
  | take (client : Nat)
  | receive (client : Nat)
  | resume (client : Nat)
  | send (client : Nat)
  | fail (client : Nat)
  | leave (client : Nat)

/-- What a step does to the batches of each client. -/
abbrev StreamEvents := Nat → List StreamEvent

def droppedCount : StreamEvent → Nat
  | .dropped batch => batch.frameCount
  | _ => 0

def sentCount : StreamEvent → Nat
  | .sent batch _ => batch.frameCount
  | _ => 0

namespace BatchBroker

/-- `BatchBroker.__init__`. -/
def create (clientCapacity : Int) : Except String BatchBroker :=
  if positive : 0 < clientCapacity then .ok ⟨clientCapacity.toNat, Int.lt_toNat.mpr positive, [], 0⟩
  else .error "client_capacity must be positive"

variable (broker : BatchBroker)

/-- What `publish` does with one queue. -/
def publishTo (batch : FrameBatch) (client : StreamClient) : StreamClient × List StreamEvent :=
  if client.registered then
    let (queue, dropped) := offer broker.clientCapacity client.queue batch
    ({ client with queue }, dropped.toList.map .dropped ++ [.offered batch])
  else (client, [])

def publish (batch : FrameBatch) : BatchBroker × StreamEvents :=
  let published := broker.clients.map (broker.publishTo batch)
  ({ broker with
      clients := published.map Prod.fst
      droppedFrames := broker.droppedFrames + (published.map fun entry => (entry.2.map droppedCount).sum).sum },
    fun position => (published[position]?).elim [] Prod.snd)

/-- The handler of a connection goes on, if it is in one of the places where it can. -/
def advance (position : Nat) (next : StreamClient → Option (StreamClient × List StreamEvent)) :
    Option (BatchBroker × StreamEvents) := do
  let client ← broker.clients[position]?
  let (client, events) ← next client
  return ({ broker with clients := broker.clients.set position client },
    fun other => if other = position then events else [])

end BatchBroker

namespace StreamClient

variable (client : StreamClient)

def subscribe : Option (StreamClient × List StreamEvent) :=
  match client.phase with
  | .entering => some ({ client with phase := .waiting }, [])
  | _ => none

/-- `queue.get()` of the handler. -/
def take : Option (StreamClient × List StreamEvent) :=
  match client.phase, client.queue with
  | .waiting, batch :: rest => some (⟨.taken batch, rest⟩, [.took batch])
  | _, _ => none

/-- The socket has a message or has disconnected: the connection ends, with whatever was taken. -/
def receive : Option (StreamClient × List StreamEvent) :=
  match client.phase with
  | .waiting | .taken _ => some ({ client with phase := .leaving }, [])
  | _ => none

def resume : Option (StreamClient × List StreamEvent) :=
  match client.phase with
  | .taken batch => some ({ client with phase := .sending batch }, [])
  | _ => none

def send (msgpack : Msgpack) : Option (StreamClient × List StreamEvent) :=
  match client.phase with
  | .sending batch => (encodeBatch msgpack (.ofBatch batch)).map fun bytes =>
    ({ client with phase := .waiting }, [.sent batch bytes])
  | _ => none

/-- A batch cannot be packed, or the socket does not take it. -/
def fail : Option (StreamClient × List StreamEvent) :=
  match client.phase with
  | .sending _ => some ({ client with phase := .leaving }, [])
  | _ => none

def leave : Option (StreamClient × List StreamEvent) :=
  match client.phase with
  | .leaving => some ({ client with phase := .closed }, [])
  | _ => none

end StreamClient

namespace FrameStream

def opened (broker : BatchBroker) : FrameStream := ⟨broker, 0, 0⟩

variable (stream : FrameStream)

/-- `RuntimeService._publish_stream`. -/
def publishStream (batch : FrameBatch) : FrameStream × StreamEvents :=
  let droppedBefore := stream.broker.droppedFrames
  let (broker, events) := stream.broker.publish batch
  ({ stream with broker, droppedStreamFrames := stream.droppedStreamFrames + (broker.droppedFrames - droppedBefore) },
    events)

/-- A handler goes on; what it has sent is counted. -/
def handle (position : Nat) (next : StreamClient → Option (StreamClient × List StreamEvent)) :
    Option (FrameStream × StreamEvents) :=
  (stream.broker.advance position next).map fun (broker, events) =>
    ({ stream with broker, streamedFrames := stream.streamedFrames + ((events position).map sentCount).sum }, events)

def step (msgpack : Msgpack) : StreamLabel → Option (FrameStream × StreamEvents)
  | .accept => some ({ stream with
      broker := { stream.broker with clients := stream.broker.clients ++ [⟨.entering, []⟩] } }, fun _ => [])
  | .publish batch => some (stream.publishStream batch)
  | .subscribe position => stream.handle position StreamClient.subscribe
  | .take position => stream.handle position StreamClient.take
  | .receive position => stream.handle position StreamClient.receive
  | .resume position => stream.handle position StreamClient.resume
  | .send position => stream.handle position fun client => client.send msgpack
  | .fail position => stream.handle position StreamClient.fail
  | .leave position => stream.handle position StreamClient.leave

end FrameStream

end Broker

section Fates

def StreamEvent.offer? : StreamEvent → Option FrameBatch
  | offered batch => some batch
  | _ => none

def StreamEvent.left? : StreamEvent → Option (FrameBatch × Bool)
  | dropped batch => some (batch, false)
  | took batch => some (batch, true)
  | _ => none

def StreamEvent.message? : StreamEvent → Option (FrameBatch × Bytes)
  | sent batch bytes => some (batch, bytes)
  | _ => none

/-- What of the batches taken a handler in some place has not sent. -/
def StreamPhase.Unsent : StreamPhase → List FrameBatch → Prop
  | entering, unsent | waiting, unsent => unsent = []
  | taken batch, unsent | sending batch, unsent => unsent = [batch]
  | leaving, unsent | closed, unsent => unsent.length ≤ 1

/-- One client's stream: in the order of publication, each batch is taken, or given up once `capacity` later ones are
there, or still queued; each one taken is sent as its packed form, but for the last. -/
structure Streamed (capacity : Nat) (msgpack : Msgpack) (events : List StreamEvent) (client : StreamClient) : Prop where
  queued : Backlog capacity (events.filterMap StreamEvent.offer?) (events.filterMap StreamEvent.left?) client.queue
  sent : ∃ unsent, ((events.filterMap StreamEvent.left?).filter Prod.snd).map Prod.fst =
    (events.filterMap StreamEvent.message?).map Prod.fst ++ unsent ∧ client.phase.Unsent unsent
  packed : ∀ message ∈ events.filterMap StreamEvent.message?, encodeBatch msgpack (.ofBatch message.1) = some message.2

variable {capacity position : Nat} {msgpack : Msgpack} {events : List StreamEvent} {client next : StreamClient}
variable {happened : List StreamEvent}

theorem Streamed.opening : Streamed capacity msgpack [] ⟨.entering, []⟩ :=
  ⟨.empty, ⟨[], rfl, rfl⟩, by simp⟩

/-- A handler that neither takes nor sends. -/
theorem Streamed.move (streamed : Streamed capacity msgpack events client) (phase : StreamPhase)
    (unsent : ∀ unsent, client.phase.Unsent unsent → phase.Unsent unsent) :
    Streamed capacity msgpack (events ++ []) { client with phase } := by
  rw [List.append_nil]
  obtain ⟨rest, same, held⟩ := streamed.sent
  exact ⟨streamed.queued, ⟨rest, same, unsent rest held⟩, streamed.packed⟩

theorem Streamed.take (streamed : Streamed capacity msgpack events client) (took : client.take = some (next, happened)) :
    Streamed capacity msgpack (events ++ happened) next := by
  obtain ⟨phase, queue⟩ := client
  cases phase <;> cases queue <;> simp only [StreamClient.take, Option.some.injEq, Prod.mk.injEq, reduceCtorEq] at took
  rename_i batch rest
  obtain ⟨rfl, rfl⟩ := took
  obtain ⟨unsent, same, none_⟩ := streamed.sent
  obtain rfl : unsent = [] := none_
  have queued := streamed.queued.take
  refine ⟨?_, ⟨[batch], ?_, rfl⟩, ?_⟩
  · simpa [List.filterMap_cons, StreamEvent.offer?, StreamEvent.left?] using queued
  · simpa [List.filterMap_cons, StreamEvent.left?, StreamEvent.message?] using same
  · simpa [List.filterMap_cons, StreamEvent.message?] using streamed.packed

theorem Streamed.send (streamed : Streamed capacity msgpack events client)
    (sent : client.send msgpack = some (next, happened)) : Streamed capacity msgpack (events ++ happened) next := by
  rw [StreamClient.send] at sent
  split at sent
  · rename_i batch phase
    obtain ⟨bytes, packed, same⟩ := Option.map_eq_some_iff.mp sent
    obtain ⟨rfl, rfl⟩ := Prod.mk.inj same
    obtain ⟨unsent, taken, held⟩ := streamed.sent
    rw [phase] at held
    obtain rfl : unsent = [batch] := held
    refine ⟨?_, ⟨[], ?_, rfl⟩, fun message member => ?_⟩
    · simpa [List.filterMap_cons, StreamEvent.offer?, StreamEvent.left?] using streamed.queued
    · simpa [List.filterMap_cons, StreamEvent.left?, StreamEvent.message?] using taken
    · rw [List.filterMap_append, List.mem_append] at member
      rcases member with earlier | now
      · exact streamed.packed message earlier
      · obtain rfl : message = (batch, bytes) := by simpa [List.filterMap_cons, StreamEvent.message?] using now
        exact packed
  · cases sent

theorem Streamed.publish {broker : BatchBroker} (streamed : Streamed broker.clientCapacity msgpack events client)
    (batch : FrameBatch) :
    Streamed broker.clientCapacity msgpack (events ++ (broker.publishTo batch client).2)
      (broker.publishTo batch client).1 := by
  rw [BatchBroker.publishTo]
  split
  · have queued := streamed.queued.offer broker.capacity_positive batch
    dsimp only
    generalize offer broker.clientCapacity client.queue batch = offered at queued
    obtain ⟨queue, dropped⟩ := offered
    obtain ⟨unsent, same, held⟩ := streamed.sent
    cases dropped with
    | none =>
      refine ⟨?_, ⟨unsent, ?_, held⟩, ?_⟩
      · simpa [List.filterMap_cons, StreamEvent.offer?, StreamEvent.left?, givenUp] using queued
      · simpa [List.filterMap_cons, StreamEvent.left?, StreamEvent.message?] using same
      · simpa [List.filterMap_cons, StreamEvent.message?] using streamed.packed
    | some oldest =>
      refine ⟨?_, ⟨unsent, ?_, held⟩, ?_⟩
      · simpa [List.filterMap_cons, StreamEvent.offer?, StreamEvent.left?, givenUp] using queued
      · simpa [List.filterMap_cons, StreamEvent.left?, StreamEvent.message?] using same
      · simpa [List.filterMap_cons, StreamEvent.message?] using streamed.packed
  · rw [List.append_nil]
    exact streamed

end Fates

section Runs

variable {msgpack : Msgpack} {stream next : FrameStream} {trace : List (StreamLabel × StreamEvents)}
variable {label : StreamLabel} {events : StreamEvents} {position capacity : Nat}

/-- What has happened on the way to one client. -/
def eventsOf (position : Nat) (trace : List (StreamLabel × StreamEvents)) : List StreamEvent :=
  trace.flatMap fun entry => entry.2 position

/-- Over the first clients, the frames of some events. -/
def totalOf (count : StreamEvent → Nat) (clients : Nat) (events : StreamEvents) : Nat :=
  ((List.range clients).map fun position => ((events position).map count).sum).sum

/-- Every client's stream is in order; the counters are those of what was given up and what was sent. -/
structure Flows (capacity : Nat) (msgpack : Msgpack) (trace : List (StreamLabel × StreamEvents))
    (stream : FrameStream) : Prop where
  configured : stream.broker.clientCapacity = capacity
  clients : ∀ position client, stream.broker.clients[position]? = some client →
    Streamed capacity msgpack (eventsOf position trace) client
  silent : ∀ position, stream.broker.clients.length ≤ position → eventsOf position trace = []
  dropped : stream.broker.droppedFrames =
    totalOf droppedCount stream.broker.clients.length fun position => eventsOf position trace
  counted : stream.droppedStreamFrames = stream.broker.droppedFrames
  streamed : stream.streamedFrames =
    totalOf sentCount stream.broker.clients.length fun position => eventsOf position trace

theorem eventsOf_snoc : eventsOf position (trace ++ [(label, events)]) = eventsOf position trace ++ events position := by
  rw [eventsOf, eventsOf, List.flatMap_append, List.flatMap_singleton]

theorem totalOf_snoc {count : StreamEvent → Nat} {clients : Nat} :
    totalOf count clients (fun position => eventsOf position (trace ++ [(label, events)])) =
      totalOf count clients (fun position => eventsOf position trace) + totalOf count clients events := by
  rw [totalOf, totalOf, totalOf, ← List.sum_map_add]
  refine congrArg List.sum (List.map_congr_left fun position _ => ?_)
  rw [eventsOf_snoc, List.map_append, List.sum_append]

theorem totalOf_none {count : StreamEvent → Nat} {clients : Nat}
    (none_ : ∀ position < clients, ((events position).map count).sum = 0) : totalOf count clients events = 0 := by
  rw [totalOf, List.sum_eq_zero_iff]
  intro total member
  obtain ⟨position, inside, rfl⟩ := List.mem_map.mp member
  exact none_ position (List.mem_range.mp inside)

/-- Only one client sees anything. -/
theorem totalOf_single {count : StreamEvent → Nat} {clients : Nat} {happened : List StreamEvent}
    (inside : position < clients) :
    totalOf count clients (fun other => if other = position then happened else []) = (happened.map count).sum := by
  rw [totalOf]
  induction clients with
  | zero => exact absurd inside (Nat.not_lt_zero _)
  | succ clients ih =>
    rw [List.range_succ, List.map_append, List.sum_append]
    rcases Nat.lt_succ_iff_lt_or_eq.mp inside with before | rfl
    · rw [ih before]
      simp [Nat.ne_of_gt before]
    · have rest : ((List.range position).map fun other =>
          (((if other = position then happened else []) : List StreamEvent).map count).sum).sum = 0 := by
        refine totalOf_none fun other before => ?_
        rw [if_neg (Nat.ne_of_lt before)]
        rfl
      rw [rest]
      simp

/-- A handler's step is one of its client's stream. -/
def Steps (msgpack : Msgpack) (capacity : Nat)
    (advance : StreamClient → Option (StreamClient × List StreamEvent)) : Prop :=
  ∀ events client next happened, Streamed capacity msgpack events client → advance client = some (next, happened) →
    Streamed capacity msgpack (events ++ happened) next ∧ (happened.map droppedCount).sum = 0 ∧
      happened.filterMap StreamEvent.offer? = []

/-- What a step of a handler does. -/
theorem handle_some {advance : StreamClient → Option (StreamClient × List StreamEvent)}
    (moved : stream.handle position advance = some (next, events)) : ∃ client after happened,
      stream.broker.clients[position]? = some client ∧ advance client = some (after, happened) ∧
      events = (fun other => if other = position then happened else []) ∧
      next = { stream with
        broker := { stream.broker with clients := stream.broker.clients.set position after }
        streamedFrames := stream.streamedFrames + (happened.map sentCount).sum } := by
  simp only [FrameStream.handle, BatchBroker.advance, Option.bind_eq_bind, Option.map_eq_some_iff,
    Option.bind_eq_some_iff] at moved
  obtain ⟨⟨broker, seen⟩, ⟨client, found, ⟨after, happened⟩, stepped, returned⟩, same⟩ := moved
  obtain ⟨rfl, rfl⟩ := Prod.mk.inj (Option.some.inj returned)
  obtain ⟨rfl, rfl⟩ := Prod.mk.inj same
  refine ⟨client, after, happened, found, stepped, rfl, ?_⟩
  simp only [if_true]

theorem handle_flows {advance : StreamClient → Option (StreamClient × List StreamEvent)}
    (flows : Flows capacity msgpack trace stream) (steps : Steps msgpack capacity advance)
    (moved : stream.handle position advance = some (next, events)) :
    Flows capacity msgpack (trace ++ [(label, events)]) next := by
  obtain ⟨client, after, happened, found, stepped, rfl, rfl⟩ := handle_some moved
  obtain ⟨inside, -⟩ := List.getElem?_eq_some_iff.mp found
  obtain ⟨reached, kept, -⟩ := steps _ _ _ _ (flows.clients position client found) stepped
  refine ⟨flows.configured, fun other held listed => ?_, fun other outside => ?_, ?_, flows.counted, ?_⟩
  · rw [eventsOf_snoc]
    dsimp only at listed ⊢
    by_cases same : other = position
    · subst same
      rw [if_pos rfl]
      rw [List.getElem?_set_self inside] at listed
      obtain rfl := Option.some.inj listed
      exact reached
    · rw [if_neg same, List.append_nil]
      rw [List.getElem?_set_ne (Ne.symm same)] at listed
      exact flows.clients other held listed
  · dsimp only at outside
    rw [List.length_set] at outside
    rw [eventsOf_snoc, flows.silent other outside, List.nil_append]
    exact if_neg (Nat.ne_of_gt (Nat.lt_of_lt_of_le inside outside))
  · dsimp only
    rw [List.length_set, totalOf_snoc, totalOf_single inside, kept]
    exact flows.dropped
  · dsimp only
    rw [List.length_set, totalOf_snoc, totalOf_single inside, flows.streamed]

theorem accept_flows (flows : Flows capacity msgpack trace stream) :
    Flows capacity msgpack (trace ++ [(label, fun _ => [])])
      { stream with broker := { stream.broker with clients := stream.broker.clients ++ [⟨.entering, []⟩] } } := by
  have unseen : eventsOf stream.broker.clients.length trace = [] := flows.silent _ (Nat.le_refl _)
  have totals (count : StreamEvent → Nat) :
      totalOf count (stream.broker.clients.length + 1)
          (fun position => eventsOf position (trace ++ [(label, fun _ => [])])) =
        totalOf count stream.broker.clients.length fun position => eventsOf position trace := by
    have none_ : totalOf count (stream.broker.clients.length + 1) (fun _ => []) = 0 := totalOf_none fun _ _ => rfl
    rw [totalOf_snoc, none_, totalOf, List.range_succ, List.map_append, List.sum_append, List.map_singleton, unseen]
    rfl
  refine ⟨flows.configured, fun position client listed => ?_, fun position outside => ?_, ?_, flows.counted, ?_⟩
  · rw [eventsOf_snoc, List.append_nil]
    dsimp only at listed
    rcases Nat.lt_or_ge position stream.broker.clients.length with before | after
    · rw [List.getElem?_append_left before] at listed
      exact flows.clients position client listed
    · rw [List.getElem?_append_right after, List.getElem?_singleton] at listed
      split at listed
      · obtain rfl := Option.some.inj listed
        rw [flows.silent position after]
        exact .opening
      · cases listed
  · dsimp only at outside
    rw [List.length_append] at outside
    rw [eventsOf_snoc, List.append_nil]
    exact flows.silent position (Nat.le_of_succ_le outside)
  · dsimp only
    rw [List.length_append, List.length_singleton, totals]
    exact flows.dropped
  · dsimp only
    rw [List.length_append, List.length_singleton, totals]
    exact flows.streamed

theorem publishStream_events (batch : FrameBatch) (position : Nat) : (stream.publishStream batch).2 position =
    (stream.broker.clients[position]?).elim [] fun client => (stream.broker.publishTo batch client).2 := by
  simp only [FrameStream.publishStream, BatchBroker.publish, List.getElem?_map]
  cases stream.broker.clients[position]? <;> rfl

theorem publishStream_clients (batch : FrameBatch) : (stream.publishStream batch).1.broker.clients =
    stream.broker.clients.map fun client => (stream.broker.publishTo batch client).1 := by
  simp only [FrameStream.publishStream, BatchBroker.publish, List.map_map]
  rfl

theorem publish_flows (flows : Flows capacity msgpack trace stream) (batch : FrameBatch) :
    Flows capacity msgpack (trace ++ [(label, (stream.publishStream batch).2)]) (stream.publishStream batch).1 := by
  have seen := @publishStream_events stream batch
  have clients := @publishStream_clients stream batch
  have totals (count : StreamEvent → Nat) : totalOf count stream.broker.clients.length (stream.publishStream batch).2 =
      (stream.broker.clients.map fun client => ((stream.broker.publishTo batch client).2.map count).sum).sum := by
    rw [totalOf]
    refine congrArg List.sum (List.ext_getElem (by simp) fun position inside _ => ?_)
    have listed : position < stream.broker.clients.length := by simpa using inside
    simp [seen, listed]
  have dropped : (stream.publishStream batch).1.broker.droppedFrames = stream.broker.droppedFrames +
      totalOf droppedCount stream.broker.clients.length (stream.publishStream batch).2 := by
    rw [totals]
    simp only [FrameStream.publishStream, BatchBroker.publish, List.map_map]
    rfl
  have quiet (client : StreamClient) : ((stream.broker.publishTo batch client).2.map sentCount).sum = 0 := by
    rw [BatchBroker.publishTo]
    split
    · generalize offer stream.broker.clientCapacity client.queue batch = offered
      obtain ⟨queue, dropped⟩ := offered
      cases dropped <;> rfl
    · rfl
  refine ⟨flows.configured, fun position client listed => ?_, fun position outside => ?_, ?_, ?_, ?_⟩
  · rw [clients, List.getElem?_map] at listed
    obtain ⟨before, held, rfl⟩ := Option.map_eq_some_iff.mp listed
    rw [eventsOf_snoc, seen, held]
    have streamed := flows.clients position before held
    rw [← flows.configured] at streamed ⊢
    exact streamed.publish batch
  · rw [clients, List.length_map] at outside
    rw [eventsOf_snoc, flows.silent position outside, seen, List.getElem?_eq_none outside]
    rfl
  · rw [clients, List.length_map, totalOf_snoc, dropped, flows.dropped]
  · have counted : (stream.publishStream batch).1.droppedStreamFrames = stream.droppedStreamFrames +
        ((stream.publishStream batch).1.broker.droppedFrames - stream.broker.droppedFrames) := rfl
    rw [counted, dropped, flows.counted]
    omega
  · have none_ : totalOf sentCount stream.broker.clients.length (stream.publishStream batch).2 = 0 := by
      rw [totals, List.sum_eq_zero_iff]
      intro total member
      obtain ⟨client, _, rfl⟩ := List.mem_map.mp member
      exact quiet client
    rw [clients, List.length_map, totalOf_snoc, none_]
    exact flows.streamed

/-- A step that only moves the handler on. -/
theorem move_steps {advance : StreamClient → Option (StreamClient × List StreamEvent)}
    (moves : ∀ client next happened, advance client = some (next, happened) → happened = [] ∧
      ∃ phase, next = { client with phase } ∧ ∀ unsent, client.phase.Unsent unsent → phase.Unsent unsent) :
    Steps msgpack capacity advance := by
  intro events client next happened streamed moved
  obtain ⟨rfl, phase, rfl, unsent⟩ := moves client next happened moved
  exact ⟨streamed.move phase unsent, rfl, rfl⟩

theorem subscribe_steps : Steps msgpack capacity StreamClient.subscribe := by
  refine move_steps fun client next happened moved => ?_
  rw [StreamClient.subscribe] at moved
  split at moved
  · rename_i phase
    obtain ⟨rfl, rfl⟩ := Prod.mk.inj (Option.some.inj moved)
    exact ⟨rfl, .waiting, rfl, fun unsent held => by rwa [phase] at held⟩
  · cases moved

theorem receive_steps : Steps msgpack capacity StreamClient.receive := by
  refine move_steps fun client next happened moved => ?_
  rw [StreamClient.receive] at moved
  split at moved
  · rename_i phase
    obtain ⟨rfl, rfl⟩ := Prod.mk.inj (Option.some.inj moved)
    refine ⟨rfl, .leaving, rfl, fun unsent held => ?_⟩
    rw [phase] at held
    obtain rfl : unsent = [] := held
    exact Nat.zero_le 1
  · rename_i batch phase
    obtain ⟨rfl, rfl⟩ := Prod.mk.inj (Option.some.inj moved)
    refine ⟨rfl, .leaving, rfl, fun unsent held => ?_⟩
    rw [phase] at held
    obtain rfl : unsent = [batch] := held
    exact Nat.le_refl 1
  · cases moved

theorem resume_steps : Steps msgpack capacity StreamClient.resume := by
  refine move_steps fun client next happened moved => ?_
  rw [StreamClient.resume] at moved
  split at moved
  · rename_i batch phase
    obtain ⟨rfl, rfl⟩ := Prod.mk.inj (Option.some.inj moved)
    exact ⟨rfl, .sending batch, rfl, fun unsent held => by rwa [phase] at held⟩
  · cases moved

theorem fail_steps : Steps msgpack capacity StreamClient.fail := by
  refine move_steps fun client next happened moved => ?_
  rw [StreamClient.fail] at moved
  split at moved
  · rename_i batch phase
    obtain ⟨rfl, rfl⟩ := Prod.mk.inj (Option.some.inj moved)
    refine ⟨rfl, .leaving, rfl, fun unsent held => ?_⟩
    rw [phase] at held
    obtain rfl : unsent = [batch] := held
    exact Nat.le_refl 1
  · cases moved

theorem leave_steps : Steps msgpack capacity StreamClient.leave := by
  refine move_steps fun client next happened moved => ?_
  rw [StreamClient.leave] at moved
  split at moved
  · rename_i phase
    obtain ⟨rfl, rfl⟩ := Prod.mk.inj (Option.some.inj moved)
    exact ⟨rfl, .closed, rfl, fun unsent held => by rwa [phase] at held⟩
  · cases moved

theorem take_steps : Steps msgpack capacity StreamClient.take := by
  intro events client next happened streamed moved
  refine ⟨streamed.take moved, ?_⟩
  obtain ⟨phase, queue⟩ := client
  cases phase <;> cases queue <;> simp only [StreamClient.take, Option.some.injEq, Prod.mk.injEq, reduceCtorEq] at moved
  obtain ⟨-, rfl⟩ := moved
  exact ⟨rfl, rfl⟩

theorem send_steps : Steps msgpack capacity fun client => client.send msgpack := by
  intro events client next happened streamed moved
  refine ⟨streamed.send moved, ?_⟩
  simp only [StreamClient.send] at moved
  split at moved
  · obtain ⟨bytes, -, same⟩ := Option.map_eq_some_iff.mp moved
    obtain ⟨-, rfl⟩ := Prod.mk.inj same
    exact ⟨rfl, rfl⟩
  · cases moved

theorem Flows.step (flows : Flows capacity msgpack trace stream)
    (moved : stream.step msgpack label = some (next, events)) :
    Flows capacity msgpack (trace ++ [(label, events)]) next := by
  cases label with
  | accept =>
    obtain ⟨rfl, rfl⟩ := Prod.mk.inj (Option.some.inj moved)
    exact accept_flows flows
  | publish batch =>
    obtain ⟨rfl, rfl⟩ := Prod.mk.inj (Option.some.inj moved)
    exact publish_flows flows batch
  | subscribe position => exact handle_flows flows subscribe_steps moved
  | take position => exact handle_flows flows take_steps moved
  | receive position => exact handle_flows flows receive_steps moved
  | resume position => exact handle_flows flows resume_steps moved
  | send position => exact handle_flows flows send_steps moved
  | fail position => exact handle_flows flows fail_steps moved
  | leave position => exact handle_flows flows leave_steps moved

/-- Each length of a batch fits 32 bits, and the packages carry its payload. -/
structure Streamable (msgpack : Msgpack) (batch : FrameBatch) : Prop where
  named : utf8Length (text batch.streamId) ≤ maxLength
  counted : batch.frameCount ≤ maxLength
  names : ∀ frame ∈ batch.frames,
    utf8Length (text frame.channelId) ≤ maxLength ∧ utf8Length (text frame.clockDomain) ≤ maxLength
  carried : msgpack.Carries (batchPayload (.ofBatch batch))

def FrameStream.Allowed (msgpack : Msgpack) (_ : FrameStream) : StreamLabel → Prop
  | .publish batch => Streamable msgpack batch
  | _ => True

private theorem publishTo_offers {broker : BatchBroker} {batch offered : FrameBatch} {client : StreamClient}
    (member : offered ∈ (broker.publishTo batch client).2.filterMap StreamEvent.offer?) : offered = batch := by
  rw [BatchBroker.publishTo] at member
  split at member
  · generalize offer broker.clientCapacity client.queue batch = given at member
    obtain ⟨queue, dropped⟩ := given
    cases dropped <;> simpa [List.filterMap_cons, StreamEvent.offer?] using member
  · cases member

theorem handle_offers {advance : StreamClient → Option (StreamClient × List StreamEvent)}
    (flows : Flows capacity msgpack trace stream) (steps : Steps msgpack capacity advance)
    (moved : stream.handle position advance = some (next, events)) (other : Nat) :
    (events other).filterMap StreamEvent.offer? = [] := by
  obtain ⟨client, after, happened, found, stepped, rfl, -⟩ := handle_some moved
  dsimp only
  split
  · exact (steps _ _ _ _ (flows.clients position client found) stepped).2.2
  · rfl

/-- Only a publication offers a batch. -/
theorem step_offers (flows : Flows capacity msgpack trace stream)
    (moved : stream.step msgpack label = some (next, events)) (other : Nat) (batch : FrameBatch)
    (member : batch ∈ (events other).filterMap StreamEvent.offer?) : label = .publish batch := by
  have quiet (none_ : (events other).filterMap StreamEvent.offer? = []) : label = .publish batch := by
    rw [none_] at member
    cases member
  cases label with
  | accept =>
    obtain ⟨rfl, rfl⟩ := Prod.mk.inj (Option.some.inj moved)
    cases member
  | publish published =>
    obtain ⟨rfl, rfl⟩ := Prod.mk.inj (Option.some.inj moved)
    change batch ∈ (((stream.broker.clients.map (stream.broker.publishTo published))[other]?).elim [] Prod.snd).filterMap
      StreamEvent.offer? at member
    rw [List.getElem?_map] at member
    cases found : stream.broker.clients[other]? with
    | none => simp [found] at member
    | some client =>
      rw [found] at member
      rw [publishTo_offers member]
  | subscribe position => exact quiet (handle_offers flows subscribe_steps moved other)
  | take position => exact quiet (handle_offers flows take_steps moved other)
  | receive position => exact quiet (handle_offers flows receive_steps moved other)
  | resume position => exact quiet (handle_offers flows resume_steps moved other)
  | send position => exact quiet (handle_offers flows send_steps moved other)
  | fail position => exact quiet (handle_offers flows fail_steps moved other)
  | leave position => exact quiet (handle_offers flows leave_steps moved other)

/-- Whether a client's queue is one of the broker's: from its subscription until it leaves. -/
def FrameStream.listening (stream : FrameStream) (position : Nat) : Bool :=
  (stream.broker.clients[position]?).any StreamClient.registered

/-- What a label tells of one client: whether it is subscribed, and the batches published since it was. -/
def hear (position : Nat) (heard : Bool × List FrameBatch) : StreamLabel → Bool × List FrameBatch
  | .subscribe client => (heard.1 || client == position, heard.2)
  | .leave client => (heard.1 && client != position, heard.2)
  | .publish batch => (heard.1, if heard.1 then heard.2 ++ [batch] else heard.2)
  | _ => heard

/-- The batches published between the subscription of a client and its leaving. -/
def publishedFor (position : Nat) (trace : List (StreamLabel × StreamEvents)) : List FrameBatch :=
  ((trace.map Prod.fst).foldl (hear position) (false, [])).2

/-- What an advance of a handler does to its client's subscription. -/
def Registers (becomes : Bool → Bool) (advance : StreamClient → Option (StreamClient × List StreamEvent)) : Prop :=
  ∀ client after happened, advance client = some (after, happened) → after.registered = becomes client.registered

theorem handle_listening {advance : StreamClient → Option (StreamClient × List StreamEvent)} {becomes : Bool → Bool}
    (moved : stream.handle position advance = some (next, events)) (registers : Registers becomes advance)
    (other : Nat) : next.listening other =
      if position = other then becomes (stream.listening other) else stream.listening other := by
  obtain ⟨client, after, happened, found, stepped, -, rfl⟩ := handle_some moved
  rw [FrameStream.listening, FrameStream.listening]
  split
  · rename_i same
    subst same
    obtain ⟨inside, -⟩ := List.getElem?_eq_some_iff.mp found
    rw [List.getElem?_set_self inside, found]
    exact registers client after happened stepped
  · rename_i different
    rw [List.getElem?_set_ne different]

theorem subscribe_registers : Registers (fun _ => true) StreamClient.subscribe := by
  intro client after happened moved
  rw [StreamClient.subscribe] at moved
  split at moved
  · obtain ⟨rfl, -⟩ := Prod.mk.inj (Option.some.inj moved)
    rfl
  · cases moved

theorem leave_registers : Registers (fun _ => false) StreamClient.leave := by
  intro client after happened moved
  rw [StreamClient.leave] at moved
  split at moved
  · obtain ⟨rfl, -⟩ := Prod.mk.inj (Option.some.inj moved)
    rfl
  · cases moved

theorem take_registers : Registers id StreamClient.take := by
  intro client after happened moved
  rw [StreamClient.take] at moved
  split at moved
  · rename_i waiting _
    obtain ⟨rfl, -⟩ := Prod.mk.inj (Option.some.inj moved)
    rw [StreamClient.registered, StreamClient.registered, waiting, id]
  · cases moved

theorem receive_registers : Registers id StreamClient.receive := by
  intro client after happened moved
  rw [StreamClient.receive] at moved
  split at moved
  · rename_i phase
    obtain ⟨rfl, -⟩ := Prod.mk.inj (Option.some.inj moved)
    rw [StreamClient.registered, StreamClient.registered, phase, id]
  · rename_i phase
    obtain ⟨rfl, -⟩ := Prod.mk.inj (Option.some.inj moved)
    rw [StreamClient.registered, StreamClient.registered, phase, id]
  · cases moved

theorem resume_registers : Registers id StreamClient.resume := by
  intro client after happened moved
  rw [StreamClient.resume] at moved
  split at moved
  · rename_i phase
    obtain ⟨rfl, -⟩ := Prod.mk.inj (Option.some.inj moved)
    rw [StreamClient.registered, StreamClient.registered, phase, id]
  · cases moved

theorem send_registers : Registers id fun client => client.send msgpack := by
  intro client after happened moved
  change client.send msgpack = _ at moved
  rw [StreamClient.send] at moved
  split at moved
  · rename_i phase
    obtain ⟨bytes, -, same⟩ := Option.map_eq_some_iff.mp moved
    obtain ⟨rfl, -⟩ := Prod.mk.inj same
    rw [StreamClient.registered, StreamClient.registered, phase, id]
  · cases moved

theorem fail_registers : Registers id StreamClient.fail := by
  intro client after happened moved
  rw [StreamClient.fail] at moved
  split at moved
  · rename_i phase
    obtain ⟨rfl, -⟩ := Prod.mk.inj (Option.some.inj moved)
    rw [StreamClient.registered, StreamClient.registered, phase, id]
  · cases moved

/-- A batch is offered to each client that is subscribed, and to no other. -/
theorem publishTo_offered (broker : BatchBroker) (batch : FrameBatch) (client : StreamClient) :
    (broker.publishTo batch client).1.registered = client.registered ∧
      (broker.publishTo batch client).2.filterMap StreamEvent.offer? = if client.registered then [batch] else [] := by
  rw [BatchBroker.publishTo]
  split
  · rename_i subscribed
    generalize offer broker.clientCapacity client.queue batch = given
    obtain ⟨queue, dropped⟩ := given
    cases dropped <;> exact ⟨rfl, rfl⟩
  · exact ⟨rfl, rfl⟩

private theorem accept_listening {clients : List StreamClient} :
    ((clients ++ [⟨.entering, []⟩])[position]?).any StreamClient.registered =
      (clients[position]?).any StreamClient.registered := by
  rcases Nat.lt_or_ge position clients.length with before | after
  · rw [List.getElem?_append_left before]
  · rw [List.getElem?_append_right after, List.getElem?_eq_none after, List.getElem?_singleton]
    split <;> rfl

/-- A step tells one client exactly what it offers to it. -/
theorem step_hear (flows : Flows capacity msgpack trace stream) (moved : stream.step msgpack label = some (next, events))
    (position : Nat) (sofar : List FrameBatch) :
    hear position (stream.listening position, sofar) label =
      (next.listening position, sofar ++ (events position).filterMap StreamEvent.offer?) := by
  have still {client : Nat} {advance : StreamClient → Option (StreamClient × List StreamEvent)}
      (steps : Steps msgpack capacity advance) (moved : stream.handle client advance = some (next, events))
      (registers : Registers id advance) :
      (stream.listening position, sofar) =
        (next.listening position, sofar ++ (events position).filterMap StreamEvent.offer?) := by
    rw [handle_offers flows steps moved, handle_listening moved registers, List.append_nil, id, ite_self]
  cases label with
  | accept =>
    obtain ⟨rfl, rfl⟩ := Prod.mk.inj (Option.some.inj moved)
    exact Prod.ext accept_listening.symm (List.append_nil sofar).symm
  | publish batch =>
    have same : stream.publishStream batch = (next, events) := Option.some.inj moved
    obtain rfl : (stream.publishStream batch).1 = next := congrArg Prod.fst same
    obtain rfl : (stream.publishStream batch).2 = events := congrArg Prod.snd same
    have listens : (stream.publishStream batch).1.listening position = stream.listening position := by
      simp only [FrameStream.listening, publishStream_clients, List.getElem?_map, Option.any_map,
        publishTo_offered]
    rw [hear, listens, publishStream_events, FrameStream.listening]
    cases found : stream.broker.clients[position]? with
    | none =>
      exact Prod.ext rfl (List.append_nil sofar).symm
    | some client =>
      refine Prod.ext rfl ?_
      rw [Option.elim, (publishTo_offered stream.broker batch client).2, Option.any]
      by_cases subscribed : client.registered = true <;> simp [subscribed]
  | subscribe client =>
    rw [handle_offers flows subscribe_steps moved, handle_listening moved subscribe_registers, hear,
      List.append_nil]
    by_cases same : client = position <;> simp [same]
  | leave client =>
    rw [handle_offers flows leave_steps moved, handle_listening moved leave_registers, hear,
      List.append_nil]
    by_cases same : client = position <;> simp [same]
  | take client => exact still take_steps moved take_registers
  | receive client => exact still receive_steps moved receive_registers
  | resume client => exact still resume_steps moved resume_registers
  | send client => exact still send_steps moved send_registers
  | fail client => exact still fail_steps moved fail_registers

/-- What is sent to a client was offered to it. -/
theorem Streamed.message_offered {events : List StreamEvent} {client : StreamClient}
    (streamed : Streamed capacity msgpack events client) {message : FrameBatch × Bytes}
    (member : message ∈ events.filterMap StreamEvent.message?) :
    message.1 ∈ events.filterMap StreamEvent.offer? := by
  obtain ⟨unsent, same, -⟩ := streamed.sent
  have taken : message.1 ∈ ((events.filterMap StreamEvent.left?).filter Prod.snd).map Prod.fst := by
    rw [same]
    exact List.mem_append_left _ (List.mem_map_of_mem member)
  obtain ⟨entry, held, first⟩ := List.mem_map.mp taken
  rw [← streamed.queued.conserved, ← first]
  exact List.mem_append_left _ (List.mem_map_of_mem (List.mem_filter.mp held).1)

/-- The renderer reads a packed batch back. -/
theorem streamable_read {batch : FrameBatch} {bytes : Bytes} (streamable : Streamable msgpack batch)
    (packed : encodeBatch msgpack (.ofBatch batch) = some bytes) :
    ∃ read, decodeFrameBatch msgpack.decode bytes = .ok read ∧ SameBatch (.ofBatch batch) read := by
  have portable := captured_portable streamable.named streamable.counted streamable.names
  refine ⟨(PyFrameBatch.ofBatch batch).read, ?_, read_same portable.named fun frame member =>
    (portable.frames frame member).1⟩
  rw [decodeFrameBatch, streamable.carried.reads bytes packed, ok_bind]
  exact readFrameBatch_ok.mpr ⟨fun frame member => (portable.frames frame member).2, portable.counted, rfl⟩

/-- What the clients of the live stream get, and what the counters say of it. -/
structure FrameStream.Live (capacity : Nat) (msgpack : Msgpack) (trace : List (StreamLabel × StreamEvents))
    (stream : FrameStream) : Prop where
  flows : Flows capacity msgpack trace stream
  offered : ∀ position, (eventsOf position trace).filterMap StreamEvent.offer? = publishedFor position trace
  readable : ∀ position, ∀ message ∈ (eventsOf position trace).filterMap StreamEvent.message?, ∃ read,
    decodeFrameBatch msgpack.decode message.2 = .ok read ∧ SameBatch (.ofBatch message.1) read

private theorem created_empty {requested : Int} {broker : BatchBroker}
    (created : BatchBroker.create requested = .ok broker) :
    broker.clients = [] := by
  rw [BatchBroker.create] at created
  split at created
  · obtain rfl := Except.ok.inj created
    rfl
  · cases created

private theorem created_flows {requested : Int} {broker : BatchBroker}
    (created : BatchBroker.create requested = .ok broker) :
    Flows requested.toNat msgpack [] (.opened broker) := by
  rw [BatchBroker.create] at created
  split at created
  · obtain rfl := Except.ok.inj created
    exact ⟨rfl, fun position client listed => by simp [FrameStream.opened] at listed, fun _ _ => rfl, rfl, rfl, rfl⟩
  · cases created

/-- What a run has told one client, from its labels alone. -/
theorem run_hear {source : FrameStream} {allowed : FrameStream → StreamLabel → Prop}
    (opened : source.broker.clients = [])
    (path : Path (fun stream => FrameStream.step stream msgpack) allowed source trace stream)
    (flows : ∀ trace stream, Path (fun stream => FrameStream.step stream msgpack) allowed source trace stream →
      Flows capacity msgpack trace stream) (position : Nat) :
    (trace.map Prod.fst).foldl (hear position) (false, []) =
      (stream.listening position, (eventsOf position trace).filterMap StreamEvent.offer?) := by
  induction path with
  | refl =>
    rw [FrameStream.listening, opened]
    rfl
  | snoc prior _ moved ih =>
    rw [List.map_append, List.foldl_append, ih, eventsOf_snoc, List.filterMap_append]
    exact step_hear (flows _ _ prior) moved position _

/-- However publications and the handlers of connections interleave: each client is sent the batches published between
its subscription and its leaving, in order, none twice, but for those given up when the queue had `capacity` later ones,
and reads them as they were published; the counters are those of all batches given up and of all batches sent. -/
theorem stream_live {capacity : Int} {broker : BatchBroker} (created : BatchBroker.create capacity = .ok broker)
    (path : Path (fun stream => FrameStream.step stream msgpack) (FrameStream.Allowed msgpack) (.opened broker) trace
      stream) :
    stream.Live capacity.toNat msgpack trace := by
  have initial : Flows capacity.toNat msgpack [] (.opened broker) := created_flows created
  have flows (trace : List (StreamLabel × StreamEvents)) (stream : FrameStream)
      (path : Path (fun stream => FrameStream.step stream msgpack) (FrameStream.Allowed msgpack) (.opened broker) trace
        stream) : Flows capacity.toNat msgpack trace stream :=
    path.preserves_trace (Flows capacity.toNat msgpack) initial fun _ _ _ _ _ _ flows _ moved => flows.step moved
  have streamable : ∀ position, ∀ batch ∈ (eventsOf position trace).filterMap StreamEvent.offer?,
      Streamable msgpack batch := by
    refine path.preserves_trace (fun trace _ => ∀ position,
      ∀ batch ∈ (eventsOf position trace).filterMap StreamEvent.offer?, Streamable msgpack batch)
      (fun position batch member => by cases member)
      fun trace stream label next events prior held allowed moved position batch member => ?_
    rw [eventsOf_snoc, List.filterMap_append, List.mem_append] at member
    rcases member with earlier | now
    · exact held position batch earlier
    · obtain rfl := step_offers (flows trace stream prior) moved position batch now
      exact allowed
  refine ⟨flows trace stream path, fun position => ?_, fun position message member => ?_⟩
  · exact (congrArg Prod.snd (run_hear (created_empty created) path flows position)).symm
  cases listed : stream.broker.clients[position]? with
  | none =>
    rw [(flows trace stream path).silent position (List.getElem?_eq_none_iff.mp listed)] at member
    cases member
  | some client =>
    have streamed := (flows trace stream path).clients position client listed
    exact streamable_read (streamable position _ (streamed.message_offered member)) (streamed.packed message member)

end Runs

section Sample

theorem stream_named : "s" ≠ "" := by decide

theorem channel_named : "can0" ≠ "" := by decide

theorem clock_named : "host" ≠ "" := by decide

theorem zero_nonnegative : (0 : Seconds) ≤ 0 := by decide

theorem empty_sequence : 0 ≤ 0xFFFFFFFFFFFFFFFF := Nat.zero_le _

theorem empty_identifier : 0 ≤ if false then 0x1FFFFFFF else 0x7FF := Nat.zero_le _

theorem empty_dlc : 0 ∈ if false then fdDlc else classicDlc := List.mem_cons_self

theorem empty_length : ([] : List UInt8).length = 0 := rfl

theorem empty_classic : false = false → false = false ∧ false = false := fun _ => ⟨rfl, rfl⟩

theorem empty_stamp : ∀ stamp ∈ (none : Option Seconds), 0 ≤ stamp :=
  fun _ given => absurd given (Option.not_mem_none _)

theorem empty_flags : 0 ≤ 0xFFFFFFFF := Nat.zero_le _

/-- An empty standard frame. -/
def emptyFrame : Frame where
  sequence := 0
  channelId := "can0"
  arbitrationId := 0
  isExtended := false
  isFd := false
  bitrateSwitch := false
  errorStateIndicator := false
  dlc := 0
  data := []
  direction := .rx
  hardwareTimestamp := none
  hostTimestamp := 0
  normalizedTimestamp := 0
  clockDomain := "host"
  timestampQuality := .host
  flags := 0
  sequence_unsigned := empty_sequence
  channel_named := channel_named
  arbitration_range := empty_identifier
  dlc_allowed := empty_dlc
  data_length := empty_length
  classic_flags := empty_classic
  host_nonnegative := zero_nonnegative
  normalized_nonnegative := zero_nonnegative
  hardware_nonnegative := empty_stamp
  clock_named := clock_named
  flags_unsigned := empty_flags

def emptyBatch : FrameBatch := ⟨"s", [emptyFrame], stream_named, List.cons_ne_nil _ _, rfl⟩

/-- The `float64` of zero. -/
def zeroBytes : Bytes := [0xCB, 0, 0, 0, 0, 0, 0, 0, 0]

def emptyBytes : Bytes :=
  [0x86] ++ fixstr "schema_version" ++ [1] ++ fixstr "stream_id" ++ fixstr "s" ++ fixstr "first_sequence" ++ [0] ++
    fixstr "last_sequence" ++ [0] ++ fixstr "frame_count" ++ [1] ++ fixstr "frames" ++ [0x91, 0xDE, 0, 16] ++
    fixstr "sequence" ++ [0] ++ fixstr "channel_id" ++ fixstr "can0" ++ fixstr "arbitration_id" ++ [0] ++
    fixstr "is_extended" ++ [0xC2] ++ fixstr "is_fd" ++ [0xC2] ++ fixstr "bitrate_switch" ++ [0xC2] ++
    fixstr "error_state_indicator" ++ [0xC2] ++ fixstr "dlc" ++ [0] ++ fixstr "data" ++ [0xC4, 0] ++
    fixstr "direction" ++ fixstr "rx" ++ fixstr "hardware_timestamp" ++ [0xC0] ++ fixstr "host_timestamp" ++ zeroBytes ++
    fixstr "normalized_timestamp" ++ zeroBytes ++ fixstr "clock_domain" ++ fixstr "host" ++
    fixstr "timestamp_quality" ++ fixstr "host" ++ fixstr "flags" ++ [0]

def emptyMsgpack : Msgpack := sampleMsgpack (.ofBatch emptyBatch) emptyBytes

private theorem emptyBatch_streamable : Streamable emptyMsgpack emptyBatch := by
  have named : utf8Length (text emptyBatch.streamId) ≤ maxLength := by decide +kernel
  have counted : emptyBatch.frameCount ≤ maxLength := by decide +kernel
  have names : ∀ frame ∈ emptyBatch.frames,
      utf8Length (text frame.channelId) ≤ maxLength ∧ utf8Length (text frame.clockDomain) ≤ maxLength := by
    intro frame member
    obtain rfl := List.mem_singleton.mp member
    decide +kernel
  exact ⟨named, counted, names, sampleMsgpack_carries (captured_portable named counted names).packable _⟩

private theorem emptyLabels_allowed (label : StreamLabel)
    (member : label ∈ [.accept, .subscribe 0, .publish emptyBatch, .publish emptyBatch, .take 0, .resume 0, .send 0])
    (stream : FrameStream) : stream.Allowed emptyMsgpack label := by
  cases label with
  | publish batch =>
    obtain rfl : batch = emptyBatch := by simpa using member
    exact emptyBatch_streamable
  | _ => trivial

/-- A client with room for one batch is sent the second of two, for which the first was given up. -/
theorem stream_live_overtaken : ∃ broker trace stream, BatchBroker.create 1 = .ok broker ∧
    Path (fun stream => FrameStream.step stream emptyMsgpack) (FrameStream.Allowed emptyMsgpack) (.opened broker) trace
      stream ∧
      (stream.streamedFrames, stream.droppedStreamFrames) = (1, 1) ∧ stream.Live 1 emptyMsgpack trace := by
  have created : BatchBroker.create 1 = .ok ⟨1, Nat.one_pos, [], 0⟩ := rfl
  have evaluated : (follow (fun stream => FrameStream.step stream emptyMsgpack) (.opened ⟨1, Nat.one_pos, [], 0⟩)
      [.accept, .subscribe 0, .publish emptyBatch, .publish emptyBatch, .take 0, .resume 0, .send 0]).map
        (fun reached => (reached.1.streamedFrames, reached.1.droppedStreamFrames)) = some (1, 1) := by
    decide +kernel
  obtain ⟨trace, stream, path, seen⟩ := Path.observed _
    (fun stream : FrameStream => (stream.streamedFrames, stream.droppedStreamFrames)) _ emptyLabels_allowed evaluated
  exact ⟨_, trace, stream, created, path, seen, stream_live created path⟩

end Sample

end CanX.Transport
