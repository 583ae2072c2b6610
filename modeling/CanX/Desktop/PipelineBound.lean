import CanX.Desktop.RealtimeStream

/-! The pipeline is single and bounded as long as nothing releases it while the store announces
a retry whose timer it has not set yet. -/

namespace CanX.Desktop

open Transition

namespace RealtimeStreamLabel

/-- The pair that delivers an event. -/
def deliverer : RealtimeStreamLabel → Option Nat
  | .socketOpened pair | .socketMessage pair | .socketClosed pair | .socketErrored pair
  | .workerMessage pair _ | .workerErrored pair => some pair
  | _ => none

def isSubscribe : RealtimeStreamLabel → Bool
  | .subscribe _ _ => true
  | _ => false

end RealtimeStreamLabel

/-- Pairs created since the last successful open or departure of every subscriber. -/
def spentAfter (spent : Nat) : RealtimeStreamLabel × Option StreamEvent → Nat
  | (_, some .created) => spent + 1
  | (_, some .opened) | (_, some .released) => 0
  | _ => spent

def RealtimeStreamTrace.spent (trace : RealtimeStreamTrace) : Nat := trace.foldl spentAfter 0

@[simp] theorem RealtimeStreamTrace.spent_snoc {trace : RealtimeStreamTrace}
    {entry : RealtimeStreamLabel × Option StreamEvent} :
    RealtimeStreamTrace.spent (trace ++ [entry]) = spentAfter trace.spent entry := by
  simp [RealtimeStreamTrace.spent]

namespace RealtimeStream

variable {store next : RealtimeStream} {label : RealtimeStreamLabel} {event : Option StreamEvent}
variable {trace : RealtimeStreamTrace} {continuation : Continuation} {spent : Nat}

/-- Whether a call leaves the store without its last subscriber, or disposes of it at once. -/
def releases (store : RealtimeStream) : RealtimeStreamLabel → Bool
  | .dispose => true
  | .unsubscribe listener => (store.listeners.filter (· ≠ listener)).isEmpty
  | _ => false

/-- No listener that is being told of a retry releases the pipeline. -/
def undisturbed (store : RealtimeStream) (label : RealtimeStreamLabel) : Prop :=
  .schedule ∈ store.stack → store.releases label = false

/-- A pair that is current or older, and if current then the one that is held. -/
def Known (store : RealtimeStream) (pair : Nat) : Prop :=
  pair ≤ store.generation ∧ (pair = store.generation → store.pair = some pair)

/-- What a continuation relies on until its listeners have returned. -/
def Awaits (store : RealtimeStream) : Continuation → Prop
  | .done => True
  | .install pair => store.Known pair
  | .schedule => store.state.connection = .retrying ∧ store.pair = none ∧ store.retryTimer = none

structure Sound (store : RealtimeStream) : Prop where
  live : store.live = store.pair.toList
  timers : store.timers = store.retryTimer.toList
  current : ∀ pair, store.pair = some pair → pair = store.generation
  handlers : ∀ pair ∈ store.installed, store.Known pair
  awaits : ∀ continuation ∈ store.stack, store.Awaits continuation
  alone : .schedule ∈ store.stack → store.stack = [.schedule]
  waiting : store.retryTimer ≠ none → store.state.connection = .retrying
  unpaired : store.pair ≠ none → store.state.connection = .connecting ∨ store.state.connection = .open

/-- What remains of the cadence. -/
structure Budget (spent : Nat) (store : RealtimeStream) : Prop where
  attempts : store.attempts ≤ 5
  idle : store.state.connection = .idle → spent = 0
  paired : spent ≤ store.attempts + 1
  unpaired : store.pair = none → store.state.connection ≠ .closed → spent ≤ store.attempts

theorem Sound.new : Sound new := by
  constructor
  all_goals simp [RealtimeStream.new]

theorem Budget.new : Budget 0 new := by
  constructor
  all_goals simp [RealtimeStream.new]

theorem Sound.resume (sound : Sound store) (awaits : store.Awaits continuation)
    (empty : continuation = .schedule → store.stack = []) : Sound (store.resume continuation) := by
  cases continuation with
  | done => exact sound
  | install pair =>
    refine ⟨sound.live, sound.timers, sound.current, ?_, sound.awaits, sound.alone, sound.waiting,
      sound.unpaired⟩
    intro other member
    rcases List.mem_append.mp member with old | new
    · exact sound.handlers other old
    · rw [List.mem_singleton.mp new]
      exact awaits
  | schedule =>
    obtain ⟨retrying, unpaired, untimed⟩ := awaits
    have none_ : store.timers = [] := by rw [sound.timers, untimed, Option.toList_none]
    refine ⟨sound.live, ?_, sound.current, sound.handlers, ?_, sound.alone, fun _ => retrying, sound.unpaired⟩
    · simp [RealtimeStream.resume, RealtimeStream.schedule, none_]
    · intro other member
      simp [RealtimeStream.resume, RealtimeStream.schedule, empty rfl] at member

theorem Sound.emit (sound : Sound store) (free : .schedule ∉ store.stack)
    (awaits : store.Awaits continuation) (empty : continuation = .schedule → store.stack = []) :
    Sound (store.emit continuation) := by
  unfold RealtimeStream.emit
  split
  · exact sound.resume awaits empty
  · refine ⟨sound.live, sound.timers, sound.current, sound.handlers, ?_, ?_, sound.waiting, sound.unpaired⟩
    · intro other member
      rcases List.mem_cons.mp member with rfl | member
      · exact awaits
      · exact sound.awaits other member
    · intro scheduling
      rcases List.mem_cons.mp scheduling with rfl | member
      · simp [empty rfl]
      · exact absurd member free

theorem Budget.resume (budget : Budget spent store) : Budget spent (store.resume continuation) := by
  cases continuation
  all_goals exact ⟨budget.attempts, budget.idle, budget.paired, budget.unpaired⟩

theorem Budget.emit (budget : Budget spent store) : Budget spent (store.emit continuation) := by
  unfold RealtimeStream.emit
  split
  · exact budget.resume
  · exact ⟨budget.attempts, budget.idle, budget.paired, budget.unpaired⟩

/-- A pair that is known stays so when the generation advances. -/
theorem Known.advance {pair : Nat} (known : store.Known pair)
    (advanced : next.generation = store.generation + 1) : next.Known pair := by
  have bound := known.1
  exact ⟨by omega, fun same => by omega⟩

/-- A step that advances the generation lets go of the pair and of the timer. -/
theorem Sound.advance (sound : Sound store) (free : .schedule ∉ store.stack)
    (advanced : next.generation = store.generation + 1) (stack : next.stack = store.stack)
    (installed : next.installed = store.installed) (live : next.live = next.pair.toList)
    (timers : next.timers = next.retryTimer.toList) (untimed : next.retryTimer = none)
    (current : ∀ pair, next.pair = some pair → pair = next.generation)
    (unpaired : next.pair ≠ none → next.state.connection = .connecting ∨ next.state.connection = .open) :
    Sound next := by
  refine ⟨live, timers, current, ?_, ?_, ?_, fun some => absurd untimed some, unpaired⟩
  · intro pair member
    rw [installed] at member
    exact (sound.handlers pair member).advance advanced
  · intro continuation member
    rw [stack] at member
    cases continuation with
    | done => trivial
    | install pair => exact Known.advance (sound.awaits _ member) advanced
    | schedule => exact absurd member free
  · intro member
    rw [stack] at member
    exact absurd member free

theorem Sound.closed_live (sound : Sound store) :
    store.live.filter (fun pair => decide (store.pair ≠ some pair)) = [] := by
  rw [sound.live]
  cases store.pair <;> simp

theorem Sound.cleared_timers (sound : Sound store) :
    store.timers.filter (fun timer => decide (store.retryTimer ≠ some timer)) = [] := by
  rw [sound.timers]
  cases store.retryTimer <;> simp

theorem Sound.dispose (sound : Sound store) (free : .schedule ∉ store.stack) : Sound store.dispose.1 := by
  refine Sound.emit (sound.advance free rfl rfl rfl ?_ ?_ rfl ?_ ?_) free trivial (fun same => by cases same)
  · exact sound.closed_live
  · exact sound.cleared_timers
  · intro pair held
    cases held
  · intro held
    exact absurd rfl held

theorem Budget.dispose : Budget 0 store.dispose.1 :=
  Budget.emit ⟨Nat.zero_le 5, fun _ => rfl, Nat.zero_le _, fun _ _ => Nat.zero_le _⟩

/-- A pair may be opened where none is held and no timer waits. -/
theorem Sound.openPair (sound : Sound store) (free : .schedule ∉ store.stack)
    (unpaired : store.pair = none) (untimed : store.retryTimer = none) {supply : Supply} :
    Sound (store.openPair supply).1 := by
  have dead : store.live = [] := by rw [sound.live, unpaired, Option.toList_none]
  have idle : store.timers = [] := by rw [sound.timers, untimed, Option.toList_none]
  unfold RealtimeStream.openPair
  dsimp only
  split
  · refine Sound.emit (sound.advance free rfl rfl rfl ?_ ?_ untimed ?_ ?_) free ?_ (fun same => by cases same)
    · simp [connect, dead]
    · simp [connect, idle, untimed]
    · intro pair held
      exact (Option.some.inj held).symm
    · exact fun _ => .inl rfl
    · exact ⟨Nat.le_refl _, fun _ => rfl⟩
  · refine Sound.emit (sound.advance free rfl rfl rfl ?_ ?_ untimed ?_ ?_) free trivial (fun same => by cases same)
    · simp [connect, dead, unpaired]
    · simp [connect, idle, untimed]
    · intro pair held
      simp [connect, unpaired] at held
    · intro held
      exact absurd unpaired held

theorem Budget.openPair {supply : Supply} (attempts : store.attempts ≤ 5) (within : spent ≤ store.attempts) :
    Budget (spentAfter spent (label, (store.openPair supply).2)) (store.openPair supply).1 := by
  unfold RealtimeStream.openPair
  dsimp only
  split
  · exact Budget.emit ⟨attempts, fun same => by simp [connect] at same, Nat.succ_le_succ within,
      fun none_ => by simp [connect] at none_⟩
  · exact Budget.emit ⟨attempts, fun same => by simp [connect] at same, Nat.le_succ_of_le within,
      fun _ _ => within⟩

/-- No timer waits while a pair is held. -/
theorem Sound.untimed (sound : Sound store) (paired : store.pair ≠ none) : store.retryTimer = none := by
  by_contra waits
  have retrying := sound.waiting waits
  rcases sound.unpaired paired with connecting | opened
  · exact absurd (retrying.symm.trans connecting) (by decide)
  · exact absurd (retrying.symm.trans opened) (by decide)

theorem Sound.idle_free (sound : Sound store) (idle : store.state.connection = .idle) :
    .schedule ∉ store.stack ∧ store.pair = none ∧ store.retryTimer = none := by
  refine ⟨fun scheduling => ?_, ?_, ?_⟩
  · obtain ⟨retrying, _, _⟩ := sound.awaits _ scheduling
    exact absurd (retrying.symm.trans idle) (by decide)
  · by_contra paired
    rcases sound.unpaired paired with connecting | opened
    · exact absurd (connecting.symm.trans idle) (by decide)
    · exact absurd (opened.symm.trans idle) (by decide)
  · by_contra waits
    exact absurd ((sound.waiting waits).symm.trans idle) (by decide)

theorem retryDelays_some {attempts delay : Nat} (left : retryDelaysMs[attempts]? = some delay) :
    attempts < 5 := (List.getElem?_eq_some_iff.mp left).1

/-- A pair that fails leaves nothing behind but the next attempt, if there is one left. -/
theorem Sound.fail (sound : Sound store) (quiet : store.stack = []) {pair : Nat}
    (handled : pair ∈ store.installed) : Sound (store.fail pair).1 := by
  have free : Continuation.schedule ∉ store.stack := by simp [quiet]
  unfold RealtimeStream.fail
  split
  · exact sound
  · rename_i current
    have held : store.pair = some pair := (sound.handlers pair handled).2 (not_not.mp current)
    have untimed : store.retryTimer = none := sound.untimed (by rw [held]; exact Option.some_ne_none pair)
    have idle : store.timers = [] := by rw [sound.timers, untimed, Option.toList_none]
    split
    · exact sound
    · dsimp only
      split
      · refine Sound.emit (sound.advance free rfl rfl rfl sound.closed_live ?_ untimed ?_ ?_) free trivial
          (fun same => by cases same)
        · simp [connect, closePair, idle, untimed]
        · intro other held
          cases held
        · intro held
          exact absurd rfl held
      · refine Sound.emit (sound.advance free rfl rfl rfl sound.closed_live ?_ untimed ?_ ?_) free
          ⟨rfl, rfl, untimed⟩ (fun _ => quiet)
        · simp [connect, closePair, idle, untimed]
        · intro other held
          cases held
        · intro held
          exact absurd rfl held

theorem Budget.fail (budget : Budget spent store) (pair : Nat) :
    Budget (spentAfter spent (label, (store.fail pair).2)) (store.fail pair).1 := by
  unfold RealtimeStream.fail
  split
  · exact budget
  split
  · exact budget
  · dsimp only
    split
    · exact Budget.emit ⟨budget.attempts, fun same => by simp [connect] at same, budget.paired,
        fun _ open_ => absurd rfl open_⟩
    · rename_i left
      have bound := retryDelays_some left
      have paired := budget.paired
      refine Budget.emit ⟨?_, fun same => by simp [connect] at same, ?_, fun _ _ => ?_⟩
      · exact bound
      · exact Nat.le_succ_of_le paired
      · exact paired

theorem Sound.opened (sound : Sound store) (quiet : store.stack = []) {pair : Nat}
    (handled : pair ∈ store.installed) : Sound (store.opened pair).1 := by
  unfold RealtimeStream.opened
  split
  · exact sound
  · rename_i current
    have held : store.pair = some pair := (sound.handlers pair handled).2 (not_not.mp current)
    have untimed : store.retryTimer = none := sound.untimed (by rw [held]; exact Option.some_ne_none pair)
    refine Sound.emit ⟨sound.live, sound.timers, sound.current, sound.handlers, ?_, ?_,
      fun waits => absurd untimed waits, fun _ => .inr rfl⟩ ?_ trivial (fun same => by cases same)
    · intro continuation member
      simp [connect, quiet] at member
    · intro member
      simp [connect, quiet] at member
    · simp [connect, quiet]

theorem Budget.opened (budget : Budget spent store) (pair : Nat) :
    Budget (spentAfter spent (label, (store.opened pair).2)) (store.opened pair).1 := by
  unfold RealtimeStream.opened
  split
  · exact budget
  · exact Budget.emit ⟨Nat.zero_le 5, fun same => by simp [connect] at same, Nat.zero_le _,
      fun _ _ => Nat.zero_le _⟩

theorem Sound.receive (sound : Sound store) (quiet : store.stack = []) {pair : Nat}
    (handled : pair ∈ store.installed) (message : WorkerMessage) : Sound (store.receive pair message).1 := by
  unfold RealtimeStream.receive
  split
  · exact sound
  · cases message with
    | viewport snapshot =>
      exact Sound.emit ⟨sound.live, sound.timers, sound.current, sound.handlers, sound.awaits, sound.alone,
        sound.waiting, sound.unpaired⟩ (by simp [quiet]) trivial (fun same => by cases same)
    | error => exact sound.fail quiet handled
    | unread => exact sound

theorem Budget.receive (budget : Budget spent store) (pair : Nat) (message : WorkerMessage) :
    Budget (spentAfter spent (label, (store.receive pair message).2)) (store.receive pair message).1 := by
  unfold RealtimeStream.receive
  split
  · exact budget
  · cases message with
    | viewport snapshot =>
      exact Budget.emit ⟨budget.attempts, budget.idle, budget.paired, budget.unpaired⟩
    | error => exact budget.fail pair
    | unread => exact budget

/-- Neither the subscribers nor the attempts bear on the pair and the timer. -/
theorem Sound.besides (sound : Sound store) (listeners : List Nat) (attempts : Nat) :
    Sound { store with listeners, attempts } :=
  ⟨sound.live, sound.timers, sound.current, sound.handlers, sound.awaits, sound.alone, sound.waiting,
    sound.unpaired⟩

theorem Sound.subscribe (sound : Sound store) (listener : Nat) (supply : Supply) :
    Sound (store.subscribe listener supply).1 := by
  unfold RealtimeStream.subscribe
  dsimp only
  split
  · rename_i idle
    obtain ⟨free, unpaired, untimed⟩ := sound.idle_free idle
    exact (sound.besides _ 0).openPair free unpaired untimed
  · exact sound.besides _ store.attempts

theorem Budget.subscribe (budget : Budget spent store) (listener : Nat) (supply : Supply) :
    Budget (spentAfter spent (label, (store.subscribe listener supply).2))
      (store.subscribe listener supply).1 := by
  unfold RealtimeStream.subscribe
  dsimp only
  split
  · rename_i idle
    exact Budget.openPair (Nat.zero_le 5) (budget.idle idle).le
  · exact ⟨budget.attempts, budget.idle, budget.paired, budget.unpaired⟩

theorem Sound.unsubscribe (sound : Sound store) {listener : Nat}
    (calm : .schedule ∈ store.stack → store.releases (.unsubscribe listener) = false) :
    Sound (store.unsubscribe listener).1 := by
  unfold RealtimeStream.unsubscribe
  dsimp only
  split
  · rename_i left
    refine (sound.besides _ store.attempts).dispose fun scheduling => ?_
    exact absurd ((calm scheduling).symm.trans left) (by decide)
  · exact sound.besides _ store.attempts

theorem Budget.unsubscribe (budget : Budget spent store) (listener : Nat) :
    Budget (spentAfter spent (label, (store.unsubscribe listener).2)) (store.unsubscribe listener).1 := by
  unfold RealtimeStream.unsubscribe
  dsimp only
  split
  · exact Budget.dispose
  · exact ⟨budget.attempts, budget.idle, budget.paired, budget.unpaired⟩

theorem Sound.retry (sound : Sound store) (quiet : store.stack = []) {timer : Nat}
    (pending : timer ∈ store.timers) {supply : Supply} : Sound (store.retry timer supply).1 := by
  have waits : store.retryTimer = some timer := by
    simpa [sound.timers, Option.mem_toList] using pending
  have retrying := sound.waiting (by rw [waits]; exact Option.some_ne_none timer)
  have spentTimer : store.timers.filter (fun other => decide (other ≠ timer)) = [] := by
    simp [sound.timers, waits]
  have cleared : Sound { store with retryTimer := none, timers := [] } := by
    refine ⟨sound.live, rfl, sound.current, sound.handlers, ?_, ?_, fun some => absurd rfl some, sound.unpaired⟩
    · intro continuation member
      simp [quiet] at member
    · intro member
      simp [quiet] at member
  unfold RealtimeStream.retry
  dsimp only
  rw [spentTimer]
  split
  · exact cleared
  · refine cleared.openPair (by simp [quiet]) ?_ rfl
    by_contra paired
    exact absurd (sound.untimed paired) (by rw [waits]; exact Option.some_ne_none timer)

theorem Budget.retry (budget : Budget spent store) (sound : Sound store) {timer : Nat} {supply : Supply} :
    Budget (spentAfter spent (label, (store.retry timer supply).2)) (store.retry timer supply).1 := by
  have kept : Budget spent { store with retryTimer := none, timers := store.timers.filter (· ≠ timer) } :=
    ⟨budget.attempts, budget.idle, budget.paired, budget.unpaired⟩
  unfold RealtimeStream.retry
  dsimp only
  split
  · exact kept
  split
  · rename_i retrying
    have unpaired : store.pair = none := by
      by_contra paired
      rcases sound.unpaired paired with connecting | opened
      · exact absurd (retrying.symm.trans connecting) (by decide)
      · exact absurd (retrying.symm.trans opened) (by decide)
    exact Budget.openPair budget.attempts (budget.unpaired unpaired (by rw [retrying]; decide))
  · exact kept

private theorem delivers_iff {pair : Nat} :
    store.delivers pair = true ↔ store.stack = [] ∧ pair ∈ store.installed := by
  simp [RealtimeStream.delivers]

/-- What a step does, by the kind of its label. -/
inductive Moves (store : RealtimeStream) : RealtimeStreamLabel → RealtimeStream × Option StreamEvent → Prop
  | subscribe (listener supply) : Moves store (.subscribe listener supply) (store.subscribe listener supply)
  | unsubscribe (listener) : Moves store (.unsubscribe listener) (store.unsubscribe listener)
  | dispose : Moves store .dispose store.dispose
  | returned (continuation rest) (stacked : store.stack = continuation :: rest) :
    Moves store .returned ({ store with stack := rest }.resume continuation, none)
  | delivered (pair label result) (deliverer : label.deliverer = some pair) (quiet : store.stack = [])
    (handled : pair ∈ store.installed)
    (result_eq : result = (store, none) ∨ result = store.opened pair ∨ result = store.fail pair ∨
      ∃ message, result = store.receive pair message) : Moves store label result
  | fired (timer supply) (quiet : store.stack = []) (pending : timer ∈ store.timers) :
    Moves store (.timerFired timer supply) (store.retry timer supply)

theorem step_moves (moved : store.step label = some (next, event)) : Moves store label (next, event) := by
  cases label with
  | subscribe listener supply =>
    simp only [RealtimeStream.step, Option.some.injEq] at moved
    exact moved ▸ .subscribe listener supply
  | unsubscribe listener =>
    simp only [RealtimeStream.step, Option.some.injEq] at moved
    exact moved ▸ .unsubscribe listener
  | dispose =>
    simp only [RealtimeStream.step, Option.some.injEq] at moved
    exact moved ▸ .dispose
  | returned =>
    simp only [RealtimeStream.step] at moved
    split at moved
    · cases moved
    · rename_i continuation rest stacked
      cases moved
      exact .returned continuation rest stacked
  | timerFired timer supply =>
    simp only [RealtimeStream.step, Option.ite_none_right_eq_some, Option.some.injEq, Bool.and_eq_true,
      List.isEmpty_iff, List.contains_iff_mem] at moved
    obtain ⟨⟨quiet, pending⟩, same⟩ := moved
    exact same ▸ .fired timer supply quiet pending
  | socketMessage pair =>
    simp only [RealtimeStream.step, Option.ite_none_right_eq_some, Option.some.injEq, delivers_iff] at moved
    obtain ⟨⟨quiet, handled⟩, same⟩ := moved
    exact .delivered pair _ _ rfl quiet handled (.inl same.symm)
  | socketOpened pair =>
    simp only [RealtimeStream.step, Option.ite_none_right_eq_some, Option.some.injEq, delivers_iff] at moved
    obtain ⟨⟨quiet, handled⟩, same⟩ := moved
    exact .delivered pair _ _ rfl quiet handled (.inr (.inl same.symm))
  | socketClosed pair | socketErrored pair | workerErrored pair =>
    simp only [RealtimeStream.step, Option.ite_none_right_eq_some, Option.some.injEq, delivers_iff] at moved
    obtain ⟨⟨quiet, handled⟩, same⟩ := moved
    exact .delivered pair _ _ rfl quiet handled (.inr (.inr (.inl same.symm)))
  | workerMessage pair message =>
    simp only [RealtimeStream.step, Option.ite_none_right_eq_some, Option.some.injEq, delivers_iff] at moved
    obtain ⟨⟨quiet, handled⟩, same⟩ := moved
    exact .delivered pair _ _ rfl quiet handled (.inr (.inr (.inr ⟨message, same.symm⟩)))

theorem Sound.step (sound : Sound store) (calm : store.undisturbed label)
    (moved : store.step label = some (next, event)) : Sound next := by
  have kind := step_moves moved
  generalize reached : (next, event) = result at kind
  obtain rfl : next = result.1 := congrArg Prod.fst reached
  cases kind with
  | subscribe listener supply => exact sound.subscribe listener supply
  | unsubscribe listener => exact sound.unsubscribe calm
  | dispose => exact sound.dispose fun scheduling => Bool.noConfusion (calm scheduling)
  | returned continuation rest stacked =>
    have awaits := sound.awaits continuation (by simp [stacked])
    have popped : Sound { store with stack := rest } := by
      refine ⟨sound.live, sound.timers, sound.current, sound.handlers, ?_, ?_, sound.waiting, sound.unpaired⟩
      · exact fun other member => sound.awaits other (by rw [stacked]; exact List.mem_cons_of_mem _ member)
      · intro scheduling
        have alone := sound.alone (by rw [stacked]; exact List.mem_cons_of_mem _ scheduling)
        rw [stacked] at alone
        obtain ⟨rfl, rfl⟩ := List.cons.inj alone
        cases scheduling
    refine popped.resume ?_ fun same => ?_
    · cases continuation
      all_goals exact awaits
    · subst same
      have alone := sound.alone (by simp [stacked])
      rw [stacked] at alone
      exact (List.cons.inj alone).2
  | delivered pair label result deliverer quiet handled result_eq =>
    rcases result_eq with same | same | same | ⟨message, same⟩
    · rw [same]
      exact sound
    · rw [same]
      exact sound.opened quiet handled
    · rw [same]
      exact sound.fail quiet handled
    · rw [same]
      exact sound.receive quiet handled message
  | fired timer supply quiet pending => exact sound.retry quiet pending

theorem Budget.step (budget : Budget spent store) (sound : Sound store)
    (moved : store.step label = some (next, event)) : Budget (spentAfter spent (label, event)) next := by
  have kind := step_moves moved
  generalize reached : (next, event) = result at kind
  obtain rfl : next = result.1 := congrArg Prod.fst reached
  obtain rfl : event = result.2 := congrArg Prod.snd reached
  cases kind with
  | subscribe listener supply => exact budget.subscribe listener supply
  | unsubscribe listener => exact budget.unsubscribe listener
  | dispose => exact Budget.dispose
  | returned continuation rest stacked =>
    exact Budget.resume ⟨budget.attempts, budget.idle, budget.paired, budget.unpaired⟩
  | delivered pair label result deliverer quiet handled result_eq =>
    rcases result_eq with same | same | same | ⟨message, same⟩
    · rw [same]
      exact budget
    · rw [same]
      exact budget.opened pair
    · rw [same]
      exact budget.fail pair
    · rw [same]
      exact budget.receive pair message
  | fired timer supply quiet pending => exact budget.retry sound

theorem sound_path (path : Path step undisturbed new trace store) :
    Sound store ∧ Budget (RealtimeStreamTrace.spent trace) store := by
  refine path.preserves_trace (fun trace store => Sound store ∧ Budget (RealtimeStreamTrace.spent trace) store)
    ⟨Sound.new, Budget.new⟩ ?_
  intro trace state label next event _ ⟨sound, budget⟩ calm moved
  refine ⟨sound.step calm moved, ?_⟩
  rw [RealtimeStreamTrace.spent_snoc]
  exact budget.step sound moved

@[simp] theorem resume_state : (store.resume continuation).state = store.state := by
  cases continuation
  all_goals rfl

@[simp] theorem emit_state : (store.emit continuation).state = store.state := by
  unfold RealtimeStream.emit
  split
  · exact resume_state
  · rfl

@[simp] theorem dispose_idle : store.dispose.1.state = .idleState := emit_state

private theorem openPair_event {supply : Supply} :
    (store.openPair supply).2 = some .created ∨ (store.openPair supply).2 = none := by
  unfold RealtimeStream.openPair
  dsimp only
  split
  · exact .inl rfl
  · exact .inr rfl

/-- A handler of a pair that is not held does nothing. -/
theorem Sound.silent (sound : Sound store) {pair : Nat} {result : RealtimeStream × Option StreamEvent}
    (handled : pair ∈ store.installed) (gone : store.pair ≠ some pair)
    (result_eq : result = (store, none) ∨ result = store.opened pair ∨ result = store.fail pair ∨
      ∃ message, result = store.receive pair message) : result = (store, none) := by
  have stale : pair ≠ store.generation := fun same => gone ((sound.handlers pair handled).2 same)
  rcases result_eq with rfl | rfl | rfl | ⟨message, rfl⟩
  · rfl
  · exact if_pos stale
  · exact if_pos stale
  · exact if_pos stale

theorem Sound.released_silent (sound : Sound store) {pair : Nat} (deliverer : label.deliverer = some pair)
    (gone : pair ∉ store.live) (moved : store.step label = some (next, event)) :
    next = store ∧ event = none := by
  have kind := step_moves moved
  generalize reached : (next, event) = result at kind
  cases kind with
  | delivered other label result same quiet handled result_eq =>
    obtain rfl : other = pair := Option.some.inj (same.symm.trans deliverer)
    have unheld : store.pair ≠ some other := fun held => gone (by simp [sound.live, held])
    have silent := sound.silent handled unheld result_eq
    exact Prod.mk.inj (reached.trans silent)
  | subscribe | unsubscribe | dispose | returned | fired => cases deliverer

section Events

variable (store)

theorem subscribe_event (supply : Supply) {listener : Nat} :
    (store.subscribe listener supply).2 = some .created ∨ (store.subscribe listener supply).2 = none := by
  unfold RealtimeStream.subscribe
  dsimp only
  split
  · exact openPair_event
  · exact .inr rfl

theorem retry_event (supply : Supply) {timer : Nat} :
    (store.retry timer supply).2 = some .created ∨ (store.retry timer supply).2 = none := by
  unfold RealtimeStream.retry
  dsimp only
  split
  · exact .inr rfl
  split
  · exact openPair_event
  · exact .inr rfl

theorem unsubscribe_event {listener : Nat} :
    ((store.unsubscribe listener).2 = some .released ∧ store.releases (.unsubscribe listener) = true) ∨
      (store.unsubscribe listener).2 = none := by
  unfold RealtimeStream.unsubscribe
  dsimp only
  split
  · rename_i left
    exact .inl ⟨rfl, left⟩
  · exact .inr rfl

theorem opened_event {pair : Nat} : (store.opened pair).2 = some .opened ∨ (store.opened pair).2 = none := by
  unfold RealtimeStream.opened
  split
  · exact .inr rfl
  · exact .inl rfl

theorem fail_event {pair : Nat} : (store.fail pair).2 = some .failed ∨ (store.fail pair).2 = none := by
  unfold RealtimeStream.fail
  split
  · exact .inr rfl
  split
  · exact .inr rfl
  · dsimp only
    split
    · exact .inl rfl
    · exact .inl rfl

theorem receive_event {pair : Nat} {message : WorkerMessage} :
    store.receive pair message = store.fail pair ∨ (store.receive pair message).2 = none := by
  unfold RealtimeStream.receive
  split
  · exact .inr rfl
  · cases message with
    | viewport snapshot => exact .inr rfl
    | error => exact .inl rfl
    | unread => exact .inr rfl

variable {store}

/-- A failure is that of a pair. -/
theorem Moves.failed (kind : Moves store label (next, some .failed)) :
    ∃ pair, (next, some .failed) = store.fail pair := by
  generalize reached : (next, some StreamEvent.failed) = result at kind
  have happened : result.2 = some .failed := by rw [← reached]
  cases kind with
  | subscribe listener supply =>
    rcases subscribe_event store supply with same | same
    all_goals exact absurd (same.symm.trans happened) (by decide)
  | unsubscribe listener =>
    rcases unsubscribe_event store with ⟨same, _⟩ | same
    all_goals exact absurd (same.symm.trans happened) (by decide)
  | dispose => cases happened
  | returned => cases happened
  | delivered pair label result deliverer quiet handled result_eq =>
    rcases result_eq with rfl | rfl | rfl | ⟨message, rfl⟩
    · cases happened
    · rcases opened_event store with same | same
      all_goals exact absurd (same.symm.trans happened) (by decide)
    · exact ⟨pair, rfl⟩
    · rcases receive_event store with same | same
      · exact ⟨pair, same⟩
      · exact absurd (same.symm.trans happened) (by decide)
  | fired timer supply quiet pending =>
    rcases retry_event store supply with same | same
    all_goals exact absurd (same.symm.trans happened) (by decide)

/-- A release is asked for, by the last subscriber that leaves or by disposal. -/
theorem Moves.released (kind : Moves store label (next, some .released)) :
    store.releases label = true ∧ next.state = .idleState := by
  generalize reached : (next, some StreamEvent.released) = result at kind
  have happened : result.2 = some .released := by rw [← reached]
  obtain rfl : next = result.1 := congrArg Prod.fst reached
  cases kind with
  | subscribe listener supply =>
    rcases subscribe_event store supply with same | same
    all_goals exact absurd (same.symm.trans happened) (by decide)
  | unsubscribe listener =>
    rcases unsubscribe_event store with ⟨_, left⟩ | same
    · refine ⟨left, ?_⟩
      unfold RealtimeStream.unsubscribe
      dsimp only
      rw [if_pos (by exact left)]
      exact dispose_idle
    · exact absurd (same.symm.trans happened) (by decide)
  | dispose => exact ⟨rfl, dispose_idle⟩
  | returned => cases happened
  | delivered pair label result deliverer quiet handled result_eq =>
    rcases result_eq with rfl | rfl | rfl | ⟨message, rfl⟩
    · cases happened
    · rcases opened_event store with same | same
      all_goals exact absurd (same.symm.trans happened) (by decide)
    · rcases fail_event store with same | same
      all_goals exact absurd (same.symm.trans happened) (by decide)
    · rcases receive_event store with same | same
      · rw [same] at happened
        rcases fail_event store with same | same
        all_goals exact absurd (same.symm.trans happened) (by decide)
      · exact absurd (same.symm.trans happened) (by decide)
  | fired timer supply quiet pending =>
    rcases retry_event store supply with same | same
    all_goals exact absurd (same.symm.trans happened) (by decide)

end Events

/-- The sixth pair of a cadence is its last. -/
theorem Budget.exhausted (budget : Budget 6 store) (moved : store.step label = some (next, some .failed)) :
    next.state.connection = .closed := by
  obtain ⟨pair, same⟩ := (step_moves moved).failed
  have spentAll := budget.paired
  unfold RealtimeStream.fail at same
  split at same
  · cases same
  split at same
  · cases same
  · dsimp only at same
    split at same
    · obtain rfl := congrArg Prod.fst same
      simp [connect]
    · rename_i left
      have bound := retryDelays_some left
      simp only [closePair] at bound
      omega

/-- A store that holds no pair and waits for no timer. -/
theorem Sound.parked (sound : Sound store) (unpaired : store.pair = none) (untimed : store.retryTimer = none) :
    store.live = [] ∧ store.timers = [] := by
  rw [sound.live, sound.timers, unpaired, untimed]
  exact ⟨rfl, rfl⟩

/-- A step of a parked store opens nothing unless it is a subscription to an idle one. -/
theorem Sound.parked_step (sound : Sound store) (unpaired : store.pair = none)
    (untimed : store.retryTimer = none) (moved : store.step label = some (next, event))
    (closed : label.isSubscribe = true → store.state.connection ≠ .idle) :
    event = some .released ∨ (event = none ∧ next.state = store.state) := by
  have kind := step_moves moved
  generalize reached : (next, event) = result at kind
  obtain rfl : next = result.1 := congrArg Prod.fst reached
  obtain rfl : event = result.2 := congrArg Prod.snd reached
  cases kind with
  | subscribe listener supply =>
    have busy := closed rfl
    unfold RealtimeStream.subscribe
    dsimp only
    rw [if_neg busy]
    exact .inr ⟨rfl, rfl⟩
  | unsubscribe listener =>
    unfold RealtimeStream.unsubscribe
    dsimp only
    split
    · exact .inl rfl
    · exact .inr ⟨rfl, rfl⟩
  | dispose => exact .inl rfl
  | returned continuation rest stacked => exact .inr ⟨rfl, resume_state⟩
  | delivered pair label result deliverer quiet handled result_eq =>
    rw [sound.silent handled (by rw [unpaired]; exact fun same => by cases same) result_eq]
    exact .inr ⟨rfl, rfl⟩
  | fired timer supply quiet pending =>
    rw [sound.timers, untimed] at pending
    cases pending

theorem Sound.idle_parked (sound : Sound store) (idle : store.state.connection = .idle) :
    store.pair = none ∧ store.retryTimer = none := (sound.idle_free idle).2

theorem Sound.closed_parked (sound : Sound store) (closed : store.state.connection = .closed) :
    store.pair = none ∧ store.retryTimer = none := by
  constructor
  · by_contra paired
    rcases sound.unpaired paired with connecting | opened
    · exact absurd (connecting.symm.trans closed) (by decide)
    · exact absurd (opened.symm.trans closed) (by decide)
  · by_contra waits
    exact absurd ((sound.waiting waits).symm.trans closed) (by decide)

/-- Once idle, a store to which nobody subscribes stays idle. -/
theorem Sound.stays_idle {back : RealtimeStreamTrace} {final : RealtimeStream} (sound : Sound store)
    (idle : store.state.connection = .idle) (path : Path RealtimeStream.step undisturbed store back final) :
    (∀ entry ∈ back, entry.1.isSubscribe = false) →
      Sound final ∧ final.state.connection = .idle ∧ ∀ entry ∈ back, entry.2 ≠ some .created := by
  induction path with
  | refl => exact fun _ => ⟨sound, idle, fun entry member => by cases member⟩
  | @snoc trace middle label target output prior calm moved ih =>
    intro unsubscribed
    have here : label.isSubscribe = false := unsubscribed (label, output) (by simp)
    obtain ⟨soundly, still, nothing⟩ := ih fun entry member =>
      unsubscribed entry (List.mem_append_left _ member)
    obtain ⟨unpaired, untimed⟩ := soundly.idle_parked still
    have stepped := soundly.parked_step unpaired untimed moved (fun subscribed => by simp [here] at subscribed)
    refine ⟨soundly.step calm moved, ?_, fun entry member => ?_⟩
    · rcases stepped with rfl | ⟨_, same⟩
      · rw [(step_moves moved).released.2]
        rfl
      · rw [same, still]
    · rcases List.mem_append.mp member with old | new
      · exact nothing entry old
      · rw [List.mem_singleton.mp new]
        rcases stepped with rfl | ⟨rfl, _⟩
        · exact fun same => by cases same
        · exact fun same => by cases same

/-- Once closed, a store that is not released stays closed. -/
theorem Sound.stays_closed {back : RealtimeStreamTrace} {final : RealtimeStream} (sound : Sound store)
    (closed : store.state.connection = .closed) (path : Path RealtimeStream.step undisturbed store back final) :
    (∀ entry ∈ back, entry.2 ≠ some .released) →
      Sound final ∧ final.state.connection = .closed ∧ ∀ entry ∈ back, entry.2 ≠ some .created := by
  induction path with
  | refl => exact fun _ => ⟨sound, closed, fun entry member => by cases member⟩
  | @snoc trace middle label target output prior calm moved ih =>
    intro attended
    have here : output ≠ some .released := attended (label, output) (by simp)
    obtain ⟨soundly, still, nothing⟩ := ih fun entry member => attended entry (List.mem_append_left _ member)
    obtain ⟨unpaired, untimed⟩ := soundly.closed_parked still
    have stepped := soundly.parked_step unpaired untimed moved (fun _ => by rw [still]; decide)
    obtain ⟨rfl, same⟩ := stepped.resolve_left here
    refine ⟨soundly.step calm moved, by rw [same, still], fun entry member => ?_⟩
    rcases List.mem_append.mp member with old | new
    · exact nothing entry old
    · rw [List.mem_singleton.mp new]
      exact fun same => by cases same

/-- The stream of the state is that of its viewport. -/
def Agrees (state : RealtimeStreamState) : Prop :=
  state.streamId = state.snapshot.bind FrameViewportSnapshot.streamId

private theorem dispose_agrees : Agrees store.dispose.1.state := by
  rw [dispose_idle]
  rfl

theorem openPair_agrees (store : RealtimeStream) (agrees : Agrees store.state) {supply : Supply} :
    Agrees (store.openPair supply).1.state := by
  unfold RealtimeStream.openPair
  dsimp only
  split
  · rw [emit_state]
    exact agrees
  · rw [emit_state]
    exact agrees

private theorem fail_agrees (agrees : Agrees store.state) {pair : Nat} : Agrees (store.fail pair).1.state := by
  unfold RealtimeStream.fail
  split
  · exact agrees
  split
  · exact agrees
  · dsimp only
    split
    · rw [emit_state]
      exact agrees
    · rw [emit_state]
      exact agrees

theorem step_agrees (agrees : Agrees store.state) (moved : store.step label = some (next, event)) :
    Agrees next.state := by
  have kind := step_moves moved
  generalize reached : (next, event) = result at kind
  obtain rfl : next = result.1 := congrArg Prod.fst reached
  cases kind with
  | subscribe listener supply =>
    unfold RealtimeStream.subscribe
    dsimp only
    split
    · refine openPair_agrees _ ?_
      exact agrees
    · exact agrees
  | unsubscribe listener =>
    unfold RealtimeStream.unsubscribe
    dsimp only
    split
    · exact dispose_agrees
    · exact agrees
  | dispose => exact dispose_agrees
  | returned continuation rest stacked =>
    rw [resume_state]
    exact agrees
  | delivered pair label result deliverer quiet handled result_eq =>
    rcases result_eq with rfl | rfl | rfl | ⟨message, rfl⟩
    · exact agrees
    · unfold RealtimeStream.opened
      split
      · exact agrees
      · rw [emit_state]
        exact agrees
    · exact fail_agrees agrees
    · unfold RealtimeStream.receive
      split
      · exact agrees
      · cases message with
        | viewport snapshot =>
          have published : Agrees (store.publish snapshot).state := by
            unfold RealtimeStream.publish
            rw [emit_state]
            rfl
          exact published
        | error => exact fail_agrees agrees
        | unread => exact agrees
  | fired timer supply quiet pending =>
    unfold RealtimeStream.retry
    dsimp only
    split
    · exact agrees
    split
    · refine openPair_agrees _ ?_
      exact agrees
    · exact agrees

/-- In every reachable state the store is one that an observer can read as a view. -/
theorem agrees_path (path : Path RealtimeStream.step anyLabel new trace store) : Agrees store.state :=
  path.preserves (fun reached : RealtimeStream => Agrees reached.state)
    (fun _ _ _ _ agrees _ moved => step_agrees agrees moved) rfl

end RealtimeStream

/-- What the coordinator reads of a realtime store. -/
def RealtimeStream.view {trace : RealtimeStreamTrace} {store : RealtimeStream}
    (path : Path RealtimeStream.step anyLabel .new trace store) : RealtimeView :=
  ⟨store.state.streamId, store.state.snapshot, agrees_path path⟩

open RealtimeStream

/-- The pipeline after a run, and whatever runs may follow along steps that are `allowed`. -/
structure PipelineBounded (allowed : RealtimeStream → RealtimeStreamLabel → Prop)
    (trace : RealtimeStreamTrace) (store : RealtimeStream) : Prop where
  single : store.live.length ≤ 1 ∧ store.timers.length ≤ 1
  /-- An event of a released pair changes nothing. -/
  stale : ∀ label pair next event, label.deliverer = some pair → pair ∉ store.live →
    step store label = some (next, event) → next = store ∧ event = none
  /-- After a release, as long as nobody subscribes, nothing is created and nothing pends. -/
  final : ∀ label next back final, allowed store label → step store label = some (next, some .released) →
    Path step allowed next back final → (∀ entry ∈ back, entry.1.isSubscribe = false) →
      final.live = [] ∧ final.timers = [] ∧ ∀ entry ∈ back, entry.2 ≠ some .created
  /-- At most six pairs between two opens, and then closed until every subscriber has left. -/
  six : trace.spent ≤ 6
  exhausted : ∀ label next, trace.spent = 6 → step store label = some (next, some .failed) →
    next.state.connection = .closed
  closed : ∀ back final, store.state.connection = .closed → Path step allowed store back final →
    (∀ entry ∈ back, entry.2 ≠ some .released) →
      final.state.connection = .closed ∧ ∀ entry ∈ back, entry.2 ≠ some .created
  left : ∀ label next, step store label = some (next, some .released) → store.releases label = true

/-- As long as no listener releases the pipeline while it is told of a retry, the pipeline is
single and bounded. -/
theorem realtimeStream_bounded {trace : RealtimeStreamTrace} {store : RealtimeStream}
    (path : Path step undisturbed .new trace store) : PipelineBounded undisturbed trace store := by
  obtain ⟨sound, budget⟩ := sound_path path
  constructor
  · rw [sound.live, sound.timers]
    exact ⟨Option.length_toList_le, Option.length_toList_le⟩
  · exact fun label pair next event deliverer gone moved => sound.released_silent deliverer gone moved
  · intro label next back final calm moved later unsubscribed
    have idle : next.state.connection = .idle := by
      rw [(step_moves moved).released.2]
      rfl
    obtain ⟨soundly, still, nothing⟩ := (sound.step calm moved).stays_idle idle later unsubscribed
    obtain ⟨unpaired, untimed⟩ := soundly.idle_parked still
    obtain ⟨dead, quiet⟩ := soundly.parked unpaired untimed
    exact ⟨dead, quiet, nothing⟩
  · have attempts := budget.attempts
    have paired := budget.paired
    omega
  · intro label next all moved
    rw [all] at budget
    exact budget.exhausted moved
  · exact fun back final closed later attended => (sound.stays_closed closed later attended).2
  · exact fun label next moved => (step_moves moved).released.1

/-- A pair drops, and the last subscriber leaves while it is told of the retry. -/
def leavingSchedule : List RealtimeStreamLabel :=
  [.subscribe 0 ⟨true, true⟩, .returned, .socketClosed 1, .unsubscribe 0, .returned]

/-- The retry timer is set after the store was released, and pends although nobody uses it. -/
theorem realtimeStream_timer_left : ¬ ∀ trace store, Path step anyLabel .new trace store →
    PipelineBounded anyLabel trace store := by
  intro bounded
  have followed : follow step .new leavingSchedule = some (_,
      [(.subscribe 0 ⟨true, true⟩, some .created), (.returned, none), (.socketClosed 1, some .failed)] ++
        (.unsubscribe 0, some .released) :: [(.returned, none)]) := rfl
  have path := Path.of_follow (fun _ _ _ => trivial : ∀ label ∈ leavingSchedule, ∀ reached, anyLabel reached label)
    followed
  obtain ⟨before, after, prior, _, moved, rest⟩ := path.at_label
  have quiet := (bounded _ _ prior).final _ _ _ _ trivial moved rest (by decide)
  exact absurd quiet.2.1 (by decide)

/-- A drop, its retry on time, and the departure of the only subscriber afterwards. -/
def recoveredSchedule : List RealtimeStreamLabel :=
  [.subscribe 0 ⟨true, true⟩, .returned, .socketClosed 1, .returned, .timerFired 0 ⟨true, true⟩,
    .returned, .socketOpened 3, .returned, .unsubscribe 0]

/-- Decides `undisturbed`. -/
def isUndisturbed (store : RealtimeStream) (label : RealtimeStreamLabel) : Bool :=
  !store.stack.contains .schedule || !store.releases label

theorem realtimeStream_bounded_recovered : ∃ trace store, Path step undisturbed .new trace store ∧
    PipelineBounded undisturbed trace store ∧ store.generation = 4 := by
  have sound : ∀ store label, isUndisturbed store label = true → undisturbed store label := by
    intro store label passed scheduling
    simpa [isUndisturbed, scheduling] using passed
  have evaluated : (followWithin step isUndisturbed .new recoveredSchedule).map
      (fun reached : RealtimeStream × RealtimeStreamTrace => reached.1.generation) = some 4 := by decide
  obtain ⟨trace, store, path, seen⟩ := Path.observedWithin _ _ _ sound evaluated
  exact ⟨trace, store, path, realtimeStream_bounded path, seen⟩

end CanX.Desktop
