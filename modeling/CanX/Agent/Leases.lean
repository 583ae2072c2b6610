import CanX.Agent.Orchestration

/-! What a plan and the integration gate guarantee of two tasks whose conflict is not auto-resolvable: the later one
waits until the earlier one has landed. -/

namespace CanX.Agent

open Dbc (CodePoint Text codePoint text)

variable {config : AgentConfig} {tasks : List TaskContract} {first second task : TaskContract}
variable {order : List Text} {made : OrchestrationPlan}

/-- A conflict of two different tasks that needs a serial review. -/
def Blocking (config : AgentConfig) (first second : TaskContract) : Prop :=
  first.taskId ≠ second.taskId ∧ (classifyPair first second config).autoResolvable = false

instance : Decidable (Blocking config first second) := by
  unfold Blocking
  infer_instance

theorem Blocking.symm (blocking : Blocking config first second) : Blocking config second first :=
  ⟨blocking.1.symm, autoResolvable_comm.trans blocking.2⟩

private theorem pair_sublist (inFirst : first ∈ tasks) (inSecond : second ∈ tasks) (apart : first ≠ second) :
    List.Sublist [first, second] tasks ∨ List.Sublist [second, first] tasks := by
  induction tasks with
  | nil => cases inFirst
  | cons head rest ih =>
    rcases List.mem_cons.mp inFirst with rfl | firstLater
    · have later := (List.mem_cons.mp inSecond).resolve_left (Ne.symm apart)
      exact .inl ((List.singleton_sublist.mpr later).cons_cons _)
    · rcases List.mem_cons.mp inSecond with rfl | secondLater
      · exact .inr ((List.singleton_sublist.mpr firstLater).cons_cons _)
      · exact (ih firstLater secondLater).imp (·.cons head) (·.cons head)

/-- The conflict of two tasks of a set is among the classified ones, one way round. -/
theorem classified (inFirst : first ∈ tasks) (inSecond : second ∈ tasks) (blocking : Blocking config first second) :
    ∃ conflict ∈ classifyAll config tasks, conflict.autoResolvable = false ∧
      (conflict.left = first.taskId ∧ conflict.right = second.taskId ∨
        conflict.left = second.taskId ∧ conflict.right = first.taskId) := by
  have apart : first ≠ second := fun same => blocking.1 (same ▸ rfl)
  rcases pair_sublist inFirst inSecond apart with sub | sub
  · exact ⟨_, mem_classifyAll.mpr ⟨first, second, sub, rfl⟩, blocking.2, .inl classifyPair_ids⟩
  · exact ⟨_, mem_classifyAll.mpr ⟨second, first, sub, rfl⟩, blocking.symm.2, .inr classifyPair_ids⟩

theorem earlierAndLater_of_lt {conflict : PairConflict}
    (named : conflict.left = first.taskId ∧ conflict.right = second.taskId ∨
      conflict.left = second.taskId ∧ conflict.right = first.taskId)
    (earlier : order.idxOf first.taskId < order.idxOf second.taskId) :
    earlierAndLater conflict order = (first.taskId, second.taskId) := by
  unfold earlierAndLater
  rcases named with ⟨left, right⟩ | ⟨left, right⟩
  · rw [left, right, if_pos earlier.le]
  · rw [left, right, if_neg (Nat.not_le.mpr earlier)]

/-- The later of two conflicting tasks is runnable only once the earlier one has landed. -/
theorem owner_done (distinct : (tasks.map TaskContract.taskId).Nodup) (inFirst : first ∈ tasks)
    (inSecond : second ∈ tasks) (blocking : Blocking config first second)
    (earlier : order.idxOf first.taskId < order.idxOf second.taskId)
    (runnable : second.taskId ∈ (planOver ⟨tasks⟩ order config).runnableIds) : first.status = .done := by
  obtain ⟨conflict, member, unresolved, named⟩ := classified inFirst inSecond blocking
  have pair := earlierAndLater_of_lt named earlier
  obtain ⟨candidate, _⟩ := mem_runnableIds.mp runnable
  obtain ⟨_, undeferred, unflagged⟩ := of_decide_eq_true (List.mem_filter.mp candidate).2
  have free (kind : TaskStatus → Bool)
      (none : ownersOf ⟨tasks⟩ (classifyAll config tasks) order kind second.taskId = []) :
      kind ((TaskGraph.mk tasks).statusOf first.taskId) = false := by
    by_contra held
    have owner : first.taskId ∈ ownersOf ⟨tasks⟩ (classifyAll config tasks) order kind second.taskId := by
      refine List.mem_map.mpr ⟨conflict, List.mem_filter.mpr ⟨member, ?_⟩, congrArg Prod.fst pair⟩
      simpa [unresolved, pair] using held
    rw [none] at owner
    cases owner
  have landed := (released_iff _).mp ⟨free _ undeferred, free _ unflagged⟩
  rw [statusOf_of_mem distinct inFirst] at landed
  exact (readiness_started (by decide)).mp landed

/-- A runnable task has not started. -/
theorem runnable_ready {taskId : Text} (runnable : taskId ∈ (planOver ⟨tasks⟩ order config).runnableIds) :
    (TaskGraph.mk tasks).statusOf taskId = .ready := by
  obtain ⟨candidate, _⟩ := mem_runnableIds.mp runnable
  exact (of_decide_eq_true (List.mem_filter.mp candidate).2).1

theorem mem_order (distinct : (tasks.map TaskContract.taskId).Nodup)
    (ordered : (TaskGraph.mk tasks).integrationOrder config = .ok order) (member : task ∈ tasks) : task.taskId ∈ order :=
  (orderedIds_perm distinct ordered).mem_iff.mpr (List.mem_map_of_mem member)

/-- Of two tasks one comes first. -/
theorem order_total (distinct : (tasks.map TaskContract.taskId).Nodup)
    (ordered : (TaskGraph.mk tasks).integrationOrder config = .ok order) (inFirst : first ∈ tasks)
    (apart : first.taskId ≠ second.taskId) :
    order.idxOf first.taskId < order.idxOf second.taskId ∨ order.idxOf second.taskId < order.idxOf first.taskId := by
  refine Nat.lt_or_gt_of_ne fun same => apart ?_
  exact (List.idxOf_inj (mem_order distinct ordered inFirst)).mp same

/-- A plan never names both of two conflicting tasks. -/
theorem runnable_exclusive (planned : plan tasks config = .ok made) (inFirst : first ∈ tasks) (inSecond : second ∈ tasks)
    (blocking : Blocking config first second) :
    ¬(first.taskId ∈ made.runnableIds ∧ second.taskId ∈ made.runnableIds) := by
  obtain ⟨order, distinct, ordered, rfl⟩ := plan_ok planned
  have once : (TaskGraph.mk tasks).ids.Nodup := distinct
  have undone (task : TaskContract) (member : task ∈ tasks)
      (named : task.taskId ∈ (planOver ⟨tasks⟩ order config).runnableIds) : task.status ≠ .done := by
    intro landed
    have derived : (TaskGraph.mk tasks).statusOf task.taskId = .done :=
      (statusOf_of_mem once member).trans ((readiness_started (by decide)).mpr landed)
    rw [runnable_ready named] at derived
    cases derived
  rintro ⟨namedFirst, namedSecond⟩
  rcases order_total distinct ordered inFirst blocking.1 with earlier | later
  · exact undone first inFirst namedFirst (owner_done distinct inFirst inSecond blocking earlier namedSecond)
  · exact undone second inSecond namedSecond (owner_done distinct inSecond inFirst blocking.symm later namedFirst)

/-- At most one of two conflicting tasks passes the gate before either has landed. -/
theorem gate_exclusive (planned : plan tasks config = .ok made) (inFirst : first ∈ tasks) (inSecond : second ∈ tasks)
    (blocking : Blocking config first second) (unlanded : first.status ≠ .done ∧ second.status ≠ .done) :
    ¬(passesConflictGate made first.taskId = true ∧ passesConflictGate made second.taskId = true) := by
  obtain ⟨order, distinct, ordered, rfl⟩ := plan_ok planned
  have stopped (early late : TaskContract) (inEarly : early ∈ tasks) (inLate : late ∈ tasks)
      (pair : Blocking config early late) (waiting : early.status ≠ .done)
      (earlier : order.idxOf early.taskId < order.idxOf late.taskId) :
      passesConflictGate (planOver ⟨tasks⟩ order config) late.taskId = false := by
    obtain ⟨conflict, member, unresolved, named⟩ := classified inEarly inLate pair
    have status : ((planOver ⟨tasks⟩ order config).entries.find? (·.taskId = early.taskId)).map TaskPlanEntry.status ≠
        some .done := by
      intro found
      obtain ⟨entry, here, done⟩ := Option.map_eq_some_iff.mp found
      obtain ⟨taskId, _, rfl⟩ := List.mem_map.mp (List.mem_of_find?_eq_some here)
      have same : taskId = early.taskId := by simpa using List.find?_some here
      have landed : (TaskGraph.mk tasks).statusOf taskId = .done := done
      rw [same, statusOf_of_mem distinct inEarly] at landed
      exact waiting ((readiness_started (by decide)).mp landed)
    have blocked : early.taskId ∈ waitingOn (planOver ⟨tasks⟩ order config) late.taskId := by
      refine List.mem_filter.mpr ⟨List.mem_map.mpr ⟨conflict, List.mem_filter.mpr ⟨?_, ?_⟩, ?_⟩,
        decide_eq_true ⟨status, earlier⟩⟩
      · exact List.mem_filter.mpr ⟨member, by simp [unresolved]⟩
      · rcases named with ⟨left, right⟩ | ⟨left, right⟩ <;> simp [left, right]
      · rcases named with ⟨left, right⟩ | ⟨left, right⟩
        · rw [left, if_neg pair.1]
        · rw [left, if_pos rfl, right]
    refine decide_eq_false fun none => ?_
    rw [none] at blocked
    cases blocked
  rintro ⟨passesFirst, passesSecond⟩
  rcases order_total distinct ordered inFirst blocking.1 with earlier | later
  · rw [stopped first second inFirst inSecond blocking unlanded.1 earlier] at passesSecond
    cases passesSecond
  · rw [stopped second first inSecond inFirst blocking.symm unlanded.2 later] at passesFirst
    cases passesFirst

end CanX.Agent
