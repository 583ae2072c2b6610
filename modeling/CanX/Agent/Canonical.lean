import CanX.Agent.Ownership

/-! The orders and the plan of a set of tasks: when there are any, that they do not depend on how the tasks are listed,
and that some task can always go on. -/

namespace CanX.Agent

open Dbc (CodePoint Text codePoint text)

/-- Tasks under well-formed distinct identities whose dependencies are other tasks of the set. -/
structure WellFormed (tasks : List TaskContract) : Prop where
  named : ∀ task ∈ tasks, isTaskId task.taskId = true
  distinct : (tasks.map TaskContract.taskId).Nodup
  known : ∀ task ∈ tasks, ∀ dependency ∈ task.dependencies,
    dependency ≠ task.taskId ∧ dependency ∈ tasks.map TaskContract.taskId

/-- The task of the first identity names the second one. -/
def DependsOn (tasks : List TaskContract) (first second : Text) : Prop :=
  ∃ task ∈ tasks, task.taskId = first ∧ second ∈ task.dependencies

def HasCycle (tasks : List TaskContract) : Prop := ∃ taskId, Relation.TransGen (DependsOn tasks) taskId taskId

/-- Every task once, behind its dependencies. -/
def Linearises (tasks : List TaskContract) (order : List Text) : Prop :=
  order.Perm (tasks.map TaskContract.taskId) ∧
    ∀ task ∈ tasks, ∀ dependency ∈ task.dependencies, order.idxOf dependency < order.idxOf task.taskId

section Building

variable {tasks : List TaskContract} {seen : List Text}

private theorem checkIds_ok (named : ∀ task ∈ tasks, isTaskId task.taskId = true)
    (distinct : (tasks.map TaskContract.taskId).Nodup) (fresh : ∀ task ∈ tasks, task.taskId ∉ seen) :
    TaskGraph.checkIds seen tasks = .ok () := by
  induction tasks generalizing seen with
  | nil => rfl
  | cons task rest ih =>
    obtain ⟨apart, others⟩ := List.nodup_cons.mp distinct
    have own : ¬isTaskId task.taskId = false := by simp [named task List.mem_cons_self]
    have later : ∀ other ∈ rest, other.taskId ∉ task.taskId :: seen := by
      intro other member known
      rcases List.mem_cons.mp known with same | old
      · exact apart (same ▸ List.mem_map_of_mem member)
      · exact fresh other (List.mem_cons_of_mem _ member) old
    rw [TaskGraph.checkIds, refuseIf, refuseIf, if_neg own, if_neg (fresh task List.mem_cons_self)]
    exact ih (fun other member => named other (List.mem_cons_of_mem _ member)) others later

private theorem checkDependencies_ok {task : TaskContract} {dependencies : List Text}
    (known : ∀ dependency ∈ dependencies, dependency ≠ task.taskId ∧ dependency ∈ seen) :
    TaskGraph.checkDependencies seen task dependencies = .ok () := by
  induction dependencies with
  | nil => rfl
  | cons dependency rest ih =>
    obtain ⟨other, member⟩ := known dependency List.mem_cons_self
    rw [TaskGraph.checkDependencies, refuseIf, refuseIf, if_neg other, if_neg (not_not.mpr member)]
    exact ih fun later member => known later (List.mem_cons_of_mem _ member)

private theorem checkAllDependencies_ok (known : ∀ task ∈ tasks, ∀ dependency ∈ task.dependencies,
    dependency ≠ task.taskId ∧ dependency ∈ seen) : TaskGraph.checkAllDependencies seen tasks = .ok () := by
  induction tasks with
  | nil => rfl
  | cons task rest ih =>
    rw [TaskGraph.checkAllDependencies, checkDependencies_ok (known task List.mem_cons_self)]
    exact ih fun later member => known later (List.mem_cons_of_mem _ member)

/-- All that can still fail is the order. -/
theorem WellFormed.build (wellFormed : WellFormed tasks) : TaskGraph.build tasks =
    (TaskGraph.mk tasks).topologicalOrder.map fun _ => ⟨tasks⟩ := by
  have none : ∀ task ∈ tasks, task.taskId ∉ ([] : List Text) := fun _ _ => List.not_mem_nil
  rw [TaskGraph.build, checkIds_ok wellFormed.named wellFormed.distinct none,
    checkAllDependencies_ok wellFormed.known]
  cases (TaskGraph.mk tasks).topologicalOrder <;> rfl

end Building

section Orders

variable {tasks others : List TaskContract} {late : TaskContract → Bool} {config : AgentConfig} {order : List Text}

theorem find_eq_some (distinct : (tasks.map TaskContract.taskId).Nodup) {taskId : Text} {task : TaskContract} :
    (TaskGraph.mk tasks).find taskId = some task ↔ task ∈ tasks ∧ task.taskId = taskId := by
  constructor
  · exact find_mem
  · rintro ⟨member, rfl⟩
    exact find_of_mem distinct member

theorem mem_dependenciesOf (distinct : (tasks.map TaskContract.taskId).Nodup) {taskId dependency : Text} :
    dependency ∈ (TaskGraph.mk tasks).dependenciesOf taskId ↔ DependsOn tasks taskId dependency := by
  unfold TaskGraph.dependenciesOf
  cases found : (TaskGraph.mk tasks).find taskId with
  | none =>
    have absent : ¬DependsOn tasks taskId dependency := by
      rintro ⟨task, member, named, _⟩
      rw [(find_eq_some distinct).mpr ⟨member, named⟩] at found
      cases found
    simpa using absent
  | some task =>
    obtain ⟨member, named⟩ := find_mem found
    constructor
    · exact fun needed => ⟨task, member, named, needed⟩
    · rintro ⟨other, inside, same, needed⟩
      have again := (find_eq_some distinct).mpr ⟨inside, same⟩
      obtain rfl := Option.some.inj (found.symm.trans again)
      exact needed

private theorem cyclic_iff (distinct : (tasks.map TaskContract.taskId).Nodup) :
    Kahn.Cyclic (TaskGraph.mk tasks).dependenciesOf ↔ HasCycle tasks := by
  have same : (fun taskId dependency => dependency ∈ (TaskGraph.mk tasks).dependenciesOf taskId) = DependsOn tasks := by
    funext taskId dependency
    exact propext (mem_dependenciesOf distinct)
  rw [Kahn.Cyclic, same, HasCycle]

private theorem orderedIds_ok (ordered : (TaskGraph.mk tasks).orderedIds late = .ok order) :
    order = Kahn.order (TaskGraph.mk tasks).ids (TaskGraph.mk tasks).dependenciesOf
      ((TaskGraph.mk tasks).precedesBy late) := by
  unfold TaskGraph.orderedIds at ordered
  dsimp only at ordered
  split at ordered
  · cases ordered
  · exact (Except.ok.inj ordered).symm

/-- There is an order exactly where there is no cycle. -/
theorem WellFormed.ordered_iff (wellFormed : WellFormed tasks) :
    (∃ order, (TaskGraph.mk tasks).orderedIds late = .ok order) ↔ ¬HasCycle tasks := by
  have known : ∀ taskId ∈ (TaskGraph.mk tasks).ids,
      ∀ dependency ∈ (TaskGraph.mk tasks).dependenciesOf taskId, dependency ∈ (TaskGraph.mk tasks).ids := by
    intro taskId _ dependency needed
    obtain ⟨task, member, _, named⟩ := (mem_dependenciesOf wellFormed.distinct).mp needed
    exact (wellFormed.known task member dependency named).2
  have outside : ∀ taskId, taskId ∉ (TaskGraph.mk tasks).ids → (TaskGraph.mk tasks).dependenciesOf taskId = [] := by
    intro taskId absent
    refine List.eq_nil_iff_forall_not_mem.mpr fun dependency needed => absent ?_
    obtain ⟨task, member, rfl, _⟩ := (mem_dependenciesOf wellFormed.distinct).mp needed
    exact List.mem_map_of_mem member
  have complete : (Kahn.order (TaskGraph.mk tasks).ids (TaskGraph.mk tasks).dependenciesOf
      ((TaskGraph.mk tasks).precedesBy late)).length = (TaskGraph.mk tasks).ids.length ↔
        ¬Kahn.Cyclic (TaskGraph.mk tasks).dependenciesOf :=
    Kahn.order_complete_iff wellFormed.distinct known outside
  rw [cyclic_iff wellFormed.distinct, TaskGraph.ids, List.length_map] at complete
  rw [← complete]
  unfold TaskGraph.orderedIds
  dsimp only
  constructor
  · rintro ⟨order, ordered⟩
    split at ordered
    · cases ordered
    · exact not_not.mp ‹_›
  · intro all
    exact ⟨_, if_neg (not_not.mpr all)⟩

/-- An order that fails, fails for a cycle. -/
theorem orderedIds_error {error : AgentError} (failed : (TaskGraph.mk tasks).orderedIds late = .error error) :
    error = dagCycle := by
  unfold TaskGraph.orderedIds at failed
  dsimp only at failed
  split at failed
  · exact (Except.error.inj failed).symm
  · cases failed

theorem WellFormed.linearises (wellFormed : WellFormed tasks)
    (ordered : (TaskGraph.mk tasks).orderedIds late = .ok order) : Linearises tasks order := by
  have all := orderedIds_perm wellFormed.distinct ordered
  refine ⟨all, fun task member dependency needed => ?_⟩
  obtain ⟨_, _, respects⟩ : ∃ final, Kahn.Queued (TaskGraph.mk tasks).ids (TaskGraph.mk tasks).dependenciesOf final []
      (Kahn.order (TaskGraph.mk tasks).ids (TaskGraph.mk tasks).dependenciesOf ((TaskGraph.mk tasks).precedesBy late)) ∧
      Kahn.Respects (TaskGraph.mk tasks).dependenciesOf
        (Kahn.order (TaskGraph.mk tasks).ids (TaskGraph.mk tasks).dependenciesOf
          ((TaskGraph.mk tasks).precedesBy late)) := Kahn.order_done wellFormed.distinct
  rw [← orderedIds_ok ordered] at respects
  have before := respects task.taskId (all.mem_iff.mpr (List.mem_map_of_mem member)) dependency
    ((mem_dependenciesOf wellFormed.distinct).mpr ⟨task, member, rfl, needed⟩)
  have same : (instBEqOfDecidableEq : BEq Text) = List.instBEq := lawful_beq_subsingleton _ _
  rw [same] at before
  exact before

end Orders

/-! How the tasks are listed makes no difference. -/

section Listings

variable {tasks others : List TaskContract} {graph : TaskGraph} {late : TaskContract → Bool} {config : AgentConfig}
variable {order : List Text} {first second : TaskContract} {owner taskId : Text} {kind : TaskStatus → Bool}

instance : Std.Total (graph.precedesBy late) where
  total first second := by
    unfold TaskGraph.precedesBy
    dsimp only
    cases ((graph.find first).map late).getD false <;> cases ((graph.find second).map late).getD false <;>
      simp [le_total]

instance : IsTrans Text (graph.precedesBy late) where
  trans first second third := by
    unfold TaskGraph.precedesBy
    dsimp only
    rintro (⟨early, last⟩ | ⟨same, before⟩) (⟨early', last'⟩ | ⟨same', before'⟩)
    · rw [last] at early'
      cases early'
    · exact .inl ⟨early, same' ▸ last⟩
    · exact .inl ⟨same ▸ early', last'⟩
    · exact .inr ⟨same.trans same', before.trans before'⟩

instance : Std.Antisymm (graph.precedesBy late) where
  antisymm first second := by
    unfold TaskGraph.precedesBy
    dsimp only
    rintro (⟨early, last⟩ | ⟨same, before⟩) (⟨early', last'⟩ | ⟨same', before'⟩)
    · rw [last] at early'
      cases early'
    · rw [early, last] at same'
      cases same'
    · rw [early', last'] at same
      cases same
    · exact le_antisymm before before'

theorem find_listing (same : tasks.Perm others) (distinct : (tasks.map TaskContract.taskId).Nodup) :
    (TaskGraph.mk tasks).find = (TaskGraph.mk others).find := by
  have again := (same.map TaskContract.taskId).nodup_iff.mp distinct
  funext taskId
  refine Option.ext fun task => ?_
  rw [find_eq_some distinct, find_eq_some again, same.mem_iff]

theorem orderedIds_listing (same : tasks.Perm others) (distinct : (tasks.map TaskContract.taskId).Nodup) :
    (TaskGraph.mk tasks).orderedIds late = (TaskGraph.mk others).orderedIds late := by
  have found := find_listing same distinct
  have dependencies : (TaskGraph.mk tasks).dependenciesOf = (TaskGraph.mk others).dependenciesOf := by
    funext taskId
    rw [TaskGraph.dependenciesOf, TaskGraph.dependenciesOf, found]
  have before : (TaskGraph.mk tasks).precedesBy late = (TaskGraph.mk others).precedesBy late := by
    funext first second
    rw [TaskGraph.precedesBy, TaskGraph.precedesBy, found]
  have listed : Kahn.order (TaskGraph.mk tasks).ids (TaskGraph.mk tasks).dependenciesOf
      ((TaskGraph.mk tasks).precedesBy late) = Kahn.order (TaskGraph.mk others).ids
        (TaskGraph.mk others).dependenciesOf ((TaskGraph.mk others).precedesBy late) := by
    have reordered : Kahn.order (TaskGraph.mk tasks).ids (TaskGraph.mk tasks).dependenciesOf
        ((TaskGraph.mk tasks).precedesBy late) = Kahn.order (TaskGraph.mk others).ids
          (TaskGraph.mk tasks).dependenciesOf ((TaskGraph.mk tasks).precedesBy late) :=
      Kahn.order_perm (same.map TaskContract.taskId) distinct
    rw [reordered, dependencies]
    exact Kahn.order_congr before
  unfold TaskGraph.orderedIds
  dsimp only
  rw [listed, same.length_eq]

theorem statusOf_listing (same : tasks.Perm others) (distinct : (tasks.map TaskContract.taskId).Nodup) :
    (TaskGraph.mk tasks).statusOf = (TaskGraph.mk others).statusOf := by
  have found := find_listing same distinct
  have done : (TaskGraph.mk tasks).isDone = (TaskGraph.mk others).isDone := by
    funext taskId
    rw [TaskGraph.isDone, TaskGraph.isDone, found]
  have readiness : (TaskGraph.mk tasks).readiness = (TaskGraph.mk others).readiness := by
    funext task
    rw [TaskGraph.readiness, TaskGraph.readiness, TaskGraph.unsatisfiedDependencies, TaskGraph.unsatisfiedDependencies,
      TaskGraph.dependenciesOf, TaskGraph.dependenciesOf, found, done]
  funext taskId
  rw [TaskGraph.statusOf, TaskGraph.statusOf, found, readiness]

/-- The owners that a task waits for are the earlier ones of its conflicts. -/
theorem mem_ownersOf (distinct : (tasks.map TaskContract.taskId).Nodup)
    (ordered : (TaskGraph.mk tasks).integrationOrder config = .ok order) :
    owner ∈ ownersOf ⟨tasks⟩ (classifyAll config tasks) order kind taskId ↔
      ∃ first ∈ tasks, ∃ second ∈ tasks, Blocking config first second ∧ first.taskId = owner ∧
        second.taskId = taskId ∧ order.idxOf first.taskId < order.idxOf second.taskId ∧
          kind ((TaskGraph.mk tasks).statusOf first.taskId) = true := by
  constructor
  · intro member
    obtain ⟨conflict, kept, rfl⟩ := List.mem_map.mp member
    obtain ⟨inside, test⟩ := List.mem_filter.mp kept
    obtain ⟨left, right, sub, rfl⟩ := mem_classifyAll.mp inside
    simp only [Bool.and_eq_true, Bool.not_eq_true', decide_eq_true_eq] at test
    obtain ⟨⟨unresolved, waiter⟩, held⟩ := test
    have apart : left.taskId ≠ right.taskId := by
      have both := (sub.map TaskContract.taskId).nodup distinct
      simpa using both
    have inLeft : left ∈ tasks := sub.subset List.mem_cons_self
    have inRight : right ∈ tasks := sub.subset (List.mem_cons_of_mem _ List.mem_cons_self)
    have blocking : Blocking config left right := ⟨apart, unresolved⟩
    rcases order_total distinct ordered inLeft apart with earlier | later
    · rw [earlierAndLater_of_lt (.inl classifyPair_ids) earlier] at waiter held ⊢
      exact ⟨left, inLeft, right, inRight, blocking, rfl, waiter, earlier, held⟩
    · rw [earlierAndLater_of_lt (.inr classifyPair_ids) later] at waiter held ⊢
      exact ⟨right, inRight, left, inLeft, blocking.symm, rfl, waiter, later, held⟩
  · rintro ⟨first, inFirst, second, inSecond, blocking, rfl, rfl, earlier, held⟩
    obtain ⟨conflict, member, unresolved, named⟩ := classified inFirst inSecond blocking
    have pair := earlierAndLater_of_lt named earlier
    refine List.mem_map.mpr ⟨conflict, List.mem_filter.mpr ⟨member, ?_⟩, congrArg Prod.fst pair⟩
    simpa [unresolved, pair] using held

private theorem ownersOf_listing (same : tasks.Perm others) (distinct : (tasks.map TaskContract.taskId).Nodup)
    (ordered : (TaskGraph.mk tasks).integrationOrder config = .ok order) :
    owner ∈ ownersOf ⟨tasks⟩ (classifyAll config tasks) order kind taskId ↔
      owner ∈ ownersOf ⟨others⟩ (classifyAll config others) order kind taskId := by
  have again := (same.map TaskContract.taskId).nodup_iff.mp distinct
  have reordered : (TaskGraph.mk others).integrationOrder config = .ok order :=
    (orderedIds_listing same distinct).symm.trans ordered
  rw [mem_ownersOf distinct ordered, mem_ownersOf again reordered, statusOf_listing same distinct]
  simp only [same.mem_iff]

private theorem sortedSet_congr {values again : List Text} (same : ∀ value, value ∈ values ↔ value ∈ again) :
    sortedSet values = sortedSet again := by
  refine Kahn.insertionSort_perm ((List.perm_ext_iff_of_nodup (List.nodup_dedup _) (List.nodup_dedup _)).mpr ?_)
  intro value
  rw [List.mem_dedup, List.mem_dedup, same]

private theorem empty_congr {values again : List Text} (same : ∀ value, value ∈ values ↔ value ∈ again) :
    values = [] ↔ again = [] := by
  rw [List.eq_nil_iff_forall_not_mem, List.eq_nil_iff_forall_not_mem]
  exact forall_congr' fun value => not_congr (same value)

/-- A plan says the same of a task wherever the task is listed. -/
theorem planOver_listing (same : tasks.Perm others) (distinct : (tasks.map TaskContract.taskId).Nodup)
    (ordered : (TaskGraph.mk tasks).integrationOrder config = .ok order) :
    (planOver ⟨tasks⟩ order config).entries = (planOver ⟨others⟩ order config).entries := by
  have status := statusOf_listing same distinct
  have owners (kind : TaskStatus → Bool) (taskId : Text) (owner : Text) :
      owner ∈ ownersOf ⟨tasks⟩ (classifyAll config tasks) order kind taskId ↔
        owner ∈ ownersOf ⟨others⟩ (classifyAll config others) order kind taskId := ownersOf_listing same distinct ordered
  have active : activeIds ⟨tasks⟩ order = activeIds ⟨others⟩ order := by
    rw [activeIds, activeIds, status]
  have listed : candidates ⟨tasks⟩ (classifyAll config tasks) order =
      candidates ⟨others⟩ (classifyAll config others) order := by
    refine List.filter_congr fun taskId _ => decide_eq_decide.mpr ?_
    rw [status, deferred, deferred, empty_congr (owners _ taskId), replan, replan, empty_congr (owners _ taskId)]
  refine List.map_congr_left fun taskId _ => ?_
  simp only [active, listed, status, find_listing same distinct, deferred, replan, sortedSet_congr (owners _ taskId)]

end Listings

/-! Where no task has started or failed, the first one that has not landed may start. -/

section Progress

variable {tasks : List TaskContract} {config : AgentConfig} {order : List Text} {task : TaskContract}

/-- No task has started, and none has ended but by landing. -/
def AtRest (tasks : List TaskContract) : Prop :=
  ∀ task ∈ tasks, task.status ∈ [TaskStatus.planned, .ready, .blocked, .done]

/-- Everything that comes before a task has landed. -/
def Clear (tasks : List TaskContract) (order : List Text) (task : TaskContract) : Prop :=
  ∀ other ∈ tasks, order.idxOf other.taskId < order.idxOf task.taskId → other.status = .done

theorem exists_clear (undone : ∃ task ∈ tasks, task.status ≠ .done) (order : List Text) :
    ∃ task ∈ tasks, task.status ≠ .done ∧ Clear tasks order task := by
  obtain ⟨task, member, waiting⟩ := undone
  obtain ⟨first, ⟨inside, open_⟩, least⟩ := (measure fun task : TaskContract => order.idxOf task.taskId).wf.has_min
    {task | task ∈ tasks ∧ task.status ≠ .done} ⟨task, member, waiting⟩
  refine ⟨first, inside, open_, fun other known earlier => ?_⟩
  by_contra unlanded
  exact least other ⟨known, unlanded⟩ earlier

private theorem statusOf_done (distinct : (tasks.map TaskContract.taskId).Nodup) (member : task ∈ tasks)
    (done : task.status = .done) : (TaskGraph.mk tasks).statusOf task.taskId = .done := by
  have status : (TaskGraph.mk tasks).statusOf task.taskId = (TaskGraph.mk tasks).readiness task :=
    statusOf_of_mem distinct member
  rw [status]
  exact (readiness_started (by decide)).mpr done

theorem clear_ready (wellFormed : WellFormed tasks) (linear : Linearises tasks order) (atRest : AtRest tasks)
    (member : task ∈ tasks) (waiting : task.status ≠ .done) (clear : Clear tasks order task) :
    (TaskGraph.mk tasks).statusOf task.taskId = .ready := by
  have found : (TaskGraph.mk tasks).find task.taskId = some task := find_of_mem wellFormed.distinct member
  have satisfied : (TaskGraph.mk tasks).unsatisfiedDependencies task.taskId = [] := by
    refine List.filter_eq_nil_iff.mpr fun dependency needed => ?_
    rw [TaskGraph.dependenciesOf, found] at needed
    obtain ⟨other, inside, named⟩ := List.mem_map.mp (wellFormed.known task member dependency needed).2
    have landed := clear other inside (named ▸ linear.2 task member dependency needed)
    have known : (TaskGraph.mk tasks).find dependency = some other :=
      (find_eq_some wellFormed.distinct).mpr ⟨inside, named⟩
    simp [TaskGraph.isDone, known, landed]
  have unstarted : task.status = .planned ∨ task.status = .ready ∨ task.status = .blocked := by
    have status := atRest task member
    simp only [List.mem_cons, List.not_mem_nil, or_false] at status
    tauto
  have status : (TaskGraph.mk tasks).statusOf task.taskId = (TaskGraph.mk tasks).readiness task :=
    statusOf_of_mem wellFormed.distinct member
  rw [status, TaskGraph.readiness, if_pos unstarted, if_pos satisfied]

/-- A task that everything before has landed waits for no owner. -/
theorem clear_unowned (wellFormed : WellFormed tasks)
    (ordered : (TaskGraph.mk tasks).integrationOrder config = .ok order)
    (clear : Clear tasks order task) {kind : TaskStatus → Bool} (landed : kind .done = false) :
    ownersOf ⟨tasks⟩ (classifyAll config tasks) order kind task.taskId = [] := by
  refine List.eq_nil_iff_forall_not_mem.mpr fun owner owns => ?_
  obtain ⟨first, inFirst, second, inSecond, _, _, same, earlier, held⟩ :=
    (mem_ownersOf wellFormed.distinct ordered).mp owns
  have done := clear first inFirst (same ▸ earlier)
  rw [statusOf_done wellFormed.distinct inFirst done, landed] at held
  cases held

/-- Some candidate fits where no slot is taken. -/
theorem runnable_nonempty (distinct : order.Nodup) (idle : activeIds ⟨tasks⟩ order = [])
    (slots : 1 ≤ config.maxSubAgents)
    (some : candidates ⟨tasks⟩ (classifyAll config tasks) order ≠ []) :
    (planOver ⟨tasks⟩ order config).runnableIds ≠ [] := by
  have once : (candidates ⟨tasks⟩ (classifyAll config tasks) order).Nodup := distinct.filter _
  obtain ⟨first, rest, listed⟩ := List.exists_cons_of_ne_nil some
  obtain ⟨free, spare⟩ := Nat.exists_eq_add_of_le' slots
  have runnable : first ∈ (planOver ⟨tasks⟩ order config).runnableIds := by
    refine mem_runnableIds.mpr ⟨by rw [listed]; exact List.mem_cons_self, ?_⟩
    rw [listed] at once
    rw [idle, listed, spare]
    exact fun late => (List.nodup_cons.mp once).1 (List.mem_of_mem_drop late)
  exact List.ne_nil_of_mem runnable

theorem WellFormed.progress (wellFormed : WellFormed tasks) (slots : 1 ≤ config.maxSubAgents) (atRest : AtRest tasks)
    (undone : ∃ task ∈ tasks, task.status ≠ .done)
    (ordered : (TaskGraph.mk tasks).integrationOrder config = .ok order) :
    (planOver ⟨tasks⟩ order config).runnableIds ≠ [] := by
  have linear := wellFormed.linearises ordered
  obtain ⟨task, member, waiting, clear⟩ := exists_clear undone order
  have idle : activeIds ⟨tasks⟩ order = [] := by
    refine List.filter_eq_nil_iff.mpr fun taskId listed => ?_
    obtain ⟨other, inside, rfl⟩ := List.mem_map.mp (linear.1.mem_iff.mp listed)
    have status : (TaskGraph.mk tasks).statusOf other.taskId = (TaskGraph.mk tasks).readiness other :=
      statusOf_of_mem wellFormed.distinct inside
    have resting : other.status ≠ .inProgress := by
      intro running
      have listed := atRest other inside
      rw [running] at listed
      exact absurd listed (by decide)
    rw [status, occupiesSubAgentSlot, decide_eq_true_eq, readiness_started (by decide)]
    exact resting
  refine runnable_nonempty (linear.1.nodup_iff.mpr wellFormed.distinct) idle slots ?_
  refine List.ne_nil_of_mem (List.mem_filter.mpr ⟨mem_order wellFormed.distinct ordered member, decide_eq_true ?_⟩)
  exact ⟨clear_ready wellFormed linear atRest member waiting clear,
    clear_unowned wellFormed ordered clear rfl, clear_unowned wellFormed ordered clear rfl⟩

end Progress

theorem WellFormed.listing {tasks others : List TaskContract} (wellFormed : WellFormed tasks)
    (same : tasks.Perm others) : WellFormed others where
  named task member := wellFormed.named task (same.mem_iff.mpr member)
  distinct := (same.map TaskContract.taskId).nodup_iff.mp wellFormed.distinct
  known task member dependency needed := by
    obtain ⟨other, listed⟩ := wellFormed.known task (same.mem_iff.mpr member) dependency needed
    exact ⟨other, (same.map TaskContract.taskId).mem_iff.mp listed⟩

/-- What a plan tells the one who dispatches. -/
def OrchestrationPlan.verdict (plan : OrchestrationPlan) : List Text × List TaskPlanEntry × List Text :=
  (plan.integrationOrder, plan.entries, plan.runnableIds)

theorem WellFormed.plan {tasks : List TaskContract} {config : AgentConfig} (wellFormed : WellFormed tasks) :
    Agent.plan tasks config = ((TaskGraph.mk tasks).integrationOrder config).map fun order =>
      planOver ⟨tasks⟩ order config := by
  have both : (∃ order, (TaskGraph.mk tasks).topologicalOrder = .ok order) ↔
      ∃ order, (TaskGraph.mk tasks).integrationOrder config = .ok order :=
    wellFormed.ordered_iff.trans wellFormed.ordered_iff.symm
  rw [Agent.plan, wellFormed.build]
  cases topological : (TaskGraph.mk tasks).topologicalOrder with
  | ok order =>
    change ((TaskGraph.mk tasks).integrationOrder config >>= fun order => pure (planOver ⟨tasks⟩ order config)) = _
    cases (TaskGraph.mk tasks).integrationOrder config <;> rfl
  | error error =>
    cases integration : (TaskGraph.mk tasks).integrationOrder config with
    | ok order =>
      obtain ⟨_, ordered⟩ := both.mpr ⟨order, integration⟩
      rw [topological] at ordered
      cases ordered
    | error other =>
      rw [orderedIds_error topological, orderedIds_error integration]
      rfl

/-- Building fails exactly for a cycle; otherwise both orders linearise the tasks. A plan does not depend on how the
tasks are listed, and where no task has started or failed it lets some task start. -/
theorem plan_canonical {config : AgentConfig} {tasks : List TaskContract} (wellFormed : WellFormed tasks)
    (slots : 1 ≤ config.maxSubAgents) :
    (TaskGraph.build tasks = .error dagCycle ↔ HasCycle tasks) ∧
    (¬HasCycle tasks → TaskGraph.build tasks = .ok ⟨tasks⟩ ∧
      (∃ order, (TaskGraph.mk tasks).topologicalOrder = .ok order ∧ Linearises tasks order) ∧
      ∃ order, (TaskGraph.mk tasks).integrationOrder config = .ok order ∧ Linearises tasks order) ∧
    (∀ others, tasks.Perm others → (Agent.plan others config).map OrchestrationPlan.verdict =
      (Agent.plan tasks config).map OrchestrationPlan.verdict) ∧
    (¬HasCycle tasks → AtRest tasks → (∃ task ∈ tasks, task.status ≠ .done) →
      ∃ made, Agent.plan tasks config = .ok made ∧ made.runnableIds ≠ []) := by
  refine ⟨?_, fun acyclic => ?_, fun others same => ?_, fun acyclic atRest undone => ?_⟩
  · have ordered : (∃ order, (TaskGraph.mk tasks).topologicalOrder = .ok order) ↔ ¬HasCycle tasks :=
      wellFormed.ordered_iff
    rw [wellFormed.build, ← not_iff_not, ← ordered]
    cases topological : (TaskGraph.mk tasks).topologicalOrder with
    | ok order => simp [Except.map]
    | error error =>
      rw [orderedIds_error topological]
      simp [Except.map]
  · obtain ⟨order, topological⟩ := wellFormed.ordered_iff.mpr acyclic
    obtain ⟨merge, integration⟩ := wellFormed.ordered_iff.mpr acyclic
    refine ⟨?_, ⟨order, topological, wellFormed.linearises topological⟩,
      merge, integration, wellFormed.linearises integration⟩
    rw [wellFormed.build, TaskGraph.topologicalOrder, topological]
    rfl
  · have again := wellFormed.listing same
    have reordered : (TaskGraph.mk others).integrationOrder config = (TaskGraph.mk tasks).integrationOrder config :=
      (orderedIds_listing same wellFormed.distinct).symm
    rw [again.plan, wellFormed.plan, reordered]
    cases integration : (TaskGraph.mk tasks).integrationOrder config with
    | error error => rfl
    | ok order =>
      have entries := planOver_listing same wellFormed.distinct integration
      have verdict : (planOver ⟨others⟩ order config).verdict = (planOver ⟨tasks⟩ order config).verdict := by
        simp only [OrchestrationPlan.verdict, OrchestrationPlan.runnableIds, entries]
        rfl
      exact congrArg Except.ok verdict
  · obtain ⟨order, integration⟩ := wellFormed.ordered_iff.mpr acyclic
    refine ⟨planOver ⟨tasks⟩ order config, ?_, wellFormed.progress slots atRest undone integration⟩
    rw [wellFormed.plan, TaskGraph.integrationOrder, integration]
    rfl

def firstOfTwo : TaskContract := taskOn (text "first") (text "docs/a.md") .done 1

def secondOfTwo : TaskContract :=
  { taskOn (text "second") (text "docs/b.md") .planned 1 with dependencies := [text "first"] }

/-- A task and the one that it depends on, listed both ways round. -/
theorem plan_canonical_two : (Agent.plan [firstOfTwo, secondOfTwo] safetyConfig).map OrchestrationPlan.verdict =
    (Agent.plan [secondOfTwo, firstOfTwo] safetyConfig).map OrchestrationPlan.verdict := by
  have wellFormed : WellFormed [secondOfTwo, firstOfTwo] :=
    ⟨by decide +kernel, by decide +kernel, by decide +kernel⟩
  exact (plan_canonical wellFormed (by decide)).2.2.1 _ (.swap firstOfTwo secondOfTwo [])

end CanX.Agent
