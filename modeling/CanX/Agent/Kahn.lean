import Mathlib.Data.Fintype.Card
import Mathlib.Data.Fintype.EquivFin
import Mathlib.Data.Fintype.Sets
import Mathlib.Order.WellFounded
import Mathlib.Data.List.Sort
import Mathlib.Logic.Function.Basic
import Mathlib.Logic.Relation

/-! Kahn's algorithm with a ready list that is kept sorted, over any nodes and any order on them. -/

namespace CanX.Kahn

variable {Node : Type} [DecidableEq Node]

/-- One unit of degree less for each child in turn; a child that reaches zero is unlocked. -/
def release : List Node → (Node → Int) → List Node → (Node → Int) × List Node
  | [], degree, unlocked => (degree, unlocked)
  | child :: rest, degree, unlocked =>
    let lowered := Function.update degree child (degree child - 1)
    release rest lowered (if lowered child = 0 then unlocked ++ [child] else unlocked)

section Algorithm

variable (nodes : List Node) (dependencies : Node → List Node) (before : Node → Node → Prop) [DecidableRel before]

/-- The dependents of a node, once for each time they name it. -/
def children (node : Node) : List Node :=
  nodes.flatMap fun dependent => ((dependencies dependent).filter (· = node)).map fun _ => dependent

/-- The loop, for at most `fuel` rounds. -/
def drain : Nat → (Node → Int) → List Node → List Node → List Node
  | 0, _, _, order => order
  | _ + 1, _, [], order => order
  | fuel + 1, degree, current :: ready, order =>
    let (lowered, unlocked) := release (children nodes dependencies current) degree []
    let waiting := if unlocked = [] then ready else (ready ++ unlocked).insertionSort before
    drain fuel lowered waiting (order ++ [current])

def initialDegree (node : Node) : Int := (dependencies node).length

/-- The order in which the nodes are drained; those on or behind a cycle are missing. Each round orders one more node,
so that there are no more rounds than nodes. -/
def order : List Node :=
  drain nodes dependencies before nodes.length (initialDegree dependencies)
    ((nodes.filter fun node => initialDegree dependencies node = 0).insertionSort before) []

theorem order_congr {nodes : List Node} {dependencies : Node → List Node} {before other : Node → Node → Prop}
    [DecidableRel before] [DecidableRel other] (same : before = other) :
    order nodes dependencies before = order nodes dependencies other := by
  subst same
  congr

end Algorithm

/-! What a release unlocks. -/

theorem release_degree (released : List Node) (degree : Node → Int) (unlocked : List Node) (node : Node) :
    (release released degree unlocked).1 node = degree node - released.count node := by
  induction released generalizing degree unlocked with
  | nil => simp [release]
  | cons child rest ih =>
    rw [release, ih]
    by_cases same : child = node
    · subst same
      simp only [Function.update_self, List.count_cons_self]
      omega
    · rw [Function.update_of_ne (Ne.symm same), List.count_cons_of_ne (fun other => same other)]

/-- Each child whose degree is used up is unlocked once. -/
theorem release_unlocked (released : List Node) (degree : Node → Int) (unlocked : List Node)
    (enough : ∀ node, (released.count node : Int) ≤ degree node) :
    ∃ fresh, (release released degree unlocked).2 = unlocked ++ fresh ∧ fresh.Nodup ∧
      ∀ node, node ∈ fresh ↔ node ∈ released ∧ degree node = released.count node := by
  induction released generalizing degree unlocked with
  | nil => exact ⟨[], by simp [release], List.nodup_nil, by simp⟩
  | cons child rest ih =>
    have lowered (node : Node) : Function.update degree child (degree child - 1) node =
        degree node - if child = node then 1 else 0 := by
      by_cases same : child = node
      · subst same
        simp
      · rw [Function.update_of_ne (Ne.symm same), if_neg same]
        omega
    have still : ∀ node, (rest.count node : Int) ≤ Function.update degree child (degree child - 1) node := by
      intro node
      have bound := enough node
      rw [lowered, List.count_cons] at *
      by_cases same : child = node
      · simp [same] at bound ⊢
        omega
      · simp [same] at bound ⊢
        exact bound
    obtain ⟨fresh, continued, distinct, members⟩ := ih (Function.update degree child (degree child - 1))
      (if Function.update degree child (degree child - 1) child = 0 then unlocked ++ [child] else unlocked) still
    have spread (node : Node) : node ∈ fresh ↔ node ∈ rest ∧ degree node = (child :: rest).count node := by
      rw [members, lowered, List.count_cons]
      refine and_congr_right fun _ => ?_
      by_cases same : child = node
      · simp only [same, if_true, beq_self_eq_true]
        omega
      · simp [same]
    have own := lowered child
    rw [if_pos rfl] at own
    by_cases zero : Function.update degree child (degree child - 1) child = 0
    · have unused : child ∉ rest := by
        intro member
        have positive := List.count_pos_iff.mpr member
        have bound := still child
        omega
      have used : degree child = (child :: rest).count child := by
        rw [List.count_cons_self, List.count_eq_zero_of_not_mem unused]
        omega
      refine ⟨child :: fresh, ?_, List.nodup_cons.mpr ⟨fun member => unused ((spread child).mp member).1, distinct⟩,
        fun node => ?_⟩
      · rw [release, continued, if_pos zero, List.append_assoc]
        rfl
      · rw [List.mem_cons, spread, List.mem_cons]
        constructor
        · rintro (rfl | ⟨member, same⟩)
          · exact ⟨.inl rfl, used⟩
          · exact ⟨.inr member, same⟩
        · rintro ⟨rfl | member, same⟩
          · exact .inl rfl
          · exact .inr ⟨member, same⟩
    · refine ⟨fresh, ?_, distinct, fun node => ?_⟩
      · rw [release, continued, if_neg zero]
      · rw [spread, List.mem_cons]
        constructor
        · exact fun both => ⟨.inr both.1, both.2⟩
        · rintro ⟨rfl | member, same⟩
          · refine ⟨?_, same⟩
            by_contra absent
            rw [List.count_cons_self, List.count_eq_zero_of_not_mem absent] at same
            omega
          · exact ⟨member, same⟩

/-! What every round keeps. -/

section Rounds

variable {nodes : List Node} {dependencies : Node → List Node} {before : Node → Node → Prop} [DecidableRel before]
variable {degree : Node → Int} {ready order : List Node} {current : Node}

/-- The dependencies of a node that have not been ordered yet. -/
def unmet (dependencies : Node → List Node) (order : List Node) (node : Node) : List Node :=
  (dependencies node).filter (· ∉ order)

variable (nodes dependencies) in
/-- The degree of a node counts its open dependencies, and the nodes without any are queued or ordered, each once. -/
structure Queued (degree : Node → Int) (ready order : List Node) : Prop where
  counted : ∀ node ∈ nodes, degree node = (unmet dependencies order node).length
  positive : ∀ node, node ∉ nodes → 0 ≤ degree node
  distinct : (order ++ ready).Nodup
  inside : ∀ node ∈ order ++ ready, node ∈ nodes
  free : ∀ node ∈ nodes, node ∈ order ++ ready ↔ degree node = 0

theorem count_children (distinct : nodes.Nodup) (node : Node) :
    (children nodes dependencies current).count node =
      if node ∈ nodes then (dependencies node).count current else 0 := by
  have own (dependent : Node) : (((dependencies dependent).filter (· = current)).map fun _ => dependent).count node =
      if dependent = node then (dependencies node).count current else 0 := by
    by_cases same : dependent = node
    · subst same
      rw [List.map_const', List.count_replicate_self, if_pos rfl, List.count_eq_length_filter]
      congr 1
    · rw [if_neg same, List.map_const', List.count_replicate, if_neg (by simpa using same)]
  unfold children
  induction nodes with
  | nil => rfl
  | cons first rest ih =>
    obtain ⟨apart, others⟩ := List.nodup_cons.mp distinct
    rw [List.flatMap_cons, List.count_append, own, ih others]
    by_cases same : first = node
    · subst same
      simp [apart]
    · by_cases member : node ∈ rest
      · simp [same, member]
      · have absent : node ∉ first :: rest := by
          rw [List.mem_cons]
          exact fun either => either.elim (fun other => same other.symm) member
        rw [if_neg same, if_neg member, if_neg absent]

private theorem unmet_length (fresh : current ∉ order) (node : Node) :
    (unmet dependencies order node).length =
      (unmet dependencies (order ++ [current]) node).length + (dependencies node).count current := by
  unfold unmet
  induction dependencies node with
  | nil => rfl
  | cons dependency rest ih =>
    by_cases same : dependency = current
    · subst same
      simp only [List.filter_cons, List.count_cons_self, fresh, not_false_eq_true, decide_true, if_true,
        List.length_cons, ih]
      simp
      omega
    · rw [List.count_cons_of_ne same]
      by_cases ordered : dependency ∈ order
      · simpa [List.filter_cons, ordered] using ih
      · simpa [List.filter_cons, ordered, same, Nat.add_right_comm] using ih

theorem Queued.unordered (queued : Queued nodes dependencies degree (current :: ready) order) : current ∉ order := by
  intro member
  exact (List.nodup_append.mp queued.distinct).2.2 current member current List.mem_cons_self rfl

/-- No child is released more often than its degree allows. -/
theorem Queued.enough (queued : Queued nodes dependencies degree (current :: ready) order) (distinct : nodes.Nodup)
    (node : Node) : ((children nodes dependencies current).count node : Int) ≤ degree node := by
  rw [count_children distinct]
  by_cases member : node ∈ nodes
  · rw [if_pos member, queued.counted node member, unmet_length queued.unordered]
    omega
  · rw [if_neg member]
    exact queued.positive node member

/-- One round. -/
theorem Queued.round (queued : Queued nodes dependencies degree (current :: ready) order) (distinct : nodes.Nodup) :
    ∃ fresh, (release (children nodes dependencies current) degree []).2 = fresh ∧
      ∀ waiting : List Node, waiting.Perm (ready ++ fresh) →
        Queued nodes dependencies (release (children nodes dependencies current) degree []).1 waiting
          (order ++ [current]) := by
  have unordered := queued.unordered
  have counts (node : Node) : (children nodes dependencies current).count node =
      if node ∈ nodes then (dependencies node).count current else 0 := count_children distinct node
  have enough := queued.enough distinct
  obtain ⟨fresh, unlocked, once, members⟩ := release_unlocked _ degree [] enough
  have lowered := release_degree (children nodes dependencies current) degree []
  have known (node : Node) (member : node ∈ fresh) : node ∈ nodes ∧ degree node ≠ 0 := by
    obtain ⟨child, used⟩ := (members node).mp member
    have positive := List.count_pos_iff.mpr child
    have counted := counts node
    by_cases inside : node ∈ nodes
    · exact ⟨inside, by omega⟩
    · rw [if_neg inside] at counted
      omega
  have moved (node : Node) : node ∈ (order ++ [current]) ++ (ready ++ fresh) ↔
      node ∈ order ++ current :: ready ∨ node ∈ fresh := by
    simp only [List.mem_append, List.mem_cons, List.not_mem_nil, or_false]
    tauto
  refine ⟨fresh, by rw [unlocked]; rfl, fun waiting same => ?_⟩
  have shuffled : ((order ++ [current]) ++ waiting).Perm ((order ++ [current]) ++ (ready ++ fresh)) :=
    same.append_left _
  refine ⟨fun node member => ?_, fun node absent => ?_, ?_, fun node member => ?_, fun node member => ?_⟩
  · rw [lowered, counts, if_pos member, queued.counted node member, unmet_length unordered]
    omega
  · rw [lowered, counts, if_neg absent]
    simpa using queued.positive node absent
  · rw [shuffled.nodup_iff, List.append_assoc, List.singleton_append, ← List.cons_append, ← List.append_assoc]
    refine List.nodup_append.mpr ⟨queued.distinct, once, fun node queuedNode other freshNode same => ?_⟩
    subst same
    obtain ⟨inside, some⟩ := known node freshNode
    exact some ((queued.free node inside).mp queuedNode)
  · rcases (moved node).mp (shuffled.mem_iff.mp member) with old | unlockedNode
    · exact queued.inside node old
    · exact (known node unlockedNode).1
  · rw [shuffled.mem_iff, moved, queued.free node member, lowered, members]
    have bound := enough node
    constructor
    · rintro (zero | ⟨_, used⟩) <;> omega
    · intro zero
      by_cases child : node ∈ children nodes dependencies current
      · exact .inr ⟨child, by omega⟩
      · rw [List.count_eq_zero_of_not_mem child] at zero
        exact .inl (by omega)

theorem Queued.permuted {waiting : List Node} (queued : Queued nodes dependencies degree ready order)
    (same : waiting.Perm ready) : Queued nodes dependencies degree waiting order where
  counted := queued.counted
  positive := queued.positive
  distinct := (same.append_left order).nodup_iff.mpr queued.distinct
  inside node member := queued.inside node ((same.append_left order).mem_iff.mp member)
  free node member := (same.append_left order).mem_iff.trans (queued.free node member)

/-- Nothing is queued once as many nodes are ordered as there are. -/
theorem Queued.exhausted (queued : Queued nodes dependencies degree ready order)
    (all : nodes.length ≤ order.length) : ready = [] := by
  have fits := (List.subperm_of_subset queued.distinct queued.inside).length_le
  rw [List.length_append] at fits
  exact List.length_eq_zero_iff.mp (by omega)

/-- The state at the end of a round. -/
theorem Queued.drained (queued : Queued nodes dependencies degree (current :: ready) order) (distinct : nodes.Nodup) :
    Queued nodes dependencies (release (children nodes dependencies current) degree []).1
      (if (release (children nodes dependencies current) degree []).2 = [] then ready
        else (ready ++ (release (children nodes dependencies current) degree []).2).insertionSort before)
      (order ++ [current]) := by
  obtain ⟨fresh, unlocked, continued⟩ := queued.round distinct
  rw [unlocked]
  refine continued _ ?_
  by_cases none : fresh = []
  · rw [if_pos none, none, List.append_nil]
  · rw [if_neg none]
    exact List.perm_insertionSort _ _

theorem Queued.initial (distinct : nodes.Nodup) :
    Queued nodes dependencies (initialDegree dependencies)
      ((nodes.filter fun node => initialDegree dependencies node = 0).insertionSort before) [] := by
  have filtered : Queued nodes dependencies (initialDegree dependencies)
      (nodes.filter fun node => initialDegree dependencies node = 0) [] := by
    refine ⟨fun node _ => ?_, fun node _ => Int.natCast_nonneg _, distinct.filter _,
      fun node member => (List.mem_filter.mp member).1, fun node member => ?_⟩
    · simp [initialDegree, unmet]
    · rw [List.nil_append, List.mem_filter, decide_eq_true_eq]
      exact and_iff_right member
  exact filtered.permuted (List.perm_insertionSort _ _)

/-- Whatever an order has, it has behind its dependencies. -/
def Respects (dependencies : Node → List Node) (order : List Node) : Prop :=
  ∀ node ∈ order, ∀ dependency ∈ dependencies node, order.idxOf dependency < order.idxOf node

/-- A node that is queued has its dependencies behind it. -/
theorem Queued.respects (queued : Queued nodes dependencies degree (current :: ready) order)
    (respects : Respects dependencies order) : Respects dependencies (order ++ [current]) := by
  have queuedNode : current ∈ order ++ current :: ready := List.mem_append_right _ List.mem_cons_self
  have inside := queued.inside current queuedNode
  have free := (queued.free current inside).mp queuedNode
  rw [queued.counted current inside] at free
  have none : unmet dependencies order current = [] := List.length_eq_zero_iff.mp (by omega)
  have met (dependency : Node) (member : dependency ∈ dependencies current) : dependency ∈ order := by
    have ordered := List.filter_eq_nil_iff.mp none dependency member
    simpa using ordered
  intro node member dependency needed
  by_cases earlier : node ∈ order
  · have before := respects node earlier dependency needed
    have known : dependency ∈ order := List.idxOf_lt_length_iff.mp (before.trans_le List.idxOf_le_length)
    rw [List.idxOf_append_of_mem known, List.idxOf_append_of_mem earlier]
    exact before
  · have last : node = current := by simpa [earlier] using member
    subst last
    have known := met dependency needed
    rw [List.idxOf_append_of_mem known, List.idxOf_append_of_notMem earlier]
    exact Nat.lt_add_right _ (List.idxOf_lt_length_iff.mpr known)

/-- With enough fuel the loop runs until nothing is queued. -/
theorem drain_done (distinct : nodes.Nodup) {fuel : Nat} (queued : Queued nodes dependencies degree ready order)
    (respects : Respects dependencies order) (enough : nodes.length ≤ fuel + order.length) :
    ∃ final, Queued nodes dependencies final [] (drain nodes dependencies before fuel degree ready order) ∧
      Respects dependencies (drain nodes dependencies before fuel degree ready order) := by
  induction fuel generalizing degree ready order with
  | zero =>
    obtain rfl := queued.exhausted (by omega)
    exact ⟨degree, queued, respects⟩
  | succ fuel ih =>
    cases ready with
    | nil => exact ⟨degree, queued, respects⟩
    | cons current ready =>
      have longer : nodes.length ≤ fuel + (order ++ [current]).length := by
        rw [List.length_append, List.length_singleton]
        omega
      exact ih (queued.drained distinct) (queued.respects respects) longer

/-- More fuel than there are unordered nodes makes no difference. -/
theorem drain_settled (distinct : nodes.Nodup) {fuel : Nat} (queued : Queued nodes dependencies degree ready order)
    (enough : nodes.length ≤ fuel + order.length) (extra : Nat) :
    drain nodes dependencies before (fuel + extra) degree ready order =
      drain nodes dependencies before fuel degree ready order := by
  induction fuel generalizing degree ready order with
  | zero =>
    obtain rfl := queued.exhausted (by omega)
    cases extra <;> rfl
  | succ fuel ih =>
    rw [Nat.add_right_comm]
    cases ready with
    | nil => rfl
    | cons current ready =>
      have longer : nodes.length ≤ fuel + (order ++ [current]).length := by
        rw [List.length_append, List.length_singleton]
        omega
      exact ih (queued.drained distinct) longer

theorem order_done (distinct : nodes.Nodup) :
    ∃ final, Queued nodes dependencies final [] (Kahn.order nodes dependencies before) ∧
      Respects dependencies (Kahn.order nodes dependencies before) :=
  drain_done distinct (Queued.initial distinct) (fun _ member => absurd member List.not_mem_nil) (Nat.le_refl _)

theorem order_nodes (distinct : nodes.Nodup) : (Kahn.order nodes dependencies before).Nodup ∧
    ∀ node ∈ Kahn.order nodes dependencies before, node ∈ nodes := by
  obtain ⟨final, queued, -⟩ : ∃ final, Queued nodes dependencies final [] (Kahn.order nodes dependencies before) ∧
    Respects dependencies (Kahn.order nodes dependencies before) := order_done distinct
  have once := queued.distinct
  have inside := queued.inside
  rw [List.append_nil] at once inside
  exact ⟨once, inside⟩

/-- The rounds that `order` allows are all that the loop takes. -/
theorem order_settled (distinct : nodes.Nodup) (extra : Nat) :
    drain nodes dependencies before (nodes.length + extra) (initialDegree dependencies)
        ((nodes.filter fun node => initialDegree dependencies node = 0).insertionSort before) [] =
      Kahn.order nodes dependencies before :=
  drain_settled distinct (Queued.initial distinct) (Nat.le_refl _) extra

end Rounds

/-! The order is complete exactly where nothing depends on itself. -/

section Cycles

variable {nodes : List Node} {dependencies : Node → List Node} {before : Node → Node → Prop} [DecidableRel before]
variable {order : List Node}

def Cyclic (dependencies : Node → List Node) : Prop :=
  ∃ node, Relation.TransGen (fun node dependency => dependency ∈ dependencies node) node node

/-- An order that has every node allows no cycle. -/
theorem Respects.acyclic (respects : Respects dependencies order)
    (all : ∀ node, dependencies node ≠ [] → node ∈ order) : ¬Cyclic dependencies := by
  have earlier {node dependency : Node} (needed : dependency ∈ dependencies node) :
      order.idxOf dependency < order.idxOf node :=
    respects node (all node (List.ne_nil_of_mem needed)) dependency needed
  have falls {first last : Node}
      (path : Relation.TransGen (fun node dependency => dependency ∈ dependencies node) first last) :
      order.idxOf last < order.idxOf first := by
    induction path with
    | single needed => exact earlier needed
    | tail _ needed ih => exact (earlier needed).trans ih
  rintro ⟨node, path⟩
  exact Nat.lt_irrefl _ (falls path)

/-- Without a cycle, of some nodes with dependencies among themselves there are none. -/
theorem left_empty (acyclic : ¬Cyclic dependencies) (left : List Node)
    (needs : ∀ node ∈ left, ∃ dependency ∈ dependencies node, dependency ∈ left) : left = [] := by
  let deeper (second first : { node // node ∈ left }) : Prop :=
    Relation.TransGen (fun node dependency => dependency ∈ dependencies node) first.1 second.1
  have transitive : IsTrans { node // node ∈ left } deeper := ⟨fun _ _ _ second first => first.trans second⟩
  have irreflexive : Std.Irrefl deeper := ⟨fun node path => acyclic ⟨node.1, path⟩⟩
  have founded : WellFounded deeper := Finite.wellFounded_of_trans_of_irrefl deeper
  refine List.eq_nil_iff_forall_not_mem.mpr fun node member => ?_
  obtain ⟨lowest, _, least⟩ := founded.has_min Set.univ ⟨⟨node, member⟩, trivial⟩
  obtain ⟨dependency, needed, inside⟩ := needs lowest.1 lowest.2
  exact least ⟨dependency, inside⟩ trivial (.single needed)

theorem order_complete_iff (distinct : nodes.Nodup)
    (known : ∀ node ∈ nodes, ∀ dependency ∈ dependencies node, dependency ∈ nodes)
    (outside : ∀ node, node ∉ nodes → dependencies node = []) :
    (Kahn.order nodes dependencies before).length = nodes.length ↔ ¬Cyclic dependencies := by
  obtain ⟨final, queued, respects⟩ : ∃ final,
      Queued nodes dependencies final [] (Kahn.order nodes dependencies before) ∧
        Respects dependencies (Kahn.order nodes dependencies before) := order_done distinct
  have contents : (Kahn.order nodes dependencies before).Nodup ∧
    ∀ node ∈ Kahn.order nodes dependencies before, node ∈ nodes := order_nodes distinct
  have subperm := List.subperm_of_subset contents.1 contents.2
  constructor
  · intro complete
    have same := subperm.perm_of_length_le (Nat.le_of_eq complete.symm)
    refine respects.acyclic fun node needs => same.mem_iff.mpr ?_
    by_contra absent
    exact needs (outside node absent)
  · intro acyclic
    have none : nodes.filter (· ∉ Kahn.order nodes dependencies before) = [] := by
      refine left_empty acyclic _ fun node member => ?_
      obtain ⟨inside, absent⟩ := List.mem_filter.mp member
      have degree : final node ≠ 0 := by
        intro zero
        have ordered := (queued.free node inside).mpr zero
        rw [List.append_nil] at ordered
        exact of_decide_eq_true absent ordered
      rw [queued.counted node inside] at degree
      obtain ⟨dependency, open_⟩ := List.exists_mem_of_length_pos (by omega :
        0 < (unmet dependencies (Kahn.order nodes dependencies before) node).length)
      obtain ⟨needed, unordered⟩ := List.mem_filter.mp open_
      exact ⟨dependency, needed, List.mem_filter.mpr ⟨known node inside dependency needed, unordered⟩⟩
    refine Nat.le_antisymm subperm.length_le (List.subperm_of_subset distinct fun node member => ?_).length_le
    by_contra absent
    exact List.filter_eq_nil_iff.mp none node member (decide_eq_true absent)

end Cycles

/-! The order does not depend on how the nodes are listed. -/

section Listings

variable {nodes other : List Node} {dependencies : Node → List Node} {before : Node → Node → Prop}
variable [DecidableRel before] [Std.Total before] [IsTrans Node before] [Std.Antisymm before]
variable {degree : Node → Int} {ready order : List Node}

omit [DecidableEq Node] in
theorem insertionSort_perm {first second : List Node} (same : first.Perm second) :
    first.insertionSort before = second.insertionSort before := by
  refine List.Perm.eq_of_pairwise' (List.pairwise_insertionSort before first)
    (List.pairwise_insertionSort before second) ?_
  exact ((List.perm_insertionSort before first).trans same).trans (List.perm_insertionSort before second).symm

omit [Std.Total before] [IsTrans Node before] [Std.Antisymm before] in
theorem release_perm {first second : List Node} (same : first.Perm second)
    (enough : ∀ node, (first.count node : Int) ≤ degree node) :
    (release first degree []).1 = (release second degree []).1 ∧
      (release first degree []).2.Perm (release second degree []).2 := by
  constructor
  · funext node
    rw [release_degree, release_degree, same.count_eq]
  · have again : ∀ node, (second.count node : Int) ≤ degree node := by
      intro node
      rw [← same.count_eq]
      exact enough node
    obtain ⟨fresh, unlocked, distinct, members⟩ := release_unlocked first degree [] enough
    obtain ⟨others, unlockedOthers, distinctOthers, membersOthers⟩ := release_unlocked second degree [] again
    rw [unlocked, unlockedOthers]
    refine ((List.perm_ext_iff_of_nodup distinct distinctOthers).mpr fun node => ?_).append_left []
    rw [members, membersOthers, same.mem_iff, same.count_eq]

private theorem drain_perm (same : nodes.Perm other) (distinct : nodes.Nodup) (fuel : Nat)
    (queued : Queued nodes dependencies degree ready order) :
    drain nodes dependencies before fuel degree ready order =
      drain other dependencies before fuel degree ready order := by
  induction fuel generalizing degree ready order with
  | zero => rfl
  | succ fuel ih =>
    cases ready with
    | nil => rfl
    | cons current ready =>
      have children : (children nodes dependencies current).Perm (children other dependencies current) :=
        same.flatMap_right _
      obtain ⟨lowered, unlocked⟩ := release_perm children (queued.enough distinct)
      have waiting : (if (release (Kahn.children nodes dependencies current) degree []).2 = [] then ready
          else (ready ++ (release (Kahn.children nodes dependencies current) degree []).2).insertionSort before) =
        if (release (Kahn.children other dependencies current) degree []).2 = [] then ready
          else (ready ++ (release (Kahn.children other dependencies current) degree []).2).insertionSort before := by
        by_cases none : (release (Kahn.children nodes dependencies current) degree []).2 = []
        · have neither : (release (Kahn.children other dependencies current) degree []).2 = [] := by
            rw [none] at unlocked
            exact List.perm_nil.mp unlocked.symm
          rw [if_pos none, if_pos neither]
        · have some : (release (Kahn.children other dependencies current) degree []).2 ≠ [] := by
            intro empty
            rw [empty] at unlocked
            exact none (List.perm_nil.mp unlocked)
          rw [if_neg none, if_neg some, insertionSort_perm (unlocked.append_left ready)]
      rw [drain, drain]
      dsimp only
      rw [ih (queued.drained distinct), waiting, lowered]

theorem order_perm (same : nodes.Perm other) (distinct : nodes.Nodup) :
    Kahn.order nodes dependencies before = Kahn.order other dependencies before := by
  have started : (nodes.filter fun node => initialDegree dependencies node = 0).insertionSort before =
      (other.filter fun node => initialDegree dependencies node = 0).insertionSort before :=
    insertionSort_perm (same.filter _)
  have initial : Queued nodes dependencies (initialDegree dependencies)
    ((nodes.filter fun node => initialDegree dependencies node = 0).insertionSort before) [] := .initial distinct
  rw [Kahn.order, Kahn.order, drain_perm same distinct _ initial, started, same.length_eq]

end Listings

end CanX.Kahn
