import CanX.Storage.Selection
import Mathlib.Logic.Equiv.Basic
import Mathlib.Tactic.ByContra

/-! What an order with ties settles of the first rows of an answer. -/

namespace CanX.Storage

universe u

variable {Row : Type u} {before : Row → Row → Bool} {matched first second : List Row} {row other : Row} {limit : Nat}

/-- One row comes strictly before another. -/
def precedes (before : Row → Row → Bool) (row other : Row) : Bool := before other row && !before row other

/-- Two rows that the order leaves open. -/
def Tied (before : Row → Row → Bool) (row other : Row) : Prop := before row other = true ∧ before other row = true

/-- How many rows come strictly before a row. -/
def rank (before : Row → Row → Bool) (matched : List Row) (row : Row) : Nat := matched.countP (precedes before row)

/-- Whatever is tied lies behind the first rows. -/
def Settled (before : Row → Row → Bool) (limit : Nat) (matched : List Row) : Prop :=
  ∀ row ∈ matched, ∀ other ∈ matched, row ≠ other → Tied before row other → limit ≤ rank before matched row

theorem Ordered.of_perm {again answer : List Row} (same : matched.Perm again) :
    Ordered before matched answer ↔ Ordered before again answer := by
  constructor
  · intro ordered
    exact ⟨ordered.1.trans same, ordered.2⟩
  · intro ordered
    exact ⟨ordered.1.trans same.symm, ordered.2⟩

section Positions

variable {front back : List Row}

/-- In an ordered answer no row behind another comes strictly before it. -/
theorem rank_split (ordered : Ordered before matched (front ++ row :: back)) :
    rank before matched row = front.countP (precedes before row) := by
  obtain ⟨_, tail, _⟩ := List.pairwise_append.mp ordered.2
  have behind := (List.pairwise_cons.mp tail).1
  have none_ : back.countP (precedes before row) = 0 := by
    rw [List.countP_eq_zero]
    intro later member strictly
    simp [precedes, behind later member] at strictly
  have self : precedes before row row = false := by simp [precedes]
  rw [rank, ← ordered.1.countP_eq, List.countP_append, List.countP_cons, none_, self]
  simp

private theorem rank_le (ordered : Ordered before matched (front ++ row :: back)) :
    rank before matched row ≤ front.length := by
  rw [rank_split ordered]
  exact List.countP_le_length

/-- A row with no tied row in front of it stands at its rank. -/
theorem rank_exact (ordered : Ordered before matched (front ++ row :: back))
    (alone : ∀ earlier ∈ front, ¬ Tied before row earlier) : rank before matched row = front.length := by
  rw [rank_split ordered, List.countP_eq_length]
  intro earlier member
  have ahead : before earlier row = true :=
    (List.pairwise_append.mp ordered.2).2.2 earlier member row List.mem_cons_self
  by_cases back_ : before row earlier = true
  · exact absurd ⟨back_, ahead⟩ (alone earlier member)
  · simp [precedes, ahead, back_]

end Positions

section Determined

/-- Where no tie reaches into the first rows, every ordered answer begins with the same ones. -/
theorem Settled.take_eq (distinct : matched.Nodup) (settled : Settled before limit matched)
    (ordered : Ordered before matched first) (again : Ordered before matched second) :
    first.take limit = second.take limit := by
  have lengths : first.length = second.length := ordered.1.length_eq.trans again.1.length_eq.symm
  refine List.ext_getElem (by simp [lengths]) ?_
  intro index below _
  have inside : index < first.length := by
    rw [List.length_take] at below
    omega
  have early : index < limit := by
    rw [List.length_take] at below
    omega
  rw [List.getElem_take, List.getElem_take]
  have split : first = first.take index ++ first[index] :: first.drop (index + 1) := by
    rw [List.getElem_cons_drop, List.take_append_drop]
  have placed : Ordered before matched (first.take index ++ first[index] :: first.drop (index + 1)) := split ▸ ordered
  have front : (first.take index).length = index := by
    rw [List.length_take]
    omega
  have member : first[index] ∈ matched := ordered.1.mem_iff.mp (List.getElem_mem _)
  have untied : ∀ other ∈ matched, first[index] ≠ other → ¬ Tied before first[index] other := by
    intro other held different tied
    have far := settled _ member other held different tied
    have near := rank_le placed
    omega
  have alone {answer : List Row} (ordered : Ordered before matched answer) {front back : List Row}
      (parts : answer = front ++ first[index] :: back) : rank before matched first[index] = front.length := by
    subst parts
    refine rank_exact ordered ?_
    intro earlier inFront
    have held : earlier ∈ matched := ordered.1.mem_iff.mp (List.mem_append_left _ inFront)
    refine untied earlier held ?_
    intro same
    have unique := ordered.1.nodup_iff.mpr distinct
    rw [List.nodup_append] at unique
    exact unique.2.2 earlier inFront _ List.mem_cons_self same.symm
  have here := alone ordered split
  obtain ⟨ahead, behind, parts⟩ := List.append_of_mem (again.1.mem_iff.mpr member)
  have there := alone again parts
  have position : ahead.length = index := by rw [← there, here, front]
  simp only [parts, List.getElem_append_right (Nat.le_of_eq position), position, Nat.sub_self, List.getElem_cons_zero]

end Determined

section Open

variable (transitive : ∀ row other third, before row other = true → before other third = true → before row third = true)
variable (total : ∀ row other, (before row other || before other row) = true)

include transitive total

/-- Some answer is ordered. -/
theorem Ordered.exists (matched : List Row) : ∃ answer, Ordered before matched answer :=
  ⟨matched.mergeSort before, List.mergeSort_perm matched before,
    List.pairwise_mergeSort transitive total matched⟩

/-- The first row of an answer that is tied with a given one. -/
theorem Ordered.first_tied {answer : List Row} (ordered : Ordered before matched answer) (held : row ∈ matched) :
    ∃ front leader back, answer = front ++ leader :: back ∧ Tied before row leader ∧
      rank before matched row = front.length := by
  have self : before row row = true := by simpa using total row row
  obtain ⟨leader, found⟩ : ∃ leader, answer.find? (fun other => before row other && before other row) = some leader := by
    refine Option.isSome_iff_exists.mp (List.find?_isSome.mpr ⟨row, ordered.1.mem_iff.mpr held, ?_⟩)
    simp [self]
  obtain ⟨tied, front, back, rfl, untied⟩ := List.find?_eq_some_iff_append.mp found
  have both : Tied before row leader := by simpa [Tied] using tied
  refine ⟨front, leader, back, rfl, both, ?_⟩
  have same : rank before matched row = rank before matched leader := by
    unfold rank
    congr 1
    funext third
    have ahead : before third row = before third leader := by
      rw [Bool.eq_iff_iff]
      exact ⟨fun sooner => transitive _ _ _ sooner both.1, fun sooner => transitive _ _ _ sooner both.2⟩
    have behind : before row third = before leader third := by
      rw [Bool.eq_iff_iff]
      exact ⟨fun later => transitive _ _ _ both.2 later, fun later => transitive _ _ _ both.1 later⟩
    simp [precedes, ahead, behind]
  rw [same]
  refine rank_exact ordered ?_
  intro earlier member level
  have refused := untied earlier member
  simp [transitive _ _ _ both.1 level.1, transitive _ _ _ level.2 both.2] at refused

/-- Exchanging two tied rows keeps an answer ordered. -/
theorem Ordered.exchanged [DecidableEq Row] {answer : List Row} (distinct : matched.Nodup)
    (ordered : Ordered before matched answer) (held : row ∈ matched) (otherHeld : other ∈ matched)
    (tied : Tied before row other) : Ordered before matched (answer.map (Equiv.swap row other)) := by
  have kept : ∀ third, third ∈ matched → Equiv.swap row other third ∈ matched := by
    intro third member
    rw [Equiv.swap_apply_def]
    split
    · exact otherHeld
    · split
      · exact held
      · exact member
  have level : ∀ third, Tied before third (Equiv.swap row other third) := by
    intro third
    have self : before third third = true := by simpa using total third third
    rw [Equiv.swap_apply_def]
    split
    · rename_i same
      exact same ▸ tied
    · split
      · rename_i same
        exact same ▸ ⟨tied.2, tied.1⟩
      · exact ⟨self, self⟩
  constructor
  · have moved : (answer.map (Equiv.swap row other)).Perm (matched.map (Equiv.swap row other)) := ordered.1.map _
    refine moved.trans ((List.perm_ext_iff_of_nodup ?_ distinct).mpr ?_)
    · exact distinct.map (Equiv.swap row other).injective
    · intro third
      rw [List.mem_map]
      constructor
      · rintro ⟨source, member, rfl⟩
        exact kept source member
      · intro member
        exact ⟨_, kept third member, Equiv.swap_apply_self row other third⟩
  · rw [List.pairwise_map]
    refine ordered.2.imp ?_
    intro earlier later ahead
    exact transitive _ _ _ (transitive _ _ _ (level earlier).2 ahead) (level later).1

/-- Two tied rows that reach into the first ones leave open which of them is there. -/
theorem ambiguous [DecidableEq Row] (distinct : matched.Nodup) (held : row ∈ matched) (otherHeld : other ∈ matched)
    (different : row ≠ other) (tied : Tied before row other) (reached : rank before matched row < limit) :
    ∃ first second, Ordered before matched first ∧ Ordered before matched second ∧
      first.take limit ≠ second.take limit := by
  obtain ⟨answer, ordered⟩ := Ordered.exists transitive total matched
  obtain ⟨front, leader, back, rfl, level, position⟩ := ordered.first_tied transitive total held
  have leading : leader ∈ matched := ordered.1.mem_iff.mp (by simp)
  obtain ⟨rival, rivalHeld, apart, matches_⟩ : ∃ rival ∈ matched, leader ≠ rival ∧ Tied before leader rival := by
    by_cases same : leader = row
    · exact ⟨other, otherHeld, same ▸ different, same ▸ tied⟩
    · exact ⟨row, held, same, level.2, level.1⟩
  refine ⟨_, _, ordered, ordered.exchanged transitive total distinct leading rivalHeld matches_, ?_⟩
  intro same
  have here := congrArg (fun rows : List Row => rows[front.length]?) same
  have early : front.length < limit := position ▸ reached
  simp only [List.getElem?_take_of_lt early, List.getElem?_map, List.getElem?_append_right (Nat.le_refl _),
    Nat.sub_self, List.getElem?_cons_zero, Option.map_some, Equiv.swap_apply_left, Option.some.injEq] at here
  exact apart here

/-- The first rows of an answer are settled exactly if every ordered answer begins with the same ones. -/
theorem settled_iff [DecidableEq Row] (distinct : matched.Nodup) : Settled before limit matched ↔
    ∀ first second, Ordered before matched first → Ordered before matched second →
      first.take limit = second.take limit := by
  constructor
  · intro settled first second ordered again
    exact settled.take_eq distinct ordered again
  · intro same row held other otherHeld different tied
    by_contra reached
    obtain ⟨first, second, ordered, again, apart⟩ := ambiguous transitive total distinct held otherHeld different tied
      (Nat.lt_of_not_le reached)
    exact apart (same first second ordered again)

end Open

end CanX.Storage
