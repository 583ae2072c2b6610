import Mathlib.Data.List.Basic

/-! A bounded queue that gives up its oldest item for a new one. Items leave it only from the front, taken or given
up, so what was offered is what has left and then what is queued. -/

namespace CanX.Storage

universe u

variable {Item : Type u} {capacity : Nat} {queue offered : List Item} {left : List (Item × Bool)} {item : Item}

/-- The queue after an offer, and the item given up for it. -/
def offer (capacity : Nat) (queue : List Item) (item : Item) : List Item × Option Item :=
  if capacity ≤ queue.length then (queue.tail ++ [item], queue.head?) else (queue ++ [item], none)

/-- The items that left, each with whether it was taken, and the queue account for the offers; an item is given up only
after as many later ones as the queue has room for. -/
structure Backlog (capacity : Nat) (offered : List Item) (left : List (Item × Bool)) (queue : List Item) : Prop where
  conserved : left.map Prod.fst ++ queue = offered
  bounded : queue.length ≤ capacity
  overtaken : ∀ index item, left[index]? = some (item, false) → index + capacity < offered.length

theorem Backlog.empty : Backlog capacity ([] : List Item) [] [] := ⟨rfl, Nat.zero_le _, by simp⟩

/-- What an offer gives up, as what has left. -/
def givenUp (dropped : Option Item) : List (Item × Bool) := dropped.toList.map fun item => (item, false)

theorem Backlog.offer (backlog : Backlog capacity offered left queue) (positive : 0 < capacity) (item : Item) :
    Backlog capacity (offered ++ [item]) (left ++ givenUp (Storage.offer capacity queue item).2)
      (Storage.offer capacity queue item).1 := by
  obtain ⟨conserved, bounded, overtaken⟩ := backlog
  have lengths := congrArg List.length conserved
  rw [List.length_append, List.length_map] at lengths
  rw [Storage.offer]
  split
  · rename_i full
    cases queue with
    | nil => exact absurd full (Nat.not_le.mpr positive)
    | cons oldest rest =>
      rw [List.length_cons] at full bounded lengths
      refine ⟨?_, ?_, fun index given found => ?_⟩
      · rw [← conserved]
        simp [givenUp]
      · rw [List.tail_cons, List.length_append, List.length_singleton]
        exact bounded
      · rw [List.length_append, List.length_singleton]
        rcases Nat.lt_or_ge index left.length with before | after
        · rw [List.getElem?_append_left before] at found
          exact Nat.lt_succ_of_lt (overtaken index given found)
        · have inside : index < (left ++ givenUp (oldest :: rest).head?).length := (List.getElem?_eq_some_iff.mp found).1
          have one : (givenUp (oldest :: rest).head?).length = 1 := rfl
          rw [List.length_append, one] at inside
          omega
  · rename_i free
    have none_ : givenUp (none : Option Item) = [] := rfl
    rw [none_, List.append_nil]
    refine ⟨by rw [← conserved, List.append_assoc], ?_, fun index given found => ?_⟩
    · rw [List.length_append, List.length_singleton]
      omega
    · rw [List.length_append, List.length_singleton]
      exact Nat.lt_succ_of_lt (overtaken index given found)

theorem Backlog.take (backlog : Backlog capacity offered left (item :: queue)) :
    Backlog capacity offered (left ++ [(item, true)]) queue := by
  obtain ⟨conserved, bounded, overtaken⟩ := backlog
  refine ⟨?_, Nat.le_trans (Nat.le_succ _) bounded, fun index given found => ?_⟩
  · rw [← conserved]
    simp
  · rcases Nat.lt_or_ge index left.length with before | after
    · rw [List.getElem?_append_left before] at found
      exact overtaken index given found
    · rw [List.getElem?_append_right after, List.getElem?_singleton] at found
      split at found
      · cases found
      · cases found

end CanX.Storage
