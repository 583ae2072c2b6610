import Mathlib.Data.Nat.ModEq

/-! A circular buffer, and the plain list that it keeps the end of. A slot never written is empty. -/

namespace CanX.Storage

universe u

structure RingBuffer (Item : Type u) where
  slots : List (Option Item)
  start : Nat
  size : Nat
  start_lt : start < slots.length
  size_le : size ≤ slots.length
  deriving DecidableEq

namespace RingBuffer

variable {Item : Type u} {ring : RingBuffer Item} {items : List Item} {item : Item}

def capacity (ring : RingBuffer Item) : Nat := ring.slots.length

theorem capacity_pos (ring : RingBuffer Item) : 0 < ring.capacity := Nat.zero_lt_of_lt ring.start_lt

def empty (capacity : Nat) (positive : 0 < capacity) : RingBuffer Item where
  slots := List.replicate capacity none
  start := 0
  size := 0
  start_lt := by simpa using positive
  size_le := Nat.zero_le _

/-- The slot of the item at an offset from the oldest one. -/
def position (ring : RingBuffer Item) (offset : Nat) : Nat := (ring.start + offset) % ring.slots.length

theorem position_lt {offset : Nat} : ring.position offset < ring.slots.length :=
  Nat.mod_lt _ ring.capacity_pos

/-- Write behind the newest item where there is a free slot. -/
def append (ring : RingBuffer Item) (item : Item) (free : ring.size < ring.slots.length) : RingBuffer Item where
  slots := ring.slots.set (ring.position ring.size) (some item)
  start := ring.start
  size := ring.size + 1
  start_lt := by simpa using ring.start_lt
  size_le := by simpa using Nat.succ_le_of_lt free

/-- Write over the oldest item. -/
def overwrite (ring : RingBuffer Item) (item : Item) : RingBuffer Item where
  slots := ring.slots.set ring.start (some item)
  start := ring.position 1
  size := ring.size
  start_lt := by simpa using position_lt
  size_le := by simpa using ring.size_le

def clear (ring : RingBuffer Item) : RingBuffer Item where
  slots := ring.slots.map fun _ => none
  start := 0
  size := 0
  start_lt := by simpa [RingBuffer.capacity] using ring.capacity_pos
  size_le := Nat.zero_le _

/-- The items from the oldest to the newest. -/
def toList (ring : RingBuffer Item) : List Item :=
  (List.range ring.size).filterMap fun offset => (ring.slots[ring.position offset]?).join

/-- The buffer keeps these items, in this order. -/
structure Holds (ring : RingBuffer Item) (items : List Item) : Prop where
  size : items.length = ring.size
  slot : ∀ offset (inside : offset < items.length),
    ring.slots[ring.position offset]? = some (some items[offset])

@[simp] theorem capacity_empty {capacity : Nat} {positive : 0 < capacity} :
    (empty capacity positive : RingBuffer Item).capacity = capacity := by
  simp [RingBuffer.capacity, empty]

@[simp] theorem capacity_append {free : ring.size < ring.slots.length} :
    (ring.append item free).capacity = ring.capacity := by
  simp [RingBuffer.capacity, append]

@[simp] theorem capacity_overwrite : (ring.overwrite item).capacity = ring.capacity := by
  simp [RingBuffer.capacity, overwrite]

@[simp] theorem capacity_clear : ring.clear.capacity = ring.capacity := by
  simp [RingBuffer.capacity, clear]

theorem empty_holds {capacity : Nat} (positive : 0 < capacity) :
    (empty capacity positive : RingBuffer Item).Holds [] where
  size := rfl
  slot := fun _ inside => absurd inside (Nat.not_lt_zero _)

theorem clear_holds : ring.clear.Holds [] where
  size := rfl
  slot := fun _ inside => absurd inside (Nat.not_lt_zero _)

/-- Two offsets within the capacity are two slots. -/
theorem position_injective {offset other : Nat} (inside : offset < ring.slots.length)
    (insideOther : other < ring.slots.length) (same : ring.position offset = ring.position other) :
    offset = other := by
  have congruent : Nat.ModEq ring.slots.length offset other := Nat.ModEq.add_left_cancel' ring.start same
  rwa [Nat.ModEq, Nat.mod_eq_of_lt inside, Nat.mod_eq_of_lt insideOther] at congruent

theorem append_holds (holds : ring.Holds items) (free : ring.size < ring.slots.length) :
    (ring.append item free).Holds (items ++ [item]) where
  size := by simp [append, holds.size]
  slot := by
    intro offset inside
    have capacity : (ring.append item free).slots.length = ring.slots.length := capacity_append
    have unmoved : (ring.append item free).position offset = ring.position offset := by
      rw [position, position, capacity]
      rfl
    rw [List.length_append, List.length_singleton] at inside
    rw [unmoved]
    by_cases last : offset = items.length
    · subst last
      rw [List.getElem_concat_length rfl, append, holds.size]
      exact List.getElem?_set_self position_lt
    · have within : offset < items.length := by omega
      have apart : ring.position ring.size ≠ ring.position offset := by
        intro same
        have size := position_injective free (Nat.lt_trans (holds.size ▸ within) free) same
        exact last (size.symm.trans holds.size.symm)
      rw [List.getElem_append_left within, append, List.getElem?_set_ne apart]
      exact holds.slot offset within

/-- A full buffer gives its oldest item up for the new one. -/
theorem overwrite_holds (holds : ring.Holds items) (full : ring.size = ring.slots.length) :
    (ring.overwrite item).Holds (items.drop 1 ++ [item]) where
  size := by
    have positive := ring.capacity_pos
    rw [RingBuffer.capacity, ← full, ← holds.size] at positive
    rw [List.length_append, List.length_drop, List.length_singleton, Nat.sub_add_cancel positive]
    exact holds.size
  slot := by
    intro offset inside
    have capacity : (ring.overwrite item).slots.length = ring.slots.length := capacity_overwrite
    have moved : (ring.overwrite item).position offset = ring.position (1 + offset) := by
      rw [position, position, capacity, overwrite]
      simp only [position, Nat.mod_add_mod, Nat.add_assoc]
    have length : items.length = ring.slots.length := holds.size.trans full
    rw [List.length_append, List.length_drop, List.length_singleton] at inside
    rw [moved]
    by_cases last : offset = items.length - 1
    · subst last
      have wrapped : ring.position (1 + (items.length - 1)) = ring.start := by
        have positive := ring.capacity_pos
        rw [RingBuffer.capacity, ← length] at positive
        rw [position, Nat.add_sub_cancel' positive, length, Nat.add_mod_right, Nat.mod_eq_of_lt ring.start_lt]
      have shorter : (items.drop 1).length = items.length - 1 := List.length_drop
      rw [List.getElem_concat_length shorter.symm, wrapped, overwrite]
      exact List.getElem?_set_self ring.start_lt
    · have within : offset < (items.drop 1).length := by
        rw [List.length_drop]
        omega
      have next : 1 + offset < items.length := by omega
      have apart : ring.start ≠ ring.position (1 + offset) := by
        intro same
        have first : ring.position 0 = ring.position (1 + offset) := by
          rw [← same, position, Nat.add_zero, Nat.mod_eq_of_lt ring.start_lt]
        have zero := position_injective ring.capacity_pos (length ▸ next) first
        omega
      rw [List.getElem_append_left within, List.getElem_drop, overwrite, List.getElem?_set_ne apart]
      exact holds.slot (1 + offset) next

private theorem filterMap_slots (slot : Nat → Option (Option Item))
    (read : ∀ offset (inside : offset < items.length), slot offset = some (some items[offset])) :
    ((List.range items.length).filterMap fun offset => (slot offset).join) = items := by
  induction items generalizing slot with
  | nil => rfl
  | cons first rest ih =>
    have here := read 0 (Nat.zero_lt_succ _)
    have later := ih (fun offset => slot (offset + 1)) fun offset inside =>
      read (offset + 1) (Nat.succ_lt_succ inside)
    rw [List.length_cons, List.range_succ_eq_map, List.filterMap_cons, List.filterMap_map, here]
    exact congrArg (first :: ·) later

/-- What the buffer is read as is what it keeps. -/
theorem toList_of_holds (holds : ring.Holds items) : ring.toList = items := by
  rw [toList, ← holds.size]
  exact filterMap_slots _ holds.slot

end RingBuffer

section Ends

variable {Item : Type u} {items : List Item} {item : Item} {capacity : Nat}

/-- The last items of a list, as many as there is room for. -/
def lastOf (capacity : Nat) (items : List Item) : List Item := items.drop (items.length - capacity)

theorem lastOf_length : (lastOf capacity items).length = min capacity items.length := by
  rw [lastOf, List.length_drop]
  omega

theorem lastOf_short (short : items.length ≤ capacity) : lastOf capacity items = items := by
  rw [lastOf, Nat.sub_eq_zero_of_le short, List.drop_zero]

theorem lastOf_append_free (free : items.length < capacity) :
    lastOf capacity (items ++ [item]) = lastOf capacity items ++ [item] := by
  rw [lastOf_short (Nat.le_of_lt free), lastOf_short]
  rwa [List.length_append, List.length_singleton]

theorem lastOf_append_full (positive : 0 < capacity) (full : capacity ≤ items.length) :
    lastOf capacity (items ++ [item]) = (lastOf capacity items).drop 1 ++ [item] := by
  have count : items.length + 1 - capacity = items.length - capacity + 1 := by omega
  have within : items.length - capacity + 1 ≤ items.length := by omega
  rw [lastOf, lastOf, List.length_append, List.length_singleton, count, List.drop_append_of_le_length within,
    List.drop_drop]

end Ends

end CanX.Storage
