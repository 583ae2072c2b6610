import Mathlib.Data.List.Nodup

/-! Finite maps that remember the order of their keys, and the operations that a
least-recently-used cache is made of. -/

namespace CanX.Storage

variable {Key Value : Type}

/-- A map as its entries, oldest first; no key occurs twice. -/
structure OrderedMap (Key Value : Type) where
  entries : List (Key × Value)
  distinct : (entries.map Prod.fst).Nodup

namespace OrderedMap

variable {map : OrderedMap Key Value} {key other : Key} {value : Value} {entry : Key × Value}

def empty : OrderedMap Key Value := ⟨[], List.nodup_nil⟩

def size (map : OrderedMap Key Value) : Nat := map.entries.length

theorem value_unique {first second : Value} (one : (key, first) ∈ map.entries)
    (two : (key, second) ∈ map.entries) : first = second := by
  have same := List.inj_on_of_nodup_map map.distinct one two rfl
  exact congrArg Prod.snd same

section Operations

variable [DecidableEq Key]

def lookup (map : OrderedMap Key Value) (key : Key) : Option Value :=
  (map.entries.find? fun entry => decide (entry.1 = key)).map Prod.snd

/-- The map without one key. -/
def erase (map : OrderedMap Key Value) (key : Key) : OrderedMap Key Value where
  entries := map.entries.filter fun entry => entry.1 ≠ key
  distinct := map.distinct.sublist (List.filter_sublist.map _)

theorem mem_erase : entry ∈ (map.erase key).entries ↔ entry ∈ map.entries ∧ entry.1 ≠ key := by
  simp [erase]

/-- A key that is put last. -/
def append (map : OrderedMap Key Value) (key : Key) (value : Value)
    (absent : ∀ entry ∈ map.entries, entry.1 ≠ key) : OrderedMap Key Value where
  entries := map.entries ++ [(key, value)]
  distinct := by
    rw [List.map_append, List.nodup_append]
    refine ⟨map.distinct, List.nodup_singleton _, ?_⟩
    intro held member fresh last
    obtain ⟨entry, present, rfl⟩ := List.mem_map.mp member
    rw [List.eq_of_mem_singleton last]
    exact absent entry present

/-- `map[key] = value`: a key that is there keeps its place. -/
def assign (map : OrderedMap Key Value) (key : Key) (value : Value) : OrderedMap Key Value :=
  if absent : ∀ entry ∈ map.entries, entry.1 ≠ key then map.append key value absent
  else {
    entries := map.entries.map fun entry => if entry.1 = key then (key, value) else entry
    distinct := by
      have keys : (Prod.fst ∘ fun entry : Key × Value =>
          if entry.1 = key then (key, value) else entry) = Prod.fst := by
        funext entry
        simp only [Function.comp_apply]
        split
        · rename_i same
          exact same.symm
        · rfl
      rw [List.map_map, keys]
      exact map.distinct }

/-- A key that is there becomes the last one. -/
def moveToEnd (map : OrderedMap Key Value) (key : Key) : OrderedMap Key Value :=
  match map.lookup key with
  | none => map
  | some value => (map.erase key).append key value fun _ member => (mem_erase.mp member).2

theorem lookup_some : map.lookup key = some value ↔ (key, value) ∈ map.entries := by
  rw [lookup, Option.map_eq_some_iff]
  constructor
  · rintro ⟨⟨held, found⟩, first, rfl⟩
    have same : held = key := by simpa using List.find?_some first
    exact same ▸ List.mem_of_find?_eq_some first
  · intro member
    cases first : map.entries.find? (fun entry => decide (entry.1 = key)) with
    | none => simpa using List.find?_eq_none.mp first _ member
    | some entry =>
      obtain ⟨held, found⟩ := entry
      have same : held = key := by simpa using List.find?_some first
      subst same
      exact ⟨_, rfl, value_unique (List.mem_of_find?_eq_some first) member⟩

theorem lookup_none : map.lookup key = none ↔ ∀ entry ∈ map.entries, entry.1 ≠ key := by
  rw [lookup, Option.map_eq_none_iff, List.find?_eq_none]
  simp

theorem mem_assign : entry ∈ (map.assign key value).entries ↔
    entry = (key, value) ∨ entry ∈ map.entries ∧ entry.1 ≠ key := by
  unfold assign
  split
  · rename_i absent
    simp only [append, List.mem_append, List.mem_singleton]
    constructor
    · rintro (member | rfl)
      · exact .inr ⟨member, absent entry member⟩
      · exact .inl rfl
    · rintro (rfl | ⟨member, _⟩)
      · exact .inr rfl
      · exact .inl member
  · rename_i present
    push Not at present
    obtain ⟨held, member, same⟩ := present
    simp only [List.mem_map]
    constructor
    · rintro ⟨stored, inside, rfl⟩
      split
      · exact .inl rfl
      · rename_i different
        exact .inr ⟨inside, different⟩
    · rintro (rfl | ⟨inside, different⟩)
      · exact ⟨held, member, if_pos same⟩
      · exact ⟨entry, inside, if_neg different⟩

theorem lookup_assign_self : (map.assign key value).lookup key = some value :=
  lookup_some.mpr (mem_assign.mpr (.inl rfl))

theorem lookup_assign_other (different : other ≠ key) :
    (map.assign key value).lookup other = map.lookup other := by
  cases found : map.lookup other with
  | none =>
    have absent := lookup_none.mp found
    refine lookup_none.mpr fun entry member => ?_
    rcases mem_assign.mp member with rfl | ⟨held, _⟩
    · exact different.symm
    · exact absent entry held
  | some stored =>
    exact lookup_some.mpr (mem_assign.mpr (.inr ⟨lookup_some.mp found, different⟩))

/-- An assignment to a new key puts it last and keeps the others where they are. -/
theorem assign_keys_absent (absent : key ∉ map.entries.map Prod.fst) :
    (map.assign key value).entries = map.entries ++ [(key, value)] := by
  have none : ∀ entry ∈ map.entries, entry.1 ≠ key := by
    intro entry member same
    exact absent (List.mem_map.mpr ⟨entry, member, same⟩)
  unfold assign
  rw [dif_pos none]
  rfl

/-- An assignment to a key that is there keeps the order of the keys. -/
theorem assign_keys_present (present : key ∈ map.entries.map Prod.fst) :
    (map.assign key value).entries.map Prod.fst = map.entries.map Prod.fst := by
  obtain ⟨entry, member, same⟩ := List.mem_map.mp present
  have held : ¬ ∀ entry ∈ map.entries, entry.1 ≠ key := fun none => none entry member same
  unfold assign
  rw [dif_neg held, List.map_map]
  refine List.map_congr_left fun entry _ => ?_
  simp only [Function.comp_apply]
  split
  · rename_i same
    exact same.symm
  · rfl

theorem lookup_isSome : (map.lookup key).isSome = true ↔ key ∈ map.entries.map Prod.fst := by
  rw [Option.isSome_iff_exists, List.mem_map]
  constructor
  · rintro ⟨value, found⟩
    exact ⟨(key, value), lookup_some.mp found, rfl⟩
  · rintro ⟨⟨held, value⟩, member, rfl⟩
    exact ⟨value, lookup_some.mpr member⟩

theorem mem_moveToEnd : entry ∈ (map.moveToEnd key).entries ↔ entry ∈ map.entries := by
  unfold moveToEnd
  split
  · rfl
  · rename_i value found
    have member := lookup_some.mp found
    simp only [append, List.mem_append, List.mem_singleton, mem_erase]
    constructor
    · rintro (⟨inside, _⟩ | rfl)
      · exact inside
      · exact member
    · intro inside
      by_cases same : entry.1 = key
      · right
        obtain ⟨held, stored⟩ := entry
        cases same
        rw [value_unique inside member]
      · exact .inl ⟨inside, same⟩

theorem moveToEnd_size : (map.moveToEnd key).size = map.size := by
  have same : (map.moveToEnd key).entries.Perm map.entries :=
    (List.perm_ext_iff_of_nodup (map.moveToEnd key).distinct.of_map map.distinct.of_map).mpr
      fun _ => mem_moveToEnd
  exact same.length_eq

end Operations

/-- `popitem(last=False)` for as long as there are more than `bound` entries. -/
def trimmed (bound : Nat) : List (Key × Value) → List (Key × Value)
  | [] => []
  | oldest :: rest =>
    if bound < (oldest :: rest).length then trimmed bound rest else oldest :: rest

theorem trimmed_suffix (bound : Nat) (entries : List (Key × Value)) :
    (trimmed bound entries).IsSuffix entries := by
  induction entries with
  | nil => exact List.suffix_rfl
  | cons oldest rest ih =>
    unfold trimmed
    split
    · exact ih.trans (List.suffix_cons _ _)
    · exact List.suffix_rfl

theorem trimmed_length (bound : Nat) (entries : List (Key × Value)) :
    (trimmed bound entries).length = min bound entries.length := by
  induction entries with
  | nil => simp [trimmed]
  | cons oldest rest ih =>
    unfold trimmed
    split
    · rename_i past
      rw [ih]
      simp only [List.length_cons] at past ⊢
      omega
    · rename_i within
      omega

theorem trimmed_eq_drop (bound : Nat) (entries : List (Key × Value)) :
    trimmed bound entries = entries.drop (entries.length - bound) := by
  have same := List.suffix_iff_eq_drop.mp (trimmed_suffix bound entries)
  rw [trimmed_length] at same
  have beyond : entries.length - min bound entries.length = entries.length - bound := by omega
  rw [beyond] at same
  exact same

def trim (map : OrderedMap Key Value) (bound : Nat) : OrderedMap Key Value where
  entries := trimmed bound map.entries
  distinct := map.distinct.sublist ((trimmed_suffix bound map.entries).sublist.map _)

theorem trim_size (bound : Nat) : (map.trim bound).size ≤ bound := by
  rw [size, trim, trimmed_length]
  exact Nat.min_le_left ..

theorem mem_of_trim {bound : Nat} (member : entry ∈ (map.trim bound).entries) : entry ∈ map.entries :=
  (trimmed_suffix bound map.entries).subset member

end OrderedMap

end CanX.Storage
