import Mathlib.Data.List.Nodup

/-! Rows kept in insertion order and changed by condition, as a relational store
changes them: an update rewrites the rows it selects and counts them. -/

namespace CanX.Storage

universe u v
variable {Row : Type u} {Key : Type v}

/-- `UPDATE … SET change WHERE selected`. -/
def modifyWhere (selected : Row → Bool) (change : Row → Row) (rows : List Row) : List Row :=
  rows.map fun row => if selected row then change row else row

/-- How many rows an update selects. -/
def affected (selected : Row → Bool) (rows : List Row) : Nat := rows.countP selected

theorem map_modifyWhere (key : Row → Key) (selected : Row → Bool) (change : Row → Row)
    (rows : List Row) (keeps : ∀ row, selected row = true → key (change row) = key row) :
    (modifyWhere selected change rows).map key = rows.map key := by
  rw [modifyWhere, List.map_map]
  apply List.map_congr_left
  intro row _
  by_cases chosen : selected row = true
  · simp [chosen, keeps row chosen]
  · simp [chosen]

/-- A row with a fresh key keeps the key column free of repetitions. -/
theorem nodup_map_append {key : Row → Key} {rows : List Row} {row : Row}
    (unique : (rows.map key).Nodup) (fresh : key row ∉ rows.map key) :
    ((rows ++ [row]).map key).Nodup := by
  rw [List.map_append, List.map_singleton, ← List.concat_eq_append]
  exact unique.concat fresh

variable [DecidableEq Key]

/-- The row stored under a key. -/
def lookup (key : Row → Key) (wanted : Key) (rows : List Row) : Option Row :=
  rows.find? fun row => decide (key row = wanted)

/-- An update that keeps keys acts on the row found under a key. -/
theorem lookup_modifyWhere (key : Row → Key) (wanted : Key) (selected : Row → Bool)
    (change : Row → Row) (rows : List Row)
    (keeps : ∀ row, selected row = true → key (change row) = key row) :
    lookup key wanted (modifyWhere selected change rows) =
      (lookup key wanted rows).map fun row => if selected row then change row else row := by
  have same (row : Row) : key (if selected row then change row else row) = key row := by
    split
    · rename_i chosen
      exact keeps row chosen
    · rfl
  induction rows with
  | nil => rfl
  | cons row rest ih =>
    simp only [lookup, modifyWhere, List.map_cons, List.find?_cons, same] at ih ⊢
    by_cases found : key row = wanted
    · simp [found]
    · simpa [found] using ih

theorem lookup_key {key : Row → Key} {wanted : Key} {rows : List Row} {row : Row}
    (found : lookup key wanted rows = some row) : key row = wanted := by
  have matched := List.find?_some found
  simpa using matched

theorem lookup_mem {key : Row → Key} {wanted : Key} {rows : List Row} {row : Row}
    (found : lookup key wanted rows = some row) : row ∈ rows :=
  List.mem_of_find?_eq_some found

theorem lookup_of_mem {key : Row → Key} {rows : List Row} {row : Row} (unique : (rows.map key).Nodup)
    (member : row ∈ rows) : lookup key (key row) rows = some row := by
  induction rows with
  | nil => cases member
  | cons first rest ih =>
    obtain ⟨fresh, remaining⟩ := List.nodup_cons.mp unique
    rcases List.mem_cons.mp member with rfl | later
    · simp [lookup]
    · have other : key first ≠ key row := fun same => fresh (same ▸ List.mem_map_of_mem later)
      have found := ih remaining later
      rw [lookup, List.find?_cons, decide_eq_false other]
      exact found

theorem lookup_append_fresh (key : Row → Key) (wanted : Key) (rows : List Row) (row : Row)
    (absent : lookup key wanted rows = none) :
    lookup key wanted (rows ++ [row]) = if key row = wanted then some row else none := by
  simp only [lookup] at absent ⊢
  rw [List.find?_append, absent, Option.none_or, List.find?_singleton]
  simp

/-- An update whose condition fixes the key counts the row found there, if it
selects it. -/
theorem affected_keyed {key : Row → Key} {wanted : Key} {selected : Row → Bool}
    {rows : List Row} (keyed : ∀ row, selected row = true → key row = wanted)
    (unique : (rows.map key).Nodup) :
    affected selected rows = if (lookup key wanted rows).any selected then 1 else 0 := by
  induction rows with
  | nil => rfl
  | cons row rest ih =>
    obtain ⟨fresh, remaining⟩ := List.nodup_cons.mp unique
    have counted := ih remaining
    simp only [affected, lookup, List.countP_cons, List.find?_cons] at counted ⊢
    by_cases here : key row = wanted
    · have none : rest.countP selected = 0 := by
        rw [List.countP_eq_zero]
        intro other member chosen
        have same : key other = key row := (keyed other chosen).trans here.symm
        exact fresh (same ▸ List.mem_map_of_mem member)
      simp [here, none]
    · have refused : selected row = false := by
        by_contra chosen
        exact here (keyed row (by simpa using chosen))
      simp only [here, refused, decide_false, Bool.false_eq_true, if_false, Nat.add_zero]
      exact counted

/-- Store a row under its key: in place where the key is known, else at the end. -/
def upsert (key : Row → Key) (row : Row) (rows : List Row) : List Row :=
  if key row ∈ rows.map key then
    modifyWhere (fun stored => decide (key stored = key row)) (fun _ => row) rows
  else rows ++ [row]

/-- Drop what is stored under a key. -/
def remove (key : Row → Key) (unwanted : Key) (rows : List Row) : List Row :=
  rows.filter fun row => !decide (key row = unwanted)

theorem upsert_nodup {key : Row → Key} {rows : List Row} (row : Row)
    (unique : (rows.map key).Nodup) : ((upsert key row rows).map key).Nodup := by
  unfold upsert
  split
  · rw [map_modifyWhere]
    · exact unique
    · intro stored same
      exact (of_decide_eq_true same).symm
  · rename_i fresh
    exact nodup_map_append unique fresh

theorem remove_nodup {key : Row → Key} {rows : List Row} (unwanted : Key)
    (unique : (rows.map key).Nodup) : ((remove key unwanted rows).map key).Nodup :=
  unique.sublist (List.filter_sublist.map key)

theorem lookup_eq_none {key : Row → Key} {wanted : Key} {rows : List Row} :
    lookup key wanted rows = none ↔ wanted ∉ rows.map key := by
  simp [lookup, List.find?_eq_none]

theorem lookup_upsert (key : Row → Key) (wanted : Key) (row : Row) (rows : List Row) :
    lookup key wanted (upsert key row rows) =
      if key row = wanted then some row else lookup key wanted rows := by
  unfold upsert
  split
  · rename_i known
    rw [lookup_modifyWhere]
    · by_cases same : key row = wanted
      · obtain ⟨stored, found⟩ : ∃ stored, lookup key wanted rows = some stored := by
          rw [← Option.ne_none_iff_exists', ne_eq, lookup_eq_none, ← same, not_not]
          exact known
        simp [same, found, lookup_key found]
      · cases found : lookup key wanted rows with
        | none => simp [same]
        | some stored =>
          have other : wanted ≠ key row := fun equal => same equal.symm
          simp [same, other, lookup_key found]
    · intro stored same
      exact (of_decide_eq_true same).symm
  · rename_i fresh
    by_cases same : key row = wanted
    · rw [lookup_append_fresh _ _ _ _ (lookup_eq_none.mpr (same ▸ fresh))]
      simp [same]
    · simp [lookup, List.find?_append, same]

theorem lookup_remove (key : Row → Key) (wanted unwanted : Key) (rows : List Row) :
    lookup key wanted (remove key unwanted rows) =
      if wanted = unwanted then none else lookup key wanted rows := by
  induction rows with
  | nil => simp [lookup, remove]
  | cons row rest ih =>
    simp only [lookup, remove, List.filter_cons, List.find?_cons] at ih ⊢
    by_cases dropped : key row = unwanted
    · by_cases same : wanted = unwanted
      · simp [dropped, same]
      · have other : key row ≠ wanted := fun equal => same (equal.symm.trans dropped)
        have refused : unwanted ≠ wanted := fun equal => same equal.symm
        simpa [dropped, same, other, refused] using ih
    · by_cases here : key row = wanted
      · have kept : wanted ≠ unwanted := fun equal => dropped (here.trans equal)
        simp [here, kept]
      · simpa [dropped, here] using ih

/-- Dropping what was just stored leaves what dropping it before would have left. -/
theorem remove_upsert (key : Row → Key) (row : Row) (rows : List Row) :
    remove key (key row) (upsert key row rows) = remove key (key row) rows := by
  unfold upsert
  split
  · clear * -
    induction rows with
    | nil => rfl
    | cons stored rest ih =>
      by_cases same : key stored = key row
      · simpa [modifyWhere, remove, same] using ih
      · simpa [modifyWhere, remove, same] using ih
  · simp [remove]

end CanX.Storage
