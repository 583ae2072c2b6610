import Mathlib.Logic.Basic

/-! A store that admits one write transaction at a time. The transaction works on a
content of its own, which the others see once it is committed. -/

namespace CanX.Storage

universe u v

structure Shared (Connection : Type u) (Content : Type v) where
  committed : Content
  transaction : Option (Connection × Content)

namespace Shared

variable {Connection : Type u} {Content : Type v} {store : Shared Connection Content}
variable {connection other : Connection} {content written : Content}

/-- `connection` is inside a transaction that has written `content` so far. -/
def Holds (store : Shared Connection Content) (connection : Connection) (content : Content) : Prop :=
  store.transaction = some (connection, content)

/-- `BEGIN IMMEDIATE`; it waits while another transaction is open. -/
def begin (store : Shared Connection Content) (connection : Connection) :
    Option (Shared Connection Content) :=
  match store.transaction with
  | none => some { store with transaction := some (connection, store.committed) }
  | some _ => none

/-- A write inside the transaction. -/
def write (store : Shared Connection Content) (connection : Connection) (content : Content) :
    Shared Connection Content :=
  { store with transaction := some (connection, content) }

theorem write_holds : (store.write connection content).Holds connection content := rfl

theorem begin_holds {begun : Shared Connection Content} (moved : store.begin connection = some begun) :
    begun.Holds connection store.committed ∧ begun.committed = store.committed ∧
      store.transaction = none := by
  unfold begin at moved
  split at moved
  · rename_i free
    cases moved
    exact ⟨rfl, rfl, free⟩
  · cases moved

/-- Two transactions are never open at once. -/
theorem Holds.exclusive (holds : store.Holds connection content) (also : store.Holds other written) :
    connection = other ∧ content = written := by
  cases holds.symm.trans also
  exact ⟨rfl, rfl⟩

variable [DecidableEq Connection]

/-- What a connection reads. -/
def visible (store : Shared Connection Content) (connection : Connection) : Content :=
  match store.transaction with
  | some (owner, content) => if owner = connection then content else store.committed
  | none => store.committed

def commit (store : Shared Connection Content) (connection : Connection) : Shared Connection Content :=
  ⟨store.visible connection, none⟩

/-- Drop the transaction of a connection, if it is the open one. -/
def rollback (store : Shared Connection Content) (connection : Connection) :
    Shared Connection Content :=
  match store.transaction with
  | some (owner, _) => if owner = connection then { store with transaction := none } else store
  | none => store

theorem Holds.visible (holds : store.Holds connection content) : store.visible connection = content := by
  simp only [Shared.visible, Holds] at holds ⊢
  rw [holds]
  exact if_pos rfl

/-- A connection outside the transaction reads what is committed. -/
theorem visible_committed (outside : ∀ content, ¬ store.Holds connection content) :
    store.visible connection = store.committed := by
  unfold Shared.visible
  split
  · rename_i owner content opened
    have different : owner ≠ connection := by
      rintro rfl
      exact outside content opened
    exact if_neg different
  · rfl

theorem rollback_committed : (store.rollback connection).committed = store.committed := by
  unfold rollback
  split
  · split <;> rfl
  · rfl

/-- After a rollback the connection is outside every transaction. -/
theorem rollback_released : ¬ (store.rollback connection).Holds connection content := by
  unfold rollback
  split
  · rename_i owner written opened
    split
    · nofun
    · rename_i different
      intro holds
      cases opened.symm.trans holds
      exact different rfl
  · rename_i free
    intro holds
    cases free.symm.trans holds

/-- A rollback leaves the transaction of any other connection alone. -/
theorem rollback_other (different : other ≠ connection) :
    (store.rollback connection).Holds other content ↔ store.Holds other content := by
  unfold rollback
  split
  · rename_i owner written opened
    split
    · rename_i same
      constructor
      · nofun
      · intro holds
        cases opened.symm.trans holds
        exact absurd same different
    · rfl
  · rfl

end Shared

end CanX.Storage
