import CanX.Storage.OrderedMap

/-! The workspace session: the open project and the binding of channels to assets. Every edit
of the bindings makes a new map, and an observer tells maps apart by their identity. -/

namespace CanX.Desktop

open Storage

/-- What the Runtime said that a directory is. -/
structure ProjectReadModel where
  projectId : String
  displayName : String
  schemaVersion : Int
  createdAt : String
  updatedAt : String
  deriving DecidableEq

structure OpenedProject where
  projectPath : String
  project : ProjectReadModel
  deriving DecidableEq

structure SignalSelection where
  channelId : String
  assetId : String
  messageName : String
  signalName : String
  unit : Option String
  deriving DecidableEq

/-- The identity of the map, and what it maps. -/
structure DecodeBindings where
  identity : Nat
  assets : OrderedMap String String

/-- The one shared empty map. -/
def DecodeBindings.noBindings : DecodeBindings := ⟨0, .empty⟩

structure WorkspaceSessionSnapshot where
  openedProject : Option OpenedProject
  dbcBindings : DecodeBindings
  browsedAssetId : Option String
  selectedSignal : Option SignalSelection

def WorkspaceSessionSnapshot.empty : WorkspaceSessionSnapshot := ⟨none, .noBindings, none, none⟩

/-- `fresh` bounds the identities that have been given out, and only the shared map has the
first of them. Nothing is bound where no project is open. -/
structure WorkspaceSessionStore where
  snapshot : WorkspaceSessionSnapshot
  nextIdentity : Nat
  fresh : snapshot.dbcBindings.identity < nextIdentity
  shared : snapshot.dbcBindings.identity = 0 → snapshot.dbcBindings.assets.entries = []
  owned : snapshot.openedProject = none → snapshot.dbcBindings.assets.entries = []

inductive SessionCall
  | openProject (opened : OpenedProject)
  | closeProject
  | browseAsset (assetId : Option String)
  | bindChannel (channelId assetId : String)
  | unbindChannel (channelId : String)
  | clearBindings
  | selectSignal (selection : Option SignalSelection)

namespace WorkspaceSessionStore

variable {store next : WorkspaceSessionStore} {call : SessionCall}

def create : WorkspaceSessionStore := ⟨.empty, 1, Nat.zero_lt_one, (fun _ => rfl), fun _ => rfl⟩

def projectPath (store : WorkspaceSessionStore) : Option String :=
  store.snapshot.openedProject.map OpenedProject.projectPath

def assetForChannel (store : WorkspaceSessionStore) (channelId : String) : Option String :=
  store.snapshot.dbcBindings.assets.lookup channelId

def selectionUnder (store : WorkspaceSessionStore) (assets : OrderedMap String String) :
    Option SignalSelection :=
  store.snapshot.selectedSignal.filter fun selection =>
    assets.lookup selection.channelId = some selection.assetId

/-- Publish a new map of bindings. -/
def rebind (store : WorkspaceSessionStore) (opened : store.snapshot.openedProject ≠ none)
    (assets : OrderedMap String String) : WorkspaceSessionStore where
  snapshot := { store.snapshot with
    dbcBindings := ⟨store.nextIdentity, assets⟩
    selectedSignal := store.selectionUnder assets }
  nextIdentity := store.nextIdentity + 1
  fresh := Nat.lt_succ_self _
  shared := fun zero => absurd zero (Nat.ne_of_gt (Nat.zero_lt_of_lt store.fresh))
  owned := fun closed => absurd closed opened

/-- Publish the shared empty map, with a project and what is being browsed. -/
def unbound (store : WorkspaceSessionStore) (openedProject : Option OpenedProject)
    (browsedAssetId : Option String) : WorkspaceSessionStore where
  snapshot := ⟨openedProject, .noBindings, browsedAssetId, none⟩
  nextIdentity := store.nextIdentity
  fresh := Nat.zero_lt_of_lt store.fresh
  shared := fun _ => rfl
  owned := fun _ => rfl

theorem opened_of_bound {channelId : String} (bound : ¬ store.assetForChannel channelId = none) :
    store.snapshot.openedProject ≠ none := by
  intro closed
  refine bound (OrderedMap.lookup_none.mpr fun entry member => ?_)
  rw [store.owned closed] at member
  cases member

/-- What a call publishes; `none` where it throws, or changes nothing and publishes nothing. -/
def perform (store : WorkspaceSessionStore) : SessionCall → Option WorkspaceSessionStore
  | .openProject opened =>
    if opened.projectPath = "" then none else some (store.unbound (some opened) none)
  | .closeProject =>
    if store.snapshot.openedProject = none ∧ store.snapshot.dbcBindings.identity = 0 ∧
        store.snapshot.browsedAssetId = none ∧ store.snapshot.selectedSignal = none then none
    else some (store.unbound none none)
  | .browseAsset assetId =>
    if store.snapshot.browsedAssetId = assetId then none
    else some { store with snapshot := { store.snapshot with browsedAssetId := assetId } }
  | .bindChannel channelId assetId =>
    if closed : store.snapshot.openedProject = none then none
    else if channelId = "" ∨ assetId = "" then none
    else if store.assetForChannel channelId = some assetId then none
    else some (store.rebind closed (store.snapshot.dbcBindings.assets.assign channelId assetId))
  | .unbindChannel channelId =>
    if unbound : store.assetForChannel channelId = none then none
    else some (store.rebind (opened_of_bound unbound) (store.snapshot.dbcBindings.assets.erase channelId))
  | .clearBindings =>
    if store.snapshot.dbcBindings.assets.size = 0 ∧ store.snapshot.selectedSignal = none then none
    else some (store.unbound store.snapshot.openedProject store.snapshot.browsedAssetId)
  | .selectSignal selection =>
    match selection with
    | some selected =>
      if store.assetForChannel selected.channelId ≠ some selected.assetId then none
      else some { store with snapshot := { store.snapshot with selectedSignal := some selected } }
    | none =>
      if store.snapshot.selectedSignal = none then none
      else some { store with snapshot := { store.snapshot with selectedSignal := none } }

/-- Whether a call that was published changed the project or the bindings. -/
def changedBy (store : WorkspaceSessionStore) (next : WorkspaceSessionStore) (call : SessionCall) : Bool :=
  match call with
  | .openProject _ | .closeProject => true
  | _ => next.snapshot.dbcBindings.identity ≠ store.snapshot.dbcBindings.identity

theorem assetForChannel_shared (zero : store.snapshot.dbcBindings.identity = 0) (channelId : String) :
    store.assetForChannel channelId = none := by
  refine OrderedMap.lookup_none.mpr fun entry member => ?_
  rw [store.shared zero] at member
  cases member

/-- After a call, the bindings are a map that was never seen or the shared empty one, or else
nothing was changed. -/
theorem perform_bindings (performed : store.perform call = some next) :
    (next.snapshot.dbcBindings = store.snapshot.dbcBindings ∧ next.projectPath = store.projectPath ∧
        store.changedBy next call = false) ∨
      store.snapshot.dbcBindings.identity < next.snapshot.dbcBindings.identity ∨
        next.snapshot.dbcBindings.identity = 0 := by
  cases call with
  | openProject opened =>
    simp only [perform, Option.ite_none_left_eq_some, Option.some.injEq] at performed
    obtain ⟨_, rfl⟩ := performed
    exact .inr (.inr rfl)
  | closeProject =>
    simp only [perform, Option.ite_none_left_eq_some, Option.some.injEq] at performed
    obtain ⟨_, rfl⟩ := performed
    exact .inr (.inr rfl)
  | browseAsset assetId =>
    simp only [perform, Option.ite_none_left_eq_some, Option.some.injEq] at performed
    obtain ⟨_, rfl⟩ := performed
    exact .inl ⟨rfl, rfl, by simp [changedBy]⟩
  | bindChannel channelId assetId =>
    simp only [perform, Option.dite_none_left_eq_some, Option.ite_none_left_eq_some, Option.some.injEq] at performed
    obtain ⟨_, _, _, rfl⟩ := performed
    exact .inr (.inl store.fresh)
  | unbindChannel channelId =>
    simp only [perform, Option.dite_none_left_eq_some, Option.some.injEq] at performed
    obtain ⟨_, rfl⟩ := performed
    exact .inr (.inl store.fresh)
  | clearBindings =>
    simp only [perform, Option.ite_none_left_eq_some, Option.some.injEq] at performed
    obtain ⟨_, rfl⟩ := performed
    exact .inr (.inr rfl)
  | selectSignal selection =>
    cases selection with
    | none =>
      simp only [perform, Option.ite_none_left_eq_some, Option.some.injEq] at performed
      obtain ⟨_, rfl⟩ := performed
      exact .inl ⟨rfl, rfl, by simp [changedBy]⟩
    | some selected =>
      simp only [perform, Option.ite_none_left_eq_some, Option.some.injEq] at performed
      obtain ⟨_, rfl⟩ := performed
      exact .inl ⟨rfl, rfl, by simp [changedBy]⟩

end WorkspaceSessionStore

end CanX.Desktop
