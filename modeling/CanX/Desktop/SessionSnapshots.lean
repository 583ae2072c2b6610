import CanX.Desktop.WorkspaceSession
import Mathlib.Tactic.ByContra

/-! The workspace session with its objects told apart: a snapshot, a map of bindings and a selection are each the
object that they are, whatever they hold. -/

namespace CanX.Desktop

open Storage

structure SnapshotObject where
  identity : Nat
  openedProject : Option OpenedProject
  dbcBindings : DecodeBindings
  browsedAssetId : Option String
  /-- The selection that the caller handed over, by its identity. -/
  selectedSignal : Option Nat

/-- `EMPTY_WORKSPACE_SESSION`. -/
def SnapshotObject.empty : SnapshotObject := ⟨0, none, .noBindings, none, none⟩

def SnapshotObject.projectPath (snapshot : SnapshotObject) : Option String :=
  snapshot.openedProject.map OpenedProject.projectPath

/-- The store, and the identities that its next objects get. -/
structure SessionObjects where
  snapshot : SnapshotObject
  nextSnapshot : Nat
  nextBindings : Nat

inductive SessionRequest
  | openProject (opened : OpenedProject)
  | closeProject
  | browseAsset (assetId : Option String)
  | bindChannel (channelId assetId : String)
  | unbindChannel (channelId : String)
  | clearBindings
  | selectSignal (selection : Option Nat)

inductive SessionOutcome
  | published
  | unchanged
  /-- The call threw. -/
  | refused (message : String)
  deriving DecidableEq

/-- The call that a request is, for what its selection names. -/
def SessionRequest.call (selections : Nat → SignalSelection) : SessionRequest → SessionCall
  | .openProject opened => .openProject opened
  | .closeProject => .closeProject
  | .browseAsset assetId => .browseAsset assetId
  | .bindChannel channelId assetId => .bindChannel channelId assetId
  | .unbindChannel channelId => .unbindChannel channelId
  | .clearBindings => .clearBindings
  | .selectSignal selection => .selectSignal (selection.map selections)

namespace SessionObjects

def create : SessionObjects := ⟨.empty, 1, 1⟩

def assetForChannel (store : SessionObjects) (channelId : String) : Option String :=
  store.snapshot.dbcBindings.assets.lookup channelId

section Calls

variable (selections : Nat → SignalSelection)

/-- The channel of a selection is bound to its asset. -/
def Bound (assets : OrderedMap String String) (selection : Nat) : Prop :=
  assets.lookup (selections selection).channelId = some (selections selection).assetId

instance (assets : OrderedMap String String) (selection : Nat) : Decidable (Bound selections assets selection) :=
  inferInstanceAs (Decidable (_ = _))

def selectionUnder (store : SessionObjects) (assets : OrderedMap String String) : Option Nat :=
  store.snapshot.selectedSignal.filter fun selection => decide (Bound selections assets selection)

/-- Publish a snapshot, which is a new object. -/
def publish (store : SessionObjects) (snapshot : SnapshotObject) : SessionObjects :=
  { store with snapshot := { snapshot with identity := store.nextSnapshot }, nextSnapshot := store.nextSnapshot + 1 }

/-- Publish a new map of bindings. -/
def rebind (store : SessionObjects) (assets : OrderedMap String String) : SessionObjects :=
  { store.publish { store.snapshot with
      dbcBindings := ⟨store.nextBindings, assets⟩
      selectedSignal := store.selectionUnder selections assets } with
    nextBindings := store.nextBindings + 1 }

def perform (store : SessionObjects) : SessionRequest → SessionOutcome × SessionObjects
  | .openProject opened =>
    if opened.projectPath = "" then
      (.refused "A workspace session cannot open a project without a path.", store)
    else (.published, store.publish { SnapshotObject.empty with openedProject := some opened })
  | .closeProject =>
    if store.snapshot.identity = SnapshotObject.empty.identity then (.unchanged, store)
    else (.published, { store with snapshot := .empty })
  | .browseAsset assetId =>
    if store.snapshot.browsedAssetId = assetId then (.unchanged, store)
    else (.published, store.publish { store.snapshot with browsedAssetId := assetId })
  | .bindChannel channelId assetId =>
    if store.snapshot.openedProject = none then
      (.refused "A workspace session cannot bind a channel without an open project.", store)
    else if channelId = "" ∨ assetId = "" then
      (.refused "A decode binding requires both a channel and an asset.", store)
    else if store.assetForChannel channelId = some assetId then (.unchanged, store)
    else (.published, store.rebind selections (store.snapshot.dbcBindings.assets.assign channelId assetId))
  | .unbindChannel channelId =>
    if store.assetForChannel channelId = none then (.unchanged, store)
    else (.published, store.rebind selections (store.snapshot.dbcBindings.assets.erase channelId))
  | .clearBindings =>
    if store.snapshot.dbcBindings.assets.size = 0 ∧ store.snapshot.selectedSignal = none then (.unchanged, store)
    else (.published, store.publish { store.snapshot with dbcBindings := .noBindings, selectedSignal := none })
  | .selectSignal selection =>
    if ∃ selected ∈ selection, ¬Bound selections store.snapshot.dbcBindings.assets selected then
      (.refused "A signal selection requires its channel to be bound to the selected asset.", store)
    else if store.snapshot.selectedSignal = selection then (.unchanged, store)
    else (.published, store.publish { store.snapshot with selectedSignal := selection })

/-- The store after a list of calls. -/
def run (store : SessionObjects) (requests : List SessionRequest) : SessionObjects :=
  requests.foldl (fun held request => (held.perform selections request).2) store

end Calls

/-- The comparison that the decode coordinator makes at every publication. -/
def seesChange (before after : SnapshotObject) : Bool :=
  (after.projectPath ≠ before.projectPath) || (after.dbcBindings.identity ≠ before.dbcBindings.identity)

/-- The bindings of two snapshots map the same channels to the same assets. -/
def SameContents (before after : SnapshotObject) : Prop :=
  ∀ channelId, after.dbcBindings.assets.lookup channelId = before.dbcBindings.assets.lookup channelId

section Steps

variable {selections : Nat → SignalSelection} {store after : SessionObjects} {request : SessionRequest}
variable {outcome : SessionOutcome} {message : String}

/-- Nothing is bound or selected that is not there, and only the shared map has the first identity. -/
structure Sound (selections : Nat → SignalSelection) (store : SessionObjects) : Prop where
  closed : store.snapshot.openedProject = none → store.snapshot.dbcBindings = .noBindings
  selected : ∀ selection ∈ store.snapshot.selectedSignal,
    Bound selections store.snapshot.dbcBindings.assets selection
  shared : store.snapshot.dbcBindings.identity = 0 → store.snapshot.dbcBindings = .noBindings
  fresh : store.snapshot.dbcBindings.identity < store.nextBindings
  named : ∀ opened ∈ store.snapshot.openedProject, opened.projectPath ≠ ""

/-- A call that leaves the project and the bindings alone. -/
structure Keeps (selections : Nat → SignalSelection) (store after : SessionObjects) : Prop where
  project : after.snapshot.openedProject = store.snapshot.openedProject
  bindings : after.snapshot.dbcBindings = store.snapshot.dbcBindings
  next : after.nextBindings = store.nextBindings
  selected : ∀ selection ∈ after.snapshot.selectedSignal,
    Bound selections store.snapshot.dbcBindings.assets selection

/-- A call that goes back to the shared map, with its reason. -/
structure Empties (store after : SessionObjects) (request : SessionRequest) : Prop where
  bindings : after.snapshot.dbcBindings = .noBindings
  selection : after.snapshot.selectedSignal = none
  next : after.nextBindings = store.nextBindings
  reason : (∃ opened, request = .openProject opened ∧ opened.projectPath ≠ "" ∧
      after.snapshot.openedProject = some opened) ∨
    (request = .closeProject ∧ after.snapshot.openedProject = none) ∨
    ((∃ channelId, store.assetForChannel channelId ≠ none) ∧
      after.snapshot.openedProject = store.snapshot.openedProject)

/-- A call that publishes a new map, with another asset for some channel. -/
structure Rebinds (selections : Nat → SignalSelection) (store after : SessionObjects) : Prop where
  project : after.snapshot.openedProject = store.snapshot.openedProject
  opened : store.snapshot.openedProject ≠ none
  identity : after.snapshot.dbcBindings.identity = store.nextBindings
  next : after.nextBindings = store.nextBindings + 1
  changed : ∃ channelId, after.assetForChannel channelId ≠ store.assetForChannel channelId
  selected : ∀ selection ∈ after.snapshot.selectedSignal,
    Bound selections after.snapshot.dbcBindings.assets selection

theorem Sound.opened (sound : Sound selections store) {channelId : String}
    (bound : store.assetForChannel channelId ≠ none) : store.snapshot.openedProject ≠ none := by
  intro closed
  rw [assetForChannel, sound.closed closed] at bound
  exact bound rfl

theorem rebind_rebinds (opened : store.snapshot.openedProject ≠ none) {assets : OrderedMap String String}
    (changed : ∃ channelId, assets.lookup channelId ≠ store.assetForChannel channelId) :
    Rebinds selections store (store.rebind selections assets) where
  project := rfl
  opened := opened
  identity := rfl
  next := rfl
  changed := changed
  selected := by
    intro selection held
    exact of_decide_eq_true (Option.mem_filter_iff.mp held).2

/-- With a binding or a selection there is a channel that is bound. -/
theorem bound_of_filled (sound : Sound selections store)
    (filled : ¬(store.snapshot.dbcBindings.assets.size = 0 ∧ store.snapshot.selectedSignal = none)) :
    ∃ channelId, store.assetForChannel channelId ≠ none := by
  by_cases empty : store.snapshot.dbcBindings.assets.size = 0
  · have selecting : store.snapshot.selectedSignal ≠ none := fun missing => filled ⟨empty, missing⟩
    obtain ⟨selection, held⟩ := Option.ne_none_iff_exists'.mp selecting
    have bound := sound.selected selection held
    exact ⟨(selections selection).channelId, by rw [assetForChannel, bound]; exact Option.some_ne_none _⟩
  · obtain ⟨entry, member⟩ := List.exists_mem_of_length_pos (Nat.pos_of_ne_zero empty)
    have held := OrderedMap.lookup_some.mpr member
    exact ⟨entry.1, by rw [assetForChannel, held]; exact Option.some_ne_none _⟩

/-- What a call does to the project and the bindings. -/
theorem perform_cases (sound : Sound selections store)
    (performed : store.perform selections request = (outcome, after)) :
    Keeps selections store after ∨ Empties store after request ∨ Rebinds selections store after := by
  have unchanged : Keeps selections store store := ⟨rfl, rfl, rfl, sound.selected⟩
  cases request with
  | openProject opened =>
    rw [perform] at performed
    split at performed
    · obtain ⟨-, rfl⟩ := Prod.mk.inj performed
      exact .inl unchanged
    · rename_i named
      obtain ⟨-, rfl⟩ := Prod.mk.inj performed
      exact .inr (.inl ⟨rfl, rfl, rfl, .inl ⟨opened, rfl, named, rfl⟩⟩)
  | closeProject =>
    rw [perform] at performed
    split at performed
    · obtain ⟨-, rfl⟩ := Prod.mk.inj performed
      exact .inl unchanged
    · obtain ⟨-, rfl⟩ := Prod.mk.inj performed
      exact .inr (.inl ⟨rfl, rfl, rfl, .inr (.inl ⟨rfl, rfl⟩)⟩)
  | browseAsset assetId =>
    rw [perform] at performed
    split at performed
    · obtain ⟨-, rfl⟩ := Prod.mk.inj performed
      exact .inl unchanged
    · obtain ⟨-, rfl⟩ := Prod.mk.inj performed
      exact .inl ⟨rfl, rfl, rfl, sound.selected⟩
  | bindChannel channelId assetId =>
    rw [perform] at performed
    split at performed
    · obtain ⟨-, rfl⟩ := Prod.mk.inj performed
      exact .inl unchanged
    · rename_i opened
      split at performed
      · obtain ⟨-, rfl⟩ := Prod.mk.inj performed
        exact .inl unchanged
      · split at performed
        · obtain ⟨-, rfl⟩ := Prod.mk.inj performed
          exact .inl unchanged
        · rename_i different
          obtain ⟨-, rfl⟩ := Prod.mk.inj performed
          refine .inr (.inr (rebind_rebinds opened ⟨channelId, ?_⟩))
          rw [OrderedMap.lookup_assign_self]
          exact Ne.symm different
  | unbindChannel channelId =>
    rw [perform] at performed
    split at performed
    · obtain ⟨-, rfl⟩ := Prod.mk.inj performed
      exact .inl unchanged
    · rename_i bound
      obtain ⟨-, rfl⟩ := Prod.mk.inj performed
      refine .inr (.inr (rebind_rebinds (sound.opened bound) ⟨channelId, ?_⟩))
      have erased : (store.snapshot.dbcBindings.assets.erase channelId).lookup channelId = none :=
        OrderedMap.lookup_none.mpr fun entry member => (OrderedMap.mem_erase.mp member).2
      rw [erased]
      exact Ne.symm bound
  | clearBindings =>
    rw [perform] at performed
    split at performed
    · obtain ⟨-, rfl⟩ := Prod.mk.inj performed
      exact .inl unchanged
    · rename_i filled
      obtain ⟨-, rfl⟩ := Prod.mk.inj performed
      refine .inr (.inl ⟨rfl, rfl, rfl, .inr (.inr ⟨?_, rfl⟩)⟩)
      exact bound_of_filled sound filled
  | selectSignal selection =>
    rw [perform] at performed
    split at performed
    · obtain ⟨-, rfl⟩ := Prod.mk.inj performed
      exact .inl unchanged
    · rename_i accepted
      split at performed
      · obtain ⟨-, rfl⟩ := Prod.mk.inj performed
        exact .inl unchanged
      · obtain ⟨-, rfl⟩ := Prod.mk.inj performed
        refine .inl ⟨rfl, rfl, rfl, ?_⟩
        intro selected held
        by_contra unbound
        exact accepted ⟨selected, held, unbound⟩

theorem create_sound (selections : Nat → SignalSelection) : Sound selections create where
  closed := fun _ => rfl
  selected := by
    intro selection held
    cases held
  shared := fun _ => rfl
  fresh := Nat.zero_lt_one
  named := by
    intro opened held
    cases held

theorem perform_sound (sound : Sound selections store)
    (performed : store.perform selections request = (outcome, after)) :
    Sound selections after := by
  obtain keeps | empties | rebinds := perform_cases sound performed
  · constructor
    · rw [keeps.project, keeps.bindings]
      exact sound.closed
    · rw [keeps.bindings]
      exact keeps.selected
    · rw [keeps.bindings]
      exact sound.shared
    · rw [keeps.bindings, keeps.next]
      exact sound.fresh
    · rw [keeps.project]
      exact sound.named
  · constructor
    · exact fun _ => empties.bindings
    · rw [empties.selection]
      intro selection held
      cases held
    · exact fun _ => empties.bindings
    · rw [empties.bindings, empties.next]
      exact Nat.zero_lt_of_lt sound.fresh
    · obtain ⟨opened, -, named, target⟩ | ⟨-, closed⟩ | ⟨-, same⟩ := empties.reason
      · rw [target]
        intro other held
        obtain rfl := Option.some.inj held
        exact named
      · rw [closed]
        intro other held
        cases held
      · rw [same]
        exact sound.named
  · have positive := Nat.zero_lt_of_lt sound.fresh
    constructor
    · rw [rebinds.project]
      exact fun closed => absurd closed rebinds.opened
    · exact rebinds.selected
    · rw [rebinds.identity]
      exact fun zero => absurd zero (Nat.ne_of_gt positive)
    · rw [rebinds.identity, rebinds.next]
      exact Nat.lt_succ_self _
    · rw [rebinds.project]
      exact sound.named

theorem run_sound (sound : Sound selections store) (requests : List SessionRequest) :
    Sound selections (store.run selections requests) := by
  induction requests generalizing store with
  | nil => exact sound
  | cons request rest ih => exact ih (perform_sound sound rfl)

/-- The maps of a later store: the map of now, the shared one, or one that is made later. -/
structure Later (store later : SessionObjects) : Prop where
  bindings : later.snapshot.dbcBindings = store.snapshot.dbcBindings ∨ later.snapshot.dbcBindings = .noBindings ∨
    store.nextBindings ≤ later.snapshot.dbcBindings.identity
  next : store.nextBindings ≤ later.nextBindings

theorem perform_later (sound : Sound selections store)
    (performed : store.perform selections request = (outcome, after)) :
    Later store after := by
  obtain keeps | empties | rebinds := perform_cases sound performed
  · exact ⟨.inl keeps.bindings, Nat.le_of_eq keeps.next.symm⟩
  · exact ⟨.inr (.inl empties.bindings), Nat.le_of_eq empties.next.symm⟩
  · exact ⟨.inr (.inr (Nat.le_of_eq rebinds.identity.symm)), rebinds.next ▸ Nat.le_succ _⟩

theorem Later.trans {middle : SessionObjects} (first : Later store middle) (second : Later middle after) :
    Later store after := by
  refine ⟨?_, Nat.le_trans first.next second.next⟩
  obtain same | shared | made := second.bindings
  · rw [same]
    exact first.bindings
  · exact .inr (.inl shared)
  · exact .inr (.inr (Nat.le_trans first.next made))

theorem run_later (sound : Sound selections store) (requests : List SessionRequest) :
    Later store (store.run selections requests) := by
  induction requests generalizing store with
  | nil => exact ⟨.inl rfl, Nat.le_refl _⟩
  | cons request rest ih =>
    have performed : store.perform selections request = (_, _) := rfl
    have step := perform_later sound performed
    exact step.trans (ih (perform_sound sound rfl))

/-- A map keeps its identity only while it stays the same map. -/
theorem Later.identified (sound : Sound selections store) (later : Later store after)
    (same : after.snapshot.dbcBindings.identity = store.snapshot.dbcBindings.identity) :
    after.snapshot.dbcBindings = store.snapshot.dbcBindings := by
  obtain held | shared | made := later.bindings
  · exact held
  · have zero : store.snapshot.dbcBindings.identity = 0 := by
      rw [← same, shared]
      rfl
    rw [shared, sound.shared zero]
  · have fresh := sound.fresh
    omega

/-- The call that opens the path that is already open, over bindings that were emptied one by one. -/
def Reopens (store : SessionObjects) (request : SessionRequest) : Prop :=
  (∃ opened, request = .openProject opened ∧ store.snapshot.projectPath = some opened.projectPath) ∧
    (∀ channelId, store.assetForChannel channelId = none) ∧ store.snapshot.dbcBindings.identity ≠ 0

theorem identity_kept (sound : Sound selections store) (performed : store.perform selections request = (outcome, after))
    (path : after.snapshot.projectPath = store.snapshot.projectPath)
    (contents : SameContents store.snapshot after.snapshot)
    (changed : after.snapshot.dbcBindings.identity ≠ store.snapshot.dbcBindings.identity) : Reopens store request := by
  obtain keeps | empties | rebinds := perform_cases sound performed
  · exact absurd (congrArg DecodeBindings.identity keeps.bindings) changed
  · have emptied : ∀ channelId, store.assetForChannel channelId = none := by
      intro channelId
      have same := contents channelId
      rw [empties.bindings] at same
      exact same.symm
    have owned : store.snapshot.dbcBindings.identity ≠ 0 := by
      intro zero
      rw [empties.bindings, zero] at changed
      exact changed rfl
    obtain ⟨opened, rfl, -, target⟩ | ⟨-, closed⟩ | ⟨⟨channelId, bound⟩, -⟩ := empties.reason
    · rw [SnapshotObject.projectPath, target] at path
      exact ⟨⟨opened, rfl, path.symm⟩, emptied, owned⟩
    · rw [SnapshotObject.projectPath, closed] at path
      have shared := sound.closed (Option.map_eq_none_iff.mp path.symm)
      rw [shared] at owned
      exact absurd rfl owned
    · exact absurd (emptied channelId) bound
  · obtain ⟨channelId, different⟩ := rebinds.changed
    exact absurd (contents channelId) different

private theorem reopens_changes (sound : Sound selections store) (reopens : Reopens store request) :
    (store.perform selections request).2.snapshot.dbcBindings.identity ≠ store.snapshot.dbcBindings.identity := by
  obtain ⟨⟨opened, rfl, path⟩, -, owned⟩ := reopens
  obtain ⟨held, isOpen, same⟩ := Option.map_eq_some_iff.mp path
  have named := sound.named held isOpen
  rw [same] at named
  rw [perform, if_neg named]
  exact Ne.symm owned

/-- The comparison sees every change of the path and of the bindings, and beside those a path opened again. -/
theorem seesChange_iff (sound : Sound selections store)
    (performed : store.perform selections request = (outcome, after)) :
    seesChange store.snapshot after.snapshot = true ↔
      after.snapshot.projectPath ≠ store.snapshot.projectPath ∨ ¬SameContents store.snapshot after.snapshot ∨
        Reopens store request := by
  rw [seesChange, Bool.or_eq_true, decide_eq_true_iff, decide_eq_true_iff]
  constructor
  · rintro (moved | changed)
    · exact .inl moved
    · by_cases path : after.snapshot.projectPath = store.snapshot.projectPath
      · by_cases contents : SameContents store.snapshot after.snapshot
        · exact .inr (.inr (identity_kept sound performed path contents changed))
        · exact .inr (.inl contents)
      · exact .inl path
  · rintro (moved | contents | reopens)
    · exact .inl moved
    · refine .inr ?_
      intro same
      have held := (perform_later sound performed).identified sound same
      refine contents ?_
      intro channelId
      rw [held]
    · refine .inr ?_
      have changed := reopens_changes sound reopens
      rw [performed] at changed
      exact changed

theorem perform_refused (performed : store.perform selections request = (.refused message, after)) : after = store := by
  cases request with
  | openProject opened =>
    rw [perform] at performed
    split at performed
    · exact (Prod.mk.inj performed).2.symm
    · cases performed
  | closeProject =>
    rw [perform] at performed
    split at performed
    · cases performed
    · cases performed
  | browseAsset assetId =>
    rw [perform] at performed
    split at performed
    · cases performed
    · cases performed
  | bindChannel channelId assetId =>
    rw [perform] at performed
    split at performed
    · exact (Prod.mk.inj performed).2.symm
    · split at performed
      · exact (Prod.mk.inj performed).2.symm
      · split at performed
        · cases performed
        · cases performed
  | unbindChannel channelId =>
    rw [perform] at performed
    split at performed
    · cases performed
    · cases performed
  | clearBindings =>
    rw [perform] at performed
    split at performed
    · cases performed
    · cases performed
  | selectSignal selection =>
    rw [perform] at performed
    split at performed
    · exact (Prod.mk.inj performed).2.symm
    · split at performed
      · cases performed
      · cases performed

theorem browse_leaves (assetId : Option String)
    (performed : store.perform selections (.browseAsset assetId) = (outcome, after)) :
    after.snapshot.dbcBindings = store.snapshot.dbcBindings ∧
      after.snapshot.selectedSignal = store.snapshot.selectedSignal := by
  rw [perform] at performed
  split at performed
  · obtain ⟨-, rfl⟩ := Prod.mk.inj performed
    exact ⟨rfl, rfl⟩
  · obtain ⟨-, rfl⟩ := Prod.mk.inj performed
    exact ⟨rfl, rfl⟩

end Steps

section Refinement

variable {selections : Nat → SignalSelection} {objects : SessionObjects} {store : WorkspaceSessionStore}

/-- The session that the decode coordinator observes holds what the objects hold. -/
structure Models (selections : Nat → SignalSelection) (objects : SessionObjects) (store : WorkspaceSessionStore) :
    Prop where
  project : objects.snapshot.openedProject = store.snapshot.openedProject
  bindings : objects.snapshot.dbcBindings = store.snapshot.dbcBindings
  browsed : objects.snapshot.browsedAssetId = store.snapshot.browsedAssetId
  selected : objects.snapshot.selectedSignal.map selections = store.snapshot.selectedSignal
  next : objects.nextBindings = store.nextIdentity
  initial : objects.snapshot.identity = 0 → objects.snapshot = .empty
  positive : objects.nextSnapshot ≠ 0

theorem create_models : Models selections create WorkspaceSessionStore.create where
  project := rfl
  bindings := rfl
  browsed := rfl
  selected := rfl
  next := rfl
  initial := fun _ => rfl
  positive := Nat.one_ne_zero

theorem Models.asset (models : Models selections objects store) (channelId : String) :
    objects.assetForChannel channelId = store.assetForChannel channelId := by
  rw [assetForChannel, models.bindings, WorkspaceSessionStore.assetForChannel]

theorem Models.selectionUnder (models : Models selections objects store) (assets : OrderedMap String String) :
    (objects.selectionUnder selections assets).map selections = store.selectionUnder assets := by
  rw [SessionObjects.selectionUnder, WorkspaceSessionStore.selectionUnder, ← models.selected, Option.filter_map]
  rfl

theorem Models.rebind (models : Models selections objects store) (opened : store.snapshot.openedProject ≠ none)
    {assets other : OrderedMap String String} (same : assets = other) :
    Models selections (objects.rebind selections assets) (store.rebind opened other) where
  project := models.project
  bindings := by
    subst same
    exact congrArg (DecodeBindings.mk · assets) models.next
  browsed := models.browsed
  selected := by
    subst same
    exact models.selectionUnder assets
  next := congrArg (· + 1) models.next
  initial := fun zero => absurd zero models.positive
  positive := Nat.succ_ne_zero _

private theorem no_bindings {bindings : DecodeBindings} (shared : bindings.identity = 0)
    (empty : bindings.assets.entries = []) :
    bindings = .noBindings := by
  obtain ⟨identity, entries, distinct⟩ := bindings
  subst shared empty
  rfl

theorem Models.accepted (models : Models selections objects store) (selection : Nat) :
    Bound selections objects.snapshot.dbcBindings.assets selection ↔
      store.assetForChannel (selections selection).channelId = some (selections selection).assetId := by
  rw [Bound, models.bindings, WorkspaceSessionStore.assetForChannel]

/-- Whatever is called, the session holds what the objects hold. -/
theorem perform_models (models : Models selections objects store) (request : SessionRequest) :
    Models selections (objects.perform selections request).2 ((store.perform (request.call selections)).getD store) := by
  cases request with
  | openProject opened =>
    rw [perform, SessionRequest.call, WorkspaceSessionStore.perform]
    by_cases named : opened.projectPath = ""
    · rw [if_pos named, if_pos named]
      exact models
    · rw [if_neg named, if_neg named]
      exact ⟨rfl, rfl, rfl, rfl, models.next, fun zero => absurd zero models.positive, Nat.succ_ne_zero _⟩
  | closeProject =>
    rw [perform, SessionRequest.call, WorkspaceSessionStore.perform]
    have emptied : ∀ closed : store.snapshot.openedProject = none ∧ store.snapshot.dbcBindings.identity = 0 ∧
        store.snapshot.browsedAssetId = none ∧ store.snapshot.selectedSignal = none,
        Models selections { objects with snapshot := .empty } store := by
      rintro ⟨project, shared, browsed, selected⟩
      have bindings := no_bindings shared (store.shared shared)
      exact ⟨project.symm, bindings.symm, browsed.symm, selected.symm, models.next, fun _ => rfl, models.positive⟩
    by_cases untouched : objects.snapshot.identity = SnapshotObject.empty.identity
    · have initial := models.initial untouched
      have closed : store.snapshot.openedProject = none ∧ store.snapshot.dbcBindings.identity = 0 ∧
          store.snapshot.browsedAssetId = none ∧ store.snapshot.selectedSignal = none := by
        rw [← models.project, ← models.bindings, ← models.browsed, ← models.selected, initial]
        exact ⟨rfl, rfl, rfl, rfl⟩
      rw [if_pos untouched, if_pos closed]
      exact models
    · rw [if_neg untouched]
      by_cases closed : store.snapshot.openedProject = none ∧ store.snapshot.dbcBindings.identity = 0 ∧
          store.snapshot.browsedAssetId = none ∧ store.snapshot.selectedSignal = none
      · rw [if_pos closed]
        exact emptied closed
      · rw [if_neg closed]
        exact ⟨rfl, rfl, rfl, rfl, models.next, fun _ => rfl, models.positive⟩
  | browseAsset assetId =>
    rw [perform, SessionRequest.call, WorkspaceSessionStore.perform, models.browsed]
    by_cases same : store.snapshot.browsedAssetId = assetId
    · rw [if_pos same, if_pos same]
      exact models
    · rw [if_neg same, if_neg same]
      exact ⟨models.project, models.bindings, rfl, models.selected, models.next,
        fun zero => absurd zero models.positive, Nat.succ_ne_zero _⟩
  | bindChannel channelId assetId =>
    rw [perform, SessionRequest.call, WorkspaceSessionStore.perform, models.project, models.asset]
    by_cases closed : store.snapshot.openedProject = none
    · rw [if_pos closed, dif_pos closed]
      exact models
    rw [if_neg closed, dif_neg closed]
    by_cases unnamed : channelId = "" ∨ assetId = ""
    · rw [if_pos unnamed, if_pos unnamed]
      exact models
    rw [if_neg unnamed, if_neg unnamed]
    by_cases bound : store.assetForChannel channelId = some assetId
    · rw [if_pos bound, if_pos bound]
      exact models
    · rw [if_neg bound, if_neg bound]
      exact models.rebind closed (by rw [models.bindings])
  | unbindChannel channelId =>
    rw [perform, SessionRequest.call, WorkspaceSessionStore.perform, models.asset]
    by_cases unbound : store.assetForChannel channelId = none
    · rw [if_pos unbound, dif_pos unbound]
      exact models
    · rw [if_neg unbound, dif_neg unbound]
      exact models.rebind (WorkspaceSessionStore.opened_of_bound unbound) (by rw [models.bindings])
  | clearBindings =>
    have empty : objects.snapshot.dbcBindings.assets.size = 0 ∧ objects.snapshot.selectedSignal = none ↔
        store.snapshot.dbcBindings.assets.size = 0 ∧ store.snapshot.selectedSignal = none := by
      rw [models.bindings, ← models.selected, Option.map_eq_none_iff]
    rw [perform, SessionRequest.call, WorkspaceSessionStore.perform]
    by_cases bare : store.snapshot.dbcBindings.assets.size = 0 ∧ store.snapshot.selectedSignal = none
    · rw [if_pos (empty.mpr bare), if_pos bare]
      exact models
    · rw [if_neg (fun other => bare (empty.mp other)), if_neg bare]
      exact ⟨models.project, rfl, models.browsed, rfl, models.next, fun zero => absurd zero models.positive,
        Nat.succ_ne_zero _⟩
  | selectSignal selection =>
    rw [perform, SessionRequest.call]
    cases selection with
    | none =>
      have accepted : ¬∃ selected ∈ (none : Option Nat),
          ¬Bound selections objects.snapshot.dbcBindings.assets selected := by
        simp
      have missing : objects.snapshot.selectedSignal = none ↔ store.snapshot.selectedSignal = none := by
        rw [← models.selected, Option.map_eq_none_iff]
      rw [if_neg accepted, Option.map_none, WorkspaceSessionStore.perform]
      by_cases unselected : store.snapshot.selectedSignal = none
      · rw [if_pos (missing.mpr unselected), if_pos unselected]
        exact models
      · rw [if_neg (fun other => unselected (missing.mp other)), if_neg unselected]
        exact ⟨models.project, models.bindings, models.browsed, rfl, models.next,
          fun zero => absurd zero models.positive, Nat.succ_ne_zero _⟩
    | some selected =>
      rw [Option.map_some, WorkspaceSessionStore.perform]
      have refused : (∃ held ∈ some selected, ¬Bound selections objects.snapshot.dbcBindings.assets held) ↔
          store.assetForChannel (selections selected).channelId ≠ some (selections selected).assetId := by
        simp [models.accepted]
      by_cases unbound : store.assetForChannel (selections selected).channelId ≠ some (selections selected).assetId
      · rw [if_pos (refused.mpr unbound), if_pos unbound]
        exact models
      · rw [if_neg (fun other => unbound (refused.mp other)), if_neg unbound]
        by_cases same : objects.snapshot.selectedSignal = some selected
        · rw [if_pos same]
          have held : some (selections selected) = store.snapshot.selectedSignal := by
            rw [← models.selected, same, Option.map_some]
          exact ⟨models.project, models.bindings, models.browsed, models.selected.trans held.symm, models.next,
            models.initial, models.positive⟩
        · rw [if_neg same]
          exact ⟨models.project, models.bindings, models.browsed, rfl, models.next,
            fun zero => absurd zero models.positive, Nat.succ_ne_zero _⟩

theorem run_models (models : Models selections objects store) (requests : List SessionRequest) :
    Models selections (objects.run selections requests)
      (requests.foldl (fun held request => (held.perform (request.call selections)).getD held) store) := by
  induction requests generalizing objects store with
  | nil => exact models
  | cons request rest ih => exact ih (perform_models models request)

end Refinement

section Sessions

/-- What holds of a store, of each call on it, and of every store after it. -/
structure Consistent (selections : Nat → SignalSelection) (store : SessionObjects) : Prop where
  opened : ∀ channelId, store.assetForChannel channelId ≠ none → store.snapshot.openedProject ≠ none
  selected : ∀ selection ∈ store.snapshot.selectedSignal,
    store.assetForChannel (selections selection).channelId = some (selections selection).assetId
  refused : ∀ request message, (store.perform selections request).1 = .refused message →
    (store.perform selections request).2.snapshot = store.snapshot
  browsing : ∀ assetId,
    (store.perform selections (.browseAsset assetId)).2.snapshot.dbcBindings = store.snapshot.dbcBindings ∧
      (store.perform selections (.browseAsset assetId)).2.snapshot.selectedSignal = store.snapshot.selectedSignal
  identified : ∀ requests, (store.run selections requests).snapshot.dbcBindings.identity =
      store.snapshot.dbcBindings.identity →
    (store.run selections requests).snapshot.dbcBindings = store.snapshot.dbcBindings
  kept : ∀ request, (store.perform selections request).2.snapshot.projectPath = store.snapshot.projectPath →
    SameContents store.snapshot (store.perform selections request).2.snapshot → ¬Reopens store request →
      (store.perform selections request).2.snapshot.dbcBindings.identity = store.snapshot.dbcBindings.identity
  seen : ∀ request, seesChange store.snapshot (store.perform selections request).2.snapshot = true ↔
    (store.perform selections request).2.snapshot.projectPath ≠ store.snapshot.projectPath ∨
      ¬SameContents store.snapshot (store.perform selections request).2.snapshot ∨ Reopens store request

/-- A session never refers to what is not there, and the identity of its bindings tells their changes. -/
theorem session_consistent (selections : Nat → SignalSelection) (requests : List SessionRequest) :
    Consistent selections (create.run selections requests) := by
  have sound := run_sound (create_sound selections) requests
  constructor
  · intro channelId bound
    exact sound.opened bound
  · exact sound.selected
  · intro request message refused
    exact congrArg snapshot (perform_refused (Prod.ext refused rfl))
  · intro assetId
    have browsed : (create.run selections requests).perform selections (.browseAsset assetId) = (_, _) := rfl
    exact browse_leaves assetId browsed
  · intro more same
    exact (run_later sound more).identified sound same
  · intro request path contents ordinary
    by_contra changed
    exact ordinary (identity_kept sound rfl path contents changed)
  · intro request
    exact seesChange_iff sound rfl

def alphaProject : OpenedProject where
  projectPath := "/projects/alpha"
  project := ⟨"alpha-id", "alpha", 1, "2026-09-19T00:00:00+00:00", "2026-09-19T00:00:00+00:00"⟩

/-- A project opened again after its one channel was unbound: the project is the same and nothing is bound before
or after, and yet the map is another one. -/
theorem reopened_identity : ¬∀ (selections : Nat → SignalSelection) (requests : List SessionRequest)
    (request : SessionRequest),
    ((create.run selections requests).perform selections request).2.snapshot.openedProject =
        (create.run selections requests).snapshot.openedProject →
      SameContents (create.run selections requests).snapshot
          ((create.run selections requests).perform selections request).2.snapshot →
        ((create.run selections requests).perform selections request).2.snapshot.dbcBindings.identity =
          (create.run selections requests).snapshot.dbcBindings.identity := by
  intro claimed
  have same := claimed (fun _ => ⟨"can0", "asset", "Engine", "Rpm", none⟩)
    [.openProject alphaProject, .bindChannel "can0" "asset", .unbindChannel "can0"] (.openProject alphaProject)
    (by decide +kernel) ?_
  · revert same
    decide +kernel
  · intro channelId
    rfl

end Sessions

end SessionObjects

end CanX.Desktop
