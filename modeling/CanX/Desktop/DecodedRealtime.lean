import CanX.Desktop.FrameSchema
import CanX.Storage.OrderedMap

/-! What the Runtime said about the frames that arrived: the answers of the decode client, and
the bounded store of outcomes that the panels read. -/

namespace CanX.Desktop

open Storage

structure DecodedSignalValue where
  name : String
  rawValue : JsNumber
  physicalValue : JsNumber
  choiceLabel : Option String
  unit : Option String
  deriving DecidableEq

/-- What happened to one frame, as the client answers it. -/
inductive DecodedFrameOutcome
  | decoded (messageName : String) (signals : List DecodedSignalValue)
  | failure (code : String)
  deriving DecidableEq

structure DecodedFrameRecord where
  frame : RuntimeFrame
  outcome : DecodedFrameOutcome
  deriving DecidableEq

structure DecodedFrameSetResult where
  streamId : String
  frameCount : Nat
  sequences : List Int
  records : List DecodedFrameRecord
  deriving DecidableEq

structure DecodeFrameSetInput where
  projectPath : String
  assetId : String
  streamId : String
  frames : List RuntimeFrame
  deriving DecidableEq

/-- An accepted answer is about the stream and the very frames that were submitted. -/
def DecodedFrameSetResult.Answers (result : DecodedFrameSetResult) (input : DecodeFrameSetInput) : Prop :=
  result.streamId = input.streamId ∧ result.records.map DecodedFrameRecord.frame = input.frames

instance (result : DecodedFrameSetResult) (input : DecodeFrameSetInput) :
    Decidable (result.Answers input) := inferInstanceAs (Decidable (_ ∧ _))

/-- What happened to one frame, as the store keeps it. -/
inductive DecodeOutcome
  | decoded (messageName : String) (signals : List DecodedSignalValue)
  | failed (code : String)
  deriving DecidableEq

def toDecodeOutcome : DecodedFrameOutcome → DecodeOutcome
  | .decoded messageName signals => .decoded messageName signals
  | .failure code => .failed code

structure DecodedFrameEntry where
  frame : RuntimeFrame
  assetId : String
  outcome : DecodeOutcome
  deriving DecidableEq

inductive DecodeRequestStatus
  | idle | pending | ready | failed
  deriving DecidableEq

structure DecodedBatch where
  streamId : String
  assetId : String
  entries : List DecodedFrameEntry
  deriving DecidableEq

/-- Entries by the sequence of their frame, the oldest first. -/
abbrev DecodedEntries := OrderedMap Int DecodedFrameEntry

structure DecodedRealtimeState where
  streamId : Option String
  entries : DecodedEntries
  droppedEntries : Nat
  lastError : Option String
  status : DecodeRequestStatus

def DecodedRealtimeState.empty : DecodedRealtimeState := ⟨none, .empty, 0, none, .idle⟩

structure DecodedRealtimeStore where
  capacity : Nat
  positive : 1 ≤ capacity
  state : DecodedRealtimeState

def defaultDecodedCapacity : Nat := 4096

namespace DecodedRealtimeStore

variable {store : DecodedRealtimeStore} {batch : DecodedBatch} {sequence : Int}
variable {entry : DecodedFrameEntry} {held : DecodedEntries} {added : List DecodedFrameEntry}

def create (capacity : Nat) (positive : 1 ≤ capacity) : DecodedRealtimeStore :=
  ⟨capacity, positive, .empty⟩

def entries (store : DecodedRealtimeStore) : DecodedEntries := store.state.entries

def entryFor (store : DecodedRealtimeStore) (sequence : Int) : Option DecodedFrameEntry :=
  store.entries.lookup sequence

def markPending (store : DecodedRealtimeStore) : DecodedRealtimeStore :=
  { store with state := { store.state with status := .pending } }

/-- The entries of a batch set one by one, in the place a sequence has or else last. -/
def merge (entries : DecodedEntries) (added : List DecodedFrameEntry) : DecodedEntries :=
  added.foldl (fun entries entry => entries.assign entry.frame.sequence entry) entries

/-- A batch of another stream replaces the entries; the oldest go when there are too many. -/
def applyBatch (store : DecodedRealtimeStore) (batch : DecodedBatch) : DecodedRealtimeStore :=
  let sameStream := store.state.streamId = some batch.streamId
  let merged := merge (if sameStream then store.state.entries else .empty) batch.entries
  let dropped := if sameStream then store.state.droppedEntries else 0
  { store with
    state := {
      streamId := some batch.streamId
      entries := merged.trim store.capacity
      droppedEntries := dropped + (merged.size - store.capacity)
      lastError := none
      status := .ready } }

def failRequest (store : DecodedRealtimeStore) (code : String) : DecodedRealtimeStore :=
  { store with state := { store.state with lastError := some code, status := .failed } }

def reset (store : DecodedRealtimeStore) (streamId : Option String) : DecodedRealtimeStore :=
  if store.state.streamId = streamId ∧ store.state.entries.size = 0 then store
  else { store with state := { DecodedRealtimeState.empty with streamId } }

def clear (store : DecodedRealtimeStore) : DecodedRealtimeStore := { store with state := .empty }

/-- The sequences that have an outcome, the oldest first. -/
def recorded (store : DecodedRealtimeStore) : List Int := store.entries.entries.map Prod.fst

/-- Those of one stream. -/
def recordedOf (store : DecodedRealtimeStore) (streamId : String) : List Int :=
  if store.state.streamId = some streamId then store.recorded else []

/-- Keys set one by one, each in the place it has or else last. -/
def joined (keys added : List Int) : List Int :=
  added.foldl (fun keys key => if key ∈ keys then keys else keys ++ [key]) keys

/-- As many of the last keys as there is room for. -/
def latest (capacity : Nat) (keys : List Int) : List Int := keys.drop (keys.length - capacity)

/-- The sequences of earlier outcomes or of a batch that the store will not hold after it: those of
another stream, and the oldest for which there is no room. -/
def displacedBy (store : DecodedRealtimeStore) (batch : DecodedBatch) : List Int :=
  let added := batch.entries.map fun entry => entry.frame.sequence
  let keys := joined (store.recordedOf batch.streamId) added
  (if store.state.streamId = some batch.streamId then [] else store.recorded.filter fun key => key ∉ added) ++
    keys.take (keys.length - store.capacity)

/-- An outcome is recorded for a sequence. -/
def Records (store : DecodedRealtimeStore) (sequence : Int) : Prop :=
  ∃ entry, (sequence, entry) ∈ store.entries.entries

theorem entryFor_some : store.entryFor sequence = some entry ↔ (sequence, entry) ∈ store.entries.entries :=
  OrderedMap.lookup_some

theorem reset_entries {streamId : Option String} : (store.reset streamId).entries.entries = [] := by
  unfold reset
  split
  · rename_i kept
    exact List.length_eq_zero_iff.mp kept.2
  · rfl

@[simp] theorem reset_capacity {streamId : Option String} : (store.reset streamId).capacity = store.capacity := by
  unfold reset
  split
  · rfl
  · rfl

theorem records_iff : store.Records sequence ↔ sequence ∈ store.recorded := by
  unfold Records recorded
  constructor
  · rintro ⟨entry, member⟩
    exact List.mem_map.mpr ⟨_, member, rfl⟩
  · intro member
    obtain ⟨⟨key, entry⟩, held, rfl⟩ := List.mem_map.mp member
    exact ⟨entry, held⟩

theorem recorded_nodup : store.recorded.Nodup := store.entries.distinct

theorem mem_joined {keys other : List Int} : sequence ∈ joined keys other ↔
    sequence ∈ keys ∨ sequence ∈ other := by
  induction other generalizing keys with
  | nil => simp [joined]
  | cons key rest ih =>
    rw [joined, List.foldl_cons]
    refine ih.trans ?_
    split
    · rename_i present
      constructor
      · rintro (before | later)
        · exact .inl before
        · exact .inr (List.mem_cons_of_mem _ later)
      · rintro (before | later)
        · exact .inl before
        · rcases List.mem_cons.mp later with rfl | later
          · exact .inl present
          · exact .inr later
    · simp [or_assoc]

theorem joined_nodup {keys other : List Int} (distinct : keys.Nodup) : (joined keys other).Nodup := by
  induction other generalizing keys with
  | nil => exact distinct
  | cons key rest ih =>
    rw [joined, List.foldl_cons]
    refine ih ?_
    split
    · exact distinct
    · rename_i absent
      refine List.nodup_append.mpr ⟨distinct, List.nodup_singleton _, fun one here two there same => ?_⟩
      rw [List.mem_singleton.mp there] at same
      exact absent (same ▸ here)

/-- Keys that are all new come last, in their order. -/
theorem joined_fresh {keys other : List Int} (distinct : other.Nodup)
    (fresh : ∀ key ∈ other, key ∉ keys) : joined keys other = keys ++ other := by
  induction other generalizing keys with
  | nil => simp [joined]
  | cons key rest ih =>
    obtain ⟨alone, others⟩ := List.nodup_cons.mp distinct
    have absent : key ∉ keys := fresh key List.mem_cons_self
    have later : ∀ other ∈ rest, other ∉ keys ++ [key] := by
      intro other member inside
      rcases List.mem_append.mp inside with held | last
      · exact fresh other (List.mem_cons_of_mem _ member) held
      · exact alone (List.mem_singleton.mp last ▸ member)
    rw [joined, List.foldl_cons, if_neg absent]
    refine (ih others later).trans ?_
    simp

theorem latest_subset {capacity : Nat} {keys : List Int} : ∀ key ∈ latest capacity keys, key ∈ keys :=
  fun _ member => List.mem_of_mem_drop member

theorem latest_length {capacity : Nat} {keys : List Int} : (latest capacity keys).length ≤ capacity := by
  rw [latest, List.length_drop]
  omega

theorem latest_all {capacity : Nat} {keys : List Int} (room : keys.length ≤ capacity) :
    latest capacity keys = keys := by
  rw [latest, Nat.sub_eq_zero_of_le room, List.drop_zero]

/-- What has gone once would have gone later. -/
theorem latest_append {capacity : Nat} {keys other : List Int} :
    latest capacity (latest capacity keys ++ other) = latest capacity (keys ++ other) := by
  have gone : keys.length - capacity ≤ keys.length := Nat.sub_le _ _
  unfold latest
  rw [← List.drop_append_of_le_length gone, List.drop_drop, List.length_drop]
  congr 1
  rw [List.length_append]
  omega

private theorem merge_keys : (merge held added).entries.map Prod.fst =
    joined (held.entries.map Prod.fst) (added.map fun entry => entry.frame.sequence) := by
  induction added generalizing held with
  | nil => rfl
  | cons first rest ih =>
    have stepped : (held.assign first.frame.sequence first).entries.map Prod.fst =
        if first.frame.sequence ∈ held.entries.map Prod.fst then held.entries.map Prod.fst
        else held.entries.map Prod.fst ++ [first.frame.sequence] := by
      split
      · rename_i present
        exact OrderedMap.assign_keys_present present
      · rename_i absent
        rw [OrderedMap.assign_keys_absent absent, List.map_append, List.map_singleton]
    rw [merge, List.foldl_cons]
    refine ih.trans ?_
    rw [stepped]
    rfl

/-- A batch adds its sequences to those of its stream, and the oldest go. -/
theorem applyBatch_recorded : (store.applyBatch batch).recorded =
    latest store.capacity (joined (store.recordedOf batch.streamId)
      (batch.entries.map fun entry => entry.frame.sequence)) := by
  let held : DecodedEntries := if store.state.streamId = some batch.streamId then store.state.entries else .empty
  have base : held.entries.map Prod.fst = store.recordedOf batch.streamId := by
    dsimp only [held, recordedOf]
    split
    · rfl
    · rfl
  have keys : (merge held batch.entries).entries.map Prod.fst =
      joined (held.entries.map Prod.fst) (batch.entries.map fun entry => entry.frame.sequence) := merge_keys
  rw [base] at keys
  rw [← keys]
  simp only [recorded, applyBatch, entries, OrderedMap.trim, OrderedMap.trimmed_eq_drop, latest, List.map_drop,
    List.length_map]
  rfl

theorem recordedOf_eq {streamId : String}
    (same : store.state.streamId = some streamId ∨ store.entries.entries = []) :
    store.recordedOf streamId = store.recorded := by
  unfold recordedOf
  split
  · rfl
  · rename_i other
    rw [recorded, same.resolve_left other, List.map_nil]

private theorem mem_latest {capacity : Nat} {keys : List Int} (distinct : keys.Nodup) (member : sequence ∈ keys) :
    sequence ∈ latest capacity keys ↔ sequence ∉ keys.take (keys.length - capacity) := by
  have halves : keys.take (keys.length - capacity) ++ latest capacity keys = keys :=
    List.take_append_drop _ keys
  have apart := (List.nodup_append.mp (halves ▸ distinct)).2.2
  constructor
  · intro kept taken
    exact apart sequence taken sequence kept rfl
  · intro kept
    rw [← halves, List.mem_append] at member
    exact member.resolve_left kept

/-- Of what was recorded and what is added, a batch leaves what it does not displace. -/
theorem mem_applyBatch (known : sequence ∈ store.recorded ∨
      sequence ∈ batch.entries.map fun entry => entry.frame.sequence) :
    sequence ∈ (store.applyBatch batch).recorded ↔ sequence ∉ store.displacedBy batch := by
  rw [applyBatch_recorded]
  unfold displacedBy
  dsimp only
  by_cases same : store.state.streamId = some batch.streamId
  · have base := recordedOf_eq (.inl same)
    have member : sequence ∈ joined (store.recordedOf batch.streamId)
        (batch.entries.map fun entry => entry.frame.sequence) := by
      rw [base]
      exact mem_joined.mpr known
    rw [if_pos same, List.nil_append]
    exact mem_latest (joined_nodup (base ▸ recorded_nodup)) member
  · have base : store.recordedOf batch.streamId = [] := if_neg same
    rw [if_neg same, base, List.mem_append, not_or]
    by_cases added : sequence ∈ batch.entries.map fun entry => entry.frame.sequence
    · have kept : sequence ∉ store.recorded.filter
          fun key => key ∉ batch.entries.map fun entry => entry.frame.sequence := by
        simp only [List.mem_filter, decide_eq_true_eq, not_and, not_not]
        exact fun _ => added
      rw [mem_latest (joined_nodup List.nodup_nil) (mem_joined.mpr (.inr added))]
      exact (and_iff_right kept).symm
    · have gone : sequence ∈ store.recorded.filter
          fun key => key ∉ batch.entries.map fun entry => entry.frame.sequence :=
        List.mem_filter.mpr ⟨known.resolve_right added, decide_eq_true added⟩
      refine iff_of_false (fun kept => ?_) fun kept => kept.1 gone
      rcases mem_joined.mp (latest_subset _ kept) with none_ | new
      · cases none_
      · exact added new

/-- What a merge holds was there before or is set by it. -/
theorem mem_merge {pair : Int × DecodedFrameEntry} (member : pair ∈ (merge held added).entries) :
    pair ∈ held.entries ∨ ∃ entry ∈ added, pair = (entry.frame.sequence, entry) := by
  induction added generalizing held with
  | nil => exact .inl member
  | cons first rest ih =>
    rcases ih member with earlier | ⟨entry, later, same⟩
    · rcases OrderedMap.mem_assign.mp earlier with rfl | ⟨kept, _⟩
      · exact .inr ⟨first, List.mem_cons_self, rfl⟩
      · exact .inl kept
    · exact .inr ⟨entry, List.mem_cons_of_mem _ later, same⟩

end DecodedRealtimeStore

end CanX.Desktop
