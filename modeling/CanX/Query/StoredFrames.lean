import CanX.Data.TableRoundTrip
import CanX.Query.Engine

/-! The frames of a stored segment, through the reader of the data layer and through the rows of the query
engine. -/

namespace CanX.Query

open Dbc Domain Desktop Data Transport

section Projection

/-- `_SELECTED_COLUMNS`. -/
def selectedColumns : List String :=
  ["sequence", "channel_id", "arbitration_id", "is_extended", "is_fd", "bitrate_switch", "error_state_indicator",
    "dlc", "data", "direction", "hardware_timestamp", "host_timestamp", "normalized_timestamp", "clock_domain",
    "timestamp_quality", "flags"]

/-- `SELECT` of those columns from a row. -/
def projected (values : List (String × ArrowValue)) : List ArrowValue :=
  selectedColumns.map fun name => (values.lookup name).getD .null

/-- A row that was fetched, under the names that the engine gives its values. -/
def fetched (row : List ArrowValue) : FrameRow := FrameRow.ofValues (selectedColumns.zip row)

end Projection

section Rows

variable {row : FrameRow} {frame : PyFrame}

/-- The row with the texts and flags that the engine reads for a null. -/
def filled (row : FrameRow) : FrameRow :=
  { row with
    channelId := some (strOf row.channelId)
    isExtended := some (boolOf row.isExtended)
    isFd := some (boolOf row.isFd)
    bitrateSwitch := some (boolOf row.bitrateSwitch)
    errorStateIndicator := some (boolOf row.errorStateIndicator)
    direction := some (strOf row.direction)
    clockDomain := some (strOf row.clockDomain)
    timestampQuality := some (strOf row.timestampQuality) }

private theorem required_ok {Value : Type} {fault : QueryFault} {value : Option Value} {held : Value} :
    required fault value = .ok held ↔ value = some held := by
  cases value <;> simp [required]

private theorem reading_ok {Value : Type} {read : Read Value} {value : Value} :
    reading read = .ok value ↔ read = .ok value := by
  cases read <;> simp [reading]

private theorem finiteOf_ok {value : PyFloat} {stamp : PyNumber} :
    finiteOf value = .ok stamp ↔ stamp.isInt = false ∧ value = .finite stamp.value := by
  rw [← presentStamp_ok]
  cases value <;> simp [finiteOf, presentStamp]

private theorem finitesOf_ok {value : Option PyFloat} {stamp : Option PyNumber} :
    value.mapM finiteOf = .ok stamp ↔
      (∀ held ∈ stamp, held.isInt = false) ∧ value = stamp.map fun held => .finite held.value := by
  rw [← presentStamps_ok]
  cases value with
  | none => simp [pure, Except.pure]
  | some value =>
    cases value <;> simp [Option.mapM_some, finiteOf, presentStamp, Functor.map, Except.map]

private theorem filled_of_read (read : rowToFrame row = .ok frame) :
    PyFrame.Floating frame ∧ filled row = FrameRow.ofFrame frame := by
  cases row
  simp only [rowToFrame, bind_ok, required_ok, reading_ok, finiteOf_ok, finitesOf_ok, directionOf_ok, qualityOf_ok,
    create_ok] at read
  obtain ⟨_, sequence, _, id, _, dlc, _, data, _, spelled, _, ⟨hardware, hardwareStamp⟩, _, host, _,
    ⟨hostFloat, hostStamp⟩, _, normalized, _, ⟨normalizedFloat, normalizedStamp⟩, _, worded, _, flags, made⟩ := read
  simp only [PyFrame.fields, FrameFields.mk.injEq] at made
  obtain ⟨sequenceOf, channel, idOf, extended, fd, switch, indicator, dlcOf, dataOf, directed, hardwareOf, hostOf,
    normalizedOf, clock, qualified, flagsOf⟩ := made
  refine ⟨⟨?_, ?_, ?_⟩, ?_⟩
  · rw [← hostOf, hostFloat]
  · rw [← normalizedOf, normalizedFloat]
  · rw [← hardwareOf]
    exact hardware
  -- Column by column, from the row to the frame.
  simp only [filled]
  rw [FrameRow.ofFrame, sequence, Int.ofNat.inj sequenceOf, channel, id, Int.ofNat.inj idOf, extended, fd, switch,
    indicator, dlc, Int.ofNat.inj dlcOf, data, dataOf, spelled, directed, hardwareStamp, hardwareOf, host, hostStamp,
    hostOf, normalized, normalizedStamp, normalizedOf, clock, worded, qualified, flags, Int.ofNat.inj flagsOf]

/-- The engine reads a row as the frame whose row it is once its nulls are filled. -/
theorem rowToFrame_ok : rowToFrame row = .ok frame ↔
    PyFrame.Floating frame ∧ filled row = FrameRow.ofFrame frame := by
  constructor
  · exact filled_of_read
  · cases row
    simp only [rowToFrame, bind_ok, required_ok, reading_ok, finiteOf_ok, finitesOf_ok, directionOf_ok, qualityOf_ok,
      create_ok, filled, FrameRow.ofFrame, PyFrame.fields, FrameFields.mk.injEq, FrameRow.mk.injEq, Option.some.injEq]
    rintro ⟨⟨host, normalized, hardware⟩, rfl, channel, rfl, extended, fd, switch, indicator, rfl, rfl, direction, rfl,
      rfl, rfl, clock, quality, rfl⟩
    exact ⟨_, rfl, _, rfl, _, rfl, _, rfl, _, direction, _, ⟨hardware, rfl⟩, _, rfl, _, ⟨host, rfl⟩, _, rfl, _,
      ⟨normalized, rfl⟩, _, quality, _, rfl, rfl, channel, rfl, extended, fd, switch, indicator, rfl, rfl, rfl, rfl,
      rfl, rfl, clock, rfl, rfl⟩

/-- A row without a null outside the hardware timestamp is filled already. -/
theorem filled_ofFrame (frame : PyFrame) : filled (FrameRow.ofFrame frame) = FrameRow.ofFrame frame := rfl

end Rows

section Segments

variable {frames : List PyFrame} {sessionId streamId : Text} {segmentIndex : Int} {table : ArrowTable}

/-- Selecting the columns by name and naming them again in the same order changes no row of a frame. -/
theorem fetched_projected (frame : PyFrame) :
    fetched (projected (frameColumns.zip (frameCells.map fun cell => cell frame))) = FrameRow.ofFrame frame := by
  have same : selectedColumns.zip (projected (frameColumns.zip (frameCells.map fun cell => cell frame))) =
      frameColumns.zip (frameCells.map fun cell => cell frame) := by
    simp [selectedColumns, projected, frameColumns, frameCells, List.lookup_cons]
  rw [fetched, same, frameCells_row]

/-- The rows of a written segment, as the engine fetches them. -/
theorem engine_reads (floating : ∀ frame ∈ frames, PyFrame.Floating frame)
    (written : framesToTable frames sessionId streamId segmentIndex = .ok table) :
    (table.dicts.mapM fun values => rowToFrame (fetched (projected values))) = .ok frames := by
  obtain ⟨-, rfl⟩ := (framesToTable_ok floating).mp written
  refine mapM_ok.mpr ?_
  rw [ArrowTable.dicts, List.map_map, List.forall₂_map_left_iff]
  refine List.forall₂_same.mpr ?_
  intro frame member
  refine rowToFrame_ok.mpr ⟨floating frame member, ?_⟩
  rw [← filled_ofFrame frame, ← fetched_projected frame]
  rfl

/-- Frames whose texts have a UTF-8 form make a table that both readers turn back into them, under the identity it
was written with and no other; and no table is read as frames unless it is of the canonical layout, of the identity
expected, and row by row that of a frame. -/
theorem stored_frames_restored :
    (∀ (frames : List PyFrame) (sessionId streamId : Text) (segmentIndex : Int), frames ≠ [] →
      (∀ frame ∈ frames, PyFrame.Floating frame) →
      ((∃ table, framesToTable frames sessionId streamId segmentIndex = .ok table) ↔
        (∀ frame ∈ frames, PyFrame.Encodable frame) ∧ sessionId.encodable = true ∧ streamId.encodable = true) ∧
      ∀ table, framesToTable frames sessionId streamId segmentIndex = .ok table →
        (∀ expected : Expected, expected.Matches sessionId streamId segmentIndex →
          tableToFrames table expected = .ok frames) ∧
        (∀ expected : Expected, ¬ expected.Matches sessionId streamId segmentIndex →
          ∃ error, error.kind = .integrity ∧ tableToFrames table expected = .error error) ∧
        (table.dicts.mapM fun values => rowToFrame (fetched (projected values))) = .ok frames) ∧
    ∀ (table : ArrowTable) (expected : Expected) (frames : List PyFrame),
      tableToFrames table expected = .ok frames ↔ Accepted table expected frames := by
  refine ⟨?_, fun table expected frames => tableToFrames_ok⟩
  intro frames sessionId streamId segmentIndex nonempty floating
  refine ⟨?_, ?_⟩
  · constructor
    · rintro ⟨table, written⟩
      exact ((framesToTable_ok floating).mp written).1.2
    · intro encodable
      exact ⟨_, (framesToTable_ok floating).mpr ⟨⟨nonempty, encodable⟩, rfl⟩⟩
  · intro table written
    refine ⟨?_, ?_, engine_reads floating written⟩
    · intro expected agrees
      exact tableToFrames_ok.mpr (written_accepted floating written agrees)
    · intro expected differs
      cases read : tableToFrames table expected with
      | error error => exact ⟨error, tableToFrames_integral error read, rfl⟩
      | ok others =>
        obtain ⟨-, rfl⟩ := (framesToTable_ok floating).mp written
        exact absurd (accepted_matches rfl (tableToFrames_ok.mp read)) differs

end Segments

section Sample

/-- A frame on the named channel, with float timestamps. -/
def storedFrame (channelId : Text) (channel_named : channelId ≠ []) : PyFrame :=
  { Transport.sampleFrame 3 (by decide) with
    channelId
    channel_named
    hostTimestamp := .float 3
    normalizedTimestamp := .float 4
    host_seconds := ⟨trivial, by decide⟩
    normalized_seconds := ⟨trivial, by decide⟩ }

theorem storedFrame_floating (channelId : Text) (channel_named : channelId ≠ []) :
    ∀ frame ∈ [storedFrame channelId channel_named], PyFrame.Floating frame := by
  intro frame member
  obtain rfl := List.mem_singleton.mp member
  exact ⟨rfl, rfl, by rintro stamp ⟨⟩⟩

theorem stored_frames_restored_sample : ∃ frame : PyFrame, ∃ table,
    framesToTable [frame] (text "5e55") (text "s") 0 = .ok table ∧
      tableToFrames table ⟨some (text "5e55"), none, some 0⟩ = .ok [frame] ∧
      (∃ error, error.kind = .integrity ∧ tableToFrames table ⟨none, none, some 1⟩ = .error error) ∧
      (table.dicts.mapM fun values => rowToFrame (fetched (projected values))) = .ok [frame] := by
  have named : text "can0" ≠ [] := by decide
  have floating := storedFrame_floating (text "can0") named
  have encodable : ∀ frame ∈ [storedFrame (text "can0") named], PyFrame.Encodable frame := by
    intro frame member
    obtain rfl := List.mem_singleton.mp member
    exact ⟨text_encodable "can0", text_encodable "h"⟩
  obtain ⟨stores, restores⟩ := stored_frames_restored.1 [storedFrame (text "can0") named] (text "5e55") (text "s") 0
    (List.cons_ne_nil _ _) floating
  obtain ⟨table, written⟩ := stores.mpr ⟨encodable, text_encodable "5e55", text_encodable "s"⟩
  obtain ⟨agree, differ, engine⟩ := restores table written
  refine ⟨_, table, written, agree _ ⟨by simp, by simp, by simp⟩, differ _ ?_, engine⟩
  intro agrees
  have same : (1 : Int) = 0 := agrees.segmentIndex 1 rfl
  cases same

theorem surrogate_named : ([0xD800] : Text) ≠ [] := List.cons_ne_nil _ _

/-- A channel whose name is an unpaired surrogate: the frame is canonical, and no table holds it. -/
theorem storedFrame_refused : ∃ frame : PyFrame, PyFrame.Floating frame ∧
    framesToTable [frame] (text "5e55") (text "s") 0 = .error .foreign := by
  have floating := storedFrame_floating [0xD800] surrogate_named _ List.mem_cons_self
  exact ⟨storedFrame [0xD800] surrogate_named, floating, by decide +kernel⟩

end Sample

end CanX.Query
