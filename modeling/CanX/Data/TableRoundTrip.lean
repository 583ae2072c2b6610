import CanX.Data.FrameTable
import CanX.Transition.Raising

/-! What the table of a segment gives back: which rows are frames, and which identity the metadata answers to. -/

namespace CanX.Data

open Dbc Domain Desktop Transport Transition

section Rows

/-- Every timestamp is a float. -/
def PyFrame.Floating (frame : PyFrame) : Prop :=
  frame.hostTimestamp.isInt = false ∧ frame.normalizedTimestamp.isInt = false ∧
    ∀ stamp ∈ frame.hardwareTimestamp, stamp.isInt = false

/-- The row of a frame. -/
def FrameRow.ofFrame (frame : PyFrame) : FrameRow where
  sequence := some frame.sequence
  channelId := some frame.channelId
  arbitrationId := some frame.arbitrationId
  isExtended := some frame.isExtended
  isFd := some frame.isFd
  bitrateSwitch := some frame.bitrateSwitch
  errorStateIndicator := some frame.errorStateIndicator
  dlc := some frame.dlc
  data := some frame.data
  direction := some (text (directionValue frame.direction))
  hardwareTimestamp := frame.hardwareTimestamp.map fun stamp => .finite stamp.value
  hostTimestamp := some (.finite frame.hostTimestamp.value)
  normalizedTimestamp := some (.finite frame.normalizedTimestamp.value)
  clockDomain := some frame.clockDomain
  timestampQuality := some (text (timestampQualityValue frame.timestampQuality))
  flags := some frame.flags

variable {row : FrameRow} {frame : PyFrame} {fields : FrameFields}

/-- The checks of the domain accept exactly the fields of a frame. -/
theorem create_ok : fields.create = .ok frame ↔ fields = frame.fields := by
  constructor
  · intro created
    unfold FrameFields.create at created
    obtain ⟨sequence, created⟩ := refused_ok.mp created
    obtain ⟨_, created⟩ := refused_ok.mp created
    obtain ⟨arbitration, created⟩ := refused_ok.mp created
    obtain ⟨dlc, created⟩ := refused_ok.mp created
    obtain ⟨_, created⟩ := refused_ok.mp created
    obtain ⟨_, created⟩ := refused_ok.mp created
    obtain ⟨_, created⟩ := refused_ok.mp created
    obtain ⟨_, created⟩ := refused_ok.mp created
    obtain ⟨flags, created⟩ := refused_ok.mp created
    have whole : (fields.sequence.toNat : Int) = fields.sequence := by omega
    have named : (fields.arbitrationId.toNat : Int) = fields.arbitrationId := by omega
    have length : (fields.dlc.toNat : Int) = fields.dlc := by omega
    have flagged : (fields.flags.toNat : Int) = fields.flags := by omega
    obtain rfl := Except.ok.inj created
    simp only [PyFrame.fields, whole, named, length, flagged]
  · rintro rfl
    exact FrameFields.create_fields frame

theorem directionOf_ok {value : Text} {direction : Direction} :
    directionOf value = .ok direction ↔ value = text (directionValue direction) := by
  constructor
  · intro read
    unfold directionOf at read
    split at read
    · cases read
      assumption
    split at read
    · cases read
      assumption
    · cases read
  · rintro rfl
    exact directionOf_value direction

theorem qualityOf_ok {value : Text} {quality : Domain.TimestampQuality} :
    qualityOf value = .ok quality ↔ value = text (timestampQualityValue quality) := by
  constructor
  · intro read
    unfold qualityOf at read
    split at read
    · cases read
      assumption
    split at read
    · cases read
      assumption
    split at read
    · cases read
      assumption
    · cases read
  · rintro rfl
    exact qualityOf_value quality

private theorem present_ok {Value : Type} {value : Option Value} {held : Value} :
    present value = .ok held ↔ value = some held := by
  cases value <;> simp [present]

private theorem accepted_ok {Value : Type} {read : Read Value} {value : Value} :
    accepted read = .ok value ↔ read = .ok value := by
  cases read <;> simp [accepted]

theorem presentStamp_ok {value : PyFloat} {stamp : PyNumber} :
    presentStamp value = .ok stamp ↔ stamp.isInt = false ∧ value = .finite stamp.value := by
  cases value with
  | finite value =>
    cases stamp with
    | int whole => simp [presentStamp, PyNumber.isInt]
    | float held => simp [presentStamp, PyNumber.isInt, PyNumber.value]
  | infinite negative => simp [presentStamp]
  | nan => simp [presentStamp]

theorem presentStamps_ok {value : Option PyFloat} {stamp : Option PyNumber} :
    value.mapM presentStamp = .ok stamp ↔
      (∀ held ∈ stamp, held.isInt = false) ∧ value = stamp.map fun held => .finite held.value := by
  cases value with
  | none => cases stamp <;> simp [pure, Except.pure]
  | some value =>
    have mapped : (some value).mapM presentStamp = some <$> presentStamp value := rfl
    rw [mapped]
    cases stamp with
    | none => cases read : presentStamp value <;> simp [Functor.map, Except.map]
    | some held =>
      have spec : presentStamp value = .ok held ↔ _ := presentStamp_ok
      cases read : presentStamp value with
      | error fault =>
        rw [read] at spec
        simpa [Functor.map, Except.map] using spec
      | ok number =>
        rw [read] at spec
        simpa [Functor.map, Except.map] using spec

private theorem rowToFrame_ofFrame (floating : PyFrame.Floating frame) :
    rowToFrame (FrameRow.ofFrame frame) = .ok frame := by
  obtain ⟨host, normalized, hardware⟩ := floating
  have hostFinite : presentStamp (.finite frame.hostTimestamp.value) = .ok frame.hostTimestamp :=
    presentStamp_ok.mpr ⟨host, rfl⟩
  have normalizedFinite : presentStamp (.finite frame.normalizedTimestamp.value) = .ok frame.normalizedTimestamp :=
    presentStamp_ok.mpr ⟨normalized, rfl⟩
  have hardwareFinite : (frame.hardwareTimestamp.map fun stamp => PyFloat.finite stamp.value).mapM presentStamp =
      .ok frame.hardwareTimestamp := presentStamps_ok.mpr ⟨hardware, rfl⟩
  have created : frame.fields.create = .ok frame := FrameFields.create_fields frame
  rw [PyFrame.fields] at created
  simp only [rowToFrame, FrameRow.ofFrame, present, accepted, directionOf_value, qualityOf_value, ok_bind, hostFinite,
    normalizedFinite, hardwareFinite, created]

private theorem ofFrame_of_read (read : rowToFrame row = .ok frame) :
    PyFrame.Floating frame ∧ row = FrameRow.ofFrame frame := by
  cases row
  simp only [rowToFrame, bind_ok, present_ok, accepted_ok, presentStamp_ok, presentStamps_ok, directionOf_ok,
    qualityOf_ok, create_ok] at read
  obtain ⟨_, direction, _, spelled, _, quality, _, worded, _, sequence, _, id, _, dlc, _, flags, _, extended, _, fd, _,
    switch, _, indicator, _, channel, _, data, _, ⟨hardware, hardwareStamp⟩, _, host, _, ⟨hostFloat, hostStamp⟩, _,
    normalized, _, ⟨normalizedFloat, normalizedStamp⟩, _, clock, made⟩ := read
  simp only [PyFrame.fields, FrameFields.mk.injEq] at made
  obtain ⟨sequenceOf, channelOf, idOf, extendedOf, fdOf, switchOf, indicatorOf, dlcOf, dataOf, directed, hardwareOf,
    hostOf, normalizedOf, clockOf, qualified, flagsOf⟩ := made
  refine ⟨⟨?_, ?_, ?_⟩, ?_⟩
  · rw [← hostOf, hostFloat]
  · rw [← normalizedOf, normalizedFloat]
  · rw [← hardwareOf]
    exact hardware
  -- Column by column, from the row to the frame.
  rw [FrameRow.ofFrame, sequence, Int.ofNat.inj sequenceOf, channel, channelOf, id, Int.ofNat.inj idOf, extended,
    extendedOf, fd, fdOf, switch, switchOf, indicator, indicatorOf, dlc, Int.ofNat.inj dlcOf, data, dataOf, direction,
    spelled, directed, hardwareStamp, hardwareOf, host, hostStamp, hostOf, normalized, normalizedStamp, normalizedOf,
    clock, clockOf, quality, worded, qualified, flags, Int.ofNat.inj flagsOf]

/-- A row is read as a frame exactly if it is the row of that frame. -/
theorem rowToFrame_ok : rowToFrame row = .ok frame ↔ PyFrame.Floating frame ∧ row = FrameRow.ofFrame frame := by
  constructor
  · exact ofFrame_of_read
  · rintro ⟨floating, rfl⟩
    exact rowToFrame_ofFrame floating

end Rows

section Columns

/-- The texts of the frame have a UTF-8 form. -/
def PyFrame.Encodable (frame : PyFrame) : Prop :=
  frame.channelId.encodable = true ∧ frame.clockDomain.encodable = true

/-- What each array of `frames_to_table` holds for a frame. -/
def frameCells : List (PyFrame → ArrowValue) :=
  [fun frame => .uint frame.sequence,
    fun frame => .str frame.channelId,
    fun frame => .uint frame.arbitrationId,
    fun frame => .bool frame.isExtended,
    fun frame => .bool frame.isFd,
    fun frame => .bool frame.bitrateSwitch,
    fun frame => .bool frame.errorStateIndicator,
    fun frame => .uint frame.dlc,
    fun frame => .bytes frame.data,
    fun frame => .str (text (directionValue frame.direction)),
    fun frame => (frame.hardwareTimestamp.map fun stamp => ArrowValue.float (.finite stamp.value)).getD .null,
    fun frame => .float (.finite frame.hostTimestamp.value),
    fun frame => .float (.finite frame.normalizedTimestamp.value),
    fun frame => .str frame.clockDomain,
    fun frame => .str (text (timestampQualityValue frame.timestampQuality)),
    fun frame => .uint frame.flags]

variable {frames : List PyFrame} {frame : PyFrame}

theorem stringCell_ok {value : Text} {cell : ArrowValue} :
    stringCell value = .ok cell ↔ value.encodable = true ∧ cell = .str value := by
  rw [stringCell]
  by_cases encodable : value.encodable = true
  · rw [if_pos encodable, Except.ok.injEq, eq_comm, and_iff_right encodable]
  · rw [if_neg encodable]
    simp [encodable]

private theorem floatCell_float {stamp : PyNumber} (floating : stamp.isInt = false) :
    floatCell stamp = .ok (.float (.finite stamp.value)) := by
  cases stamp with
  | int value => cases floating
  | float value => rfl

/-- Each array takes a frame with floats and encodable texts to its cell. -/
theorem frameArrays_cells (floating : ∀ frame ∈ frames, PyFrame.Floating frame)
    (encodable : ∀ frame ∈ frames, PyFrame.Encodable frame) :
    List.Forall₂ (fun array cell => ∀ frame ∈ frames, array frame = .ok (cell frame)) frameArrays frameCells := by
  have plain : ∀ read : PyFrame → ArrowValue, ∀ frame ∈ frames,
      (.ok (read frame) : Except Data.PyException ArrowValue) = .ok (read frame) := fun _ _ _ => rfl
  have literal : ∀ spelled : String, stringCell (text spelled) = .ok (.str (text spelled)) := by
    intro spelled
    exact stringCell_ok.mpr ⟨text_encodable spelled, rfl⟩
  have channel : ∀ frame ∈ frames, stringCell frame.channelId = .ok (.str frame.channelId) :=
    fun frame member => stringCell_ok.mpr ⟨(encodable frame member).1, rfl⟩
  have clock : ∀ frame ∈ frames, stringCell frame.clockDomain = .ok (.str frame.clockDomain) :=
    fun frame member => stringCell_ok.mpr ⟨(encodable frame member).2, rfl⟩
  have host : ∀ frame ∈ frames, floatCell frame.hostTimestamp = .ok (.float (.finite frame.hostTimestamp.value)) :=
    fun frame member => floatCell_float (floating frame member).1
  have normalized : ∀ frame ∈ frames,
      floatCell frame.normalizedTimestamp = .ok (.float (.finite frame.normalizedTimestamp.value)) :=
    fun frame member => floatCell_float (floating frame member).2.1
  refine .cons (plain _) (.cons channel (.cons (plain _) (.cons (plain _) (.cons (plain _) (.cons (plain _)
    (.cons (plain _) (.cons (plain _) (.cons (plain _) (.cons (fun _ _ => literal _) (.cons ?_ (.cons host
      (.cons normalized (.cons clock (.cons (fun _ _ => literal _) (.cons (plain _) .nil)))))))))))))))
  intro frame member
  beta_reduce
  cases hardware : frame.hardwareTimestamp with
  | none => rfl
  | some stamp => exact floatCell_float ((floating frame member).2.2 stamp hardware)

/-- Arrays that convert every frame give the columns of their cells. -/
theorem arrays_columns {arrays : List (PyFrame → Except Data.PyException ArrowValue)}
    {cells : List (PyFrame → ArrowValue)}
    (converted : List.Forall₂ (fun array cell => ∀ frame ∈ frames, array frame = .ok (cell frame)) arrays cells) :
    (arrays.mapM fun array => frames.mapM array) = .ok (cells.map fun cell => frames.map cell) := by
  refine mapM_ok.mpr ?_
  rw [List.forall₂_map_right_iff]
  refine converted.imp ?_
  intro array cell each
  refine mapM_ok.mpr ?_
  rw [List.forall₂_map_right_iff]
  exact List.forall₂_same.mpr each

theorem transpose_columns (cells : List (PyFrame → ArrowValue)) (frames : List PyFrame) :
    transpose (cells.map fun cell => frames.map cell) frames.length =
      frames.map fun frame => cells.map fun cell => cell frame := by
  refine List.ext_getElem (by simp [transpose]) ?_
  intro index inside there
  have bounded : index < frames.length := by simpa using there
  simp [transpose, bounded]

/-- Read by the names of its columns, the row of cells of a frame is the row of that frame. -/
theorem frameCells_row (frame : PyFrame) :
    FrameRow.ofValues (frameColumns.zip (frameCells.map fun cell => cell frame)) = FrameRow.ofFrame frame := by
  cases hardware : frame.hardwareTimestamp with
  | none => simp [FrameRow.ofValues, FrameRow.ofFrame, frameColumns, frameCells, List.lookup_cons, hardware,
      ArrowValue.uint?, ArrowValue.bool?, ArrowValue.str?, ArrowValue.bytes?, ArrowValue.float?]
  | some stamp => simp [FrameRow.ofValues, FrameRow.ofFrame, frameColumns, frameCells, List.lookup_cons, hardware,
      ArrowValue.uint?, ArrowValue.bool?, ArrowValue.str?, ArrowValue.bytes?, ArrowValue.float?]

end Columns

section Tables

variable {frames : List PyFrame} {sessionId streamId : Text} {segmentIndex : Int} {table : ArrowTable}
variable {expected : Expected}

/-- The identity that was written is the one expected, as far as one is. -/
structure Expected.Matches (expected : Expected) (sessionId streamId : Text) (segmentIndex : Int) : Prop where
  sessionId : ∀ value ∈ expected.sessionId, value = sessionId
  streamId : ∀ value ∈ expected.streamId, value = streamId
  segmentIndex : ∀ value ∈ expected.segmentIndex, value = segmentIndex

private theorem frameArrays_encodable {columns : List (List ArrowValue)}
    (built : (frameArrays.mapM fun array => frames.mapM array) = .ok columns) :
    ∀ frame ∈ frames, PyFrame.Encodable frame := by
  have each : ∀ array ∈ frameArrays, ∀ frame ∈ frames, ∃ cell, array frame = .ok cell := by
    intro array listed frame member
    obtain ⟨column, -, filled⟩ := mapM_member built listed
    obtain ⟨cell, -, converted⟩ := mapM_member filled member
    exact ⟨cell, converted⟩
  intro frame member
  obtain ⟨_, channel⟩ := each (fun frame => stringCell frame.channelId) (by simp [frameArrays]) frame member
  obtain ⟨_, clock⟩ := each (fun frame => stringCell frame.clockDomain) (by simp [frameArrays]) frame member
  exact ⟨(stringCell_ok.mp channel).1, (stringCell_ok.mp clock).1⟩

/-- Frames with float timestamps make a table exactly if there are any and every text has a UTF-8 form. -/
theorem framesToTable_ok (floating : ∀ frame ∈ frames, PyFrame.Floating frame) :
    framesToTable frames sessionId streamId segmentIndex = .ok table ↔
      (frames ≠ [] ∧ (∀ frame ∈ frames, PyFrame.Encodable frame) ∧ sessionId.encodable = true ∧
        streamId.encodable = true) ∧
      table = ⟨frameSegmentMetadata sessionId streamId segmentIndex, frameArrowSchema,
        frames.map fun frame => frameCells.map fun cell => cell frame⟩ := by
  have identities : ((frameSegmentMetadata sessionId streamId segmentIndex).all fun entry => entry.2.encodable) =
      (sessionId.encodable && streamId.encodable) := by
    simp [frameSegmentMetadata, textOf, text_encodable]
  rw [framesToTable]
  by_cases empty : frames = []
  · simp [empty]
  · rw [if_neg empty, bind_ok]
    constructor
    · rintro ⟨columns, built, made⟩
      have encodable := frameArrays_encodable built
      rw [arrays_columns (frameArrays_cells floating encodable)] at built
      obtain rfl := Except.ok.inj built
      dsimp only at made
      rw [identities, transpose_columns] at made
      split at made
      · rename_i both
        obtain ⟨session, stream⟩ := Bool.and_eq_true_iff.mp both
        exact ⟨⟨empty, encodable, session, stream⟩, (Except.ok.inj made).symm⟩
      · cases made
    · rintro ⟨⟨_, encodable, session, stream⟩, rfl⟩
      refine ⟨_, arrays_columns (frameArrays_cells floating encodable), ?_⟩
      dsimp only
      rw [identities, session, stream, transpose_columns]
      rfl

theorem refuseIf_returns {condition : Prop} [Decidable condition] {error : DataError} {value : Unit} :
    refuseIf condition error = .ok value ↔ ¬ condition := by
  by_cases held : condition
  · simp [refuseIf, held]
  · simp [refuseIf, held]

private theorem requirePart_ok {metadata : List (Text × Text)} {key field : String} {named : Option Text}
    {value : Unit} :
    requirePart metadata key field named = .ok value ↔ ∀ part ∈ named, metadataValue metadata key = some part := by
  cases named with
  | none => simp [requirePart]
  | some part => simp [requirePart, refuseIf_returns]

/-- The layout is accepted exactly if it is the canonical one, column by column. -/
theorem requireCanonicalLayout_ok {schema : List (String × ArrowType)} {value : Unit} :
    requireCanonicalLayout schema = .ok value ↔ schema = frameArrowSchema := by
  simp only [requireCanonicalLayout, bind_ok, refuseIf_returns, not_not, exists_const, List.filter_eq_nil_iff,
    decide_eq_true_eq]
  constructor
  · rintro ⟨names, types⟩
    have typed : schema = (schema.map Prod.fst).map fun name => (name, (frameArrowSchema.lookup name).getD .uint8) := by
      rw [List.map_map]
      conv_lhs => rw [← List.map_id schema]
      refine List.map_congr_left ?_
      intro field member
      simp [types field member]
    rw [typed, names]
    decide
  · rintro rfl
    decide

/-- What a reader has seen of a table that it gives frames for. -/
structure Accepted (table : ArrowTable) (expected : Expected) (frames : List PyFrame) : Prop where
  marker : metadataValue table.metadata "canx.format" = some (text "can-x-frame-segment")
  version : (metadataValue table.metadata "canx.schema_version").bind intOf = some 1
  sessionId : ∀ value ∈ expected.sessionId, metadataValue table.metadata "canx.session_id" = some value
  streamId : ∀ value ∈ expected.streamId, metadataValue table.metadata "canx.stream_id" = some value
  segmentIndex : ∀ value ∈ expected.segmentIndex,
    metadataValue table.metadata "canx.segment_index" = some (textOf value)
  layout : table.schema = frameArrowSchema
  rows : List.Forall₂ (fun values frame => PyFrame.Floating frame ∧
    FrameRow.ofValues values = FrameRow.ofFrame frame) table.dicts frames

/-- Frames are returned exactly for a table that has passed every check, row by row. -/
theorem tableToFrames_ok : tableToFrames table expected = .ok frames ↔ Accepted table expected frames := by
  simp only [tableToFrames, requireSegmentMetadata, requireFormatMarker, requireSupportedVersion, requireIdentity,
    bind_ok, refuseIf_returns, requirePart_ok, requireCanonicalLayout_ok, mapM_ok, rowToFrame_ok, not_not, exists_const]
  constructor
  · rintro ⟨⟨marker, version, session, stream, index⟩, layout, rows⟩
    refine ⟨marker, version, session, stream, ?_, layout, rows⟩
    intro value named
    exact index _ (Option.mem_map_of_mem textOf named)
  · intro accepted
    refine ⟨⟨accepted.marker, accepted.version, accepted.sessionId, accepted.streamId, ?_⟩, accepted.layout,
      accepted.rows⟩
    intro part named
    obtain ⟨value, held, rfl⟩ := Option.map_eq_some_iff.mp named
    exact accepted.segmentIndex value held

/-- Whatever is raised is an integrity error. -/
abbrev Integral {Value : Type} (outcome : Except DataError Value) : Prop :=
  Raises (fun error => error.kind = .integrity) outcome

private theorem refuseIf_integral {condition : Prop} [Decidable condition] {error : DataError}
    (integrity : error.kind = .integrity) : Integral (refuseIf condition error) :=
  .ite (.error integrity) .ok

private theorem requirePart_integral {metadata : List (Text × Text)} {key field : String} {named : Option Text} :
    Integral (requirePart metadata key field named) := by
  cases named with
  | none => exact .ok
  | some part => exact refuseIf_integral rfl

private theorem present_integral {Value : Type} {value : Option Value} : Integral (present value) := by
  cases value with
  | none => exact .error rfl
  | some held => exact .ok

private theorem presentStamp_integral {value : PyFloat} : Integral (presentStamp value) := by
  cases value with
  | finite value => exact .ok
  | infinite negative => exact .error rfl
  | nan => exact .error rfl

private theorem accepted_integral {Value : Type} {read : Read Value} : Integral (accepted read) := by
  cases read with
  | error fault => exact .error rfl
  | ok value => exact .ok

private theorem rowToFrame_integral (row : FrameRow) : Integral (rowToFrame row) := by
  have direction : Integral (present row.direction) := present_integral
  have stamps : Integral (row.hardwareTimestamp.mapM presentStamp) := .mapM_option fun _ _ => presentStamp_integral
  exact direction.bind fun _ => accepted_integral.bind fun _ => present_integral.bind fun _ =>
    accepted_integral.bind fun _ => present_integral.bind fun _ => present_integral.bind fun _ =>
    present_integral.bind fun _ => present_integral.bind fun _ => present_integral.bind fun _ =>
    present_integral.bind fun _ => present_integral.bind fun _ => present_integral.bind fun _ =>
    present_integral.bind fun _ => present_integral.bind fun _ => stamps.bind fun _ =>
    present_integral.bind fun _ => presentStamp_integral.bind fun _ => present_integral.bind fun _ =>
    presentStamp_integral.bind fun _ => present_integral.bind fun _ => accepted_integral

theorem tableToFrames_integral : Integral (tableToFrames table expected) := by
  have metadata : Integral (requireSegmentMetadata table.metadata expected) :=
    (refuseIf_integral rfl).bind fun _ => (refuseIf_integral rfl).bind fun _ =>
      requirePart_integral.bind fun _ => requirePart_integral.bind fun _ => requirePart_integral
  have layout : Integral (requireCanonicalLayout table.schema) :=
    (refuseIf_integral rfl).bind fun _ => refuseIf_integral rfl
  exact metadata.bind fun _ => layout.bind fun _ => .mapM fun _ _ => rowToFrame_integral _

/-- A table with the metadata of a segment answers to the identity of that segment only. -/
theorem accepted_matches {others : List PyFrame}
    (metadata : table.metadata = frameSegmentMetadata sessionId streamId segmentIndex)
    (accepted : Accepted table expected others) : expected.Matches sessionId streamId segmentIndex := by
  obtain ⟨-, -, session, stream, index, -, -⟩ := accepted
  rw [metadata] at session stream index
  refine ⟨?_, ?_, ?_⟩
  · intro value named
    have held : some sessionId = some value := session value named
    exact (Option.some.inj held).symm
  · intro value named
    have held : some streamId = some value := stream value named
    exact (Option.some.inj held).symm
  · intro value named
    have held : some (textOf segmentIndex) = some (textOf value) := index value named
    exact textOf_injective (Option.some.inj held).symm

/-- The table of a segment is accepted under the identity it was written with. -/
theorem written_accepted (floating : ∀ frame ∈ frames, PyFrame.Floating frame)
    (written : framesToTable frames sessionId streamId segmentIndex = .ok table)
    (agrees : expected.Matches sessionId streamId segmentIndex) : Accepted table expected frames := by
  obtain ⟨-, rfl⟩ := (framesToTable_ok floating).mp written
  have version : intOf (textOf 1) = some 1 := by decide +kernel
  refine ⟨rfl, version, ?_, ?_, ?_, rfl, ?_⟩
  · intro value named
    rw [agrees.sessionId value named]
    rfl
  · intro value named
    rw [agrees.streamId value named]
    rfl
  · intro value named
    rw [agrees.segmentIndex value named]
    rfl
  · rw [ArrowTable.dicts, List.map_map, List.forall₂_map_left_iff]
    refine List.forall₂_same.mpr ?_
    intro frame member
    exact ⟨floating frame member, frameCells_row frame⟩

end Tables

end CanX.Data
