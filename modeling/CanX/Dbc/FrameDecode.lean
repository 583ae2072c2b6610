import CanX.Dbc.BitWalk

/-! What a database defines for a frame, and that decoding gives exactly that: the conditions on
message and payload, the active signals with their values, and which failure comes first. -/

namespace CanX.Dbc

open Domain Numeric

section Conditions

/-- The message that the database defines for the identifier of a frame. -/
structure Addressed (database : DbcDatabase) (frame : Frame) (message : DbcMessage) : Prop where
  defined : message ∈ database.messages
  identifier : message.frameId = frame.arbitrationId
  extended : message.isExtended = frame.isExtended

namespace DbcMessage

variable (message : DbcMessage)

/-- One switch at most, and every multiplexed signal names it. -/
structure Unambiguous : Prop where
  single : (message.signals.filter DbcSignal.isMultiplexer).length ≤ 1
  parents : ∀ signal ∈ message.signals, ∀ parent ∈ signal.multiplexerSignal,
    ∃ switch ∈ message.signals, switch.isMultiplexer = true ∧ parent = switch.name

/-- An integer whose bits all lie in the payload. -/
def Extractable (signal : DbcSignal) : Prop := signal.isFloat = false ∧ signal.Inside message.length

def switch : Option DbcSignal := message.signals.find? DbcSignal.isMultiplexer

/-- The signals that take part: those that are not multiplexed, the switch among them, and those
whose ids contain what the switch reads. -/
def active (data : Bytes) : List DbcSignal :=
  message.signals.filter fun signal => signal.multiplexerIds.all fun ids =>
    (message.switch.map fun switch => switch.reading data).any fun raw => ids.any fun id => (id : Int) = raw

end DbcMessage

/-- The signal's value is a finite number. -/
def Convertible (scaling : Scaling) (data : Bytes) (signal : DbcSignal) : Prop :=
  ∃ value, scaling (signal.reading data) signal.factor signal.offset = .finite value

/-- Every condition of a decode. -/
structure Decodable (scaling : Scaling) (database : DbcDatabase) (frame : Frame) (message : DbcMessage) :
    Prop where
  addressed : Addressed database frame message
  type : message.isFd = frame.isFd
  unambiguous : message.Unambiguous
  extractable : ∀ signal ∈ message.signals, message.Extractable signal
  enough : message.length ≤ frame.data.length
  convertible : ∀ signal ∈ message.active frame.data, Convertible scaling frame.data signal

/-- What is shown of an active signal. -/
structure Shows (scaling : Scaling) (data : Bytes) (signal : DbcSignal) (shown : DecodedSignal) : Prop where
  name : shown.name = signal.name
  raw : shown.rawValue = signal.reading data
  physical : scaling (signal.reading data) signal.factor signal.offset = .finite shown.physicalValue
  label : shown.choiceLabel = signal.choices.lookup (signal.reading data)
  unit : shown.unit = signal.unit

/-- The failure of the first condition that does not hold; among signals, of the first one. -/
inductive FirstFailing (scaling : Scaling) (database : DbcDatabase) (frame : Frame) : DbcDecodeFailure → Prop where
  | undefined (unaddressed : ∀ message, ¬ Addressed database frame message) :
      FirstFailing scaling database frame (messageNotFound frame)
  | type {message} (addressed : Addressed database frame message) (other : message.isFd ≠ frame.isFd) :
      FirstFailing scaling database frame (frameTypeMismatch frame message)
  | ambiguous {message} (addressed : Addressed database frame message) (type : message.isFd = frame.isFd)
      (ambiguous : ¬ message.Unambiguous) :
      FirstFailing scaling database frame (decodeUnsupported message "ambiguous_multiplexing")
  | unextractable {message front signal back} (addressed : Addressed database frame message)
      (type : message.isFd = frame.isFd) (unambiguous : message.Unambiguous)
      (signals : message.signals = front ++ signal :: back)
      (earlier : ∀ other ∈ front, message.Extractable other) (unextractable : ¬ message.Extractable signal) :
      FirstFailing scaling database frame (decodeUnsupported message
        (if signal.isFloat then "float_signal_payload" else "signal_outside_message_payload"))
  | short {message} (addressed : Addressed database frame message) (type : message.isFd = frame.isFd)
      (unambiguous : message.Unambiguous) (extractable : ∀ signal ∈ message.signals, message.Extractable signal)
      (short : frame.data.length < message.length) :
      FirstFailing scaling database frame (payloadTooShort frame message)
  | nonFinite {message front signal back} (addressed : Addressed database frame message)
      (type : message.isFd = frame.isFd) (unambiguous : message.Unambiguous)
      (extractable : ∀ signal ∈ message.signals, message.Extractable signal)
      (enough : message.length ≤ frame.data.length)
      (active : message.active frame.data = front ++ signal :: back)
      (earlier : ∀ other ∈ front, Convertible scaling frame.data other)
      (unconvertible : scaling (signal.reading frame.data) signal.factor signal.offset = .nonFinite) :
      FirstFailing scaling database frame (signalDecodeFailed
        "The signal's physical value is not a finite number." message signal "non_finite_physical_value")
  | raised {message front signal back error} (addressed : Addressed database frame message)
      (type : message.isFd = frame.isFd) (unambiguous : message.Unambiguous)
      (extractable : ∀ signal ∈ message.signals, message.Extractable signal)
      (enough : message.length ≤ frame.data.length)
      (active : message.active frame.data = front ++ signal :: back)
      (earlier : ∀ other ∈ front, Convertible scaling frame.data other)
      (unconvertible : scaling (signal.reading frame.data) signal.factor signal.offset = .raised error) :
      FirstFailing scaling database frame (signalDecodeFailed
        "The signal's bits could not be converted to a physical value." message signal error)

end Conditions

section Lookup

variable {database : DbcDatabase} {frame : Frame} {message : DbcMessage}

theorem lookup_some : database.lookup frame.arbitrationId frame.isExtended = some message ↔
    Addressed database frame message := by
  constructor
  · intro found
    have same := List.find?_some found
    simp only [decide_eq_true_eq] at same
    exact ⟨DbcDatabase.lookup_mem found, same.1, same.2⟩
  · intro addressed
    cases found : database.lookup frame.arbitrationId frame.isExtended with
    | none =>
      have missing := List.find?_eq_none.mp found message addressed.defined
      simp [addressed.identifier, addressed.extended] at missing
    | some other =>
      have same := List.find?_some found
      simp only [decide_eq_true_eq] at same
      have pairs : (fun message : DbcMessage => (message.frameId, message.isExtended)) other =
          (fun message : DbcMessage => (message.frameId, message.isExtended)) message := by
        simp [same, addressed.identifier, addressed.extended]
      have unique := List.inj_on_of_nodup_map database.identifiers_unique
        (DbcDatabase.lookup_mem found) addressed.defined pairs
      rw [unique]

theorem lookup_none : database.lookup frame.arbitrationId frame.isExtended = none ↔
    ∀ message, ¬ Addressed database frame message := by
  constructor
  · intro missing message addressed
    rw [lookup_some.mpr addressed] at missing
    cases missing
  · intro unaddressed
    cases found : database.lookup frame.arbitrationId frame.isExtended with
    | none => rfl
    | some message => exact absurd (lookup_some.mp found) (unaddressed message)

end Lookup

section Compile

variable {message : DbcMessage} {signal : DbcSignal}

/-- The switch of a message is found unless its multiplexing is ambiguous. -/
theorem resolveMultiplexer_cases :
    (message.Unambiguous ∧ resolveMultiplexer message = .ok message.switch) ∨
    (¬ message.Unambiguous ∧ resolveMultiplexer message = .error "ambiguous_multiplexing") := by
  have first : (message.signals.filter DbcSignal.isMultiplexer).head? = message.switch := List.head?_filter
  have single (short : (message.signals.filter DbcSignal.isMultiplexer).length ≤ 1) :
      (∀ signal ∈ message.signals, ∀ parent ∈ signal.multiplexerSignal,
        ∃ switch ∈ message.signals, switch.isMultiplexer = true ∧ parent = switch.name) ↔
      (message.signals.all fun signal => signal.multiplexerSignal.all fun parent =>
        message.switch.any fun switch => parent = switch.name) = true := by
    rw [List.all_eq_true]
    have each (parent : Text) : (∃ switch ∈ message.signals, switch.isMultiplexer = true ∧ parent = switch.name) ↔
        (message.switch.any fun switch => parent = switch.name) = true := by
      rw [← first]
      have members (switch : DbcSignal) : switch ∈ message.signals ∧ switch.isMultiplexer = true ↔
          switch ∈ message.signals.filter DbcSignal.isMultiplexer := List.mem_filter.symm
      cases known : message.signals.filter DbcSignal.isMultiplexer with
      | nil =>
        simp only [known, List.not_mem_nil, iff_false, not_and] at members
        constructor
        · rintro ⟨switch, present, switching, _⟩
          exact absurd switching (members switch present)
        · intro named
          cases named
      | cons only rest =>
        have alone : rest = [] := by
          rw [known, List.length_cons] at short
          exact List.length_eq_zero_iff.mp (by omega)
        simp only [known, alone, List.mem_singleton] at members
        simp only [List.head?_cons, Option.any_some, decide_eq_true_eq]
        constructor
        · rintro ⟨switch, present, switching, same⟩
          rw [same, (members switch).mp ⟨present, switching⟩]
        · intro same
          obtain ⟨present, switching⟩ := (members only).mpr rfl
          exact ⟨only, present, switching, same⟩
    constructor
    · intro parents signal member
      cases named : signal.multiplexerSignal with
      | none => rfl
      | some parent => exact (each parent).mp (parents signal member parent named)
    · intro checked signal member parent named
      have found := checked signal member
      rw [Option.mem_def.mp named] at found
      exact (each parent).mpr found
  unfold resolveMultiplexer
  split
  · rename_i one another rest known
    refine .inr ⟨?_, rfl⟩
    intro unambiguous
    have short := unambiguous.single
    rw [known, List.length_cons, List.length_cons] at short
    omega
  · rename_i several
    have short : (message.signals.filter DbcSignal.isMultiplexer).length ≤ 1 := by
      cases known : message.signals.filter DbcSignal.isMultiplexer with
      | nil => exact Nat.zero_le 1
      | cons one rest =>
        cases rest with
        | nil => exact Nat.le_refl 1
        | cons another rest => exact absurd known (several one another rest)
    rw [first]
    split
    · rename_i checked
      exact .inl ⟨⟨short, (single short).mpr checked⟩, rfl⟩
    · rename_i unchecked
      exact .inr ⟨fun unambiguous => unchecked ((single short).mp unambiguous.parents), rfl⟩

/-- The recipes of the signals, unless one of them has none. -/
theorem compileSignals_cases (signals : List DbcSignal) :
    (∃ plans, compileSignals (message.length * 8) signals = .ok plans ∧
      (∀ signal ∈ signals, message.Extractable signal) ∧
      ∀ plan ∈ plans.val, compileSignal plan.signal (message.length * 8) = some plan) ∨
    ∃ front signal back, signals = front ++ signal :: back ∧
      (∀ other ∈ front, message.Extractable other) ∧ ¬ message.Extractable signal ∧
      compileSignals (message.length * 8) signals =
        .error (if signal.isFloat then "float_signal_payload" else "signal_outside_message_payload") := by
  induction signals with
  | nil => exact .inl ⟨⟨[], rfl⟩, rfl, by simp, by simp⟩
  | cons signal rest ih =>
    unfold compileSignals
    by_cases floating : signal.isFloat = true
    · refine .inr ⟨[], signal, rest, rfl, by simp, ?_, ?_⟩
      · intro extractable
        exact absurd (floating.symm.trans extractable.1) (by simp)
      · rw [if_pos floating, if_pos floating]
    · have integral : signal.isFloat = false := Bool.eq_false_of_not_eq_true floating
      rw [if_neg floating]
      split
      · rename_i missing
        refine .inr ⟨[], signal, rest, rfl, by simp, ?_, ?_⟩
        · intro extractable
          exact compileSignal_none.mp missing extractable.2
        · rw [if_neg floating]
      · rename_i plan compiled
        have extractable : message.Extractable signal := ⟨integral, (compileSignal_some compiled).2.1⟩
        rcases ih with ⟨plans, made, all, recipes⟩ | ⟨front, bad, back, split, earlier, unextractable, failed⟩
        · refine .inl ⟨⟨plan :: plans.val, _⟩, by rw [made], ?_, ?_⟩
          · intro other member
            rcases List.mem_cons.mp member with rfl | later
            · exact extractable
            · exact all other later
          · intro other member
            rcases List.mem_cons.mp member with rfl | later
            · rw [compileSignal_signal compiled]
              exact compiled
            · exact recipes other later
        · refine .inr ⟨signal :: front, bad, back, by rw [split, List.cons_append], ?_, unextractable, by rw [failed]⟩
          intro other member
          rcases List.mem_cons.mp member with rfl | later
          · exact extractable
          · exact earlier other later

/-- The plan of a message has a recipe for each signal, and the one of its switch. -/
structure Compiled (message : DbcMessage) (plan : MessagePlan message) : Prop where
  recipes : ∀ each ∈ plan.signals, compileSignal each.signal (message.length * 8) = some each
  multiplexer : plan.multiplexer.map SignalPlan.signal = message.switch
  listed : ∀ each ∈ plan.multiplexer, each ∈ plan.signals

theorem compileMessage_cases (message : DbcMessage) :
    (¬ message.Unambiguous ∧ compileMessage message = .error "ambiguous_multiplexing") ∨
    (message.Unambiguous ∧ ∃ front signal back, message.signals = front ++ signal :: back ∧
      (∀ other ∈ front, message.Extractable other) ∧ ¬ message.Extractable signal ∧
      compileMessage message =
        .error (if signal.isFloat then "float_signal_payload" else "signal_outside_message_payload")) ∨
    (message.Unambiguous ∧ (∀ signal ∈ message.signals, message.Extractable signal) ∧
      ∃ plan, compileMessage message = .ok plan ∧ Compiled message plan) := by
  rcases resolveMultiplexer_cases with ⟨unambiguous, resolved⟩ | ⟨ambiguous, refused⟩
  · rcases compileSignals_cases message.signals with
      ⟨plans, made, all, recipes⟩ | ⟨front, signal, back, split, earlier, unextractable, failed⟩
    · refine .inr (.inr ⟨unambiguous, all, _, by rw [compileMessage, resolved, made]; rfl, recipes, ?_, ?_⟩)
      · cases switched : message.switch with
        | none => rfl
        | some switch =>
          have present : switch ∈ message.signals := List.mem_of_find?_eq_some switched
          rw [← plans.property] at present
          obtain ⟨own, held, same⟩ := List.mem_map.mp present
          dsimp only [Option.bind_some]
          cases found : plans.val.find? fun plan => plan.signal.name = switch.name with
          | none =>
            have missing := List.find?_eq_none.mp found own held
            simp [same] at missing
          | some plan =>
            have named := List.find?_some found
            simp only [decide_eq_true_eq] at named
            have listed : plan.signal ∈ message.signals := by
              rw [← plans.property]
              exact List.mem_map_of_mem (List.mem_of_find?_eq_some found)
            have unique := List.inj_on_of_nodup_map message.signals_unique listed
              (List.mem_of_find?_eq_some switched) named
            rw [Option.map_some, unique]
      · intro each member
        cases switched : message.switch with
        | none =>
          rw [switched] at member
          cases member
        | some switch =>
          rw [switched] at member
          exact List.mem_of_find?_eq_some member
    · refine .inr (.inl ⟨unambiguous, front, signal, back, split, earlier, unextractable, ?_⟩)
      rw [compileMessage, resolved, failed]
      rfl
  · exact .inl ⟨ambiguous, by rw [compileMessage, refused]; rfl⟩

end Compile

section Values

variable {message : DbcMessage} {plan : MessagePlan message} {data : Bytes} {scaling : Scaling}

theorem Compiled.reads (compiled : Compiled message plan) (enough : message.length ≤ data.length)
    {each : SignalPlan} (member : each ∈ plan.signals) : each.rawValue data = each.signal.reading data :=
  rawValue_eq_reading (compiled.recipes each member) enough

theorem Compiled.selected (compiled : Compiled message plan) (enough : message.length ≤ data.length) :
    plan.selected data = message.switch.map fun switch => switch.reading data := by
  rw [MessagePlan.selected, ← compiled.multiplexer]
  cases switched : plan.multiplexer with
  | none => rfl
  | some each =>
    have reads := compiled.reads enough (compiled.listed each switched)
    rw [Option.map_some, Option.map_some, Option.map_some, reads]

/-- The recipes that take part are those of the active signals. -/
theorem Compiled.active (compiled : Compiled message plan) (enough : message.length ≤ data.length) :
    (plan.active data).map SignalPlan.signal = message.active data := by
  have chosen : ∀ each : SignalPlan, SignalPlan.activeFor (plan.selected data) each =
      (each.signal.multiplexerIds.all fun ids =>
        (message.switch.map fun switch => switch.reading data).any fun raw => ids.any fun id => (id : Int) = raw) := by
    intro each
    rw [compiled.selected enough]
    unfold SignalPlan.activeFor
    cases each.signal.multiplexerIds with
    | none => simp
    | some ids =>
      cases message.switch with
      | none => simp
      | some switch => simp
  rw [MessagePlan.active, DbcMessage.active, ← plan.compiled, List.filter_map]
  congr 1
  apply List.filter_congr
  exact fun each _ => chosen each

/-- Each recipe shows its signal, up to the first whose value is not a finite number. -/
theorem decodeSignals_cases {plans : List SignalPlan}
    (reads : ∀ plan ∈ plans, plan.rawValue data = plan.signal.reading data) :
    (∃ signals, decodeSignals scaling message data plans = .ok signals ∧
      List.Forall₂ (Shows scaling data) (plans.map SignalPlan.signal) signals.val) ∨
    ∃ front signal back failure, plans.map SignalPlan.signal = front ++ signal :: back ∧
      (∀ other ∈ front, Convertible scaling data other) ∧
      decodeSignals scaling message data plans = .error failure ∧
      ((scaling (signal.reading data) signal.factor signal.offset = .nonFinite ∧
        failure = signalDecodeFailed "The signal's physical value is not a finite number." message signal
          "non_finite_physical_value") ∨
      ∃ error, scaling (signal.reading data) signal.factor signal.offset = .raised error ∧
        failure = signalDecodeFailed "The signal's bits could not be converted to a physical value." message
          signal error) := by
  induction plans with
  | nil => exact .inl ⟨⟨[], rfl⟩, rfl, .nil⟩
  | cons plan rest ih =>
    have own := reads plan List.mem_cons_self
    have others := ih fun other member => reads other (List.mem_cons_of_mem plan member)
    unfold decodeSignals
    split
    · rename_i failure failed
      refine .inr ⟨[], plan.signal, rest.map SignalPlan.signal, failure, rfl, by simp, rfl, ?_⟩
      unfold SignalPlan.decode at failed
      dsimp only at failed
      rw [own] at failed
      split at failed
      · rename_i error raised
        cases failed
        exact .inr ⟨error, raised, rfl⟩
      · rename_i infinite
        cases failed
        exact .inl ⟨infinite, rfl⟩
      · cases failed
    · rename_i shown decoded
      have shows : Shows scaling data plan.signal shown := by
        unfold SignalPlan.decode at decoded
        dsimp only at decoded
        rw [own] at decoded
        split at decoded
        · cases decoded
        · cases decoded
        · rename_i physical finite
          cases decoded
          exact ⟨rfl, rfl, finite, rfl, rfl⟩
      rcases others with ⟨signals, made, all⟩ | ⟨front, signal, back, failure, split, earlier, failed, cause⟩
      · exact .inl ⟨⟨shown :: signals.val, _⟩, by rw [made], .cons shows all⟩
      · refine .inr ⟨plan.signal :: front, signal, back, failure, by rw [List.map_cons, split, List.cons_append],
          ?_, by rw [failed], cause⟩
        intro other member
        rcases List.mem_cons.mp member with rfl | later
        · exact ⟨shown.physicalValue, shows.physical⟩
        · exact earlier other later

end Values

section Frames

variable {scaling : Scaling} {database : DbcDatabase} {frame : Frame} {message : DbcMessage}

/-- What a decoded frame shows. -/
structure Decoded (scaling : Scaling) (message : DbcMessage) (frame : Frame) (decoded : DecodedFrame) : Prop where
  source : decoded.frame = frame
  name : decoded.messageName = message.name
  signals : List.Forall₂ (Shows scaling frame.data) (message.active frame.data) decoded.signals

private theorem shown_of_active {data : Bytes} {signals : List DbcSignal} {shown : List DecodedSignal}
    {signal : DbcSignal} (all : List.Forall₂ (Shows scaling data) signals shown) (member : signal ∈ signals) :
    ∃ value ∈ shown, Shows scaling data signal value := by
  induction all with
  | nil => cases member
  | @cons first value signals shown shows rest ih =>
    rcases List.mem_cons.mp member with rfl | later
    · exact ⟨value, List.mem_cons_self, shows⟩
    · obtain ⟨found, held, matched⟩ := ih later
      exact ⟨found, List.mem_cons_of_mem value held, matched⟩

theorem decodeFrame_cases (scaling : Scaling) (database : DbcDatabase) (frame : Frame) :
    (∃ message decoded, Decodable scaling database frame message ∧
      decodeFrame scaling database frame = .ok decoded ∧ Decoded scaling message frame decoded) ∨
    ∃ failure, decodeFrame scaling database frame = .error failure ∧
      FirstFailing scaling database frame failure := by
  unfold decodeFrame
  cases found : database.lookup frame.arbitrationId frame.isExtended with
  | none => exact .inr ⟨_, rfl, .undefined (lookup_none.mp found)⟩
  | some message =>
    have addressed := lookup_some.mp found
    dsimp only
    by_cases type : message.isFd = frame.isFd
    · rw [if_neg (not_not_intro type), decodeMessage]
      rcases compileMessage_cases message with ⟨ambiguous, refused⟩ |
        ⟨unambiguous, front, signal, back, split, earlier, unextractable, failed⟩ |
        ⟨unambiguous, extractable, plan, made, compiled⟩
      · rw [refused]
        exact .inr ⟨_, rfl, .ambiguous addressed type ambiguous⟩
      · rw [failed]
        exact .inr ⟨_, rfl, .unextractable addressed type unambiguous split earlier unextractable⟩
      · rw [made]
        dsimp only
        by_cases short : frame.data.length < message.length
        · rw [if_pos short]
          exact .inr ⟨_, rfl, .short addressed type unambiguous extractable short⟩
        · have enough := Nat.le_of_not_lt short
          have active := compiled.active enough
          have reads : ∀ each ∈ plan.active frame.data, each.rawValue frame.data = each.signal.reading frame.data :=
            fun each member => compiled.reads enough (List.mem_of_mem_filter member)
          rw [if_neg short]
          have outcome : (∃ signals, decodeSignals scaling message frame.data (plan.active frame.data) = .ok signals ∧
              _) ∨ _ := decodeSignals_cases reads
          rcases outcome with
            ⟨signals, decoded, shown⟩ | ⟨front, signal, back, failure, split, earlier, failed, cause⟩
          · rw [active] at shown
            refine .inl ⟨message, _, ⟨addressed, type, unambiguous, extractable, enough, ?_⟩, by rw [decoded],
              rfl, rfl, shown⟩
            intro signal member
            obtain ⟨value, _, shows⟩ := shown_of_active shown member
            exact ⟨value.physicalValue, shows.physical⟩
          · rw [active] at split
            rw [failed]
            refine .inr ⟨failure, rfl, ?_⟩
            rcases cause with ⟨infinite, rfl⟩ | ⟨error, raised, rfl⟩
            · exact .nonFinite addressed type unambiguous extractable enough split earlier infinite
            · exact .raised addressed type unambiguous extractable enough split earlier raised
    · rw [if_pos type]
      exact .inr ⟨_, rfl, .type addressed type⟩

/-- The switch takes part in every frame, with what is not multiplexed, and a multiplexed signal
where its ids contain what the switch reads. -/
theorem mem_active {signal : DbcSignal} {data : Bytes} : signal ∈ message.active data ↔
    signal ∈ message.signals ∧ (signal.multiplexerIds = none ∨ ∃ switch ids id, message.switch = some switch ∧
      signal.multiplexerIds = some ids ∧ id ∈ ids ∧ (id : Int) = switch.reading data) := by
  rw [DbcMessage.active, List.mem_filter]
  apply and_congr_right
  intro _
  cases signal.multiplexerIds with
  | none => simp
  | some ids =>
    cases message.switch with
    | none => simp
    | some switch => simp

/-- Where a condition fails, the frame cannot be decoded. -/
theorem FirstFailing.undecodable {failure : DbcDecodeFailure} (failing : FirstFailing scaling database frame failure) :
    ¬ Decodable scaling database frame message := by
  intro decodable
  have same {other : DbcMessage} (addressed : Addressed database frame other) : message = other :=
    Option.some.inj ((lookup_some.mpr decodable.addressed).symm.trans (lookup_some.mpr addressed))
  cases failing with
  | undefined unaddressed => exact unaddressed message decodable.addressed
  | type addressed other =>
    obtain rfl := same addressed
    exact other decodable.type
  | ambiguous addressed _ ambiguous =>
    obtain rfl := same addressed
    exact ambiguous decodable.unambiguous
  | @unextractable _ front signal back addressed _ _ signals _ unextractable =>
    obtain rfl := same addressed
    have member : signal ∈ message.signals := signals ▸ List.mem_append_right front List.mem_cons_self
    exact unextractable (decodable.extractable signal member)
  | short addressed _ _ _ short =>
    obtain rfl := same addressed
    exact Nat.not_lt.mpr decodable.enough short
  | @nonFinite _ front signal back addressed _ _ _ _ active _ infinite =>
    obtain rfl := same addressed
    have member : signal ∈ message.active frame.data := active ▸ List.mem_append_right front List.mem_cons_self
    obtain ⟨value, finite⟩ := decodable.convertible signal member
    cases infinite.symm.trans finite
  | @raised _ front signal back error addressed _ _ _ _ active _ raised =>
    obtain rfl := same addressed
    have member : signal ∈ message.active frame.data := active ▸ List.mem_append_right front List.mem_cons_self
    obtain ⟨value, finite⟩ := decodable.convertible signal member
    cases raised.symm.trans finite

/-- A frame is decoded exactly where every condition holds, to exactly its active signals in the order
of the document; else the failure is that of the first condition that does not hold. -/
theorem decodeFrame_exact (scaling : Scaling) (database : DbcDatabase) (frame : Frame) :
    ((∃ decoded, decodeFrame scaling database frame = .ok decoded) ↔
      ∃ message, Decodable scaling database frame message) ∧
    (∀ decoded, decodeFrame scaling database frame = .ok decoded →
      ∃ message, Decodable scaling database frame message ∧ Decoded scaling message frame decoded) ∧
    ∀ failure, decodeFrame scaling database frame = .error failure →
      FirstFailing scaling database frame failure := by
  rcases decodeFrame_cases scaling database frame with
    ⟨message, decoded, decodable, given, shows⟩ | ⟨failure, given, failing⟩
  · refine ⟨⟨fun _ => ⟨message, decodable⟩, fun _ => ⟨decoded, given⟩⟩, ?_, ?_⟩
    · intro other same
      obtain rfl := Except.ok.inj (given.symm.trans same)
      exact ⟨message, decodable, shows⟩
    · intro failure failed
      cases given.symm.trans failed
  · refine ⟨⟨?_, ?_⟩, ?_, ?_⟩
    · rintro ⟨decoded, same⟩
      cases given.symm.trans same
    · rintro ⟨message, decodable⟩
      exact absurd decodable failing.undecodable
    · intro decoded same
      cases given.symm.trans same
    · intro other failed
      obtain rfl := Except.error.inj (given.symm.trans failed)
      exact failing

end Frames

section Sample

/-- A message of one signal. -/
def torqueDatabase : DbcDatabase where
  messages := [{
    frameId := 0x20
    name := text "Motor"
    length := 2
    isExtended := false
    isFd := false
    signals := [torque]
    named := by decide +kernel
    id_range := by decide
    length_range := by decide
    signals_unique := List.nodup_singleton _ }]
  names_unique := List.nodup_singleton _
  identifiers_unique := List.nodup_singleton _

theorem torqueFrame_sequence : 7 ≤ 0xFFFFFFFFFFFFFFFF := by decide

theorem torqueFrame_classic : false = false → false = false ∧ false = false := by simp

theorem torqueFrame_normalized : (0 : Seconds) ≤ 1 := by decide

def torqueFrame : Frame where
  sequence := 7
  channelId := "can1"
  arbitrationId := 0x20
  isExtended := false
  isFd := false
  bitrateSwitch := false
  errorStateIndicator := false
  dlc := 2
  data := [0xAF, 0xFE]
  direction := .rx
  hardwareTimestamp := some 1
  hostTimestamp := 2
  normalizedTimestamp := 1
  clockDomain := "device"
  timestampQuality := .hardware
  flags := 3
  sequence_unsigned := torqueFrame_sequence
  channel_named := by decide
  arbitration_range := by decide
  dlc_allowed := by decide
  data_length := rfl
  classic_flags := torqueFrame_classic
  host_nonnegative := by decide
  normalized_nonnegative := torqueFrame_normalized
  hardware_nonnegative := by decide
  clock_named := by decide
  flags_unsigned := by decide

/-- Scaling without rounding. -/
def exactly : Scaling := fun raw factor offset => .finite (raw * factor + offset)

theorem decodeFrame_exact_torque : ∃ message decoded,
    decodeFrame exactly torqueDatabase torqueFrame = .ok decoded ∧ Decoded exactly message torqueFrame decoded ∧
    decoded.signals.map DecodedSignal.rawValue = [-2] := by
  have decodes : ((decodeFrame exactly torqueDatabase torqueFrame).toOption.map fun decoded =>
      decoded.signals.map DecodedSignal.rawValue) = some [-2] := by
    decide +kernel
  cases given : decodeFrame exactly torqueDatabase torqueFrame with
  | error failure =>
    rw [given] at decodes
    cases decodes
  | ok decoded =>
    rw [given] at decodes
    obtain ⟨message, _, shows⟩ := (decodeFrame_exact exactly torqueDatabase torqueFrame).2.1 decoded given
    exact ⟨message, decoded, rfl, shows, Option.some.inj decodes⟩

end Sample

end CanX.Dbc
