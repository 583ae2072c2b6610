import CanX.Dbc.Asset

/-! The canonical definitions a decoder is built from. The constructor checks are fields; what no
decoder reads of a definition is left out. -/

namespace CanX.Dbc

inductive DbcByteOrder where
  | littleEndian
  | bigEndian
  deriving DecidableEq

structure DbcSignal where
  name : Text
  startBit : Nat
  length : Nat
  byteOrder : DbcByteOrder
  isSigned : Bool
  isFloat : Bool
  factor : Rat
  offset : Rat
  unit : Option Text
  choices : List (Int × Text)
  isMultiplexer : Bool
  multiplexerSignal : Option Text
  multiplexerIds : Option (List Nat)
  named : name.blank = false
  wide : 1 ≤ length
  choices_unique : (choices.map Prod.fst).Nodup
  multiplexer_named : ∀ parent ∈ multiplexerSignal, parent.blank = false
  ids_nonempty : ∀ ids ∈ multiplexerIds, ids ≠ [] ∧ ids.Nodup
  switch_alone : isMultiplexer = true → multiplexerSignal = none ∧ multiplexerIds = none
  together : isMultiplexer = false → multiplexerSignal.isSome = multiplexerIds.isSome

def maxStandardFrameId : Nat := 0x7FF

def maxExtendedFrameId : Nat := 0x1FFFFFFF

structure DbcMessage where
  frameId : Nat
  name : Text
  length : Nat
  isExtended : Bool
  isFd : Bool
  signals : List DbcSignal
  named : name.blank = false
  id_range : frameId ≤ if isExtended then maxExtendedFrameId else maxStandardFrameId
  length_range : length ≤ if isFd then 64 else 8
  signals_unique : (signals.map DbcSignal.name).Nodup

structure DbcDatabase where
  messages : List DbcMessage
  names_unique : (messages.map DbcMessage.name).Nodup
  identifiers_unique : (messages.map fun message => (message.frameId, message.isExtended)).Nodup

end CanX.Dbc
