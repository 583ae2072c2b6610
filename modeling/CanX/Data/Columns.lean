import CanX.Transport.PyValue

/-! One row of a frame segment, column by column. A column may hold a null, whatever its field declares. -/

namespace CanX.Data

open Dbc Domain

/-- A Python `float`. -/
inductive PyFloat where
  | finite (value : Rat)
  | infinite (negative : Bool)
  | nan
  deriving DecidableEq

/-- The order of a database: not a number comes last. -/
def PyFloat.le : PyFloat → PyFloat → Bool
  | _, nan => true
  | nan, _ => false
  | infinite true, _ => true
  | _, infinite false => true
  | finite first, finite second => first ≤ second
  | _, _ => false

structure FrameRow where
  sequence : Option Nat
  channelId : Option Text
  arbitrationId : Option Nat
  isExtended : Option Bool
  isFd : Option Bool
  bitrateSwitch : Option Bool
  errorStateIndicator : Option Bool
  dlc : Option Nat
  data : Option Bytes
  direction : Option Text
  hardwareTimestamp : Option PyFloat
  hostTimestamp : Option PyFloat
  normalizedTimestamp : Option PyFloat
  clockDomain : Option Text
  timestampQuality : Option Text
  flags : Option Nat
  deriving DecidableEq

end CanX.Data
