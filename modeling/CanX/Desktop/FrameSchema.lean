import Mathlib.Data.Rat.Defs

/-! The frames and viewports the desktop passes around. A number of the renderer is a finite
double and is kept as the rational it denotes, a bigint as an integer. -/

namespace CanX.Desktop

abbrev JsNumber := Rat

inductive FrameDirection where
  | rx
  | tx
  deriving DecidableEq

inductive TimestampQuality where
  | hardware
  | host
  | estimated
  deriving DecidableEq

structure RuntimeFrame where
  sequence : Int
  channelId : String
  arbitrationId : JsNumber
  isExtended : Bool
  isFd : Bool
  bitrateSwitch : Bool
  errorStateIndicator : Bool
  dlc : JsNumber
  data : List UInt8
  direction : FrameDirection
  hardwareTimestamp : Option JsNumber
  hostTimestamp : JsNumber
  normalizedTimestamp : JsNumber
  clockDomain : String
  timestampQuality : TimestampQuality
  flags : JsNumber
  deriving DecidableEq

/-- What the frame Worker posts: the frames in view, and how they were arrived at. -/
structure FrameViewportSnapshot where
  frames : List RuntimeFrame
  droppedViewFrames : Nat
  sequenceGaps : Nat
  streamId : Option String
  decodeMs : JsNumber
  deriving DecidableEq

/-- What an observer of the realtime store reads: the stream is that of the viewport. -/
structure RealtimeView where
  streamId : Option String
  snapshot : Option FrameViewportSnapshot
  agrees : streamId = snapshot.bind FrameViewportSnapshot.streamId

end CanX.Desktop
