import InputTap.Event.Basic
import InputTap.Pointer.Point

/-!
# Raw input

A `RawInput` is what the desktop reports before it is normalized: keys by their virtual key and the
extended flag, buttons beyond the third by an index, and the pointer in pixels.
-/

set_option autoImplicit false

namespace InputTap.Capture

/-- A pointer button as the desktop reports it. -/
inductive RawButton
  | left
  | right
  | middle
  | indexed (index : UInt16)
deriving DecidableEq, Inhabited

namespace RawButton

/-- The button that events name. The first index is the fourth button, and so is a missing one. -/
def button : RawButton → Button
  | .left => .left
  | .right => .right
  | .middle => .middle
  | .indexed i =>
    if i = 0 ∨ i = 1 then .button4
    else if i = 2 then .button5
    else .extra (Saturate.toUInt16 (i.toNat + 3))

/-- The button came without its index. -/
def isUnindexed (b : RawButton) : Bool := b == .indexed 0

end RawButton

/-- One input of the keyboard or the pointer. -/
inductive RawInput
  | keyDown (vk : VirtualKey) (extended : Bool) (time : Millis)
  | keyUp (vk : VirtualKey) (extended : Bool) (time : Millis)
  | buttonDown (button : RawButton) (point : Point) (time : Millis)
  | buttonUp (button : RawButton) (point : Point) (time : Millis)
  | motion (point : Point) (time : Millis)
  | wheel (axis : WheelAxis) (delta : Int16) (point : Point) (time : Millis)
  | unrecognized (message : UInt32) (time : Millis)
deriving DecidableEq, Inhabited

/-- The time of an input on the hook clock. -/
def RawInput.time : RawInput → Millis
  | .keyDown _ _ t | .keyUp _ _ t | .buttonDown _ _ t | .buttonUp _ _ t | .motion _ t
  | .wheel _ _ _ t | .unrecognized _ t => t

end InputTap.Capture
