import InputTap.Key.Virtual
import InputTap.Mask

/-!
# Tracked keys

Each bit of a mask belongs to one virtual key, listed in `trackedKeys`. The pointer buttons have
virtual keys too, by which their live state is asked for, but they never arrive as key input:
`Mask.ofVirtual?` is the bit of a virtual key that does.
-/

set_option autoImplicit false

namespace InputTap

namespace Mask

/-- The virtual key behind each bit of a mask. -/
def trackedKeys : List (VirtualKey × Mask) :=
  [(.leftShift, shiftLeft), (.rightShift, shiftRight),
   (.leftControl, controlLeft), (.rightControl, controlRight),
   (.leftAlt, altLeft), (.rightAlt, altRight),
   (.leftMeta, metaLeft), (.rightMeta, metaRight),
   (.leftButton, button1), (.rightButton, button2), (.middleButton, button3),
   (.fourthButton, button4), (.fifthButton, button5),
   (.numLock, numLock), (.capsLock, capsLock), (.scrollLock, scrollLock)]

/-- The virtual keys of the pointer buttons. -/
def pointerKeys : List VirtualKey :=
  [.leftButton, .rightButton, .middleButton, .fourthButton, .fifthButton]

/-- The lock keys, which are on or off apart from being held. -/
def lockKeys : List (VirtualKey × Mask) :=
  [(.numLock, numLock), (.capsLock, capsLock), (.scrollLock, scrollLock)]

/-- The bit of a key that arrives as key input, if it has one. -/
def ofVirtual? (vk : VirtualKey) : Option Mask :=
  if vk ∈ pointerKeys then none else trackedKeys.lookup vk

/-- The bits of the listed keys that satisfy a test. -/
def collect (keys : List (VirtualKey × Mask)) (test : VirtualKey → Bool) : Mask :=
  keys.foldl (fun m p => if test p.1 then m ||| p.2 else m) empty

end Mask

end InputTap
