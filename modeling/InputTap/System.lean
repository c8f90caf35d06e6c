import InputTap.Key.Virtual

/-!
# System settings and live key state

`SystemState` is what the desktop answers when asked about its input settings and about the keys
that are held or switched on at the moment. The settings that some desktops do not report are
optional.
-/

set_option autoImplicit false

namespace InputTap

/-- A time or a length of time, in milliseconds. -/
abbrev Millis := Nat

/-- The desktop's input settings and live key state. -/
structure SystemState where
  /-- The longest pause between two presses of a multiple click. -/
  multiClickTime : Millis
  /-- The lines scrolled by one wheel notch; `pageScroll` asks for a page. -/
  wheelScrollLines : UInt32
  /-- The key or button with this virtual key is held. -/
  isDown : VirtualKey → Bool
  /-- The lock key with this virtual key is switched on. -/
  isToggled : VirtualKey → Bool := fun _ => false
  autoRepeatRate : Option Int := none
  autoRepeatDelay : Option Int := none
  pointerAccelerationMultiplier : Option Int := none
  pointerAccelerationThreshold : Option Int := none
  pointerSensitivity : Option Int := none

namespace SystemState

/-- The wheel setting that means a page for each notch. -/
def pageScroll : UInt32 := 4294967295

/-- The system state in which nothing is held and nothing is switched on. -/
def idle : SystemState where
  multiClickTime := 500
  wheelScrollLines := 3
  isDown := fun _ => false

end SystemState

end InputTap
