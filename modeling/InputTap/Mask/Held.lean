import InputTap.Mask.Tracked
import InputTap.System

/-!
# Held keys

`HeldKeys` follows which modifiers, buttons and locks are held and, apart from that, which locks are
switched on: a lock switches at a press that finds it up, so a key that repeats while it is held
switches once. `held` is the mask that events carry; `typingMask` is the mask that characters are
looked up with, in which a lock's bit says whether the lock is on.
-/

set_option autoImplicit false

namespace InputTap

/-- The keys and buttons that are held, and the locks that are on. -/
structure HeldKeys where
  /-- The bits of the keys and buttons that are down. -/
  held : Mask := .empty
  /-- The bits of the locks that are switched on. -/
  toggled : Mask := .empty
deriving DecidableEq, Inhabited

namespace HeldKeys

/-- Marks bits as down without switching a lock. -/
def set (h : HeldKeys) (bits : Mask) : HeldKeys :=
  { h with held := h.held ||| bits }

/-- A press: locks that were up switch, then the bits are down. -/
def press (h : HeldKeys) (bits : Mask) : HeldKeys where
  held := h.held ||| bits
  toggled := h.toggled ^^^ ((bits &&& Mask.locks) \ h.held)

/-- Marks bits as up. -/
def unset (h : HeldKeys) (bits : Mask) : HeldKeys :=
  { h with held := h.held \ bits }

/-- The mask for character look-up: the locks that are on instead of the locks that are held. -/
def typingMask (h : HeldKeys) : Mask :=
  (h.held \ Mask.locks) ||| h.toggled

/-- The state that the live keys show. -/
def ofSystem (system : SystemState) : HeldKeys where
  held := Mask.collect Mask.trackedKeys system.isDown
  toggled := Mask.collect Mask.lockKeys system.isToggled

end HeldKeys

end InputTap
