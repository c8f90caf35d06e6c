import InputTap.Key.Code

/-!
# Virtual keys

A virtual key is the number that the desktop gives a key. Most virtual keys stand for one place on
the keyboard, listed in `placedKeys`; `ofVirtual` and `toVirtual?` go from the number to the place
and back. Some numbers name a place only together with the extended flag of the input: `enter` is
the key of the main block or of the number pad, and `control` and `alt` are the left or the right
key.
-/

set_option autoImplicit false

namespace InputTap

/-- The desktop's number of a key. -/
abbrev VirtualKey := UInt16

namespace VirtualKey

def leftButton : VirtualKey := 0x01
def rightButton : VirtualKey := 0x02
def middleButton : VirtualKey := 0x04
def fourthButton : VirtualKey := 0x05
def fifthButton : VirtualKey := 0x06
def back : VirtualKey := 0x08
def tab : VirtualKey := 0x09
def enter : VirtualKey := 0x0D
def shift : VirtualKey := 0x10
def control : VirtualKey := 0x11
def alt : VirtualKey := 0x12
def capsLock : VirtualKey := 0x14
def escape : VirtualKey := 0x1B
def space : VirtualKey := 0x20
def leftMeta : VirtualKey := 0x5B
def rightMeta : VirtualKey := 0x5C
def numLock : VirtualKey := 0x90
def scrollLock : VirtualKey := 0x91
def leftShift : VirtualKey := 0xA0
def rightShift : VirtualKey := 0xA1
def leftControl : VirtualKey := 0xA2
def rightControl : VirtualKey := 0xA3
def leftAlt : VirtualKey := 0xA4
def rightAlt : VirtualKey := 0xA5

end VirtualKey

namespace KeyCode

/-- The virtual keys that stand for one place, by rising number. -/
def placedKeys : List (VirtualKey × KeyCode) :=
  [(0x08, .backspace), (0x09, .tab), (0x0D, .enter), (0x13, .pause), (0x14, .capsLock),
   (0x1B, .escape), (0x20, .space), (0x21, .pageUp), (0x22, .pageDown), (0x23, .endKey),
   (0x24, .home), (0x25, .arrowLeft), (0x26, .arrowUp), (0x27, .arrowRight), (0x28, .arrowDown),
   (0x2C, .printScreen), (0x2D, .insert), (0x2E, .delete), (0x30, .digit0), (0x31, .digit1),
   (0x32, .digit2), (0x33, .digit3), (0x34, .digit4), (0x35, .digit5), (0x36, .digit6),
   (0x37, .digit7), (0x38, .digit8), (0x39, .digit9), (0x41, .keyA), (0x42, .keyB),
   (0x43, .keyC), (0x44, .keyD), (0x45, .keyE), (0x46, .keyF), (0x47, .keyG), (0x48, .keyH),
   (0x49, .keyI), (0x4A, .keyJ), (0x4B, .keyK), (0x4C, .keyL), (0x4D, .keyM), (0x4E, .keyN),
   (0x4F, .keyO), (0x50, .keyP), (0x51, .keyQ), (0x52, .keyR), (0x53, .keyS), (0x54, .keyT),
   (0x55, .keyU), (0x56, .keyV), (0x57, .keyW), (0x58, .keyX), (0x59, .keyY), (0x5A, .keyZ),
   (0x5B, .metaLeft), (0x5C, .metaRight), (0x5D, .contextMenu), (0x60, .numpad0),
   (0x61, .numpad1), (0x62, .numpad2), (0x63, .numpad3), (0x64, .numpad4), (0x65, .numpad5),
   (0x66, .numpad6), (0x67, .numpad7), (0x68, .numpad8), (0x69, .numpad9),
   (0x6A, .numpadMultiply), (0x6B, .numpadAdd), (0x6D, .numpadSubtract), (0x6E, .numpadDecimal),
   (0x6F, .numpadDivide), (0x70, .f1), (0x71, .f2), (0x72, .f3), (0x73, .f4), (0x74, .f5),
   (0x75, .f6), (0x76, .f7), (0x77, .f8), (0x78, .f9), (0x79, .f10), (0x7A, .f11), (0x7B, .f12),
   (0x7C, .f13), (0x7D, .f14), (0x7E, .f15), (0x7F, .f16), (0x80, .f17), (0x81, .f18),
   (0x82, .f19), (0x83, .f20), (0x84, .f21), (0x85, .f22), (0x86, .f23), (0x87, .f24),
   (0x90, .numLock), (0x91, .scrollLock), (0xA0, .shiftLeft), (0xA1, .shiftRight),
   (0xA2, .controlLeft), (0xA3, .controlRight), (0xA4, .altLeft), (0xA5, .altRight),
   (0xBA, .semicolon), (0xBB, .equal), (0xBC, .comma), (0xBD, .minus), (0xBE, .period),
   (0xBF, .slash), (0xC0, .backquote), (0xDB, .bracketLeft), (0xDC, .backslash),
   (0xDD, .bracketRight), (0xDE, .quote), (0xE2, .intlBackslash)]

/-- The place of a virtual key that `placedKeys` lists. -/
def placed (vk : VirtualKey) : KeyCode :=
  (placedKeys.lookup vk).getD .undefined

/-- The place of a virtual key, given the extended flag of the input that names it. -/
def ofVirtual (vk : VirtualKey) (extended : Bool) : KeyCode :=
  if vk = VirtualKey.enter ∧ extended then .numpadEnter
  else if vk = VirtualKey.shift then .shiftLeft
  else if vk = VirtualKey.control then if extended then .controlRight else .controlLeft
  else if vk = VirtualKey.alt then if extended then .altRight else .altLeft
  else placed vk

/-- The virtual key of a place; both enter keys have the same one. -/
def toVirtual? : KeyCode → Option VirtualKey
  | .undefined => none
  | .numpadEnter => some VirtualKey.enter
  | k => (placedKeys.find? fun p => p.2 == k).map Prod.fst

end KeyCode

end InputTap
