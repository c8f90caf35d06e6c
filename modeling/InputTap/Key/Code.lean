/-!
# Key codes

A `KeyCode` names a key by its place on the keyboard, whatever it types. `usage` is its number on
the keyboard page of the USB usage tables, `name` its spelling in settings files and reports, and
`all` lists every defined key in the order of the usage numbers; `undefined` stands for a key that
has no place. A name is read by `ofName?`, letters compared without regard to their case; `parse`
says which name was refused.
-/

set_option autoImplicit false

namespace InputTap

/-- A key by its place on the keyboard. -/
inductive KeyCode
  | undefined
  | keyA | keyB | keyC | keyD | keyE | keyF | keyG | keyH | keyI | keyJ | keyK | keyL | keyM
  | keyN | keyO | keyP | keyQ | keyR | keyS | keyT | keyU | keyV | keyW | keyX | keyY | keyZ
  | digit1 | digit2 | digit3 | digit4 | digit5 | digit6 | digit7 | digit8 | digit9 | digit0
  | enter | escape | backspace | tab | space | minus | equal | bracketLeft | bracketRight
  | backslash | semicolon | quote | backquote | comma | period | slash | capsLock | f1 | f2 | f3
  | f4 | f5 | f6 | f7 | f8 | f9 | f10 | f11 | f12 | printScreen | scrollLock | pause | insert
  | home | pageUp | delete | endKey | pageDown | arrowRight | arrowLeft | arrowDown | arrowUp
  | numLock | numpadDivide | numpadMultiply | numpadSubtract | numpadAdd | numpadEnter | numpad1
  | numpad2 | numpad3 | numpad4 | numpad5 | numpad6 | numpad7 | numpad8 | numpad9 | numpad0
  | numpadDecimal | intlBackslash | contextMenu | f13 | f14 | f15 | f16 | f17 | f18 | f19 | f20
  | f21 | f22 | f23 | f24 | controlLeft | shiftLeft | altLeft | metaLeft | controlRight
  | shiftRight | altRight | metaRight
deriving DecidableEq, Inhabited

namespace KeyCode

/-- The keyboard-page usage number of a key, `0` for the undefined one. -/
def usage : KeyCode → UInt16
  | .undefined => 0x00
  | .keyA => 0x04
  | .keyB => 0x05
  | .keyC => 0x06
  | .keyD => 0x07
  | .keyE => 0x08
  | .keyF => 0x09
  | .keyG => 0x0A
  | .keyH => 0x0B
  | .keyI => 0x0C
  | .keyJ => 0x0D
  | .keyK => 0x0E
  | .keyL => 0x0F
  | .keyM => 0x10
  | .keyN => 0x11
  | .keyO => 0x12
  | .keyP => 0x13
  | .keyQ => 0x14
  | .keyR => 0x15
  | .keyS => 0x16
  | .keyT => 0x17
  | .keyU => 0x18
  | .keyV => 0x19
  | .keyW => 0x1A
  | .keyX => 0x1B
  | .keyY => 0x1C
  | .keyZ => 0x1D
  | .digit1 => 0x1E
  | .digit2 => 0x1F
  | .digit3 => 0x20
  | .digit4 => 0x21
  | .digit5 => 0x22
  | .digit6 => 0x23
  | .digit7 => 0x24
  | .digit8 => 0x25
  | .digit9 => 0x26
  | .digit0 => 0x27
  | .enter => 0x28
  | .escape => 0x29
  | .backspace => 0x2A
  | .tab => 0x2B
  | .space => 0x2C
  | .minus => 0x2D
  | .equal => 0x2E
  | .bracketLeft => 0x2F
  | .bracketRight => 0x30
  | .backslash => 0x31
  | .semicolon => 0x33
  | .quote => 0x34
  | .backquote => 0x35
  | .comma => 0x36
  | .period => 0x37
  | .slash => 0x38
  | .capsLock => 0x39
  | .f1 => 0x3A
  | .f2 => 0x3B
  | .f3 => 0x3C
  | .f4 => 0x3D
  | .f5 => 0x3E
  | .f6 => 0x3F
  | .f7 => 0x40
  | .f8 => 0x41
  | .f9 => 0x42
  | .f10 => 0x43
  | .f11 => 0x44
  | .f12 => 0x45
  | .printScreen => 0x46
  | .scrollLock => 0x47
  | .pause => 0x48
  | .insert => 0x49
  | .home => 0x4A
  | .pageUp => 0x4B
  | .delete => 0x4C
  | .endKey => 0x4D
  | .pageDown => 0x4E
  | .arrowRight => 0x4F
  | .arrowLeft => 0x50
  | .arrowDown => 0x51
  | .arrowUp => 0x52
  | .numLock => 0x53
  | .numpadDivide => 0x54
  | .numpadMultiply => 0x55
  | .numpadSubtract => 0x56
  | .numpadAdd => 0x57
  | .numpadEnter => 0x58
  | .numpad1 => 0x59
  | .numpad2 => 0x5A
  | .numpad3 => 0x5B
  | .numpad4 => 0x5C
  | .numpad5 => 0x5D
  | .numpad6 => 0x5E
  | .numpad7 => 0x5F
  | .numpad8 => 0x60
  | .numpad9 => 0x61
  | .numpad0 => 0x62
  | .numpadDecimal => 0x63
  | .intlBackslash => 0x64
  | .contextMenu => 0x65
  | .f13 => 0x68
  | .f14 => 0x69
  | .f15 => 0x6A
  | .f16 => 0x6B
  | .f17 => 0x6C
  | .f18 => 0x6D
  | .f19 => 0x6E
  | .f20 => 0x6F
  | .f21 => 0x70
  | .f22 => 0x71
  | .f23 => 0x72
  | .f24 => 0x73
  | .controlLeft => 0xE0
  | .shiftLeft => 0xE1
  | .altLeft => 0xE2
  | .metaLeft => 0xE3
  | .controlRight => 0xE4
  | .shiftRight => 0xE5
  | .altRight => 0xE6
  | .metaRight => 0xE7

/-- The spelling of a key's name. -/
def name : KeyCode → String
  | .undefined => "Undefined"
  | .keyA => "KeyA"
  | .keyB => "KeyB"
  | .keyC => "KeyC"
  | .keyD => "KeyD"
  | .keyE => "KeyE"
  | .keyF => "KeyF"
  | .keyG => "KeyG"
  | .keyH => "KeyH"
  | .keyI => "KeyI"
  | .keyJ => "KeyJ"
  | .keyK => "KeyK"
  | .keyL => "KeyL"
  | .keyM => "KeyM"
  | .keyN => "KeyN"
  | .keyO => "KeyO"
  | .keyP => "KeyP"
  | .keyQ => "KeyQ"
  | .keyR => "KeyR"
  | .keyS => "KeyS"
  | .keyT => "KeyT"
  | .keyU => "KeyU"
  | .keyV => "KeyV"
  | .keyW => "KeyW"
  | .keyX => "KeyX"
  | .keyY => "KeyY"
  | .keyZ => "KeyZ"
  | .digit1 => "Digit1"
  | .digit2 => "Digit2"
  | .digit3 => "Digit3"
  | .digit4 => "Digit4"
  | .digit5 => "Digit5"
  | .digit6 => "Digit6"
  | .digit7 => "Digit7"
  | .digit8 => "Digit8"
  | .digit9 => "Digit9"
  | .digit0 => "Digit0"
  | .enter => "Enter"
  | .escape => "Escape"
  | .backspace => "Backspace"
  | .tab => "Tab"
  | .space => "Space"
  | .minus => "Minus"
  | .equal => "Equal"
  | .bracketLeft => "BracketLeft"
  | .bracketRight => "BracketRight"
  | .backslash => "Backslash"
  | .semicolon => "Semicolon"
  | .quote => "Quote"
  | .backquote => "Backquote"
  | .comma => "Comma"
  | .period => "Period"
  | .slash => "Slash"
  | .capsLock => "CapsLock"
  | .f1 => "F1"
  | .f2 => "F2"
  | .f3 => "F3"
  | .f4 => "F4"
  | .f5 => "F5"
  | .f6 => "F6"
  | .f7 => "F7"
  | .f8 => "F8"
  | .f9 => "F9"
  | .f10 => "F10"
  | .f11 => "F11"
  | .f12 => "F12"
  | .printScreen => "PrintScreen"
  | .scrollLock => "ScrollLock"
  | .pause => "Pause"
  | .insert => "Insert"
  | .home => "Home"
  | .pageUp => "PageUp"
  | .delete => "Delete"
  | .endKey => "End"
  | .pageDown => "PageDown"
  | .arrowRight => "ArrowRight"
  | .arrowLeft => "ArrowLeft"
  | .arrowDown => "ArrowDown"
  | .arrowUp => "ArrowUp"
  | .numLock => "NumLock"
  | .numpadDivide => "NumpadDivide"
  | .numpadMultiply => "NumpadMultiply"
  | .numpadSubtract => "NumpadSubtract"
  | .numpadAdd => "NumpadAdd"
  | .numpadEnter => "NumpadEnter"
  | .numpad1 => "Numpad1"
  | .numpad2 => "Numpad2"
  | .numpad3 => "Numpad3"
  | .numpad4 => "Numpad4"
  | .numpad5 => "Numpad5"
  | .numpad6 => "Numpad6"
  | .numpad7 => "Numpad7"
  | .numpad8 => "Numpad8"
  | .numpad9 => "Numpad9"
  | .numpad0 => "Numpad0"
  | .numpadDecimal => "NumpadDecimal"
  | .intlBackslash => "IntlBackslash"
  | .contextMenu => "ContextMenu"
  | .f13 => "F13"
  | .f14 => "F14"
  | .f15 => "F15"
  | .f16 => "F16"
  | .f17 => "F17"
  | .f18 => "F18"
  | .f19 => "F19"
  | .f20 => "F20"
  | .f21 => "F21"
  | .f22 => "F22"
  | .f23 => "F23"
  | .f24 => "F24"
  | .controlLeft => "ControlLeft"
  | .shiftLeft => "ShiftLeft"
  | .altLeft => "AltLeft"
  | .metaLeft => "MetaLeft"
  | .controlRight => "ControlRight"
  | .shiftRight => "ShiftRight"
  | .altRight => "AltRight"
  | .metaRight => "MetaRight"

/-- Every defined key, by rising usage number. -/
def all : List KeyCode :=
  [.keyA, .keyB, .keyC, .keyD, .keyE, .keyF, .keyG, .keyH, .keyI, .keyJ, .keyK, .keyL, .keyM,
   .keyN, .keyO, .keyP, .keyQ, .keyR, .keyS, .keyT, .keyU, .keyV, .keyW, .keyX, .keyY, .keyZ,
   .digit1, .digit2, .digit3, .digit4, .digit5, .digit6, .digit7, .digit8, .digit9, .digit0,
   .enter, .escape, .backspace, .tab, .space, .minus, .equal, .bracketLeft, .bracketRight,
   .backslash, .semicolon, .quote, .backquote, .comma, .period, .slash, .capsLock, .f1, .f2,
   .f3, .f4, .f5, .f6, .f7, .f8, .f9, .f10, .f11, .f12, .printScreen, .scrollLock, .pause,
   .insert, .home, .pageUp, .delete, .endKey, .pageDown, .arrowRight, .arrowLeft, .arrowDown,
   .arrowUp, .numLock, .numpadDivide, .numpadMultiply, .numpadSubtract, .numpadAdd,
   .numpadEnter, .numpad1, .numpad2, .numpad3, .numpad4, .numpad5, .numpad6, .numpad7, .numpad8,
   .numpad9, .numpad0, .numpadDecimal, .intlBackslash, .contextMenu, .f13, .f14, .f15, .f16,
   .f17, .f18, .f19, .f20, .f21, .f22, .f23, .f24, .controlLeft, .shiftLeft, .altLeft,
   .metaLeft, .controlRight, .shiftRight, .altRight, .metaRight]

theorem mem_all_iff (k : KeyCode) : k ∈ all ↔ k ≠ .undefined := by
  cases k <;> decide

/-- The key with a usage number, the undefined one when no key has it. -/
def ofUsage (u : UInt16) : KeyCode :=
  (all.find? fun k => k.usage == u).getD .undefined

/-- The key is a shift, control, alt or meta key of one side. -/
def isModifier (k : KeyCode) : Bool := 0xE0 ≤ k.usage && k.usage ≤ 0xE7

/-- The letters of `s` in lower case, for a comparison of ASCII names without regard to case. -/
def folded (s : String) : List Char := s.toList.map Char.toLower

/-- The defined key of the given name, in any mixture of upper and lower case. -/
def ofName? (s : String) : Option KeyCode :=
  all.find? fun k => folded k.name == folded s

/-- The message for a name that `ofName?` refuses. -/
def unknownNameMessage (s : String) : String := "unknown key name: " ++ s

/-- A name that no defined key has. -/
structure UnknownName where
  name : String
deriving DecidableEq, Inhabited

def UnknownName.message (e : UnknownName) : String := unknownNameMessage e.name

/-- Reads the name of a defined key. -/
def parse (s : String) : Except UnknownName KeyCode :=
  match ofName? s with
  | some k => .ok k
  | none => .error ⟨s⟩

instance : ToString KeyCode := ⟨name⟩

end KeyCode

end InputTap
