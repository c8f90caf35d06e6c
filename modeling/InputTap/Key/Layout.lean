import InputTap.Key.Virtual
import InputTap.Mask

/-!
# Keyboard layouts

A `Layout` answers three questions about virtual keys: which place a key has, which virtual key a
place has, and which characters a press types under a mask. `Layout.standard` is the United States
layout on the standard virtual keys. Its letters follow shift and caps lock, its other characters
shift alone, and nothing is typed while a control, alt or meta key is held.
-/

set_option autoImplicit false

namespace InputTap

/-- What a keyboard's keys are called and what they type. -/
structure Layout where
  /-- The place of a virtual key, given the extended flag of the input. -/
  place : VirtualKey → Bool → KeyCode
  /-- The virtual key of a place, if it has one. -/
  virtual? : KeyCode → Option VirtualKey
  /-- The characters that a press of a virtual key types under a mask. -/
  typed : VirtualKey → Mask → List Char

namespace Layout

/-- The keys that type one character whatever the mask. -/
def plainChars : List (VirtualKey × Char) :=
  [(0x08, '\x08'), (0x09, '\t'), (0x0D, '\r'), (0x1B, '\x1b'), (0x20, ' '),
   (0x60, '0'), (0x61, '1'), (0x62, '2'), (0x63, '3'), (0x64, '4'), (0x65, '5'), (0x66, '6'),
   (0x67, '7'), (0x68, '8'), (0x69, '9'), (0x6A, '*'), (0x6B, '+'), (0x6D, '-'), (0x6E, '.'),
   (0x6F, '/')]

/-- The keys that type one character without shift and another with it. -/
def shiftedChars : List (VirtualKey × Char × Char) :=
  [(0x30, '0', ')'), (0x31, '1', '!'), (0x32, '2', '@'), (0x33, '3', '#'), (0x34, '4', '$'),
   (0x35, '5', '%'), (0x36, '6', '^'), (0x37, '7', '&'), (0x38, '8', '*'), (0x39, '9', '('),
   (0xBA, ';', ':'), (0xBB, '=', '+'), (0xBC, ',', '<'), (0xBD, '-', '_'), (0xBE, '.', '>'),
   (0xBF, '/', '?'), (0xC0, '\x60', '~'), (0xDB, '[', '\x7b'), (0xDC, '\\', '|'),
   (0xDD, ']', '\x7d'), (0xDE, '\x27', '\x22'), (0xE2, '\\', '|')]

/-- The virtual key carries a letter. -/
def isLetter (vk : VirtualKey) : Bool := 0x41 ≤ vk && vk ≤ 0x5A

/-- The letter of a letter key, in the wanted case. -/
def letter (vk : VirtualKey) (upper : Bool) : Char :=
  Char.ofNat (vk.toNat + if upper then 0 else 32)

/-- The character of a key without a held control, alt or meta key. -/
def char? (vk : VirtualKey) (mask : Mask) : Option Char :=
  if isLetter vk then
    some (letter vk (mask.meets Mask.shift != mask.meets Mask.capsLock))
  else match plainChars.lookup vk with
    | some c => some c
    | none => (shiftedChars.lookup vk).map fun p =>
        if mask.meets Mask.shift then p.2 else p.1

/-- The United States layout. -/
def standard : Layout where
  place := KeyCode.ofVirtual
  virtual? := KeyCode.toVirtual?
  typed vk mask :=
    if mask.meets (Mask.control ||| Mask.alt ||| Mask.metaKeys) then [] else (char? vk mask).toList

/-- The layout with the characters of some keys replaced, whatever the mask. -/
def retyped (layout : Layout) (typed : List (VirtualKey × List Char)) : Layout where
  place := layout.place
  virtual? := layout.virtual?
  typed vk mask := (typed.lookup vk).getD (layout.typed vk mask)

/-- The layout in which some places have no virtual key. -/
def unmapping (layout : Layout) (keys : List KeyCode) : Layout where
  place := layout.place
  virtual? k := if k ∈ keys then none else layout.virtual? k
  typed := layout.typed

end Layout

end InputTap
