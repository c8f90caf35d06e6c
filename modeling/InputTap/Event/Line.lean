import InputTap.Event.Basic
import InputTap.Text.CharLiteral

/-!
# Report lines

The line of an event gives the number of its type, its time and its mask, then the fields of its
payload, each as `name=value` and separated by commas. A typed event without a character shows the
replacement character.
-/

set_option autoImplicit false

namespace InputTap.Event

open Text.Numeral (decimal integer hex)

/-- The fields of a line, in the order in which they are written. -/
abbrev Fields := List (String × String)

/-- What stands for the character of a typed event that has none. -/
def replacementChar : Char := Char.ofNat 0xFFFD

/-- The fields of a raw code: upper-case hexadecimal behind `0x`. -/
def rawCodeField (vk : VirtualKey) : String × String := ("rawcode", "0x" ++ hex .upper vk.toNat)

/-- The fields of a position. -/
def positionFields (x y : Int16) : Fields :=
  [("x", integer x.toInt), ("y", integer y.toInt)]

/-- The fields of a payload. -/
def payloadFields : EventKind → Fields
  | .hookEnabled | .hookDisabled => []
  | .key .typed d =>
    [("keychar", Text.CharLiteral.text (d.char.getD replacementChar)), rawCodeField d.rawCode]
  | .key _ d => [("keycode", d.code.name), rawCodeField d.rawCode]
  | .mouse _ d =>
    positionFields d.x d.y ++
      [("button", decimal (d.button.elim 0 fun b => b.number.toNat)), ("clicks", decimal d.clicks)]
  | .wheel d =>
    [("type", decimal d.scroll.id), ("amount", decimal d.amount.toNat),
     ("rotation", integer d.rotation.toInt), ("direction", decimal d.axis.id)]

/-- The fields that every event has. -/
def headFields (e : Event) : Fields :=
  [("id", decimal e.type.id), ("when", decimal e.time),
   ("mask", "0x" ++ hex .lower e.mask.bits.toNat)]

/-- The report line of an event. -/
def line (e : Event) : String :=
  ",".intercalate ((e.headFields ++ payloadFields e.kind).map fun f => f.1 ++ "=" ++ f.2)

end InputTap.Event
