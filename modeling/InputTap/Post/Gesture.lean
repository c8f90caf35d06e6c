import InputTap.Event.Basic
import InputTap.Saturate

/-!
# Gestures

A gesture is a short sequence of events for posting: a key with held modifiers, a click, a motion or
a turn of the wheel. The events have time zero, and each carries the mask in force just before it.
-/

set_option autoImplicit false

namespace InputTap.Post.Gesture

/-- The mask bits of a modifier key of one side; other keys have none. -/
def modifierBits : KeyCode → Mask
  | .shiftLeft => Mask.shiftLeft
  | .shiftRight => Mask.shiftRight
  | .controlLeft => Mask.controlLeft
  | .controlRight => Mask.controlRight
  | .altLeft => Mask.altLeft
  | .altRight => Mask.altRight
  | .metaLeft => Mask.metaLeft
  | .metaRight => Mask.metaRight
  | _ => Mask.empty

/-- A key event under a mask. -/
def keyEvent (action : KeyAction) (code : KeyCode) (mask : Mask) : Event :=
  ⟨0, mask, .key action { code, rawCode := 0 }⟩

/-- The chord under a mask, and the mask in force after it. Each modifier encloses the chord of the
remaining ones, so that they are released in the reverse order. -/
def chordUnder (target : KeyCode) : List KeyCode → Mask → List Event × Mask
  | [], mask => ([keyEvent .pressed target mask, keyEvent .released target mask], mask)
  | k :: ks, mask =>
    let inner := chordUnder target ks (mask ||| modifierBits k)
    (keyEvent .pressed k mask :: inner.1 ++ [keyEvent .released k inner.2],
      inner.2 \ modifierBits k)

/-- A tap of a key while modifiers are held. -/
def chord (modifiers : List KeyCode) (target : KeyCode) : List Event :=
  (chordUnder target modifiers .empty).1

/-- A press and a release of a button. -/
def click (b : Button) (x y : Int16) : List Event :=
  let data : MouseData := { button := some b, clicks := 1, x, y }
  [⟨0, .empty, .mouse .pressed data⟩, ⟨0, b.mask?.getD .empty, .mouse .released data⟩]

/-- A motion. -/
def moveTo (x y : Int16) : Event :=
  ⟨0, .empty, .mouse .moved { button := none, clicks := 0, x, y }⟩

/-- The rotation of one notch. -/
def notch : Int := 120

/-- A turn of the wheel by a number of notches, down or right when positive. -/
def scroll (notches : Int16) (axis : WheelAxis) : Event :=
  ⟨0, .empty, .wheel
    { clicks := 1, x := 0, y := 0, scroll := .lines, amount := 1
      rotation := Saturate.toInt16 (notches.toInt * notch), axis }⟩

end InputTap.Post.Gesture
