import InputTap.Mask

/-!
# Pointer buttons

A `Button` is one of five named buttons or a further one. `number` counts them from one, in the
order of the names; a further button keeps its own number, so that `ofNumber?` gives it back when
the number is above five (`number_of_ofNumber?`).
-/

set_option autoImplicit false

namespace InputTap

/-- A pointer button. -/
inductive Button
  | left
  | right
  | middle
  | button4
  | button5
  | extra (number : UInt16)
deriving DecidableEq, Inhabited

namespace Button

/-- The number of a button, the left one being the first. -/
def number : Button → UInt16
  | .left => 1
  | .right => 2
  | .middle => 3
  | .button4 => 4
  | .button5 => 5
  | .extra n => n

/-- The button of a number; there is none with the number zero. -/
def ofNumber? (n : UInt16) : Option Button :=
  if n = 0 then none
  else if n = 1 then some .left
  else if n = 2 then some .right
  else if n = 3 then some .middle
  else if n = 4 then some .button4
  else if n = 5 then some .button5
  else some (.extra n)

theorem number_of_ofNumber? {n : UInt16} {b : Button} (h : ofNumber? n = some b) :
    b.number = n := by
  simp only [ofNumber?] at h
  split at h <;> first | contradiction | skip
  repeat' split at h
  all_goals
    obtain rfl := Option.some.inj h
    simp_all [number]

/-- The mask bit of a button, which only the five named ones have. -/
def mask? : Button → Option Mask
  | .left => some Mask.button1
  | .right => some Mask.button2
  | .middle => some Mask.button3
  | .button4 => some Mask.button4
  | .button5 => some Mask.button5
  | .extra _ => none

end Button

end InputTap
