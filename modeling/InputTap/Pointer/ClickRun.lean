import InputTap.Pointer.Button
import InputTap.Pointer.Point
import InputTap.System

/-!
# Click runs

Presses of one button that follow each other quickly form a run; a `ClickRun` counts them. `press`
lengthens the run or starts a new one, `release` and `motion` report the count and end a run that
waited longer than the threshold, and `wheel` counts a notch as a run of its own. A release at the
point of the latest press completes a click; motion on that point is no motion at all.
-/

set_option autoImplicit false

namespace InputTap

/-- The current run of presses. -/
structure ClickRun where
  /-- The button of the run, if a press began it. -/
  button : Option Button := none
  /-- The time of the latest press. -/
  time : Millis := 0
  /-- The presses counted so far. -/
  count : Nat := 0
  /-- The point of the latest press. -/
  point : Option Point := none
deriving DecidableEq, Inhabited

namespace ClickRun

/-- The count at which a run stops growing. -/
def maxCount : Nat := 65535

/-- The latest press was at this point. -/
def isAt (r : ClickRun) (p : Point) : Bool := r.point == some p

/-- The time since the latest press, none when the clock ran backwards. -/
def elapsed (r : ClickRun) (now : Millis) : Millis := now - r.time

/-- A press of `b` at this time lengthens the run. -/
def continues (r : ClickRun) (b : Button) (now threshold : Millis) : Bool :=
  r.button == some b && r.elapsed now ≤ threshold

/-- A press of `b` at this time would lengthen the run beyond the greatest count. -/
def overflows (r : ClickRun) (b : Button) (now threshold : Millis) : Bool :=
  r.continues b now threshold && maxCount ≤ r.count

/-- The run after a press; its count is the one to report. -/
def press (r : ClickRun) (b : Button) (now : Millis) (p : Point) (threshold : Millis) :
    ClickRun where
  button := some b
  time := now
  count := if r.continues b now threshold then min maxCount (r.count + 1) else 1
  point := some p

/-- The run after a release of `b`, whose report is the count before it. -/
def release (r : ClickRun) (b : Button) (now threshold : Millis) : ClickRun :=
  if r.button = some b ∧ threshold < r.elapsed now then { r with count := 0 } else r

/-- The run after pointer motion, nothing for motion on the point of the latest press. -/
def motion? (r : ClickRun) (now : Millis) (p : Point) (threshold : Millis) : Option ClickRun :=
  if r.isAt p then none
  else if threshold < r.elapsed now then some { r with count := 0 }
  else some r

/-- The run after a wheel notch. -/
def wheel (r : ClickRun) : ClickRun :=
  { r with button := none, count := 1 }

end ClickRun

end InputTap
