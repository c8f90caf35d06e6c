import InputTap.Pointer.Desktop
import InputTap.System
import InputTap.Text.Numeral

/-!
# System reports

The lines that tell the desktop's input settings and its size, one `name=value` each.
-/

set_option autoImplicit false

namespace InputTap.Command.SystemReport

open Text.Numeral (decimal integer)

/-- A setting that some desktops do not report. -/
def optional (v : Option Int) : String := v.elim "unavailable" integer

/-- The names and values of a report. -/
def fields (s : SystemState) (d : Desktop) : List (String × String) :=
  [("multi_click_time_ms", decimal s.multiClickTime),
   ("wheel_scroll_lines", decimal s.wheelScrollLines.toNat),
   ("auto_repeat_rate", optional s.autoRepeatRate),
   ("auto_repeat_delay", optional s.autoRepeatDelay),
   ("pointer_acceleration_multiplier", optional s.pointerAccelerationMultiplier),
   ("pointer_acceleration_threshold", optional s.pointerAccelerationThreshold),
   ("pointer_sensitivity", optional s.pointerSensitivity),
   ("virtual_screen", decimal d.width.toNat ++ "x" ++ decimal d.height.toNat),
   ("negative_origin", integer d.left.toInt ++ "," ++ integer d.top.toInt)]

/-- The lines of a report. -/
def lines (s : SystemState) (d : Desktop) : List String :=
  (fields s d).map fun f => f.1 ++ "=" ++ f.2

end InputTap.Command.SystemReport
