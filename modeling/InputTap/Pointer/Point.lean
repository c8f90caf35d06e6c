import InputTap.Saturate
import InputTap.Text.Numeral

/-!
# Points

A `Point` is a place on the desktop in pixels. Events carry the coordinates in sixteen bits, to
which `eventX` and `eventY` saturate.
-/

set_option autoImplicit false

namespace InputTap

/-- A place on the desktop in pixels. -/
structure Point where
  x : Int32
  y : Int32
deriving DecidableEq, Inhabited

namespace Point

/-- The horizontal coordinate as events carry it. -/
def eventX (p : Point) : Int16 := Saturate.toInt16 p.x.toInt

/-- The vertical coordinate as events carry it. -/
def eventY (p : Point) : Int16 := Saturate.toInt16 p.y.toInt

/-- A point as logs show it. -/
def text (p : Point) : String :=
  "Point \x7b x: " ++ Text.Numeral.integer p.x.toInt ++ ", y: " ++
    Text.Numeral.integer p.y.toInt ++ " \x7d"

end Point

end InputTap
