import InputTap.Pointer.Point

/-!
# Desktops and normalized coordinates

A `Desktop` spans all monitors, which may lie left of and above its origin. Absolute motion is
injected in normalized coordinates: the point is shifted by the size of the negative part, scaled so
that the whole desktop has 65536 steps, rounded to the nearest step, a half upwards, and kept within
the steps `1` to `65536`.
-/

set_option autoImplicit false

namespace InputTap

/-- The size of the desktop in pixels and its most negative coordinates. -/
structure Desktop where
  width : UInt32
  height : UInt32
  left : Int32 := 0
  top : Int32 := 0
deriving DecidableEq, Inhabited

namespace Desktop

/-- One monitor of 1920 by 1080 pixels. -/
def single : Desktop where
  width := 1920
  height := 1080

/-- Two monitors of 1920 by 1080 pixels, the second left of the origin. -/
def dualLeft : Desktop where
  width := 3840
  height := 1080
  left := -1920

/-- The number of steps on each normalized axis. -/
def steps : Int := 65536

/-- The distance of a coordinate from the negative end of its axis, at least one. -/
def shifted (value origin : Int) : Int := max 1 (value + origin.natAbs)

/-- A coordinate as a step of the normalized axis. -/
def normalizeAxis (value origin : Int) (size : Nat) : Int :=
  let size : Int := max 1 size
  Saturate.clamp 1 steps ((shifted value origin * steps + size / 2) / size)

/-- A pixel in normalized coordinates, first the horizontal one. -/
def normalize (d : Desktop) (x y : Int) : Int × Int :=
  (normalizeAxis x d.left.toInt d.width.toNat, normalizeAxis y d.top.toInt d.height.toNat)

end Desktop

end InputTap
