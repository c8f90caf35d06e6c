/-!
# Saturation to machine integers

A value outside the range of a machine integer becomes the nearest end of the range. `toInt_toInt16`
says that this is all that happens to it.
-/

set_option autoImplicit false

namespace InputTap.Saturate

/-- The value of `[lo, hi]` nearest to `v`. -/
def clamp (lo hi v : Int) : Int := max lo (min hi v)

theorem le_clamp {lo hi v : Int} : lo ≤ clamp lo hi v := by
  simp only [clamp]; omega

theorem clamp_le {lo hi v : Int} (h : lo ≤ hi) : clamp lo hi v ≤ hi := by
  simp only [clamp]; omega

theorem clamp_of_mem {lo hi v : Int} (hlo : lo ≤ v) (hhi : v ≤ hi) : clamp lo hi v = v := by
  simp only [clamp]; omega

theorem clamp_mono {lo hi v w : Int} (h : v ≤ w) : clamp lo hi v ≤ clamp lo hi w := by
  simp only [clamp]; omega

/-- The signed 16-bit integer nearest to `v`. -/
def toInt16 (v : Int) : Int16 := Int16.ofInt (clamp (-32768) 32767 v)

theorem toInt_toInt16 (v : Int) : (toInt16 v).toInt = clamp (-32768) 32767 v := by
  have hlo : -32768 ≤ clamp (-32768) 32767 v := le_clamp
  have hhi : clamp (-32768) 32767 v ≤ 32767 := clamp_le (by omega)
  exact Int16.toInt_ofInt_of_le (by omega) (by omega)

/-- The signed 32-bit value nearest to `v`, as an integer. -/
def int32 (v : Int) : Int := clamp (-2147483648) 2147483647 v

/-- The unsigned 16-bit integer nearest to `n`. -/
def toUInt16 (n : Nat) : UInt16 := UInt16.ofNat (min 65535 n)

theorem toNat_toUInt16 (n : Nat) : (toUInt16 n).toNat = min 65535 n := by
  simp only [toUInt16, UInt16.toNat_ofNat']; omega

/-- The negation of `d`, the least value going to the greatest. -/
def negInt16 (d : Int16) : Int16 := toInt16 (-d.toInt)

/-- Negated twice, a value comes back as itself or as the neighbour of the least one. -/
theorem neg_negInt16 (d : Int16) : -(negInt16 d).toInt = max (-32767) d.toInt := by
  have d_ge := d.le_toInt
  have d_lt := d.toInt_lt
  unfold negInt16
  rw [toInt_toInt16]
  unfold clamp
  omega

end InputTap.Saturate
