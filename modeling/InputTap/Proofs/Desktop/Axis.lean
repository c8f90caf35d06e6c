import InputTap.Pointer.Desktop
import InputTap.Proofs.Words
import Mathlib.Data.Rat.Floor
import Mathlib.Tactic.Linarith

/-!
# Normalized axes

A coordinate is scaled and rounded by whole numbers alone: half the size is added before the
division. `normalizeAxis_eq_round` says that this is the exact quotient rounded to the nearest step,
for even and odd sizes, and `stepInWords?_eq` that signed words of 64 bits hold every value on the
way, for all coordinates, origins and sizes.
-/

set_option autoImplicit false

namespace InputTap.Desktop

/-- A quotient rounded to the nearest integer, a half upwards, told by whole numbers. -/
theorem round_div_eq_iff {a b n : Int} (positive : 0 < b) :
    round ((a : ℚ) / b) = n ↔ 2 * (n * b) - b ≤ 2 * a ∧ 2 * a < 2 * (n * b) + b := by
  have divisor : (0 : ℚ) < b := Int.cast_pos.2 positive
  rw [round_eq_iff, Set.mem_Ico, le_div_iff₀ divisor, div_lt_iff₀ divisor]
  constructor
  · rintro ⟨lower, upper⟩
    constructor
    · exact_mod_cast (by linarith : (2 * (n * b) - b : ℚ) ≤ 2 * a)
    · exact_mod_cast (by linarith : (2 * a : ℚ) < 2 * (n * b) + b)
  · rintro ⟨lower, upper⟩
    have lower' : (2 * (n * b) - b : ℚ) ≤ 2 * a := by exact_mod_cast lower
    have upper' : (2 * a : ℚ) < 2 * (n * b) + b := by exact_mod_cast upper
    constructor <;> linarith

/-- Half the divisor may lose its own half: it never decides where the quotient is rounded to. -/
theorem round_div {a b : Int} (positive : 0 < b) : round ((a : ℚ) / b) = (a + b / 2) / b := by
  rw [round_div_eq_iff positive]
  have division := Int.ediv_mul_add_emod (a + b / 2) b
  have rest_nonneg := Int.emod_nonneg (a + b / 2) positive.ne'
  have rest_lt := Int.emod_lt_of_pos (a + b / 2) positive
  constructor <;> omega

section Axis

variable (value origin : Int) {size : Nat}

theorem one_le_normalizeAxis (size : Nat) : 1 ≤ normalizeAxis value origin size :=
  Saturate.le_clamp

theorem normalizeAxis_le (size : Nat) : normalizeAxis value origin size ≤ 65536 :=
  Saturate.clamp_le (by decide)

/-- The step of a coordinate is its exact place on the axis, rounded and kept within the axis. -/
theorem normalizeAxis_eq_round (positive : 0 < size) :
    normalizeAxis value origin size =
      Saturate.clamp 1 65536 (round ((shifted value origin : ℚ) * 65536 / size)) := by
  have exact_place : (shifted value origin : ℚ) * 65536 / size =
      ((shifted value origin * steps : Int) : ℚ) / ((size : Int) : ℚ) := by
    simp [steps]
  have extent : max 1 (size : Int) = size := by omega
  rw [exact_place, round_div (by omega)]
  unfold normalizeAxis
  rw [extent]
  rfl

theorem normalizeAxis_mono {value other : Int} (h : value ≤ other) (size : Nat) :
    normalizeAxis value origin size ≤ normalizeAxis other origin size := by
  have nearer : shifted value origin ≤ shifted other origin := by
    unfold shifted
    omega
  have scaled : shifted value origin * steps ≤ shifted other origin * steps :=
    Int.mul_le_mul_of_nonneg_right nearer (by decide)
  exact Saturate.clamp_mono (Int.ediv_le_ediv (by omega) (by omega))

end Axis

section Words

/-- The step of a coordinate as words compute it, with a signed word of 64 bits for every value on
the way and one of 32 bits for the step: nothing as soon as a word cannot hold its value. Words are
divided towards zero. -/
def stepInWords? (value origin : Int32) (size : UInt32) : Option Int := do
  let position ← inWord? 64 (value.toInt + origin.toInt.natAbs)
  let extent ← inWord? 64 (max 1 (size.toNat : Int))
  let scaled ← inWord? 64 (max 1 position * steps)
  let half ← inWord? 64 (extent.tdiv 2)
  let raised ← inWord? 64 (scaled + half)
  let quotient ← inWord? 64 (raised.tdiv extent)
  inWord? 32 (Saturate.clamp 1 steps quotient)

/-- However far out a coordinate is, its distance from the end of the axis is below `2 ^ 32`. -/
theorem shifted_lt (value origin : Int32) : shifted value.toInt origin.toInt < 4294967296 := by
  have value_lt := value.toInt_lt
  have origin_ge := origin.le_toInt
  have origin_lt := origin.toInt_lt
  unfold shifted
  omega

/-- No value on the way from a coordinate to its step leaves its word. -/
theorem stepInWords?_eq (value origin : Int32) (size : UInt32) :
    stepInWords? value origin size = some (normalizeAxis value.toInt origin.toInt size.toNat) := by
  have value_ge := value.le_toInt
  have value_lt := value.toInt_lt
  have origin_ge := origin.le_toInt
  have origin_lt := origin.toInt_lt
  have size_lt := size.toNat_lt
  have distance_lt := shifted_lt value origin
  have step_ge := one_le_normalizeAxis value.toInt origin.toInt size.toNat
  have step_le := normalizeAxis_le value.toInt origin.toInt size.toNat
  have distance_ge : 1 ≤ shifted value.toInt origin.toInt := Int.le_max_left _ _
  have extent_ge : 1 ≤ max 1 (size.toNat : Int) := Int.le_max_left _ _
  have extent_lt : max 1 (size.toNat : Int) < 4294967296 := by omega
  unfold stepInWords?
  rw [bind_inWord? ⟨by omega, by omega⟩, bind_inWord? ⟨by omega, by omega⟩]
  unfold normalizeAxis shifted at *
  simp only [steps] at *
  generalize max 1 (value.toInt + (origin.toInt.natAbs : Int)) = distance at *
  generalize max 1 (size.toNat : Int) = extent at *
  -- The product is below `2 ^ 48` and half the extent below `2 ^ 31`; dividing makes less of both.
  have raised_nonneg : 0 ≤ distance * 65536 + extent / 2 := by omega
  have quotient_nonneg := Int.ediv_nonneg raised_nonneg (show 0 ≤ extent by omega)
  have quotient_le := Int.ediv_le_self extent raised_nonneg
  rw [bind_inWord? ⟨by omega, by omega⟩, Int.tdiv_eq_ediv_of_nonneg (by omega),
    bind_inWord? ⟨by omega, by omega⟩, bind_inWord? ⟨by omega, by omega⟩,
    Int.tdiv_eq_ediv_of_nonneg raised_nonneg, bind_inWord? ⟨by omega, by omega⟩]
  exact inWord?_of_inWord ⟨by omega, by omega⟩

end Words

/-- The step of a coordinate on an axis is exact: it is the place of the coordinate, rounded to the
nearest step with a half upwards and kept within the axis, and words compute it without loss. -/
structure ExactStep (value origin : Int32) (size : UInt32) (step : Int) : Prop where
  rounded : step = Saturate.clamp 1 65536
    (round (((max 1 (value.toInt + origin.toInt.natAbs) : Int) : ℚ) * 65536 / size.toNat))
  inWords : stepInWords? value origin size = some step
  range : 1 ≤ step ∧ step ≤ 65536

theorem exactStep_normalizeAxis (value origin : Int32) {size : UInt32} (h : size ≠ 0) :
    ExactStep value origin size (normalizeAxis value.toInt origin.toInt size.toNat) where
  rounded := normalizeAxis_eq_round _ _ (Nat.pos_of_ne_zero fun zero => h (UInt32.toNat_inj.1 zero))
  inWords := stepInWords?_eq value origin size
  range := ⟨one_le_normalizeAxis _ _ _, normalizeAxis_le _ _ _⟩

/-- **Coordinates are normalized exactly.** On every desktop that is not empty, with every origin,
each point goes to the exact steps of its two coordinates, and no value on the way leaves its word;
and on the same desktop a greater coordinate never goes to a smaller step. -/
theorem normalize_exact (d : Desktop) (width : d.width ≠ 0) (height : d.height ≠ 0) (p : Point) :
    let at_ (p : Point) : Int × Int := d.normalize p.x.toInt p.y.toInt
    ExactStep p.x d.left d.width (at_ p).1 ∧ ExactStep p.y d.top d.height (at_ p).2 ∧
      ∀ q : Point, (p.x ≤ q.x → (at_ p).1 ≤ (at_ q).1) ∧ (p.y ≤ q.y → (at_ p).2 ≤ (at_ q).2) := by
  intro at_
  refine ⟨exactStep_normalizeAxis p.x d.left width, exactStep_normalizeAxis p.y d.top height,
    fun q => ⟨fun right => ?_, fun below => ?_⟩⟩
  · exact normalizeAxis_mono _ (Int32.le_iff_toInt_le.1 right) _
  · exact normalizeAxis_mono _ (Int32.le_iff_toInt_le.1 below) _

/-- The greatest desktop, with the most negative origin on one axis and the greatest on the
other. -/
def vast : Desktop where
  width := 4294967295
  height := 4294967295
  left := -2147483648
  top := 2147483647

/-- Its opposite corners lie on the first and the last steps. -/
theorem normalize_exact_vast :
    vast.width ≠ 0 ∧ vast.height ≠ 0 ∧
      vast.normalize 2147483647 (-2147483648) = (65536, 1) ∧
      ExactStep 2147483647 vast.left vast.width 65536 ∧
      ExactStep (-2147483648) vast.top vast.height 1 ∧
      (vast.normalize 2147483647 (-2147483648)).2 ≤ (vast.normalize 0 2147483647).2 := by
  have width : vast.width ≠ 0 := by decide
  have height : vast.height ≠ 0 := by decide
  have corner : vast.normalize 2147483647 (-2147483648) = (65536, 1) := by decide
  obtain ⟨x, y, mono⟩ := vast.normalize_exact width height ⟨2147483647, -2147483648⟩
  have right : ExactStep 2147483647 vast.left vast.width
    (vast.normalize 2147483647 (-2147483648)).1 := x
  have above : ExactStep (-2147483648) vast.top vast.height
    (vast.normalize 2147483647 (-2147483648)).2 := y
  rw [corner] at right above
  exact ⟨width, height, corner, right, above, (mono ⟨0, 2147483647⟩).2 (by decide)⟩

end InputTap.Desktop
