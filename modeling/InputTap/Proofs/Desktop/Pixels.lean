import InputTap.Proofs.Desktop.Axis

/-!
# Pixels of a normalized axis

An axis with at most as many pixels as steps gives each pixel a step of its own: scaling the step
back and rounding once more leads to the pixel (`round_normalizeAxis`). The error of the first
rounding, half a step at most, comes back as less than half a pixel, or as nothing at all where a
pixel is as wide as a step.
-/

set_option autoImplicit false

namespace InputTap.Desktop

/-- The distance of a coordinate from the negative end of its axis. -/
def position (value origin : Int) : Int := value + origin.natAbs

/-- The coordinate is that of a pixel of the axis; pixels are counted from one. -/
def OnAxis (value origin : Int) (size : Nat) : Prop :=
  1 ≤ position value origin ∧ position value origin ≤ size

section Axis

variable {value other origin : Int} {size : Nat}

/-- The step of a pixel lies on the axis without being clamped to it. -/
theorem normalizeAxis_of_onAxis (pixel : OnAxis value origin size) (small : size ≤ 65536) :
    normalizeAxis value origin size =
      round (((position value origin * 65536 : Int) : ℚ) / ((size : Int) : ℚ)) := by
  obtain ⟨first, last⟩ := pixel
  have positive : (0 : Int) < size := by omega
  have distance : shifted value origin = position value origin := max_eq_right first
  have extent : max 1 (size : Int) = size := by omega
  have lower : 1 ≤ (position value origin * 65536 + size / 2) / (size : Int) := by
    rw [Int.le_ediv_iff_mul_le positive]
    omega
  have upper : (position value origin * 65536 + size / 2) / (size : Int) < 65537 := by
    rw [Int.ediv_lt_iff_lt_mul positive]
    omega
  unfold normalizeAxis
  rw [distance, extent, round_div positive]
  exact Saturate.clamp_of_mem lower (Int.le_of_lt_add_one upper)

/-- The step of a pixel, scaled back and rounded, is the pixel. -/
theorem round_normalizeAxis (pixel : OnAxis value origin size) (small : size ≤ 65536) :
    round (((normalizeAxis value origin size * size : Int) : ℚ) / ((65536 : Int) : ℚ)) =
      position value origin := by
  have step := (normalizeAxis_of_onAxis pixel small).symm
  obtain ⟨first, last⟩ := pixel
  have positive : (0 : Int) < size := by omega
  rw [round_div_eq_iff positive] at step
  rw [round_div_eq_iff (by decide)]
  -- On the widest axis a half of the size is a half of the steps, and parity decides.
  rcases small.eq_or_lt with rfl | less
  · push_cast at step ⊢
    omega
  · omega

/-- Two pixels have one step only if they are one pixel. -/
theorem normalizeAxis_eq_iff (pixel : OnAxis value origin size)
    (another : OnAxis other origin size) (small : size ≤ 65536) :
    normalizeAxis value origin size = normalizeAxis other origin size ↔
      position value origin = position other origin := by
  constructor
  · intro same
    rw [← round_normalizeAxis pixel small, same, round_normalizeAxis another small]
  · intro same
    obtain rfl : value = other := add_right_cancel same
    rfl

/-- The steps of two pixels are in the order of the pixels. -/
theorem normalizeAxis_lt_iff (pixel : OnAxis value origin size)
    (another : OnAxis other origin size) (small : size ≤ 65536) :
    normalizeAxis value origin size < normalizeAxis other origin size ↔
      position value origin < position other origin := by
  constructor
  · intro less
    by_contra beyond
    have back : other ≤ value := Int.le_of_add_le_add_right (Int.not_lt.1 beyond)
    exact absurd (normalizeAxis_mono origin back size) less.not_ge
  · intro less
    have onward : value ≤ other := Int.le_of_lt (Int.lt_of_add_lt_add_right less)
    refine lt_of_le_of_ne (normalizeAxis_mono origin onward size) fun same => ?_
    exact less.ne ((normalizeAxis_eq_iff pixel another small).1 same)

/-- The coordinate just before the first pixel has the step of that one, and of no other. -/
theorem normalizeAxis_before_eq_iff {before : Int} (start : position before origin = 0)
    (pixel : OnAxis value origin size) (small : size ≤ 65536) :
    normalizeAxis before origin size = normalizeAxis value origin size ↔
      position value origin = 1 := by
  have next : position (before + 1) origin = 1 := by
    unfold position at start ⊢
    omega
  have same : normalizeAxis before origin size = normalizeAxis (before + 1) origin size := by
    unfold position at start next
    unfold normalizeAxis shifted
    rw [start, next]
    rfl
  have first : OnAxis (before + 1) origin size := by
    obtain ⟨one_le, le⟩ := pixel
    unfold OnAxis
    omega
  rw [same, normalizeAxis_eq_iff first pixel small, next]
  exact eq_comm

/-- A step is its own step on the axis of the steps. -/
theorem normalizeAxis_step {step : Int} (first : 1 ≤ step) (last : step ≤ 65536) :
    normalizeAxis step 0 65536 = step := by
  have distance : shifted step 0 = step := by
    unfold shifted
    omega
  have quotient : (step * 65536 + 65536 / 2) / 65536 = step := by omega
  show Saturate.clamp 1 65536 ((shifted step 0 * 65536 + 65536 / 2) / 65536) = step
  rw [distance, quotient]
  exact Saturate.clamp_of_mem first last

end Axis

/-- What the step of a pixel tells of the pixel: scaled back and rounded it is the pixel, the steps
of two pixels are in the order of the pixels and equal only for one pixel, and the coordinate just
before the first pixel shares the step of that one alone. -/
structure TellsPixel (value origin : Int32) (size : UInt32) : Prop where
  back : round ((normalizeAxis value.toInt origin.toInt size.toNat : ℚ) * size.toNat / 65536) =
    position value.toInt origin.toInt
  increasing : ∀ other : Int32, OnAxis other.toInt origin.toInt size.toNat →
    (normalizeAxis value.toInt origin.toInt size.toNat <
        normalizeAxis other.toInt origin.toInt size.toNat ↔
      position value.toInt origin.toInt < position other.toInt origin.toInt)
  injective : ∀ other : Int32, OnAxis other.toInt origin.toInt size.toNat →
    (normalizeAxis value.toInt origin.toInt size.toNat =
      normalizeAxis other.toInt origin.toInt size.toNat ↔ value = other)
  before : ∀ zero : Int32, position zero.toInt origin.toInt = 0 →
    (normalizeAxis zero.toInt origin.toInt size.toNat =
      normalizeAxis value.toInt origin.toInt size.toNat ↔ position value.toInt origin.toInt = 1)

theorem tellsPixel {value origin : Int32} {size : UInt32}
    (pixel : OnAxis value.toInt origin.toInt size.toNat) (small : size.toNat ≤ 65536) :
    TellsPixel value origin size where
  back := by
    have scaled : (normalizeAxis value.toInt origin.toInt size.toNat : ℚ) * size.toNat / 65536 =
        ((normalizeAxis value.toInt origin.toInt size.toNat * size.toNat : Int) : ℚ) /
          ((65536 : Int) : ℚ) := by
      push_cast
      rfl
    rw [scaled, round_normalizeAxis pixel small]
  increasing _ another := normalizeAxis_lt_iff pixel another small
  injective other another := by
    rw [normalizeAxis_eq_iff pixel another small, ← Int32.toInt_inj]
    exact add_left_inj _
  before _ start := normalizeAxis_before_eq_iff start pixel small

/-- The desktop whose pixels are the steps. -/
def grid : Desktop where
  width := 65536
  height := 65536

/-- **No pixel is lost.** On every axis of at most 65536 pixels, wherever its origin lies, the step
of a pixel tells which pixel it is; and whatever the desktop, a normalized point stays where it is
when it is normalized once more on the desktop of the steps. -/
theorem pixels_kept :
    (∀ (size : UInt32) (origin value : Int32), size.toNat ≤ 65536 →
        OnAxis value.toInt origin.toInt size.toNat → TellsPixel value origin size) ∧
      ∀ (d : Desktop) (p : Point),
        let at_ := d.normalize p.x.toInt p.y.toInt
        grid.normalize at_.1 at_.2 = at_ := by
  refine ⟨fun size origin value small pixel => tellsPixel pixel small, fun d p => ?_⟩
  refine Prod.ext ?_ ?_
  · exact normalizeAxis_step (one_le_normalizeAxis _ _ _) (normalizeAxis_le _ _ _)
  · exact normalizeAxis_step (one_le_normalizeAxis _ _ _) (normalizeAxis_le _ _ _)

/-- A pixel of an axis with one pixel less than it has steps, from the most negative origin on. -/
theorem pixels_kept_from_least_origin :
    let value : Int32 := -2147443648
    let origin : Int32 := -2147483648
    let size : UInt32 := 65535
    size.toNat ≤ 65536 ∧ OnAxis value.toInt origin.toInt size.toNat ∧
      position value.toInt origin.toInt = 40000 ∧
      normalizeAxis value.toInt origin.toInt size.toNat = 40001 ∧
      TellsPixel value origin size := by
  intro value origin size
  have pixel : OnAxis value.toInt origin.toInt size.toNat := by
    unfold OnAxis
    decide
  exact ⟨by decide, pixel, by decide, by decide,
    pixels_kept.1 size origin value (by decide) pixel⟩

end InputTap.Desktop
