import InputTap.Proofs.Mask.Bits
import InputTap.Proofs.Normalizer.Step

/-!
# How inputs turn the bits of the held mask

`RawInput.turns?` says how an input turns a bit, by the tables of `Mask.keyOf` and
`RawButton.bit?`. A step makes each bit what the input turns it to and leaves the others
(`has_step`); neutral inputs turn none.
-/

set_option autoImplicit false

namespace InputTap.Capture

open Mask (keyOf isTurnedBy)

/-- How an input turns a bit: down, up, or not at all. -/
def RawInput.turns? (i : Fin 16) : RawInput → Option Bool
  | .keyDown vk _ _ => if isTurnedBy i vk then some true else none
  | .keyUp vk _ _ => if isTurnedBy i vk then some false else none
  | .buttonDown b _ _ => if b.bit? = some i then some true else none
  | .buttonUp b _ _ => if b.bit? = some i then some false else none
  | .motion .. | .wheel .. | .unrecognized .. => none

/-- Inputs that turn no bit: keys of pointer buttons, buttons above the fifth, and all input that is
neither of a key nor of a button. -/
def RawInput.isNeutral : RawInput → Prop
  | .keyDown vk _ _ | .keyUp vk _ _ => vk ∈ Mask.pointerKeys
  | .buttonDown b _ _ | .buttonUp b _ _ => ∃ n, 3 ≤ n ∧ b = .indexed n
  | .motion .. | .wheel .. | .unrecognized .. => True

theorem RawButton.bit_of_indexed_ge {n : UInt16} (h : 3 ≤ n) :
    (RawButton.indexed n).bit? = none := by
  have notFourth : ¬ (n = 0 ∨ n = 1) := by
    rintro (rfl | rfl) <;> exact absurd h (by decide)
  have notFifth : n ≠ 2 := by
    rintro rfl
    exact absurd h (by decide)
  exact (if_neg notFourth).trans (if_neg notFifth)

theorem RawInput.turns_of_isNeutral {raw : RawInput} (h : raw.isNeutral) (i : Fin 16) :
    raw.turns? i = none := by
  cases raw with
  | keyDown vk extended time => exact if_neg fun turned => turned.1 h
  | keyUp vk extended time => exact if_neg fun turned => turned.1 h
  | buttonDown b p time =>
    obtain ⟨n, above, rfl⟩ := h
    refine if_neg ?_
    rw [RawButton.bit_of_indexed_ge above]
    exact (Option.some_ne_none i).symm
  | buttonUp b p time =>
    obtain ⟨n, above, rfl⟩ := h
    refine if_neg ?_
    rw [RawButton.bit_of_indexed_ge above]
    exact (Option.some_ne_none i).symm
  | motion p time => rfl
  | wheel axis delta p time => rfl
  | unrecognized message time => rfl

/-- Keys that go down with the bit of an input, if it has one. -/
theorem held_match_down {h : HeldKeys} (go : Mask → HeldKeys)
    (down : ∀ m, (go m).held = h.held ||| m) (bit? : Option Mask) :
    HeldKeys.held (match bit? with | some m => go m | none => h) = h.held ||| bit?.getD .empty := by
  cases bit? with
  | some m => exact down m
  | none => exact (Mask.union_empty _).symm

/-- Keys that go up with the bit of an input, if it has one. -/
theorem held_match_up {h : HeldKeys} (go : Mask → HeldKeys)
    (up : ∀ m, (go m).held = h.held \ m) (bit? : Option Mask) :
    HeldKeys.held (match bit? with | some m => go m | none => h) = h.held \ bit?.getD .empty := by
  cases bit? with
  | some m => exact up m
  | none => exact (Mask.diff_empty _).symm

namespace Tracking

section Held

variable (t : Tracking) (w : Surroundings)

theorem held_keyDown (vk : VirtualKey) (extended : Bool) (time : Millis) :
    (t.step w (.keyDown vk extended time)).1.keys.held =
      t.keys.held ||| (Mask.ofVirtual? vk).getD .empty :=
  held_match_down t.keys.press (fun _ => rfl) (Mask.ofVirtual? vk)

theorem held_keyUp (vk : VirtualKey) (extended : Bool) (time : Millis) :
    (t.step w (.keyUp vk extended time)).1.keys.held =
      t.keys.held \ (Mask.ofVirtual? vk).getD .empty :=
  held_match_up t.keys.unset (fun _ => rfl) (Mask.ofVirtual? vk)

theorem held_buttonDown (b : RawButton) (p : Point) (time : Millis) :
    (t.step w (.buttonDown b p time)).1.keys.held =
      t.keys.held ||| b.button.mask?.getD .empty :=
  held_match_down t.keys.set (fun _ => rfl) b.button.mask?

theorem held_buttonUp (b : RawButton) (p : Point) (time : Millis) :
    (t.step w (.buttonUp b p time)).1.keys.held =
      t.keys.held \ b.button.mask?.getD .empty :=
  held_match_up t.keys.unset (fun _ => rfl) b.button.mask?

theorem keys_motion (p : Point) (time : Millis) :
    (t.step w (.motion p time)).1.keys = t.keys := by
  show (t.motion w p time).1.keys = t.keys
  cases hm : t.clicks.motion? (w.stamp time) p w.threshold with
  | none => rw [motion_of_none hm]
  | some clicks =>
    obtain ⟨data, moved⟩ := motion_of_some hm
    rw [moved]

/-- An input makes each bit what it turns it to, and leaves the others. -/
theorem has_step (raw : RawInput) (i : Fin 16) :
    (t.step w raw).1.keys.held.has i = (raw.turns? i).getD (t.keys.held.has i) := by
  cases raw with
  | keyDown vk extended time =>
    rw [held_keyDown]
    exact Mask.has_down (Mask.has_ofVirtual vk i)
  | keyUp vk extended time =>
    rw [held_keyUp]
    exact Mask.has_up (Mask.has_ofVirtual vk i)
  | buttonDown b p time =>
    rw [held_buttonDown]
    exact Mask.has_down (b.has_button i)
  | buttonUp b p time =>
    rw [held_buttonUp]
    exact Mask.has_up (b.has_button i)
  | motion p time => rw [keys_motion, RawInput.turns?, Option.getD_none]
  | wheel axis delta p time => rfl
  | unrecognized message time => rfl

end Held

end Tracking

end InputTap.Capture
