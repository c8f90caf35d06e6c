import InputTap.Key.Layout
import InputTap.Proofs.Mask.Bits

/-!
# What the standard layout types

A press types by three things alone: whether a chord key is held, whether a shift key is held, and
the bit of caps lock (`typed_standard`). A letter key types its letter, whose case is that of
`toUpper_letter` and `isUpper_letter`; what the other keys type is `symbol?`, which does not see
caps lock.
-/

set_option autoImplicit false

namespace InputTap

namespace Mask

/-- Some of the listed bits is set. -/
def hasAny (m : Mask) (bits : List (Fin 16)) : Bool := bits.any fun i => m.has i

theorem meets_shift (m : Mask) : m.meets shift = m.hasAny shiftBits := by
  apply meets_eq_any
  decide

theorem meets_chord (m : Mask) :
    m.meets (control ||| alt ||| metaKeys) = m.hasAny chordBits := by
  apply meets_eq_any
  decide

theorem meets_capsLock (m : Mask) : m.meets capsLock = m.has capsLockBit := by
  have single : m.meets capsLock = [capsLockBit].any fun i => m.has i := by
    apply meets_eq_any
    decide
  rw [single]
  exact Bool.or_false _

/-- Masks that agree on the listed bits have some of them alike. -/
theorem hasAny_congr {a b : Mask} {bits : List (Fin 16)} (h : ∀ i ∈ bits, a.has i = b.has i) :
    a.hasAny bits = b.hasAny bits := by
  unfold hasAny
  rw [Bool.eq_iff_iff, List.any_eq_true, List.any_eq_true]
  constructor
  · rintro ⟨i, hi, set⟩
    exact ⟨i, hi, (h i hi).symm.trans set⟩
  · rintro ⟨i, hi, set⟩
    exact ⟨i, hi, (h i hi).trans set⟩

end Mask

namespace Layout

/-- The character of a key that carries no letter, with or without shift. -/
def symbol? (vk : VirtualKey) (shifted : Bool) : Option Char :=
  match plainChars.lookup vk with
  | some c => some c
  | none => (shiftedChars.lookup vk).map fun p => if shifted then p.2 else p.1

theorem isLetter_iff {vk : VirtualKey} : isLetter vk = true ↔ 0x41 ≤ vk ∧ vk ≤ 0x5A := by
  simp [isLetter]

/-- The character of a letter key is its letter, in the case that is asked for. -/
theorem letter_cases {vk : VirtualKey} (h : isLetter vk = true) (upper : Bool) :
    (letter vk upper).toUpper = Char.ofNat vk.toNat ∧ (letter vk upper).isUpper = upper := by
  have cases_of : ∀ n : Fin 26, ∀ upper : Bool,
      (Char.ofNat (65 + n + if upper then 0 else 32)).toUpper = Char.ofNat (65 + n) ∧
        (Char.ofNat (65 + n + if upper then 0 else 32)).isUpper = upper := by
    decide
  obtain ⟨low, high⟩ := isLetter_iff.1 h
  have from_a : 65 ≤ vk.toNat := UInt16.le_iff_toNat_le.1 low
  have to_z : vk.toNat ≤ 90 := UInt16.le_iff_toNat_le.1 high
  have letter := cases_of ⟨vk.toNat - 65, by omega⟩ upper
  have number : 65 + (vk.toNat - 65) = vk.toNat := by omega
  simp only [number] at letter
  exact letter

theorem typed_standard (vk : VirtualKey) (m : Mask) :
    standard.typed vk m =
      if m.hasAny Mask.chordBits then []
      else if isLetter vk then [letter vk (m.hasAny Mask.shiftBits != m.has Mask.capsLockBit)]
      else (symbol? vk (m.hasAny Mask.shiftBits)).toList := by
  show (if m.meets (Mask.control ||| Mask.alt ||| Mask.metaKeys) then []
    else (char? vk m).toList) = _
  rw [Mask.meets_chord]
  unfold char? symbol?
  rw [Mask.meets_shift, Mask.meets_capsLock]
  split
  · rfl
  · split
    · rfl
    · rfl

end Layout

end InputTap
