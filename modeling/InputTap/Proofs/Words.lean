import InputTap.Saturate
import Mathlib.Algebra.Ring.Int.Defs

/-!
# Machine words

A signed word holds the values of its range (`InWord`). `inWord?` asks so of a value before it is
used any further; a computation that asks after each of its operations has a result exactly if none
of them overflows.
-/

set_option autoImplicit false

namespace InputTap

/-- A signed word of so many bits holds the value. -/
def InWord (bits : Nat) (v : Int) : Prop := -2 ^ (bits - 1) ≤ v ∧ v < 2 ^ (bits - 1)

instance (bits : Nat) (v : Int) : Decidable (InWord bits v) :=
  inferInstanceAs (Decidable (_ ∧ _))

/-- The value, if a signed word of so many bits holds it. -/
def inWord? (bits : Nat) (v : Int) : Option Int := if InWord bits v then some v else none

theorem inWord?_of_inWord {bits : Nat} {v : Int} (h : InWord bits v) : inWord? bits v = some v :=
  if_pos h

theorem bind_inWord? {bits : Nat} {v : Int} {next : Int → Option Int} (h : InWord bits v) :
    (inWord? bits v >>= next) = next v := by
  rw [inWord?_of_inWord h]
  rfl

/-- A value that its word holds does not saturate. -/
theorem Saturate.int32_of_inWord {v : Int} (h : InWord 32 v) : int32 v = v :=
  clamp_of_mem h.1 (Int.le_of_lt_add_one h.2)

end InputTap
