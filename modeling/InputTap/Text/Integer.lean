import InputTap.Text.Numeral

/-!
# Reading whole numbers

Decimal numbers as a command line gives them: at least one digit, leading zeros allowed, and a sign
in front where the kind of number has one. `natural?_decimal` reads back what `Numeral.decimal`
writes.
-/

set_option autoImplicit false

namespace InputTap.Text.Integer

/-- The value of a decimal digit. -/
def digitValue (c : Char) : Nat := c.toNat - '0'.toNat

/-- The number that decimal digits denote. -/
def natural? (cs : List Char) : Option Nat :=
  if cs.isEmpty || !cs.all Char.isDigit then none
  else some (Numeral.value 8 (cs.map digitValue))

/-- A number that may have a plus sign. -/
def unsigned? : List Char → Option Nat
  | '+' :: cs => natural? cs
  | cs => natural? cs

/-- A number that may have a plus or a minus sign. -/
def signed? : List Char → Option Int
  | '-' :: cs => (natural? cs).map fun n => -(n : Int)
  | cs => (unsigned? cs).map Int.ofNat

theorem digitValue_digitChar {d : Nat} (h : d < 10) :
    digitValue (Numeral.digitChar .lower d) = d := by
  revert d
  decide

theorem isDigit_digitChar {d : Nat} (h : d < 10) : (Numeral.digitChar .lower d).isDigit = true := by
  revert d
  decide

theorem natural?_decimal (n : Nat) : natural? (Numeral.decimal n).toList = some n := by
  have hd : ∀ d ∈ Numeral.digits 8 n, d < 10 := fun d h => Numeral.digits_lt h
  have hne : Numeral.digits 8 n ≠ [] := by
    rw [Numeral.digits]
    split <;> simp
  have hv : (Numeral.digits 8 n).map (digitValue ∘ Numeral.digitChar .lower) =
      Numeral.digits 8 n := by
    conv => rhs; rw [← List.map_id (Numeral.digits 8 n)]
    exact List.map_congr_left fun d h => digitValue_digitChar (hd d h)
  have ha : ((Numeral.digits 8 n).map (Numeral.digitChar .lower)).all Char.isDigit = true := by
    simp only [List.all_map, List.all_eq_true]
    exact fun d h => isDigit_digitChar (hd d h)
  simp only [natural?, Numeral.decimal, Numeral.chars, String.toList_ofList, ha,
    List.isEmpty_map, List.isEmpty_eq_false_iff.2 hne, List.map_map, hv, Numeral.value_digits]
  simp

end InputTap.Text.Integer
