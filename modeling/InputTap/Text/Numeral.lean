/-!
# Numerals in a base up to sixteen

A number is written by its digits, most significant first and without leading zeros; `0` is one
digit. `digits` gives the digit values, `value` reads them back, and `digits_injective` follows from
`value_digits`. The texts (`decimal`, `integer`, `hex`, `hexPadded`) are the digits spelt with
`digitChar`.
-/

set_option autoImplicit false

namespace InputTap.Text.Numeral

/-- The digit values of `n` in base `b + 2`, most significant first. -/
def digits (b n : Nat) : List Nat :=
  if n < b + 2 then [n] else digits b (n / (b + 2)) ++ [n % (b + 2)]
termination_by n
decreasing_by exact Nat.div_lt_self (by omega) (by omega)

/-- The number that digit values denote in base `b + 2`. -/
def value (b : Nat) (ds : List Nat) : Nat :=
  ds.foldl (fun v d => v * (b + 2) + d) 0

theorem value_append_singleton (b : Nat) (ds : List Nat) (d : Nat) :
    value b (ds ++ [d]) = value b ds * (b + 2) + d := by
  simp [value]

theorem value_digits (b n : Nat) : value b (digits b n) = n := by
  fun_induction digits b n with
  | case1 n h => simp [value]
  | case2 n h ih =>
    rw [value_append_singleton, ih, Nat.mul_comm]
    exact Nat.div_add_mod n (b + 2)

theorem digits_injective {b m n : Nat} (h : digits b m = digits b n) : m = n := by
  rw [← value_digits b m, h, value_digits]

theorem digits_lt {b n d : Nat} (h : d ∈ digits b n) : d < b + 2 := by
  fun_induction digits b n with
  | case1 n hn => simp at h; omega
  | case2 n hn ih =>
    rcases List.mem_append.1 h with h | h
    · exact ih h
    · have : d = n % (b + 2) := by simpa using h
      exact this ▸ Nat.mod_lt _ (by omega)

/-- Which letters stand for the digits above nine. -/
inductive LetterCase
  | lower
  | upper
deriving DecidableEq

/-- The character of a digit value below sixteen. -/
def digitChar (letters : LetterCase) (d : Nat) : Char :=
  if d < 10 then Char.ofNat ('0'.toNat + d)
  else match letters with
    | .lower => Char.ofNat ('a'.toNat + (d - 10))
    | .upper => Char.ofNat ('A'.toNat + (d - 10))

/-- The characters of a numeral in base `b + 2`. -/
def chars (letters : LetterCase) (b n : Nat) : List Char :=
  (digits b n).map (digitChar letters)

/-- A number in base ten. -/
def decimal (n : Nat) : String := String.ofList (chars .lower 8 n)

/-- A whole number in base ten, a minus sign before a negative one. -/
def integer : Int → String
  | .ofNat n => decimal n
  | .negSucc n => "-" ++ decimal (n + 1)

/-- A number in base sixteen, without a mark in front. -/
def hex (letters : LetterCase) (n : Nat) : String := String.ofList (chars letters 14 n)

/-- The characters of a numeral, filled with zeros to at least `width`. -/
def charsPadded (letters : LetterCase) (b width n : Nat) : List Char :=
  let cs := chars letters b n
  List.replicate (width - cs.length) '0' ++ cs

/-- A number in base sixteen behind `0x`, filled with zeros to at least `width` digits. -/
def hexPadded (letters : LetterCase) (width n : Nat) : String :=
  "0x" ++ String.ofList (charsPadded letters 14 width n)

end InputTap.Text.Numeral
