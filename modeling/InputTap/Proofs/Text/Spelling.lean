import InputTap.Text.CharLiteral
import Mathlib.Data.List.Basic

/-!
# Spellings

A numeral and a character literal tell what they spell: `chars_injective` for the digits in a base
up to sixteen, from which `decimal_injective`, `integer_injective` and `hex_injective` follow, and
`CharLiteral.text_injective`. No numeral has a comma in it (`commaFree_decimal` and the others), but
a literal may.
-/

set_option autoImplicit false

namespace InputTap.Text

/-- The text has no comma in it. -/
def CommaFree (s : String) : Prop := ',' ∉ s.toList

instance (s : String) : Decidable (CommaFree s) := inferInstanceAs (Decidable (',' ∉ s.toList))

theorem CommaFree.append {s t : String} (hs : CommaFree s) (ht : CommaFree t) :
    CommaFree (s ++ t) := by
  unfold CommaFree
  rw [String.toList_append]
  exact List.not_mem_append hs ht

namespace Numeral

/-- The digit value that a character stands for. -/
def digitOf (c : Char) : Nat :=
  if c.toNat < 'A'.toNat then c.toNat - '0'.toNat
  else if c.toNat < 'a'.toNat then c.toNat - 'A'.toNat + 10
  else c.toNat - 'a'.toNat + 10

theorem digitOf_digitChar (letters : LetterCase) {d : Nat} (h : d < 16) :
    digitOf (digitChar letters d) = d := by
  revert d
  cases letters <;> decide

/-- A digit is neither a comma nor a minus sign. -/
theorem digitChar_ne (letters : LetterCase) {d : Nat} (h : d < 16) :
    digitChar letters d ≠ ',' ∧ digitChar letters d ≠ '-' := by
  revert d
  cases letters <;> decide

section Chars

variable {letters : LetterCase} {b m n : Nat} (base : b ≤ 14)

include base

theorem map_digitOf_chars : (chars letters b n).map digitOf = digits b n := by
  unfold chars
  rw [List.map_map]
  conv_rhs => rw [← List.map_id (digits b n)]
  refine List.map_congr_left fun d mem => ?_
  exact digitOf_digitChar letters (Nat.lt_of_lt_of_le (digits_lt mem) (by omega))

/-- The digits of a number tell which one it is. -/
theorem chars_injective (h : chars letters b m = chars letters b n) : m = n := by
  apply digits_injective (b := b)
  rw [← map_digitOf_chars base, h, map_digitOf_chars base]

theorem not_mem_chars : ',' ∉ chars letters b n ∧ '-' ∉ chars letters b n := by
  have digit (c : Char) (mem : c ∈ chars letters b n) : c ≠ ',' ∧ c ≠ '-' := by
    obtain ⟨d, listed, rfl⟩ := List.mem_map.1 mem
    exact digitChar_ne letters (Nat.lt_of_lt_of_le (digits_lt listed) (by omega))
  exact ⟨fun mem => (digit _ mem).1 rfl, fun mem => (digit _ mem).2 rfl⟩

theorem ofList_chars_injective
    (h : String.ofList (chars letters b m) = String.ofList (chars letters b n)) : m = n :=
  chars_injective base (String.ofList_injective h)

theorem commaFree_ofList_chars : CommaFree (String.ofList (chars letters b n)) := by
  unfold CommaFree
  rw [String.toList_ofList]
  exact (not_mem_chars base).1

end Chars

theorem decimal_injective : Function.Injective decimal :=
  fun _ _ same => ofList_chars_injective (by omega) same

theorem hex_injective (letters : LetterCase) : Function.Injective (hex letters) :=
  fun _ _ same => ofList_chars_injective (by omega) same

theorem commaFree_decimal (n : Nat) : CommaFree (decimal n) := commaFree_ofList_chars (by omega)

theorem commaFree_hex (letters : LetterCase) (n : Nat) : CommaFree (hex letters n) :=
  commaFree_ofList_chars (by omega)

theorem commaFree_integer (i : Int) : CommaFree (integer i) := by
  cases i with
  | ofNat n => exact commaFree_decimal n
  | negSucc n =>
    have sign : CommaFree "-" := by decide
    exact sign.append (commaFree_decimal (n + 1))

/-- A number that is not negative has no minus sign. -/
theorem decimal_ne_minus (m n : Nat) : decimal m ≠ "-" ++ decimal n := by
  intro same
  have unsigned : '-' ∉ (decimal m).toList := by
    unfold decimal
    rw [String.toList_ofList]
    exact (not_mem_chars (by omega)).2
  rw [same, String.toList_append] at unsigned
  exact unsigned (List.mem_append_left _ (by decide))

theorem integer_injective : Function.Injective integer := by
  intro i j same
  cases i with
  | ofNat m =>
    cases j with
    | ofNat n => exact congrArg Int.ofNat (decimal_injective same)
    | negSucc n => exact absurd same (decimal_ne_minus m (n + 1))
  | negSucc m =>
    cases j with
    | ofNat n => exact absurd same.symm (decimal_ne_minus n (m + 1))
    | negSucc n =>
      have chars_same := congrArg String.toList same
      simp only [integer, String.toList_append] at chars_same
      have digits_same := String.toList_inj.1 (List.append_cancel_left chars_same)
      exact congrArg Int.negSucc (Nat.succ.inj (decimal_injective digits_same))

end Numeral

namespace CharLiteral

/-- The characters that have a short escape, with the letter of it. -/
def escapes : List (Char × Char) :=
  [('\x00', '0'), ('\t', 't'), ('\r', 'r'), ('\n', 'n'), ('\x27', '\x27'), ('\\', '\\')]

theorem mem_escapes {c e : Char} (h : shortEscape? c = some e) : (c, e) ∈ escapes := by
  unfold shortEscape? at h
  repeat' split at h
  all_goals cases h <;> subst c <;> decide

theorem shortEscape?_injective {c d e : Char} (hc : shortEscape? c = some e)
    (hd : shortEscape? d = some e) : c = d := by
  have apart : ∀ p ∈ escapes, ∀ q ∈ escapes, p.2 = q.2 → p.1 = q.1 := by decide
  exact apart _ (mem_escapes hc) _ (mem_escapes hd) rfl

/-- The body of a literal: a short escape, the character itself, or its code point in braces. -/
theorem body_cases (c : Char) :
    (∃ e, shortEscape? c = some e ∧ body c = ['\\', e]) ∨ body c = [c] ∨
      body c = ['\\', 'u', '\x7b'] ++ Numeral.chars .lower 14 c.toNat ++ ['\x7d'] := by
  unfold body
  cases short : shortEscape? c with
  | some e => exact .inl ⟨e, rfl, rfl⟩
  | none =>
    refine .inr ?_
    by_cases alone : standsAlone c
    · exact .inl (if_pos alone)
    · exact .inr (if_neg alone)

/-- What stands between the quotes tells which character it is. -/
theorem body_injective {c d : Char} (h : body c = body d) : c = d := by
  rcases body_cases c with ⟨e, hc, bc⟩ | bc | bc
  · rcases body_cases d with ⟨e', hd, bd⟩ | bd | bd <;> rw [bc, bd] at h
    · obtain rfl : e = e' := (List.cons.inj (List.cons.inj h).2).1
      exact shortEscape?_injective hc hd
    · simp at h
    · simp at h
  · rcases body_cases d with ⟨e', hd, bd⟩ | bd | bd <;> rw [bc, bd] at h
    · simp at h
    · exact List.singleton_inj.1 h
    · simp at h
  · rcases body_cases d with ⟨e', hd, bd⟩ | bd | bd <;> rw [bc, bd] at h
    · simp at h
    · simp at h
    · have digits := List.append_cancel_left (List.append_cancel_right h)
      exact Char.toNat_inj.1 (Numeral.chars_injective (by omega) digits)

theorem text_injective : Function.Injective text := by
  intro c d same
  have quoted : '\x27' :: (body c ++ ['\x27']) = '\x27' :: (body d ++ ['\x27']) :=
    String.ofList_injective same
  exact body_injective (List.append_cancel_right (List.cons.inj quoted).2)

end CharLiteral

end InputTap.Text
