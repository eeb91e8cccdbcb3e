/-!
# Decimal Digits

Whole numbers as texts of decimal digits. Signs, limits and grouping are the
business of the formats that read numbers; here every character is a digit.

## Main definitions

* `ofDigits`: The number that digits make up.
* `natural?`: The number that a text stands for, if it is made of digits.

## Theorems

* `natural?_toDigits`: A number reads back from its digits.
-/

namespace CardHost

namespace Decimal

/-- The number that digits make up, the first one counting most. -/
def ofDigits (digits : List Char) : Nat := Nat.ofDigitChars 10 digits 0

/-- The number that a text stands for: it has digits, and nothing else. -/
def natural? (text : List Char) : Option Nat :=
  if text.isEmpty ∨ !text.all Char.isDigit then none else some (ofDigits text)

theorem natural?_toDigits (n : Nat) : natural? (Nat.toDigits 10 n) = some n := by
  have hne : (Nat.toDigits 10 n).isEmpty = false := by
    rw [List.isEmpty_eq_false_iff]
    exact Nat.toDigits_ne_nil
  have hall : (Nat.toDigits 10 n).all Char.isDigit = true :=
    List.all_eq_true.mpr fun _ h => Nat.isDigit_of_mem_toDigits (by decide) (by decide) h
  simp only [natural?, hne, hall, Bool.not_true, Bool.false_eq_true, or_self, ↓reduceIte,
    ofDigits, Nat.ofDigitChars_toDigits (by decide : 1 < 10) (by decide : 10 ≤ 10)]

end Decimal

end CardHost
