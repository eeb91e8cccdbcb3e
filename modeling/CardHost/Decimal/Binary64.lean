/-!
# Binary Floating Point

Numbers with a fraction, as 64-bit words hold them: a mantissa of at most 53
bits times a power of two. They are kept as these two numbers, so what happens
to them is a matter of whole numbers only.

A decimal number is not one of these in general, and stands for the nearest. Of
two that are equally near it is the one with the even mantissa. What lies
beyond the largest is infinite.

## Main definitions

* `Ratio`: A positive fraction, with `Ratio.scale` for powers of a base.
* `Ratio.round`: The nearest whole number.
* `Binary64`: The numbers.
* `Binary64.ofDecimal`: The number that decimal digits stand for.

## Theorems

* `round_mul_le`, `le_round_mul`: Rounding moves a fraction by half a unit at
  most.
-/

namespace CardHost

/-- A fraction of two whole numbers. -/
structure Ratio where
  num : Nat
  den : Nat

namespace Ratio

/-- A fraction times a power of a base. -/
def scale (base : Nat) (exponent : Int) (r : Ratio) : Ratio :=
  if 0 ≤ exponent then ⟨r.num * base.pow exponent.toNat, r.den⟩
  else ⟨r.num, r.den * base.pow (-exponent).toNat⟩

/-- Whether a fraction is at most another. -/
def le (r s : Ratio) : Bool := r.num * s.den ≤ s.num * r.den

/-- Whether a fraction is less than another. -/
def lt (r s : Ratio) : Bool := r.num * s.den < s.num * r.den

/-- The whole number below a fraction. -/
def floor (r : Ratio) : Nat := r.num / r.den

/-- The nearest whole number; of two the even one. -/
def round (r : Ratio) : Nat :=
  let twice := 2 * (r.num % r.den)
  if twice < r.den ∨ (twice = r.den ∧ r.floor % 2 = 0) then r.floor else r.floor + 1

/-- The greatest exponent whose power of two is at most a positive fraction. -/
def log2 (r : Ratio) : Int :=
  let estimate : Int := r.num.log2 - r.den.log2
  if (scale 2 estimate ⟨1, 1⟩).le r then estimate else estimate - 1

theorem round_mul_le (r : Ratio) (h : 0 < r.den) : 2 * r.round * r.den ≤ 2 * r.num + r.den := by
  have hdiv := Nat.div_add_mod r.num r.den
  have hmul : r.den * (r.num / r.den) = (r.num / r.den) * r.den := Nat.mul_comm _ _
  unfold round floor
  simp only
  split
  · rw [Nat.mul_assoc]
    omega
  · next hup =>
      have hge : r.den ≤ 2 * (r.num % r.den) := by omega
      rw [Nat.mul_assoc, Nat.add_mul, Nat.one_mul]
      have := Nat.mod_lt r.num h
      omega

theorem le_round_mul (r : Ratio) (h : 0 < r.den) : 2 * r.num ≤ 2 * r.round * r.den + r.den := by
  have hdiv := Nat.div_add_mod r.num r.den
  have hmul : r.den * (r.num / r.den) = (r.num / r.den) * r.den := Nat.mul_comm _ _
  unfold round floor
  simp only
  split
  · next hdown =>
      have hle : 2 * (r.num % r.den) ≤ r.den := by omega
      rw [Nat.mul_assoc]
      omega
  · rw [Nat.mul_assoc, Nat.add_mul, Nat.one_mul]
    have := Nat.mod_lt r.num h
    omega

end Ratio

/-- A number of 64-bit binary floating point. -/
inductive Binary64 where
  /-- `mantissa * 2 ^ exponent`, with a sign that zero has too. -/
  | finite (negative : Bool) (mantissa : Nat) (exponent : Int)
  | infinite (negative : Bool)
  /-- No number at all. -/
  | nan
  deriving DecidableEq, Repr

namespace Binary64

/-- The mantissa is less than this. -/
def mantissaLimit : Nat := 1 <<< 53

/-- The least exponent. -/
def leastExponent : Int := -1074

/-- The greatest exponent. -/
def greatestExponent : Int := 971

/-- Zero. -/
def zero (negative : Bool) : Binary64 := .finite negative 0 leastExponent

/-- The number nearest to a positive fraction. -/
def nearest (negative : Bool) (r : Ratio) : Binary64 :=
  let exponent := max (r.log2 - 52) leastExponent
  let mantissa := (r.scale 2 (-exponent)).round
  let (mantissa, exponent) :=
    if mantissa = mantissaLimit then (mantissaLimit / 2, exponent + 1) else (mantissa, exponent)
  if greatestExponent < exponent then .infinite negative
  else .finite negative mantissa exponent

/-- The number that `digits * 10 ^ exponent` stands for. The first two cases
    keep far exponents from being worked out. -/
def ofDecimal (negative : Bool) (digits : Nat) (exponent : Int) : Binary64 :=
  let magnitude : Int := (Nat.toDigits 10 digits).length + exponent
  if digits = 0 ∨ magnitude < -330 then zero negative
  else if 330 < magnitude then .infinite negative
  else nearest negative (Ratio.scale 10 exponent ⟨digits, 1⟩)

end Binary64

end CardHost
