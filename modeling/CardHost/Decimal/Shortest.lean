import CardHost.Decimal.Binary64

/-!
# The Fewest Digits

A number of binary floating point as a decimal text with as few digits as tell
it apart from every other such number, and of those the nearest to it.

The numbers that round to `m * 2 ^ q` fill an interval around it. Grids of
powers of ten are tried from coarse to fine, and on each only the two neighbours
of the number: if any point of a grid lies in the interval, then so does one of
them. The ends of the interval belong to it when the mantissa is even, because
ties go there.

Exponents are never written: a number is as long as its size demands.

## Main definitions

* `Interval`: The numbers that round to a given one.
* `shortest`: The digits and their power of ten.
* `Binary64.render`: The text.
-/

namespace CardHost

namespace Decimal

/-- What rounds to a number of binary floating point. -/
structure Interval where
  low : Ratio
  value : Ratio
  high : Ratio
  /-- The ends belong to it. -/
  closed : Bool

/-- The interval of `mantissa * 2 ^ exponent`. Below a power of two the next
    number is only half as far away. -/
def Interval.of (mantissa : Nat) (exponent : Int) : Interval :=
  let quarter (n : Nat) : Ratio := Ratio.scale 2 (exponent - 2) ⟨n, 1⟩
  let isPower := 2 * mantissa = Binary64.mantissaLimit ∧ Binary64.leastExponent < exponent
  { low := quarter (if isPower then 4 * mantissa - 1 else 4 * mantissa - 2)
    value := quarter (4 * mantissa)
    high := quarter (4 * mantissa + 2)
    closed := mantissa % 2 == 0 }

/-- Whether a fraction lies in an interval. -/
def Interval.contains (i : Interval) (r : Ratio) : Bool :=
  if i.closed then i.low.le r && r.le i.high else i.low.lt r && r.lt i.high

/-- The point of a grid of powers of ten that is in an interval and nearest to
    its value, if there is any; of two equally near ones the upper. -/
def Interval.gridPoint? (i : Interval) (power : Int) : Option Nat :=
  let point (n : Nat) : Ratio := Ratio.scale 10 power ⟨n, 1⟩
  let below := (i.value.scale 10 (-power)).floor
  let middle := (Ratio.scale 10 power ⟨2 * below + 1, 2⟩)
  let first := if i.value.lt middle then below else below + 1
  let second := if i.value.lt middle then below + 1 else below
  [first, second].find? fun n => i.contains (point n)

/-- Try grids from coarse to fine, so many of them. -/
def search (i : Interval) : Nat → Int → Nat × Int
  | 0, power => ((i.value.scale 10 (-power)).floor, power)
  | steps + 1, power =>
    match i.gridPoint? power with
    | some digits => (digits, power)
    | none => search i steps (power - 1)

/-- The digits of a positive number and the power of ten they count. -/
def shortest (mantissa : Nat) (exponent : Int) : Nat × Int :=
  let bits : Int := mantissa.log2 + 1 + exponent
  search (.of mantissa exponent) 24 (bits * 30103 / 100000 + 2)

/-- `digits * 10 ^ power` without an exponent. -/
def positional (digits : Nat) (power : Int) : String :=
  let text := Nat.toDigits 10 digits
  if 0 ≤ power then String.ofList (text ++ List.replicate power.toNat '0')
  else
    let places := (-power).toNat
    let text := List.replicate (places + 1 - text.length) '0' ++ text
    String.ofList (text.take (text.length - places) ++ ['.'] ++ text.drop (text.length - places))

end Decimal

/-- A number as a decimal text. -/
def Binary64.render : Binary64 → String
  | .nan => "NaN"
  | .infinite negative => if negative then "-inf" else "inf"
  | .finite negative mantissa exponent =>
    let magnitude :=
      if mantissa = 0 then "0"
      else
        let (digits, power) := Decimal.shortest mantissa exponent
        Decimal.positional digits power
    if negative then "-" ++ magnitude else magnitude

end CardHost
