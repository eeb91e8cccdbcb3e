import CardHost.Config.Value
import CardHost.Text.Escape

/-!
# Numbers of a TOML File

Whole numbers in four bases and numbers with a fraction. Digits may be grouped
by single underscores. A whole number in base ten has no zero in front, and
every whole number fits a signed word of 64 bits. A number with a fraction has
digits on both sides of its point; one that is too large for any finite number
is refused, unless it is negative.

## Main definitions

* `real`: A number with a fraction or an exponent.
* `integer`: A whole number.
-/

namespace CardHost

namespace Toml

open CardHost.Text Scan
open Config (Value)

/-- Whether a character is a digit of a base up to sixteen. -/
def isDigitOf (base : Nat) (c : Char) : Bool := (Hex.value? c).any (· < base)

/-- The number that digits of a base make up. -/
def valueOf (base : Nat) (digits : List Char) : Nat :=
  digits.foldl (fun value c => base * value + (Hex.value? c).getD 0) 0

/-- Digits, perhaps grouped by underscores. -/
def digitsOf (base : Nat) : Scan (List Char) := do
  let first ← satisfy (isDigitOf base)
  let rest ← repeated (optional do
    let _ ← optional (char '_')
    satisfy (isDigitOf base))
  return first :: rest

/-- A sign; the flag tells whether it is a minus. -/
def sign : Scan Bool := do
  match ← optional (satisfy fun c => c == '+' || c == '-') with
  | some c => return c == '-'
  | none => return false

/-- The digits of a whole number in base ten: a single zero, or no zero in
    front. -/
def wholeDigits : Scan (List Char) :=
  (do
    match ← peek with
    | some '0' => failure
    | _ => digitsOf 10) <|> (do return [← satisfy (isDigitOf 10)])

/-- The part behind the point. -/
def fraction : Scan (List Char) := do
  char '.'
  digitsOf 10

/-- An exponent of ten. -/
def exponent : Scan Int := do
  let _ ← satisfy fun c => c == 'e' || c == 'E'
  let negative ← sign
  let value : Int := valueOf 10 (← digitsOf 10)
  return if negative then -value else value

/-- A number with a fraction, an exponent, or both. -/
def decimal : Scan Value := do
  let negative ← sign
  let whole ← wholeDigits
  let places ← optional fraction
  let power ← if places.isSome then optional exponent else some <$> exponent
  let behind := places.getD []
  let number := Binary64.ofDecimal negative (valueOf 10 (whole ++ behind))
    (power.getD 0 - behind.length)
  guard (number != .infinite false)
  return .real number

/-- A number that has no digits. -/
def special : Scan Value := do
  let negative ← sign
  (do word "inf"; return .real (.infinite negative)) <|> (do word "nan"; return .real .nan)

/-- A number with a fraction or an exponent. -/
def real : Scan Value := decimal <|> special

/-- Whether a whole number fits a signed word of 64 bits. -/
def fits (value : Int) : Bool := Int64.minValue.toInt ≤ value && value ≤ Int64.maxValue.toInt

/-- A whole number in another base than ten. -/
def based (mark : String) (base : Nat) : Scan Value := do
  word mark
  let value := valueOf base (← digitsOf base)
  guard (fits value)
  return .integer value

/-- A whole number. -/
def integer : Scan Value :=
  based "0x" 16 <|> based "0o" 8 <|> based "0b" 2 <|> do
    let negative ← sign
    let magnitude : Int := valueOf 10 (← wholeDigits)
    let value := if negative then -magnitude else magnitude
    guard (fits value)
    return .integer value

end Toml

end CardHost
