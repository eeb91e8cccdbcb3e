/-!
# Hexadecimal Text

Byte strings written as pairs of lower-case digits, high half first. The
writer is a `flatMap` of one pair per byte and the reader takes two digits at
a time, so each is a short recursion on its own input.

## Main definitions

* `encode`: The digits of a byte string.
* `decode?`: The byte string a text of digits stands for.
-/

namespace CardHost

namespace Hex

/-- The lower-case digit of a value below sixteen. -/
def digit (value : Nat) : Char := Nat.digitChar value

/-- The value of one digit of either case. -/
def value? (c : Char) : Option Nat :=
  if '0' ≤ c ∧ c ≤ '9' then some (c.toNat - '0'.toNat)
  else if 'a' ≤ c ∧ c ≤ 'f' then some (c.toNat - 'a'.toNat + 10)
  else if 'A' ≤ c ∧ c ≤ 'F' then some (c.toNat - 'A'.toNat + 10)
  else none

/-- The two digits of one byte. -/
def pair (byte : UInt8) : List Char := [digit (byte.toNat / 16), digit (byte.toNat % 16)]

/-- The digits of a byte string. -/
def encode (bytes : List UInt8) : String := String.ofList (bytes.flatMap pair)

/-- The bytes that a list of digits stands for, `none` for an odd count or
    anything that is not a digit. -/
def bytes? : List Char → Option (List UInt8)
  | [] => some []
  | [_] => none
  | high :: low :: rest => do
    let h ← value? high
    let l ← value? low
    let bytes ← bytes? rest
    return UInt8.ofNat (16 * h + l) :: bytes

/-- The byte string that a text of digits stands for. -/
def decode? (text : String) : Option (List UInt8) := bytes? text.toList

/-- The digits of a number, with zeros in front up to `width`. -/
def padded (width value : Nat) : String :=
  let digits := Nat.toDigits 16 value
  String.ofList (List.replicate (width - digits.length) '0' ++ digits)

end Hex

end CardHost
