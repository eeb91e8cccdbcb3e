import CardHost.Config.Value
import CardHost.Decimal.Digits
import CardHost.Toml.Text

/-!
# Dates and Times of a TOML File

A date, a time of day, or both, the last perhaps with an offset. None of these
is a value that a configuration asks for. They are kept as a table with a
single reserved key, under which stands the date in its normal form: a capital
letter between date and time, fractions of a second to nine places without
zeros at their end, and a sign for an offset of zero hours.

## Main definitions

* `moment`: A date, a time, or both.
-/

namespace CardHost

namespace Toml

open CardHost.Text Scan
open Config (Value)

/-- The key under which a date is kept. -/
def dateKey : String := "$__toml_private_datetime"

/-- A number of exactly so many digits within bounds, as it is written. -/
def bounded (width least greatest : Nat) : Scan (List Char) := fun text => do
  let digits := text.take width
  guard (digits.length = width ∧ digits.all Char.isDigit)
  let value := Decimal.ofDigits digits
  guard (least ≤ value ∧ value ≤ greatest)
  return (digits, text.drop width)

/-- How many days a month has. -/
def daysOf (year month : Nat) : Nat :=
  if month = 2 then
    if year % 4 = 0 ∧ (year % 100 ≠ 0 ∨ year % 400 = 0) then 29 else 28
  else if [4, 6, 9, 11].contains month then 30
  else 31

/-- A day of the calendar. -/
def date : Scan (List Char) := do
  let year ← bounded 4 0 9999
  char '-'
  let month ← bounded 2 1 12
  char '-'
  let day ← bounded 2 1 (daysOf (Decimal.ofDigits year) (Decimal.ofDigits month))
  return year ++ ['-'] ++ month ++ ['-'] ++ day

/-- A fraction of a second, without what is too small and without zeros at its
    end. -/
def secondFraction : Scan (List Char) := do
  char '.'
  let digits := (← takeSome Char.isDigit).take 9
  let digits := (digits.reverse.dropWhile (· == '0')).reverse
  return if digits.isEmpty then [] else '.' :: digits

/-- A time of day. -/
def time : Scan (List Char) := do
  let hour ← bounded 2 0 23
  char ':'
  let minute ← bounded 2 0 59
  char ':'
  let second ← bounded 2 0 60
  let part ← optional secondFraction
  return hour ++ [':'] ++ minute ++ [':'] ++ second ++ part.getD []

/-- How far a time is ahead of universal time. -/
def offset : Scan (List Char) :=
  (do
    let _ ← satisfy fun c => c == 'Z' || c == 'z'
    return ['Z']) <|> do
    let ahead ← satisfy fun c => c == '+' || c == '-'
    let hour ← bounded 2 0 23
    char ':'
    let minute ← bounded 2 0 59
    let ahead := if Decimal.ofDigits hour + Decimal.ofDigits minute = 0 then '+' else ahead
    return ahead :: hour ++ [':'] ++ minute

/-- The time of a day that was read already. -/
def timeOfDay : Scan (List Char) := do
  let _ ← satisfy fun c => c == 'T' || c == 't' || c == ' '
  let time ← time
  let offset ← optional offset
  return 'T' :: time ++ offset.getD []

/-- A date, a time, or both. -/
def moment : Scan Value := do
  let text ←
    (do
      let day ← date
      return day ++ (← optional timeOfDay).getD []) <|> time
  return .table [(dateKey, .text (String.ofList text))]

end Toml

end CardHost
