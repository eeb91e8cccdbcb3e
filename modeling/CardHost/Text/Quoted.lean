import CardHost.Text.Unprintable

/-!
# Quoted Text

A text between double quotes, as it is shown in messages about values. What
would end the text early, break the line or not show at all is written as an
escape sequence: a quote and a backslash after a backslash, the common controls
by their letters, and everything else that cannot be shown by its code point.

## Main definitions

* `escape`: One character inside quotes.
* `quote`: A text in quotes.
-/

namespace CardHost

namespace Text

/-- A code point in lower-case hexadecimal digits between braces. -/
def escapeCode (code : Nat) : List Char :=
  ['\\', 'u', '\x7b'] ++ Nat.toDigits 16 code ++ ['\x7d']

/-- One character as it stands inside quotes. -/
def escape (c : Char) : List Char :=
  if c = '\x00' then ['\\', '0']
  else if c = '\t' then ['\\', 't']
  else if c = '\r' then ['\\', 'r']
  else if c = '\n' then ['\\', 'n']
  else if c = '"' ∨ c = '\\' then ['\\', c]
  else if isUnprintable c then escapeCode c.toNat
  else [c]

/-- A text in quotes. -/
def quote (text : String) : String :=
  String.ofList ('"' :: text.toList.flatMap escape ++ ['"'])

end Text

end CardHost
