import CardHost.Hex
import CardHost.Text.Scan

/-!
# Escape Sequences

Escape sequences as configurations have them: a letter for a common control
character, or the code point of any character in four or eight hexadecimal
digits.

## Main definitions

* `escapeSequence`: What follows a backslash.
* `isPlain`: A character that stands for itself in a text.
-/

namespace CardHost

namespace Text

open Scan

/-- The character of a code point, if there is one. -/
def charOf? (code : Nat) : Option Char :=
  if h : code.isValidChar then some (Char.ofNatAux code h) else none

/-- The character whose code point is written in so many digits. -/
def codePoint (digits : Nat) : Scan Char := fun text => do
  let values ← (text.take digits).mapM Hex.value?
  guard (values.length = digits)
  let c ← charOf? (values.foldl (fun code value => 16 * code + value) 0)
  return (c, text.drop digits)

/-- The character that a letter after a backslash stands for. -/
def escapeLetter? (c : Char) : Option Char :=
  [('b', '\x08'), ('t', '\t'), ('n', '\n'), ('f', '\x0c'), ('r', '\r'), ('"', '"'),
   ('\\', '\\')].lookup c

/-- What follows a backslash. -/
def escapeSequence : Scan Char := do
  match ← any with
  | 'u' => codePoint 4
  | 'U' => codePoint 8
  | c => StateT.lift (escapeLetter? c)

/-- Whether a character may stand for itself in a text: no control but the
    tab. -/
def isPlain (c : Char) : Bool := c == '\t' || ('\x20' ≤ c && c != '\x7f')

end Text

end CardHost
