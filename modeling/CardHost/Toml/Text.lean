import CardHost.Text.Escape

/-!
# Texts of a TOML File

The four ways to write a text: between double quotes with escape sequences, or
between single quotes as it is, each on one line or, with three quotes, on
several. On several lines a line break right behind the opening quotes does not
count, every other break is a line feed, and a backslash at the end of a line
swallows all blanks up to the next text.

Up to two quotes may stand in front of the three that close a text.

## Main definitions

* `quoted`: A text on one line.
* `text`: A text in any of the four ways.
-/

namespace CardHost

namespace Toml

open CardHost.Text Scan

/-- A blank within a line. -/
def isSpace (c : Char) : Bool := c == ' ' || c == '\t'

/-- Pass over blanks within a line. -/
def spaces : Scan Unit := do
  let _ ← takeWhile isSpace

/-- A line break. -/
def newline : Scan Unit := word "\n" <|> word "\r\n"

/-- A character that stands for itself between quotes. -/
def isPlainIn (quote : Char) (c : Char) : Bool :=
  isPlain c && c != quote && (quote != '"' || c != '\\')

/-- A text on one line between quotes of a kind. -/
def quoted (quote : Char) : Scan String := do
  char quote
  let chars ← repeated do
    match ← any with
    | '\\' => if quote = '"' then some <$> escapeSequence else return some '\\'
    | c =>
      if c = quote then return none
      else
        guard (isPlainIn quote c)
        return some c
  return String.ofList chars

/-- The break of a line that is to be taken as none. -/
def joinedLine : Scan Unit := do
  char '\\'
  spaces
  newline
  let _ ← repeated (optional (newline <|> (do let _ ← takeSome isSpace)))

/-- A piece of a text on several lines, nothing in front of its end. -/
def piece (quote : Char) : Scan (Option (List Char)) := fun rest =>
  let quotes := (rest.takeWhile (· == quote)).length
  if 3 ≤ quotes then some (none, rest)
  else if 0 < quotes then some (some (List.replicate quotes quote), rest.drop quotes)
  else
    let one : Scan (List Char) := do return [← satisfy (isPlainIn quote)]
    let break_ : Scan (List Char) := do newline; return ['\n']
    let escape : Scan (List Char) := do char '\\'; return [← escapeSequence]
    let joined : Scan (List Char) := do joinedLine; return []
    (some <$> (one <|> break_ <|> (do guard (quote = '"'); joined <|> escape))) rest

/-- A text on several lines between three quotes of a kind on either side. -/
def multiline (quote : Char) : Scan String := do
  let _ ← char quote
  let _ ← char quote
  let _ ← char quote
  let _ ← optional newline
  let pieces ← repeated (piece quote)
  let quotes := (← takeWhile (· == quote)).length
  guard (quotes ≤ 5)
  return String.ofList (pieces.flatten ++ List.replicate (quotes - 3) quote)

/-- A text in any way. -/
def text : Scan String :=
  multiline '"' <|> multiline '\'' <|> quoted '"' <|> quoted '\''

end Toml

end CardHost
