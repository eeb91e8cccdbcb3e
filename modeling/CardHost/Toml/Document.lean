import CardHost.Toml.Date
import CardHost.Toml.Number
import CardHost.Toml.Text
import CardHost.Toml.Tree

/-!
# TOML Files

A file is a sequence of lines, each with a value for a key, a header, or
nothing but blanks and a comment. The lines are read one by one and then added
to the tables of the file; a line that cannot be read or added spoils the whole
file.

Values may be nested, but not without end, and a key has not too many parts.

## Main definitions

* `key`: A key, perhaps with dots.
* `value`: A value.
* `Line`: What a line says.
* `parse`: What a file says.
-/

namespace CardHost

namespace Toml

open CardHost.Text Scan
open Config (Value)

/-- A key has fewer parts than this, and values are nested less deep. -/
def depthLimit : Nat := 80

/-- Whether a character may stand in a key without quotes. -/
def isBare (c : Char) : Bool := c.isAlphanum || c == '_' || c == '-'

/-- One part of a key. -/
def simpleKey : Scan String :=
  quoted '"' <|> quoted '\'' <|> (String.ofList <$> takeSome isBare)

/-- A key: the way to its last part, and that part. -/
def key : Scan (List String × String) := do
  let parts ← chained do
    spaces
    let part ← simpleKey
    spaces
    return (part, (← optional (char '.')).isSome)
  guard (parts.length < depthLimit)
  return (parts.dropLast, ← StateT.lift parts.getLast?)

/-- A comment. -/
def comment : Scan Unit := do
  char '#'
  let _ ← takeWhile isPlain

/-- Pass over blanks, line breaks and comments. -/
def gap : Scan Unit := do
  let _ ← repeated (optional ((do let _ ← takeSome isSpace) <|> newline <|> comment))

/-- The end of a line, or of the file. -/
def lineEnd : Scan Unit := do
  spaces
  let _ ← optional comment
  newline <|> finished

/-- A list of values. -/
def list (item : Scan Value) : Scan Value := do
  char '['
  let items ← repeated do
    gap
    if (← peek) = some ']' then return none
    else
      let value ← item
      gap
      match ← peek with
      | some ',' => char ','
      | some ']' => pure ()
      | _ => failure
      return some value
  char ']'
  return .list items

/-- A key and its value. -/
def entry (item : Scan Value) : Scan (List String × String × Value) := do
  let (way, key) ← key
  char '='
  spaces
  return (way, key, ← item)

/-- A table on one line. -/
def inlineTable (item : Scan Value) : Scan Value := do
  char '\x7b'
  spaces
  let entries ←
    if (← peek) = some '\x7d' then pure []
    else chained do
      let entry ← entry item
      spaces
      return (entry, (← optional (char ',')).isSome)
  char '\x7d'
  let nodes ← StateT.lift
    (entries.foldlM (fun nodes (way, key, value) => addDotted way key value nodes) [])
  return .table (entriesOf nodes)

/-- A value without parts. -/
def scalar : Scan Value := do
  (do return .text (← text)) <|> moment <|> real <|> integer <|>
    (do word "true"; return .truth true) <|> (do word "false"; return .truth false)

/-- A value, nested so deep at most. -/
def value : Nat → Scan Value
  | 0 => scalar
  | depth + 1 => do
    match ← peek with
    | some '[' => list (value depth)
    | some '\x7b' => inlineTable (value depth)
    | _ => scalar

/-- What a line says. -/
inductive Line where
  | blank
  /-- A value for a key. -/
  | entry (way : List String) (key : String) (value : Value)
  /-- A header of a table. -/
  | header (way : List String) (key : String)
  /-- A header of another table in a list. -/
  | listHeader (way : List String) (key : String)

/-- A header of a list. -/
def listHeader : Scan Line := do
  word "[["
  let (way, key) ← key
  word "]]"
  return .listHeader way key

/-- A header. -/
def header : Scan Line := do
  word "["
  let (way, key) ← key
  word "]"
  return .header way key

/-- What a line says that is not blank. -/
def lineContent : Scan Line := do
  match ← peek with
  | some '[' => listHeader <|> header
  | some '#' | some '\n' | some '\r' => return .blank
  | _ =>
    let (way, key, value) ← entry (value (depthLimit - 1))
    return .entry way key value

/-- One line, if there is another. -/
def line : Scan (Option Line) := do
  spaces
  match ← peek with
  | none => return none
  | some _ =>
    let content ← lineContent
    lineEnd
    return some content

/-- A byte order mark. -/
def byteOrderMark : Scan Unit := char '\uFEFF'

/-- The lines of a file. -/
def lines : Scan (List Line) := do
  let _ ← optional byteOrderMark
  repeated line

/-- Add a line to the tables of a file, under the last header. -/
def Line.add (state : List String × Nodes) : Line → Option (List String × Nodes)
  | .blank => some state
  | .entry way key value => do
    return (state.1, ← addEntry state.1 way key value state.2)
  | .header way key => do return (way ++ [key], ← addHeader way key state.2)
  | .listHeader way key => do return (way ++ [key], ← addListHeader way key state.2)

/-- What a file says, as the entries of a table; `none` if it cannot be read. -/
def parse (file : String) : Option (List (String × Value)) := do
  let lines ← run? lines file.toList
  let (_, nodes) ← lines.foldlM Line.add ([], [])
  return entriesOf nodes

end Toml

end CardHost
