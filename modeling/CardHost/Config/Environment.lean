import CardHost.Config.Value
import CardHost.Decimal.Digits
import CardHost.Text.Blank
import CardHost.Text.Escape

/-!
# Configuration from the Environment

Variables whose names begin with a certain prefix configure the host, too. The
case of their names does not matter. The rest of a name is the way to a value:
its parts are set apart by two underscores or by a dot. A name with an empty
part says nothing.

The text of a variable is read as a value as far as that goes: a truth value, a
number, a text in quotes, a list in brackets, a table in braces. Every other
text is that text, and one that does not end where its value ends is a text as
a whole, with the blanks around it.

A name that is set twice keeps its place and takes its last text. Two names
that differ in case are two variables.

## Main definitions

* `valueOf`: The value of a text.
* `wayOf?`: The way that a name stands for.
* `assign`: What is set after a variable is set.
* `ofVariables`: What all variables say together.

## Theorems

* `assign_assign`: A variable has the text that it is given last.
-/

namespace CardHost

namespace Config

namespace Environment

open CardHost.Text Scan

/-- Pass over blanks. -/
def blanks : Scan Unit := do
  let _ ← takeWhile isAsciiBlank

/-- Read something with blanks around it. -/
def surrounded {α : Type} (item : Scan α) : Scan α := do
  blanks
  let a ← item
  blanks
  return a

/-- As much of the beginning of a text as takes so many bytes. -/
def fitting : Nat → List Char → List Char
  | _, [] => []
  | bytes, c :: rest =>
    if c.utf8Size ≤ bytes then c :: fitting (bytes - c.utf8Size) rest else []

/-- A text in quotes. What stands in front of the first escape sequence is
    counted in characters but kept in bytes, so a text beyond ASCII loses the
    end of it. -/
def quoted : Scan String := do
  char '"'
  let begin_ ← takeWhile fun c => isPlain c && c != '"' && c != '\\'
  let kept := if (← peek) = some '\\' then fitting begin_.length begin_ else begin_
  let chars ← repeated do
    match ← any with
    | '"' => return none
    | '\\' => some <$> escapeSequence
    | c =>
      guard (isPlain c)
      return some c
  return String.ofList (kept ++ chars)

/-- One character in single quotes. -/
def character : Scan Value := do
  char '\''
  let c ← any
  char '\''
  return .text (String.singleton c)

/-- A sign and what follows it. -/
def signed : List Char → Bool × List Char
  | '-' :: rest => (true, rest)
  | '+' :: rest => (false, rest)
  | text => (false, text)

/-- A whole number. One without a minus fits an unsigned word of 64 bits, one
    with a minus a signed word. -/
def whole? (text : List Char) : Option Value := do
  let (negative, rest) := signed text
  let magnitude ← Decimal.natural? rest
  if negative then
    guard (Int64.minValue.toInt ≤ -(magnitude : Int))
    return .integer (-(magnitude : Int))
  else
    guard (magnitude < UInt64.size)
    return .natural magnitude

/-- The digits before and after a point, one at least. -/
def mantissa : Scan (Nat × Nat) := do
  let before ← takeWhile Char.isDigit
  char '.'
  let behind ← takeWhile Char.isDigit
  return (← StateT.lift (Decimal.natural? (before ++ behind)), behind.length)

/-- An exponent of ten. -/
def exponent : Scan Int := do
  let _ ← satisfy fun c => c == 'e' || c == 'E'
  let sign ← optional (satisfy fun c => c == '+' || c == '-')
  let value : Int ← StateT.lift (Decimal.natural? (← takeWhile Char.isDigit))
  return if sign = some '-' then -value else value

/-- A number with a point, and perhaps an exponent. -/
def real? (text : List Char) : Option Value := do
  let (negative, rest) := signed text
  let ((digits, places), power) ← run? (do return (← mantissa, ← optional exponent)) rest
  return .real (Binary64.ofDecimal negative digits (power.getD 0 - places))

/-- What a bare text stands for. -/
def bare (text : List Char) : Value :=
  ((real? text).orElse fun _ => whole? text).getD (.text (String.ofList text))

/-- Whether a character may stand in a bare text. -/
def isBare (c : Char) : Bool := !(['\x7b', '\x7d', '[', ']', ','].contains c)

/-- Whether a character may stand in a key without quotes. -/
def isKeyChar (c : Char) : Bool := c.isAlphanum || c == '_' || c == '-'

/-- A key of a table. -/
def key : Scan String := quoted <|> (String.ofList <$> takeSome isKeyChar)

/-- Things between brackets of a kind, set apart by commas. -/
def bracketed {α : Type} (opening closing : Char) (item : Scan α) : Scan (List α) := do
  char opening
  let items ← repeated do
    if (← peek) = some closing then return none
    else
      let a ← item
      if (← peek) != some closing then char ','
      return some a
  char closing
  return items

/-- A truth value. Nothing is asked about what comes next. -/
def truth : Scan Value :=
  (do Scan.word "true"; return .truth true) <|> (do Scan.word "false"; return .truth false)

/-- A value, nested so deep at most. -/
def value : Nat → Scan Value
  | 0 => failure
  | depth + 1 => surrounded do
    match ← peek with
    | none => return .text ""
    | some '\x7b' =>
      let entries ← bracketed '\x7b' '\x7d' do
        let key ← surrounded key
        char '='
        return (key, ← value depth)
      return .table (entries.foldl (fun table entry => Value.insert entry.1 entry.2 table) [])
    | some '[' => return .list (← bracketed '[' ']' (value depth))
    | some '"' => return .text (← quoted)
    | some '\'' => character
    | some _ => truth <|> (do return bare (trim (← takeWhile isBare)))

/-- The value of a text. -/
def valueOf (text : String) : Value :=
  (run? (value (text.length + 1)) text.toList).getD (.text text)

/-- The parts of a name between two underscores or a dot. -/
def split : List Char → List (List Char)
  | [] => [[]]
  | '_' :: '_' :: rest | '.' :: rest => [] :: split rest
  | c :: rest =>
    match split rest with
    | first :: others => (c :: first) :: others
    | [] => [[c]]

/-- How the names of variables begin that configure the host. -/
def begin_ : String := "XFS_BRIDGE_"

/-- The way that a name stands for, if it configures the host. -/
def wayOf? (name : String) : Option (List String) :=
  let lower := (trim name.toList).map Char.toLower
  if (begin_.toList.map Char.toLower).isPrefixOf lower then
    let parts := split (trim (lower.drop begin_.length))
    if parts.any List.isEmpty then none else some (parts.map String.ofList)
  else none

/-- A value at the end of a way of tables. -/
def nest (value : Value) : List String → Value
  | [] => value
  | key :: way => .table [(key, nest value way)]

/-- What is set after a variable is set: it keeps the place that it has. -/
def assign (name text : String) : List (String × String) → List (String × String)
  | [] => [(name, text)]
  | entry :: rest =>
    if entry.1 = name then (name, text) :: rest else entry :: assign name text rest

/-- What all variables say together; of two that say the same thing, the later
    one counts. -/
def ofVariables (environment : List (String × String)) : Value :=
  (environment.foldl (fun set variable_ => assign variable_.1 variable_.2 set) []).foldl
    (fun table (name, text) =>
      match wayOf? name with
      | some way => table.overlay (nest (valueOf text) way)
      | none => table)
    (.table [])

theorem assign_assign (name old new : String) (set : List (String × String)) :
    assign name new (assign name old set) = assign name new set := by
  induction set with
  | nil => exact if_pos rfl
  | cons entry rest ih =>
      by_cases h : entry.1 = name
      · simp only [assign, if_pos h, ↓reduceIte]
      · simp only [assign, if_neg h, ih]

end Environment

end Config

end CardHost
