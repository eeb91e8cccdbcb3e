/-!
# Reading Text

Readers of characters. A reader takes what it understands from the front of a
text and leaves the rest, or fails and leaves everything. Two readers can be
tried one after the other with `<|>`.

Repetition is bounded by the length of the text that is left when it begins: a
reader that is repeated takes at least one character each time, or stops.

## Main definitions

* `Scan`: Readers.
* `Scan.satisfy`, `Scan.char`, `Scan.word`, `Scan.takeWhile`: Single pieces.
* `Scan.repeated`, `Scan.chained`: Pieces put together.
* `Scan.run?`: What a reader makes of a whole text.
-/

namespace CardHost

namespace Text

/-- A reader of characters. -/
abbrev Scan (α : Type) := StateT (List Char) Option α

namespace Scan

variable {α : Type}

/-- The next character, which is not taken. -/
def peek : Scan (Option Char) := fun text => some (text.head?, text)

/-- Take any character. -/
def any : Scan Char
  | [] => none
  | c :: rest => some (c, rest)

/-- Take a character of a kind. -/
def satisfy (p : Char → Bool) : Scan Char
  | [] => none
  | c :: rest => if p c then some (c, rest) else none

/-- Take one certain character. -/
def char (expected : Char) : Scan Unit := do
  let _ ← satisfy (· == expected)

/-- Take a certain word. -/
def word (expected : String) : Scan Unit := fun text =>
  if expected.toList.isPrefixOf text then some ((), text.drop expected.length) else none

/-- Take the characters of a kind that come next, if any. -/
def takeWhile (p : Char → Bool) : Scan (List Char) := fun text =>
  some (text.takeWhile p, text.dropWhile p)

/-- Take the characters of a kind that come next, one at least. -/
def takeSome (p : Char → Bool) : Scan (List Char) := do
  let first ← satisfy p
  let rest ← takeWhile p
  return first :: rest

/-- Nothing is left. -/
def finished : Scan Unit
  | [] => some ((), [])
  | _ :: _ => none

/-- Read things until there is none, so many at most. -/
def repeatedUpTo (item : Scan (Option α)) : Nat → Scan (List α)
  | 0 => failure
  | bound + 1 => do
    match ← item with
    | none => return []
    | some a => return a :: (← repeatedUpTo item bound)

/-- Read things until there is none. -/
def repeated (item : Scan (Option α)) : Scan (List α) := fun text =>
  repeatedUpTo item (text.length + 1) text

/-- Read things that tell whether another one follows, so many at most. -/
def chainedUpTo (item : Scan (α × Bool)) : Nat → Scan (List α)
  | 0 => failure
  | bound + 1 => do
    let (a, more) ← item
    if more then return a :: (← chainedUpTo item bound) else return [a]

/-- Read things that tell whether another one follows. -/
def chained (item : Scan (α × Bool)) : Scan (List α) := fun text =>
  chainedUpTo item (text.length + 1) text

/-- What a reader makes of a whole text. -/
def run? (item : Scan α) (text : List Char) : Option α :=
  match item text with
  | some (a, []) => some a
  | _ => none

theorem takeWhile_append (p : Char → Bool) (text : List Char) :
    ∃ taken rest, takeWhile p text = some (taken, rest) ∧ taken ++ rest = text :=
  ⟨_, _, rfl, List.takeWhile_append_dropWhile⟩

end Scan

end Text

end CardHost
