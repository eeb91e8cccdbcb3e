import CardHost.Decimal.Shortest
import CardHost.Text.Quoted
import CardHost.Text.Record

/-!
# Configuration Values

What a configuration says before anyone asks what it means: texts, numbers,
truth values, and lists and tables of such values. Files and the environment
are both read into this form, and one is laid over the other.

The entries of a table are in ascending order of their keys, each key once.
That order decides which of several mistakes is reported.

## Main definitions

* `Value`: The values.
* `Value.insert`, `Value.find?`: Entries of a table.
* `Value.overlay`: A value laid over another.
* `Value.describe`: A value in words.

## Theorems

* `find?_insert_self`, `find?_insert_of_ne`: What an entry changes.
-/

namespace CardHost

namespace Config

/-- A value of a configuration. -/
inductive Value where
  | text (value : String)
  | truth (value : Bool)
  /-- A whole number of either sign. -/
  | integer (value : Int)
  /-- A whole number that can have no sign. -/
  | natural (value : Nat)
  | real (value : Binary64)
  | list (items : List Value)
  /-- Entries in ascending order of their keys. -/
  | table (entries : List (String × Value))

namespace Value

/-- Put an entry in its place, instead of one of the same key. -/
def insert (key : String) (value : Value) : List (String × Value) → List (String × Value)
  | [] => [(key, value)]
  | entry :: rest =>
    if key = entry.1 then (key, value) :: rest
    else if key < entry.1 then (key, value) :: entry :: rest
    else entry :: insert key value rest

/-- The value of a key. -/
def find? (key : String) : List (String × Value) → Option Value
  | [] => none
  | entry :: rest => if entry.1 = key then some entry.2 else find? key rest

mutual

/-- A value laid over another. Tables are laid over each other entry by entry,
    everything else takes the place of what was there. -/
def overlay : Value → Value → Value
  | .table lower, .table upper => .table (overlayEntries lower upper)
  | _, upper => upper

/-- Entries laid over others. -/
def overlayEntries : List (String × Value) → List (String × Value) → List (String × Value)
  | [], upper => upper
  | (key, value) :: rest, upper =>
    let value :=
      match find? key upper with
      | some new => overlay value new
      | none => value
    insert key value (overlayEntries rest upper)

end

/-- A value in words, as far as messages go into it. -/
def describe : Value → String
  | .text value => "string " ++ Text.quote value
  | .truth value => "bool " ++ Text.truth value
  | .integer value => "signed int \x60" ++ Int.repr value ++ "\x60"
  | .natural value => "unsigned int \x60" ++ Nat.repr value ++ "\x60"
  | .real value => "float \x60" ++ value.render ++ "\x60"
  | .list _ => "sequence"
  | .table _ => "map"

theorem find?_insert_self (key : String) (value : Value) (entries : List (String × Value)) :
    find? key (insert key value entries) = some value := by
  induction entries with
  | nil => exact if_pos rfl
  | cons entry rest ih =>
      unfold insert
      split
      · exact if_pos rfl
      · next hne =>
          split
          · exact if_pos rfl
          · rw [find?, if_neg (fun h => hne h.symm), ih]

theorem find?_insert_of_ne (key other : String) (value : Value) (entries : List (String × Value))
    (h : other ≠ key) : find? other (insert key value entries) = find? other entries := by
  induction entries with
  | nil => exact if_neg (fun hk => h hk.symm)
  | cons entry rest ih =>
      unfold insert
      split
      · next heq =>
          rw [find?, if_neg (fun hk => h hk.symm), find?, if_neg (fun hk => h (heq ▸ hk.symm))]
      · split
        · rw [find?, if_neg (fun hk => h hk.symm)]
        · rw [find?, ih, ← find?]

end Value

end Config

end CardHost
