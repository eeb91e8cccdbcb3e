/-!
# Records in Words

How a value with named parts is shown in one line: its name, and its parts in
braces.

## Main definitions

* `record`: A name with its parts.
* `truth`: A truth value in words.
-/

namespace CardHost

namespace Text

/-- A truth value in words. -/
def truth (value : Bool) : String := if value then "true" else "false"

/-- A name with its parts, each a name and what it is. -/
def record (name : String) (parts : List (String × String)) : String :=
  name ++ " \x7b " ++ String.intercalate ", " (parts.map fun part => part.1 ++ ": " ++ part.2) ++
    " \x7d"

end Text

end CardHost
