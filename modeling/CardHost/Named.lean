/-!
# Named Values

Types with finitely many values that each have a name. The names are how the
values are written, in messages to people as well as in scripts.

## Main definitions

* `Named`: The values of a type and their names.
* `Named.ofName?`: The value of a name.
-/

namespace CardHost

/-- A type whose values have names. -/
class Named (α : Type) where
  /-- The values that have a name. -/
  all : List α
  /-- The name of a value. -/
  name : α → String

/-- The value of a name. -/
def Named.ofName? {α : Type} [Named α] (name : String) : Option α :=
  Named.all.find? fun a : α => Named.name a == name

end CardHost
