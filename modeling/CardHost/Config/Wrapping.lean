import CardHost.Config.Value

/-!
# Wrapped Values

A table in a file may be a wrapping: it stands for the value that it has under
a reserved key, whatever else is in it. Under another reserved key a table has
the number of the source that its value came from. That number is looked at,
since something else in its place spoils the file, but says nothing about the
value.

Wrappings may be wrapped, and may be in lists and tables. The table that the
whole file makes up is none.

## Main definitions

* `Value.unwrap?`: A value without its wrappings.
* `unwrapFile?`: What a file says without its wrappings.

## Theorems

* `unwrap?_wrapping`: A wrapping stands for what is in it.
-/

namespace CardHost

namespace Config

/-- The key of what is wrapped. -/
def contentKey : String := "___figment_value_value"

/-- The key of the number of a source. -/
def sourceKey : String := "___figment_value_id"

/-- Whether a value can be the number of a source. -/
def isSource : Value → Bool
  | .integer number => 0 ≤ number
  | .natural _ => true
  | _ => false

mutual

/-- A value without its wrappings; `none` if the number of a source is none. -/
def Value.unwrap? : Value → Option Value
  | .table entries => do
    let entries ← unwrapEntries? entries
    return (Value.find? contentKey entries).getD (.table entries)
  | .list items => do return .list (← unwrapItems? items)
  | value => some value

/-- The entries of a table without their wrappings and without the number of a
    source. -/
def unwrapEntries? : List (String × Value) → Option (List (String × Value))
  | [] => some []
  | (key, value) :: rest =>
    if key = sourceKey then if isSource value then unwrapEntries? rest else none
    else do return (key, ← value.unwrap?) :: (← unwrapEntries? rest)

/-- The items of a list without their wrappings. -/
def unwrapItems? : List Value → Option (List Value)
  | [] => some []
  | item :: rest => do return (← item.unwrap?) :: (← unwrapItems? rest)

end

/-- What a file says without its wrappings. -/
def unwrapFile? (entries : List (String × Value)) : Option (List (String × Value)) :=
  entries.mapM fun entry => do return (entry.1, ← entry.2.unwrap?)

theorem unwrap?_wrapping (value : Value) :
    (Value.table [(contentKey, value)]).unwrap? = value.unwrap? := by
  have hne : contentKey ≠ sourceKey := by decide
  cases h : value.unwrap? <;>
    simp only [Value.unwrap?, unwrapEntries?, if_neg hne, h, Option.bind_eq_bind, Option.bind_some,
      Option.bind_none, Option.pure_def, Value.find?, ↓reduceIte, Option.getD_some]

end Config

end CardHost
