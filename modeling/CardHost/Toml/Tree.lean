import CardHost.Config.Value

/-!
# The Tables of a TOML File

A file adds to its tables step by step, and not every table may still be added
to. What decides is how a table came about: by its own header, as a step on the
way to another header, or by a key with dots. A key with dots may go on into
what such keys and ways to headers have made, but never into a table that has a
header of its own; what it ends up in must be a table of dotted keys. A header
may give a table to a step on the way to another one, once.

A list of tables grows with each of its headers, and whatever else is said
about it is about its last table.

## Main definitions

* `Node`: A value or a table that may still grow.
* `descend`: Change the table at the end of a way.
* `addEntry`, `addHeader`, `addListHeader`: What a file can say.
* `Node.value`: The value that has grown.
-/

namespace CardHost

namespace Toml

open Config (Value)

/-- How a table came about. -/
inductive Origin where
  /-- By a header of its own. -/
  | header
  /-- On the way to another header. -/
  | way
  /-- By a key with dots. -/
  | dotted
  deriving DecidableEq, Repr

/-- Something in a table of a file. -/
inductive Node where
  /-- A value, which is complete. -/
  | leaf (value : Value)
  | table (origin : Origin) (entries : List (String × Node))
  /-- Tables under one header, without the last one and the last one. -/
  | tables (earlier : List (List (String × Node))) (last : List (String × Node))

/-- The entries of a table. -/
abbrev Nodes := List (String × Node)

/-- The entry of a key. -/
def Nodes.find? (nodes : Nodes) (key : String) : Option Node :=
  (List.find? (·.1 == key) nodes).map Prod.snd

/-- Put an entry into a table, instead of one of the same key. -/
def Nodes.put (nodes : Nodes) (key : String) (node : Node) : Nodes :=
  List.filter (·.1 != key) nodes ++ [(key, node)]

/-- Change the table at the end of a way, making what is missing. The change is
    told how the table came about. -/
def descend (dotted : Bool) (change : Origin → Nodes → Option Nodes) :
    List String → Origin → Nodes → Option Nodes
  | [], origin, nodes => change origin nodes
  | key :: way, _, nodes =>
    let fresh := if dotted then Origin.dotted else .way
    match nodes.find? key with
    | none => do
      return nodes.put key (.table fresh (← descend dotted change way fresh []))
    | some (.leaf _) => none
    | some (.tables earlier last) => do
      return nodes.put key (.tables earlier (← descend dotted change way .header last))
    | some (.table origin inner) =>
      if dotted ∧ origin = .header then none
      else do return nodes.put key (.table origin (← descend dotted change way origin inner))

/-- Give a value to a key that has none. -/
def addLeaf (key : String) (value : Value) (nodes : Nodes) : Option Nodes :=
  match nodes.find? key with
  | none => some (nodes.put key (.leaf value))
  | some _ => none

/-- Give a value to a key behind a way of dots, within one table. -/
def addDotted (way : List String) (key : String) (value : Value) (nodes : Nodes) :
    Option Nodes :=
  if way.isEmpty then addLeaf key value nodes
  else
    descend true
      (fun origin nodes => if origin = .dotted then addLeaf key value nodes else none)
      way .header nodes

/-- Give a value to a key in the table of a header. -/
def addEntry (header way : List String) (key : String) (value : Value) (nodes : Nodes) :
    Option Nodes :=
  descend false (fun _ nodes => addDotted way key value nodes) header .header nodes

/-- Begin a table with a header of its own. -/
def addHeader (way : List String) (key : String) (nodes : Nodes) : Option Nodes :=
  descend false
    (fun _ nodes =>
      match nodes.find? key with
      | none => some (nodes.put key (.table .header []))
      | some (.table .way inner) => some (nodes.put key (.table .header inner))
      | some _ => none)
    way .header nodes

/-- Begin another table of a list. -/
def addListHeader (way : List String) (key : String) (nodes : Nodes) : Option Nodes :=
  descend false
    (fun _ nodes =>
      match nodes.find? key with
      | none => some (nodes.put key (.tables [] []))
      | some (.tables earlier last) => some (nodes.put key (.tables (earlier ++ [last]) []))
      | some _ => none)
    way .header nodes

mutual

/-- The value that has grown. -/
def Node.value : Node → Value
  | .leaf value => value
  | .table _ entries => .table (entriesOf entries)
  | .tables earlier last => .list (tablesOf earlier ++ [.table (entriesOf last)])

/-- The entries of a table that has grown. -/
def entriesOf : List (String × Node) → List (String × Value)
  | [] => []
  | (key, node) :: rest => Value.insert key node.value (entriesOf rest)

/-- The tables of a list that has grown. -/
def tablesOf : List (List (String × Node)) → List Value
  | [] => []
  | entries :: rest => .table (entriesOf entries) :: tablesOf rest

end

end Toml

end CardHost
