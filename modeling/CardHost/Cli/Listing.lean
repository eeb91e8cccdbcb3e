import CardHost.Pcsc.Manager

/-!
# The List of Readers

The readers with what is in them, as a numbered list. A wait that allows no
time tells the present state of every reader, because each entry starts without
knowing any state. If that tells nothing, every reader counts as empty.

## Main definitions

* `listing`: The list.
-/

namespace CardHost

namespace Cli

/-- One line of the list. -/
def listingLine (number : Nat) (state : Snapshot) : String :=
  Nat.repr number ++ ". " ++ state.name ++
    (if state.present then " (card present)" else " (no card)")

/-- The lines for readers in known states. -/
def listingLines (states : List Snapshot) : List String :=
  "Available readers:" :: states.mapIdx fun i state => listingLine (i + 1) state

/-- The states of readers, as a wait without time finds them. -/
def presentStates {ν : Type} (native : Pcsc.Native ν) (manager : Pcsc.Manager)
    (names : List String) (s : ν) : Except CardError (List Snapshot) :=
  let entries := names.map Snapshot.unaware
  match manager.wait native ⟨some 0, 0, 0, entries⟩ s with
  | none => .ok entries
  | some reply =>
    reply.value.map fun
      | .changed reports => Snapshot.recordAll entries reports
      | .timedOut | .cancelled => entries

/-- The list of readers. -/
def listing {ν : Type} (native : Pcsc.Native ν) (manager : Pcsc.Manager) (s : ν) :
    Except CardError (List String) := do
  let listed := manager.list native s
  let names ← listed.value
  if names.isEmpty then return ["No readers found!"]
  else return listingLines (← presentStates native manager names listed.state)

end Cli

end CardHost
