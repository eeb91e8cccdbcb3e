import CardHost.Backend
import CardHost.Simulation.Hall

/-!
# The Hall as a Backend

The calls of a backend, answered by a hall of simulated readers. Each call
leaves one note with its arguments and its answer. A connection is the name of
the reader and the number of the card it was made for.

## Main definitions

* `Note`: What was called, and how it went.
* `Connection`: A connection to a simulated card.
* `backend`: The calls.
-/

namespace CardHost

namespace Simulation

/-- How a wait went, as noted. -/
structure WaitNote where
  outcome : ForcedWait
  /-- The entries after the wait. -/
  entries : List Snapshot
  deriving DecidableEq, Repr

/-- A call that returned. -/
inductive Note where
  | list (answer : Except CardError (List String))
  | wait (timeout : Option Duration) (answer : Except CardError WaitNote)
  | cancel (answer : Except CardError Unit)
  | connect (reader : String) (mode : ShareMode) (answer : Except CardError Unit)
  | status (answer : Except CardError Unit)
  | transmit (data : Bytes) (answer : Except CardError Unit)
  | lock (answer : Except CardError Unit)
  | unlock (answer : Except CardError Unit)
  | reconnect (disposition : Disposition) (answer : Except CardError Unit)
  | release (reader : String)

/-- A connection to a simulated card. -/
structure Connection where
  reader : String
  /-- Number of the card. -/
  card : Nat
  deriving DecidableEq, Repr

/-- The answer without its value. -/
def plain {α : Type} (answer : Except CardError α) : Except CardError Unit :=
  answer.map fun _ => ()

/-- A reply with one note about it. -/
def noted {α : Type} (note : Except CardError α → Note) (made : Except CardError α × Hall) :
    Reply Hall Note (Except CardError α) :=
  ⟨made.1, made.2, [note made.1]⟩

/-- A call to the card of a connection. -/
def cardCall {α : Type} (kind : CallKind) (note : Except CardError Unit → Note)
    (answer : Card → Hall → α × Hall) (c : Connection) (hall : Hall) :
    Reply Hall Note (Except CardError α × Connection) :=
  let (answer, hall) := hall.attempt kind fun hall =>
    match hall.card? c.reader c.card with
    | .error e => (.error e, hall)
    | .ok card =>
      let (a, hall) := answer card hall
      (.ok a, hall)
  ⟨(answer, c), hall, [note (plain answer)]⟩

/-- The outcome of a wait in the terms of a backend. -/
def outcomeOf (hall : Hall) (entries : List Snapshot) : ForcedWait → WaitOutcome
  | .changed => .changed (entries.map hall.report)
  | .timedOut => .timedOut
  | .cancelled => .cancelled

/-- The entries after a wait. -/
def entriesAfter (hall : Hall) (entries : List Snapshot) : ForcedWait → List Snapshot
  | .changed => entries.map fun s => s.record (hall.report s).1 (hall.report s).2
  | .timedOut | .cancelled => entries

/-- A wait, `none` while it goes on. -/
def wait (poll : Poll) (hall : Hall) :
    Option (Reply Hall Note (Except CardError WaitOutcome)) :=
  match hall.takeFailure .wait with
  | (some e, hall) => some ⟨.error e, hall, [.wait poll.timeout (.error e)]⟩
  | (none, hall) =>
    (hall.waitOutcome (poll.ends ≤ poll.now) poll.entries).map fun (outcome, hall) =>
      ⟨.ok (outcomeOf hall poll.entries outcome), hall,
       [.wait poll.timeout (.ok ⟨outcome, entriesAfter hall poll.entries outcome⟩)]⟩

/-- The calls of a backend, answered by a hall. -/
def backend : Backend Hall Connection Note where
  list hall := noted .list (hall.attempt .list fun hall => (.ok hall.names, hall))
  wait := wait
  cancel waiting hall :=
    noted .cancel (hall.attempt .cancel fun hall => (.ok (), hall.cancelWait waiting))
  connect reader mode hall :=
    noted (fun answer => .connect reader mode (plain answer))
      (hall.attempt .connect fun hall =>
        ((hall.cardIn reader).map fun card => ⟨reader, card.number⟩, hall))
  status :=
    cardCall .status .status fun card hall => (⟨card.state, card.protocol, card.atr⟩, hall)
  transmit data := cardCall .transmit (.transmit data) fun _ hall => hall.takeResponse
  lock := cardCall .lock .lock fun _ hall => ((), hall)
  unlock := cardCall .unlock .unlock fun _ hall => ((), hall)
  reconnect disposition :=
    cardCall .reconnect (.reconnect disposition) fun _ hall => ((), hall)
  release c hall := ⟨(), hall, [.release c.reader]⟩

end Simulation

end CardHost
