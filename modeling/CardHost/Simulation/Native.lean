import CardHost.Pcsc.Manager
import CardHost.Simulation.Hall

/-!
# The Hall Behind the Functions of a Resource Manager

A hall of simulated readers that is reached through the functions of a PC/SC
resource manager. Contexts and cards are handed out under handles that count
from one. A card handle stays good until it is disconnected, whatever becomes
of the card; every function on it looks whether the reader and the card are
still there.

## Main definitions

* `ManagedHall`: A hall with the handles that were given out.
* `ManagedHall.native`: The functions.
* `CardRack`: A manager with cards kept in numbered slots.
-/

namespace CardHost

namespace Simulation

open Pcsc (Code Handle Native NativeNote)

/-- A card handle that was given out. -/
structure OpenCard where
  handle : Handle
  reader : String
  /-- Number of the card. -/
  card : Nat
  deriving DecidableEq, Repr

/-- A hall with the handles that were given out. -/
structure ManagedHall where
  hall : Hall
  /-- Contexts given out so far. -/
  contexts : Nat := 0
  /-- Card handles given out so far. -/
  handles : Nat := 0
  /-- The handles that are good. -/
  open_ : List OpenCard := []
  deriving DecidableEq, Repr

namespace ManagedHall

/-- Let something happen in the hall. -/
def happen (m : ManagedHall) (h : Happening) : ManagedHall := { m with hall := m.hall.happen h }

/-- Call a function that may be scripted to fail. -/
def attempt {α : Type} (call : CallKind) (go : ManagedHall → Except Code α × ManagedHall)
    (m : ManagedHall) : Except Code α × ManagedHall :=
  match m.hall.takeFailure call with
  | (some e, hall) => (.error (Code.ofError e), { m with hall })
  | (none, hall) => go { m with hall }

/-- Call a function on a card. -/
def onCard {α : Type} (call : CallKind) (handle : Handle)
    (go : Card → ManagedHall → Except Code α × ManagedHall) :
    ManagedHall → Except Code α × ManagedHall :=
  attempt call fun m =>
    match m.open_.find? (·.handle == handle) with
    | none => (.error (Code.ofError .invalidHandle), m)
    | some opened =>
      match m.hall.card? opened.reader opened.card with
      | .error e => (.error (Code.ofError e), m)
      | .ok card => go card m

/-- The entry of a wait as the hall knows it. -/
def snapshotOf (entry : Pcsc.NativeEntry) : Snapshot :=
  Snapshot.ofBaseline entry.name entry.current

/-- The reports of a wait, `none` while it goes on. -/
def statusChange (expired : Bool) (entries : List Pcsc.NativeEntry) (m : ManagedHall) :
    Option (Except Code (List (ReaderFlags × Bytes)) × ManagedHall) :=
  match m.hall.takeFailure .wait with
  | (some e, hall) => some (.error (Code.ofError e), { m with hall })
  | (none, hall) =>
    let entries := entries.map snapshotOf
    (hall.waitOutcome expired entries).map fun (outcome, hall) =>
      let answer :=
        match outcome with
        | .changed => .ok (entries.map hall.report)
        | .timedOut => .error (Code.ofError .timeout)
        | .cancelled => .error (Code.ofError .cancelled)
      (answer, { m with hall })

/-- Connect to the card in a reader. -/
def connect (reader : String) (m : ManagedHall) :
    Except Code (Handle × Option Protocol) × ManagedHall :=
  match m.hall.cardIn reader with
  | .error e => (.error (Code.ofError e), m)
  | .ok card =>
    let handle := m.handles + 1
    (.ok (handle, card.protocol),
     { m with handles := handle, open_ := m.open_ ++ [⟨handle, reader, card.number⟩] })

/-- Exchange a command; an answer that does not fit is lost. -/
def transmit (room : Nat) (m : ManagedHall) : Except Code Bytes × ManagedHall :=
  let (data, hall) := m.hall.takeResponse
  if data.length ≤ room then (.ok data, { m with hall })
  else (.error Code.insufficientBuffer, { m with hall })

/-- The functions of a resource manager, answered by a hall. -/
def native : Native ManagedHall where
  establish :=
    attempt .establish fun m =>
      (.ok (m.contexts + 1), { m with contexts := m.contexts + 1 })
  releaseContext _ m := m
  listReaders _ :=
    attempt .list fun m =>
      (if m.hall.names.isEmpty then .error (Code.ofError .noReadersAvailable)
       else .ok m.hall.names, m)
  statusChange _ expired entries m := statusChange expired entries m
  cancel _ waiting :=
    attempt .cancel fun m => (.ok (), { m with hall := m.hall.cancelWait waiting })
  connect _ reader _ := attempt .connect (connect reader)
  status handle :=
    onCard .status handle fun card m => (.ok ⟨card.state, card.protocol, card.atr⟩, m)
  transmit handle _ _ room := onCard .transmit handle fun _ m => transmit room m
  reconnect handle _ _ := onCard .reconnect handle fun card m => (.ok card.protocol, m)
  disconnect handle _ :=
    attempt .disconnect fun m =>
      (.ok (), { m with open_ := m.open_.filter (·.handle != handle) })

end ManagedHall

/-- A manager with cards kept in numbered slots. -/
structure CardRack where
  manager : Pcsc.Manager
  cards : List (Nat × Pcsc.Card)
  hall : ManagedHall
  /-- What was called since the rack was last emptied of notes. -/
  notes : List NativeNote := []

namespace CardRack

open ManagedHall (native)

/-- Take in the reply to a call. -/
def take {α : Type} (r : CardRack) (reply : Reply ManagedHall NativeNote α) : α × CardRack :=
  (reply.value, { r with hall := reply.state, notes := r.notes ++ reply.notes })

/-- The card in a slot. -/
def card? (r : CardRack) (slot : Nat) : Option Pcsc.Card :=
  (r.cards.find? (·.1 == slot)).map Prod.snd

/-- Give up the card in a slot. The flag tells whether there was one. -/
def drop (r : CardRack) (slot : Nat) : Bool × CardRack :=
  match r.card? slot with
  | none => (false, r)
  | some card =>
    let ((), r) := r.take (card.release native r.hall)
    (true, { r with cards := r.cards.filter (·.1 != slot) })

/-- Put a card into a slot, at its place in the order. -/
def insertSlot (slot : Nat) (card : Pcsc.Card) : List (Nat × Pcsc.Card) → List (Nat × Pcsc.Card)
  | [] => [(slot, card)]
  | other :: rest =>
    if slot < other.1 then (slot, card) :: other :: rest
    else other :: insertSlot slot card rest

/-- Put a card into a slot, in the place of one that is already there. -/
def put (r : CardRack) (slot : Nat) (card : Pcsc.Card) : CardRack :=
  { r with cards := insertSlot slot card (r.cards.filter (·.1 != slot)) }

/-- Connect to the card in a reader and keep it in a slot. A card that is
    already there is given up afterwards. -/
def connect (r : CardRack) (slot : Nat) (reader : String) (mode : ShareMode) :
    Except CardError Pcsc.Card × CardRack :=
  match r.take (r.manager.connect native reader mode r.hall) with
  | (.error e, r) => (.error e, r)
  | (.ok card, r) => (.ok card, (r.drop slot).2.put slot card)

/-- Use the card in a slot, if there is one. -/
def use {α : Type} (r : CardRack) (slot : Nat)
    (f : Pcsc.Card → ManagedHall → Reply ManagedHall NativeNote (Except CardError α × Pcsc.Card)) :
    Option (Except CardError α) × CardRack :=
  match r.card? slot with
  | none => (none, r)
  | some card =>
    let ((answer, card), r) := r.take (f card r.hall)
    (some answer, r.put slot card)

/-- List the readers. -/
def list (r : CardRack) : Except CardError (List String) × CardRack :=
  r.take (r.manager.list native r.hall)

/-- Wait without blocking: the time allowed counts as over at once. -/
def wait (r : CardRack) (timeout : Option Duration) (entries : List Snapshot) :
    Except CardError WaitOutcome × CardRack :=
  match r.manager.wait native ⟨timeout, 0, 0, entries⟩ r.hall with
  | some reply => r.take reply
  | none => (.ok .timedOut, r)

/-- Call off a wait. -/
def cancel (r : CardRack) : Except CardError Unit × CardRack :=
  r.take (r.manager.cancel native false r.hall)

/-- Give up every card, in the order of slots, and then the manager. -/
def close (r : CardRack) : CardRack :=
  let r := r.cards.foldl (fun r entry => (r.drop entry.1).2) r
  (r.take (r.manager.close native r.hall)).2

/-- What was called since the last time, and a rack without notes. -/
def drain (r : CardRack) : List NativeNote × CardRack := (r.notes, { r with notes := [] })

end CardRack

end Simulation

end CardHost
