import CardHost.Card
import CardHost.CardError
import CardHost.Reader.Snapshot

/-!
# A Hall of Simulated Readers

Readers and cards for trying the host out without any. The hall holds readers
in the order in which they were attached, each with at most one card. Whatever
a real reader would do of its own accord is a `Happening`: readers and cards
come and go, calls fail, waits return.

Every card that is inserted gets a number of its own, so a connection can tell
whether the card it was made for is still there. A reader counts the cards
that come and go, and the hall counts the readers.

## Main definitions

* `Hall`: The readers, and what is scripted to happen to calls.
* `Happening`: What can happen in a hall.
* `Hall.flags`, `Hall.differs`, `Hall.report`: What a wait finds.
* `Hall.waitOutcome`: How a wait returns, if it does.
-/

namespace CardHost

namespace Simulation

/-- The calls that can be made to fail. -/
inductive CallKind where
  | establish
  | list
  | wait
  | cancel
  | connect
  | status
  | transmit
  | lock
  | unlock
  | reconnect
  | disconnect
  deriving DecidableEq, Repr, Inhabited

/-- The name of a call. -/
def CallKind.name : CallKind → String
  | establish => "establish"
  | list => "list"
  | wait => "wait"
  | cancel => "cancel"
  | connect => "connect"
  | status => "status"
  | transmit => "transmit"
  | lock => "lock"
  | unlock => "unlock"
  | reconnect => "reconnect"
  | disconnect => "disconnect"

instance : Named CallKind :=
  ⟨[.establish, .list, .wait, .cancel, .connect, .status, .transmit, .lock, .unlock, .reconnect,
    .disconnect], CallKind.name⟩

/-- A card. -/
structure Card where
  /-- Number of the card, unlike that of any other. -/
  number : Nat
  atr : Bytes
  protocol : Option Protocol
  state : CardState
  deriving DecidableEq, Repr

/-- A reader. -/
structure Reader where
  name : String
  card : Option Card
  /-- Further state bits. -/
  extra : ReaderFlags
  /-- Cards that came and went. -/
  count : BitVec 16
  deriving DecidableEq, Repr

/-- A scripted outcome of a wait. -/
inductive ForcedWait where
  | changed
  | timedOut
  | cancelled
  deriving DecidableEq, Repr, Inhabited

/-- The name of an outcome. -/
def ForcedWait.name : ForcedWait → String
  | changed => "Changed"
  | timedOut => "TimedOut"
  | cancelled => "Cancelled"

instance : Named ForcedWait := ⟨[.changed, .timedOut, .cancelled], ForcedWait.name⟩

/-- Readers, and what is scripted to happen to calls. -/
structure Hall where
  /-- The readers, in the order they were attached. -/
  readers : List Reader := []
  /-- Readers that came and went, and attempts at it. -/
  count : BitVec 16 := 0#16
  /-- Cards inserted so far. -/
  cards : Nat := 0
  /-- A wait was called off. -/
  cancelled : Bool := false
  /-- Failures to come, oldest first. -/
  failures : List (CallKind × CardError) := []
  /-- Answers of cards to come. -/
  responses : List Bytes := []
  /-- Outcomes of waits to come. -/
  outcomes : List ForcedWait := []
  /-- Calling off is lost unless a wait is under way. -/
  lossy : Bool := false
  deriving DecidableEq, Repr

/-- What can happen in a hall. -/
inductive Happening where
  | addReader (name : String) (silent : Bool)
  | removeReader (name : String) (silent : Bool)
  | insert (name : String) (atr : Bytes) (protocol : Option Protocol) (state : CardState)
  | remove (name : String)
  | flags (name : String) (extra : ReaderFlags) (count : Option (BitVec 16))
  | fail (call : CallKind) (error : CardError)
  | respond (data : Bytes)
  | waitResult (outcome : ForcedWait)
  | lossy (on : Bool)
  deriving DecidableEq, Repr

namespace Hall

/-- The reader of a name. -/
def reader? (hall : Hall) (name : String) : Option Reader := hall.readers.find? (·.name == name)

/-- The names of the readers, in their order. -/
def names (hall : Hall) : List String := hall.readers.map Reader.name

/-- Change the reader of a name. -/
def modify (hall : Hall) (name : String) (change : Reader → Reader) : Hall :=
  { hall with readers := hall.readers.map fun r => if r.name = name then change r else r }

/-- Count an attempt to attach or detach a reader, unless it is to stay
    unnoticed. It counts even if there was nothing to attach or detach. -/
def countList (hall : Hall) (silent : Bool) : Hall :=
  if silent then hall else { hall with count := hall.count + 1#16 }

/-- Let something happen. -/
def happen (hall : Hall) : Happening → Hall
  | .addReader name silent =>
    let hall :=
      if (hall.reader? name).isSome then hall
      else
        let reader : Reader := { name, card := none, extra := 0#32, count := 0#16 }
        { hall with readers := hall.readers ++ [reader] }
    hall.countList silent
  | .removeReader name silent =>
    countList { hall with readers := hall.readers.filter (·.name != name) } silent
  | .insert name atr protocol state =>
    let number := hall.cards + 1
    { hall with cards := number }.modify name fun r =>
      { r with card := some { number, atr, protocol, state }, count := r.count + 1#16 }
  | .remove name => hall.modify name fun r => { r with card := none, count := r.count + 1#16 }
  | .flags name extra count =>
    hall.modify name fun r => { r with extra, count := count.getD r.count }
  | .fail call error => { hall with failures := hall.failures ++ [(call, error)] }
  | .respond data => { hall with responses := hall.responses ++ [data] }
  | .waitResult outcome => { hall with outcomes := hall.outcomes ++ [outcome] }
  | .lossy on => { hall with lossy := on }

/-- The flags under a name: those of the reader, of the list of readers, or of
    a reader that does not exist. -/
def flags (hall : Hall) (name : String) : ReaderFlags :=
  if name = Snapshot.listName then ReaderFlags.ofCount hall.count
  else
    match hall.reader? name with
    | none => ReaderFlags.unknown
    | some r =>
      (if r.card.isSome then ReaderFlags.present else ReaderFlags.empty) ||| r.extra |||
        ReaderFlags.ofCount r.count

/-- The answer to reset of the card under a name. -/
def atr (hall : Hall) (name : String) : Bytes :=
  match (hall.reader? name).bind Reader.card with
  | some card => card.atr
  | none => []

/-- Whether an entry differs from its baseline. -/
def differs (hall : Hall) (s : Snapshot) : Bool :=
  hall.flags s.name != Bits.without s.current ReaderFlags.changed

/-- What a wait reports about an entry. -/
def report (hall : Hall) (s : Snapshot) : ReaderFlags × Bytes :=
  let flags := hall.flags s.name
  (if hall.differs s then flags ||| ReaderFlags.changed else flags, hall.atr s.name)

/-- The card that a connection was made for, if it is still there. -/
def card? (hall : Hall) (reader : String) (number : Nat) : Except CardError Card :=
  match hall.reader? reader with
  | none => .error .readerUnavailable
  | some r =>
    match r.card with
    | some card => if card.number = number then .ok card else .error .removedCard
    | none => .error .removedCard

/-- The card in a reader, to be connected to. -/
def cardIn (hall : Hall) (reader : String) : Except CardError Card :=
  match hall.reader? reader with
  | none => .error .unknownReader
  | some r =>
    match r.card with
    | some card => .ok card
    | none => .error .noSmartcard

/-- Take the failure that is scripted for a call, if there is one. -/
def takeFailure (hall : Hall) (call : CallKind) : Option CardError × Hall :=
  match hall.failures.find? (·.1 == call) with
  | none => (none, hall)
  | some failure => (some failure.2, { hall with failures := hall.failures.erase failure })

/-- Make a call that may be scripted to fail. -/
def attempt {α : Type} (call : CallKind) (go : Hall → Except CardError α × Hall) (hall : Hall) :
    Except CardError α × Hall :=
  match hall.takeFailure call with
  | (some e, hall) => (.error e, hall)
  | (none, hall) => go hall

/-- How a wait returns that is under way, `none` while it goes on. A scripted
    outcome comes first, then a wait that was called off, then a difference,
    and last the end of the time allowed. -/
def waitOutcome (expired : Bool) (entries : List Snapshot) (hall : Hall) :
    Option (ForcedWait × Hall) :=
  match hall.outcomes with
  | outcome :: outcomes => some (outcome, { hall with outcomes })
  | [] =>
    if hall.cancelled then some (.cancelled, { hall with cancelled := false })
    else if entries.any hall.differs then some (.changed, hall)
    else if expired then some (.timedOut, hall)
    else none

/-- Call off a wait. -/
def cancelWait (waiting : Bool) (hall : Hall) : Hall :=
  if hall.lossy && !waiting then hall else { hall with cancelled := true }

/-- The answer of a card to a command. -/
def takeResponse (hall : Hall) : Bytes × Hall :=
  match hall.responses with
  | data :: responses => (data, { hall with responses })
  | [] => ([0x90, 0x00], hall)

end Hall

end Simulation

end CardHost
