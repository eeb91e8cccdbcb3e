import CardHost.Pcsc.Card

/-!
# The Resource Manager as a Backend

Two contexts are established with the resource manager: one for cards, and one
for the watch over the readers, so that a wait never holds up a card.

A wait is given the state that it last reported, less the bit that says that
the state had changed. The counter goes back and forth with the state, so a
card that was replaced between two waits is reported even though the state
bits are the same.

Names travel as texts that end with a zero byte. A name that holds one cannot
be passed, and counts as unknown without anyone being asked. A listing ends
with an empty name, so a reader without a name hides all readers behind it.

## Main definitions

* `Manager`: The two contexts.
* `Manager.establish`, `Manager.close`: The life of a manager.
* `Manager.listed`: The names in a listing.
* `Manager.list`, `Manager.wait`, `Manager.cancel`, `Manager.connect`: The calls
  about readers.
* `Manager.backend`: All calls as a backend.
* `Manager.Connected`: How an attempt to connect can go.

## Theorems

* `connect_connected`: It goes like that.
-/

namespace CardHost

namespace Pcsc

/-- A connection to the resource manager. -/
structure Manager where
  /-- Context of cards. -/
  context : Handle
  /-- Context of the watch over the readers. -/
  monitor : Handle
  deriving DecidableEq, Repr

namespace Manager

variable {ν : Type}

/-- A manager in words. -/
def describe (_ : Manager) : String := "PcscResourceManager \x7b .. \x7d"

/-- Release a context. -/
def release (native : Native ν) (context : Handle) (s : ν) : Reply ν NativeNote Unit :=
  ⟨(), native.releaseContext context s, [.releaseContext context]⟩

/-- Establish both contexts, or none. -/
def establish (native : Native ν) (s : ν) : Reply ν NativeNote (Except CardError Manager) :=
  let first := noted .establish (native.establish s)
  match caused first.value with
  | .error e => ⟨.error e, first.state, first.notes⟩
  | .ok context =>
    let second := noted .establish (native.establish first.state)
    match caused second.value with
    | .ok monitor => ⟨.ok ⟨context, monitor⟩, second.state, first.notes ++ second.notes⟩
    | .error e =>
      let gone := release native context second.state
      ⟨.error e, gone.state, first.notes ++ second.notes ++ gone.notes⟩

/-- Release both contexts. -/
def close (native : Native ν) (m : Manager) (s : ν) : Reply ν NativeNote Unit :=
  let first := release native m.context s
  let second := release native m.monitor first.state
  ⟨(), second.state, first.notes ++ second.notes⟩

/-- Whether a name can be passed to the resource manager. -/
def isPassable (name : String) : Bool := !name.toList.contains '\x00'

/-- The names that a listing of names is read as: it ends before the first one
    that is empty, and a zero byte within a name ends that name. -/
def listed (names : List String) : List String :=
  (names.flatMap fun name => (name.toList.splitOn '\x00').map String.ofList).takeWhile fun name =>
    !name.isEmpty

/-- The names of the readers. That there are none is no failure. -/
def list (native : Native ν) (m : Manager) (s : ν) :
    Reply ν NativeNote (Except CardError (List String)) :=
  let made := native.listReaders m.monitor s
  let answer :=
    match caused made.1 with
    | .ok names => .ok (listed names)
    | .error .noReadersAvailable => .ok []
    | .error e => .error e
  ⟨answer, made.2, [.list m.monitor made.1]⟩

/-- The state to wait with: the baseline, less the bit for a change. -/
def entryOf (s : Snapshot) : NativeEntry :=
  ⟨s.name, Bits.without s.current ReaderFlags.changed⟩

/-- The state bits that a report can have. -/
def reportable : ReaderFlags := 0x7FF#32

/-- What a report says: known state bits, and the counter. -/
def flagsOf (event : ReaderFlags) : ReaderFlags :=
  (event &&& reportable) ||| ReaderFlags.ofCount event.count

/-- The outcome of a wait. -/
def outcomeOf (answer : Except CardError (List (ReaderFlags × Bytes))) :
    Except CardError WaitOutcome :=
  match answer with
  | .ok reports => .ok (.changed (reports.map fun report => (flagsOf report.1, report.2)))
  | .error .timeout => .ok .timedOut
  | .error .cancelled => .ok .cancelled
  | .error e => .error e

/-- A wait, `none` while it goes on. -/
def wait (native : Native ν) (m : Manager) (poll : Poll) (s : ν) :
    Option (Reply ν NativeNote (Except CardError WaitOutcome)) :=
  if poll.entries.all fun entry => isPassable entry.name then
    let entries := poll.entries.map entryOf
    (native.statusChange m.monitor (poll.ends ≤ poll.now) entries s).map fun (answer, s) =>
      ⟨outcomeOf (caused answer), s,
       [.wait m.monitor (timeoutNumber poll.timeout) entries
          (answer.map fun reports => reports.map Prod.fst)]⟩
  else some ⟨.error .unknownReader, s, []⟩

/-- Call off a wait. -/
def cancel (native : Native ν) (m : Manager) (waiting : Bool) (s : ν) :
    Reply ν NativeNote (Except CardError Unit) :=
  let reply := noted (.cancel m.monitor) (native.cancel m.monitor waiting s)
  ⟨caused reply.value, reply.state, reply.notes⟩

/-- Connect to the card in a reader. -/
def connect (native : Native ν) (m : Manager) (reader : String) (mode : ShareMode) (s : ν) :
    Reply ν NativeNote (Except CardError Card) :=
  if isPassable reader then
    let reply := noted (.connect m.context reader mode) (native.connect m.context reader mode s)
    let answer := (caused reply.value).map fun (handle, protocol) =>
      { handle := some handle, protocol, reader, mode : Card }
    ⟨answer, reply.state, reply.notes⟩
  else ⟨.error .unknownReader, s, []⟩

/-- How an attempt to connect can go. -/
inductive Connected (native : Native ν) (m : Manager) (reader : String) (mode : ShareMode) (s : ν) :
    Reply ν NativeNote (Except CardError Card) → Prop where
  | unpassable (hname : isPassable reader = false) :
      Connected native m reader mode s ⟨.error .unknownReader, s, []⟩
  | refused {code : Code} {s' : ν} (hname : isPassable reader = true)
      (hmade : native.connect m.context reader mode s = (.error code, s')) :
      Connected native m reader mode s
        ⟨.error (Code.error code), s', [.connect m.context reader mode code]⟩
  | granted {handle : Handle} {protocol : Option Protocol} {s' : ν}
      (hname : isPassable reader = true)
      (hmade : native.connect m.context reader mode s = (.ok (handle, protocol), s')) :
      Connected native m reader mode s
        ⟨.ok { handle := some handle, protocol, reader, mode }, s',
          [.connect m.context reader mode Code.success]⟩

theorem connect_connected (native : Native ν) (m : Manager) (reader : String) (mode : ShareMode)
    (s : ν) : Connected native m reader mode s (m.connect native reader mode s) := by
  cases hname : isPassable reader with
  | false =>
      simp only [connect, hname, Bool.false_eq_true, if_false]
      exact .unpassable hname
  | true =>
      rcases hmade : native.connect m.context reader mode s with ⟨code | ⟨handle, protocol⟩, s'⟩
      · simp only [connect, hname, if_true, noted, hmade, caused_error]
        exact .refused hname hmade
      · simp only [connect, hname, if_true, noted, hmade, caused_ok]
        exact .granted hname hmade

/-- All calls as a backend. -/
def backend (native : Native ν) (m : Manager) : Backend ν Card NativeNote where
  list := m.list native
  wait := m.wait native
  cancel := m.cancel native
  connect := m.connect native
  status := Card.status native
  transmit := Card.transmit native
  lock := Card.lock native
  unlock := Card.unlock native
  reconnect := Card.reconnect native
  release := Card.release native

end Manager

end Pcsc

end CardHost
