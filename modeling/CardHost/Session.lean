import CardHost.Backend
import CardHost.HostError
import CardHost.Idc.Command
import CardHost.Settings
import CardHost.Subscriptions

/-!
# Sessions

A session is a logical card reader that a client has opened. It works with at
most one physical reader, connects to the card in it when it first needs to,
and keeps the connection until a call shows that it is of no more use.

Every call to the card goes through `withCard`. It opens a connection if there
is none, and gives the connection up, together with the lock that hangs on it,
when the call fails with an error after which nothing else could succeed. The
operations differ only in what they do with the card and in which failures
they report as ordinary answers.

`notify` is the other entrance: it takes in what the watch over the readers
has seen. A session binds to a reader when a card shows up in it, reports that
its reader came or went, and treats a card that is gone or was replaced as the
end of its connection.

## Main definitions

* `Session`: The state of a session.
* `Session.withCard`: Use the card, connecting first if need be.
* `Session.notify`: Take in a report about a reader.
* `Session.status`, `read`, `chipIo`, `chipPower`, `reset`, `lock`, `unlock`,
  `disconnect`: The operations.
* `stripLe`: A command without the length that the byte protocol cannot carry.
-/

namespace CardHost

/-- What a session last saw of its reader. -/
structure Observed where
  /-- There was a card in it. -/
  present : Bool
  /-- Its state could be had. -/
  available : Bool
  deriving DecidableEq, Repr

/-- A logical card reader in use, with cards of type `κ`. -/
structure Session (κ : Type) where
  handle : ServiceHandle
  settings : Settings
  binding : Binding
  /-- The open connection, if any. -/
  card : Option κ
  subscriptions : Subscriptions
  observed : Observed
  /-- The card is held for exclusive use. -/
  locked : Bool

/-- The command without its last byte if it has a header, a length, exactly
    that many bytes of data and one byte more. The last byte is then the
    length of the answer expected, which the byte protocol cannot carry. -/
def stripLe (command : Bytes) : Bytes :=
  let length := (command.getD 4 0).toNat
  if 0 < length ∧ command.length = 5 + length + 1 then command.take (5 + length) else command

namespace Session

variable {σ κ ε α : Type}

/-- A session that was just opened. -/
def start (handle : ServiceHandle) (settings : Settings) : Session κ :=
  { handle
    settings
    binding := Binding.ofConfigured settings.readerName
    card := none
    subscriptions := []
    observed := { present := false, available := true }
    locked := false }

/-- Take in a new configuration. -/
def reread (s : Session κ) (config : Config) : Session κ :=
  let settings := s.settings.reread config
  { s with settings, binding := s.binding.rebind settings.readerName }

/-- Change the trace level. -/
def setTraceLevel (s : Session κ) (level : UInt32) : Session κ :=
  { s with settings := { s.settings with traceLevel := level } }

/-- Subscribe a window to event classes. -/
def register (s : Session κ) (window : Window) (classes : EventClass) : Session κ :=
  { s with subscriptions := s.subscriptions.add window classes }

/-- Cancel subscriptions. The flag tells whether there was one. -/
def deregister (s : Session κ) (window : Option Window) (classes : EventClass) :
    Bool × Session κ :=
  let (found, subscriptions) := s.subscriptions.remove window classes
  (found, { s with subscriptions })

/-- The message that reports an event of the session. -/
def eventMessage (s : Session κ) (kind : MessageKind) (id : EventId) (payload : Payload) :
    Message :=
  Message.event kind ⟨s.handle, 0⟩ id payload

/-- Report an event to the subscribed windows. -/
def report (s : Session κ) (kind : MessageKind) (id : EventId) (payload : Payload)
    (w : World σ ε) : World σ ε :=
  w.post (s.subscriptions.posts (s.eventMessage kind id payload))

/-- Give up the connection and the lock. -/
def disconnect (b : Backend σ κ ε) (s : Session κ) (w : World σ ε) : Session κ × World σ ε :=
  ({ s with card := none, locked := false },
   match s.card with
   | some card => (w.call (b.release card)).2
   | none => w)

/-- The card of the session, connecting to it first if need be. -/
def connect (b : Backend σ κ ε) (s : Session κ) (w : World σ ε) :
    Except CardError κ × World σ ε :=
  match s.card with
  | some card => (.ok card, w)
  | none =>
    match s.binding.reader with
    | none => (.error .noSmartcard, w)
    | some reader => w.call (b.connect reader s.settings.shareMode)

/-- Use the card. A failure that leaves the connection useless ends it, and
    the lock with it. -/
def withCard (b : Backend σ κ ε)
    (use : κ → World σ ε → (Except CardError α × κ) × World σ ε)
    (s : Session κ) (w : World σ ε) : Except CardError α × Session κ × World σ ε :=
  match s.connect b w with
  | (.error e, w) => (.error e, s, w)
  | (.ok card, w) =>
    match use card w with
    | ((.ok a, card), w) => (.ok a, { s with card := some card }, w)
    | ((.error e, card), w) =>
      let s := { s with card := some card }
      if e.dropsConnection then (.error e, s.disconnect b w) else (.error e, s, w)

/-- Report that the reader came or went, if it did. -/
def noteAvailability (state : Snapshot) (s : Session κ) (w : World σ ε) :
    Session κ × World σ ε :=
  let available := !state.unavailable
  if available = s.observed.available then (s, w)
  else
    let device := if available then DeviceState.online else DeviceState.noDevice
    ({ s with observed := { s.observed with available } },
     s.report .systemEvent .deviceStatus (.deviceStatus state.name device) w)

/-- Report that the card is gone, if it is, and end the connection to it. A
    replaced card is gone too. -/
def notePresence (b : Backend σ κ ε) (state : Snapshot) (s : Session κ) (w : World σ ε) :
    Session κ × World σ ε :=
  let (s, w) :=
    if s.observed.present && (!state.present || state.replaced) then
      let (s, w) := s.disconnect b w
      (s, s.report .serviceEvent .mediaRemoved .none w)
    else (s, w)
  ({ s with observed := { s.observed with present := state.present } }, w)

/-- Take in a report about a reader. Reports about the list of readers and
    about other readers do not concern a session. -/
def notify (b : Backend σ κ ε) (state : Snapshot) (kind : ChangeKind) (s : Session κ)
    (w : World σ ε) : Session κ × World σ ε :=
  match kind with
  | .deviceList => (s, w)
  | .card =>
    let s :=
      if state.inserted then { s with binding := (s.binding.bind state.name).2 } else s
    if s.binding.isBoundTo state.name then
      let (s, w) := s.noteAvailability state w
      s.notePresence b state w
    else (s, w)

/-- An answer that stands in for a failure which only says that there is no
    card. -/
def orAbsent (absent : α) : Except CardError α → Except CardError α
  | .ok a => .ok a
  | .error e => if e.isAbsence then .ok absent else .error e

/-- The status of the device. -/
def status (b : Backend σ κ ε) (s : Session κ) (w : World σ ε) :
    Except CardError IdcStatus × Session κ × World σ ε :=
  if !s.observed.available then (.ok (IdcStatus.withoutCard .noDevice), s, w)
  else if !s.binding.isBound then (.ok (IdcStatus.withoutCard .online), s, w)
  else
    let (answer, s, w) := s.withCard b (fun card => World.call (b.status card)) w
    (orAbsent (IdcStatus.withoutCard .online) (answer.map IdcStatus.ofCard), s, w)

/-- The capabilities of the device. -/
def caps (s : Session κ) : IdcCaps := IdcCaps.ofReader s.settings.workarounds.canEject

/-- Take the card for exclusive use. -/
def lock (b : Backend σ κ ε) (s : Session κ) (w : World σ ε) :
    Except CardError Unit × Session κ × World σ ε :=
  if s.locked then (.ok (), s, w)
  else
    match s.withCard b (fun card => World.call (b.lock card)) w with
    | (.ok (), s, w) => (.ok (), { s with locked := true }, w)
    | (.error e, s, w) => (.error e, s, w)

/-- Give up exclusive use. The lock counts as given up even if the card call
    fails. -/
def unlock (b : Backend σ κ ε) (s : Session κ) (w : World σ ε) :
    Except HostError Unit × Session κ × World σ ε :=
  if s.locked then
    let (answer, s, w) := s.withCard b (fun card => World.call (b.unlock card)) w
    (answer.mapError .card, { s with locked := false }, w)
  else (.error (.notLocked s.handle), s, w)

/-- Read data sources of the card. -/
def read (b : Backend σ κ ε) (sources : DataSources) (s : Session κ) (w : World σ ε) :
    Except CardError (List CardData) × Session κ × World σ ε :=
  let (answer, s, w) := s.withCard b (fun card => World.call (b.status card)) w
  (answer.map fun status => CardData.read sources status.atr, s, w)

/-- The command as sent over a protocol. -/
def corrected (workarounds : Workarounds) (protocol : Option Protocol) (command : Bytes) :
    Bytes :=
  if workarounds.correctChipIo && protocol == some .t0 then stripLe command else command

/-- Exchange a command with the chip. -/
def chipIo (b : Backend σ κ ε) (command : Bytes) (s : Session κ) (w : World σ ε) :
    Except CardError ChipIo × Session κ × World σ ε :=
  s.withCard b (fun card w =>
    match w.call (b.status card) with
    | ((.error e, card), w) => ((.error e, card), w)
    | ((.ok status, card), w) =>
      let sent := corrected s.settings.workarounds status.protocol command
      let ((answer, card), w) := w.call (b.transmit sent card)
      ((answer.map fun data => ⟨ChipProtocols.ofProtocol status.protocol, data⟩, card), w)) w

/-- Change the power of the chip. The answer is the answer to reset, if the
    chip has power. -/
def chipPower (b : Backend σ κ ε) (action : PowerAction) (s : Session κ) (w : World σ ε) :
    Except CardError Bytes × Session κ × World σ ε :=
  s.withCard b (fun card w =>
    match w.call (b.reconnect action.disposition card) with
    | ((.error e, card), w) => ((.error e, card), w)
    | ((.ok (), card), w) =>
      match action with
      | .off => ((.ok [], card), w)
      | .cold | .warm =>
        let ((answer, card), w) := w.call (b.status card)
        ((answer.map CardStatus.atr, card), w)) w

/-- Where a card is found during a reset. -/
def readPosition : UInt16 := 4

/-- Reset the device, and report the card that was found. The answer tells
    whether there was one. -/
def reset (b : Backend σ κ ε) (s : Session κ) (w : World σ ε) :
    Except CardError Bool × Session κ × World σ ε :=
  if !s.binding.isBound then (.ok false, s, w)
  else
    match s.withCard b (fun card => World.call (b.reconnect .reset card)) w with
    | (.ok (), s, w) =>
      (.ok true, s, s.report .serviceEvent .mediaDetected (.mediaDetected readPosition) w)
    | (.error e, s, w) => (orAbsent false (.error e), s, w)

end Session

end CardHost
