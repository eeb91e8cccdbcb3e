import CardHost.Hub

/-!
# The Service Provider

The entry points for clients. A call is answered at once with a code that only
says whether it was accepted. What came of it is told later, by a completion
message to the window that the call named. A call that is not accepted gets no
message, and one that is accepted gets exactly one.

Most calls are completed before they return. A read that finds no card is the
exception: it becomes a pending request. `readNow` and `enqueue` are the two
halves of such a read, the attempt and what happens when there is no card.

Whenever a call changes the earliest deadline the watcher is woken, since the
wait it is in may now be too long. A new session asks for more: every reader
is to report its state again, so that the session learns about the cards that
are already there.

## Main definitions

* `Provider`: Hub, watcher and configuration.
* `Provider.createSession`, `removeSession`, `addRequest`, `cancelRequest`,
  `cancelService`, `cancelAll`: Changes of the hub that wake the watcher.
* `Provider.openSession`, `closeSession`, `lock`, `unlock`, `register`,
  `deregister`, `getInfo`, `execute`, `executeRaw`, `cancelAsync`,
  `setTraceLevel`, `unload`, `reload`: The entry points.
* `Provider.step`, `Provider.tick`: The watcher's side.
* `Provider.requestStop`, `Provider.finish`, `Provider.shutDown`: The end, in two halves and whole.
-/

namespace CardHost

/-- A card reader service provider. -/
structure Provider (σ κ ε : Type) where
  hub : Hub σ κ ε
  watcher : Watcher
  config : Config

namespace Provider

variable {σ κ ε α : Type}

/-- A provider that was just started. -/
def start (world : World σ ε) (config : Config) : Provider σ κ ε :=
  { hub := Hub.start world, watcher := Watcher.start, config }

/-- Wake the watcher. -/
def wake (b : Backend σ κ ε) (reason : WakeReason) (p : Provider σ κ ε) : Provider σ κ ε :=
  let (watcher, hub) := p.watcher.wake (Hub.surroundings b) reason p.hub
  { p with watcher, hub }

/-- Wake the watcher because of a deadline, if there is cause to. -/
def wakeIf (b : Backend σ κ ε) (cause : Bool) (p : Provider σ κ ε) : Provider σ κ ε :=
  if cause then p.wake b .deadline else p

/-- Go on after requests were ended. -/
def settle (b : Backend σ κ ε) (s : Settled) (p : Provider σ κ ε) : Provider σ κ ε :=
  wakeIf b (s.count != 0) { p with hub := p.hub.settle s }

/-- Open a session, unless the handle is in use. -/
def createSession (b : Backend σ κ ε) (handle : ServiceHandle) (settings : Settings)
    (p : Provider σ κ ε) : Except HostError (Session κ) × Provider σ κ ε :=
  match p.hub.session? handle with
  | some _ => (.error (.handleInUse handle), p)
  | none =>
    let session := Session.start handle settings
    let hub := { p.hub with sessions := Hub.insertSession session p.hub.sessions }
    (.ok session, wake b .resync { p with hub })

/-- Close a session: it is taken out first, then its requests are called off,
    and then it gives up its card. -/
def removeSession (b : Backend σ κ ε) (handle : ServiceHandle) (p : Provider σ κ ε) :
    Except HostError (Session κ) × Provider σ κ ε :=
  match p.hub.session? handle with
  | none => (.error (.unknownHandle handle), p)
  | some session =>
    let hub := { p.hub with sessions := p.hub.sessions.filter (·.handle != handle) }
    let p := settle b (hub.pending.cancelService handle) { p with hub }
    let (session, world) := session.disconnect b p.hub.world
    (.ok session, { p with hub := { p.hub with world } })

/-- Queue a request. -/
def addRequest (b : Backend σ κ ε) (r : PendingRequest) (p : Provider σ κ ε) :
    Except HostError Unit × Provider σ κ ε :=
  match p.hub.pending.add r with
  | .error e => (.error e, p)
  | .ok (nearest, pending) => (.ok (), wakeIf b nearest { p with hub := { p.hub with pending } })

/-- Call off one request. The flag tells whether it was pending. -/
def cancelRequest (b : Backend σ κ ε) (key : RequestKey) (p : Provider σ κ ε) :
    Bool × Provider σ κ ε :=
  let s := p.hub.pending.cancel key
  (s.count != 0, p.settle b s)

/-- Call off the requests of a session, and count them. -/
def cancelService (b : Backend σ κ ε) (handle : ServiceHandle) (p : Provider σ κ ε) :
    Nat × Provider σ κ ε :=
  let s := p.hub.pending.cancelService handle
  (s.count, p.settle b s)

/-- Call off every request, and count them. -/
def cancelAll (b : Backend σ κ ε) (p : Provider σ κ ε) : Nat × Provider σ κ ε :=
  let s := p.hub.pending.cancelAll
  (s.count, p.settle b s)

/-- Use an open session. -/
def onSession (use : Session κ → World σ ε → α × Session κ × World σ ε) (session : Session κ)
    (p : Provider σ κ ε) : α × Provider σ κ ε :=
  let (answer, session, world) := use session p.hub.world
  (answer, { p with hub := { p.hub with world }.replace session })

/-- Complete a call. -/
def complete (kind : MessageKind) (call : Call) (code : UInt32) (result : ResultCode)
    (payload : Payload) (p : Provider σ κ ε) : Provider σ κ ε :=
  let message := Message.completion kind call.key code result payload
  { p with hub := { p.hub with world := p.hub.world.post [⟨call.window, message⟩] } }

/-- Complete a call, and answer that it was accepted. -/
def accept (kind : MessageKind) (call : Call) (code : UInt32) (result : ResultCode)
    (payload : Payload) (p : Provider σ κ ε) : ResultCode × Provider σ κ ε :=
  (.success, p.complete kind call code result payload)

/-- The code that tells how a card call went. -/
def outcome (answer : Except CardError α) : ResultCode :=
  match answer with
  | .ok _ => .success
  | .error e => e.result

/-- The code and payload that tell how a card call went. -/
def report (payload : α → Payload) (answer : Except CardError α) : ResultCode × Payload :=
  match answer with
  | .ok a => (.success, payload a)
  | .error e => (e.result, .none)

/-- Take in a new configuration, for the open sessions too. -/
def reload (config : Config) (p : Provider σ κ ε) : Provider σ κ ε :=
  { p with
    config
    hub := { p.hub with sessions := p.hub.sessions.map (·.reread config) } }

/-- Open a session for a logical service. The call is always accepted. -/
def openSession (b : Backend σ κ ε) (call : Call) (logicalName : String) (traceLevel : UInt32)
    (p : Provider σ κ ε) : ResultCode × Provider σ κ ε :=
  match Settings.resolve p.config logicalName with
  | .error e => p.accept .openComplete call 0 e.result .none
  | .ok settings =>
    let settings := if traceLevel = 0 then settings else { settings with traceLevel }
    match p.createSession b call.service settings with
    | (.ok _, p) => p.accept .openComplete call 0 .success .none
    | (.error e, p) => p.accept .openComplete call 0 e.result .none

/-- Close a session. -/
def closeSession (b : Backend σ κ ε) (call : Call) (p : Provider σ κ ε) :
    ResultCode × Provider σ κ ε :=
  match p.removeSession b call.service with
  | (.error e, p) => (e.result, p)
  | (.ok _, p) => p.accept .closeComplete call 0 .success .none

/-- Take the card of a session for exclusive use. -/
def lock (b : Backend σ κ ε) (call : Call) (p : Provider σ κ ε) : ResultCode × Provider σ κ ε :=
  match p.hub.session? call.service with
  | none => (.invalidHService, p)
  | some session =>
    let (answer, p) := p.onSession (Session.lock b) session
    p.accept .lockComplete call 0 (outcome answer) .none

/-- Give up exclusive use. -/
def unlock (b : Backend σ κ ε) (call : Call) (p : Provider σ κ ε) :
    ResultCode × Provider σ κ ε :=
  match p.hub.session? call.service with
  | none => (.invalidHService, p)
  | some session =>
    let (answer, p) := p.onSession (Session.unlock b) session
    let result :=
      match answer with
      | .ok () => ResultCode.success
      | .error e => e.result
    p.accept .unlockComplete call 0 result .none

/-- Subscribe a window to event classes. -/
def register (call : Call) (classes : BitVec 32) (window : Window) (p : Provider σ κ ε) :
    ResultCode × Provider σ κ ε :=
  match p.hub.session? call.service with
  | none => (.invalidHService, p)
  | some session =>
    match EventClass.ofBits? classes with
    | none => (.invalidEventClass, p)
    | some classes =>
      let p := { p with hub := p.hub.replace (session.register window classes) }
      p.accept .registerComplete call 0 .success .none

/-- Cancel subscriptions of one window, or of all of them. -/
def deregister (call : Call) (classes : BitVec 32) (window : Option Window)
    (p : Provider σ κ ε) : ResultCode × Provider σ κ ε :=
  match p.hub.session? call.service with
  | none => (.invalidHService, p)
  | some session =>
    match EventClass.ofBits? classes with
    | none => (.invalidEventClass, p)
    | some classes =>
      let (found, session) := session.deregister window classes
      let p := { p with hub := p.hub.replace session }
      p.accept .deregisterComplete call 0 (if found then .success else .notRegistered) .none

/-- Ask about the device. -/
def getInfo (b : Backend σ κ ε) (call : Call) (category : UInt32) (p : Provider σ κ ε) :
    ResultCode × Provider σ κ ε :=
  match p.hub.session? call.service with
  | none => (.invalidHService, p)
  | some session =>
    match InfoCategory.ofNumber? category with
    | none => (.invalidCategory, p)
    | some .formList | some .queryForm => (.unsuppCommand, p)
    | some .capabilities =>
      p.accept .getInfoComplete call category .success (.caps session.caps)
    | some .status =>
      let (answer, p) := p.onSession (Session.status b) session
      let (result, payload) := report Payload.status answer
      p.accept .getInfoComplete call category result payload

/-- What came of an attempt to read at once. -/
inductive Attempt where
  /-- The read is over. -/
  | ended (result : ResultCode) (payload : Payload)
  /-- There is no card; the read has to wait for one. -/
  | noCard
  deriving DecidableEq, Repr

/-- Try to read the card that is in the reader of a session. -/
def readNow (b : Backend σ κ ε) (sources : DataSources) (session : Session κ)
    (p : Provider σ κ ε) : Attempt × Provider σ κ ε :=
  if session.binding.isBound then
    match p.onSession (Session.read b sources) session with
    | (.ok data, p) => (.ended .success (.cardData data), p)
    | (.error e, p) => (if e.isAbsence then .noCard else .ended e.result .none, p)
  else (.noCard, p)

/-- Have a read wait for a card. -/
def enqueue (b : Backend σ κ ε) (call : Call) (now : Instant) (timeout : Option Duration)
    (sources : DataSources) (p : Provider σ κ ε) : ResultCode × Provider σ κ ε :=
  let r := PendingRequest.waitForCard call.key call.window now timeout sources
    (Hub.target call.service)
  match p.addRequest b r with
  | (.ok (), p) => (.success, p)
  | (.error e, p) => (e.result, p)

/-- Read data sources, now or when a card is inserted. -/
def readRawData (b : Backend σ κ ε) (call : Call) (now : Instant) (timeout : Option Duration)
    (sources : DataSources) (session : Session κ) (p : Provider σ κ ε) :
    ResultCode × Provider σ κ ε :=
  let code := CommandCode.readRawData.number
  if sources = 0#16 then p.accept .executeComplete call code .invalidData .none
  else
    match p.readNow b sources session with
    | (.ended result payload, p) => p.accept .executeComplete call code result payload
    | (.noCard, p) => p.enqueue b call now timeout sources

/-- Execute a command. -/
def execute (b : Backend σ κ ε) (call : Call) (now : Instant) (timeout : Option Duration)
    (command : Command) (p : Provider σ κ ε) : ResultCode × Provider σ κ ε :=
  match p.hub.session? call.service with
  | none => (.invalidHService, p)
  | some session =>
    match command with
    | .readRawData sources => p.readRawData b call now timeout sources session
    | .chipIo data =>
      let (answer, p) := p.onSession (Session.chipIo b data) session
      let (result, payload) := report Payload.chipIo answer
      p.accept .executeComplete call command.code result payload
    | .chipPower action =>
      let (answer, p) := p.onSession (Session.chipPower b action) session
      let (result, payload) := report Payload.chipPower answer
      p.accept .executeComplete call command.code result payload
    | .reset =>
      let (answer, p) := p.onSession (Session.reset b) session
      p.accept .executeComplete call command.code (outcome answer) .none
    | .ejectCard =>
      let result :=
        if session.settings.workarounds.canEject then ResultCode.success else .unsuppCommand
      p.accept .executeComplete call command.code result .none
    | .unsupported _ => (.unsuppCommand, p)
    | .unknown _ => (.invalidCommand, p)

/-- Execute the command in a number and its buffer. -/
def executeRaw (b : Backend σ κ ε) (call : Call) (now : Instant) (timeout : Option Duration)
    (code : UInt32) (data : Bytes) (p : Provider σ κ ε) : ResultCode × Provider σ κ ε :=
  match p.hub.session? call.service with
  | none => (.invalidHService, p)
  | some _ =>
    match Command.decode code data with
    | .ok command => p.execute b call now timeout command
    | .error e => (e.result, p)

/-- Call off one request of a session, or all of them. -/
def cancelAsync (b : Backend σ κ ε) (handle : ServiceHandle) (request : Option RequestId)
    (p : Provider σ κ ε) : ResultCode × Provider σ κ ε :=
  match p.hub.session? handle with
  | none => (.invalidHService, p)
  | some _ =>
    match request with
    | none => (.success, (p.cancelService b handle).2)
    | some id =>
      let (found, p) := p.cancelRequest b ⟨handle, id⟩
      (if found then .success else .invalidReqId, p)

/-- Change the trace level of a session. -/
def setTraceLevel (handle : ServiceHandle) (level : UInt32) (p : Provider σ κ ε) :
    ResultCode × Provider σ κ ε :=
  match p.hub.session? handle with
  | none => (.invalidHService, p)
  | some session => (.success, { p with hub := p.hub.replace (session.setTraceLevel level) })

/-- Whether the provider may be unloaded: not while sessions are open. -/
def unload (p : Provider σ κ ε) : ResultCode :=
  if p.hub.sessions.isEmpty then .success else .notOkToUnload

/-- Let the watcher go from one call to the next. The flag tells whether it
    moved. -/
def step (b : Backend σ κ ε) (now : Instant) (p : Provider σ κ ε) : Bool × Provider σ κ ε :=
  let (moved, watcher, hub) := p.watcher.stride (Hub.surroundings b) now p.hub
  (moved, { p with watcher, hub })

/-- Let the watcher notice that time has passed. -/
def tick (now : Instant) (p : Provider σ κ ε) : Provider σ κ ε :=
  { p with watcher := p.watcher.tick now }

/-- Begin to end the provider: the watcher is asked to end. -/
def requestStop (b : Backend σ κ ε) (p : Provider σ κ ε) : Provider σ κ ε :=
  let (watcher, hub) := p.watcher.requestStop (Hub.surroundings b) p.hub
  { p with watcher, hub }

/-- End the provider once its watcher has: every request is called off, then
    every card is given up. -/
def finish (b : Backend σ κ ε) (p : Provider σ κ ε) : Provider σ κ ε :=
  { p with hub := p.hub.close b }

/-- End the provider. -/
def shutDown (b : Backend σ κ ε) (p : Provider σ κ ε) : Provider σ κ ε :=
  (p.requestStop b).finish b

end Provider

end CardHost
