import CardHost.Binding
import CardHost.Clock
import CardHost.Idc.Command
import CardHost.Message
import CardHost.Reader.Snapshot

/-!
# Pending Requests

A read that found no card waits for one. Such a request ends in one of three
ways: a card is inserted into its reader, its deadline passes, or it is
cancelled. Each way is a list of messages for the window that asked, and the
last message of the list is the completion.

A request does not own its reader. It shares the binding of the session that
made it, so a session that binds late, or is moved to another reader, takes
its waiting requests along. `Target` names the place where the binding is
looked up at the moment it is needed.

## Main definitions

* `Target`: Where the binding of a request is found.
* `PendingRequest`: A read that waits for a card.
* `PendingRequest.waitForCard`: A request that ends some time after it began.
* `PendingRequest.canceled`, `PendingRequest.expired`: The end by cancellation
  and by deadline.
* `PendingRequest.onChange`: The end by an inserted card, if this is one.
-/

namespace CardHost

/-- Where the binding of a request is found. -/
inductive Target where
  /-- A binding shared with a session, under a number. -/
  | shared (slot : Nat)
  /-- A binding that belongs to the request alone. -/
  | own (binding : Binding)
  deriving DecidableEq, Repr

/-- The binding a target stands for, given the shared ones. -/
def Target.binding (bindings : Nat → Binding) : Target → Binding
  | shared slot => bindings slot
  | own binding => binding

/-- A read that waits for a card. -/
structure PendingRequest where
  key : RequestKey
  /-- Window that is told the outcome. -/
  window : Window
  /-- When the request gives up. -/
  deadline : Instant
  /-- What is to be read. -/
  sources : DataSources
  /-- Whose reader it waits for. -/
  target : Target
  deriving DecidableEq, Repr

namespace PendingRequest

/-- The deadline of a request made at `now`. A timeout that leads past the end
    of the clock counts as none, and a request without one waits for 365 days. -/
def deadlineOf (now : Instant) (timeout : Option Duration) : Instant :=
  match timeout.bind (Clock.after? now) with
  | some deadline => deadline
  | none => (Clock.after? now Duration.indefinite).getD now

/-- A request made at `now`. -/
def waitForCard (key : RequestKey) (window : Window) (now : Instant)
    (timeout : Option Duration) (sources : DataSources) (target : Target) : PendingRequest :=
  { key, window, deadline := deadlineOf now timeout, sources, target }

/-- The message that completes the request. -/
def completion (r : PendingRequest) (result : ResultCode) (payload : Payload) : Message :=
  Message.completion .executeComplete r.key CommandCode.readRawData.number result payload

/-- The messages as posted to the window that asked. -/
def toWindow (r : PendingRequest) (messages : List Message) : List Post :=
  messages.map fun message => ⟨r.window, message⟩

/-- The end of a request that was called off. -/
def canceled (r : PendingRequest) : List Message := [r.completion .canceled .none]

/-- The end of a request whose deadline passed. -/
def expired (r : PendingRequest) : List Message := [r.completion .timeout .none]

/-- The end of a request whose card showed up, answering to reset with `atr`. -/
def served (r : PendingRequest) (atr : Bytes) : List Message :=
  [Message.event .executeEvent r.key .mediaInserted .none,
   r.completion .success (.cardData (CardData.read r.sources atr))]

/-- Whether a report ends the request: it has to be about a card, inserted
    into a reader that the binding accepts. -/
def isServedBy (r : PendingRequest) (bindings : Nat → Binding) (s : Snapshot)
    (kind : ChangeKind) : Bool :=
  kind == .card && s.inserted && (r.target.binding bindings).accepts s.name

/-- The messages a report ends the request with, `none` if it waits on. -/
def onChange (r : PendingRequest) (bindings : Nat → Binding) (s : Snapshot)
    (kind : ChangeKind) : Option (List Message) :=
  if r.isServedBy bindings s kind then some (r.served s.atr) else none

end PendingRequest

end CardHost
