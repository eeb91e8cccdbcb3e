import CardHost.Pending.Queue
import CardHost.Session
import CardHost.Watcher

/-!
# The Hub

Open sessions and pending requests in one place, fed by the watcher. A report
about a reader goes to the sessions first and to the requests after that,
because a session may bind to the reader by that very report, and its requests
look at the binding.

Sessions are kept in ascending order of handles, one per handle, so reports
reach them in a fixed order.

## Main definitions

* `Hub`: Sessions, requests, and the world they act on.
* `Hub.notifySessions`, `Hub.onChange`: Hand a report on.
* `Hub.onTimeout`: End the requests whose deadline has passed.
* `Hub.surroundings`: The hub as a watcher sees it.
-/

namespace CardHost

/-- Open sessions and pending requests. -/
structure Hub (σ κ ε : Type) where
  /-- Sessions in ascending order of handles. -/
  sessions : List (Session κ)
  pending : RequestQueue
  world : World σ ε

namespace Hub

variable {σ κ ε : Type}

/-- A hub without sessions and requests. -/
def start (world : World σ ε) : Hub σ κ ε :=
  { sessions := [], pending := RequestQueue.empty, world }

/-- The session under a handle. -/
def session? (hub : Hub σ κ ε) (handle : ServiceHandle) : Option (Session κ) :=
  hub.sessions.find? (·.handle == handle)

/-- The handles of the open sessions. -/
def handles (hub : Hub σ κ ε) : List ServiceHandle := hub.sessions.map Session.handle

/-- The bindings that requests share, by the handle of the session. -/
def binding (hub : Hub σ κ ε) (slot : Nat) : Binding :=
  match hub.sessions.find? (·.handle.toNat == slot) with
  | some session => session.binding
  | none => ⟨none⟩

/-- Where the requests of a session find its binding. -/
def target (handle : ServiceHandle) : Target := .shared handle.toNat

/-- Put a session at its place in the order. -/
def insertSession (session : Session κ) : List (Session κ) → List (Session κ)
  | [] => [session]
  | other :: rest =>
    if session.handle < other.handle then session :: other :: rest
    else other :: insertSession session rest

/-- Put the new state of a session in the place of the old one. -/
def replace (hub : Hub σ κ ε) (session : Session κ) : Hub σ κ ε :=
  { hub with
    sessions := hub.sessions.map fun s => if s.handle = session.handle then session else s }

/-- Go on with the queue after requests were ended, and post their messages. -/
def settle (hub : Hub σ κ ε) (s : Settled) : Hub σ κ ε :=
  { hub with pending := s.queue, world := hub.world.post s.posts }

/-- Hand a report to sessions, in their order. -/
def notifySessions (b : Backend σ κ ε) (state : Snapshot) (kind : ChangeKind) :
    List (Session κ) → World σ ε → List (Session κ) × World σ ε
  | [], w => ([], w)
  | session :: rest, w =>
    let (session, w) := session.notify b state kind w
    let (rest, w) := notifySessions b state kind rest w
    (session :: rest, w)

/-- Hand a report to the sessions, then end the requests that it serves. -/
def onChange (b : Backend σ κ ε) (state : Snapshot) (kind : ChangeKind) (hub : Hub σ κ ε) :
    Hub σ κ ε :=
  let (sessions, world) := notifySessions b state kind hub.sessions hub.world
  let hub := { hub with sessions, world }
  hub.settle (hub.pending.notifyChange hub.binding state kind)

/-- End the requests whose deadline has passed. -/
def onTimeout (now : Instant) (hub : Hub σ κ ε) : Hub σ κ ε :=
  hub.settle (hub.pending.expireDue now)

/-- The hub as a watcher sees it. -/
def surroundings (b : Backend σ κ ε) : Surroundings (Hub σ κ ε) where
  list hub :=
    let (answer, world) := hub.world.call b.list
    (answer, { hub with world })
  wait poll hub :=
    (b.wait poll hub.world.hardware).map fun reply =>
      let (answer, world) := hub.world.call fun _ => reply
      (answer, { hub with world })
  cancel waiting hub := { hub with world := (hub.world.call (b.cancel waiting)).2 }
  nextTimeout now hub := hub.pending.nextTimeout now
  onTimeout := onTimeout
  onChange := onChange b

/-- Give up the cards of sessions, in their order. -/
def releaseCards (b : Backend σ κ ε) : List (Session κ) → World σ ε → World σ ε
  | [], w => w
  | session :: rest, w => releaseCards b rest (session.disconnect b w).2

/-- The end of the hub: every request is called off, then every card is given
    up. -/
def close (b : Backend σ κ ε) (hub : Hub σ κ ε) : Hub σ κ ε :=
  let hub := hub.settle hub.pending.cancelAll
  { hub with sessions := [], world := releaseCards b hub.sessions hub.world }

end Hub

end CardHost
