import CardHost.Pending.Request

/-!
# The Queue of Pending Requests

All requests that wait for a card, under two indexes: by deadline, to know
what has expired and how long the next wait may last, and by key, to find the
request a client wants to call off. Requests that share a deadline are kept in
order of arrival by a running number.

An operation that ends requests works in two halves. It first takes all of
them out of both indexes and only then posts their messages. The messages are
therefore part of its answer and not of its doing: whoever receives one may
call the queue again, and finds it without any of the requests that are on
their way out.

`live` is the queue as one list, in the order in which requests would expire.

## Main definitions

* `RequestQueue`: The two indexes.
* `RequestQueue.live`: The requests in order of deadline and arrival.
* `RequestQueue.add`: Queue a request.
* `RequestQueue.cancel`, `cancelService`, `cancelAll`: Call requests off.
* `RequestQueue.expireDue`: End the requests whose deadline has passed.
* `RequestQueue.notifyChange`: End the requests that a report serves.
-/

namespace CardHost

/-- Place of a request in the deadline index. -/
structure Slot where
  deadline : Instant
  /-- Arrival number, to order requests that share a deadline. -/
  arrival : Nat
  deriving DecidableEq, Repr

/-- Whether a slot comes before another. -/
def Slot.before (a b : Slot) : Bool :=
  a.deadline < b.deadline || (a.deadline == b.deadline && a.arrival < b.arrival)

/-- The requests that wait for a card. -/
structure RequestQueue where
  /-- Keys in order of their slots. -/
  byDeadline : List (Slot × RequestKey)
  /-- Requests with their slots, by key. -/
  byKey : List (RequestKey × Slot × PendingRequest)
  /-- Arrival number of the next request. -/
  nextArrival : Nat
  deriving DecidableEq, Repr

/-- The outcome of an operation that ends requests. -/
structure Settled where
  /-- How many requests were ended. -/
  count : Nat
  /-- Their messages, in the order they are posted. -/
  posts : List Post
  /-- The queue without them. -/
  queue : RequestQueue

namespace RequestQueue

/-- The queue without requests. -/
def empty : RequestQueue := ⟨[], [], 0⟩

/-- The request under a key, with its slot. -/
def find? (q : RequestQueue) (key : RequestKey) : Option (Slot × PendingRequest) :=
  (q.byKey.find? (·.1 == key)).map Prod.snd

/-- Whether a request is pending under a key. -/
def contains (q : RequestQueue) (key : RequestKey) : Bool := (q.find? key).isSome

/-- How many requests are pending. -/
def size (q : RequestQueue) : Nat := q.byKey.length

/-- The keys in order of deadline and arrival. -/
def keys (q : RequestQueue) : List RequestKey := q.byDeadline.map Prod.snd

/-- The requests in order of deadline and arrival. -/
def live (q : RequestQueue) : List PendingRequest :=
  q.keys.filterMap fun key => (q.find? key).map Prod.snd

/-- The earliest slot. -/
def head? (q : RequestQueue) : Option Slot := q.byDeadline.head?.map Prod.fst

/-- Put an entry into the deadline index, at its place in the order. -/
def insertSlot (slot : Slot) (key : RequestKey) :
    List (Slot × RequestKey) → List (Slot × RequestKey)
  | [] => [(slot, key)]
  | entry :: rest =>
    if slot.before entry.1 then (slot, key) :: entry :: rest
    else entry :: insertSlot slot key rest

/-- Enter a request into both indexes. -/
def insert (q : RequestQueue) (r : PendingRequest) : RequestQueue :=
  let slot : Slot := ⟨r.deadline, q.nextArrival⟩
  { byDeadline := insertSlot slot r.key q.byDeadline
    byKey := (r.key, slot, r) :: q.byKey
    nextArrival := q.nextArrival + 1 }

/-- Take a request out of both indexes. -/
def remove (q : RequestQueue) (key : RequestKey) : Option PendingRequest × RequestQueue :=
  match q.find? key with
  | none => (none, q)
  | some (slot, r) =>
    (some r,
     { q with
       byDeadline := q.byDeadline.filter (·.1 != slot)
       byKey := q.byKey.filter (·.1 != key) })

/-- Take the requests under several keys out, in the order of the keys. -/
def removeAll : List RequestKey → RequestQueue → List PendingRequest × RequestQueue
  | [], q => ([], q)
  | key :: keys, q =>
    let (found, q) := q.remove key
    let (rest, q) := removeAll keys q
    (found.toList ++ rest, q)

/-- Take out every request whose deadline is at or before `now`. -/
def splitDue (q : RequestQueue) (now : Instant) : List PendingRequest × RequestQueue :=
  let due := q.byDeadline.filter fun entry => entry.1.deadline ≤ now
  let rest := q.byDeadline.filter fun entry => !(entry.1.deadline ≤ now)
  let keys := due.map Prod.snd
  (keys.filterMap fun key => (q.find? key).map Prod.snd,
   { q with byDeadline := rest, byKey := q.byKey.filter fun entry => !keys.contains entry.1 })

/-- The outcome of ending requests that were taken out, each with the messages
    that `finish` gives it. -/
def settle (finish : PendingRequest → List Message)
    (taken : List PendingRequest × RequestQueue) : Settled :=
  { count := taken.1.length
    posts := taken.1.flatMap fun r => r.toWindow (finish r)
    queue := taken.2 }

/-- Queue a request. The flag tells whether it now has the earliest deadline
    of all, in which case a wait that is under way lasts too long. A second
    request under a key that is pending is refused. -/
def add (q : RequestQueue) (r : PendingRequest) : Except HostError (Bool × RequestQueue) :=
  if q.contains r.key then .error (.duplicateRequest r.key)
  else
    let slot : Slot := ⟨r.deadline, q.nextArrival⟩
    let q := q.insert r
    .ok (q.head? == some slot, q)

/-- Call off one request. -/
def cancel (q : RequestQueue) (key : RequestKey) : Settled :=
  settle PendingRequest.canceled (removeAll [key] q)

/-- Call off every request of a session. -/
def cancelService (q : RequestQueue) (service : ServiceHandle) : Settled :=
  settle PendingRequest.canceled (removeAll (q.keys.filter (·.service == service)) q)

/-- Call off every request. -/
def cancelAll (q : RequestQueue) : Settled :=
  settle PendingRequest.canceled (removeAll q.keys q)

/-- End every request whose deadline is at or before `now`. -/
def expireDue (q : RequestQueue) (now : Instant) : Settled :=
  settle PendingRequest.expired (q.splitDue now)

/-- The keys of the requests that a report serves. -/
def servedKeys (q : RequestQueue) (bindings : Nat → Binding) (s : Snapshot)
    (kind : ChangeKind) : List RequestKey :=
  q.keys.filter fun key =>
    match q.find? key with
    | some (_, r) => r.isServedBy bindings s kind
    | none => false

/-- End every request that a report serves. -/
def notifyChange (q : RequestQueue) (bindings : Nat → Binding) (s : Snapshot)
    (kind : ChangeKind) : Settled :=
  settle (PendingRequest.served · s.atr) (removeAll (q.servedKeys bindings s kind) q)

/-- The earliest deadline. -/
def nextDeadline (q : RequestQueue) : Option Instant := q.head?.map Slot.deadline

/-- Time left until the earliest deadline, `none` without requests. -/
def nextTimeout (q : RequestQueue) (now : Instant) : Option Duration :=
  q.nextDeadline.map (Clock.left now)

end RequestQueue

end CardHost
