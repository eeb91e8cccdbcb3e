import CardHost.Backend

/-!
# The Watch Over the Readers

One watcher waits for changes on all attached readers at once, and on the list
of readers itself. It is also the only timer: a wait lasts no longer than the
time left until the earliest deadline, so deadlines are honoured without a
clock of their own.

The watcher is a machine that stands at one of a few points between two calls.
`step` takes it to the next point by making the call that is due and acting on
its outcome. All that happens in between is a function of the state, so a run
is a sequence of steps, with clients and the clock free to act in between.

Clients never touch the phase. They raise two flags and count up an epoch:

* `resync` asks for the readers to be listed afresh, so that each reports its
  state again. It is taken at the top of every round, and whoever lists the
  readers has honoured it.
* `stop` ends the watch at the next point.
* The epoch tells a round that something changed after it began. A wait is
  only begun in the epoch in which its time was computed.

A wake that comes too late even for that cannot interrupt anything. No wait is
longer than `slice`, which bounds the delay it can cause.

## Main definitions

* `WaitSet`: The entries of a wait, the list of readers first.
* `Surroundings`: What the watcher calls, and whom it tells.
* `News`, `Surroundings.tell`: What there is to tell after a call.
* `Next`: Where the watcher goes after a call.
* `Watcher`: Phase and flags.
* `Watcher.step`: From one point to the next.
* `Watcher.tick`: The effect of time passing.
* `Watcher.wake`, `Watcher.requestStop`: What clients do to it.
-/

namespace CardHost

/-- The entries of a wait. -/
structure WaitSet where
  /-- Entry for the list of readers. -/
  list : Snapshot
  /-- Entries for the readers, in the order they were listed. -/
  readers : List Snapshot
  deriving DecidableEq, Repr

namespace WaitSet

/-- All entries, the list of readers first. -/
def entries (set : WaitSet) : List Snapshot := set.list :: set.readers

/-- The entries for readers that were just listed: nothing is known of them,
    while the entry for the list goes on from what it last saw. -/
def ofNames (list : Snapshot) (names : List String) : WaitSet :=
  ⟨list, names.map Snapshot.unaware⟩

/-- Take in reports, in the order of the entries. -/
def record (set : WaitSet) : List (ReaderFlags × Bytes) → WaitSet
  | [] => set
  | report :: reports =>
    ⟨set.list.record report.1 report.2, Snapshot.recordAll set.readers reports⟩

/-- Make every reported state the baseline of the next wait. -/
def adopt (set : WaitSet) : WaitSet := ⟨set.list.adopt, set.readers.map Snapshot.adopt⟩

/-- The entries that reported a change. -/
def changes (set : WaitSet) : List Snapshot := set.entries.filter Snapshot.changed

/-- Whether a reader was attached or detached. -/
def listChanged (set : WaitSet) : Bool := set.changes.any (·.kind == .deviceList)

end WaitSet

/-- The point at which a watcher stands. -/
inductive Phase where
  /-- About to list the readers. -/
  | listing (list : Snapshot)
  /-- About to compute how long to wait, in an epoch. -/
  | timing (epoch : Nat) (set : WaitSet)
  /-- In a wait. -/
  | waiting (timeout : Duration) (ends : Instant) (set : WaitSet)
  /-- In a pause after an error. -/
  | pausing (ends : Instant) (list : Snapshot)
  | stopped
  deriving DecidableEq, Repr

/-- The watch over the readers. -/
structure Watcher where
  phase : Phase
  stop : Bool
  /-- Someone asked for the readers to be listed afresh. -/
  resync : Bool
  /-- Counts the wakes. -/
  epoch : Nat
  deriving DecidableEq, Repr

/-- Why a watcher is woken. -/
inductive WakeReason where
  /-- The earliest deadline changed. -/
  | deadline
  /-- Every reader is to report its state again. -/
  | resync
  deriving DecidableEq, Repr, Inhabited

/-- The name of a reason. -/
def WakeReason.name : WakeReason → String
  | deadline => "Deadline"
  | resync => "Resync"

instance : Named WakeReason := ⟨[.deadline, .resync], WakeReason.name⟩

/-- What a watcher calls, and whom it tells, over a state `ω`. -/
structure Surroundings (ω : Type) where
  list : ω → Except CardError (List String) × ω
  wait : Poll → ω → Option (Except CardError WaitOutcome × ω)
  /-- Call off a wait; the flag tells whether one is under way. -/
  cancel : Bool → ω → ω
  /-- Time left until the next deadline. -/
  nextTimeout : Instant → ω → Option Duration
  /-- Deadlines up to an instant have passed. -/
  onTimeout : Instant → ω → ω
  /-- An entry changed. -/
  onChange : Snapshot → ChangeKind → ω → ω

/-- What there is to tell after a call returned. -/
inductive News where
  /-- Deadlines up to an instant have passed. -/
  | timeout (now : Instant)
  /-- An entry changed. -/
  | change (s : Snapshot)
  deriving DecidableEq, Repr

namespace Surroundings

variable {ω : Type}

/-- Tell one piece of news. -/
def tell (env : Surroundings ω) (o : ω) : News → ω
  | .timeout now => env.onTimeout now o
  | .change s => env.onChange s s.kind o

/-- Tell all the news, in order. -/
def tellAll (env : Surroundings ω) (news : List News) (o : ω) : ω := news.foldl env.tell o

end Surroundings

/-- Where a watcher goes after a call. -/
inductive Next where
  /-- Wait again on these entries. -/
  | round (set : WaitSet)
  /-- List the readers afresh. -/
  | listing (list : Snapshot)
  /-- Pause after an error. -/
  | pause (now : Instant) (list : Snapshot)
  deriving DecidableEq, Repr

namespace Watcher

/-- The longest single wait. -/
def slice : Duration := Duration.second

/-- The pause after an error. -/
def pause : Duration := Duration.second

/-- A watcher that has done nothing yet. -/
def start : Watcher :=
  { phase := .listing Snapshot.readerList, stop := false, resync := false, epoch := 0 }

/-- Whether a wait is under way. -/
def isWaiting (m : Watcher) : Bool :=
  match m.phase with
  | .waiting .. => true
  | _ => false

/-- Whether the watch has ended. -/
def isStopped (m : Watcher) : Bool := m.phase == .stopped

/-- Go and list the readers. This honours a request to do so. -/
def enterListing (m : Watcher) (list : Snapshot) : Watcher :=
  if m.stop then { m with phase := .stopped }
  else { m with phase := .listing list, resync := false }

/-- Begin a round on a set of entries, unless the readers are to be listed
    afresh. -/
def enterRound (m : Watcher) (set : WaitSet) : Watcher :=
  if m.stop then { m with phase := .stopped }
  else if m.resync then m.enterListing set.list
  else { m with phase := .timing m.epoch set }

/-- Pause after an error; a watch that is to end does not pause. -/
def enterPause (m : Watcher) (now : Instant) (list : Snapshot) : Watcher :=
  if m.stop then { m with phase := .stopped }
  else { m with phase := .pausing (now + pause) list }

/-- How long to wait when the next deadline is some time away. -/
def timeoutOf (nextTimeout : Option Duration) : Duration := min (nextTimeout.getD slice) slice

/-- Go on after a call. The flags are looked at now, and not when the call
    returned: whoever was told the news in between may have raised them. -/
def go (m : Watcher) : Next → Watcher
  | .round set => m.enterRound set
  | .listing list => m.enterListing list
  | .pause now list => m.enterPause now list

/-- What a wait on a set of entries brought up: every change, in the order of
    the entries, or the passing of time. -/
def newsOf (now : Instant) (set : WaitSet) : Except CardError WaitOutcome → List News
  | .ok .timedOut | .error _ => [.timeout now]
  | .ok .cancelled => []
  | .ok (.changed reports) => (set.record reports).changes.map .change

/-- Where to go after a wait on a set of entries. -/
def nextOf (now : Instant) (set : WaitSet) : Except CardError WaitOutcome → Next
  | .ok .timedOut | .ok .cancelled => .round set
  | .ok (.changed reports) =>
    let set := set.record reports
    if set.listChanged then .listing set.adopt.list else .round set.adopt
  | .error _ => .pause now set.list

/-- Act on the outcome of a wait. -/
def afterWait {ω : Type} (env : Surroundings ω) (now : Instant) (m : Watcher) (set : WaitSet)
    (outcome : Except CardError WaitOutcome) (o : ω) : Watcher × ω :=
  if m.stop then ({ m with phase := .stopped }, o)
  else (m.go (nextOf now set outcome), env.tellAll (newsOf now set outcome) o)

/-- Go from one point to the next. The flag tells whether the watcher moved:
    it does not while a wait goes on, in a pause, and after its end. -/
def step {ω : Type} (env : Surroundings ω) (now : Instant) (m : Watcher) (o : ω) :
    Bool × Watcher × ω :=
  match m.phase with
  | .listing list =>
    match env.list o with
    | (.ok names, o) => (true, m.enterRound (WaitSet.ofNames list names), o)
    | (.error _, o) => (true, m.enterPause now list, env.onTimeout now o)
  | .timing epoch set =>
    if m.epoch = epoch then
      let timeout := timeoutOf (env.nextTimeout now o)
      (true, { m with phase := .waiting timeout (now + timeout) set }, o)
    else (true, m.enterRound set, o)
  | .waiting timeout ends set =>
    match env.wait ⟨some timeout, ends, now, set.entries⟩ o with
    | none => (false, m, o)
    | some (outcome, o) => (true, m.afterWait env now set outcome o)
  | .pausing .. | .stopped => (false, m, o)

/-- Go from one call to the next: computing the time to wait is no point at
    which anyone else could act. -/
def stride {ω : Type} (env : Surroundings ω) (now : Instant) (m : Watcher) (o : ω) :
    Bool × Watcher × ω :=
  let (moved, m, o) := m.step env now o
  match m.phase with
  | .timing .. =>
    let (_, m, o) := m.step env now o
    (moved, m, o)
  | _ => (moved, m, o)

/-- Notice that time has passed: a pause that is over leads back to the list of
    readers. -/
def tick (now : Instant) (m : Watcher) : Watcher :=
  match m.phase with
  | .pausing ends list => if ends ≤ now then m.enterListing list else m
  | _ => m

/-- Raise the flags of a wake. -/
def raise (reason : WakeReason) (m : Watcher) : Watcher :=
  { m with resync := m.resync || reason == .resync, epoch := m.epoch + 1 }

/-- Wake the watcher. A wait that is under way is called off. -/
def wake {ω : Type} (env : Surroundings ω) (reason : WakeReason) (m : Watcher) (o : ω) :
    Watcher × ω :=
  (m.raise reason, env.cancel m.isWaiting o)

/-- Ask the watcher to end. A wait that is under way is called off, and a pause
    is cut short. -/
def requestStop {ω : Type} (env : Surroundings ω) (m : Watcher) (o : ω) : Watcher × ω :=
  let phase :=
    match m.phase with
    | .pausing .. => .stopped
    | phase => phase
  ({ m with phase, stop := true, epoch := m.epoch + 1 }, env.cancel m.isWaiting o)

end Watcher

end CardHost
