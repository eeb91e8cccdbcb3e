import CardHost.Pending.Queue

/-!
# Calling the Queue From Inside a Post

Whoever receives a message may call the queue again before the post returns.
Here such a receiver is a script: the first message it gets makes it run the
first operations of the script, the second message the second ones, and so on,
across everything that happens.

An operation answers before its first message is posted, because all requests
it ends have left the queue by then. What is left to do is a stack of tasks:
operations still to begin, messages still to be posted, and operations still
to return. Posting a message may put nested operations on top of the stack, so
their messages go out before the rest of the outer ones.

`Shift.step` does the task on top of the stack, and `drive` goes on until none
is left. Each message that is heard uses up one entry of the script, each
operation that begins is one less to begin, and every other task shrinks the
stack, which is why the run ends.

Nothing here looks into the desk: a shift is the same for whoever carries out
operations, and is written for any `Server`.

## Main definitions

* `Desk`: A queue with shared bindings and a clock.
* `Operation`, `Answer`: What can be asked of a desk, and what it says.
* `Desk.apply`: The answer, the messages to post, and the new desk.
* `Reentry.Server`: Whoever carries out operations, such as a desk.
* `Reentry.Shift`: A server at work for a scripted receiver.
* `Reentry.Shift.step`, `Reentry.drive`: One task; all of them.
* `Reentry.perform`, `Reentry.close`: One outer operation; the end of the desk.
-/

namespace CardHost

/-- A queue with the bindings its requests share and a clock. -/
structure Desk where
  queue : RequestQueue
  bindings : List Binding
  clock : Instant

/-- What can be asked of a desk. -/
inductive Operation where
  | add (request : PendingRequest)
  | cancel (key : RequestKey)
  | cancelService (service : ServiceHandle)
  | cancelAll
  | contains (key : RequestKey)
  | size
  | nextDeadline
  | nextTimeout
  | nextTimeoutAt (now : Instant)
  | expireDue (now : Instant)
  | notifyChange (state : Snapshot) (kind : ChangeKind)
  | bind (slot : Nat) (name : String)
  | rebind (slot : Nat) (name : Option String)
  | advance (duration : Duration)
  | describe
  | nothing
  deriving DecidableEq, Repr

/-- What a desk says. -/
inductive Answer where
  | done
  | flag (value : Bool)
  | count (value : Nat)
  | size (value : Nat)
  | time (value : Option Nat)
  | text (value : String)
  | refused (error : HostError)
  deriving DecidableEq, Repr

namespace Desk

/-- A desk without requests. -/
def start (bindings : List Binding) (clock : Instant) : Desk :=
  { queue := RequestQueue.empty, bindings, clock }

/-- The binding under a number; one that does not exist is unbound. -/
def binding (d : Desk) (slot : Nat) : Binding := d.bindings.getD slot ⟨none⟩

/-- An operation that ended requests, as answer, messages and new desk. -/
def settled (d : Desk) (answer : Answer) (s : Settled) : Answer × List Post × Desk :=
  (answer, s.posts, { d with queue := s.queue })

/-- Carry out an operation up to the point where its messages are posted. -/
def apply (d : Desk) : Operation → Answer × List Post × Desk
  | .add request =>
    match d.queue.add request with
    | .ok (nearest, queue) => (.flag nearest, [], { d with queue })
    | .error e => (.refused e, [], d)
  | .cancel key =>
    let s := d.queue.cancel key
    d.settled (.flag (s.count != 0)) s
  | .cancelService service =>
    let s := d.queue.cancelService service
    d.settled (.count s.count) s
  | .cancelAll =>
    let s := d.queue.cancelAll
    d.settled (.count s.count) s
  | .contains key => (.flag (d.queue.contains key), [], d)
  | .size => (.size d.queue.size, [], d)
  | .nextDeadline => (.time d.queue.nextDeadline, [], d)
  | .nextTimeout => (.time (d.queue.nextTimeout d.clock), [], d)
  | .nextTimeoutAt now => (.time (d.queue.nextTimeout now), [], d)
  | .expireDue now =>
    let s := d.queue.expireDue now
    d.settled (.count s.count) s
  | .notifyChange state kind =>
    let s := d.queue.notifyChange d.binding state kind
    d.settled (.count s.count) s
  | .bind slot name =>
    let (changed, binding) := (d.binding slot).bind name
    (.flag changed, [], { d with bindings := d.bindings.set slot binding })
  | .rebind slot name =>
    (.done, [], { d with bindings := d.bindings.set slot ((d.binding slot).rebind name) })
  | .advance duration => (.done, [], { d with clock := d.clock + duration })
  | .describe => (.text s!"RequestRegistry \x7b len: {d.queue.size}, .. \x7d", [], d)
  | .nothing => (.done, [], d)

end Desk

namespace Reentry

/-- Whoever carries out operations: the answer, the messages to post, and how
    it stands once the operation has been carried out up to its first post. -/
abbrev Server (δ : Type) := δ → Operation → Answer × List Post × δ

/-- What is left to do while messages go out. -/
inductive Task where
  /-- An operation still to begin. -/
  | call (operation : Operation)
  /-- A message still to be posted. -/
  | post (post : Post)
  /-- An operation whose messages are out. -/
  | returned (operation : Operation) (answer : Answer)
  deriving DecidableEq, Repr

/-- Whether a task is an operation still to begin. -/
def Task.isCall : Task → Bool
  | call _ => true
  | post _ | returned _ _ => false

/-- What has happened, as the receiver sees it. -/
inductive Entry where
  | post (post : Post)
  /-- An operation and its answer; without one it was not carried out. -/
  | returned (operation : Operation) (answer : Option Answer)
  deriving DecidableEq, Repr

/-- A server at work for a receiver that follows a script. -/
structure Shift (δ : Type) where
  server : δ
  /-- What the receiver has yet to do: operations for each message to come. -/
  script : List (List Operation)
  /-- What is left to do, the next task first. -/
  tasks : List Task
  /-- What has happened, in order. -/
  log : List Entry

namespace Shift

variable {δ : Type}

/-- A shift that is to carry out some operations, one after another. -/
def start (server : δ) (script : List (List Operation)) (operations : List Operation) : Shift δ :=
  { server, script, tasks := operations.map .call, log := [] }

/-- Do the next task, if there is one. -/
def step (serve : Server δ) (s : Shift δ) : Option (Shift δ) :=
  match s.tasks with
  | [] => none
  | .call operation :: tasks =>
    let (answer, posts, server) := serve s.server operation
    some { s with server, tasks := posts.map .post ++ .returned operation answer :: tasks }
  | .post post :: tasks =>
    let log := s.log ++ [.post post]
    match s.script with
    | [] => some { s with tasks, log }
    | operations :: script =>
      some { s with script, tasks := operations.map .call ++ tasks, log }
  | .returned operation answer :: tasks =>
    some { s with tasks, log := s.log ++ [.returned operation (some answer)] }

/-- How many operations are still to begin. -/
def calls (s : Shift δ) : Nat := s.tasks.countP Task.isCall

/-- Every task brings the end nearer: it uses up an entry of the script, or it
    begins an operation, or it is one task less. -/
theorem step_shrinks (serve : Server δ) (s s' : Shift δ) (h : s.step serve = some s') :
    Prod.Lex (· < ·) (Prod.Lex (· < ·) (· < ·)) (s'.script.length, s'.calls, s'.tasks.length)
      (s.script.length, s.calls, s.tasks.length) := by
  rcases s with ⟨server, script, tasks, log⟩
  rcases tasks with _ | ⟨_ | _ | _, tasks⟩
  · cases h
  · -- The messages of the operation are no calls, and neither is its return.
    have hposts : ∀ posts : List Post, (posts.map Task.post).countP Task.isCall = 0 := fun posts =>
      List.countP_eq_zero.mpr fun t ht => by
        rcases List.mem_map.mp ht with ⟨_, _, rfl⟩
        exact Bool.false_ne_true
    cases h
    refine Prod.Lex.right _ (Prod.Lex.left _ _ ?_)
    simp only [calls, List.countP_append, hposts, List.countP_cons, Task.isCall, if_true,
      Bool.false_eq_true, if_false]
    omega
  · cases script with
    | nil =>
        cases h
        refine Prod.Lex.right _ ?_
        simp only [calls, List.countP_cons, Task.isCall, Bool.false_eq_true, if_false,
          List.length_cons]
        exact Prod.Lex.right _ (by omega)
    | cons operations script =>
        cases h
        exact Prod.Lex.left _ _ (Nat.lt_succ_self _)
  · cases h
    refine Prod.Lex.right _ ?_
    simp only [calls, List.countP_cons, Task.isCall, Bool.false_eq_true, if_false, List.length_cons]
    exact Prod.Lex.right _ (by omega)

end Shift

variable {δ : Type}

/-- Work the stack off. -/
def drive (serve : Server δ) (s : Shift δ) : Shift δ :=
  match _h : s.step serve with
  | none => s
  | some s' => drive serve s'
  termination_by (s.script.length, s.calls, s.tasks.length)
  decreasing_by exact s.step_shrinks serve s' _h

/-- One outer operation: its answer, and the shift after its messages went
    out. -/
def perform (serve : Server δ) (s : Shift δ) (operation : Operation) : Answer × Shift δ :=
  let (answer, posts, server) := serve s.server operation
  (answer, drive serve { s with server, tasks := posts.map .post })

/-- Post to a receiver whose operations are no longer carried out. -/
def postLast : List (List Operation) → List Post → List Entry
  | _, [] => []
  | [], post :: posts => .post post :: postLast [] posts
  | operations :: script, post :: posts =>
    .post post :: (operations.map fun operation => .returned operation none) ++
      postLast script posts

/-- The end of the desk: every request is called off, and the receiver's
    operations find nobody to carry them out. -/
def close (s : Shift Desk) : List Entry := postLast s.script s.server.queue.cancelAll.posts

end Reentry

end CardHost
